namespace CliMetadata.Utf16

def unitsOfChar (c : Char) : List Nat :=
  if c.toNat < 0x10000 then [c.toNat]
  else [0xD800 + (c.toNat - 0x10000) / 1024, 0xDC00 + (c.toNat - 0x10000) % 1024]

def units (text : String) : List Nat := text.toList.flatMap unitsOfChar

def isHigh (u : Nat) : Bool := 0xD800 ≤ u && u < 0xDC00

def isLow (u : Nat) : Bool := 0xDC00 ≤ u && u < 0xE000

def decodeLossy : List Nat → List Char
  | [] => []
  | u :: rest =>
    if isHigh u then
      match rest with
      | v :: tail =>
        if isLow v then
          Char.ofNat (0x10000 + (u - 0xD800) * 1024 + (v - 0xDC00)) :: decodeLossy tail
        else '\uFFFD' :: decodeLossy (v :: tail)
      | [] => ['\uFFFD']
    else if isLow u then '\uFFFD' :: decodeLossy rest
    else Char.ofNat u :: decodeLossy rest

end CliMetadata.Utf16
