namespace CliMetadata.Utf8

/-- The first bytes of a sequence: a character with the bytes behind it, or an ill-formed part with
the bytes behind that part. -/
inductive Piece where
  | char (c : Char) (rest : List UInt8)
  | invalid (rest : List UInt8)

private def isTail (b : UInt8) : Bool := 0x80 ≤ b && b ≤ 0xBF

private def low (b : UInt8) : Nat := b.toNat % 64

def two (a : UInt8) : List UInt8 → Piece
  | b :: rest =>
    if isTail b then .char (Char.ofNat (a.toNat % 32 * 64 + low b)) rest else .invalid (b :: rest)
  | [] => .invalid []

/-- A three-byte sequence after its first byte; its second byte is from `least` to `greatest`. -/
def three (a least greatest : UInt8) : List UInt8 → Piece
  | b :: rest =>
    if least ≤ b && b ≤ greatest then
      match rest with
      | c :: tail =>
        if isTail c then .char (Char.ofNat (a.toNat % 16 * 4096 + low b * 64 + low c)) tail
        else .invalid (c :: tail)
      | [] => .invalid []
    else .invalid (b :: rest)
  | [] => .invalid []

/-- A four-byte sequence after its first byte; its second byte is from `least` to `greatest`. -/
def four (a least greatest : UInt8) : List UInt8 → Piece
  | b :: rest =>
    if least ≤ b && b ≤ greatest then
      match rest with
      | c :: tail =>
        if isTail c then
          match tail with
          | d :: last =>
            if isTail d then
              .char (Char.ofNat (a.toNat % 8 * 262144 + low b * 4096 + low c * 64 + low d)) last
            else .invalid (d :: last)
          | [] => .invalid []
        else .invalid (c :: tail)
      | [] => .invalid []
    else .invalid (b :: rest)
  | [] => .invalid []

def step (a : UInt8) (rest : List UInt8) : Piece :=
  if a < 0x80 then .char (Char.ofNat a.toNat) rest
  else if a < 0xC2 then .invalid rest
  else if a < 0xE0 then two a rest
  else if a = 0xE0 then three a 0xA0 0xBF rest
  else if a = 0xED then three a 0x80 0x9F rest
  else if a < 0xF0 then three a 0x80 0xBF rest
  else if a = 0xF0 then four a 0x90 0xBF rest
  else if a < 0xF4 then four a 0x80 0xBF rest
  else if a = 0xF4 then four a 0x80 0x8F rest
  else .invalid rest

/-- At most `fuel` pieces of the bytes; each piece takes at least one byte. -/
def pieces : Nat → List UInt8 → List (Option Char)
  | 0, _ => []
  | _, [] => []
  | fuel + 1, a :: rest =>
    match step a rest with
    | .char c tail => some c :: pieces fuel tail
    | .invalid tail => none :: pieces fuel tail

def decode? (bytes : List UInt8) : Option String :=
  ((pieces bytes.length bytes).mapM id).map String.ofList

def decodeLossy (bytes : List UInt8) : String :=
  String.ofList ((pieces bytes.length bytes).map (·.getD '\uFFFD'))

end CliMetadata.Utf8
