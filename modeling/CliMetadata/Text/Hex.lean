namespace CliMetadata.Hex

def digit (n : Nat) : Char :=
  if n < 10 then Char.ofNat (48 + n) else Char.ofNat (87 + n)

def digitValue? (c : Char) : Option Nat :=
  if '0' ≤ c ∧ c ≤ '9' then some (c.toNat - 48)
  else if 'a' ≤ c ∧ c ≤ 'f' then some (c.toNat - 87)
  else if 'A' ≤ c ∧ c ≤ 'F' then some (c.toNat - 55)
  else none

def isDigit (c : Char) : Bool := (digitValue? c).isSome

/-- The last `width` digits of `n`, most significant first. -/
def fixed : Nat → Nat → List Char
  | 0, _ => []
  | width + 1, n => fixed width (n / 16) ++ [digit (n % 16)]

/-- All digits of `n`, with zeros in front where there are fewer than `width`. -/
def padded (width n : Nat) : String :=
  String.ofList ((Nat.toDigits 16 n).leftpad width '0')

def upper (width n : Nat) : String := (padded width n).toUpper

/-- The number a run of digits denotes; no digits denote zero. -/
def value? : List Char → Option Nat
  | cs => cs.foldlM (fun n c ↦ (digitValue? c).map (n * 16 + ·)) 0

def ofBytes (bytes : List UInt8) : String :=
  String.ofList (bytes.flatMap fun b ↦ fixed 2 b.toNat)

/-- Reads digits two by two; `none` for an odd number of digits or a foreign character. -/
def toBytes? : List Char → Option (List UInt8)
  | [] => some []
  | [_] => none
  | a :: b :: rest => do
    let high ← digitValue? a
    let low ← digitValue? b
    let bytes ← toBytes? rest
    pure (UInt8.ofNat (high * 16 + low) :: bytes)

theorem length_fixed (width n : Nat) : (fixed width n).length = width := by
  induction width generalizing n with
  | zero => rfl
  | succ width ih => simp [fixed, ih]

end CliMetadata.Hex
