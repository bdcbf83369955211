import CliMetadata.Text.Hex

namespace CliMetadata.Numeral

/-- The number a run of decimal digits denotes; no digits denote zero. -/
def decimalValue? (cs : List Char) : Option Nat :=
  cs.foldlM (fun n c ↦ if c.isDigit then some (n * 10 + (c.toNat - 48)) else none) 0

/-- Drops one plus sign in front. -/
def withoutPlus : List Char → List Char
  | '+' :: rest => rest
  | cs => cs

private def bounded (bits : Nat) (value? : List Char → Option Nat) (cs : List Char) : Option Nat :=
  match withoutPlus cs with
  | [] => none
  | digits => (value? digits).filter (· < 1 <<< bits)

private theorem bounded_of_ne_nil {bits : Nat} {value? : List Char → Option Nat} {cs : List Char}
    (hcs : cs ≠ []) (hplus : withoutPlus cs = cs) :
    bounded bits value? cs = (value? cs).filter (· < 1 <<< bits) := by
  rw [bounded, hplus]
  split
  · contradiction
  · rfl

/-- A decimal numeral of at most `bits` bits. -/
def decimal? (bits : Nat) (text : String) : Option Nat :=
  bounded bits decimalValue? text.toList

theorem decimal?_ofList {bits : Nat} {cs : List Char} (hcs : cs ≠ [])
    (hplus : withoutPlus cs = cs) :
    decimal? bits (String.ofList cs) = (decimalValue? cs).filter (· < 1 <<< bits) := by
  rw [decimal?, String.toList_ofList, bounded_of_ne_nil hcs hplus]

/-- A hexadecimal numeral of at most `bits` bits, without a radix mark. -/
def hex? (bits : Nat) (digits : List Char) : Option Nat :=
  bounded bits Hex.value? digits

theorem hex?_of_ne_nil {bits : Nat} {cs : List Char} (hcs : cs ≠ [])
    (hplus : withoutPlus cs = cs) :
    hex? bits cs = (Hex.value? cs).filter (· < 1 <<< bits) :=
  bounded_of_ne_nil hcs hplus

end CliMetadata.Numeral
