import CliMetadata.Text.Hex

namespace CliMetadata

/-- A table number in the high byte and a row number in the 24 bits below it. -/
structure Token where
  value : UInt32
  deriving DecidableEq, Inhabited

namespace Token

def ofNat (n : Nat) : Token := ⟨UInt32.ofNat n⟩

/-- The token of a table number and a row; both lose the bits that have no place. -/
def ofParts (table row : Nat) : Token := ofNat (table % 256 * 0x1000000 + row % 0x1000000)

def toNat (t : Token) : Nat := t.value.toNat

def table (t : Token) : Nat := t.toNat / 0x1000000

def row (t : Token) : Nat := t.toNat % 0x1000000

/-- A token without a row refers to nothing. -/
def isNull (t : Token) : Bool := t.row == 0

def text (t : Token) : String := "0x" ++ String.ofList (Hex.fixed 8 t.toNat)

def detailed (t : Token) : String :=
  let parts := String.ofList (Hex.fixed 2 t.table)
  s!"Token({t.text}, table: 0x{parts}, row: {t.row})"

@[simp] theorem ofNat_toNat (t : Token) : ofNat t.toNat = t :=
  congrArg Token.mk (UInt32.ofNat_toNat ..)

theorem toNat_lt (t : Token) : t.toNat < 0x100000000 := t.value.toNat_lt

theorem toNat_ofParts (table row : Nat) :
    (ofParts table row).toNat = table % 256 * 0x1000000 + row % 0x1000000 := by
  unfold ofParts ofNat toNat
  rw [UInt32.toNat_ofNat']
  omega

theorem row_ofParts (table row : Nat) : (ofParts table row).row = row % 0x1000000 := by
  unfold Token.row
  rw [toNat_ofParts]
  omega

theorem table_ofParts (table row : Nat) : (ofParts table row).table = table % 256 := by
  unfold Token.table
  rw [toNat_ofParts]
  omega

theorem ofParts_table_row (t : Token) : ofParts t.table t.row = t := by
  have h := t.toNat_lt
  have key : (ofParts t.table t.row).toNat = t.toNat := by
    rw [toNat_ofParts]
    unfold Token.table Token.row
    omega
  cases t with
  | mk v =>
    cases hp : ofParts (Token.table ⟨v⟩) (Token.row ⟨v⟩) with
    | mk w =>
      rw [hp] at key
      exact congrArg Token.mk (UInt32.toNat_inj.1 key)

end Token

end CliMetadata
