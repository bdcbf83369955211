import CliMetadata.Table.Stream
import Mathlib.Data.List.Forall2

namespace CliMetadata

def CodedIndex.tagWidth : CodedIndex → Nat
  | .hasFieldMarshal | .hasSemantics | .methodDefOrRef | .memberForwarded | .typeOrMethodDef => 1
  | .typeDefOrRef | .hasConstant | .hasDeclSecurity | .implementation | .resolutionScope => 2
  | .memberRefParent | .customAttributeType => 3
  | .hasCustomAttribute => 5

/-- What a row has in a column: a number, or a row of the table with a tag. -/
inductive Cell where
  | number (n : Nat)
  | coded (kind : CodedIndex) (table : Table) (tag row : Nat)

namespace Cell

def written : Cell → Nat
  | .number n => n
  | .coded kind _ tag row => row <<< kind.tagWidth + tag

def value : Cell → Nat
  | .number n => n
  | .coded _ table _ row => (table.token row).toNat

inductive Fits (width : Column → Nat) : Column → Cell → Prop
  | number {column : Column} {n : Nat} : (∀ kind, column ≠ .coded kind) →
      n < 1 <<< (8 * width column) → Fits width column (.number n)
  | coded {kind : CodedIndex} {table : Table} {tag row : Nat} : kind.tables[tag]? = some table →
      row < 0x1000000 → row <<< kind.tagWidth + tag < 1 <<< (8 * width (.coded kind)) →
      Fits width (.coded kind) (.coded kind table tag row)

end Cell

/-- What a table stream is written from. `others` counts the rows of tables by their numbers, where
no table with this number is known. -/
structure TableImage where
  reserved : Nat := 0
  major : UInt8 := 2
  minor : UInt8 := 0
  flags : UInt8 := 0
  padding : UInt8 := 1
  valid : Nat
  sorted : Nat := 0
  extra : Nat := 0
  rows : Table → List (List Cell)
  others : Nat → Nat := fun _ ↦ 0

namespace TableImage

variable (image : TableImage)

def count (number : Nat) : Nat :=
  match Table.ofNumber? number with
  | some table => (image.rows table).length
  | none => image.others number

/-- The bytes a column takes. An index is wide if it has to tell apart more rows than two bytes can,
a coded one if the bits above its tag are too few for some table of its kind. -/
def width : Column → Nat
  | .short => 2
  | .long => 4
  | .string => if image.flags.toNat.testBit 0 then 4 else 2
  | .guid => if image.flags.toNat.testBit 1 then 4 else 2
  | .blob => if image.flags.toNat.testBit 2 then 4 else 2
  | .index table => if (image.rows table).length < 0x10000 then 2 else 4
  | .coded kind =>
    if ∀ table ∈ kind.tables, (image.rows table).length < 1 <<< (16 - kind.tagWidth) then 2 else 4

def cellBytes (columns : List Column) (row : List Cell) : List UInt8 :=
  (List.zipWith (fun column cell ↦ toLittleEndian (image.width column) cell.written)
    columns row).flatten

def tableBytes (table : Table) : List UInt8 :=
  (image.rows table).flatMap (image.cellBytes table.columns)

def countBytes : List UInt8 :=
  ((List.range 64).filter image.valid.testBit).flatMap fun number ↦
    toLittleEndian 4 (image.count number)

def extraBytes : List UInt8 :=
  if image.flags.toNat.testBit 6 then toLittleEndian 4 image.extra else []

def bytes : List UInt8 :=
  toLittleEndian 4 image.reserved ++ ([image.major] ++ ([image.minor] ++ ([image.flags]
    ++ ([image.padding] ++ (toLittleEndian 8 image.valid ++ (toLittleEndian 8 image.sorted
      ++ (image.countBytes ++ (image.extraBytes ++ Table.all.flatMap image.tableBytes))))))))

structure Fits : Prop where
  valid : image.valid < 1 <<< 64
  present (table : Table) : image.rows table ≠ [] → image.valid.testBit table.number = true
  counts (number : Nat) : image.valid.testBit number = true → image.count number < 1 <<< 32
  cells (table : Table) (row : List Cell) : row ∈ image.rows table →
    List.Forall₂ (Cell.Fits image.width) table.columns row

end TableImage

end CliMetadata
