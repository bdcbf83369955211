import CliMetadata.Bytes.Word
import CliMetadata.Table.Schema

namespace CliMetadata

/-- `counts` lists the rows of all 64 tables a header can declare, known or not. -/
structure TableHeader where
  counts : List Nat := []
  wideStrings : Bool := false
  wideGuids : Bool := false
  wideBlobs : Bool := false
  length : Nat := 0

/-- How many binary digits a row number of a table with `rows` rows takes, at least one. -/
def rowBits (rows : Nat) : Nat := if rows = 0 then 1 else Nat.log2 rows + 1

namespace TableHeader

/-- Reads a row count from `offset` on for each number in `bits` that is set in `valid`, and yields
the counts with the offset behind the last of them. -/
def readCounts (data : Bytes) (valid : Nat) : List Nat → Nat → Except Error (List Nat × Nat)
  | [], offset => .ok ([], offset)
  | bit :: bits, offset =>
    if valid.testBit bit then do
      let count ← data.word offset 4
      let (counts, stop) ← readCounts data valid bits (offset + 4)
      pure (count :: counts, stop)
    else do
      let (counts, stop) ← readCounts data valid bits offset
      pure (0 :: counts, stop)

/-- The header of a stream. A dword of extra data follows the row counts when its flag is set. -/
def read (data : Bytes) : Except Error TableHeader := do
  if data.size < 24 then throw .outOfBounds
  let flags ← data.word 6 1
  let valid ← data.word 8 8
  let (counts, stop) ← readCounts data valid (List.range 64) 24
  pure
    { counts := counts
      wideStrings := flags.testBit 0
      wideGuids := flags.testBit 1
      wideBlobs := flags.testBit 2
      length := if flags.testBit 6 then stop + 4 else stop }

variable (h : TableHeader)

def rows (table : Table) : Nat := h.counts.getD table.number 0

def stringBytes : Nat := if h.wideStrings then 4 else 2

def guidBytes : Nat := if h.wideGuids then 4 else 2

def blobBytes : Nat := if h.wideBlobs then 4 else 2

/-- The width of a column that refers to a table. -/
def indexBytes (table : Table) : Nat := if 16 < rowBits (h.rows table) then 4 else 2

/-- The width of a column that refers to one of the tables of a kind. -/
def codedBytes (kind : CodedIndex) : Nat :=
  let bits := (kind.tables.map fun table ↦ rowBits (h.rows table)).foldl max 1
  if 16 < bits + kind.tagBits then 4 else 2

def columnBytes : Column → Nat
  | .short => 2
  | .long => 4
  | .string => h.stringBytes
  | .guid => h.guidBytes
  | .blob => h.blobBytes
  | .index table => h.indexBytes table
  | .coded kind => h.codedBytes kind

def rowBytes (table : Table) : Nat := table.columns.foldr (h.columnBytes · + ·) 0

def tableBytes (table : Table) : Nat := h.rows table * h.rowBytes table

def start (table : Table) : Nat :=
  h.length + (Table.all.take table.number).foldr (h.tableBytes · + ·) 0

def stop : Nat := h.length + Table.all.foldr (h.tableBytes · + ·) 0

end TableHeader

/-- The table and the row that a coded value selects. -/
def CodedIndex.decode (kind : CodedIndex) (value : Nat) : Except Error (Table × Nat) :=
  let tag := value % 1 <<< kind.tagBits
  match kind.tables[tag]? with
  | some table => .ok (table, value >>> kind.tagBits)
  | none => .error (.malformed (.codedTag tag kind))

end CliMetadata
