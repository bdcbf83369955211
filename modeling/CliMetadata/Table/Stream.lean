import CliMetadata.Table.Header

namespace CliMetadata

/-- A table stream whose tables lie inside its data. -/
structure TableStream where
  data : Bytes
  header : TableHeader
  major : Nat
  minor : Nat

/-- The values of a row's columns; coded columns hold tokens. -/
abbrev Row := List Nat

namespace Row

/-- The value of a column; a row has zeros behind its last column. -/
def get (row : Row) (column : Nat) : Nat := row.getD column 0

def token (row : Row) (column : Nat) : Token := Token.ofNat (row.get column)

end Row

namespace TableStream

def read (data : Bytes) : Except Error TableStream := do
  let header ← TableHeader.read data
  if data.size < header.stop then
    throw (.malformed (.tablesRange header.stop data.size))
  let major ← data.word 4 1
  let minor ← data.word 5 1
  pure { data, header, major, minor }

variable (s : TableStream)

def rows (table : Table) : Nat := s.header.rows table

def columnValue (column : Column) (value : Nat) : Except Error Nat :=
  match column with
  | .coded kind => do
    let (table, row) ← kind.decode value
    pure (table.token row).toNat
  | _ => .ok value

def readColumns (offset : Nat) : List Column → Except Error Row
  | [] => .ok []
  | column :: columns => do
    let width := s.header.columnBytes column
    let value ← columnValue column (← s.data.word offset width)
    let values ← readColumns (offset + width) columns
    pure (value :: values)

/-- Where a row starts in the stream; rows are numbered from one. -/
def rowStart (table : Table) (rid : Nat) : Nat :=
  s.header.start table + (rid - 1) * s.header.rowBytes table

def row (table : Table) (rid : Nat) : Except Error Row :=
  if rid = 0 ∨ s.rows table < rid then .error .outOfBounds
  else s.readColumns (s.rowStart table rid) table.columns

/-- Where the run of `target` rows ends that a row starts with its list column: at the start of the
next row's run, and for the last row behind the last target. -/
def listEnd (table : Table) (rid column : Nat) (target : Table) : Except Error Nat :=
  if rid < s.rows table then (s.row table (rid + 1)).map (·.get column)
  else .ok (s.rows target + 1)

end TableStream

end CliMetadata
