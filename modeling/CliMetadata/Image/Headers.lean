import CliMetadata.Bytes.Word
import CliMetadata.Text.Numeral
import CliMetadata.Text.Utf8

namespace CliMetadata

/-- A run of the file that is mapped into memory. -/
structure Section where
  virtualSize : Nat
  virtualAddress : Nat
  rawSize : Nat
  rawPointer : Nat
  deriving DecidableEq

structure DataDirectory where
  address : Nat
  size : Nat
  deriving DecidableEq

structure OptionalHeader where
  fileAlignment : Nat
  /-- The directory entries; an entry of zeros counts as absent. -/
  directories : List (Option DataDirectory)

def OptionalHeader.runtime? (header : OptionalHeader) : Option DataDirectory :=
  (header.directories[14]?).join

structure ImageHeaders where
  optional? : Option OptionalHeader
  sections : List Section

namespace ImageHeaders

/-- A word at an offset, where anything out of reach makes the image invalid. -/
def field (data : Bytes) (offset width : Nat) : Except Error Nat :=
  (data.word offset width).mapError fun _ ↦ .invalidImage

def require (data : Bytes) (offset length : Nat) : Except Error Unit :=
  if offset + length ≤ data.size then .ok () else .error .invalidImage

def reject {α : Type} : Except Error α := .error .invalidImage

/-- The UTF-8 text in a name from a place up to the next NUL. -/
def textIn? (name : Bytes) (start : Nat) : Option String :=
  Utf8.decode? ((name.toList.drop start).takeWhile (· != 0))

def isBase64Digit (c : Char) : Bool := c.isAlphanum || c == '+' || c == '/'

/-- A section name that starts with a slash refers to a table of longer names: by a decimal numeral,
or behind a second slash by a numeral in base 64. What it refers to does not matter. -/
def isSectionName (name : Bytes) : Bool :=
  if name[0]? ≠ some 0x2F then true
  else if name[1]? = some 0x2F then (textIn? name 2).any (·.toList.all isBase64Digit)
  else (textIn? name 1).any fun digits ↦ (Numeral.decimal? 64 digits).isSome

def readSections (data : Bytes) : Nat → Nat → Except Error (List Section)
  | 0, _ => .ok []
  | count + 1, offset => do
    require data offset 40
    if !isSectionName (data.extract offset (offset + 8)) then reject
    let virtualSize ← field data (offset + 8) 4
    let virtualAddress ← field data (offset + 12) 4
    let rawSize ← field data (offset + 16) 4
    let rawPointer ← field data (offset + 20) 4
    let more ← readSections data count (offset + 40)
    pure ({ virtualSize, virtualAddress, rawSize, rawPointer } :: more)

def readDirectories (data : Bytes) : Nat → Nat → Except Error (List (Option DataDirectory))
  | 0, _ => .ok []
  | count + 1, offset => do
    let address ← field data offset 4
    let size ← field data (offset + 4) 4
    let more ← readDirectories data count (offset + 8)
    pure ((if address = 0 ∧ size = 0 then none else some ⟨address, size⟩) :: more)

/-- The optional header in its 32-bit or its 64-bit layout; at most sixteen directories follow. -/
def readOptional (data : Bytes) (offset : Nat) : Except Error OptionalHeader := do
  let magic ← field data offset 2
  let length ← match magic with
    | 0x10B => pure 96
    | 0x20B => pure 112
    | _ => reject
  require data offset length
  let fileAlignment ← field data (offset + 36) 4
  let count ← field data (offset + length - 4) 4
  if 16 < count then reject
  let directories ← readDirectories data count (offset + length)
  pure { fileAlignment, directories }

/-- Where four bytes stand first, each of them changed by the byte of a key at its place. -/
def findWord (word key : List UInt8) : List UInt8 → Nat → Option Nat
  | [], _ => none
  | b :: rest, place =>
    if (b :: rest.take 3).zipWith (· ^^^ ·) key == word then some place
    else findWord word key rest (place + 1)

/-- Linkers may leave a record of their tools in front of the file header: a start mark, fields of
four bytes and an end mark with a key behind it, by which all but the end mark is changed. An end
mark asks for the rest. -/
def checkToolRecord (stub : List UInt8) : Except Error Unit :=
  match findWord [0x52, 0x69, 0x63, 0x68] [0, 0, 0, 0] (stub.take (stub.length - 4)) 0 with
  | none => .ok ()
  | some finish =>
    match findWord [0x44, 0x61, 0x6E, 0x53] ((stub.drop (finish + 4)).take 4) stub 0 with
    | none => reject
    | some start =>
      if start + 4 < finish ∧ (finish - start) % 4 = 0 then .ok () else reject

/-- What stands in front of the file header. -/
def signature : Bytes := #[0x50, 0x45, 0, 0]

def read (data : Bytes) : Except Error ImageHeaders := do
  require data 0 64
  if data[0]? ≠ some 0x4D ∨ data[1]? ≠ some 0x5A then reject
  let start ← field data 0x3C 4
  if start < 0x40 then reject
  if data.extract start (start + 4) ≠ signature then reject
  checkToolRecord (data.extract 64 start).toList
  let file := start + 4
  require data file 20
  let sectionCount ← field data (file + 2) 2
  let optionalSize ← field data (file + 16) 2
  let optional? ←
    if 0 < optionalSize then (readOptional data (file + 20)).map some else pure none
  if data.size / 40 < sectionCount then reject
  let sections ← readSections data sectionCount (file + 20 + optionalSize)
  pure { optional?, sections }

end ImageHeaders

end CliMetadata
