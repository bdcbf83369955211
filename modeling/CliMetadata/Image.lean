import CliMetadata.Image.Headers
import CliMetadata.Image.RuntimeHeader

namespace CliMetadata

/-- A file with its section table and the directory entry of its runtime header. -/
structure Image where
  data : Bytes
  sections : List Section
  runtime : DataDirectory

namespace Section

def roundUp (n unit : Nat) : Nat := (n + unit - 1) / unit * unit

/-- How much of a section the system loader reads from a file with an alignment. -/
def loadedSize (s : Section) (alignment : Nat) : Nat :=
  let aligned := roundUp (s.rawPointer + s.rawSize) alignment - s.rawPointer / 512 * 512
  let read := min aligned (roundUp s.rawSize 4096)
  if s.virtualSize = 0 then read else min read (roundUp s.virtualSize 4096)

def loadedOffset? (sections : List Section) (alignment address : Nat) : Option Nat :=
  if alignment = 0 ∨ 1 <<< alignment.log2 ≠ alignment then none
  else
    (sections.find? fun s ↦
      s.virtualAddress ≤ address && address < s.virtualAddress + s.loadedSize alignment).map
      fun s ↦ s.rawPointer + (address - s.virtualAddress)

/-- The file offset of an address: the larger of the two sizes of a section counts. -/
def offsetOf : List Section → Nat → Except Error Nat
  | [], address => .error (.malformed (.unmappedAddress address))
  | s :: sections, address =>
    let extent := max s.virtualSize s.rawSize
    if 0x100000000 ≤ s.virtualAddress + extent then
      .error (.malformed (.sectionOverflow s.virtualAddress extent))
    else if s.virtualAddress ≤ address ∧ address < s.virtualAddress + extent then
      .ok (address - s.virtualAddress + s.rawPointer)
    else offsetOf sections address

end Section

namespace Image

open ImageHeaders (field require reject)

/-- The runtime header and the start of the metadata root can be read where the loader looks. -/
def checkRuntime (data : Bytes) (headers : ImageHeaders) (alignment : Nat)
    (runtime : DataDirectory) : Except Error Unit := do
  let locate (address : Nat) : Except Error Nat :=
    match Section.loadedOffset? headers.sections alignment address with
    | some offset => .ok offset
    | none => reject
  let header ← locate runtime.address
  require data header RuntimeHeader.byteSize
  let address ← field data (header + 8) 4
  let size ← field data (header + 12) 4
  let root ← locate address
  require data root 4
  require data root size
  let length ← field data (root + 12) 4
  require data root (16 + length + 4)
  if (Utf8.decode? (data.extract (root + 16) (root + 16 + length)).toList).isNone then reject

def read (data : Bytes) : Except Error Image := do
  if data.size = 0 then throw .empty
  let headers ← ImageHeaders.read data
  match headers.optional? with
  | none => throw (.malformed .noOptionalHeader)
  | some optional =>
    match optional.runtime? with
    | none => throw (.malformed .noRuntimeHeader)
    | some runtime =>
      checkRuntime data headers optional.fileAlignment runtime
      pure { data, sections := headers.sections, runtime }

/-- The file offset of an address of at most 32 bits. -/
def offsetOf (image : Image) (address : Nat) : Except Error Nat :=
  if 0x100000000 ≤ address then .error (.malformed (.addressTooLarge address))
  else Section.offsetOf image.sections address

end Image

end CliMetadata
