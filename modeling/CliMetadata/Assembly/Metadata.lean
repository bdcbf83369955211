import CliMetadata.Heap
import CliMetadata.Image
import CliMetadata.MetadataRoot
import CliMetadata.Table.Stream

namespace CliMetadata

structure Metadata where
  image : Image
  header : RuntimeHeader
  tables : TableStream
  strings : StringHeap
  blobs : BlobHeap
  guids? : Option GuidHeap
  userStrings? : Option Bytes

structure StreamSet where
  tables? : Option TableStream := none
  strings? : Option StringHeap := none
  blobs? : Option BlobHeap := none
  guids? : Option GuidHeap := none
  userStrings? : Option Bytes := none

namespace StreamSet

/-- Takes in a stream; a later one takes the place of an earlier one of its name, and streams of
other names are passed over. -/
def add (set : StreamSet) (name : String) (data : Bytes) : Except Error StreamSet :=
  match name with
  | "#~" => (TableStream.read data).map fun s ↦ { set with tables? := some s }
  | "#-" => .error (.notSupported .uncompressedTables)
  | "#Strings" => (StringHeap.read data).map fun s ↦ { set with strings? := some s }
  | "#Blob" => (BlobHeap.read data).map fun s ↦ { set with blobs? := some s }
  | "#GUID" => (GuidHeap.read data).map fun s ↦ { set with guids? := some s }
  | "#US" => .ok { set with userStrings? := some data }
  | _ => .ok set

def ofHeaders (block : Bytes) (headers : List StreamHeader) : Except Error StreamSet :=
  headers.foldlM (fun set h ↦ set.add h.name (block.extract h.offset (h.offset + h.size))) {}

end StreamSet

namespace Metadata

def ofImage (image : Image) : Except Error Metadata := do
  let headerOffset ← image.offsetOf image.runtime.address
  let header ← RuntimeHeader.read (← image.data.slice headerOffset RuntimeHeader.byteSize)
  let blockOffset ← image.offsetOf header.metadataAddress
  let block ← image.data.slice blockOffset header.metadataSize
  let root ← MetadataRoot.read block
  let streams ← StreamSet.ofHeaders block root.streams
  match streams.tables?, streams.strings? with
  | none, _ => throw (.malformed .noTableStream)
  | some _, none => throw (.malformed .noStringStream)
  | some tables, some strings =>
    pure
      { image, header, tables, strings, blobs := streams.blobs?.getD .empty
        guids? := streams.guids?, userStrings? := streams.userStrings? }

variable (m : Metadata)

def string (index : Nat) : Except Error String := m.strings.get index

def blob (index : Nat) : Except Error Bytes := m.blobs.get index

/-- The GUID of an index; index zero and a missing heap stand for the GUID of zeros. -/
def guid (index : Nat) : Except Error Guid :=
  match m.guids? with
  | some heap => if index = 0 then .ok .zero else heap.get index
  | none => .ok .zero

end Metadata

end CliMetadata
