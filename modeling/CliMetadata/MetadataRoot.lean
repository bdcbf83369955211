import CliMetadata.Bytes.Word
import CliMetadata.Text.Utf8

namespace CliMetadata

structure StreamHeader where
  offset : Nat
  size : Nat
  name : String
  deriving DecidableEq

namespace StreamHeader

/-- A header at the start of the data, and how many bytes it takes: the name ends with a NUL within
32 bytes and is padded to a multiple of four. -/
def read (data : Bytes) : Except Error (StreamHeader × Nat) := do
  if data.size < 9 then throw .outOfBounds
  let field := (data.extract 8 40).toList
  let name := field.takeWhile (· != 0)
  if name.length = field.length then throw (.malformed .openStreamName)
  let offset ← data.word 0 4
  let size ← data.word 4 4
  pure (⟨offset, size, Utf8.decodeLossy name⟩, 8 + (name.length + 4) / 4 * 4)

end StreamHeader

structure MetadataRoot where
  major : Nat
  minor : Nat
  version : String
  streams : List StreamHeader

namespace MetadataRoot

def magic : Nat := 0x424A5342

/-- `count` stream headers from `offset` on; each range has to lie inside the block. -/
def readStreams (data : Bytes) : Nat → Nat → Except Error (List StreamHeader)
  | 0, _ => .ok []
  | count + 1, offset => do
    if data.size ≤ offset then throw .outOfBounds
    let (header, length) ← StreamHeader.read (data.after offset)
    let stop := header.offset + header.size
    if 0x100000000 ≤ stop ∨ data.size < stop then
      throw (.malformed (.streamRange header.name header.offset header.size))
    let headers ← readStreams data count (offset + length)
    pure (header :: headers)

def withoutPadding (text : String) : String :=
  String.ofList ((text.toList.reverse.dropWhile (· == '\x00')).reverse)

def read (data : Bytes) : Except Error MetadataRoot := do
  if data.size < 20 then throw .outOfBounds
  let signature ← data.word 0 4
  if signature ≠ magic then throw (.malformed (.rootMagic signature))
  let length ← data.word 12 4
  let stop := length + 16
  if data.size < stop + 4 then throw .outOfBounds
  let version := withoutPadding (Utf8.decodeLossy (data.extract 16 stop).toList)
  let count ← data.word (stop + 2) 2
  if count = 0 then throw (.malformed .noStreams)
  let streams ← readStreams data count (stop + 4)
  let major ← data.word 4 2
  let minor ← data.word 6 2
  pure { major, minor, version, streams }

def stream? (root : MetadataRoot) (name : String) : Option StreamHeader :=
  root.streams.find? (·.name == name)

end MetadataRoot

end CliMetadata
