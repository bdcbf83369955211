import CliMetadata.Bytes.Word

namespace CliMetadata

structure RuntimeHeader where
  size : Nat
  major : Nat
  minor : Nat
  metadataAddress : Nat
  metadataSize : Nat
  flags : Nat
  entryPoint : Token

namespace RuntimeHeader

def byteSize : Nat := 72

def read (data : Bytes) : Except Error RuntimeHeader := do
  if data.size < byteSize then throw .outOfBounds
  let size ← data.word 0 4
  if size ≠ byteSize then throw (.malformed (.runtimeHeaderSize size))
  let major ← data.word 4 2
  let minor ← data.word 6 2
  let metadataAddress ← data.word 8 4
  let metadataSize ← data.word 12 4
  if metadataAddress = 0 ∨ metadataSize = 0 then throw (.malformed .noMetadataDirectory)
  let flags ← data.word 16 4
  let entryPoint ← data.word 20 4
  pure
    { size, major, minor, metadataAddress, metadataSize, flags
      entryPoint := Token.ofNat entryPoint }

end RuntimeHeader

end CliMetadata
