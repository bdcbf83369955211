import CliMetadata.Bytes.Cursor
import CliMetadata.Guid
import CliMetadata.Text.Utf8

namespace CliMetadata

private def startsWithNul (data : Bytes) : Bool := data[0]? == some 0

structure StringHeap where
  data : Bytes

namespace StringHeap

def read (data : Bytes) : Except Error StringHeap :=
  if startsWithNul data then .ok ⟨data⟩ else .error (.malformed (.emptyHeap "#Strings"))

def get (heap : StringHeap) (index : Nat) : Except Error String := do
  if heap.data.size ≤ index then throw .outOfBounds
  let rest := heap.data.toList.drop index
  let text := rest.takeWhile (· != 0)
  if text.length = rest.length then throw (.malformed (.stringAt index))
  match Utf8.decode? text with
  | some s => pure s
  | none => throw (.malformed (.stringAt index))

end StringHeap

structure BlobHeap where
  data : Bytes

namespace BlobHeap

def read (data : Bytes) : Except Error BlobHeap :=
  if startsWithNul data then .ok ⟨data⟩ else .error (.malformed (.emptyHeap "#Blob"))

def empty : BlobHeap := ⟨#[0]⟩

def get (heap : BlobHeap) (index : Nat) : Except Error Bytes := do
  if heap.data.size ≤ index then throw .outOfBounds
  let blob : Reader Bytes := do
    let length ← Reader.compressedNat
    Reader.bytes length
  blob.onBytes (heap.data.after index)

end BlobHeap

structure GuidHeap where
  data : Bytes

namespace GuidHeap

def read (data : Bytes) : Except Error GuidHeap :=
  if data.size < 16 then .error (.malformed .shortGuidHeap) else .ok ⟨data⟩

def get (heap : GuidHeap) (index : Nat) : Except Error Guid := do
  if index < 1 ∨ heap.data.size < index * 16 then throw .outOfBounds
  pure (Guid.ofList (heap.data.extract ((index - 1) * 16) (index * 16)).toList)

end GuidHeap

end CliMetadata
