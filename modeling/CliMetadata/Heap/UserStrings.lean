import CliMetadata.Bytes.Cursor
import CliMetadata.Text.Utf16

namespace CliMetadata

/-- The heap of string literals. An entry is a length, UTF-16 text and one byte that tells whether
the text needs more than plain ASCII. -/
structure UserStrings where
  data : Bytes

namespace UserStrings

def empty : UserStrings := ⟨#[0]⟩

instance : Inhabited UserStrings := ⟨empty⟩

def read (data : Bytes) : Except Error UserStrings :=
  if data[0]? == some 0 then .ok ⟨data⟩ else .error (.malformed (.emptyHeap "#US"))

/-- The UTF-16 units of the bytes; an odd byte at the end is no text. -/
def unitsOf : List UInt8 → List Nat
  | a :: b :: rest => (a.toNat + 256 * b.toNat) :: unitsOf rest
  | _ => []

def get (heap : UserStrings) (index : Nat) : Except Error String := do
  if heap.data.size ≤ index then throw .outOfBounds
  let entry : Reader Bytes := do
    let length ← Reader.compressedNat
    Reader.bytes length
  let bytes ← entry.onBytes (heap.data.after index)
  pure (String.ofList (Utf16.decodeLossy (unitsOf bytes.toList)))

/-- The compressed form of a length, cut to the bits that have a place. -/
def lengthBytes (n : Nat) : List UInt8 :=
  if n < 0x80 then [UInt8.ofNat n]
  else if n < 0x4000 then [0x80 ||| UInt8.ofNat (n / 0x100), UInt8.ofNat n]
  else [0xC0 ||| UInt8.ofNat (n / 0x1000000), UInt8.ofNat (n / 0x10000), UInt8.ofNat (n / 0x100),
    UInt8.ofNat n]

/-- A unit that is more than plain text. -/
def isSpecial (unit : Nat) : Bool :=
  0x7E < unit || (unit < 0x20 && unit != 0x09 && unit != 0x0A && unit != 0x0D)

def entryBytes (text : String) : List UInt8 :=
  let units := Utf16.units text
  lengthBytes (units.length * 2 + 1) ++ units.flatMap (toLittleEndian 2)
    ++ [if units.any isSpecial then 1 else 0]

/-- Appends an entry; its offset is the size the heap had. -/
def push (heap : UserStrings) (text : String) : Nat × UserStrings :=
  (heap.data.size, ⟨heap.data ++ (entryBytes text).toArray⟩)

def size (heap : UserStrings) : Nat := heap.data.size

def isEmpty (heap : UserStrings) : Bool := heap.size ≤ 1

end UserStrings

end CliMetadata
