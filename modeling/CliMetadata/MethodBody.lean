import CliMetadata.Bytes.Word

namespace CliMetadata

structure MethodBody where
  codeSize : Nat
  headerSize : Nat
  locals : Nat
  maxStack : Nat
  isFat : Bool
  initLocals : Bool
  hasSections : Bool
  deriving DecidableEq

namespace MethodBody

/-- The one-byte header: the size of the code stands above its two format bits. -/
def readTiny (lead : Nat) (data : Bytes) : Except Error MethodBody := do
  let codeSize := lead / 4
  if data.size < codeSize + 1 then throw .outOfBounds
  pure
    { codeSize, headerSize := 1, locals := 0, maxStack := 8, isFat := false
      initLocals := false, hasSections := false }

/-- The header of twelve bytes or more: its size in dwords stands in the high four bits of the first
word. -/
def readFat (data : Bytes) : Except Error MethodBody := do
  if data.size < 12 then throw .outOfBounds
  let flags ← data.word 0 2
  let headerSize := flags / 0x1000 * 4
  if headerSize < 12 then throw (.malformed (.shortFatHeader headerSize))
  let codeSize ← data.word 4 4
  if data.size < codeSize + headerSize then throw .outOfBounds
  let locals ← data.word 8 4
  let maxStack ← data.word 2 2
  pure
    { codeSize, headerSize, locals, maxStack, isFat := true
      initLocals := flags.testBit 4, hasSections := flags.testBit 3 }

def read (data : Bytes) : Except Error MethodBody :=
  match data[0]? with
  | none => .error (.malformed .emptyBody)
  | some lead =>
    match lead.toNat % 4 with
    | 2 => readTiny lead.toNat data
    | 3 => readFat data
    | _ => .error (.malformed (.unknownBodyFormat lead))

def size (body : MethodBody) : Nat := body.codeSize + body.headerSize

def code (body : MethodBody) (data : Bytes) : Except Error Bytes :=
  data.slice body.headerSize body.codeSize

end MethodBody

end CliMetadata
