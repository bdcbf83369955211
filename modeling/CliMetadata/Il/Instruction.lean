import CliMetadata.Bytes.Cursor
import CliMetadata.Il.OpcodeTable

namespace CliMetadata

structure Instruction where
  offset : Nat
  size : Nat
  page : UInt8
  code : UInt8
  opcode : Opcode
  operand : Operand
  deriving DecidableEq

namespace Instruction

def mnemonic (i : Instruction) : String := i.opcode.mnemonic

def token? (i : Instruction) : Option Token :=
  match i.operand with
  | .token t => some t
  | _ => none

def next (i : Instruction) : Nat := i.offset + i.size

/-- The offset a displacement leads to, if it is a 32-bit offset. -/
def target? (i : Instruction) (displacement : Int) : Option Nat :=
  let target := (i.next : Int) + displacement
  if 0 ≤ target ∧ target < 0x100000000 then some target.toNat else none

/-- The offsets a branch can lead to, in the order of its operand. -/
def targets (i : Instruction) : List Nat :=
  match i.opcode.flow, i.operand with
  | .conditionalBranch, .immediate value
  | .unconditionalBranch, .immediate value
  | .leave, .immediate value => (value.displacement?.bind i.target?).toList
  | .switch, .switch ds => ds.filterMap fun d ↦ i.target? d.toInt
  | _, _ => []

/-- The mark of a page and the code in it; a code of the first page has no mark in front. -/
def readCode : Reader (UInt8 × UInt8) := do
  let lead ← Reader.byte
  if lead = Opcode.pageMark then do
    let code ← Reader.byte
    pure (lead, code)
  else pure (0, lead)

def readOpcode : Reader (UInt8 × UInt8 × Opcode) := do
  let (page, code) ← readCode
  match (Opcode.page page)[code.toNat]? with
  | some (some opcode) => pure (page, code, opcode)
  | some none => throw (.malformed (.reservedOpcode page code))
  | none =>
    throw (.malformed (if page = Opcode.pageMark then .pagedOpcode code else .opcode code))

/-- The displacements of a switch. The code has to have room for all of them. -/
def readSwitch : Reader (List Int32) := do
  let count ← Reader.word 4
  if (← Reader.remaining) < count * 4 then throw (.malformed (.switchSize count))
  Attempt.times count do
    let word ← Reader.word 4
    pure (Int32.ofNat word)

def readOperand : OperandKind → Reader Operand
  | .none => pure .none
  | .scalar type => do
    let word ← Reader.word type.width
    pure (.immediate (Immediate.ofNat type word))
  | .token => do
    let word ← Reader.word 4
    pure (.token (Token.ofNat word))
  | .switch => do
    let displacements ← readSwitch
    pure (.switch displacements)

def read : Reader Instruction := do
  let offset ← Reader.position
  let (page, code, opcode) ← readOpcode
  let operand ← readOperand opcode.operand
  let stop ← Reader.position
  pure { offset, size := stop - offset, page, code, opcode, operand }

/-- The instructions from the cursor to the end of the code. -/
def readAll : Reader (List Instruction) := Reader.many read

def decode (code : Bytes) : Except Error (List Instruction) := readAll.onBytes code

end Instruction

end CliMetadata
