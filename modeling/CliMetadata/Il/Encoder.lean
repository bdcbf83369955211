import CliMetadata.Attempt
import CliMetadata.Il.OpcodeTable

namespace CliMetadata

structure Encoder where
  code : Bytes := #[]
  deriving DecidableEq

namespace Encoder

/-- The bytes of an operand behind an opcode that takes a kind of operand. The displacements of a
switch have to be countable in 32 bits. -/
def operandBytes (mnemonic : String) : OperandKind → Operand → Except Error (List UInt8)
  | .none, .none => .ok []
  | .token, .token t => .ok (toLittleEndian 4 t.toNat)
  | .switch, .switch ds =>
    if ds.length < 0x100000000 then
      .ok (toLittleEndian 4 ds.length ++ ds.flatMap fun d ↦ toLittleEndian 4 d.toUInt32.toNat)
    else .error (.invalidArgument .switchTable)
  | .scalar type, .immediate value =>
    if value.type.width = type.width then .ok value.toBytes
    else .error (.invalidArgument (.operand value.detailed mnemonic))
  | _, operand => .error (.invalidArgument (.operand operand.detailed mnemonic))

def instructionBytes (mnemonic : String) (operand : Operand) : Except Error (List UInt8) :=
  match Opcode.lookup mnemonic with
  | none => .error (.invalidArgument (.mnemonic mnemonic))
  | some (page, code, opcode) => do
    let bytes ← operandBytes mnemonic opcode.operand operand
    pure (if page = 0 then code :: bytes else page :: code :: bytes)

/-- Appends an instruction; no operand is the same as the operand of an opcode that takes none. -/
def emit (mnemonic : String) (operand? : Option Operand) : Attempt Encoder Unit := do
  let bytes ← Attempt.ofExcept (instructionBytes mnemonic (operand?.getD .none))
  Attempt.update fun e ↦ ((), { e with code := e.code ++ bytes.toArray })

def size (e : Encoder) : Nat := e.code.size

def isEmpty (e : Encoder) : Bool := e.code.isEmpty

end Encoder

end CliMetadata
