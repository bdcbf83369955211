import CliMetadata.Bytes.Word
import CliMetadata.Text.Shortest

namespace CliMetadata

inductive Scalar where
  | int8 | uint8 | int16 | uint16 | int32 | uint32 | int64 | uint64 | float32 | float64
  deriving DecidableEq, Inhabited

namespace Scalar

def width : Scalar → Nat
  | .int8 | .uint8 => 1
  | .int16 | .uint16 => 2
  | .int32 | .uint32 | .float32 => 4
  | .int64 | .uint64 | .float64 => 8

def name : Scalar → String
  | .int8 => "Int8"
  | .uint8 => "UInt8"
  | .int16 => "Int16"
  | .uint16 => "UInt16"
  | .int32 => "Int32"
  | .uint32 => "UInt32"
  | .int64 => "Int64"
  | .uint64 => "UInt64"
  | .float32 => "Float32"
  | .float64 => "Float64"

end Scalar

/-- A value of an immediate operand, as the bits it is stored in. -/
structure Immediate where
  type : Scalar
  bits : BitVec (8 * type.width)
  deriving DecidableEq

namespace Immediate

def ofNat (type : Scalar) (n : Nat) : Immediate := ⟨type, BitVec.ofNat _ n⟩

def ofInt (type : Scalar) (n : Int) : Immediate := ⟨type, BitVec.ofInt _ n⟩

def toBytes (i : Immediate) : List UInt8 := toLittleEndian i.type.width i.bits.toNat

/-- The distance the value stands for as a branch operand. -/
def displacement? (i : Immediate) : Option Int :=
  match i.type with
  | .int8 | .int16 | .int32 | .int64 => some i.bits.toInt
  | .uint8 | .uint16 | .uint32 => some i.bits.toNat
  | .uint64 | .float32 | .float64 => none

def text (i : Immediate) : String :=
  match i.type with
  | .int8 | .int16 | .int32 | .int64 => toString i.bits.toInt
  | .uint8 | .uint16 | .uint32 | .uint64 => toString i.bits.toNat
  | .float32 => Shortest.text Shortest.single i.bits.toNat
  | .float64 => Shortest.text Shortest.double i.bits.toNat

def detailed (i : Immediate) : String := i.type.name ++ "(" ++ i.text ++ ")"

end Immediate

inductive Operand where
  | none
  | immediate (value : Immediate)
  | token (token : Token)
  | switch (displacements : List Int32)
  deriving DecidableEq

def Operand.detailed : Operand → String
  | .none => "None"
  | .immediate value => "Immediate(" ++ value.detailed ++ ")"
  | .token t => "Token(" ++ t.detailed ++ ")"
  | .switch ds => "Switch([" ++ String.intercalate ", " (ds.map fun d ↦ toString d.toInt) ++ "])"

inductive OperandKind where
  | none
  | scalar (type : Scalar)
  | token
  | switch
  deriving DecidableEq, Inhabited

def OperandKind.name : OperandKind → String
  | .none => "None"
  | .scalar type => type.name
  | .token => "Token"
  | .switch => "Switch"

inductive Flow where
  | sequential | conditionalBranch | unconditionalBranch | switch | call | exit | raise | leave
  | endFinally
  deriving DecidableEq, Inhabited

def Flow.name : Flow → String
  | .sequential => "Sequential"
  | .conditionalBranch => "ConditionalBranch"
  | .unconditionalBranch => "UnconditionalBranch"
  | .switch => "Switch"
  | .call => "Call"
  | .exit => "Return"
  | .raise => "Throw"
  | .leave => "Leave"
  | .endFinally => "EndFinally"

inductive Category where
  | arithmetic | bitwiseLogical | comparison | controlFlow | conversion | loadStore | objectModel
  | modifier | misc
  deriving DecidableEq, Inhabited

def Category.name : Category → String
  | .arithmetic => "Arithmetic"
  | .bitwiseLogical => "BitwiseLogical"
  | .comparison => "Comparison"
  | .controlFlow => "ControlFlow"
  | .conversion => "Conversion"
  | .loadStore => "LoadStore"
  | .objectModel => "ObjectModel"
  | .modifier => "Prefix"
  | .misc => "Misc"

structure Opcode where
  mnemonic : String
  operand : OperandKind
  flow : Flow
  category : Category
  deriving DecidableEq

end CliMetadata
