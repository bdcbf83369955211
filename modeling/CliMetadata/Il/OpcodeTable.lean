import CliMetadata.Il.Opcode

namespace CliMetadata.Opcode

private def op (mnemonic : String) (operand : OperandKind) (flow : Flow) (category : Category) :
    Option Opcode :=
  some { mnemonic, operand, flow, category }

def firstPage : List (Option Opcode) := [
  op "nop" .none .sequential .misc,
  op "break" .none .sequential .misc,
  op "ldarg.0" .none .sequential .loadStore,
  op "ldarg.1" .none .sequential .loadStore,
  op "ldarg.2" .none .sequential .loadStore,
  op "ldarg.3" .none .sequential .loadStore,
  op "ldloc.0" .none .sequential .loadStore,
  op "ldloc.1" .none .sequential .loadStore,
  op "ldloc.2" .none .sequential .loadStore,
  op "ldloc.3" .none .sequential .loadStore,
  op "stloc.0" .none .sequential .loadStore,
  op "stloc.1" .none .sequential .loadStore,
  op "stloc.2" .none .sequential .loadStore,
  op "stloc.3" .none .sequential .loadStore,
  op "ldarg.s" (.scalar .uint8) .sequential .loadStore,
  op "ldarga.s" (.scalar .uint8) .sequential .loadStore,
  op "starg.s" (.scalar .uint8) .sequential .loadStore,
  op "ldloc.s" (.scalar .uint8) .sequential .loadStore,
  op "ldloca.s" (.scalar .uint8) .sequential .loadStore,
  op "stloc.s" (.scalar .uint8) .sequential .loadStore,
  op "ldnull" .none .sequential .loadStore,
  op "ldc.i4.m1" .none .sequential .loadStore,
  op "ldc.i4.0" .none .sequential .loadStore,
  op "ldc.i4.1" .none .sequential .loadStore,
  op "ldc.i4.2" .none .sequential .loadStore,
  op "ldc.i4.3" .none .sequential .loadStore,
  op "ldc.i4.4" .none .sequential .loadStore,
  op "ldc.i4.5" .none .sequential .loadStore,
  op "ldc.i4.6" .none .sequential .loadStore,
  op "ldc.i4.7" .none .sequential .loadStore,
  op "ldc.i4.8" .none .sequential .loadStore,
  op "ldc.i4.s" (.scalar .int8) .sequential .loadStore,
  op "ldc.i4" (.scalar .int32) .sequential .loadStore,
  op "ldc.i8" (.scalar .int64) .sequential .loadStore,
  op "ldc.r4" (.scalar .float32) .sequential .loadStore,
  op "ldc.r8" (.scalar .float64) .sequential .loadStore,
  none,
  op "dup" .none .sequential .misc,
  op "pop" .none .sequential .misc,
  op "jmp" .token .unconditionalBranch .controlFlow,
  op "call" .token .call .controlFlow,
  op "calli" .token .call .controlFlow,
  op "ret" .none .exit .controlFlow,
  op "br.s" (.scalar .int8) .unconditionalBranch .controlFlow,
  op "brfalse.s" (.scalar .int8) .conditionalBranch .controlFlow,
  op "brtrue.s" (.scalar .int8) .conditionalBranch .controlFlow,
  op "beq.s" (.scalar .int8) .conditionalBranch .controlFlow,
  op "bge.s" (.scalar .int8) .conditionalBranch .controlFlow,
  op "bgt.s" (.scalar .int8) .conditionalBranch .controlFlow,
  op "ble.s" (.scalar .int8) .conditionalBranch .controlFlow,
  op "blt.s" (.scalar .int8) .conditionalBranch .controlFlow,
  op "bne.un.s" (.scalar .int8) .conditionalBranch .controlFlow,
  op "bge.un.s" (.scalar .int8) .conditionalBranch .controlFlow,
  op "bgt.un.s" (.scalar .int8) .conditionalBranch .controlFlow,
  op "ble.un.s" (.scalar .int8) .conditionalBranch .controlFlow,
  op "blt.un.s" (.scalar .int8) .conditionalBranch .controlFlow,
  op "br" (.scalar .int32) .unconditionalBranch .controlFlow,
  op "brfalse" (.scalar .int32) .conditionalBranch .controlFlow,
  op "brtrue" (.scalar .int32) .conditionalBranch .controlFlow,
  op "beq" (.scalar .int32) .conditionalBranch .controlFlow,
  op "bge" (.scalar .int32) .conditionalBranch .controlFlow,
  op "bgt" (.scalar .int32) .conditionalBranch .controlFlow,
  op "ble" (.scalar .int32) .conditionalBranch .controlFlow,
  op "blt" (.scalar .int32) .conditionalBranch .controlFlow,
  op "bne.un" (.scalar .int32) .conditionalBranch .controlFlow,
  op "bge.un" (.scalar .int32) .conditionalBranch .controlFlow,
  op "bgt.un" (.scalar .int32) .conditionalBranch .controlFlow,
  op "ble.un" (.scalar .int32) .conditionalBranch .controlFlow,
  op "blt.un" (.scalar .int32) .conditionalBranch .controlFlow,
  op "switch" .switch .switch .controlFlow,
  op "ldind.i1" .none .sequential .loadStore,
  op "ldind.u1" .none .sequential .loadStore,
  op "ldind.i2" .none .sequential .loadStore,
  op "ldind.u2" .none .sequential .loadStore,
  op "ldind.i4" .none .sequential .loadStore,
  op "ldind.u4" .none .sequential .loadStore,
  op "ldind.i8" .none .sequential .loadStore,
  op "ldind.i" .none .sequential .loadStore,
  op "ldind.r4" .none .sequential .loadStore,
  op "ldind.r8" .none .sequential .loadStore,
  op "ldind.ref" .none .sequential .loadStore,
  op "stind.ref" .none .sequential .loadStore,
  op "stind.i1" .none .sequential .loadStore,
  op "stind.i2" .none .sequential .loadStore,
  op "stind.i4" .none .sequential .loadStore,
  op "stind.i8" .none .sequential .loadStore,
  op "stind.r4" .none .sequential .loadStore,
  op "stind.r8" .none .sequential .loadStore,
  op "add" .none .sequential .arithmetic,
  op "sub" .none .sequential .arithmetic,
  op "mul" .none .sequential .arithmetic,
  op "div" .none .sequential .arithmetic,
  op "div.un" .none .sequential .arithmetic,
  op "rem" .none .sequential .arithmetic,
  op "rem.un" .none .sequential .arithmetic,
  op "and" .none .sequential .bitwiseLogical,
  op "or" .none .sequential .bitwiseLogical,
  op "xor" .none .sequential .bitwiseLogical,
  op "shl" .none .sequential .bitwiseLogical,
  op "shr" .none .sequential .bitwiseLogical,
  op "shr.un" .none .sequential .bitwiseLogical,
  op "neg" .none .sequential .arithmetic,
  op "not" .none .sequential .bitwiseLogical,
  op "conv.i1" .none .sequential .conversion,
  op "conv.i2" .none .sequential .conversion,
  op "conv.i4" .none .sequential .conversion,
  op "conv.i8" .none .sequential .conversion,
  op "conv.r4" .none .sequential .conversion,
  op "conv.r8" .none .sequential .conversion,
  op "conv.u4" .none .sequential .conversion,
  op "conv.u8" .none .sequential .conversion,
  op "callvirt" .token .call .controlFlow,
  op "cpobj" .token .sequential .objectModel,
  op "ldobj" .token .sequential .objectModel,
  op "ldstr" .token .sequential .objectModel,
  op "newobj" .token .call .objectModel,
  op "castclass" .token .sequential .objectModel,
  op "isinst" .token .sequential .objectModel,
  op "conv.r.un" .none .sequential .conversion,
  none, none,
  op "unbox" .token .sequential .objectModel,
  op "throw" .none .raise .controlFlow,
  op "ldfld" .token .sequential .objectModel,
  op "ldflda" .token .sequential .objectModel,
  op "stfld" .token .sequential .objectModel,
  op "ldsfld" .token .sequential .objectModel,
  op "ldsflda" .token .sequential .objectModel,
  op "stsfld" .token .sequential .objectModel,
  op "stobj" .token .sequential .objectModel,
  op "conv.ovf.i1.un" .none .sequential .conversion,
  op "conv.ovf.i2.un" .none .sequential .conversion,
  op "conv.ovf.i4.un" .none .sequential .conversion,
  op "conv.ovf.i8.un" .none .sequential .conversion,
  op "conv.ovf.u1.un" .none .sequential .conversion,
  op "conv.ovf.u2.un" .none .sequential .conversion,
  op "conv.ovf.u4.un" .none .sequential .conversion,
  op "conv.ovf.u8.un" .none .sequential .conversion,
  op "conv.ovf.i.un" .none .sequential .conversion,
  op "conv.ovf.u.un" .none .sequential .conversion,
  op "box" .token .sequential .objectModel,
  op "newarr" .token .sequential .objectModel,
  op "ldlen" .none .sequential .objectModel,
  op "ldelema" .token .sequential .objectModel,
  op "ldelem.i1" .none .sequential .objectModel,
  op "ldelem.u1" .none .sequential .objectModel,
  op "ldelem.i2" .none .sequential .objectModel,
  op "ldelem.u2" .none .sequential .objectModel,
  op "ldelem.i4" .none .sequential .objectModel,
  op "ldelem.u4" .none .sequential .objectModel,
  op "ldelem.i8" .none .sequential .objectModel,
  op "ldelem.i" .none .sequential .objectModel,
  op "ldelem.r4" .none .sequential .objectModel,
  op "ldelem.r8" .none .sequential .objectModel,
  op "ldelem.ref" .none .sequential .objectModel,
  op "stelem.i" .none .sequential .objectModel,
  op "stelem.i1" .none .sequential .objectModel,
  op "stelem.i2" .none .sequential .objectModel,
  op "stelem.i4" .none .sequential .objectModel,
  op "stelem.i8" .none .sequential .objectModel,
  op "stelem.r4" .none .sequential .objectModel,
  op "stelem.r8" .none .sequential .objectModel,
  op "stelem.ref" .none .sequential .objectModel,
  op "ldelem" .token .sequential .objectModel,
  op "stelem" .token .sequential .objectModel,
  op "unbox.any" .token .sequential .objectModel,
  none, none, none, none, none, none, none, none, none, none, none, none, none,
  op "conv.ovf.i1" .none .sequential .conversion,
  op "conv.ovf.u1" .none .sequential .conversion,
  op "conv.ovf.i2" .none .sequential .conversion,
  op "conv.ovf.u2" .none .sequential .conversion,
  op "conv.ovf.i4" .none .sequential .conversion,
  op "conv.ovf.u4" .none .sequential .conversion,
  op "conv.ovf.i8" .none .sequential .conversion,
  op "conv.ovf.u8" .none .sequential .conversion,
  none, none, none, none, none, none, none,
  op "refanyval" .token .sequential .objectModel,
  op "ckfinite" .none .sequential .arithmetic,
  none, none,
  op "mkrefany" .token .sequential .objectModel,
  none, none, none, none, none, none, none, none, none,
  op "ldtoken" .token .sequential .objectModel,
  op "conv.u2" .none .sequential .conversion,
  op "conv.u1" .none .sequential .conversion,
  op "conv.i" .none .sequential .conversion,
  op "conv.ovf.i" .none .sequential .conversion,
  op "conv.ovf.u" .none .sequential .conversion,
  op "add.ovf" .none .sequential .arithmetic,
  op "add.ovf.un" .none .sequential .arithmetic,
  op "mul.ovf" .none .sequential .arithmetic,
  op "mul.ovf.un" .none .sequential .arithmetic,
  op "sub.ovf" .none .sequential .arithmetic,
  op "sub.ovf.un" .none .sequential .arithmetic,
  op "endfinally" .none .endFinally .controlFlow,
  op "leave" (.scalar .int32) .leave .controlFlow,
  op "leave.s" (.scalar .int8) .leave .controlFlow,
  op "stind.i" .none .sequential .loadStore,
  op "conv.u" .none .sequential .conversion]

def secondPage : List (Option Opcode) := [
  op "arglist" .none .sequential .misc,
  op "ceq" .none .sequential .comparison,
  op "cgt" .none .sequential .comparison,
  op "cgt.un" .none .sequential .comparison,
  op "clt" .none .sequential .comparison,
  op "clt.un" .none .sequential .comparison,
  op "ldftn" .token .sequential .objectModel,
  op "ldvirtftn" .token .sequential .objectModel,
  none,
  op "ldarg" (.scalar .uint16) .sequential .loadStore,
  op "ldarga" (.scalar .uint16) .sequential .loadStore,
  op "starg" (.scalar .uint16) .sequential .loadStore,
  op "ldloc" (.scalar .uint16) .sequential .loadStore,
  op "ldloca" (.scalar .uint16) .sequential .loadStore,
  op "stloc" (.scalar .uint16) .sequential .loadStore,
  op "localloc" .none .sequential .misc,
  none,
  op "endfilter" .none .endFinally .controlFlow,
  op "unaligned." (.scalar .uint8) .sequential .modifier,
  op "volatile." .none .sequential .modifier,
  op "tail." .none .sequential .modifier,
  op "initobj" .token .sequential .objectModel,
  op "constrained." .token .sequential .modifier,
  op "cpblk" .none .sequential .misc,
  op "initblk" .none .sequential .misc,
  op "no." (.scalar .uint8) .sequential .modifier,
  op "rethrow" .none .raise .controlFlow,
  none,
  op "sizeof" .token .sequential .objectModel,
  op "refanytype" .none .sequential .objectModel,
  op "readonly." .none .sequential .modifier]

/-- The byte in front of the codes of the second page. -/
def pageMark : UInt8 := 0xFE

def page (mark : UInt8) : List (Option Opcode) :=
  if mark = pageMark then secondPage else firstPage

/-- Where a mnemonic stands in a page, counted on from `code`. -/
def position? (mnemonic : String) : List (Option Opcode) → Nat → Option (Nat × Opcode)
  | [], _ => none
  | none :: entries, code => position? mnemonic entries (code + 1)
  | some entry :: entries, code =>
    if entry.mnemonic = mnemonic then some (code, entry)
    else position? mnemonic entries (code + 1)

/-- The page mark, code and entry of a mnemonic; the first page has no mark, which is zero here. -/
def lookup (mnemonic : String) : Option (UInt8 × UInt8 × Opcode) :=
  match position? mnemonic firstPage 0 with
  | some (code, entry) => some (0, UInt8.ofNat code, entry)
  | none =>
    (position? mnemonic secondPage 0).map fun found ↦ (pageMark, UInt8.ofNat found.1, found.2)

end CliMetadata.Opcode
