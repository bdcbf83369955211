import CliMetadata.Proofs.Il.Form
import Mathlib.Data.List.Forall2

namespace CliMetadata

/-- An operand that is read where another was written behind an opcode. An immediate comes back
with the type that the opcode takes and the bytes it was written with. -/
def Operand.ReadBack (kind : OperandKind) : (written read : Operand) → Prop
  | .immediate value, read =>
    ∃ back, read = .immediate back ∧ kind = .scalar back.type ∧ back.toBytes = value.toBytes
  | written, read => read = written

namespace Encoder

open Grammar

variable {mnemonic : String} {operand : Operand} {kind : OperandKind} {bytes : List UInt8}

theorem form_of_operandBytes (h : operandBytes mnemonic kind operand = .ok bytes) :
    ∃ read, OperandForm kind bytes read ∧ operand.ReadBack kind read := by
  unfold operandBytes at h
  split at h
  · cases h
    exact ⟨.none, .none, rfl⟩
  · next t =>
    cases h
    exact ⟨.token t, .token t, rfl⟩
  · next ds =>
    split at h
    · next hlt =>
      cases h
      exact ⟨.switch ds, .switch ds hlt, rfl⟩
    · cases h
  · next type value =>
    split at h
    · next hwidth =>
      cases h
      have hback : (Immediate.ofNat type value.bits.toNat).toBytes = value.toBytes := by
        have hlt : value.bits.toNat < 2 ^ (8 * type.width) := hwidth ▸ value.bits.isLt
        rw [Immediate.toBytes, Immediate.ofNat, BitVec.toNat_ofNat, Nat.mod_eq_of_lt hlt, ← hwidth,
          Immediate.toBytes]
      have hform := OperandForm.scalar (.ofNat type value.bits.toNat)
      rw [hback] at hform
      exact ⟨_, hform, _, rfl, rfl, hback⟩
    · cases h
  · cases h

theorem operandBytes_of_form (mnemonic : String) (h : OperandForm kind bytes operand) :
    operandBytes mnemonic kind operand = .ok bytes := by
  cases h with
  | none => rfl
  | scalar value => simp [operandBytes]
  | token t => rfl
  | switch ds hlt => simp [operandBytes, hlt]

theorem instructionBytes_eq_ok_iff :
    instructionBytes mnemonic operand = .ok bytes ↔
      ∃ mark code opcode given, Opcode.IsEntry mark code opcode ∧ opcode.mnemonic = mnemonic ∧
        operandBytes mnemonic opcode.operand operand = .ok given ∧
        bytes = Opcode.codeBytes mark code ++ given := by
  have hfront (mark code : UInt8) (given : List UInt8) :
      (if mark = 0 then code :: given else mark :: code :: given)
        = Opcode.codeBytes mark code ++ given := by
    rw [Opcode.codeBytes]
    split <;> rfl
  constructor
  · intro h
    rw [instructionBytes] at h
    split at h
    · cases h
    · next mark code opcode hlookup =>
      obtain ⟨hentry, hm⟩ := Opcode.lookup_eq_some_iff.1 hlookup
      obtain ⟨given, hgiven, h⟩ := Attempt.except_bind_eq_ok_iff.1 h
      cases h
      exact ⟨mark, code, opcode, given, hentry, hm, hgiven, hfront mark code given⟩
  · rintro ⟨mark, code, opcode, given, hentry, hm, hgiven, rfl⟩
    rw [instructionBytes, Opcode.lookup_eq_some_iff.2 ⟨hentry, hm⟩]
    simp only [hgiven, ← hfront]
    rfl

/-- Written bytes are an instruction with the mnemonic and the operand they were written from. -/
theorem form_of_instructionBytes (n : Nat) (h : instructionBytes mnemonic operand = .ok bytes) :
    ∃ i, InstructionForm n bytes i ∧ i.mnemonic = mnemonic ∧
      operand.ReadBack i.opcode.operand i.operand := by
  obtain ⟨mark, code, opcode, given, hentry, hm, hgiven, rfl⟩ := instructionBytes_eq_ok_iff.1 h
  obtain ⟨read, hform, hread⟩ := form_of_operandBytes hgiven
  exact ⟨⟨n, (Opcode.codeBytes mark code ++ given).length, mark, code, opcode, read⟩,
    ⟨rfl, rfl, hentry, given, rfl, hform⟩, hm, hread⟩

theorem instructionBytes_of_form {n : Nat} {i : Instruction} (h : InstructionForm n bytes i) :
    instructionBytes i.mnemonic i.operand = .ok bytes := by
  obtain ⟨given, hbytes, hform⟩ := h.operand
  exact instructionBytes_eq_ok_iff.2 ⟨i.page, i.code, i.opcode, given, h.entry, rfl,
    operandBytes_of_form _ hform, hbytes⟩

/-- A call of an encoder with what it was asked to write, its outcome, and the encoder before and
after it. -/
structure Emission where
  mnemonic : String
  operand? : Option Operand
  before : Encoder
  outcome : Except Error Unit
  after : Encoder

namespace Emission

def accepted (x : Emission) : Bool := x.outcome.isOk

/-- An instruction that is read where an accepted call wrote. -/
structure ReadBack (x : Emission) (i : Instruction) : Prop where
  mnemonic_eq : i.mnemonic = x.mnemonic
  offset_eq : i.offset = x.before.size
  appended : ∃ bytes, x.after.code = x.before.code ++ bytes ∧ i.size = bytes.size
  operand : (x.operand?.getD .none).ReadBack i.opcode.operand i.operand

end Emission

def trace (e : Encoder) : List (String × Option Operand) → List Emission
  | [] => []
  | (mnemonic, operand?) :: calls =>
    let (outcome, after) := emit mnemonic operand? e
    ⟨mnemonic, operand?, e, outcome, after⟩ :: trace after calls

def emitAll (e : Encoder) : List (String × Option Operand) → Encoder
  | [] => e
  | (mnemonic, operand?) :: calls => emitAll (emit mnemonic operand? e).2 calls

variable {operand? : Option Operand} {e : Encoder}

theorem emit_of_error {err : Error}
    (h : instructionBytes mnemonic (operand?.getD .none) = .error err) :
    emit mnemonic operand? e = (.error err, e) := by
  rw [emit, h]
  rfl

theorem emit_of_ok (h : instructionBytes mnemonic (operand?.getD .none) = .ok bytes) :
    emit mnemonic operand? e = (.ok (), ⟨e.code ++ bytes.toArray⟩) := by
  rw [emit, h]
  rfl

/-- A rejected call leaves the encoder as it was. -/
theorem emit_rejected (h : (emit mnemonic operand? e).1.isOk = false) :
    (emit mnemonic operand? e).2 = e := by
  cases hbytes : instructionBytes mnemonic (operand?.getD .none) with
  | error err => rw [emit_of_error hbytes]
  | ok bytes =>
    rw [emit_of_ok hbytes] at h
    cases h

theorem trace_rejected {calls : List (String × Option Operand)} {x : Emission}
    (hx : x ∈ trace e calls) (hrejected : x.accepted = false) : x.after = x.before := by
  induction calls generalizing e with
  | nil => cases hx
  | cons call calls ih =>
    obtain rfl | hx := List.mem_cons.1 hx
    · exact emit_rejected hrejected
    · exact ih hx

/-- Calls append instructions, one for each of them that is accepted. -/
theorem emitAll_form (e : Encoder) (calls : List (String × Option Operand)) :
    ∃ bytes is, (emitAll e calls).code = e.code ++ bytes.toArray ∧
      Many InstructionForm e.size bytes is ∧
      List.Forall₂ Emission.ReadBack ((trace e calls).filter Emission.accepted) is := by
  induction calls generalizing e with
  | nil => exact ⟨[], [], by simp [emitAll], .nil _, .nil⟩
  | cons call calls ih =>
    obtain ⟨mnemonic, operand?⟩ := call
    cases hbytes : instructionBytes mnemonic (operand?.getD .none) with
    | error err =>
      have hemit := emit_of_error (e := e) hbytes
      obtain ⟨bytes, is, hcode, hmany, hread⟩ := ih e
      refine ⟨bytes, is, ?_, hmany, ?_⟩
      · rw [emitAll, hemit, hcode]
      · rw [trace, hemit, List.filter_cons_of_neg Bool.false_ne_true]
        exact hread
    | ok first =>
      have hemit := emit_of_ok (e := e) hbytes
      obtain ⟨i, hform, hm, hoperand⟩ := form_of_instructionBytes e.size hbytes
      obtain ⟨others, is, hcode, hmany, hread⟩ := ih ⟨e.code ++ first.toArray⟩
      have hsize : (⟨e.code ++ first.toArray⟩ : Encoder).size = e.size + first.length := by
        simp [size]
      rw [hsize] at hmany
      refine ⟨first ++ others, i :: is, ?_, .cons hform hmany, ?_⟩
      · rw [emitAll, hemit, hcode, Array.append_assoc, List.append_toArray first]
      · rw [trace, hemit, List.filter_cons_of_pos rfl]
        exact .cons ⟨hm, hform.offset_eq, ⟨first.toArray, rfl, hform.size_eq⟩, hoperand⟩ hread

/-- Reading undoes writing. A rejected call changes nothing, and the code is read as one instruction
for each accepted call: with its mnemonic and operand, at the place where it wrote, and as long as
what it wrote. -/
theorem decode_emitAll (calls : List (String × Option Operand)) :
    (∀ x ∈ trace {} calls, x.accepted = false → x.after = x.before) ∧
      ∃ is, Instruction.decode (emitAll {} calls).code = .ok is ∧
        List.Forall₂ Emission.ReadBack ((trace {} calls).filter Emission.accepted) is := by
  obtain ⟨bytes, is, hcode, hmany, hread⟩ := emitAll_form {} calls
  refine ⟨fun x hx hrejected ↦ trace_rejected hx hrejected, is, ?_, hread⟩
  rw [Instruction.decode_eq_ok_iff, hcode]
  have hstart : ({} : Encoder).code ++ bytes.toArray = bytes.toArray := Array.empty_append
  rwa [hstart]

end Encoder

namespace Instruction

open Encoder Grammar

def call (i : Instruction) : String × Option Operand :=
  (i.mnemonic, if i.operand = .none then none else some i.operand)

theorem call_operand (i : Instruction) : i.call.2.getD .none = i.operand := by
  rw [call]
  split
  · next h => exact h.symm
  · rfl

theorem emitAll_of_form {n : Nat} {bytes : List UInt8} {is : List Instruction}
    (h : Many InstructionForm n bytes is) (e : Encoder) :
    (∀ x ∈ trace e (is.map call), x.outcome = .ok ()) ∧
      (emitAll e (is.map call)).code = e.code ++ bytes.toArray := by
  induction h generalizing e with
  | nil n => exact ⟨by simp [trace], by simp [emitAll]⟩
  | @cons n first others i is hfirst _ ih =>
    have hemit : emit i.call.1 i.call.2 e = (.ok (), ⟨e.code ++ first.toArray⟩) :=
      emit_of_ok (by rw [call_operand]; exact instructionBytes_of_form hfirst)
    obtain ⟨hothers, hcode⟩ := ih ⟨e.code ++ first.toArray⟩
    rw [List.map_cons]
    refine ⟨?_, ?_⟩
    · intro x hx
      rw [trace, hemit] at hx
      obtain rfl | hx := List.mem_cons.1 hx
      · rfl
      · exact hothers x hx
    · rw [emitAll, hemit, hcode, Array.append_assoc, List.append_toArray first]

/-- Writing undoes reading. Every decoded instruction is accepted, and together they are written as
the code they were decoded from. -/
theorem emitAll_decode {code : Bytes} {is : List Instruction} (h : decode code = .ok is) :
    (∀ x ∈ trace {} (is.map call), x.outcome = .ok ()) ∧
      (emitAll {} (is.map call)).code = code := by
  obtain ⟨haccepted, hcode⟩ := emitAll_of_form (decode_eq_ok_iff.1 h) {}
  refine ⟨haccepted, hcode.trans ?_⟩
  simp

theorem emitAll_decode_mixed :
    let code : Bytes := #[0x2B, 0xFE, 0x45, 1, 0, 0, 0, 0xF6, 0xFF, 0xFF, 0xFF,
      0xFE, 0x16, 3, 0, 0, 0x1B, 0x22, 0, 0, 0xC0, 0x7F]
    ∃ is, decode code = .ok is ∧ is.map mnemonic = ["br.s", "switch", "constrained.", "ldc.r4"] ∧
      (∀ x ∈ trace {} (is.map call), x.outcome = .ok ()) ∧
      (emitAll {} (is.map call)).code = code := by
  intro code
  have hcode : ∃ is, decode code = .ok is ∧
      is.map mnemonic = ["br.s", "switch", "constrained.", "ldc.r4"] := ⟨_, rfl, rfl⟩
  obtain ⟨is, h, hm⟩ := hcode
  exact ⟨is, h, hm, emitAll_decode h⟩

end Instruction

end CliMetadata
