import CliMetadata.Il.Encoder
import CliMetadata.Il.Instruction
import CliMetadata.Proofs.Bytes.Reading
import CliMetadata.Proofs.Il.OpcodeTable

namespace CliMetadata

inductive OperandForm : OperandKind → List UInt8 → Operand → Prop
  | none : OperandForm .none [] .none
  | scalar (value : Immediate) : OperandForm (.scalar value.type) value.toBytes (.immediate value)
  | token (t : Token) : OperandForm .token (toLittleEndian 4 t.toNat) (.token t)
  | switch (ds : List Int32) : ds.length < 0x100000000 →
      OperandForm .switch
        (toLittleEndian 4 ds.length ++ ds.flatMap fun d ↦ toLittleEndian 4 d.toUInt32.toNat)
        (.switch ds)

/-- An instruction at a place of code. -/
structure InstructionForm (n : Nat) (bytes : List UInt8) (i : Instruction) : Prop where
  offset_eq : i.offset = n
  size_eq : i.size = bytes.length
  entry : Opcode.IsEntry i.page i.code i.opcode
  operand : ∃ operand, bytes = Opcode.codeBytes i.page i.code ++ operand ∧
    OperandForm i.opcode.operand operand i.operand

namespace Instruction

open Reader Grammar

theorem readCode_accepts : Accepts readCode fun _ bytes found ↦
    found.1 = Opcode.pageMark ∧ bytes = [Opcode.pageMark, found.2] ∨
      found.1 = 0 ∧ found.2 ≠ Opcode.pageMark ∧ bytes = [found.2] := by
  have hbehind (lead : UInt8) : Accepts (if lead = Opcode.pageMark then do
        let code ← Reader.byte
        pure (lead, code)
      else pure (0, lead)) fun _ bytes found ↦
        lead = Opcode.pageMark ∧ bytes = [found.2] ∧ found.1 = lead ∨
          lead ≠ Opcode.pageMark ∧ bytes = [] ∧ found = (0, lead) := by
    by_cases hlead : lead = Opcode.pageMark
    · rw [if_pos hlead]
      refine (byte_accepts.bind fun code ↦ .pure (lead, code)).congr fun _ bytes found ↦ ⟨?_, ?_⟩
      · rintro ⟨_, _, code, rfl, rfl, rfl, rfl⟩
        exact .inl ⟨hlead, rfl, rfl⟩
      · rintro (⟨_, rfl, hfound⟩ | ⟨hne, _⟩)
        · exact ⟨[found.2], [], found.2, rfl, rfl, rfl, Prod.ext hfound rfl⟩
        · exact absurd hlead hne
    · rw [if_neg hlead]
      refine (Accepts.pure (0, lead)).congr fun _ bytes found ↦ ⟨fun h ↦ .inr ⟨hlead, h⟩, ?_⟩
      rintro (⟨heq, _⟩ | ⟨_, h⟩)
      · exact absurd heq hlead
      · exact h
  refine (byte_accepts.bind hbehind).congr fun _ bytes found ↦ ⟨?_, ?_⟩
  · rintro ⟨_, _, lead, rfl, rfl, ⟨rfl, rfl, hmark⟩ | ⟨hlead, rfl, rfl⟩⟩
    · exact .inl ⟨hmark, rfl⟩
    · exact .inr ⟨rfl, hlead, rfl⟩
  · rintro (⟨hmark, rfl⟩ | ⟨hmark, hcode, rfl⟩)
    · exact ⟨[Opcode.pageMark], [found.2], _, rfl, rfl, .inl ⟨rfl, rfl, hmark⟩⟩
    · exact ⟨[found.2], [], _, rfl, rfl, .inr ⟨hcode, rfl, Prod.ext hmark rfl⟩⟩

theorem entryAt_accepts (page code : UInt8) :
    Accepts (match (Opcode.page page)[code.toNat]? with
      | some (some opcode) => pure (page, code, opcode)
      | some none => throw (.malformed (.reservedOpcode page code))
      | none =>
        throw (.malformed (if page = Opcode.pageMark then .pagedOpcode code else .opcode code)))
      fun _ bytes found ↦ bytes = [] ∧ found.1 = page ∧ found.2.1 = code ∧
        (Opcode.page page)[code.toNat]? = some (some found.2.2) := by
  split
  · next opcode hentry =>
    refine (Accepts.pure (page, code, opcode)).congr fun _ bytes found ↦ ⟨?_, ?_⟩
    · rintro ⟨rfl, rfl⟩
      exact ⟨rfl, rfl, rfl, hentry⟩
    · rintro ⟨rfl, rfl, rfl, hfound⟩
      rw [hentry] at hfound
      cases hfound
      exact ⟨rfl, rfl⟩
  · next hentry =>
    refine (Accepts.throw _).congr fun _ bytes found ↦ ⟨False.elim, ?_⟩
    rintro ⟨_, _, _, hfound⟩
    simp [hentry] at hfound
  · next hentry =>
    refine (Accepts.throw _).congr fun _ bytes found ↦ ⟨False.elim, ?_⟩
    rintro ⟨_, _, _, hfound⟩
    simp [hentry] at hfound

theorem readOpcode_accepts : Accepts readOpcode fun _ bytes found ↦
    Opcode.IsEntry found.1 found.2.1 found.2.2 ∧ bytes = Opcode.codeBytes found.1 found.2.1 := by
  refine (readCode_accepts.bind fun found ↦ entryAt_accepts found.1 found.2).congr
    fun _ bytes found ↦ ⟨?_, ?_⟩
  · obtain ⟨page, code, opcode⟩ := found
    rintro ⟨_, _, ⟨_, _⟩, rfl, hcode, rfl, rfl, rfl, hentry⟩
    obtain ⟨hmark, rfl⟩ | ⟨hmark, hne, rfl⟩ := hcode
    · cases hmark
      exact ⟨⟨.inr rfl, fun h ↦ absurd h Opcode.pageMark_ne_zero, hentry⟩, rfl⟩
    · cases hmark
      exact ⟨⟨.inl rfl, fun _ ↦ hne, hentry⟩, rfl⟩
  · rintro ⟨hentry, rfl⟩
    refine ⟨_, [], (found.1, found.2.1), (List.append_nil _).symm, ?_, rfl, rfl, rfl, hentry.entry⟩
    obtain ⟨hmark, hne, hbytes⟩ | ⟨hmark, hbytes⟩ := hentry.codeBytes_eq
    · exact .inr ⟨hmark, hne, hbytes⟩
    · exact .inl ⟨hmark, hbytes⟩

theorem readDisplacement_accepts :
    Accepts (do let word ← Reader.word 4
                pure (Int32.ofNat word))
      fun _ bytes d ↦ bytes = toLittleEndian 4 d.toUInt32.toNat := by
  refine (word_pure_accepts 4 Int32.ofNat).congr fun _ bytes d ↦ ⟨?_, ?_⟩
  · rintro ⟨n, hlt, rfl, rfl⟩
    rw [Int32.toUInt32_ofNat', UInt32.toNat_ofNat_of_lt' hlt]
  · rintro rfl
    refine ⟨d.toUInt32.toNat, d.toUInt32.toNat_lt, rfl, ?_⟩
    rw [← UInt32.toInt32_ofNat', UInt32.ofNat_toNat, Int32.toInt32_toUInt32]

theorem length_displacements (ds : List Int32) :
    (ds.flatMap fun d ↦ toLittleEndian 4 d.toUInt32.toNat).length = ds.length * 4 := by
  induction ds with
  | nil => rfl
  | cons d ds ih =>
    rw [List.flatMap_cons, List.length_append, length_toLittleEndian, ih, List.length_cons]
    omega

theorem readSwitch_accepts : Accepts readSwitch fun _ bytes ds ↦
    ds.length < 0x100000000 ∧ bytes =
      toLittleEndian 4 ds.length ++ ds.flatMap fun d ↦ toLittleEndian 4 d.toUInt32.toNat := by
  have hds (count : Nat) := (times_accepts readDisplacement_accepts count).congr
    (H := fun _ bytes ds ↦ ds.length = count ∧
      bytes = ds.flatMap fun d ↦ toLittleEndian 4 d.toUInt32.toNat)
    fun _ bytes ds ↦ and_congr Iff.rfl (many_written_iff _)
  have hchecked (count : Nat) := checked_accepts (hds count)
    (.malformed (.switchSize count)) (count * 4) (by
      rintro _ _ ds ⟨rfl, rfl⟩
      exact Nat.le_of_eq (length_displacements ds).symm)
  refine ((word_accepts 4).bind hchecked).congr fun _ bytes ds ↦ ⟨?_, ?_⟩
  · rintro ⟨first, second, count, rfl, ⟨hlt, rfl⟩, rfl, rfl⟩
    exact ⟨hlt, rfl⟩
  · rintro ⟨hlt, rfl⟩
    exact ⟨_, _, ds.length, rfl, ⟨hlt, rfl⟩, rfl, rfl⟩

theorem readOperand_accepts (kind : OperandKind) :
    Accepts (readOperand kind) fun _ bytes operand ↦ OperandForm kind bytes operand := by
  cases kind with
  | none =>
    refine (Accepts.pure Operand.none).congr fun _ bytes operand ↦ ⟨?_, ?_⟩
    · rintro ⟨rfl, rfl⟩
      exact .none
    · rintro ⟨⟩
      exact ⟨rfl, rfl⟩
  | scalar type =>
    refine (word_pure_accepts type.width fun n ↦ Operand.immediate (.ofNat type n)).congr
      fun _ bytes operand ↦ ⟨?_, ?_⟩
    · rintro ⟨n, hlt, rfl, rfl⟩
      have hbits : (BitVec.ofNat (8 * type.width) n).toNat = n := by
        rw [Nat.one_shiftLeft] at hlt
        rw [BitVec.toNat_ofNat, Nat.mod_eq_of_lt hlt]
      have hform := OperandForm.scalar (.ofNat type n)
      rwa [Immediate.toBytes, Immediate.ofNat, hbits] at hform
    · rintro ⟨⟩
      rename_i value
      exact ⟨value.bits.toNat, by rw [Nat.one_shiftLeft]; exact value.bits.isLt, rfl, by
        rw [Immediate.ofNat, BitVec.ofNat_toNat, BitVec.setWidth_eq]⟩
  | token =>
    refine (word_pure_accepts 4 fun n ↦ Operand.token (.ofNat n)).congr
      fun _ bytes operand ↦ ⟨?_, ?_⟩
    · rintro ⟨n, hlt, rfl, rfl⟩
      have hform := OperandForm.token (.ofNat n)
      rwa [Token.toNat, Token.ofNat, UInt32.toNat_ofNat_of_lt' hlt] at hform
    · rintro ⟨⟩
      rename_i t
      exact ⟨t.toNat, t.toNat_lt, rfl, by rw [Token.ofNat_toNat]⟩
  | switch =>
    refine (readSwitch_accepts.bind fun ds ↦ .pure (Operand.switch ds)).congr
      fun _ bytes operand ↦ ⟨?_, ?_⟩
    · rintro ⟨_, _, ds, rfl, ⟨hlt, rfl⟩, rfl, rfl⟩
      rw [List.append_nil]
      exact .switch ds hlt
    · rintro (_ | _ | _ | ⟨ds, hlt⟩)
      exact ⟨_, [], ds, (List.append_nil _).symm, ⟨hlt, rfl⟩, rfl, rfl⟩

theorem read_accepts : Accepts read InstructionForm := by
  refine (position_accepts.bind fun offset ↦ readOpcode_accepts.bind fun found ↦
    (readOperand_accepts found.2.2.operand).bind fun operand ↦ position_accepts.bind fun stop ↦
    .pure (⟨offset, stop - offset, found.1, found.2.1, found.2.2, operand⟩ : Instruction)).congr
    fun n bytes i ↦ ⟨?_, ?_⟩
  · rintro ⟨_, _, offset, rfl, ⟨rfl, rfl⟩, _, _, ⟨page, code, opcode⟩, rfl, ⟨hentry, rfl⟩,
      operandBytes, _, operand, rfl, hoperand, _, _, stop, rfl, ⟨rfl, rfl⟩, rfl, rfl⟩
    refine ⟨rfl, ?_, hentry, operandBytes, by simp, hoperand⟩
    simp only [List.nil_append, List.append_nil, List.length_nil, List.length_append]
    omega
  · rintro ⟨hoffset, hsize, hentry, operandBytes, rfl, hoperand⟩
    refine ⟨[], _, n, rfl, ⟨rfl, rfl⟩, _, operandBytes, (i.page, i.code, i.opcode), rfl,
      ⟨hentry, rfl⟩, operandBytes, [], i.operand, (List.append_nil _).symm, hoperand, [], [], _,
      rfl, ⟨rfl, rfl⟩, rfl, ?_⟩
    obtain ⟨offset, size, page, code, opcode, operand⟩ := i
    simp only at hoffset hsize ⊢
    subst hoffset hsize
    simp only [Instruction.mk.injEq, List.length_nil, List.length_append, and_true, true_and]
    omega

theorem form_ne_nil (n : Nat) (bytes : List UInt8) (i : Instruction)
    (h : InstructionForm n bytes i) : bytes ≠ [] := by
  obtain ⟨operandBytes, rfl, _⟩ := h.operand
  obtain ⟨_, _, hbytes⟩ | ⟨_, hbytes⟩ := h.entry.codeBytes_eq <;> simp [hbytes]

/-- Code is decoded as the instructions whose forms it is made of. -/
theorem decode_eq_ok_iff {code : Bytes} {is : List Instruction} :
    decode code = .ok is ↔ Many InstructionForm 0 code.toList is :=
  many_onBytes_eq_ok_iff read_accepts form_ne_nil

end Instruction

end CliMetadata
