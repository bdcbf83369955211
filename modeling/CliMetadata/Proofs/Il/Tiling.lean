import CliMetadata.Proofs.Il.Form

namespace CliMetadata

def Flow.leads : Flow → Bool
  | .conditionalBranch | .unconditionalBranch | .leave | .switch => true
  | .sequential | .call | .exit | .raise | .endFinally => false

def Operand.displacements : Operand → List Int
  | .immediate value => [value.bits.toInt]
  | .switch ds => ds.map Int32.toInt
  | .none | .token _ => []

theorem Immediate.displacement?_of_signed {value : Immediate}
    (h : value.type = .int8 ∨ value.type = .int32) :
    value.displacement? = some value.bits.toInt := by
  obtain ⟨type, bits⟩ := value
  obtain rfl | rfl := h <;> rfl

namespace Opcode

/-- An opcode that leads somewhere takes signed distances, or a token. -/
def LeadsByDistance (opcode : Opcode) : Prop :=
  opcode.flow = .switch ∧ opcode.operand = .switch ∨
    opcode.flow ≠ .switch ∧ opcode.operand ∈ [.scalar .int8, .scalar .int32, .token]

instance (opcode : Opcode) : Decidable opcode.LeadsByDistance :=
  inferInstanceAs (Decidable (_ ∨ _))

set_option maxRecDepth 4000 in
theorem IsEntry.leadsByDistance {mark code : UInt8} {opcode : Opcode}
    (h : IsEntry mark code opcode) (hleads : opcode.flow.leads = true) :
    opcode.LeadsByDistance := by
  have hall : ∀ x ∈ (firstPage ++ secondPage).filterMap id,
      x.flow.leads = true → x.LeadsByDistance := by
    decide +kernel
  refine hall opcode (List.mem_filterMap.2 ⟨some opcode, ?_, rfl⟩) hleads
  have hmem := List.mem_of_getElem? h.entry
  obtain rfl | rfl := h.mark_eq
  · exact List.mem_append_left _ hmem
  · exact List.mem_append_right _ hmem

end Opcode

namespace Instruction

/-- Instructions that follow one another from an offset to another, without gap or overlap. -/
inductive Tiles : Nat → Nat → List Instruction → Prop
  | nil (n : Nat) : Tiles n n []
  | cons {i : Instruction} {stop : Nat} {is : List Instruction} :
      0 < i.size → Tiles i.next stop is → Tiles i.offset stop (i :: is)

def shifted (distance : Nat) (i : Instruction) : Instruction :=
  { i with offset := i.offset + distance }

open Grammar

section Targets

variable {n : Nat} {bytes : List UInt8} {i : Instruction}

theorem cast_filterMap_target? (i : Instruction) (ds : List Int) :
    (ds.filterMap i.target?).map Int.ofNat = (ds.map ((i.next : Int) + ·)).filter fun target ↦
      0 ≤ target ∧ target < 0x100000000 := by
  induction ds with
  | nil => rfl
  | cons d ds ih =>
    rw [List.filterMap_cons, List.map_cons, List.filter_cons, ← ih, target?]
    by_cases hin : 0 ≤ (i.next : Int) + d ∧ (i.next : Int) + d < 0x100000000
    · simp [hin, Int.toNat_of_nonneg hin.1]
    · simp [hin]

/-- An instruction that leads somewhere leads by the distances in its operand. -/
theorem targets_eq (h : InstructionForm n bytes i) (hleads : i.opcode.flow.leads = true) :
    i.targets = i.operand.displacements.filterMap i.target? := by
  obtain ⟨_, _, hform⟩ := h.operand
  have hkind := h.entry.leadsByDistance hleads
  rw [Opcode.LeadsByDistance] at hkind
  rw [targets]
  generalize i.opcode.operand = kind, i.operand = operand at hform hkind ⊢
  cases hform with
  | none => simp at hkind
  | scalar value =>
    have hdistance : value.displacement? = some value.bits.toInt := by
      obtain ⟨_, hswitch⟩ | ⟨_, htype⟩ := hkind
      · cases hswitch
      · exact Immediate.displacement?_of_signed (by simpa using htype)
    have htargets : [value.bits.toInt].filterMap i.target? =
        (value.displacement?.bind i.target?).toList := by
      rw [hdistance, Option.bind_some]
      cases h : i.target? value.bits.toInt <;> simp [h]
    rw [Operand.displacements, htargets]
    cases hflow : i.opcode.flow with
    | conditionalBranch | unconditionalBranch | leave => rfl
    | switch => simp [hflow] at hkind
    | sequential | call | exit | raise | endFinally =>
      rw [hflow] at hleads
      cases hleads
  | token t => cases i.opcode.flow <;> rfl
  | switch ds =>
    obtain ⟨hflow, _⟩ | ⟨_, hlisted⟩ := hkind
    · rw [hflow, Operand.displacements, List.filterMap_map]
      rfl
    · simp at hlisted

end Targets

section Placed

variable {n : Nat} {bytes : List UInt8} {is js : List Instruction} {i : Instruction}

theorem form_shifted (distance : Nat) (h : InstructionForm n bytes i) :
    InstructionForm (n + distance) bytes (i.shifted distance) :=
  ⟨congrArg (· + distance) h.offset_eq, h.size_eq, h.entry, h.operand⟩

theorem exists_form_of_form_add {distance : Nat} (h : InstructionForm (n + distance) bytes i) :
    ∃ j, InstructionForm n bytes j ∧ i = j.shifted distance := by
  refine ⟨{ i with offset := n }, ⟨rfl, h.size_eq, h.entry, h.operand⟩, ?_⟩
  rw [shifted, ← h.offset_eq]

theorem many_form_add_iff (distance : Nat) :
    Many InstructionForm (n + distance) bytes js ↔
      ∃ is, Many InstructionForm n bytes is ∧ js = is.map (shifted distance) := by
  constructor
  · intro h
    generalize hplace : n + distance = place at h
    induction h generalizing n with
    | nil place => exact ⟨[], .nil n, rfl⟩
    | @cons place first others j js hfirst _ ih =>
      subst hplace
      obtain ⟨i, hi, rfl⟩ := exists_form_of_form_add hfirst
      obtain ⟨is, his, rfl⟩ := ih (Nat.add_right_comm n first.length distance)
      exact ⟨i :: is, .cons hi his, rfl⟩
  · rintro ⟨is, h, rfl⟩
    induction h with
    | nil n => exact .nil _
    | cons hfirst _ ih =>
      rw [Nat.add_right_comm] at ih
      exact .cons (form_shifted distance hfirst) ih

/-- The bytes of instructions are covered by them. -/
theorem tiles_of_form (h : Many InstructionForm n bytes is) : Tiles n (n + bytes.length) is := by
  induction h with
  | nil n => exact .nil n
  | @cons n first others i is hfirst _ ih =>
    have hsize : 0 < i.size := by
      rw [hfirst.size_eq]
      exact List.length_pos_iff.2 (form_ne_nil _ _ _ hfirst)
    obtain rfl := hfirst.offset_eq
    rw [← hfirst.size_eq, ← Instruction.next] at ih
    rw [List.length_append, ← hfirst.size_eq, ← Nat.add_assoc]
    exact .cons hsize ih

theorem form_of_mem (h : Many InstructionForm n bytes is) (hi : i ∈ is) :
    ∃ place taken, InstructionForm place taken i := by
  induction h with
  | nil n => cases hi
  | cons hfirst _ ih =>
    obtain rfl | hi := List.mem_cons.1 hi
    · exact ⟨_, _, hfirst⟩
    · exact ih hi

end Placed

/-- Decoded code is covered by its instructions, one behind the other. Those that lead somewhere
lead to the sums of the next offset and the distances in the operand that 32 bits hold. Code behind
it is decoded if it is decoded alone, as the same instructions further on. -/
theorem decode_tiles {code : Bytes} {is : List Instruction} (h : decode code = .ok is) :
    Tiles 0 code.size is ∧
      (∀ i ∈ is, i.opcode.flow.leads = true → i.targets.map Int.ofNat =
        (i.operand.displacements.map ((i.next : Int) + ·)).filter fun target ↦
          0 ≤ target ∧ target < 0x100000000) ∧
      ∀ (rest : Bytes) (js : List Instruction), decode (code ++ rest) = .ok js ↔
        ∃ ks, decode rest = .ok ks ∧ js = is ++ ks.map (shifted code.size) := by
  have hform := decode_eq_ok_iff.1 h
  refine ⟨?_, fun i hi hleads ↦ ?_, fun rest js ↦ ?_⟩
  · have htiles := tiles_of_form hform
    rwa [Nat.zero_add, Array.length_toList] at htiles
  · obtain ⟨_, _, hi⟩ := form_of_mem hform hi
    rw [targets_eq hi hleads, cast_filterMap_target?]
  · rw [decode_eq_ok_iff, Array.toList_append,
      hform.append_iff read_accepts.unambiguous form_ne_nil, Array.length_toList]
    constructor
    · rintro ⟨ls, hls, rfl⟩
      obtain ⟨ks, hks, rfl⟩ := (many_form_add_iff code.size).1 hls
      exact ⟨ks, decode_eq_ok_iff.2 hks, rfl⟩
    · rintro ⟨ks, hks, rfl⟩
      exact ⟨_, (many_form_add_iff code.size).2 ⟨ks, decode_eq_ok_iff.1 hks, rfl⟩, rfl⟩

theorem decode_tiles_leadingBack :
    let code : Bytes :=
      #[0x2B, 0xFE, 0x45, 2, 0, 0, 0, 0xF1, 0xFF, 0xFF, 0xFF, 0xF0, 0xFF, 0xFF, 0xFF]
    ∃ is, decode code = .ok is ∧ is.map targets = [[0], [0]] ∧ Tiles 0 15 is ∧
      decode (code ++ code) = .ok (is ++ is.map (shifted 15)) := by
  intro code
  obtain ⟨is, h, htargets⟩ : ∃ is, decode code = .ok is ∧ is.map targets = [[0], [0]] :=
    ⟨_, rfl, by decide +kernel⟩
  obtain ⟨htiles, _, hbehind⟩ := decode_tiles h
  exact ⟨is, h, htargets, htiles, (hbehind code _).2 ⟨is, h, rfl⟩⟩

end Instruction

end CliMetadata
