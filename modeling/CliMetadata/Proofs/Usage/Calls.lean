import CliMetadata.Proofs.Il.Form
import CliMetadata.Proofs.Usage.Roles

namespace CliMetadata

theorem Instruction.pairwise_offset {n : Nat} {bytes : List UInt8} {is : List Instruction}
    (h : Grammar.Many InstructionForm n bytes is) :
    is.Pairwise (·.offset < ·.offset) ∧ ∀ i ∈ is, n ≤ i.offset := by
  induction h with
  | nil n => exact ⟨.nil, fun _ h ↦ by cases h⟩
  | @cons n first others i is hfirst _ ih =>
    obtain ⟨hpairwise, hbehind⟩ := ih
    have hpos := List.length_pos_iff.2 (Instruction.form_ne_nil n first i hfirst)
    have hoffset := hfirst.offset_eq
    refine ⟨List.pairwise_cons.2 ⟨fun j hj ↦ ?_, hpairwise⟩, fun j hj ↦ ?_⟩
    · have hle := hbehind j hj
      omega
    · obtain rfl | hj := List.mem_cons.1 hj
      · omega
      · have hle := hbehind j hj
        omega

theorem MethodDef.pairwise_offset (m : MethodDef) :
    m.instructions.Pairwise (·.offset < ·.offset) := by
  rw [instructions]
  cases his : m.instructions? with
  | none => exact .nil
  | some is =>
    obtain ⟨code, _, hdecode⟩ := Option.bind_eq_some_iff.1 his
    cases hcode : Instruction.decode code with
    | error e =>
      rw [hcode] at hdecode
      cases hdecode
    | ok others =>
      rw [hcode] at hdecode
      cases hdecode
      exact (Instruction.pairwise_offset (Instruction.decode_eq_ok_iff.1 hcode)).1

theorem MethodDef.eq_of_offset_eq {m : MethodDef} {i j : Instruction} (hi : i ∈ m.instructions)
    (hj : j ∈ m.instructions) (h : i.offset = j.offset) : i = j := by
  refine List.inj_on_of_nodup_map (f := Instruction.offset) ?_ hi hj h
  exact List.pairwise_map.2 (m.pairwise_offset.imp Nat.ne_of_lt)

namespace Usage

def leadsTo (a : Assembly) (definition : Token) (i : Instruction) : Bool :=
  i.token?.bind a.resolve? == some definition

/-- The first instruction of a method that leads to a definition and is of a kind, where mnemonics
tell the kinds. -/
def firstUse? (a : Assembly) (kindOf : String → Option UsageKind) (m : MethodDef)
    (definition : Token) (kind : UsageKind) : Option Instruction :=
  m.instructions.find? fun i ↦ leadsTo a definition i && kindOf i.mnemonic == some kind

/-- What the callers of a method take an instruction for that leads to it. -/
def mentionOf? (mnemonic : String) : Option UsageKind := useIn? mnemonic .method

variable {a : Assembly} {m n : MethodDef} {kind : UsageKind} {offset : Nat}

theorem exists_first_iff {α κ : Type} [DecidableEq κ] {key : α → κ} {k : κ}
    {f : Instruction → Option α} {offsetOf : α → Nat} {p : Instruction → Bool}
    {is : List Instruction} (hoffset : ∀ i x, f i = some x → offsetOf x = i.offset)
    (hp : ∀ i, p i = true ↔ ∃ x, f i = some x ∧ key x = k) :
    (∃ x ∈ firstPerKey key (is.filterMap f), key x = k ∧ offsetOf x = offset) ↔
      ∃ i, is.find? p = some i ∧ i.offset = offset := by
  have hany : (fun i ↦ (f i).any (key · == k)) = p := by
    funext i
    rw [Bool.eq_iff_iff, hp, Option.any_eq_true]
    simp only [beq_iff_eq]
  rw [exists_firstPerKey_iff, hany]
  refine exists_congr fun i ↦ and_congr_right fun hi ↦ ?_
  constructor
  · rintro ⟨x, hx, rfl⟩
    exact (hoffset i x hx).symm
  · rintro rfl
    obtain ⟨x, hx, _⟩ := (hp i).1 (List.find?_some hi)
    exact ⟨x, hx, hoffset i x hx⟩

theorem leadsTo_eq_true_iff {definition : Token} {i : Instruction} :
    leadsTo a definition i = true ↔
      ∃ token, i.token? = some token ∧ a.resolve? token = some definition := by
  rw [leadsTo, beq_iff_eq, Option.bind_eq_some_iff]

/-- The call that an instruction makes. -/
theorem call?_eq_some_iff {i : Instruction} {c : Call} : call? a i = some c ↔
    callOf? i.mnemonic = some c.kind ∧ i.token? = some c.token ∧
      ¬c.token.isIn .standAloneSig = true ∧ c.callee = (a.resolve? c.token).getD c.token ∧
      c.instruction = i := by
  constructor
  · intro h
    obtain ⟨kind, hkind, h⟩ := Option.bind_eq_some_iff.1 h
    obtain ⟨token, htoken, h⟩ := Option.bind_eq_some_iff.1 h
    split at h
    · cases h
    · next hin =>
      cases h
      exact ⟨hkind, htoken, hin, rfl, rfl⟩
  · obtain ⟨kind, callee, instruction, token⟩ := c
    dsimp only
    rintro ⟨hkind, htoken, hin, rfl, rfl⟩
    simp only [call?, hkind, htoken, Option.bind_eq_bind, Option.bind_some, if_neg hin]
    rfl

section CalleeEdge

variable (a : Assembly) (m : MethodDef) (c : Call)

theorem target_calleeEdge : (calleeEdge a m c).target
    = ((a.resolve? c.token).bind (Symbol.ofToken? a)).map (·.id a.mvid) := by
  rw [calleeEdge]
  split
  · next s hs => rw [hs]; rfl
  · next hs => rw [hs]; rfl

theorem kind_calleeEdge : (calleeEdge a m c).kind = c.kind := by
  rw [calleeEdge]
  split <;> rfl

theorem offset_calleeEdge : (calleeEdge a m c).offset = c.instruction.offset := by
  rw [calleeEdge]
  split <;> rfl

end CalleeEdge

section Ends

variable (hrows : a.RowsNumbered) (hn : a.method? n.token = some n)

include hrows hn

theorem use?_method (i : Instruction) : use? (rolesOf a (.method n)) i
    = if leadsTo a n.token i then mentionOf? i.mnemonic else none := by
  have hown : ∀ entry ∈ ownRoles a (.method n), a.contains entry.1 = true := by
    intro entry hentry
    rw [List.mem_singleton.1 hentry]
    exact Assembly.contains_of_method? hn
  have hrole (d : Token) : (ownRoles a (.method n)).reverse.lookup d
      = if d = n.token then some .method else none := by
    rw [ownRoles, List.reverse_singleton, List.lookup_cons, List.lookup_nil]
    by_cases heq : d = n.token
    · rw [heq, beq_self_eq_true, if_pos rfl]
    · rw [beq_false_of_ne heq, if_neg heq]
  rw [use?, leadsTo]
  cases i.token? with
  | none => rfl
  | some token =>
    have hlookup := lookup_rolesOf hrows hown token
    cases hd : a.resolve? token with
    | none => simp [hlookup, hd]
    | some d => by_cases heq : d = n.token <;> simp [hlookup, hd, hrole, heq, mentionOf?]

/-- A method is among the callers with the first instruction of a kind that leads to the callee. -/
theorem exists_caller_iff :
    (∃ e ∈ edgesIn a (.method n) (rolesOf a (.method n)) isCall m, e.kind = kind ∧
        e.offset = offset) ↔
      ∃ i, firstUse? a mentionOf? m n.token kind = some i ∧ i.offset = offset := by
  refine exists_first_iff (fun i e he ↦ ?_) fun i ↦ ?_
  · obtain ⟨_, _, rfl⟩ := Option.map_eq_some_iff.1 he
    rfl
  · have hcall (k : UsageKind) (hk : mentionOf? i.mnemonic = some k) : isCall k = true := by
      rw [mentionOf?, useIn?] at hk
      split at hk <;> cases hk <;> rfl
    rw [Bool.and_eq_true, beq_iff_eq, use?_method hrows hn]
    constructor
    · rintro ⟨hleads, hkind⟩
      exact ⟨_, by rw [if_pos hleads, hkind, Option.filter_some, if_pos (hcall kind hkind)]; rfl,
        rfl⟩
    · rintro ⟨e, he, rfl⟩
      obtain ⟨k, hk, rfl⟩ := Option.map_eq_some_iff.1 he
      obtain ⟨hk, _⟩ := Option.filter_eq_some_iff.1 hk
      split at hk
      · next hleads => exact ⟨hleads, hk⟩
      · cases hk

theorem target_calleeEdge_iff {c : Call} :
    (calleeEdge a m c).target = some ((Symbol.method n).id a.mvid) ↔
      a.resolve? c.token = some n.token := by
  have hmethod : Symbol.ofToken? a n.token = some (.method n) := Symbol.ofToken?_eq_some_iff.2 hn
  rw [target_calleeEdge, Option.map_eq_some_iff]
  constructor
  · rintro ⟨s, hs, hid⟩
    obtain ⟨d, hd, hs⟩ := Option.bind_eq_some_iff.1 hs
    have htoken : s.token = n.token := congrArg MemberId.token hid
    rw [hd, ← htoken, hrows.token_ofToken? hs]
  · intro hd
    exact ⟨.method n, by rw [hd, Option.bind_some, hmethod], rfl⟩

omit hrows in
theorem callee_eq_iff {i : Instruction} {c : Call} (h : call? a i = some c) :
    c.callee = n.token ↔ a.resolve? c.token = some n.token := by
  have hself := Assembly.resolve?_of_contains (Assembly.contains_of_method? hn)
  obtain ⟨_, _, _, hcallee, _⟩ := call?_eq_some_iff.1 h
  rw [hcallee]
  cases hd : a.resolve? c.token with
  | some d => rw [Option.getD_some, Option.some.injEq]
  | none =>
    rw [Option.getD_none]
    constructor
    · intro heq
      rw [heq, hself] at hd
      cases hd
    · rintro ⟨⟩

omit hrows in
theorem exists_call?_iff {i : Instruction} :
    (leadsTo a n.token i && callOf? i.mnemonic == some kind) = true ↔
      ∃ c, call? a i = some c ∧ (c.callee, c.kind) = (n.token, kind) := by
  rw [Bool.and_eq_true, leadsTo_eq_true_iff, beq_iff_eq]
  constructor
  · rintro ⟨⟨token, htoken, hd⟩, hkind⟩
    have hin : ¬token.isIn .standAloneSig = true := by
      intro hin
      rw [Assembly.resolve?_standAloneSig hin] at hd
      cases hd
    refine ⟨⟨kind, n.token, i, token⟩, call?_eq_some_iff.2 ⟨hkind, htoken, hin, ?_, rfl⟩, rfl⟩
    rw [hd, Option.getD_some]
  · rintro ⟨c, hc, hkey⟩
    obtain ⟨hcallee, rfl⟩ := Prod.mk.inj hkey
    obtain ⟨hkind, htoken, _⟩ := call?_eq_some_iff.1 hc
    exact ⟨⟨c.token, htoken, (callee_eq_iff hn hc).1 hcallee⟩, hkind⟩

/-- A method is among the callees with the first call of a kind that leads to it. -/
theorem exists_callee_iff :
    (∃ e ∈ callees a m, e.target = some ((Symbol.method n).id a.mvid) ∧ e.kind = kind ∧
        e.offset = offset) ↔
      ∃ i, firstUse? a callOf? m n.token kind = some i ∧ i.offset = offset := by
  let key (c : Call) : Token × UsageKind := (c.callee, c.kind)
  have hfirst : (∃ c ∈ firstPerKey key (m.instructions.filterMap (call? a)),
        key c = (n.token, kind) ∧ c.instruction.offset = offset) ↔
      ∃ i, firstUse? a callOf? m n.token kind = some i ∧ i.offset = offset := by
    refine exists_first_iff (fun i c hc ↦ ?_) fun i ↦ exists_call?_iff hn
    obtain ⟨_, _, _, _, rfl⟩ := call?_eq_some_iff.1 hc
    rfl
  have hmade (c : Call) (hc : c ∈ firstPerKey key (m.instructions.filterMap (call? a))) :
      ∃ i, call? a i = some c := by
    obtain ⟨i, _, hi⟩ := List.mem_filterMap.1 (List.mem_of_find?_eq_some (mem_firstPerKey_iff.1 hc))
    exact ⟨i, hi⟩
  rw [← hfirst]
  constructor
  · rintro ⟨e, he, htarget, hkind, hoffset⟩
    obtain ⟨c, hc, rfl⟩ := List.mem_map.1 he
    obtain ⟨i, hi⟩ := hmade c hc
    rw [target_calleeEdge_iff hrows hn, ← callee_eq_iff hn hi] at htarget
    rw [kind_calleeEdge] at hkind
    rw [offset_calleeEdge] at hoffset
    exact ⟨c, hc, Prod.ext htarget hkind, hoffset⟩
  · rintro ⟨c, hc, hkey, hoffset⟩
    obtain ⟨i, hi⟩ := hmade c hc
    obtain ⟨hcallee, hkind⟩ := Prod.mk.inj hkey
    refine ⟨calleeEdge a m c, List.mem_map_of_mem hc, ?_, ?_, ?_⟩
    · rw [target_calleeEdge_iff hrows hn, ← callee_eq_iff hn hi, hcallee]
    · rw [kind_calleeEdge, hkind]
    · rw [offset_calleeEdge, hoffset]

end Ends

section Agreement

theorem find?_eq_of_imp {α : Type} {p q : α → Bool} {xs : List α}
    (h : ∀ x, q x = true → p x = true) (hfirst : ∀ x, xs.find? p = some x → q x = true) :
    xs.find? q = xs.find? p := by
  cases hp : xs.find? p with
  | none =>
    rw [List.find?_eq_none] at hp ⊢
    exact fun x hx hq ↦ hp x hx (h x hq)
  | some x =>
    obtain ⟨_, front, behind, hsplit, hfront⟩ := List.find?_eq_some_iff_append.1 hp
    refine List.find?_eq_some_iff_append.2 ⟨hfirst x hp, front, behind, hsplit, fun y hy ↦ ?_⟩
    have hy := hfront y hy
    rw [Bool.not_eq_true'] at hy ⊢
    exact Bool.eq_false_iff.2 fun hq ↦ Bool.eq_false_iff.1 hy (h y hq)

theorem mentionOf?_of_callOf? {mnemonic : String} (h : callOf? mnemonic = some kind) :
    mentionOf? mnemonic = some kind := by
  rw [callOf?] at h
  rw [mentionOf?, useIn?]
  split at h
  · next hnew => rw [if_pos hnew, h]
  · next hnew =>
    rw [if_neg hnew]
    split at h
    · exact h
    · cases h

theorem callOf?_of_mentionOf? {mnemonic : String} (h : mentionOf? mnemonic = some kind) :
    kind = .call ∨ callOf? mnemonic = some kind := by
  rw [mentionOf?, useIn?] at h
  split at h
  · next hnew => exact .inr (by rw [callOf?, if_pos hnew, h])
  · exact .inl (Option.some.inj h).symm

/-- Both ends agree on two methods exactly if the first instruction that leads from one to the other
and makes no object is a call. -/
theorem firstUses_agree_iff (a : Assembly) (m : MethodDef) (definition : Token) :
    (∀ kind offset, (∃ i, firstUse? a mentionOf? m definition kind = some i ∧ i.offset = offset) ↔
        ∃ i, firstUse? a callOf? m definition kind = some i ∧ i.offset = offset) ↔
      ∀ i, firstUse? a mentionOf? m definition .call = some i →
        callOf? i.mnemonic = some .call := by
  constructor
  · intro hagree i hi
    obtain ⟨j, hj, hoffset⟩ := (hagree .call i.offset).1 ⟨i, hi, rfl⟩
    obtain rfl := MethodDef.eq_of_offset_eq (List.mem_of_find?_eq_some hj)
      (List.mem_of_find?_eq_some hi) hoffset
    have hfound := List.find?_some hj
    exact beq_iff_eq.1 (Bool.and_eq_true_iff.1 hfound).2
  · intro hfirst kind offset
    have hsame : firstUse? a callOf? m definition kind
        = firstUse? a mentionOf? m definition kind := by
      refine find?_eq_of_imp (fun i hi ↦ ?_) fun i hi ↦ ?_
      · rw [Bool.and_eq_true, beq_iff_eq] at hi ⊢
        exact ⟨hi.1, mentionOf?_of_callOf? hi.2⟩
      · have hmention := List.find?_some hi
        rw [Bool.and_eq_true, beq_iff_eq] at hmention ⊢
        obtain rfl | hcall := callOf?_of_mentionOf? hmention.2
        · exact ⟨hmention.1, hfirst i hi⟩
        · exact ⟨hmention.1, hcall⟩
    rw [hsame]

end Agreement

end Usage

end CliMetadata
