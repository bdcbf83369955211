import CliMetadata.Proofs.Inheritance.Walks
import Mathlib.Data.List.Flatten
import Mathlib.Logic.Relation

namespace CliMetadata.Inheritance

section Ancestors

variable (a : Assembly)

def ancestor? : Nat → TypeDef → Option TypeDef
  | 0, t => some t
  | k + 1, t => (baseOf? a t).bind (ancestor? k)

/-- Every chain of base types ends after so many steps at most. -/
def ChainsWithin (n : Nat) : Prop := ∀ t ∈ a.types, ancestor? a (n + 1) t = none

variable {a} {t b : TypeDef} {j k n : Nat}

theorem ancestor?_add (j k : Nat) (t : TypeDef) :
    ancestor? a (j + k) t = (ancestor? a j t).bind (ancestor? a k) := by
  induction j generalizing t with
  | zero => rw [Nat.zero_add, ancestor?, Option.bind_some]
  | succ j ih =>
    rw [Nat.succ_add, ancestor?, ancestor?, Option.bind_assoc]
    exact Option.bind_congr fun b _ ↦ ih b

theorem mem_of_ancestor? (ht : t ∈ a.types) (h : ancestor? a k t = some b) : b ∈ a.types := by
  induction k generalizing t with
  | zero =>
    cases h
    exact ht
  | succ k ih =>
    obtain ⟨c, hc, h⟩ := Option.bind_eq_some_iff.1 h
    exact ih (mem_of_baseOf? hc) h

theorem ChainsWithin.le (h : ChainsWithin a n) (ht : t ∈ a.types) (hb : ancestor? a k t = some b) :
    k ≤ n := by
  by_contra hlt
  obtain ⟨i, rfl⟩ := Nat.exists_eq_add_of_le (Nat.succ_le_of_lt (Nat.lt_of_not_le hlt))
  rw [ancestor?_add, h t ht] at hb
  cases hb

theorem ChainsWithin.ne (h : ChainsWithin a n) (ht : t ∈ a.types) (hk : 0 < k) :
    ancestor? a k t ≠ some t := by
  intro hself
  have hrepeat (i : Nat) : ancestor? a (i * k) t = some t := by
    induction i with
    | zero => rw [Nat.zero_mul, ancestor?]
    | succ i ih => rw [Nat.succ_mul, ancestor?_add, ih, Option.bind_some, hself]
  have hle := h.le ht (hrepeat (n + 1))
  have hmul := Nat.le_mul_of_pos_right (n + 1) hk
  omega

theorem exists_below_of_ancestor? (h : ancestor? a k t = some b) :
    ∃ d ≤ k, Below a b.token d t := by
  induction k generalizing t with
  | zero =>
    cases h
    exact ⟨0, Nat.le_refl 0, rfl⟩
  | succ k ih =>
    obtain ⟨c, hc, h⟩ := Option.bind_eq_some_iff.1 h
    by_cases htoken : t.token = b.token
    · exact ⟨0, Nat.zero_le _, htoken⟩
    · obtain ⟨d, hd, hbelow⟩ := ih h
      exact ⟨d + 1, by omega, htoken, c, hc, hbelow⟩

end Ancestors

section Slots

variable (a : Assembly) (rule : OverrideMatching)

def slotOf (m : MethodDef) : String × Nat × List String :=
  match rule with
  | .parameterCount => (m.name, m.signature.params.length, [])
  | .signature => (m.name, m.signature.genericCount, a.paramTypeNames m.signature)

variable {a rule} {m n : MethodDef} {t b : TypeDef}

theorem sameSlot_iff : sameSlot a rule m n = true ↔
    n.isVirtual = true ∧ slotOf a rule m = slotOf a rule n := by
  cases rule with
  | parameterCount =>
    simp only [sameSlot, slotOf, Bool.and_eq_true, beq_iff_eq, Prod.mk.injEq]
    tauto
  | signature =>
    simp only [sameSlot, slotOf, Bool.and_eq_true, beq_iff_eq, Prod.mk.injEq]
    tauto

theorem slotAbove?_eq_some {visited : List Token} {count : Nat}
    (h : slotAbove? a rule n visited t count = some m) :
    ∃ k b, 0 < k ∧ ancestor? a k t = some b ∧ m ∈ a.methodsOf b.methods ∧
      sameSlot a rule n m = true := by
  induction count generalizing t visited with
  | zero => cases h
  | succ count ih =>
    rw [slotAbove?] at h
    split at h
    · cases h
    · obtain ⟨b, hb, h⟩ := Option.bind_eq_some_iff.1 h
      have hbase : baseOf? a t = some b := hb
      split at h
      · next found hfind =>
        cases h
        have hslot := List.find?_some hfind
        rw [Bool.and_eq_true] at hslot
        refine ⟨1, b, by omega, ?_, List.mem_of_find?_eq_some hfind, hslot.2⟩
        rw [ancestor?, hbase, Option.bind_some, ancestor?]
      · obtain ⟨k, c, hk, hc, hm⟩ := ih h
        refine ⟨k + 1, c, by omega, ?_, hm⟩
        rw [ancestor?, hbase, Option.bind_some, hc]

variable (a rule) in
/-- A virtual method in the slot of another, so many base types above it. -/
structure Above (k : Nat) (n m : MethodDef) : Prop where
  types : ∃ t ∈ a.types, t.token = n.declaringType ∧
    ∃ b, ancestor? a k t = some b ∧ b.token = m.declaringType
  isVirtual : m.isVirtual = true
  slot : slotOf a rule n = slotOf a rule m

variable (hrows : a.RowsNumbered) (hfew : a.TokensSuffice) (hlists : a.MembersListed)

include hrows hfew

theorem Above.trans {j k : Nat} {p : MethodDef} (h : Above a rule j n m)
    (h' : Above a rule k m p) : Above a rule (j + k) n p := by
  obtain ⟨t, ht, hn, b, hb, hm⟩ := h.types
  obtain ⟨u, hu, hm', c, hc, hp⟩ := h'.types
  have hmem := mem_of_ancestor? ht hb
  obtain rfl := hrows.types.eq_of_key hfew.types hmem hu (hm.trans hm'.symm)
  refine ⟨⟨t, ht, hn, c, ?_, hp⟩, h'.isVirtual, h.slot.trans h'.slot⟩
  rw [ancestor?_add, hb, Option.bind_some, hc]

include hlists

theorem declaringType_of_mem (ht : t ∈ a.types)
    (hm : m ∈ a.methodsOf t.methods) : m.declaringType = t.token := by
  obtain ⟨i, hi⟩ := Array.mem_iff_getElem?.1 ht
  obtain ⟨token, htoken, hrow⟩ := Assembly.mem_methodsOf_iff.1 hm
  have howner := hlists.methods.owner_of_rowOf? hfew.methods hi htoken hrow
  rw [hrows.types i t hi]
  exact Option.some.inj howner

/-- A method overrides one in its slot above it. -/
theorem above_of_overridden? {config : Config} (h : overridden? a config n = some m) :
    n.isVirtual = true ∧ m ∈ a.methods ∧ ∃ k, 0 < k ∧ Above a config.overrideMatching k n m := by
  rw [overridden?] at h
  split at h
  · next hvirtual =>
    rw [Bool.and_eq_true] at hvirtual
    obtain ⟨t, ht, h⟩ := Option.bind_eq_some_iff.1 h
    obtain ⟨k, b, hk, hb, hm, hslot⟩ := slotAbove?_eq_some h
    obtain ⟨hmVirtual, hsame⟩ := sameSlot_iff.1 hslot
    have hmem := Assembly.mem_of_rowOf? ht
    have howner := declaringType_of_mem hrows hfew hlists (mem_of_ancestor? hmem hb) hm
    have hfound := hrows.method?_of_mem_methodsOf hm
    exact ⟨hvirtual.1, Assembly.mem_of_rowOf? hfound, k, hk,
      ⟨t, hmem, hrows.types.token_rowOf? ht, b, hb, howner.symm⟩, hmVirtual, hsame⟩
  · cases h

end Slots

section Overriding

variable {a : Assembly} (hrows : a.RowsNumbered) (hfew : a.TokensSuffice)
  (hlists : a.MembersListed) (config : Config) {m n : MethodDef}

/-- What a method overrides, what that overrides, and so on. -/
abbrev Ascends (a : Assembly) (config : Config) : MethodDef → MethodDef → Prop :=
  Relation.TransGen fun x y ↦ overridden? a config x = some y

include hrows hfew hlists

/-- Whoever comes to a method from another goes up, and needs no more steps than there are types
between them. -/
theorem above_of_ascends (h : Ascends a config n m) : n.isVirtual = true ∧ m ∈ a.methods ∧
    ∃ k, 0 < k ∧ Above a config.overrideMatching k n m ∧
      ∀ count, k ≤ count → overridesWithin a config m.token n count = true := by
  induction h using Relation.TransGen.head_induction_on with
  | single hstep =>
    obtain ⟨hvirtual, hmem, k, hk, habove⟩ := above_of_overridden? hrows hfew hlists hstep
    refine ⟨hvirtual, hmem, k, hk, habove, fun count hle ↦ ?_⟩
    obtain ⟨count, rfl⟩ : ∃ c, count = c + 1 := ⟨count - 1, by omega⟩
    simp [overridesWithin, hstep]
  | head hstep _ ih =>
    obtain ⟨hvirtual, _, j, hj, habove⟩ := above_of_overridden? hrows hfew hlists hstep
    obtain ⟨_, hmem, k, hk, hrest, hwithin⟩ := ih
    refine ⟨hvirtual, hmem, j + k, by omega, habove.trans hrows hfew hrest, fun count hle ↦ ?_⟩
    obtain ⟨count, rfl⟩ : ∃ c, count = c + 1 := ⟨count - 1, by omega⟩
    simp [overridesWithin, hstep, hwithin count (by omega)]

theorem ascends_of_overridesWithin (hm : m ∈ a.methods) {count : Nat}
    (h : overridesWithin a config m.token n count = true) : Ascends a config n m := by
  induction count generalizing n with
  | zero => cases h
  | succ count ih =>
    rw [overridesWithin] at h
    split at h
    · cases h
    · next b hb =>
      rw [Bool.or_eq_true, beq_iff_eq] at h
      rcases h with htoken | h
      · obtain ⟨_, hmem, _⟩ := above_of_overridden? hrows hfew hlists hb
        obtain rfl := hrows.methods.eq_of_key hfew.methods hmem hm htoken
        exact .single hb
      · exact .head hb (ih h)

omit hlists in
theorem mem_overriding_iff : n ∈ overriding a config m ↔
    ∃ t d, (t.token, d) ∈ derivedFrom a config m.declaringType ∧ t ∈ a.types ∧
      n ∈ a.methodsOf t.methods ∧ sameSlot a config.overrideMatching m n = true ∧
      overrides a config m.token n = true := by
  simp only [overriding, List.mem_flatMap, List.mem_filter, List.mem_filterMap, Prod.exists]
  constructor
  · rintro ⟨t, ⟨token, d, hmem, ht⟩, ⟨hn, hslot⟩, hoverrides⟩
    obtain rfl := hrows.types.token_rowOf? ht
    exact ⟨t, d, hmem, Assembly.mem_of_rowOf? ht, hn, hslot, hoverrides⟩
  · rintro ⟨t, d, hmem, ht, hn, hslot, hoverrides⟩
    exact ⟨t, ⟨t.token, d, hmem, hrows.typeDef?_token hfew.types ht⟩, ⟨hn, hslot⟩, hoverrides⟩

/-- Where chains of base types end early enough, exactly the methods that come to a virtual method
by way of what they override are found to override it. -/
theorem mem_overriding_iff_ascends (hlisted : a.MethodsListed)
    (hchains : ChainsWithin a config.maxInheritanceDepth) (hm : m ∈ a.methods)
    (hn : n ∈ a.methods) : n ∈ overriding a config m ↔ Ascends a config n m := by
  rw [mem_overriding_iff hrows hfew config]
  constructor
  · rintro ⟨_, _, _, _, _, _, hoverrides⟩
    exact ascends_of_overridesWithin hrows hfew hlists config hm hoverrides
  · intro h
    obtain ⟨hvirtual, _, k, hk, habove, hwithin⟩ := above_of_ascends hrows hfew hlists config h
    obtain ⟨t, ht, htoken, b, hb, howner⟩ := habove.types
    have hmem := mem_of_ancestor? ht hb
    have hle := hchains.le ht hb
    obtain ⟨d, hd, hbelow⟩ := exists_below_of_ancestor? hb
    have hpos : 0 < d := by
      rw [Nat.pos_iff_ne_zero]
      rintro rfl
      obtain rfl := hrows.types.eq_of_key hfew.types ht hmem hbelow
      exact hchains.ne ht hk hb
    obtain ⟨u, hu, hsame, hlists⟩ := hlisted n hn
    obtain rfl := hrows.types.eq_of_key hfew.types hu ht (hsame.trans htoken.symm)
    have hfound : a.method? n.token = some n := hrows.methods.rowOf?_token hfew.methods hn
    have hmethod : n ∈ a.methodsOf u.methods :=
      Assembly.mem_methodsOf_iff.2 ⟨n.token, hlists, hfound⟩
    refine ⟨u, d, ?_, hu, hmethod, ?_, hwithin _ (by omega)⟩
    · rw [← howner]
      exact (mem_derivedFrom_iff hrows hfew.types config hmem).2
        ⟨hpos, by omega, u, hu, rfl, hbelow⟩
    · exact sameSlot_iff.2 ⟨hvirtual, habove.slot.symm⟩

theorem nodup_overriding (hlisted : a.MethodsListed) (hm : m ∈ a.methods) :
    (overriding a config m).Nodup := by
  obtain ⟨root, hroot, howner, _⟩ := hlisted m hm
  have hmem : ∀ t ∈ (derivedFrom a config m.declaringType).filterMap fun p ↦ a.typeDef? p.1,
      t ∈ a.types := by
    intro t ht
    obtain ⟨_, _, hrow⟩ := List.mem_filterMap.1 ht
    exact Assembly.mem_of_rowOf? hrow
  have htypes :
      ((derivedFrom a config m.declaringType).filterMap fun p ↦ a.typeDef? p.1).Nodup := by
    have htokens := nodup_derivedFrom hrows hfew.types config hroot
    rw [howner] at htokens
    have hfound := hrows.types.nodup_filterMap htokens
    rwa [List.filterMap_map] at hfound
  rw [overriding, List.nodup_flatMap]
  constructor
  · intro t ht
    obtain ⟨i, hi⟩ := Array.mem_iff_getElem?.1 (hmem t ht)
    have htokens := hlists.methods.nodup hfew.methods hi
    have hmethods : (a.methodsOf t.methods).Nodup := hrows.methods.nodup_filterMap htokens
    exact (hmethods.filter _).filter _
  · refine htypes.imp_of_mem fun {t u} ht hu hne n hn hn' ↦ hne ?_
    have howner := declaringType_of_mem hrows hfew hlists (hmem t ht)
      (List.mem_of_mem_filter (List.mem_of_mem_filter hn))
    have howner' := declaringType_of_mem hrows hfew hlists (hmem u hu)
      (List.mem_of_mem_filter (List.mem_of_mem_filter hn'))
    exact hrows.types.eq_of_key hfew.types (hmem t ht) (hmem u hu) (howner.symm.trans howner')

omit hlists in
theorem mem_methods_of_mem_overriding (hn : n ∈ overriding a config m) : n ∈ a.methods := by
  obtain ⟨_, _, _, _, hmem, _⟩ := (mem_overriding_iff hrows hfew config).1 hn
  exact Assembly.mem_of_rowOf? (hrows.method?_of_mem_methodsOf hmem)

theorem overriddenBy_iff_ascends (hlisted : a.MethodsListed)
    (hchains : ChainsWithin a config.maxInheritanceDepth) (hm : m ∈ a.methods) :
    let ids := (overridesOf a config m).overriddenBy.map (·.id)
    ids.Nodup ∧ ∀ n ∈ a.methods, (Symbol.method n).id a.mvid ∈ ids ↔ Ascends a config n m := by
  have hinj (x y : MethodDef) (hx : x ∈ a.methods) (hy : y ∈ a.methods)
      (h : (Symbol.method x).id a.mvid = (Symbol.method y).id a.mvid) : x = y :=
    hrows.methods.eq_of_key hfew.methods hx hy (congrArg MemberId.token h)
  have hmem {n : MethodDef} (hn : n ∈ overriding a config m) : n ∈ a.methods :=
    mem_methods_of_mem_overriding hrows hfew config hn
  by_cases hvirtual : m.isVirtual = true
  · have hids : (overridesOf a config m).overriddenBy.map (·.id)
        = (overriding a config m).map fun c ↦ (Symbol.method c).id a.mvid := by
      rw [overridesOf, if_pos hvirtual, List.map_map]
      rfl
    rw [hids]
    refine ⟨List.Nodup.map_on (fun x hx y hy ↦ hinj x y (hmem hx) (hmem hy))
      (nodup_overriding hrows hfew hlists config hlisted hm), fun n hn ↦ ?_⟩
    rw [← mem_overriding_iff_ascends hrows hfew hlists config hlisted hchains hm hn, List.mem_map]
    constructor
    · rintro ⟨c, hc, hid⟩
      rwa [← hinj c n (hmem hc) hn hid]
    · intro h
      exact ⟨n, h, rfl⟩
  · have hids : (overridesOf a config m).overriddenBy = [] := by
      rw [overridesOf, if_neg hvirtual]
    simp only [hids, List.map_nil, List.nodup_nil, List.not_mem_nil, false_iff, true_and]
    intro n _ h
    obtain ⟨_, _, _, _, habove, _⟩ := above_of_ascends hrows hfew hlists config h
    exact hvirtual habove.isVirtual

end Overriding

end CliMetadata.Inheritance
