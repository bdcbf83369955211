import CliMetadata.Proofs.Assembly.Leading
import CliMetadata.Usage

namespace CliMetadata

namespace Usage

variable {a : Assembly} {token d : Token}

/-- Only references and specifications lead elsewhere. -/
theorem eq_of_not_mem_aliases (hrows : a.RowsNumbered) (halias : token ∉ aliases a)
    (h : a.resolve? token = some d) : d = token := by
  rw [aliases, List.mem_append, List.mem_append, not_or, not_or] at halias
  obtain ⟨⟨hrefs, hspecs⟩, htypes⟩ := halias
  have hin {α : Type} {rows : Array α} {table : Table} {key : α → Token} {row : α}
      (hnumbered : Numbered key table rows) (hrow : Assembly.rowOf? rows table token = some row) :
      token ∈ rows.toList.map key :=
    List.mem_map.2 ⟨row, Array.mem_toList_iff.2 (Assembly.mem_of_rowOf? hrow),
      hnumbered.token_rowOf? hrow⟩
  rw [Assembly.resolve?, Assembly.resolveWithin] at h
  split at h
  · obtain ⟨_, hrow, _⟩ := Option.bind_eq_some_iff.1 h
    exact absurd (hin hrows.memberRefs hrow) hrefs
  · split at h
    · obtain ⟨_, hrow, _⟩ := Option.bind_eq_some_iff.1 h
      exact absurd (hin hrows.methodSpecs hrow) hspecs
    · split at h
      · rw [Assembly.resolveType?] at h
        split at h
        · exact (Option.some.inj h).symm
        · obtain ⟨_, hrow, _⟩ := Option.bind_eq_some_iff.1 h
          exact absurd (hin hrows.typeSpecs hrow) htypes
      · split at h
        · exact (Option.some.inj h).symm
        · cases h

theorem lookup_filterMap {κ β : Type} [DecidableEq κ] (f : κ → Option β) (keys : List κ) (key : κ) :
    (keys.filterMap fun k ↦ (f k).map (k, ·)).lookup key = if key ∈ keys then f key else none := by
  induction keys with
  | nil => rfl
  | cons k keys ih =>
    rw [List.filterMap_cons]
    by_cases heq : key = k
    · subst heq
      rw [if_pos List.mem_cons_self]
      cases hf : f key with
      | none =>
        rw [Option.map_none, ih, hf]
        exact ite_self none
      | some b => rw [Option.map_some, List.lookup_cons_self]
    · have hmem : key ∈ k :: keys ↔ key ∈ keys := by simp [heq]
      cases hf : f k with
      | none => rw [Option.map_none, ih, if_congr hmem rfl rfl]
      | some b =>
        rw [Option.map_some, List.lookup_cons, beq_false_of_ne heq, ih, if_congr hmem rfl rfl]

/-- The role of a token is that of the definition it leads to, where the symbol's own tokens are
definitions. -/
theorem lookup_rolesOf (hrows : a.RowsNumbered) {s : Symbol}
    (hown : ∀ entry ∈ ownRoles a s, a.contains entry.1 = true) (token : Token) :
    (rolesOf a s).lookup token
      = (a.resolve? token).bind fun d ↦ (ownRoles a s).reverse.lookup d := by
  have hself {role : Role} (h : (ownRoles a s).reverse.lookup token = some role) :
      a.resolve? token = some token := by
    obtain ⟨front, behind, hsplit, _⟩ := List.lookup_eq_some_iff.1 h
    have hmem : (token, role) ∈ ownRoles a s := by
      rw [← List.mem_reverse, hsplit]
      exact List.mem_append_right _ List.mem_cons_self
    exact Assembly.resolve?_of_contains (hown (token, role) hmem)
  have hled : (aliases a).filterMap (fun token ↦ do
        let role ← (ownRoles a s).reverse.lookup (← a.resolve? token)
        pure (token, role))
      = (aliases a).filterMap fun token ↦
          ((a.resolve? token).bind fun d ↦ (ownRoles a s).reverse.lookup d).map (token, ·) := by
    refine List.filterMap_congr fun token _ ↦ ?_
    cases a.resolve? token with
    | none => rfl
    | some d => cases hd : (ownRoles a s).reverse.lookup d <;> simp [hd]
  rw [rolesOf, List.lookup_append, hled, lookup_filterMap]
  cases hlookup : (ownRoles a s).reverse.lookup token with
  | some role =>
    rw [hself hlookup, Option.bind_some, hlookup]
    split <;> rfl
  | none =>
    rw [Option.or_none]
    split
    · rfl
    · next halias =>
      cases hd : a.resolve? token with
      | none => rfl
      | some d => rw [eq_of_not_mem_aliases hrows halias hd, Option.bind_some, hlookup]

section FirstPerKey

variable {α ι κ : Type} [DecidableEq κ] {key : α → κ}

theorem mem_firstPerKey_iff {x : α} {xs : List α} :
    x ∈ firstPerKey key xs ↔ xs.find? (key · == key x) = some x := by
  induction xs with
  | nil => simp [firstPerKey]
  | cons y ys ih =>
    rw [firstPerKey, List.mem_cons, List.mem_filter, ih, List.find?_cons]
    by_cases heq : key y = key x
    · simp only [heq, beq_self_eq_true, bne_self_eq_false, Bool.false_eq_true, and_false, or_false,
        Option.some.injEq]
      exact eq_comm
    · have hne : x ≠ y := fun h ↦ heq (h ▸ rfl)
      rw [beq_false_of_ne heq]
      simp [hne, Ne.symm heq]

theorem exists_firstPerKey_iff {f : ι → Option α} {is : List ι} {k : κ} {p : α → Prop} :
    (∃ x ∈ firstPerKey key (is.filterMap f), key x = k ∧ p x) ↔
      ∃ i, is.find? (fun i ↦ (f i).any (key · == k)) = some i ∧ ∃ x, f i = some x ∧ p x := by
  constructor
  · rintro ⟨x, hx, rfl, hp⟩
    rw [mem_firstPerKey_iff, List.find?_filterMap] at hx
    obtain ⟨i, hi, hfx⟩ := Option.bind_eq_some_iff.1 hx
    exact ⟨i, hi, x, hfx, hp⟩
  · rintro ⟨i, hi, x, hfx, hp⟩
    have hkey : key x = k := by
      have hany := List.find?_some hi
      rwa [hfx, Option.any_some, beq_iff_eq] at hany
    refine ⟨x, ?_, hkey, hp⟩
    rw [mem_firstPerKey_iff, List.find?_filterMap, hkey, hi, Option.bind_some, hfx]

end FirstPerKey

end Usage

end CliMetadata
