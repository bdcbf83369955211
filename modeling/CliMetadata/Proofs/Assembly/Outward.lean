import CliMetadata.Proofs.Assembly.Listed
import Mathlib.Data.List.Perm.Subperm
import Mathlib.Logic.Relation

namespace CliMetadata

section Walk

variable {α : Type} (next : α → Option α)

/-- Where a walk is after so many steps, or where it ended before. -/
def walk : Nat → α → α
  | 0, x => x
  | n + 1, x => (next x).elim x (walk n)

def passed : Nat → α → List α
  | 0, x => [x]
  | n + 1, x => x :: (next x).elim [] (passed n)

/-- A walk that ends by itself, after no more than so many steps. -/
inductive EndsWithin : Nat → α → Prop
  | here {n : Nat} {x : α} : next x = none → EndsWithin n x
  | onward {n : Nat} {x y : α} : next x = some y → EndsWithin n y → EndsWithin (n + 1) x

def Steps (x y : α) : Prop := next x = some y

variable {next} {m n : Nat} {x y : α}

theorem EndsWithin.of_step (h : EndsWithin next n x) (hx : next x = some y) :
    ∃ m, n = m + 1 ∧ EndsWithin next m y := by
  cases h with
  | here hnone =>
    rw [hnone] at hx
    cases hx
  | onward hy h =>
    rw [hy, Option.some_inj] at hx
    exact ⟨_, rfl, hx ▸ h⟩

theorem EndsWithin.congr {next' : α → Option α} (h : EndsWithin next n x)
    (hsame : ∀ y, Relation.ReflTransGen (Steps next) x y → next' y = next y) :
    EndsWithin next' n x := by
  induction h with
  | here hx => exact .here ((hsame _ .refl).trans hx)
  | onward hx _ ih => exact .onward ((hsame _ .refl).trans hx) (ih fun y hy ↦ hsame y (.head hx hy))

theorem endsWithin_iff : EndsWithin next n x ↔ next (walk next n x) = none := by
  induction n generalizing x with
  | zero =>
    refine ⟨fun h ↦ ?_, .here⟩
    cases h with
    | here hx => exact hx
  | succ n ih =>
    rw [walk]
    cases hx : next x with
    | none => exact ⟨fun _ ↦ hx, fun _ ↦ .here hx⟩
    | some y =>
      rw [Option.elim_some, ← ih]
      refine ⟨fun h ↦ ?_, .onward hx⟩
      obtain ⟨_, hn, h⟩ := h.of_step hx
      cases hn
      exact h

theorem length_passed (h : ¬EndsWithin next n x) : (passed next n x).length = n + 1 := by
  induction n generalizing x with
  | zero => rfl
  | succ n ih =>
    cases hx : next x with
    | none => exact absurd (.here hx) h
    | some y => rw [passed, hx, List.length_cons, Option.elim_some, ih fun hy ↦ h (.onward hx hy)]

theorem mem_passed (h : y ∈ passed next n x) : Relation.ReflTransGen (Steps next) x y := by
  induction n generalizing x with
  | zero =>
    rw [List.mem_singleton.1 h]
  | succ n ih =>
    rw [passed, List.mem_cons] at h
    rcases h with rfl | h
    · exact .refl
    · cases hx : next x with
      | none =>
        rw [hx] at h
        cases h
      | some z =>
        rw [hx] at h
        exact .head hx (ih h)

theorem nodup_passed
    (h : ∀ y, Relation.ReflTransGen (Steps next) x y → ¬Relation.TransGen (Steps next) y y) :
    (passed next n x).Nodup := by
  induction n generalizing x with
  | zero => exact List.nodup_singleton x
  | succ n ih =>
    rw [passed]
    cases hx : next x with
    | none => exact List.nodup_singleton x
    | some z =>
      rw [Option.elim_some, List.nodup_cons]
      refine ⟨fun hmem ↦ ?_, ih fun y hy ↦ h y (.head hx hy)⟩
      exact h x .refl (.head' hx (mem_passed hmem))

/-- A walk that ends does not come to a place again. -/
theorem EndsWithin.acyclic (h : EndsWithin next n x) :
    ∀ y, Relation.ReflTransGen (Steps next) x y → ¬Relation.TransGen (Steps next) y y := by
  induction h with
  | @here n x hx =>
    have hstays (z : α) : ¬Steps next x z := by
      intro hz
      rw [Steps, hx] at hz
      cases hz
    intro y hy hcircle
    obtain rfl := (Relation.reflTransGen_iff_eq hstays).1 hy
    obtain ⟨z, hz, _⟩ := Relation.TransGen.head'_iff.1 hcircle
    exact hstays z hz
  | onward hx _ ih =>
    intro y hy hcircle
    obtain rfl | ⟨z, hz, hzy⟩ := Relation.ReflTransGen.cases_head hy
    · obtain ⟨z, hz, hback⟩ := Relation.TransGen.head'_iff.1 hcircle
      rw [Steps, hx, Option.some_inj] at hz
      exact ih _ (hz ▸ hback) hcircle
    · rw [Steps, hx, Option.some_inj] at hz
      exact ih y (hz ▸ hzy) hcircle

/-- Among so many rows, a walk that does not go in a circle ends after as many steps. -/
theorem endsWithin_length {xs : List α} (hnext : ∀ x y, next x = some y → y ∈ xs) (hx : x ∈ xs)
    (h : ∀ y, Relation.ReflTransGen (Steps next) x y → ¬Relation.TransGen (Steps next) y y) :
    EndsWithin next xs.length x := by
  by_contra hlong
  have hsubset : passed next xs.length x ⊆ xs := by
    intro y hy
    rcases Relation.ReflTransGen.cases_tail (mem_passed hy) with rfl | ⟨z, _, hz⟩
    · exact hx
    · exact hnext z y hz
  have hle := ((nodup_passed h).subperm hsubset).length_le
  rw [length_passed hlong] at hle
  omega

theorem EndsWithin.within_length {xs : List α} (h : EndsWithin next n x)
    (hnext : ∀ x y, next x = some y → y ∈ xs) (hx : x ∈ xs) : EndsWithin next xs.length x :=
  endsWithin_length hnext hx h.acyclic

theorem walk_of_none (hx : next x = none) (n : Nat) : walk next n x = x := by
  cases n with
  | zero => rfl
  | succ n => rw [walk, hx, Option.elim_none]

theorem walk_of_endsWithin (h : EndsWithin next m x) (hle : m ≤ n) :
    walk next n x = walk next m x := by
  induction h generalizing n with
  | here hx => rw [walk_of_none hx, walk_of_none hx]
  | onward hx _ ih =>
    obtain ⟨n, rfl⟩ : ∃ k, n = k + 1 := ⟨n - 1, by omega⟩
    rw [walk, walk, hx, Option.elim_some, Option.elim_some, ih (by omega)]

theorem walk_of_step (h : EndsWithin next n x) (hx : next x = some y) :
    walk next n x = walk next n y := by
  obtain ⟨m, rfl, hy⟩ := h.of_step hx
  rw [walk_of_endsWithin hy (Nat.le_succ m), walk, hx, Option.elim_some]

/-- The names of all that a walk comes through, put together from the end of the walk. -/
def joinedName (next : α → Option α) (top own : α → String) : Nat → α → String
  | 0, x => top x
  | n + 1, x => (next x).elim (top x) fun y ↦ joinedName next top own n y ++ "+" ++ own x

variable {top own : α → String}

theorem joinedName_of_none (hx : next x = none) (n : Nat) : joinedName next top own n x = top x := by
  cases n with
  | zero => rfl
  | succ n => rw [joinedName, hx, Option.elim_none]

theorem joinedName_of_endsWithin (h : EndsWithin next m x) (hle : m ≤ n) :
    joinedName next top own n x = joinedName next top own m x := by
  induction h generalizing n with
  | here hx => rw [joinedName_of_none hx, joinedName_of_none hx]
  | onward hx _ ih =>
    obtain ⟨n, rfl⟩ : ∃ k, n = k + 1 := ⟨n - 1, by omega⟩
    rw [joinedName, joinedName, hx, Option.elim_some, Option.elim_some, ih (by omega)]

/-- Where the walk is not cut off, the name is the one of the next, and its own. -/
theorem joinedName_of_step (h : EndsWithin next n x) (hx : next x = some y) :
    joinedName next top own n x = joinedName next top own n y ++ "+" ++ own x := by
  obtain ⟨m, rfl, hy⟩ := h.of_step hx
  rw [joinedName_of_endsWithin hy (Nat.le_succ m), joinedName, hx, Option.elim_some]

section Congruence

variable {β : Type} {next' : β → Option β} {R : α → β → Prop} {y : β}

/-- Walks among rows that correspond go side by side. -/
theorem walk_congr (hnext : ∀ x y, R x y → Option.Rel R (next x) (next' y)) (h : R x y) (n : Nat) :
    R (walk next n x) (walk next' n y) := by
  induction n generalizing x y with
  | zero => exact h
  | succ n ih =>
    rw [walk, walk]
    match next x, next' y, hnext x y h with
    | _, _, .none => exact h
    | _, _, .some hrest => exact ih hrest

theorem joinedName_congr {top' own' : β → String}
    (hnext : ∀ x y, R x y → Option.Rel R (next x) (next' y))
    (hown : ∀ x y, R x y → own x = own' y) (h : R x y) (n : Nat)
    (htop : top (walk next n x) = top' (walk next' n y)) :
    joinedName next top own n x = joinedName next' top' own' n y := by
  induction n generalizing x y with
  | zero => exact htop
  | succ n ih =>
    rw [walk, walk] at htop
    rw [joinedName, joinedName]
    revert htop
    match next x, next' y, hnext x y h with
    | _, _, .none => exact id
    | _, _, .some hrest =>
      intro htop
      rw [Option.elim_some, Option.elim_some, ih hrest htop, hown x y h]

end Congruence

end Walk

namespace Draft

section Names

variable {types : Array TypeDef} {t : TypeDef} {n : Nat}

theorem endsWithin_size (h : EndsWithin (outer? types) n t) (ht : t ∈ types) :
    EndsWithin (outer? types) types.size t := by
  rw [← Array.length_toList]
  exact h.within_length (fun _ _ hu ↦ Array.mem_toList_iff.2 (Assembly.mem_of_outer? hu))
    (Array.mem_toList_iff.2 ht)

theorem typeNames_eq (depth : Nat) (t : TypeDef) : typeNames types depth t =
    (joinedName (outer? types) (fun u ↦ qualified u.ns u.name) TypeDef.name depth t,
      (walk (outer? types) depth t).ns) := by
  induction depth generalizing t with
  | zero => rfl
  | succ depth ih =>
    rw [typeNames, joinedName, walk]
    cases outer? types t with
    | none => rfl
    | some u => simp only [ih, Option.elim_some]

def scopeIn? (refs : Array TypeRef) (ref : TypeRef) : Option TypeRef :=
  Assembly.rowOf? refs .typeRef ref.scope

theorem typeRefName_eq (refs : Array TypeRef) (depth : Nat) (ref : TypeRef) :
    typeRefName refs depth ref =
      joinedName (scopeIn? refs) (fun r ↦ qualified r.ns r.name) TypeRef.name depth ref := by
  induction depth generalizing ref with
  | zero => rfl
  | succ depth ih =>
    rw [typeRefName, joinedName, scopeIn?]
    cases Assembly.rowOf? refs .typeRef ref.scope with
    | none => rfl
    | some outer => simp only [ih, Option.elim_some]

end Names

end Draft

end CliMetadata
