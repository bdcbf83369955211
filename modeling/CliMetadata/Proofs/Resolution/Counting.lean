import CliMetadata.Proofs.Resolution

namespace CliMetadata

theorem Strategy.generation_run (input : String) (s : Snapshot) (way : Strategy) :
    (way.run input s).2.generation = s.generation := by
  cases way with
  | memberId =>
    rw [run]
    split
    · split <;> rfl
    · rfl
  | documentationId =>
    rw [run]
    split <;> rfl
  | hexToken => rfl
  | decimalToken => rfl

namespace ResolverStats

/-- The counters behind one more lookup: the answer was kept, a search led to a symbol, or it tried
all four ways in vain. -/
inductive LookedUp (x : ResolverStats) : Option Symbol → ResolverStats → Prop
  | kept (answer : Option Symbol) : LookedUp x answer { x with hits := x.hits + 1 }
  | found (s : Symbol) (entries runs : Nat) (hleast : 1 ≤ runs) (hmost : runs ≤ 4) :
      LookedUp x (some s)
        { x with
          entries
          misses := x.misses + 1
          successes := x.successes + 1
          strategyRuns := x.strategyRuns + runs }
  | missing (entries : Nat) :
      LookedUp x none
        { x with
          entries
          misses := x.misses + 1
          failures := x.failures + 1
          strategyRuns := x.strategyRuns + 4 }

structure Counts (x : ResolverStats) (lookups : Nat) : Prop where
  misses : x.misses = x.successes + x.failures
  lookups : x.hits + x.misses = lookups

theorem Counts.lookedUp {x y : ResolverStats} {n : Nat} (h : x.Counts n) {answer : Option Symbol}
    (hy : x.LookedUp answer y) : y.Counts (n + 1) := by
  have hmisses := h.misses
  have hlookups := h.lookups
  cases hy with
  | kept => exact ⟨hmisses, by simp only; omega⟩
  | found => exact ⟨by simp only; omega, by simp only; omega⟩
  | missing => exact ⟨by simp only; omega, by simp only; omega⟩

end ResolverStats

namespace Resolver

variable {r : Resolver} {s : Snapshot} {input : String}

theorem generation_search (input : String) (s : Snapshot) (ways : List Strategy) :
    (search input s ways).2.2.generation = s.generation := by
  induction ways generalizing s with
  | nil => rfl
  | cons way ways ih =>
    have hway := way.generation_run input s
    rw [search]
    split
    · next heq =>
      rw [heq] at hway
      exact hway
    · next heq =>
      rw [heq] at hway
      exact (ih _).trans hway

theorem runs_search (input : String) (s : Snapshot) (ways : List Strategy) :
    (search input s ways).2.1 ≤ ways.length ∧
      ((search input s ways).1.isSome → 1 ≤ (search input s ways).2.1) ∧
      ((search input s ways).1 = none → (search input s ways).2.1 = ways.length) := by
  induction ways generalizing s with
  | nil => exact ⟨Nat.le_refl _, fun h ↦ (by cases h), fun _ ↦ rfl⟩
  | cons way ways ih =>
    rw [search]
    split
    · exact ⟨Nat.le_add_left 1 _, fun _ ↦ Nat.le_refl _, fun h ↦ by cases h⟩
    · next t _ =>
      obtain ⟨hmost, _, hall⟩ := ih t
      exact ⟨Nat.succ_le_succ hmost, fun _ ↦ Nat.le_add_left 1 _, fun h ↦ congrArg (· + 1) (hall h)⟩

theorem resolve_of_kept {found : Option Symbol}
    (h : r.cache.kept? s.generation (trimmed input) = some found) :
    r.resolve input s = (found, { r with cache.hits := r.cache.hits + 1 }, s) := by
  rw [resolve, Cache.get_of_kept h]

theorem resolve_of_not_kept (h : r.cache.kept? s.generation (trimmed input) = none) :
    ∃ found runs t entries, search (trimmed input) s Strategy.all = (found, runs, t) ∧
      r.resolve input s = (found,
        { count r found runs with cache := { r.cache with entries, misses := r.cache.misses + 1 } },
        t) := by
  obtain ⟨entries, hget⟩ := Cache.get_of_not_kept h
  rw [resolve, hget]
  generalize search (trimmed input) s Strategy.all = answer
  obtain ⟨found, runs, t⟩ := answer
  exact ⟨found, runs, t, _, rfl, rfl⟩

/-- One lookup counts as the search goes. -/
theorem lookedUp_resolve (r : Resolver) (s : Snapshot) (input : String) :
    r.stats.LookedUp (r.resolve input s).1 (r.resolve input s).2.1.stats := by
  cases h : r.cache.kept? s.generation (trimmed input) with
  | some found =>
    rw [resolve_of_kept h]
    exact .kept found
  | none =>
    obtain ⟨found, runs, t, entries, hsearch, hresolve⟩ := resolve_of_not_kept h
    have hruns := runs_search (trimmed input) s Strategy.all
    rw [hsearch] at hruns
    rw [hresolve]
    cases found with
    | none =>
      obtain rfl : runs = 4 := hruns.2.2 rfl
      exact .missing _
    | some found => exact .found found _ runs (hruns.2.1 rfl) hruns.1

theorem kind_resolve (r : Resolver) (s : Snapshot) (input : String) :
    (r.resolve input s).2.1.cache.kind = r.cache.kind := by
  cases h : r.cache.kept? s.generation (trimmed input) with
  | some found => rw [resolve_of_kept h]
  | none =>
    obtain ⟨found, runs, t, entries, _, hresolve⟩ := resolve_of_not_kept h
    rw [hresolve]

theorem generation_resolve (r : Resolver) (s : Snapshot) (input : String) :
    (r.resolve input s).2.2.generation = s.generation := by
  cases h : r.cache.kept? s.generation (trimmed input) with
  | some found => rw [resolve_of_kept h]
  | none =>
    obtain ⟨found, runs, t, entries, hsearch, hresolve⟩ := resolve_of_not_kept h
    have ht := generation_search (trimmed input) s Strategy.all
    rw [hsearch] at ht
    rw [hresolve]
    exact ht

theorem misses_resolve (r : Resolver) (s : Snapshot) (input : String) :
    (r.resolve input s).2.1.cache.misses = r.cache.misses +
      if (r.cache.kept? s.generation (trimmed input)).isSome then 0 else 1 := by
  cases h : r.cache.kept? s.generation (trimmed input) with
  | some found =>
    rw [resolve_of_kept h]
    rfl
  | none =>
    obtain ⟨found, runs, t, entries, _, hresolve⟩ := resolve_of_not_kept h
    rw [hresolve]
    rfl

theorem isSome_kept?_resolve (r : Resolver) (s : Snapshot) (input key : String) :
    ((r.resolve input s).2.1.cache.kept? s.generation key).isSome ↔
      key = trimmed input ∨ (r.cache.kept? s.generation key).isSome := by
  have hkept := r.cache.kept?_get s.generation (trimmed input) key
  have hvalue := r.cache.get_fst s.generation (trimmed input)
  rw [resolve]
  split
  · next found cache heq =>
    rw [heq] at hkept hvalue
    rw [hkept]
    refine (or_iff_right_of_imp ?_).symm
    rintro rfl
    rw [← hvalue]
    rfl
  · next cache heq =>
    rw [heq] at hkept
    have hgeneration := generation_search (trimmed input) s Strategy.all
    generalize search (trimmed input) s Strategy.all = answer at hgeneration ⊢
    obtain ⟨found, runs, t⟩ := answer
    simp only at hgeneration
    simp only [hgeneration, count, Cache.kept?_insert]
    rw [hkept]
    split
    · next hkey => simp [hkey]
    · next hkey => simp [hkey]

end Resolver

end CliMetadata
