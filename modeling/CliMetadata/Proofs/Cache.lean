import CliMetadata.Cache

namespace CliMetadata

variable {κ ν : Type} [DecidableEq κ]

namespace Entries

variable (e : Entries κ ν) (key other : κ)

theorem find?_erase : (e.erase key).find? other = if other = key then none else e.find? other := by
  rw [find?, find?, erase, List.find?_filter]
  split
  · next h =>
    have hnone : e.toList.find? (fun p ↦ p.1 != key && p.1 == other) = none := by
      rw [List.find?_eq_none]
      intro p _ hp
      simp [h] at hp
    simpa using hnone
  · next h =>
    congr 2
    funext p
    by_cases hp : p.1 = other
    · simp [hp, h]
    · simp [hp]

theorem find?_insert (value : ν) :
    (e.insert key value).find? other = if other = key then some value else e.find? other := by
  have h := e.find?_erase key other
  rw [find?] at h
  rw [find?, insert, List.find?_cons]
  by_cases hother : other = key
  · simp [hother]
  · have hkey : (key == other) = false := beq_eq_false_iff_ne.2 (Ne.symm hother)
    rw [hkey, if_neg hother]
    rw [if_neg hother] at h
    exact h

end Entries

namespace Cache

variable (c : Cache κ ν) (generation : Nat) (key other : κ)

/-- The value that is there for a key under a generation. -/
def kept? : Option ν :=
  (c.entries.find? key).bind fun p ↦ if p.1 = generation then some p.2 else none

theorem get_fst : (c.get key generation).1 = c.kept? generation key := by
  rw [get, kept?]
  split
  · next h => simp [h]
  · next stored value h => by_cases hg : stored = generation <;> simp [h, hg]

/-- A lookup drops nothing that is there under its generation. -/
theorem kept?_get : (c.get key generation).2.kept? generation other = c.kept? generation other := by
  rw [get]
  split
  · rfl
  · next stored value h =>
    split
    · rfl
    · next hg =>
      rw [kept?, kept?, Entries.find?_erase]
      split
      · next hother => simp [hother, h, hg]
      · rfl

theorem kept?_insert (value : ν) : (c.insert key generation value).kept? generation other
    = if other = key then some value else c.kept? generation other := by
  rw [kept?, insert, Entries.find?_insert]
  split
  · simp
  · rfl

theorem getOrInsert_fst (value : Unit → ν) :
    (c.getOrInsert key generation value).1 = (c.kept? generation key).getD (value ()) := by
  have h := c.get_fst generation key
  rw [getOrInsert]
  split
  · next hget =>
    rw [hget] at h
    rw [← h]
    rfl
  · next hget =>
    rw [hget] at h
    rw [← h]
    rfl

theorem kept?_getOrInsert_of_ne (value : Unit → ν) (h : other ≠ key) :
    (c.getOrInsert key generation value).2.kept? generation other = c.kept? generation other := by
  have hget := c.kept?_get generation key other
  rw [getOrInsert]
  split
  · next heq =>
    rw [heq] at hget
    exact hget
  · next heq =>
    rw [heq] at hget
    rw [kept?_insert, if_neg h]
    exact hget

variable {c generation key}

theorem get_of_kept {value : ν} (h : c.kept? generation key = some value) :
    c.get key generation = (some value, { c with hits := c.hits + 1 }) := by
  obtain ⟨⟨stored, found⟩, hfind, hfound⟩ := Option.bind_eq_some_iff.1 h
  split at hfound
  · next hsame =>
    cases hfound
    simp only at hsame
    rw [get, hfind]
    simp only [hsame, if_true]
  · cases hfound

theorem get_of_not_kept (h : c.kept? generation key = none) :
    ∃ entries, c.get key generation = (none, { c with entries, misses := c.misses + 1 }) := by
  rw [kept?] at h
  rw [get]
  split
  · exact ⟨_, rfl⟩
  · next stored value hfind =>
    rw [hfind] at h
    split
    · next hsame => simp [hsame] at h
    · exact ⟨_, rfl⟩

end Cache

end CliMetadata
