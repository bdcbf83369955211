import CliMetadata.Proofs.Cache
import Mathlib.Data.Finset.Card

namespace CliMetadata

/-- What can happen to a cache. A lookup comes with what it found. -/
inductive CacheEvent (κ ν : Type) where
  | stored (key : κ) (generation : Nat) (value : ν)
  | lookedUp (key : κ) (generation : Nat) (found : Option ν)
  | cleared

namespace CacheEvent

variable {κ ν : Type}

def isLookup : CacheEvent κ ν → Bool
  | lookedUp .. => true
  | stored .. | cleared => false

def isHit : CacheEvent κ ν → Bool
  | lookedUp _ _ found => found.isSome
  | stored .. | cleared => false

/-- An event that leaves the value that is stored for a key under a generation. -/
def Spares (key : κ) (generation : Nat) : CacheEvent κ ν → Prop
  | stored other _ _ => other ≠ key
  | lookedUp other asked _ => other = key → asked = generation
  | cleared => False

/-- Behind some events, the value that was stored last for a key under a generation is left. -/
def Stands (past : List (CacheEvent κ ν)) (key : κ) (generation : Nat) (value : ν) : Prop :=
  ∃ before since, past = before ++ stored key generation value :: since ∧
    ∀ e ∈ since, e.Spares key generation

variable {past : List (CacheEvent κ ν)} {key : κ} {generation : Nat} {value : ν}

/-- One more event stores the value or leaves it. -/
theorem stands_concat {e : CacheEvent κ ν} :
    Stands (past ++ [e]) key generation value ↔ e = stored key generation value ∨
      Stands past key generation value ∧ e.Spares key generation := by
  constructor
  · rintro ⟨before, since, hpast, hspares⟩
    obtain rfl | ⟨since, last, rfl⟩ := since.eq_nil_or_concat
    · obtain ⟨_, he⟩ := List.append_inj' hpast rfl
      exact .inl (List.singleton_inj.1 he)
    · rw [List.concat_eq_append, ← List.cons_append, ← List.append_assoc] at hpast
      obtain ⟨hfront, he⟩ := List.append_inj' hpast rfl
      obtain rfl := List.singleton_inj.1 he
      refine .inr ⟨⟨before, since, hfront, fun x hx ↦ hspares x ?_⟩, hspares e ?_⟩
      · simp [hx]
      · simp
  · rintro (rfl | ⟨⟨before, since, rfl, hspares⟩, he⟩)
    · exact ⟨past, [], rfl, fun _ h ↦ by cases h⟩
    · refine ⟨before, since ++ [e], by simp, fun x hx ↦ ?_⟩
      obtain hx | hx := List.mem_append.1 hx
      · exact hspares x hx
      · rw [List.mem_singleton.1 hx]
        exact he

end CacheEvent

inductive CacheCall (κ ν : Type) where
  | get (key : κ) (generation : Nat)
  | insert (key : κ) (generation : Nat) (value : ν)
  | getOrInsert (key : κ) (generation : Nat) (value : Unit → ν)
  | clear

section Calls

variable {κ ν : Type} [DecidableEq κ]

namespace CacheCall

def after (c : Cache κ ν) : CacheCall κ ν → Cache κ ν
  | get key generation => (c.get key generation).2
  | insert key generation value => c.insert key generation value
  | getOrInsert key generation value => (c.getOrInsert key generation value).2
  | clear => c.clear

def events (c : Cache κ ν) : CacheCall κ ν → List (CacheEvent κ ν)
  | get key generation => [.lookedUp key generation (c.get key generation).1]
  | insert key generation value => [.stored key generation value]
  | getOrInsert key generation value =>
    match (c.get key generation).1 with
    | some found => [.lookedUp key generation (some found)]
    | none => [.lookedUp key generation none, .stored key generation (value ())]
  | clear => [.cleared]

end CacheCall

namespace Cache

def perform (c : Cache κ ν) (calls : List (CacheCall κ ν)) : Cache κ ν :=
  calls.foldl CacheCall.after c

def history : Cache κ ν → List (CacheCall κ ν) → List (CacheEvent κ ν)
  | _, [] => []
  | c, call :: calls => call.events c ++ history (call.after c) calls

end Cache

namespace Entries

def Distinct (e : Entries κ ν) : Prop := (e.toList.map Prod.fst).Nodup

theorem Distinct.erase {e : Entries κ ν} (h : e.Distinct) (key : κ) : (e.erase key).Distinct :=
  h.sublist (List.filter_sublist.map Prod.fst)

theorem Distinct.insert {e : Entries κ ν} (h : e.Distinct) (key : κ) (value : ν) :
    (e.insert key value).Distinct := by
  refine List.nodup_cons.2 ⟨fun hkey ↦ ?_, h.erase key⟩
  obtain ⟨entry, hentry, rfl⟩ := List.mem_map.1 hkey
  simp [Entries.erase] at hentry

theorem mem_keys_iff (e : Entries κ ν) (key : κ) :
    key ∈ e.toList.map Prod.fst ↔ ∃ value, e.find? key = some value := by
  rw [← Option.isSome_iff_exists, find?, Option.isSome_map, List.find?_isSome]
  simp

end Entries

namespace Cache

open CacheEvent

variable {c : Cache κ ν} {past : List (CacheEvent κ ν)} (key : κ) (asked : Nat)

theorem find?_get_eq_some_iff {other : κ} {generation : Nat} {value : ν} :
    (c.get key asked).2.entries.find? other = some (generation, value) ↔
      c.entries.find? other = some (generation, value) ∧ (key = other → asked = generation) := by
  rw [get]
  split
  · next hnone =>
    refine (and_iff_left_of_imp fun h ↦ ?_).symm
    rintro rfl
    rw [hnone] at h
    cases h
  · next stored kept hkept =>
    split
    · next hsame =>
      refine (and_iff_left_of_imp fun h ↦ ?_).symm
      rintro rfl
      rw [hkept] at h
      cases h
      exact hsame.symm
    · next hother =>
      rw [Entries.find?_erase]
      split
      · next heq =>
        subst heq
        rw [hkept]
        constructor
        · rintro ⟨⟩
        · rintro ⟨⟨⟩, h⟩
          exact absurd (h rfl).symm hother
      · next hne => simp [Ne.symm hne]

theorem hits_get :
    (c.get key asked).2.hits = c.hits + if (c.get key asked).1.isSome then 1 else 0 := by
  rw [get]
  split
  · rfl
  · split <;> rfl

theorem lookups_get :
    (c.get key asked).2.hits + (c.get key asked).2.misses = c.hits + c.misses + 1 := by
  rw [get]
  split
  · rfl
  · split
    · exact Nat.add_right_comm c.hits 1 c.misses
    · rfl

/-- A cache whose entries and counters are those that a history tells. -/
structure Follows (c : Cache κ ν) (past : List (CacheEvent κ ν)) : Prop where
  entries : ∀ key generation value,
    c.entries.find? key = some (generation, value) ↔ Stands past key generation value
  distinct : c.entries.Distinct
  lookups : c.hits + c.misses = past.countP isLookup
  hits : c.hits = past.countP isHit

theorem follows_nil (kind : CacheKind) (name : String) :
    Follows ({ kind, name } : Cache κ ν) [] where
  entries key generation value := by simp [Entries.find?, Stands]
  distinct := List.nodup_nil
  lookups := rfl
  hits := rfl

namespace Follows

theorem get (h : c.Follows past) :
    (c.get key asked).2.Follows (past ++ [.lookedUp key asked (c.get key asked).1]) where
  entries other generation value := by
    rw [find?_get_eq_some_iff, h.entries, stands_concat]
    simp [Spares]
  distinct := by
    rw [Cache.get]
    split
    · exact h.distinct
    · split
      · exact h.distinct
      · exact h.distinct.erase key
  lookups := by
    rw [lookups_get, h.lookups, List.countP_append]
    rfl
  hits := by
    rw [hits_get, h.hits, List.countP_append, List.countP_singleton]
    rfl

theorem insert (h : c.Follows past) (value : ν) :
    (c.insert key asked value).Follows (past ++ [.stored key asked value]) where
  entries other generation found := by
    rw [Cache.insert, Entries.find?_insert, stands_concat]
    split
    · next heq => simp [heq, Spares]
    · next hne => simp [h.entries, Spares, Ne.symm hne]
  distinct := h.distinct.insert key _
  lookups := by
    rw [List.countP_append]
    exact h.lookups
  hits := by
    rw [List.countP_append]
    exact h.hits

theorem clear (h : c.Follows past) : c.clear.Follows (past ++ [.cleared]) where
  entries key generation value := by simp [Cache.clear, Entries.find?, stands_concat, Spares]
  distinct := List.nodup_nil
  lookups := by
    rw [List.countP_append]
    exact h.lookups
  hits := by
    rw [List.countP_append]
    exact h.hits

theorem call (h : c.Follows past) (call : CacheCall κ ν) :
    (call.after c).Follows (past ++ call.events c) := by
  cases call with
  | get key generation => exact h.get key generation
  | insert key generation value => exact h.insert key generation value
  | getOrInsert key generation value =>
    have hget := h.get key generation
    rw [CacheCall.after, CacheCall.events, getOrInsert]
    generalize c.get key generation = answer at hget ⊢
    obtain ⟨_ | found, d⟩ := answer
    · have hinsert := hget.insert key generation (value ())
      rwa [List.append_assoc] at hinsert
    · exact hget
  | clear => exact h.clear

theorem perform (h : c.Follows past) (calls : List (CacheCall κ ν)) :
    (c.perform calls).Follows (past ++ c.history calls) := by
  induction calls generalizing c past with
  | nil => rwa [history, List.append_nil]
  | cons call calls ih =>
    rw [history, ← List.append_assoc]
    exact ih (h.call call)

end Follows

/-- Behind any calls, a lookup finds a value if and only if the value stands under the generation
that is asked for, and a new value is made if none does. The lookups are counted, by whether they
found a value, and there is one entry for each key for which a value stands. -/
theorem perform_followsHistory (kind : CacheKind) (name : String) (calls : List (CacheCall κ ν)) :
    let start : Cache κ ν := { kind, name }
    let c := start.perform calls
    let past := start.history calls
    (∀ key generation value,
      (c.get key generation).1 = some value ↔ Stands past key generation value) ∧
    (∀ key generation make,
      (c.getOrInsert key generation make).1 = (c.get key generation).1.getD (make ())) ∧
    c.stats.hits + c.stats.misses = past.countP isLookup ∧
    c.stats.hits = past.countP isHit ∧
    ∃ keys : Finset κ, keys.card = c.stats.entries ∧
      ∀ key, key ∈ keys ↔ ∃ generation value, Stands past key generation value := by
  intro start c past
  have h : c.Follows past := (follows_nil kind name).perform calls
  refine ⟨fun key generation value ↦ ?_, fun key generation make ↦ ?_, h.lookups, h.hits,
    (c.entries.toList.map Prod.fst).toFinset, ?_, fun key ↦ ?_⟩
  · rw [← h.entries, get_fst, kept?]
    cases c.entries.find? key with
    | none => simp
    | some entry =>
      obtain ⟨stored, kept⟩ := entry
      by_cases hstored : stored = generation <;> simp [hstored]
  · rw [getOrInsert_fst, get_fst]
  · rw [List.toFinset_card_of_nodup h.distinct, List.length_map]
    rfl
  · rw [List.mem_toFinset, Entries.mem_keys_iff, Prod.exists]
    simp only [h.entries]

end Cache

end Calls

end CliMetadata
