import CliMetadata.Proofs.Analyzer.Lifecycle
import CliMetadata.Proofs.Resolution.Counting
import Mathlib.Data.Finset.Card

namespace CliMetadata.Analyzer

/-- The resolvers that look at an analyzer's assembly: its own, and those that are attached. -/
inductive Seat where
  | own
  | attached (place : Nat)

def Call.emptiesResolvers (z : Analyzer) : Call → Bool
  | stay (.clearCaches kind) => kind.all (CacheKind.resolution == ·)
  | unload => true
  | c => (c.load? z).any (·.isOk)

def Call.isQuery : Call → Bool
  | stay (.ask _) => true
  | _ => false

/-- What can happen around a resolver: it is asked for a text's symbol, it is emptied by itself, or
something is called that asks nothing. -/
inductive Turn where
  | resolve (input : String)
  | clear
  | meanwhile (c : Call) (asksNothing : c.isQuery = false)

namespace Turn

def lookup? (z : Analyzer) : Turn → Option String
  | resolve input => if z.isLoaded then some (trimmed input) else none
  | _ => none

def invalidates (z : Analyzer) : Turn → Bool
  | resolve _ => false
  | clear => true
  | meanwhile c _ => c.emptiesResolvers z

end Turn

namespace Seat

def resolver? (z : Analyzer) : Seat → Option Resolver
  | own => some z.resolver
  | attached place => z.attached[place]?

def resolve? (input : String) : Seat → Query (Option Symbol)
  | own => Analyzer.resolve? input
  | attached place => attachedResolve? place input

def clear (z : Analyzer) : Seat → Analyzer
  | own => { z with resolver := z.resolver.clear }
  | attached place => { z with attached := z.attached.modify place Resolver.clear }

variable (seat : Seat) {z : Analyzer} {r : Resolver} {s : Snapshot}

def after (z : Analyzer) : Turn → Analyzer
  | .resolve input => (seat.resolve? input z).2
  | .clear => seat.clear z
  | .meanwhile c _ => c.after z

def run (z : Analyzer) (turns : List Turn) : Analyzer := turns.foldl seat.after z

def lookups (z : Analyzer) : List Turn → List String
  | [] => []
  | t :: turns => (t.lookup? z).toList ++ lookups (seat.after z t) turns

/-- Turns that leave the resolver what it keeps. -/
def Quiet (z : Analyzer) : List Turn → Prop
  | [] => True
  | t :: turns => t.invalidates z = false ∧ Quiet (seat.after z t) turns

def Fresh (z : Analyzer) (turns : List Turn) : Prop :=
  turns = [] ∨ ∃ before t, turns = before ++ [t] ∧ t.invalidates (seat.run z before)

variable {seat}

theorem resolve?_of_loaded (hr : seat.resolver? z = some r) (hs : z.snapshot = some s)
    (input : String) :
    (seat.resolve? input z).1 = .ok (r.resolve input s).1 ∧
      seat.resolver? (seat.resolve? input z).2 = some (r.resolve input s).2.1 ∧
      (seat.resolve? input z).2.snapshot = some (r.resolve input s).2.2 := by
  cases seat with
  | own =>
    cases hr
    rw [resolve?, Analyzer.resolve?, withResolver, hs]
    exact ⟨rfl, rfl, rfl⟩
  | attached place =>
    rw [resolver?] at hr
    rw [resolve?, attachedResolve?, withAttached, hs, hr]
    refine ⟨rfl, ?_, rfl⟩
    exact List.getElem?_set_self (List.getElem?_eq_some_iff.1 hr).1

theorem resolve?_of_unloaded (hs : z.snapshot = none) (input : String) :
    (seat.resolve? input z).2 = z := by
  cases seat with
  | own => exact congrArg Prod.snd (refused_withResolver _ z hs)
  | attached place => exact congrArg Prod.snd (refused_withAttached place _ z hs)

theorem resolver?_clear (hr : seat.resolver? z = some r) :
    seat.resolver? (seat.clear z) = some r.clear := by
  cases seat with
  | own =>
    cases hr
    rfl
  | attached place =>
    rw [resolver?] at hr
    rw [clear, resolver?, List.getElem?_modify, hr]
    simp

theorem resolver?_clearCaches (hr : seat.resolver? z = some r) (kind : Option CacheKind) :
    seat.resolver? (z.clearCaches kind)
      = some (if kind.all (r.cache.kind == ·) then r.clear else r) := by
  have hreset : ({ r with cache := if kind.all (r.cache.kind == ·) then r.cache.clear else r.cache }
      : Resolver) = if kind.all (r.cache.kind == ·) then r.clear else r := by
    split <;> rfl
  rw [← hreset]
  cases seat with
  | own =>
    cases hr
    rfl
  | attached place =>
    rw [resolver?] at hr
    rw [resolver?, clearCaches, List.getElem?_map, hr]
    rfl

theorem resolver?_attach (hr : seat.resolver? z = some r) :
    seat.resolver? (z.attach {}) = some r := by
  cases seat with
  | own => exact hr
  | attached place =>
    obtain ⟨hlt, _⟩ := List.getElem?_eq_some_iff.1 hr
    exact (List.getElem?_append_left hlt).trans hr

theorem resolver?_install (hr : seat.resolver? z = some r) (now : Nat) (files : Files)
    (a : Assembly) (source : Option LoadSource) :
    seat.resolver? (z.install now files a source).2 = some r.clear := by
  have hclear := resolver?_clearCaches hr none
  cases seat <;> exact hclear

theorem resolver?_unload (hr : seat.resolver? z = some r) :
    seat.resolver? z.unload = some r.clear := by
  have hclear := resolver?_clearCaches hr none
  cases seat <;> exact hclear

inductive Turned (seat : Seat) (z : Analyzer) (r : Resolver) (t : Turn) : Prop
  | lookup (input : String) (s : Snapshot) (hlookup : t.lookup? z = some (trimmed input))
      (hinvalidates : t.invalidates z = false) (hs : z.snapshot = some s)
      (hresolver : seat.resolver? (seat.after z t) = some (r.resolve input s).2.1)
      (hsnapshot : (seat.after z t).snapshot = some (r.resolve input s).2.2)
  | emptied (hlookup : t.lookup? z = none) (hinvalidates : t.invalidates z = true)
      (hresolver : seat.resolver? (seat.after z t) = some r.clear)
  | same (hlookup : t.lookup? z = none) (hinvalidates : t.invalidates z = false)
      (hresolver : seat.resolver? (seat.after z t) = some r)
      (hsnapshot : (seat.after z t).snapshot = z.snapshot)

theorem turned_resolve (hr : seat.resolver? z = some r) (input : String) :
    Turned seat z r (.resolve input) := by
  cases hs : z.snapshot with
  | some s =>
    obtain ⟨_, hresolver, hsnapshot⟩ := resolve?_of_loaded hr hs input
    refine .lookup input s ?_ rfl hs hresolver hsnapshot
    rw [Turn.lookup?, isLoaded, hs]
    rfl
  | none =>
    have hsame : seat.after z (.resolve input) = z := resolve?_of_unloaded hs input
    refine .same ?_ rfl ?_ ?_
    · rw [Turn.lookup?, isLoaded, hs]
      rfl
    · rwa [hsame]
    · rw [hsame]

theorem turned_load (hr : seat.resolver? z = some r) (c : Call) (hc : c.isQuery = false)
    {answer : Except Error LoadInfo} (h : c.load? z = some answer)
    (hempties : c.emptiesResolvers z = answer.isOk) : Turned seat z r (.meanwhile c hc) := by
  have hloaded := Call.loaded_of_load? h
  have hafter : seat.after z (.meanwhile c hc) = c.after z := rfl
  generalize c.after z = y at hloaded hafter
  cases hloaded with
  | failed e =>
    refine .same rfl hempties ?_ ?_
    · rwa [hafter]
    · rw [hafter]
  | installed now files a source =>
    refine .emptied rfl hempties ?_
    rw [hafter]
    exact resolver?_install hr now files a source

theorem turned (hr : seat.resolver? z = some r) (hkind : r.cache.kind = .resolution) (t : Turn) :
    Turned seat z r t := by
  cases t with
  | resolve input => exact turned_resolve hr input
  | clear => exact .emptied rfl rfl (resolver?_clear hr)
  | meanwhile c hc =>
    cases c with
    | stay i =>
      cases i with
      | ask q => cases hc
      | clearCaches kind =>
        have hclear := resolver?_clearCaches hr kind
        rw [hkind] at hclear
        cases hchosen : kind.all (CacheKind.resolution == ·) with
        | true =>
          rw [hchosen] at hclear
          exact .emptied rfl hchosen hclear
        | false =>
          rw [hchosen] at hclear
          exact .same rfl hchosen hclear rfl
    | attach => exact .same rfl rfl (resolver?_attach hr) rfl
    | install now a => exact turned_load hr _ hc rfl rfl
    | load now files path searchDirectories => exact turned_load hr _ hc rfl rfl
    | reload now files => exact turned_load hr _ hc rfl rfl
    | unload => exact .emptied rfl rfl (resolver?_unload hr)

structure Holds (seat : Seat) (z : Analyzer) (r : Resolver) (lookups : Nat) : Prop where
  resolver : seat.resolver? z = some r
  kind : r.cache.kind = .resolution
  counts : r.stats.Counts lookups

theorem Holds.turn {n : Nat} (h : seat.Holds z r n) (t : Turn) :
    ∃ q, seat.Holds (seat.after z t) q (n + (t.lookup? z).toList.length) := by
  cases turned h.resolver h.kind t with
  | lookup input s hlookup _ hs hresolver =>
    rw [hlookup]
    exact ⟨_, hresolver, (r.kind_resolve s input).trans h.kind,
      h.counts.lookedUp (r.lookedUp_resolve s input)⟩
  | emptied hlookup _ hresolver =>
    rw [hlookup]
    exact ⟨_, hresolver, h.kind, h.counts.misses, h.counts.lookups⟩
  | same hlookup _ hresolver =>
    rw [hlookup]
    exact ⟨_, hresolver, h.kind, h.counts⟩

theorem Holds.run {n : Nat} (h : seat.Holds z r n) (turns : List Turn) :
    ∃ q, seat.Holds (seat.run z turns) q (n + (seat.lookups z turns).length) := by
  induction turns generalizing z r n with
  | nil => exact ⟨r, h⟩
  | cons t turns ih =>
    obtain ⟨q, hq⟩ := h.turn t
    rw [lookups, List.length_append, ← Nat.add_assoc]
    exact ih hq

/-- Of the loaded assembly, a resolver keeps the answers for these texts. -/
def Keeps (r : Resolver) (s? : Option Snapshot) (seen : Finset String) : Prop :=
  ∀ s, s? = some s → ∀ key, (r.cache.kept? s.generation key).isSome ↔ key ∈ seen

/-- A resolver that is left what it keeps searches for a text if it does not keep it yet. -/
theorem Keeps.turn {n : Nat} {seen : Finset String} {q : Resolver} {t : Turn}
    (hkeeps : Keeps r z.snapshot seen) (h : seat.Holds z r n) (hquiet : t.invalidates z = false)
    (hq : seat.resolver? (seat.after z t) = some q) :
    Keeps q (seat.after z t).snapshot (seen ∪ (t.lookup? z).toList.toFinset) ∧
      q.cache.misses + seen.card
        = r.cache.misses + (seen ∪ (t.lookup? z).toList.toFinset).card := by
  cases turned h.resolver h.kind t with
  | lookup input s hlookup _ hs hresolver hsnapshot =>
    obtain rfl := Option.some.inj (hresolver.symm.trans hq)
    have hseen : seen ∪ (some (trimmed input)).toList.toFinset = insert (trimmed input) seen := by
      rw [Finset.insert_eq, Finset.union_comm]
      rfl
    have hkept := hkeeps s hs
    rw [hlookup, hseen, hsnapshot, r.misses_resolve, Finset.card_insert_eq_ite]
    refine ⟨fun u hu key ↦ ?_, ?_⟩
    · cases hu
      rw [r.generation_resolve, r.isSome_kept?_resolve, hkept, Finset.mem_insert]
    · simp only [hkept]
      split <;> omega
  | emptied _ hinvalidates => simp [hquiet] at hinvalidates
  | same hlookup _ hresolver hsnapshot =>
    obtain rfl := Option.some.inj (hresolver.symm.trans hq)
    rw [hlookup, hsnapshot]
    simpa using hkeeps

/-- In quiet turns, a resolver searches for the texts that it did not keep before, each once. -/
theorem Keeps.run {n : Nat} {seen : Finset String} {q : Resolver} {turns : List Turn}
    (hkeeps : Keeps r z.snapshot seen) (h : seat.Holds z r n) (hquiet : seat.Quiet z turns)
    (hq : seat.resolver? (seat.run z turns) = some q) :
    q.cache.misses + seen.card
      = r.cache.misses + (seen ∪ (seat.lookups z turns).toFinset).card := by
  induction turns generalizing z r n seen with
  | nil =>
    obtain rfl := Option.some.inj (h.resolver.symm.trans hq)
    simp [lookups]
  | cons t turns ih =>
    obtain ⟨p, hp⟩ := h.turn t
    obtain ⟨hkeeps, hmisses⟩ := hkeeps.turn h hquiet.1 hp.resolver
    have hrest := ih hkeeps hp hquiet.2 hq
    rw [lookups, List.toFinset_append, ← Finset.union_assoc]
    omega

theorem keeps_empty (r : Resolver) (h : r.cache.entries = {}) (s? : Option Snapshot) :
    Keeps r s? ∅ := by
  intro s _ key
  rw [Cache.kept?, h]
  simp [Entries.find?]

theorem Fresh.keeps {n : Nat} {turns : List Turn} {q : Resolver} (hfresh : seat.Fresh z turns)
    (h : seat.Holds z {} n) (hq : seat.resolver? (seat.run z turns) = some q) :
    Keeps q (seat.run z turns).snapshot ∅ := by
  obtain rfl | ⟨before, t, rfl, ht⟩ := hfresh
  · obtain rfl := Option.some.inj (h.resolver.symm.trans hq)
    exact keeps_empty _ rfl _
  · obtain ⟨r, hr⟩ := h.run before
    rw [run, List.foldl_append] at hq ⊢
    cases turned hr.resolver hr.kind t with
    | lookup _ _ _ hinvalidates => simp [ht] at hinvalidates
    | emptied _ _ hresolver =>
      obtain rfl := Option.some.inj (hresolver.symm.trans hq)
      exact keeps_empty _ rfl _
    | same _ hinvalidates => simp [ht] at hinvalidates

/-- At every point, the misses of a resolver are its successes and failures, and with the hits its
lookups. One more lookup is a hit, or a search that tries one to four ways, all four if it fails.
From an invalidation to the next, the misses are as many as the texts that are looked up. -/
theorem run_countsLookups (seat : Seat) (z : Analyzer) (hnew : seat.resolver? z = some {})
    (turns : List Turn) :
    let y := seat.run z turns
    ∃ r, seat.resolver? y = some r ∧
      r.stats.misses = r.stats.successes + r.stats.failures ∧
      r.stats.hits + r.stats.misses = (seat.lookups z turns).length ∧
      (∀ input, y.isLoaded → ∃ answer q, (seat.resolve? input y).1 = .ok answer ∧
        seat.resolver? (seat.resolve? input y).2 = some q ∧ r.stats.LookedUp answer q.stats) ∧
      ∀ before stretch, turns = before ++ stretch → seat.Fresh z before →
        seat.Quiet (seat.run z before) stretch →
        ∃ p, seat.resolver? (seat.run z before) = some p ∧
          r.stats.misses
            = p.stats.misses + (seat.lookups (seat.run z before) stretch).toFinset.card := by
  intro y
  have hstart : seat.Holds z {} 0 := ⟨hnew, rfl, rfl, rfl⟩
  obtain ⟨r, hr⟩ := hstart.run turns
  rw [Nat.zero_add] at hr
  refine ⟨r, hr.resolver, hr.counts.misses, hr.counts.lookups, fun input hloaded ↦ ?_, ?_⟩
  · obtain ⟨s, hs⟩ := Option.isSome_iff_exists.1 hloaded
    obtain ⟨hanswer, hresolver, _⟩ := resolve?_of_loaded hr.resolver hs input
    exact ⟨_, _, hanswer, hresolver, r.lookedUp_resolve s input⟩
  · rintro before stretch rfl hfresh hquiet
    obtain ⟨p, hp⟩ := hstart.run before
    refine ⟨p, hp.resolver, ?_⟩
    have hresolver := hr.resolver
    rw [run, List.foldl_append] at hresolver
    have hmisses := (hfresh.keeps hstart hp.resolver).run hp hquiet hresolver
    rwa [Finset.card_empty, Nat.add_zero, Finset.empty_union] at hmisses

theorem run_countsLookups_namingNothing :
    let start : Analyzer := { config := {}, engine := fun _ _ ↦ none }
    let before : List Turn := [.resolve "nothing", .meanwhile (.install 0 .callingItself) rfl]
    let stretch : List Turn := [.resolve "nothing", .resolve " nothing", .resolve "0x02000001"]
    ∃ r, Seat.own.resolver? (Seat.own.run start (before ++ stretch)) = some r ∧
      r.stats.hits = 1 ∧ r.stats.misses = 2 := by
  intro start before stretch
  obtain ⟨r, hr, _, hlookups, _, hstretch⟩ :=
    run_countsLookups .own start rfl (before ++ stretch)
  obtain ⟨p, hp, hmisses⟩ := hstretch before stretch rfl
    (.inr ⟨[.resolve "nothing"], _, rfl, rfl⟩) ⟨rfl, rfl, rfl, trivial⟩
  have hp : p.stats.misses = 0 := by
    cases hp
    rfl
  have hthree : (Seat.own.lookups start (before ++ stretch)).length = 3 := by decide +kernel
  have htwo : (Seat.own.lookups (Seat.own.run start before) stretch).toFinset.card = 2 := by
    decide +kernel
  rw [hthree] at hlookups
  rw [hp, htwo] at hmisses
  exact ⟨r, hr, by omega, hmisses⟩

end Seat

end CliMetadata.Analyzer
