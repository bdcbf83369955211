import CliMetadata.Proofs.Assembly.Listed
import Mathlib.Data.List.Perm.Subperm
import Mathlib.Data.Nat.Find

namespace CliMetadata.Assembly

section Definitions

variable {a : Assembly} {token : Token}

def definitionTables : List Nat :=
  [Table.typeDef, .methodDef, .field, .property, .event].map Table.number

theorem table_of_contains (h : a.contains token = true) : token.table ∈ definitionTables := by
  rw [contains] at h
  simp only [Bool.or_eq_true, Option.isSome_iff_exists] at h
  obtain (((⟨_, h⟩ | ⟨_, h⟩) | ⟨_, h⟩) | ⟨_, h⟩) | ⟨_, h⟩ := h <;>
    rw [table_of_rowOf? h] <;> decide

theorem resolve?_of_contains (h : a.contains token = true) : a.resolve? token = some token := by
  have htable := table_of_contains h
  have hother (table : Table) (hne : table.number ∉ definitionTables) :
      ¬token.isIn table = true := by
    rw [Token.isIn, beq_iff_eq]
    exact fun heq ↦ hne (heq ▸ htable)
  rw [resolve?, resolveWithin, if_neg (hother .memberRef (by decide)),
    if_neg (hother .methodSpec (by decide)), if_neg (hother .typeSpec (by decide)), if_pos h]

theorem resolve?_standAloneSig (h : token.isIn .standAloneSig = true) :
    a.resolve? token = none := by
  rw [Token.isIn, beq_iff_eq] at h
  have hother (table : Table) (hne : Table.standAloneSig.number ≠ table.number) :
      ¬token.isIn table = true := by
    rwa [Token.isIn, beq_iff_eq, h]
  have hcontains : ¬a.contains token = true := by
    intro hin
    have htable := table_of_contains hin
    rw [h] at htable
    exact absurd htable (by decide)
  rw [resolve?, resolveWithin, if_neg (hother .memberRef (by decide)),
    if_neg (hother .methodSpec (by decide)), if_neg (hother .typeSpec (by decide)),
    if_neg hcontains]

theorem contains_of_method? {m : MethodDef} (h : a.method? token = some m) :
    a.contains token = true := by
  simp [contains, h]

theorem contains_of_standsAt {x : Symbol} (h : x.StandsAt a token) : a.contains token = true := by
  cases x <;> rw [Symbol.StandsAt] at h <;> simp [contains, h]

end Definitions

variable (a : Assembly)

/-- A definition stands for itself, a reference or a specification for what it spells out. -/
inductive StandsFor : Token → Token → Prop
  | definition {token : Token} : a.contains token = true → StandsFor token token
  | type {token d : Token} : token.isIn .typeSpec = true → a.resolveType? token = some d →
      StandsFor token d
  | member {token d : Token} : token.isIn .memberRef = true →
      a.resolveMemberRef? token = some d → StandsFor token d
  | instance {token d : Token} {spec : MethodSpec} : token.isIn .methodSpec = true →
      a.methodSpec? token = some spec → StandsFor spec.method d → StandsFor token d

variable {a} {token d : Token} {m n : Nat}

theorem standsFor_of_resolveWithin (h : a.resolveWithin n token = some d) :
    a.StandsFor token d := by
  induction n generalizing token with
  | zero => cases h
  | succ n ih =>
    rw [resolveWithin] at h
    by_cases hmember : token.isIn .memberRef = true
    · rw [if_pos hmember] at h
      exact .member hmember h
    rw [if_neg hmember] at h
    by_cases hspec : token.isIn .methodSpec = true
    · rw [if_pos hspec] at h
      obtain ⟨spec, hrow, h⟩ := Option.bind_eq_some_iff.1 h
      exact .instance hspec hrow (ih h)
    rw [if_neg hspec] at h
    by_cases htype : token.isIn .typeSpec = true
    · rw [if_pos htype] at h
      exact .type htype h
    rw [if_neg htype] at h
    split at h
    · next hcontains =>
      cases h
      exact .definition hcontains
    · cases h

theorem exists_resolveWithin (h : a.StandsFor token d) :
    ∃ n, a.resolveWithin n token = some d := by
  induction h with
  | definition hcontains => exact ⟨_, resolve?_of_contains hcontains⟩
  | type htype hd =>
    refine ⟨1, ?_⟩
    rw [resolveWithin, if_neg (not_isIn htype (by decide)), if_neg (not_isIn htype (by decide)),
      if_pos htype, hd]
  | member hmember hd => exact ⟨1, by rw [resolveWithin, if_pos hmember, hd]⟩
  | «instance» hspec hrow _ ih =>
    obtain ⟨n, hn⟩ := ih
    refine ⟨n + 1, ?_⟩
    rw [resolveWithin, if_neg (not_isIn hspec (by decide)), if_pos hspec, hrow, Option.bind_some,
      hn]

theorem resolveWithin_mono (h : a.resolveWithin m token = some d) (hle : m ≤ n) :
    a.resolveWithin n token = some d := by
  induction m generalizing token n with
  | zero => cases h
  | succ m ih =>
    obtain ⟨n, rfl⟩ : ∃ k, n = k + 1 := ⟨n - 1, by omega⟩
    rw [resolveWithin] at h ⊢
    split at h
    · next hmember => rwa [if_pos hmember]
    · next hmember =>
      rw [if_neg hmember]
      split at h
      · next hspec =>
        obtain ⟨spec, hrow, h⟩ := Option.bind_eq_some_iff.1 h
        rw [if_pos hspec, hrow, Option.bind_some, ih h (by omega)]
      · next hspec => rwa [if_neg hspec]

/-- A token stands for a definition with so many steps, and not with fewer. -/
def Needs (a : Assembly) (d : Token) (n : Nat) (token : Token) : Prop :=
  a.resolveWithin n token = some d ∧ ∀ k < n, a.resolveWithin k token ≠ some d

theorem Needs.unique (h : Needs a d m token) (h' : Needs a d n token) : m = n := by
  rcases Nat.lt_trichotomy m n with hlt | heq | hlt
  · exact absurd h.1 (h'.2 m hlt)
  · exact heq
  · exact absurd h'.1 (h.2 n hlt)

/-- Only generic methods need another step. -/
theorem Needs.step (h : Needs a d (n + 2) token) :
    ∃ spec, a.methodSpec? token = some spec ∧ Needs a d (n + 1) spec.method := by
  obtain ⟨hfound, hleast⟩ := h
  have hone := hleast 1 (by omega)
  have hshorter := hleast (n + 1) (by omega)
  rw [resolveWithin] at hfound hone
  split at hfound
  · next hmember => exact absurd hfound (by simpa [hmember] using hone)
  · next hmember =>
    split at hfound
    · next hspec =>
      obtain ⟨spec, hrow, hmethod⟩ := Option.bind_eq_some_iff.1 hfound
      refine ⟨spec, hrow, hmethod, fun k hk hearlier ↦ hleast (k + 1) (by omega) ?_⟩
      rw [resolveWithin, if_neg hmember, if_pos hspec, hrow, Option.bind_some, hearlier]
    · next hspec =>
      rw [if_neg hmember, if_neg hspec] at hone
      exact absurd hfound hone

theorem Needs.exists_spec (h : Needs a d (n + 2 + m) token) :
    ∃ t spec, a.methodSpec? t = some spec ∧ Needs a d (n + 2) t := by
  induction m generalizing token with
  | zero =>
    obtain ⟨spec, hrow, _⟩ := h.step
    exact ⟨token, spec, hrow, h⟩
  | succ m ih =>
    have hsteps : n + 2 + (m + 1) = n + 1 + m + 2 := by omega
    rw [hsteps] at h
    obtain ⟨spec, _, hrest⟩ := h.step
    have hfewer : n + 1 + m + 1 = n + 2 + m := by omega
    rw [hfewer] at hrest
    exact ih hrest

/-- No token needs more steps than there are generic methods, and one more: those on the way need
different numbers of steps, so they are different. -/
theorem Needs.le (hrows : a.RowsNumbered) (h : Needs a d (n + 1) token) :
    n ≤ a.methodSpecs.size := by
  have hpassed (i : Nat) (hi : i < n) :
      ∃ t ∈ a.methodSpecs.toList.map (·.token), Needs a d (i + 2) t := by
    obtain ⟨k, rfl⟩ := Nat.exists_eq_add_of_lt hi
    have hsteps : i + k + 1 + 1 = i + 2 + k := by omega
    rw [hsteps] at h
    obtain ⟨t, spec, hrow, ht⟩ := h.exists_spec
    obtain ⟨_, _, hget⟩ := Option.bind_eq_some_iff.1 hrow
    refine ⟨t, List.mem_map.2 ⟨spec, ?_, hrows.methodSpecs.token_rowOf? hrow⟩, ht⟩
    exact Array.mem_toList_iff.2 (Array.mem_of_getElem? hget)
  choose! passed hmem hneeds using hpassed
  have hnodup : ((List.range n).map passed).Nodup := by
    refine List.Nodup.map_on (fun i hi j hj heq ↦ ?_) List.nodup_range
    have hi := hneeds i (List.mem_range.1 hi)
    have hj := hneeds j (List.mem_range.1 hj)
    have hsteps := hi.unique (heq ▸ hj)
    omega
  have hsubset : (List.range n).map passed ⊆ a.methodSpecs.toList.map (·.token) := by
    intro t ht
    obtain ⟨i, hi, rfl⟩ := List.mem_map.1 ht
    exact hmem i (List.mem_range.1 hi)
  have hlength := (hnodup.subperm hsubset).length_le
  simpa using hlength

theorem RowsNumbered.resolve?_eq_some_iff (hrows : a.RowsNumbered) :
    a.resolve? token = some d ↔ a.StandsFor token d := by
  classical
  refine ⟨standsFor_of_resolveWithin, fun h ↦ ?_⟩
  have hexists := exists_resolveWithin h
  have hneeds : Needs a d (Nat.find hexists) token :=
    ⟨Nat.find_spec hexists, fun k hk ↦ Nat.find_min hexists hk⟩
  cases hn : Nat.find hexists with
  | zero =>
    rw [hn] at hneeds
    cases hneeds.1
  | succ n =>
    rw [hn] at hneeds
    have hle := hneeds.le hrows
    exact resolveWithin_mono hneeds.1 (by omega)

end CliMetadata.Assembly
