import CliMetadata.Proofs.Analyzer.Run

namespace CliMetadata

section Stored

variable {κ ν : Type}

/-- Caches whose entries were all stored under the generation that there is; without one they are
empty. -/
def Cache.Tagged (c : Cache κ ν) (generation? : Option Nat) : Prop :=
  ∀ entry ∈ c.entries.toList, generation? = some entry.2.1

namespace Cache.Tagged

section Emptied

variable {c : Cache κ ν} {generation? : Option Nat}

theorem clear_tagged (c : Cache κ ν) (generation? : Option Nat) : c.clear.Tagged generation? := by
  intro entry hentry
  cases hentry

theorem clear_if (h : c.Tagged generation?) (chosen : Bool) :
    (if chosen then c.clear else c).Tagged generation? := by
  split
  · exact clear_tagged c generation?
  · exact h

end Emptied

variable [DecidableEq κ] {c : Cache κ ν} {generation : Nat} {key : κ}

theorem get (h : c.Tagged (some generation)) (key : κ) (asked : Nat) :
    (c.get key asked).2.Tagged (some generation) := by
  rw [Cache.get]
  split
  · exact h
  · split
    · exact h
    · exact fun entry hentry ↦ h entry (List.mem_filter.1 hentry).1

theorem insert (h : c.Tagged (some generation)) (value : ν) :
    (c.insert key generation value).Tagged (some generation) := by
  intro entry hentry
  obtain rfl | hentry := List.mem_cons.1 hentry
  · rfl
  · exact h entry (List.mem_filter.1 hentry).1

theorem getOrInsert (h : c.Tagged (some generation)) (value : Unit → ν) :
    (c.getOrInsert key generation value).2.Tagged (some generation) := by
  have hget := h.get key generation
  rw [Cache.getOrInsert]
  split
  · next heq =>
    rw [heq] at hget
    exact hget
  · next heq =>
    rw [heq] at hget
    exact hget.insert _

end Cache.Tagged

variable {α : Type}

def OnDemand.MadeOnce (cell : OnDemand α) : Prop :=
  cell.builds = if cell.value?.isSome then 1 else 0

theorem OnDemand.MadeOnce.get {cell : OnDemand α} (h : cell.MadeOnce) (make : Unit → α) :
    (cell.get make).2.MadeOnce := by
  rw [OnDemand.get]
  split
  · exact h
  · next hnone =>
    rw [MadeOnce, hnone] at h
    rw [MadeOnce, h]
    rfl

end Stored

structure Indexes.MadeOnce (x : Indexes) : Prop where
  typeNames : x.typeNames.MadeOnce
  namespaceTypes : x.namespaceTypes.MadeOnce
  members : x.members.MadeOnce
  namespaces : x.namespaces.MadeOnce

theorem Indexes.MadeOnce.builds_eq {x : Indexes} (h : x.MadeOnce) :
    ∀ i ∈ x.status, i.builds = if i.ready then 1 else 0 := by
  intro i hi
  simp only [status, List.mem_cons, List.not_mem_nil, or_false] at hi
  obtain rfl | rfl | rfl | rfl := hi
  · exact h.typeNames
  · exact h.namespaceTypes
  · exact h.members
  · exact h.namespaces

/-- A snapshot under a generation whose indexes were made at most once each. -/
structure Snapshot.Current (generation : Nat) (s : Snapshot) : Prop where
  generation_eq : s.generation = generation
  indexes : s.indexes.MadeOnce

namespace Snapshot.Current

variable {generation : Nat} {s : Snapshot}

theorem useTypeNames (h : s.Current generation) : s.useTypeNames.2.Current generation :=
  ⟨h.generation_eq, { h.indexes with
    typeNames := h.indexes.typeNames.get fun _ ↦ .ofTypes s.assembly.types.toList }⟩

theorem useNamespaceTypes (h : s.Current generation) : s.useNamespaceTypes.2.Current generation :=
  ⟨h.generation_eq, { h.indexes with
    namespaceTypes := h.indexes.namespaceTypes.get fun _ ↦ .ofTypes s.assembly.types.toList }⟩

theorem useMembers (h : s.Current generation) : s.useMembers.2.Current generation :=
  ⟨h.generation_eq, { h.indexes with
    members := h.indexes.members.get fun _ ↦ .ofAssembly s.assembly }⟩

theorem useNamespaces (h : s.Current generation) : s.useNamespaces.2.Current generation :=
  ⟨h.generation_eq, { h.indexes with
    namespaces := h.indexes.namespaces.get fun _ ↦ sortedNamespaces s.assembly }⟩

theorem strategy (h : s.Current generation) (input : String) (way : Strategy) :
    (way.run input s).2.Current generation := by
  cases way with
  | memberId =>
    rw [Strategy.run]
    split
    · split
      · exact h.useMembers
      · exact h
    · exact h
  | documentationId =>
    rw [Strategy.run]
    split
    · exact h.useTypeNames
    · exact h
  | hexToken => exact h
  | decimalToken => exact h

theorem search (h : s.Current generation) (input : String) (ways : List Strategy) :
    (Resolver.search input s ways).2.2.Current generation := by
  induction ways generalizing s with
  | nil => exact h
  | cons way ways ih =>
    have hway := h.strategy input way
    rw [Resolver.search]
    split
    · next heq =>
      rw [heq] at hway
      exact hway
    · next heq =>
      rw [heq] at hway
      exact ih hway

end Snapshot.Current

namespace Resolver

variable {generation : Nat} {r : Resolver} {s : Snapshot}

theorem resolve_current (input : String) (hr : r.cache.Tagged (some generation))
    (hs : s.Current generation) :
    (r.resolve input s).2.1.cache.Tagged (some generation) ∧
      (r.resolve input s).2.2.Current generation := by
  have hget := hr.get (trimmed input) s.generation
  rw [resolve]
  split
  · next heq =>
    rw [heq] at hget
    exact ⟨hget, hs⟩
  · next heq =>
    rw [heq] at hget
    have hsearch := hs.search (trimmed input) Strategy.all
    generalize search (trimmed input) s Strategy.all = answer at hsearch ⊢
    obtain ⟨found, runs, t⟩ := answer
    rw [← hsearch.generation_eq] at hget ⊢
    exact ⟨hget.insert found, rfl, hsearch.indexes⟩

theorem resolveType_current (input : String) (hr : r.cache.Tagged (some generation))
    (hs : s.Current generation) :
    (r.resolveType input s).2.1.cache.Tagged (some generation) ∧
      (r.resolveType input s).2.2.Current generation := by
  have hresolve := resolve_current input hr hs
  rw [resolveType]
  split
  · next heq =>
    rw [heq] at hresolve
    exact hresolve
  · next heq =>
    rw [heq] at hresolve
    exact hresolve
  · next heq =>
    rw [heq] at hresolve
    exact ⟨hresolve.1, hresolve.2.useTypeNames⟩

end Resolver

namespace Analyzer

/-- An analyzer with an assembly under its generation, which is also that of all it remembers. -/
structure Current (generation : Nat) (z : Analyzer) : Prop where
  generation_eq : z.generation = generation
  snapshot : ∃ s, z.snapshot = some s ∧ s.Current generation
  resolver : z.resolver.cache.Tagged (some generation)
  attached : ∀ r ∈ z.attached, r.cache.Tagged (some generation)
  pages : z.pages.Tagged (some generation)
  edgeScans : z.edgeScans.Tagged (some generation)
  literalScans : z.literalScans.Tagged (some generation)
  sources : z.sources.Tagged (some generation)

/-- A query that keeps to the generation, whatever its answer is. -/
def Stays {α : Type} (generation : Nat) (q : Query α) : Prop :=
  ∀ z, z.Current generation → (q z).2.Current generation

section Queries

variable {α β : Type} {g : Nat} {q : Query α}

theorem stays_of_same (h : ∀ z, (q z).2 = z) : Stays g q := by
  intro z hz
  rw [h z]
  exact hz

theorem stays_pure (x : α) : Stays g (pure x) := stays_of_same fun _ ↦ rfl

theorem stays_throw (e : Error) : Stays g (throw e : Query α) := stays_of_same fun _ ↦ rfl

theorem Stays.bind {f : α → Query β} (hq : Stays g q) (hf : ∀ x, Stays g (f x)) :
    Stays g (q >>= f) := by
  intro z hz
  have hafter := hq z hz
  rw [Attempt.bind_apply]
  rcases hqz : q z with ⟨e | x, t⟩
  · rw [hqz] at hafter
    exact hafter
  · rw [hqz] at hafter
    exact hf x t hafter

theorem stays_update {change : Analyzer → α × Analyzer}
    (h : ∀ z, z.Current g → (change z).2.Current g) : Stays g (Attempt.update change) := h

theorem stays_loaded {f : Snapshot → Query β} (hf : ∀ s, s.generation = g → Stays g (f s)) :
    Stays g (loaded >>= f) := by
  intro z hz
  obtain ⟨s, hs, hcurrent⟩ := hz.snapshot
  have hloaded : loaded z = (.ok s, z) := by rw [loaded, hs]
  rw [Attempt.bind_of_ok hloaded]
  exact hf s hcurrent.generation_eq z hz

theorem stays_assembly : Stays g assembly := stays_loaded fun _ _ ↦ stays_pure _

theorem stays_window (request : PageRequest) : Stays g (window request) :=
  stays_of_same fun _ ↦ rfl

theorem stays_matcher (query : String) (isPattern : Bool) : Stays g (matcher query isPattern) :=
  stays_of_same fun _ ↦ rfl

theorem stays_config? : Stays g config? := stays_of_same fun _ ↦ rfl

theorem stays_withSnapshot {use : Snapshot → α × Snapshot}
    (huse : ∀ s, s.Current g → (use s).2.Current g) : Stays g (withSnapshot use) := by
  intro z hz
  obtain ⟨s, hs, hcurrent⟩ := hz.snapshot
  rw [withSnapshot, hs]
  exact { hz with snapshot := ⟨_, rfl, huse s hcurrent⟩ }

def ResolverStays (g : Nat) (use : Resolver → Snapshot → α × Resolver × Snapshot) : Prop :=
  ∀ r s, r.cache.Tagged (some g) → s.Current g →
    (use r s).2.1.cache.Tagged (some g) ∧ (use r s).2.2.Current g

theorem stays_withResolver {use : Resolver → Snapshot → α × Resolver × Snapshot}
    (huse : ResolverStays g use) : Stays g (withResolver use) := by
  intro z hz
  obtain ⟨s, hs, hcurrent⟩ := hz.snapshot
  obtain ⟨hresolver, hcurrent⟩ := huse z.resolver s hz.resolver hcurrent
  rw [withResolver, hs]
  exact { hz with resolver := hresolver, snapshot := ⟨_, rfl, hcurrent⟩ }

theorem stays_withAttached (place : Nat) {use : Resolver → Snapshot → α × Resolver × Snapshot}
    (huse : ResolverStays g use) : Stays g (withAttached place use) := by
  intro z hz
  obtain ⟨s, hs, hcurrent⟩ := hz.snapshot
  have htagged : (z.attached[place]?.getD {}).cache.Tagged (some g) := by
    cases hr : z.attached[place]? with
    | none => exact Cache.Tagged.clear_tagged ({} : Resolver).cache _
    | some r => exact hz.attached r (List.mem_of_getElem? hr)
  obtain ⟨hresolver, hcurrent⟩ := huse _ s htagged hcurrent
  rw [withAttached, hs]
  refine { hz with attached := ?_, snapshot := ⟨_, rfl, hcurrent⟩ }
  intro r hmem
  obtain hmem | rfl := List.mem_or_eq_of_mem_set hmem
  · exact hz.attached r hmem
  · exact hresolver

theorem stays_resolve? (input : String) : Stays g (resolve? input) :=
  stays_withResolver fun _ _ hr hs ↦ Resolver.resolve_current input hr hs

theorem stays_resolveType? (input : String) : Stays g (resolveType? input) :=
  stays_withResolver fun _ _ hr hs ↦ Resolver.resolveType_current input hr hs

theorem stays_require (input : String) : Stays g (require input) := by
  refine (stays_resolve? input).bind fun s? ↦ ?_
  cases s? with
  | none => exact stays_throw _
  | some s => exact stays_pure s

theorem stays_requireType (input : String) : Stays g (requireType input) := by
  refine (stays_resolveType? input).bind fun t? ↦ ?_
  cases t? with
  | none => exact stays_throw _
  | some t => exact stays_pure t

theorem stays_requireMethod (input : String) : Stays g (requireMethod input) := by
  refine (stays_require input).bind fun s ↦ ?_
  cases s with
  | method m => exact stays_pure m
  | _ => exact stays_throw _

theorem stays_attachedResolve? (place : Nat) (input : String) :
    Stays g (attachedResolve? place input) :=
  stays_withAttached place fun _ _ hr hs ↦ Resolver.resolve_current input hr hs

theorem stays_attachedResolveType? (place : Nat) (input : String) :
    Stays g (attachedResolveType? place input) :=
  stays_withAttached place fun _ _ hr hs ↦ Resolver.resolveType_current input hr hs

theorem stays_attachedRequire (place : Nat) (input : String) :
    Stays g (attachedRequire place input) := by
  refine (stays_attachedResolve? place input).bind fun s? ↦ ?_
  cases s? with
  | none => exact stays_throw _
  | some s => exact stays_pure s

theorem stays_namespaceOf? (input : String) : Stays g (namespaceOf? input) :=
  (stays_withSnapshot fun _ hs ↦ hs.useNamespaceTypes).bind fun _ ↦ stays_pure _

theorem stays_identifierBy {resolve : String → Query (Option Symbol)} (input : String)
    (h : Stays g (resolve input)) : Stays g (identifierBy resolve input) := by
  rw [identifierBy]
  split
  · exact (stays_namespaceOf? input).bind fun _ ↦ stays_pure _
  · exact stays_assembly.bind fun _ ↦ h.bind fun _ ↦ stays_pure _

theorem stays_keptPage {key : SearchKey} {make : Query (Page Symbol.Summary)}
    (hmake : Stays g make) : Stays g (keptPage key make) := by
  refine stays_loaded fun s hs ↦ ?_
  rw [hs]
  have hlookup : Stays g (Attempt.update fun z : Analyzer ↦
      ((z.pages.get key g).1, { z with pages := (z.pages.get key g).2 })) :=
    stays_update fun z hz ↦ { hz with pages := hz.pages.get key g }
  refine hlookup.bind fun kept? ↦ ?_
  cases kept? with
  | some page => exact stays_pure page
  | none =>
    refine hmake.bind fun page ↦ ?_
    exact stays_update fun z hz ↦ { hz with pages := hz.pages.insert page }

theorem stays_typesAmong (namespaceName : Option String) : Stays g (typesAmong namespaceName) := by
  refine stays_assembly.bind fun a ↦ ?_
  cases namespaceName with
  | none => exact stays_pure _
  | some input =>
    exact (stays_withSnapshot fun _ hs ↦ hs.useNamespaceTypes).bind fun _ ↦ stays_pure _

theorem stays_onlyType (input : Option String) (types : List TypeDef) :
    Stays g (onlyType input types) := by
  cases input with
  | none => exact stays_pure types
  | some input => exact (stays_resolveType? input).bind fun _ ↦ stays_pure _

theorem stays_searchTypes (search : TypeSearch) : Stays g (searchTypes search) :=
  stays_assembly.bind fun _ ↦ (stays_window _).bind fun _ ↦ stays_keptPage <|
    (stays_matcher _ _).bind fun _ ↦ (stays_typesAmong _).bind fun _ ↦ stays_pure _

theorem stays_searchMembers (search : MemberSearch) : Stays g (searchMembers search) :=
  stays_assembly.bind fun _ ↦ (stays_window _).bind fun _ ↦ stays_keptPage <|
    (stays_matcher _ _).bind fun _ ↦ (stays_typesAmong _).bind fun _ ↦
      (stays_onlyType _ _).bind fun _ ↦ stays_pure _

theorem stays_typesInNamespace (input : String) (request : PageRequest) :
    Stays g (typesInNamespace input request) :=
  stays_assembly.bind fun _ ↦ (stays_window _).bind fun _ ↦ stays_keptPage <|
    (stays_typesAmong _).bind fun _ ↦ stays_pure _

theorem stays_membersOfType (input : String) (kinds : List MemberKind) (request : PageRequest) :
    Stays g (membersOfType input kinds request) :=
  stays_assembly.bind fun _ ↦ (stays_window _).bind fun _ ↦ (stays_requireType input).bind fun _ ↦
    stays_keptPage (stays_pure _)

theorem stays_namespaces (request : PageRequest) : Stays g (namespaces request) :=
  stays_assembly.bind fun _ ↦ (stays_window _).bind fun _ ↦
    (stays_withSnapshot fun _ hs ↦ hs.useNamespaces).bind fun _ ↦ stays_pure _

theorem stays_typesNamed (name : String) : Stays g (typesNamed name) :=
  stays_assembly.bind fun _ ↦
    (stays_withSnapshot fun _ hs ↦ hs.useTypeNames).bind fun _ ↦ stays_pure _

theorem stays_baseTypes (input : String) (limit : Nat) : Stays g (baseTypes input limit) := by
  have hrest : Stays g (do
      let a ← assembly
      let t ← requireType input
      let config ← config?
      pure (Inheritance.baseTypes a config t limit)) :=
    stays_assembly.bind fun _ ↦ (stays_requireType input).bind fun _ ↦
      stays_config?.bind fun _ ↦ stays_pure _
  rw [baseTypes]
  split
  · exact (stays_throw _).bind fun _ ↦ hrest
  · exact hrest

theorem stays_typePage {make : Assembly → Window → TypeDef → Query α} (input : String)
    (request : PageRequest) (hmake : ∀ a v t, Stays g (make a v t)) :
    Stays g (do
      let a ← assembly
      let v ← window request
      let t ← requireType input
      make a v t) :=
  stays_assembly.bind fun _ ↦ (stays_window request).bind fun _ ↦
    (stays_requireType input).bind fun _ ↦ hmake _ _ _

theorem tagged_scanned {κ : Type} [DecidableEq κ] {c : Cache κ (Scan α)} {s : Snapshot}
    (hc : c.Tagged (some g)) (hs : s.generation = g) (config : Config) (timeUp : Nat → Bool)
    (key : κ) (look : MethodDef → List α) (v : Window) :
    (scanned c s config timeUp key look v).2.Tagged (some g) := by
  rw [scanned, hs]
  exact (hc.getOrInsert _).insert _

theorem stays_scanEdges (timeUp : Nat → Bool) (key : EdgeQuery) (s : Symbol)
    (wanted : UsageKind → Bool) (v : Window) : Stays g (scanEdges timeUp key s wanted v) :=
  stays_loaded fun _ hs ↦ stays_update fun _ hz ↦
    { hz with edgeScans := tagged_scanned hz.edgeScans hs _ _ _ _ _ }

theorem stays_usages (timeUp : Nat → Bool) (target : String) (request : PageRequest) :
    Stays g (usages timeUp target request) :=
  stays_loaded fun _ _ ↦ (stays_window request).bind fun _ ↦ (stays_require target).bind fun _ ↦
    stays_scanEdges _ _ _ _ _

theorem stays_callers (timeUp : Nat → Bool) (target : String) (request : PageRequest) :
    Stays g (callers timeUp target request) :=
  stays_loaded fun _ _ ↦ (stays_window request).bind fun _ ↦
    (stays_requireMethod target).bind fun _ ↦ stays_scanEdges _ _ _ _ _

theorem stays_callees (target : String) (request : PageRequest) :
    Stays g (callees target request) :=
  stays_assembly.bind fun _ ↦ (stays_window request).bind fun _ ↦
    (stays_requireMethod target).bind fun _ ↦ stays_pure _

theorem stays_literals (timeUp : Nat → Bool) (pattern : String) (isPattern : Bool)
    (request : PageRequest) : Stays g (literals timeUp pattern isPattern request) :=
  stays_loaded fun _ hs ↦ (stays_window request).bind fun _ ↦ (stays_matcher _ _).bind fun _ ↦
    stays_update fun _ hz ↦
      { hz with literalScans := tagged_scanned hz.literalScans hs _ _ _ _ _ }

theorem stays_decompile (target : String) (format : SourceFormat) :
    Stays g (decompile target format) := by
  refine stays_loaded fun snapshot hs ↦ (stays_require target).bind fun s ↦ ?_
  rw [hs]
  have hlookup : Stays g (Attempt.update fun z : Analyzer ↦
      ((z.sources.get ⟨s.token, format⟩ g).1,
        { z with sources := (z.sources.get ⟨s.token, format⟩ g).2 })) :=
    stays_update fun z hz ↦ { hz with sources := hz.sources.get _ g }
  refine hlookup.bind fun kept? ↦ ?_
  cases kept? with
  | some source => exact stays_pure _
  | none =>
    have hrender : Stays g (render snapshot.assembly s format) := stays_of_same fun _ ↦ rfl
    refine hrender.bind fun source ↦ ?_
    exact stays_update fun z hz ↦ { hz with sources := hz.sources.insert source }

end Queries

end Analyzer

end CliMetadata
