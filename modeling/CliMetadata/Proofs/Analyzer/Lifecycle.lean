import CliMetadata.Proofs.Analyzer.Generations

namespace CliMetadata.Analyzer

variable {g : Nat} {z : Analyzer}

theorem Request.after_current (r : Request) (hz : z.Current g) : (r.after z).Current g := by
  cases r with
  | symbol input => exact stays_resolve? input z hz
  | type input => exact stays_resolveType? input z hz
  | summary input =>
    exact (stays_assembly.bind fun _ ↦ (stays_resolve? input).bind fun _ ↦ stays_pure _) z hz
  | namespaceName input => exact stays_namespaceOf? input z hz
  | identifier input => exact stays_identifierBy input (stays_resolve? input) z hz
  | idOf s => exact (stays_assembly.bind fun _ ↦ stays_pure _) z hz
  | attachedSymbol place input => exact stays_attachedResolve? place input z hz
  | attachedRequired place input => exact stays_attachedRequire place input z hz
  | attachedType place input => exact stays_attachedResolveType? place input z hz
  | attachedIdentifier place input =>
    exact stays_identifierBy input (stays_attachedResolve? place input) z hz
  | info => exact stays_loaded (fun _ _ ↦ stays_pure _) z hz
  | types => exact (stays_assembly.bind fun _ ↦ stays_pure _) z hz
  | searchTypes search => exact stays_searchTypes search z hz
  | searchMembers search => exact stays_searchMembers search z hz
  | typesInNamespace input page => exact stays_typesInNamespace input page z hz
  | membersOfType input kinds page => exact stays_membersOfType input kinds page z hz
  | namespaces page => exact stays_namespaces page z hz
  | typesNamed name => exact stays_typesNamed name z hz
  | baseTypes input limit => exact stays_baseTypes input limit z hz
  | derivedTypes input page =>
    exact stays_typePage input page (fun _ _ _ ↦ stays_config?.bind fun _ ↦ stays_pure _) z hz
  | interfaces input =>
    exact (stays_assembly.bind fun _ ↦ (stays_requireType input).bind fun _ ↦ stays_pure _) z hz
  | implementors input page => exact stays_typePage input page (fun _ _ _ ↦ stays_pure _) z hz
  | overrides input =>
    exact (stays_assembly.bind fun _ ↦ (stays_requireMethod input).bind fun _ ↦
      stays_config?.bind fun _ ↦ stays_pure _) z hz
  | overloads input =>
    exact (stays_assembly.bind fun _ ↦ (stays_requireMethod input).bind fun _ ↦ stays_pure _) z hz
  | usages timeUp target page => exact stays_usages timeUp target page z hz
  | callers timeUp target page => exact stays_callers timeUp target page z hz
  | callees target page => exact stays_callees target page z hz
  | literals timeUp pattern isPattern page =>
    exact stays_literals timeUp pattern isPattern page z hz
  | source target format => exact stays_decompile target format z hz

def present? (z : Analyzer) : Option Nat := z.snapshot.map (·.generation)

/-- A loaded assembly is of the analyzer's generation and has indexes that were made at most once
each, and everything in the caches is of the loaded assembly's generation. -/
structure InStep (z : Analyzer) : Prop where
  snapshot : ∀ s, z.snapshot = some s → s.Current z.generation
  resolver : z.resolver.cache.Tagged z.present?
  attached : ∀ r ∈ z.attached, r.cache.Tagged z.present?
  pages : z.pages.Tagged z.present?
  edgeScans : z.edgeScans.Tagged z.present?
  literalScans : z.literalScans.Tagged z.present?
  sources : z.sources.Tagged z.present?

theorem Current.inStep (hz : z.Current g) : z.InStep := by
  obtain ⟨s, hs, hcurrent⟩ := hz.snapshot
  have hpresent : z.present? = some g := by rw [present?, hs, Option.map_some, hcurrent.1]
  refine ⟨fun t ht ↦ ?_, ?_, ?_, ?_, ?_, ?_, ?_⟩
  · rw [hs] at ht
    cases ht
    rw [hz.generation_eq]
    exact hcurrent
  all_goals rw [hpresent]
  · exact hz.resolver
  · exact hz.attached
  · exact hz.pages
  · exact hz.edgeScans
  · exact hz.literalScans
  · exact hz.sources

theorem InStep.current (hz : z.InStep) {s : Snapshot} (hs : z.snapshot = some s) :
    z.Current z.generation := by
  have hcurrent := hz.snapshot s hs
  have hpresent : z.present? = some z.generation := by
    rw [present?, hs, Option.map_some, hcurrent.generation_eq]
  refine ⟨rfl, ⟨s, hs, hcurrent⟩, ?_, ?_, ?_, ?_, ?_, ?_⟩
  all_goals rw [← hpresent]
  · exact hz.resolver
  · exact hz.attached
  · exact hz.pages
  · exact hz.edgeScans
  · exact hz.literalScans
  · exact hz.sources

theorem inStep_start (config : Config) (engine : PatternEngine) :
    InStep { config, engine } where
  snapshot _ h := by cases h
  resolver _ h := by cases h
  attached _ h := by cases h
  pages _ h := by cases h
  edgeScans _ h := by cases h
  literalScans _ h := by cases h
  sources _ h := by cases h

theorem InStep.ask (hz : z.InStep) (r : Request) :
    (r.after z).InStep ∧ (r.after z).generation = z.generation := by
  cases hs : z.snapshot with
  | none =>
    rw [r.after_of_none hs]
    exact ⟨hz, rfl⟩
  | some s =>
    have hafter := r.after_current (hz.current hs)
    exact ⟨hafter.inStep, hafter.generation_eq⟩

theorem InStep.clearCaches (hz : z.InStep) (kind : Option CacheKind) :
    (z.clearCaches kind).InStep where
  snapshot := hz.snapshot
  resolver := hz.resolver.clear_if _
  attached r hr := by
    obtain ⟨q, hq, rfl⟩ := List.mem_map.1 hr
    exact (hz.attached q hq).clear_if _
  pages := hz.pages.clear_if _
  edgeScans := hz.edgeScans.clear_if _
  literalScans := hz.literalScans.clear_if _
  sources := hz.sources.clear_if _

theorem InStep.attach (hz : z.InStep) : (z.attach {}).InStep := by
  refine { hz with attached := fun r hr ↦ ?_ }
  obtain hr | hr := List.mem_append.1 hr
  · exact hz.attached r hr
  · rw [List.mem_singleton.1 hr]
    exact Cache.Tagged.clear_tagged ({} : Resolver).cache _

def CachesEmpty (z : Analyzer) : Prop := ∀ stats ∈ z.cacheStats, stats.entries = 0

theorem cachesEmpty_clearCaches (z : Analyzer) : (z.clearCaches none).CachesEmpty := by
  intro stats hstats
  obtain hstats | hstats := List.mem_append.1 hstats
  · simp only [List.mem_cons, List.not_mem_nil, or_false] at hstats
    obtain rfl | rfl | rfl | rfl | rfl := hstats <;> rfl
  · obtain ⟨r, hr, rfl⟩ := List.mem_map.1 hstats
    obtain ⟨q, _, rfl⟩ := List.mem_map.1 hr
    rfl

theorem inStep_clearCaches (z : Analyzer) {generation lastLoad : Nat} {s? : Option Snapshot}
    (hs : ∀ s, s? = some s → s.Current generation) :
    InStep { z.clearCaches none with generation, lastLoad, snapshot := s? } where
  snapshot := hs
  resolver := Cache.Tagged.clear_tagged _ _
  attached r hr := by
    obtain ⟨q, _, rfl⟩ := List.mem_map.1 hr
    exact Cache.Tagged.clear_tagged _ _
  pages := Cache.Tagged.clear_tagged _ _
  edgeScans := Cache.Tagged.clear_tagged _ _
  literalScans := Cache.Tagged.clear_tagged _ _
  sources := Cache.Tagged.clear_tagged _ _

theorem inStep_install (z : Analyzer) (now : Nat) (files : Files) (a : Assembly)
    (source : Option LoadSource) : (z.install now files a source).2.InStep := by
  refine inStep_clearCaches z fun s hs ↦ ?_
  cases hs
  exact ⟨rfl, rfl, rfl, rfl, rfl⟩

theorem inStep_unload (z : Analyzer) : z.unload.InStep :=
  inStep_clearCaches z fun s hs ↦ by cases hs

def Call.load? (z : Analyzer) : Call → Option (Except Error LoadInfo)
  | install now a => some (installAssembly now a z).1
  | load now files path searchDirectories =>
    some (Analyzer.load now files path searchDirectories z).1
  | reload now files => some (Analyzer.reload now files z).1
  | _ => none

/-- An analyzer behind a load: as it was if the load failed, else with an assembly put in. -/
inductive Loaded (z : Analyzer) : Except Error LoadInfo × Analyzer → Prop
  | failed (e : Error) : Loaded z (.error e, z)
  | installed (now : Nat) (files : Files) (a : Assembly) (source : Option LoadSource) :
      Loaded z (.ok (z.install now files a source).1, (z.install now files a source).2)

theorem loaded_load (z : Analyzer) (now : Nat) (files : Files) (path : String)
    (searchDirectories : List String) : Loaded z (load now files path searchDirectories z) := by
  rw [load]
  split
  · exact .failed _
  · cases readAssembly files path with
    | error e => exact .failed e
    | ok a => exact .installed now files a _

theorem loaded_reload (z : Analyzer) (now : Nat) (files : Files) :
    Loaded z (reload now files z) := by
  cases hs : z.snapshot with
  | none =>
    rw [reload, refused_loaded.bind _ z hs]
    exact .failed _
  | some s =>
    have hloaded : loaded z = (.ok s, z) := by rw [loaded, hs]
    rw [reload, Attempt.bind_of_ok hloaded]
    cases s.source with
    | none => exact .failed _
    | some source => exact loaded_load z now files source.path source.searchDirectories

theorem Call.loaded_of_load? {c : Call} {answer : Except Error LoadInfo}
    (h : c.load? z = some answer) : Loaded z (answer, c.after z) := by
  cases c with
  | install now a =>
    cases h
    exact .installed now {} a none
  | load now files path searchDirectories =>
    cases h
    exact loaded_load z now files path searchDirectories
  | reload now files =>
    cases h
    exact loaded_reload z now files
  | _ => cases h

theorem Call.after_of_failed {c : Call} {e : Error} (h : c.load? z = some (.error e)) :
    c.after z = z := by
  have hloaded := Call.loaded_of_load? h
  generalize c.after z = y at hloaded
  cases hloaded
  rfl

/-- What can happen to an analyzer: the calls of a run, and decompilers of any kind. -/
inductive Action where
  | call (c : Call)
  | register (d : Decompiler)

namespace Action

def after (z : Analyzer) : Action → Analyzer
  | call c => c.after z
  | register d => z.register d

def loads (z : Analyzer) : Action → Bool
  | call c => (c.load? z).any (·.isOk)
  | register _ => false

def isUnload : Action → Bool
  | call .unload => true
  | _ => false

end Action

def perform (z : Analyzer) (actions : List Action) : Analyzer := actions.foldl Action.after z

def successfulLoads : Analyzer → List Action → Nat
  | _, [] => 0
  | z, x :: actions => (x.loads z).toNat + successfulLoads (x.after z) actions

theorem InStep.load (hz : z.InStep) (c : Call) {answer : Except Error LoadInfo}
    (h : c.load? z = some answer) :
    (c.after z).InStep ∧ (c.after z).generation = z.generation + answer.isOk.toNat := by
  have hloaded := Call.loaded_of_load? h
  generalize c.after z = y at hloaded ⊢
  cases hloaded with
  | failed e => exact ⟨hz, rfl⟩
  | installed now files a source => exact ⟨inStep_install z now files a source, rfl⟩

/-- One action leaves an analyzer in step, and successful loads and unloads are counted. -/
theorem InStep.act (hz : z.InStep) (x : Action) : (x.after z).InStep ∧
    (x.after z).generation = z.generation + (x.loads z).toNat + x.isUnload.toNat := by
  cases x with
  | register d => exact ⟨{ hz with }, rfl⟩
  | call c =>
    cases c with
    | stay i =>
      cases i with
      | ask r => exact hz.ask r
      | clearCaches kind => exact ⟨hz.clearCaches kind, rfl⟩
    | attach => exact ⟨hz.attach, rfl⟩
    | install now a => exact hz.load (.install now a) rfl
    | load now files path searchDirectories =>
      exact hz.load (.load now files path searchDirectories) rfl
    | reload now files => exact hz.load (.reload now files) rfl
    | unload => exact ⟨inStep_unload z, rfl⟩

theorem InStep.perform (hz : z.InStep) (actions : List Action) : (perform z actions).InStep ∧
    (perform z actions).generation
      = z.generation + successfulLoads z actions + actions.countP Action.isUnload := by
  induction actions generalizing z with
  | nil => exact ⟨hz, rfl⟩
  | cons x actions ih =>
    obtain ⟨hafter, hgeneration⟩ := hz.act x
    obtain ⟨hend, hcount⟩ := ih hafter
    refine ⟨hend, hcount.trans ?_⟩
    have hunload : x.isUnload.toNat = if x.isUnload then 1 else 0 := by
      cases x.isUnload <;> rfl
    rw [hgeneration, successfulLoads, List.countP_cons, hunload]
    omega

/-- At every point of what happens to a new analyzer, the generation counts the loads that succeeded
and the unloads, the loaded assembly and all that is remembered are of one generation, and each of
the four indexes was made once if it is there. Behind a load that succeeds and an unload all caches
are empty; a load that fails changes nothing. -/
theorem perform_lifecycle (config : Config) (engine : PatternEngine) (actions : List Action) :
    let start : Analyzer := { config, engine }
    let z := perform start actions
    z.generation = successfulLoads start actions + actions.countP Action.isUnload ∧ z.InStep ∧
      (z.isLoaded → z.diagnostics.indexes.length = 4) ∧
      (∀ i ∈ z.diagnostics.indexes, i.builds = if i.ready then 1 else 0) ∧
      (∀ c info, Call.load? z c = some (.ok info) → (c.after z).CachesEmpty) ∧
      z.unload.CachesEmpty ∧
      ∀ c e, Call.load? z c = some (.error e) → c.after z = z := by
  intro start z
  obtain ⟨hz, hgeneration⟩ := (inStep_start config engine).perform actions
  refine ⟨hgeneration.trans (by rw [Nat.zero_add]), hz, fun hloaded ↦ ?_, fun i hi ↦ ?_,
    fun c info h ↦ ?_, cachesEmpty_clearCaches z, fun c e ↦ Call.after_of_failed⟩
  · obtain ⟨s, hs⟩ := Option.isSome_iff_exists.1 hloaded
    rw [diagnostics, hs]
    rfl
  · rw [diagnostics] at hi
    cases hs : z.snapshot with
    | none =>
      rw [hs] at hi
      cases hi
    | some s =>
      rw [hs] at hi
      exact (hz.snapshot s hs).indexes.builds_eq i hi
  · have hloaded := Call.loaded_of_load? h
    generalize c.after z = y at hloaded ⊢
    cases hloaded
    exact cachesEmpty_clearCaches z

theorem perform_lifecycle_reloadingBuilt :
    let start : Analyzer := { config := {}, engine := fun _ _ ↦ none }
    let actions : List Action := [.call (.install 0 .callingItself),
      .call (.stay (.ask (.namespaces {}))), .call (.reload 1 {}), .call .unload,
      .call (.install 2 .callingItself), .call (.stay (.ask (.source "0x06000001" .il)))]
    let z := perform start actions
    z.generation = 3 ∧ (∀ s, z.snapshot = some s → s.generation = 3) ∧
      (Call.unload.after z).CachesEmpty ∧ Call.after z (.reload 3 {}) = z := by
  intro start actions z
  obtain ⟨hgeneration, hz, _, _, _, hunload, hfailed⟩ :=
    perform_lifecycle {} (fun _ _ ↦ none) actions
  have hcount : successfulLoads start actions + actions.countP Action.isUnload = 3 := by
    decide +kernel
  refine ⟨hgeneration.trans hcount, fun s hs ↦ ?_, hunload, ?_⟩
  · rw [(hz.snapshot s hs).generation_eq]
    exact hgeneration.trans hcount
  · exact hfailed _ (.invalidOperation .notFromFile) rfl

end CliMetadata.Analyzer
