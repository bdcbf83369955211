import CliMetadata.Analyzer.Inheritance
import CliMetadata.Analyzer.Lifecycle
import CliMetadata.Proofs.Analyzer.Scanning

namespace CliMetadata.Analyzer

inductive Request where
  | symbol (input : String)
  | type (input : String)
  | summary (input : String)
  | namespaceName (input : String)
  | identifier (input : String)
  | idOf (s : Symbol)
  | attachedSymbol (place : Nat) (input : String)
  | attachedRequired (place : Nat) (input : String)
  | attachedType (place : Nat) (input : String)
  | attachedIdentifier (place : Nat) (input : String)
  | info
  | types
  | searchTypes (search : TypeSearch)
  | searchMembers (search : MemberSearch)
  | typesInNamespace (input : String) (page : PageRequest)
  | membersOfType (input : String) (kinds : List MemberKind) (page : PageRequest)
  | namespaces (page : PageRequest)
  | typesNamed (name : String)
  | baseTypes (input : String) (limit : Nat)
  | derivedTypes (input : String) (page : PageRequest)
  | interfaces (input : String)
  | implementors (input : String) (page : PageRequest)
  | overrides (input : String)
  | overloads (input : String)
  | usages (timeUp : Nat → Bool) (target : String) (page : PageRequest)
  | callers (timeUp : Nat → Bool) (target : String) (page : PageRequest)
  | callees (target : String) (page : PageRequest)
  | literals (timeUp : Nat → Bool) (pattern : String) (isPattern : Bool) (page : PageRequest)
  | source (target : String) (format : SourceFormat)

def Request.after (z : Analyzer) : Request → Analyzer
  | symbol input => (resolve? input z).2
  | type input => (resolveType? input z).2
  | summary input => (summary? input z).2
  | namespaceName input => (namespaceOf? input z).2
  | identifier input => (normalize input z).2
  | idOf s => (Analyzer.idOf s z).2
  | attachedSymbol place input => (attachedResolve? place input z).2
  | attachedRequired place input => (attachedRequire place input z).2
  | attachedType place input => (attachedResolveType? place input z).2
  | attachedIdentifier place input => (attachedNormalize place input z).2
  | info => (Analyzer.info z).2
  | types => (Analyzer.types z).2
  | searchTypes search => (Analyzer.searchTypes search z).2
  | searchMembers search => (Analyzer.searchMembers search z).2
  | typesInNamespace input page => (Analyzer.typesInNamespace input page z).2
  | membersOfType input kinds page => (Analyzer.membersOfType input kinds page z).2
  | namespaces page => (Analyzer.namespaces page z).2
  | typesNamed name => (Analyzer.typesNamed name z).2
  | baseTypes input limit => (Analyzer.baseTypes input limit z).2
  | derivedTypes input page => (Analyzer.derivedTypes input page z).2
  | interfaces input => (Analyzer.interfaces input z).2
  | implementors input page => (Analyzer.implementors input page z).2
  | overrides input => (Analyzer.overrides input z).2
  | overloads input => (Analyzer.overloads input z).2
  | usages timeUp target page => (Analyzer.usages timeUp target page z).2
  | callers timeUp target page => (Analyzer.callers timeUp target page z).2
  | callees target page => (Analyzer.callees target page z).2
  | literals timeUp pattern isPattern page => (Analyzer.literals timeUp pattern isPattern page z).2
  | source target format => (decompile target format z).2

/-- What can come between two queries without another assembly taking the place of the loaded
one. -/
inductive Interlude where
  | ask (r : Request)
  | clearCaches (kind : Option CacheKind)

def Interlude.after (z : Analyzer) : Interlude → Analyzer
  | ask r => r.after z
  | clearCaches kind => z.clearCaches kind

/-- The calls that a run is made of. -/
inductive Call where
  | stay (i : Interlude)
  | attach
  | install (now : Nat) (a : Assembly)
  | load (now : Nat) (files : Files) (path : String) (searchDirectories : List String)
  | reload (now : Nat) (files : Files)
  | unload

def Call.after (z : Analyzer) : Call → Analyzer
  | stay i => i.after z
  | attach => z.attach {}
  | install now a => (installAssembly now a z).2
  | load now files path searchDirectories => (Analyzer.load now files path searchDirectories z).2
  | reload now files => (Analyzer.reload now files z).2
  | unload => z.unload

def run (z : Analyzer) (calls : List Call) : Analyzer := calls.foldl Call.after z

section Requests

variable {α β : Type} {w : Era}

theorem attachedResolve?_answers (w : Era) (place : Nat) (input : String) :
    Answers w (attachedResolve? place input) (.ok (w.resolve? input)) :=
  withAttached_answers place fun _ _ hr hs ↦ Resolver.resolve_gives input hr hs

theorem attachedResolveType?_answers (w : Era) (place : Nat) (input : String) :
    Answers w (attachedResolveType? place input) (.ok (w.assembly.searchType? input)) :=
  withAttached_answers place fun _ _ hr hs ↦ Resolver.resolveType_gives input hr hs

theorem idOf_keeps (s : Symbol) : Keeps w (idOf s) :=
  (assembly_answers w).bind_keeps fun _ _ ↦ (answers_pure _).keeps

theorem attachedRequire_keeps (place : Nat) (input : String) :
    Keeps w (attachedRequire place input) := by
  refine (attachedResolve?_answers w place input).bind_keeps fun s? _ ↦ ?_
  cases s? with
  | none => exact (answers_throw _).keeps
  | some s => exact (answers_pure s).keeps

theorem info_keeps : Keeps w info := meets_loaded fun _ _ ↦ (answers_pure _).keeps

theorem types_keeps : Keeps w types :=
  (assembly_answers w).bind_keeps fun _ _ ↦ (answers_pure _).keeps

theorem baseTypes_keeps (input : String) (limit : Nat) : Keeps w (baseTypes input limit) := by
  rw [baseTypes]
  split
  · exact (answers_throw _).bind_keeps fun _ h ↦ (by cases h)
  · exact (assembly_answers w).bind_keeps fun _ _ ↦ (requireType_answers w input).bind_keeps
      fun _ _ ↦ (config?_answers w).bind_keeps fun _ _ ↦ (answers_pure _).keeps

theorem derivedTypes_keeps (input : String) (page : PageRequest) :
    Keeps w (derivedTypes input page) :=
  (assembly_answers w).bind_keeps fun _ _ ↦ (window_answers w page).bind_keeps fun _ _ ↦
    (requireType_answers w input).bind_keeps fun _ _ ↦ (config?_answers w).bind_keeps fun _ _ ↦
    (answers_pure _).keeps

theorem interfaces_keeps (input : String) : Keeps w (interfaces input) :=
  (assembly_answers w).bind_keeps fun _ _ ↦ (requireType_answers w input).bind_keeps fun _ _ ↦
    (answers_pure _).keeps

theorem implementors_keeps (input : String) (page : PageRequest) :
    Keeps w (implementors input page) :=
  (assembly_answers w).bind_keeps fun _ _ ↦ (window_answers w page).bind_keeps fun _ _ ↦
    (requireType_answers w input).bind_keeps fun _ _ ↦ (answers_pure _).keeps

theorem overrides_keeps (input : String) : Keeps w (overrides input) :=
  (assembly_answers w).bind_keeps fun _ _ ↦ (requireMethod_answers w input).bind_keeps fun _ _ ↦
    (config?_answers w).bind_keeps fun _ _ ↦ (answers_pure _).keeps

theorem overloads_keeps (input : String) : Keeps w (overloads input) :=
  (assembly_answers w).bind_keeps fun _ _ ↦ (requireMethod_answers w input).bind_keeps fun _ _ ↦
    (answers_pure _).keeps

theorem callees_keeps (target : String) (page : PageRequest) : Keeps w (callees target page) :=
  (assembly_answers w).bind_keeps fun _ _ ↦ (window_answers w page).bind_keeps fun _ _ ↦
    (requireMethod_answers w target).bind_keeps fun _ _ ↦ (answers_pure _).keeps

theorem Request.after_shows (r : Request) {z : Analyzer} (hz : z.Shows w) :
    After w z (r.after z) := by
  cases r with
  | symbol input => exact (resolve?_answers w input z hz).2
  | type input => exact (resolveType?_answers w input z hz).2
  | summary input => exact (summary?_answers w input z hz).2
  | namespaceName input => exact (namespaceOf?_answers w input z hz).2
  | identifier input => exact (normalize_answers w input z hz).2
  | idOf s => exact (idOf_keeps s z hz).2
  | attachedSymbol place input => exact (attachedResolve?_answers w place input z hz).2
  | attachedRequired place input => exact (attachedRequire_keeps place input z hz).2
  | attachedType place input => exact (attachedResolveType?_answers w place input z hz).2
  | attachedIdentifier place input =>
    exact (identifierBy_answers w input (attachedResolve?_answers w place input) z hz).2
  | info => exact (info_keeps z hz).2
  | types => exact (types_keeps z hz).2
  | searchTypes search => exact (searchTypes_answers w search z hz).2
  | searchMembers search => exact (searchMembers_answers w search z hz).2
  | typesInNamespace input page => exact (typesInNamespace_answers w input page z hz).2
  | membersOfType input kinds page => exact (membersOfType_answers w input kinds page z hz).2
  | namespaces page => exact (namespaces_answers w page z hz).2
  | typesNamed name => exact (typesNamed_answers w name z hz).2
  | baseTypes input limit => exact (baseTypes_keeps input limit z hz).2
  | derivedTypes input page => exact (derivedTypes_keeps input page z hz).2
  | interfaces input => exact (interfaces_keeps input z hz).2
  | implementors input page => exact (implementors_keeps input page z hz).2
  | overrides input => exact (overrides_keeps input z hz).2
  | overloads input => exact (overloads_keeps input z hz).2
  | usages timeUp target page => exact (usages_keeps timeUp target page z hz).2
  | callers timeUp target page => exact (callers_keeps timeUp target page z hz).2
  | callees target page => exact (callees_keeps target page z hz).2
  | literals timeUp pattern isPattern page =>
    exact (literals_keeps timeUp pattern isPattern page z hz).2
  | source target format => exact (decompile_meets w target format z hz).2

end Requests

section Unloaded

variable {α β : Type}

def Refused (q : Query α) : Prop :=
  ∀ z, z.snapshot = none → q z = (.error (.invalidOperation .notLoaded), z)

theorem Refused.bind {q : Query α} (hq : Refused q) (f : α → Query β) : Refused (q >>= f) :=
  fun z hz ↦ Attempt.bind_of_error (hq z hz)

theorem refused_loaded : Refused loaded := fun z hz ↦ by rw [loaded, hz]

theorem refused_assembly : Refused assembly := refused_loaded.bind _

theorem refused_withSnapshot (use : Snapshot → α × Snapshot) : Refused (withSnapshot use) :=
  fun z hz ↦ by rw [withSnapshot, hz]

theorem refused_withResolver (use : Resolver → Snapshot → α × Resolver × Snapshot) :
    Refused (withResolver use) :=
  fun z hz ↦ by rw [withResolver, hz]

theorem refused_withAttached (place : Nat) (use : Resolver → Snapshot → α × Resolver × Snapshot) :
    Refused (withAttached place use) :=
  fun z hz ↦ by rw [withAttached, hz]

theorem refused_namespaceOf? (input : String) : Refused (namespaceOf? input) :=
  (refused_withSnapshot _).bind _

theorem refused_identifierBy (resolve : String → Query (Option Symbol)) (input : String) :
    Refused (identifierBy resolve input) := by
  rw [identifierBy]
  split
  · exact (refused_namespaceOf? input).bind _
  · exact refused_assembly.bind _

theorem baseTypes_of_none (input : String) (limit : Nat) {z : Analyzer} (hz : z.snapshot = none) :
    (baseTypes input limit z).2 = z := by
  rw [baseTypes]
  split
  · rfl
  · exact congrArg Prod.snd (refused_assembly.bind _ z hz)

theorem Request.after_of_none (r : Request) {z : Analyzer} (hz : z.snapshot = none) :
    r.after z = z := by
  have hassembly {α : Type} (f : Assembly → Query α) : ((assembly >>= f) z).2 = z :=
    congrArg Prod.snd (refused_assembly.bind f z hz)
  have hloaded {α : Type} (f : Snapshot → Query α) : ((loaded >>= f) z).2 = z :=
    congrArg Prod.snd (refused_loaded.bind f z hz)
  cases r with
  | symbol input => exact congrArg Prod.snd (refused_withResolver _ z hz)
  | type input => exact congrArg Prod.snd (refused_withResolver _ z hz)
  | namespaceName input => exact congrArg Prod.snd (refused_namespaceOf? input z hz)
  | identifier input => exact congrArg Prod.snd (refused_identifierBy _ input z hz)
  | attachedSymbol place input => exact congrArg Prod.snd (refused_withAttached place _ z hz)
  | attachedRequired place input =>
    exact congrArg Prod.snd ((refused_withAttached place _).bind _ z hz)
  | attachedType place input => exact congrArg Prod.snd (refused_withAttached place _ z hz)
  | attachedIdentifier place input => exact congrArg Prod.snd (refused_identifierBy _ input z hz)
  | info => exact hloaded _
  | usages timeUp target page => exact hloaded _
  | callers timeUp target page => exact hloaded _
  | literals timeUp pattern isPattern page => exact hloaded _
  | source target format => exact hloaded _
  | baseTypes input limit => exact baseTypes_of_none input limit hz
  | _ => exact hassembly _

end Unloaded

theorem kept?_of_cleared {κ ν : Type} [DecidableEq κ] {c : Cache κ ν} {chosen : Bool}
    {generation : Nat} {key : κ} {value : ν}
    (h : (if chosen then c.clear else c).kept? generation key = some value) :
    c.kept? generation key = some value := by
  cases chosen with
  | false => exact h
  | true => cases h

theorem clearCaches_shows {w : Era} {z : Analyzer} (hz : z.Shows w) (kind : Option CacheKind) :
    (z.clearCaches kind).Shows w where
  config_eq := hz.config_eq
  engine_eq := hz.engine_eq
  decompilers_eq := hz.decompilers_eq
  snapshot := hz.snapshot
  resolver key found h := hz.resolver key found (kept?_of_cleared h)
  attached r hr key found h := by
    obtain ⟨q, hq, rfl⟩ := List.mem_map.1 hr
    exact hz.attached q hq key found (kept?_of_cleared h)
  pages key page h := hz.pages key page (kept?_of_cleared h)
  edgeScans hrows key scan h := hz.edgeScans hrows key scan (kept?_of_cleared h)
  literalScans key scan h := hz.literalScans key scan (kept?_of_cleared h)
  sources hrows key text h := hz.sources hrows key text (kept?_of_cleared h)

theorem Interlude.after_shows {w : Era} (i : Interlude) {z : Analyzer} (hz : z.Shows w) :
    (i.after z).Shows w := by
  cases i with
  | ask r => exact (r.after_shows hz).shows
  | clearCaches kind => exact clearCaches_shows hz kind

/-- An analyzer with these settings that, if it has an assembly, remembers under its generation only
what is so of it. -/
structure Sound (config : Config) (engine : PatternEngine) (z : Analyzer) : Prop where
  config_eq : z.config = config
  engine_eq : z.engine = engine
  decompilers_eq : z.decompilers = [.disassembler]
  shows : ∀ s, z.snapshot = some s → z.Shows ⟨⟨config, engine, s.assembly⟩, s.generation⟩

section Runs

variable {config : Config} {engine : PatternEngine} {z : Analyzer}

theorem sound_start (config : Config) (engine : PatternEngine) :
    Sound config engine { config, engine } :=
  ⟨rfl, rfl, rfl, fun _ h ↦ by cases h⟩

theorem Sound.of_shows {w : Era} (hconfig : w.config = config) (hengine : w.engine = engine)
    (h : z.Shows w) : Sound config engine z := by
  obtain ⟨⟨c, e, a⟩, g⟩ := w
  cases hconfig
  cases hengine
  refine ⟨h.config_eq, h.engine_eq, h.decompilers_eq, fun s hs ↦ ?_⟩
  obtain ⟨t, ht, rfl, rfl, _⟩ := h.snapshot
  rw [ht] at hs
  cases hs
  exact h

theorem Sound.stay (hz : Sound config engine z) (i : Interlude) :
    Sound config engine (i.after z) := by
  cases hs : z.snapshot with
  | some s => exact .of_shows rfl rfl (i.after_shows (hz.shows s hs))
  | none =>
    cases i with
    | ask r =>
      have hsame : (Interlude.ask r).after z = z := r.after_of_none hs
      rwa [hsame]
    | clearCaches kind =>
      refine ⟨hz.config_eq, hz.engine_eq, hz.decompilers_eq, fun s h ↦ ?_⟩
      exact absurd (hs.symm.trans h) (by simp)

theorem Sound.install (hz : Sound config engine z) (now : Nat) (files : Files) (a : Assembly)
    (source : Option LoadSource) : Sound config engine (z.install now files a source).2 := by
  refine .of_shows (w := ⟨⟨config, engine, a⟩, z.generation + 1⟩) rfl rfl ?_
  exact {
    config_eq := hz.config_eq
    engine_eq := hz.engine_eq
    decompilers_eq := hz.decompilers_eq
    snapshot := ⟨_, rfl, rfl, rfl, Indexes.right_empty a⟩
    resolver := fun _ _ h ↦ by cases h
    attached := fun r hr key found h ↦ by
      obtain ⟨q, _, rfl⟩ := List.mem_map.1 hr
      cases h
    pages := fun _ _ h ↦ by cases h
    edgeScans := fun _ _ _ h ↦ by cases h
    literalScans := fun _ _ h ↦ by cases h
    sources := fun _ _ _ h ↦ by cases h }

theorem Sound.load (hz : Sound config engine z) (now : Nat) (files : Files) (path : String)
    (searchDirectories : List String) :
    Sound config engine (load now files path searchDirectories z).2 := by
  rw [Analyzer.load]
  split
  · exact hz
  · cases ha : readAssembly files path with
    | error e => exact hz
    | ok a => exact hz.install now files a _

theorem Sound.reload (hz : Sound config engine z) (now : Nat) (files : Files) :
    Sound config engine (reload now files z).2 := by
  cases hs : z.snapshot with
  | none =>
    rw [Analyzer.reload, refused_loaded.bind _ z hs]
    exact hz
  | some s =>
    have hloaded : loaded z = (.ok s, z) := by rw [loaded, hs]
    rw [Analyzer.reload, Attempt.bind_of_ok hloaded]
    cases s.source with
    | none => exact hz
    | some source => exact hz.load now files source.path source.searchDirectories

theorem Sound.attach (hz : Sound config engine z) : Sound config engine (z.attach {}) := by
  refine ⟨hz.config_eq, hz.engine_eq, hz.decompilers_eq, fun s hs ↦ ?_⟩
  have hshows := hz.shows s hs
  refine { hshows with attached := fun r hr ↦ ?_ }
  obtain hr | hr := List.mem_append.1 hr
  · exact hshows.attached r hr
  · rw [List.mem_singleton.1 hr]
    exact Resolver.right_empty _ _

/-- One call leaves a sound analyzer. -/
theorem Sound.call (hz : Sound config engine z) (c : Call) : Sound config engine (c.after z) := by
  cases c with
  | stay i => exact hz.stay i
  | attach => exact hz.attach
  | install now a => exact hz.install now {} a none
  | load now files path searchDirectories => exact hz.load now files path searchDirectories
  | reload now files => exact hz.reload now files
  | unload => exact ⟨hz.config_eq, hz.engine_eq, hz.decompilers_eq, fun _ h ↦ by cases h⟩

theorem Sound.run (hz : Sound config engine z) (calls : List Call) :
    Sound config engine (run z calls) := by
  induction calls generalizing z with
  | nil => exact hz
  | cons c calls ih => exact ih (hz.call c)

end Runs

/-- What is loaded at a point of a run is what the analyzer shows. -/
theorem shows_run (config : Config) (engine : PatternEngine) (calls : List Call) {s : Snapshot}
    (hs : (run { config, engine } calls).snapshot = some s) :
    (run { config, engine } calls).Shows ⟨⟨config, engine, s.assembly⟩, s.generation⟩ :=
  ((sound_start config engine).run calls).shows s hs

theorem shows_install (a : Assembly) :
    (run { config := {}, engine := fun _ _ ↦ none } [.install 0 a]).Shows
      ⟨⟨{}, fun _ _ ↦ none, a⟩, 1⟩ :=
  shows_run {} (fun _ _ ↦ none) [.install 0 a] rfl

end CliMetadata.Analyzer
