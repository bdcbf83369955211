import CliMetadata.Analyzer
import CliMetadata.Assembly.Loading

namespace CliMetadata

structure Diagnostics where
  loaded : Bool
  generation : Nat
  indexes : List IndexStatus
  caches : List CacheStats
  resolver : ResolverStats
  deriving DecidableEq

namespace Diagnostics

def index? (d : Diagnostics) (name : String) : Option IndexStatus :=
  d.indexes.find? (·.name == name)

def cachedEntries (d : Diagnostics) : Nat := d.caches.foldr (·.entries + ·) 0

end Diagnostics

namespace Analyzer

variable (z : Analyzer)

def clearCaches (kind : Option CacheKind) : Analyzer :=
  let chosen (k : CacheKind) : Bool := kind.all (k == ·)
  let emptied {κ ν : Type} (c : Cache κ ν) := if chosen c.kind then c.clear else c
  let reset (r : Resolver) := { r with cache := emptied r.cache }
  { z with
    resolver := reset z.resolver
    pages := emptied z.pages
    edgeScans := emptied z.edgeScans
    literalScans := emptied z.literalScans
    sources := emptied z.sources
    attached := z.attached.map reset }

/-- Puts an assembly in the place of the loaded one. The time of a load is later than that of the
one before, even if the clock `now` says otherwise. -/
def install (now : Nat) (files : Files) (a : Assembly) (source : Option LoadSource) :
    LoadInfo × Analyzer :=
  let snapshot : Snapshot :=
    { assembly := a
      source
      generation := z.generation + 1
      loadedAt := max now (z.lastLoad + 1)
      references := Snapshot.referencesOf files a source }
  (snapshot.info,
    { z.clearCaches none with
      generation := z.generation + 1
      lastLoad := max now (z.lastLoad + 1)
      snapshot := some snapshot })

def installAssembly (now : Nat) (a : Assembly) : Query LoadInfo :=
  Attempt.update fun z ↦ z.install now {} a none

def readAssembly (files : Files) (path : String) : Except Error Assembly :=
  match files.open? path with
  | some image => Assembly.ofImage image
  | none => .error .unreadableFile

/-- Installs the assembly in a file; references are looked for in the file's directory and in the
given ones. -/
def load (now : Nat) (files : Files) (path : String) (searchDirectories : List String) :
    Query LoadInfo := do
  if !files.isFile path then throw (.invalidArgument (.missingFile path))
  let a ← Attempt.ofExcept (readAssembly files path)
  Attempt.update fun z ↦ z.install now files a (some ⟨path, searchDirectories⟩)

def reload (now : Nat) (files : Files) : Query LoadInfo := do
  let s ← loaded
  match s.source with
  | some source => load now files source.path source.searchDirectories
  | none => throw (.invalidOperation .notFromFile)

def unload : Analyzer :=
  { z.clearCaches none with generation := z.generation + 1, snapshot := none }

def isLoaded : Bool := z.snapshot.isSome

def info : Query LoadInfo := do
  let s ← loaded
  pure s.info

def types : Query (List TypeDef) := do
  let a ← assembly
  pure a.types.toList

def cacheStats : List CacheStats :=
  [z.resolver.cache.stats, z.pages.stats, z.edgeScans.stats, z.literalScans.stats,
    z.sources.stats] ++ z.attached.map (·.cache.stats)

def diagnostics : Diagnostics where
  loaded := z.isLoaded
  generation := z.generation
  indexes := z.snapshot.elim [] (·.indexes.status)
  caches := z.cacheStats
  resolver := z.resolver.stats

/-- Adds a decompiler, which comes before those that are there. -/
def register (d : Decompiler) : Analyzer := { z with decompilers := d :: z.decompilers }

/-- Adds a resolver, whose cache is emptied and listed with the others. -/
def attach (r : Resolver) : Analyzer := { z with attached := z.attached ++ [r] }

end Analyzer

end CliMetadata
