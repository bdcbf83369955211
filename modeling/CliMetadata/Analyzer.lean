import CliMetadata.Attempt
import CliMetadata.Inheritance
import CliMetadata.Resolver
import CliMetadata.Search
import CliMetadata.Source

namespace CliMetadata

/-- The state that queries work on: the loaded assembly, the caches, and what was set up once. -/
structure Analyzer where
  config : Config
  engine : PatternEngine
  generation : Nat := 0
  /-- The time of the last load. -/
  lastLoad : Nat := 0
  snapshot : Option Snapshot := none
  resolver : Resolver := {}
  pages : Cache SearchKey (Page Symbol.Summary) := { kind := .search, name := "search" }
  edgeScans : Cache EdgeQuery (Scan UsageEdge) := { kind := .usage, name := "usage" }
  literalScans : Cache LiteralQuery (Scan StringLiteral) := { kind := .usage, name := "literals" }
  sources : Cache SourceKey SourceText := { kind := .source, name := "source" }
  /-- The newest first. -/
  decompilers : List Decompiler := [.disassembler]
  /-- Further resolvers that look at the same assembly. -/
  attached : List Resolver := []

/-- A question to an analyzer, which remembers what it worked out for the answer. -/
abbrev Query (α : Type) := Attempt Analyzer α

namespace Analyzer

def ofConfig (engine : PatternEngine) (config : Config) : Except Error Analyzer := do
  config.validate
  pure { config, engine }

def loaded : Query Snapshot := fun z ↦
  match z.snapshot with
  | some s => (.ok s, z)
  | none => (.error (.invalidOperation .notLoaded), z)

def assembly : Query Assembly := do
  let s ← loaded
  pure s.assembly

/-- Uses the snapshot and keeps what it becomes. -/
def withSnapshot {α : Type} (use : Snapshot → α × Snapshot) : Query α := fun z ↦
  match z.snapshot with
  | some s => (.ok (use s).1, { z with snapshot := some (use s).2 })
  | none => (.error (.invalidOperation .notLoaded), z)

/-- Uses the resolver on the snapshot and keeps what both become. -/
def withResolver {α : Type} (use : Resolver → Snapshot → α × Resolver × Snapshot) : Query α :=
  fun z ↦
    match z.snapshot with
    | some s =>
      let (answer, resolver, s) := use z.resolver s
      (.ok answer, { z with resolver, snapshot := some s })
    | none => (.error (.invalidOperation .notLoaded), z)

def config? : Query Config := fun z ↦ (.ok z.config, z)

def window (request : PageRequest) : Query Window := fun z ↦
  (Window.ofRequest z.config request, z)

def matcher (query : String) (isPattern : Bool) : Query Matcher := fun z ↦
  (.ok (.ofQuery z.engine query isPattern z.config.patternSizeLimit), z)

def resolve? (input : String) : Query (Option Symbol) := withResolver fun r s ↦ r.resolve input s

def resolveType? (input : String) : Query (Option TypeDef) :=
  withResolver fun r s ↦ r.resolveType input s

def require (input : String) : Query Symbol := do
  match ← resolve? input with
  | some s => pure s
  | none => throw (.notFound (.symbol input))

def requireType (input : String) : Query TypeDef := do
  match ← resolveType? input with
  | some t => pure t
  | none => throw (.notFound (.type input))

def requireMethod (input : String) : Query MethodDef := do
  match ← require input with
  | .method m => pure m
  | s => throw (.invalidArgument (.notAMethod input s.kind))

end Analyzer

end CliMetadata
