import CliMetadata.Analyzer.Search
import CliMetadata.Analyzer.Source
import CliMetadata.Analyzer.Usage
import CliMetadata.Proofs.Resolution
import CliMetadata.Proofs.Usage.Scan

namespace CliMetadata

structure World where
  config : Config
  engine : PatternEngine
  assembly : Assembly

def SearchKey.request : SearchKey → PageRequest
  | .types search => search.page
  | .members search => search.page
  | .namespaceTypes _ request => request
  | .typeMembers _ _ request => request

def EdgeQuery.target : EdgeQuery → Token
  | .usages t => t
  | .callers t => t

def EdgeQuery.wants : EdgeQuery → UsageKind → Bool
  | .usages _ => fun _ ↦ true
  | .callers _ => Usage.isCall

namespace World

variable (w : World)

def resolve? (input : String) : Option Symbol := w.assembly.search? (trimmed input)

def summary? (input : String) : Option Symbol.Summary :=
  (w.resolve? input).map (·.summary w.assembly)

def require (input : String) : Except Error Symbol :=
  match w.resolve? input with
  | some s => .ok s
  | none => .error (.notFound (.symbol input))

def requireType (input : String) : Except Error TypeDef :=
  match w.assembly.searchType? input with
  | some t => .ok t
  | none => .error (.notFound (.type input))

def requireMethod (input : String) : Except Error MethodDef := do
  match ← w.require input with
  | .method m => pure m
  | s => throw (.invalidArgument (.notAMethod input s.kind))

def window (request : PageRequest) : Except Error Window := Window.ofRequest w.config request

def matcher (query : String) (isPattern : Bool) : Matcher :=
  .ofQuery w.engine query isPattern w.config.patternSizeLimit

def namespaceTypes? (name : String) : Option (List Token) :=
  (NamespaceTypes.ofTypes w.assembly.types.toList).get? name

def namespaceOf? (input : String) : Option String :=
  (w.namespaceTypes? (NamespaceId.nameOf input)).map fun _ ↦ NamespaceId.nameOf input

def normalize (input : String) : Option String :=
  if (NamespaceId.name? input).isSome then (w.namespaceOf? input).map NamespaceId.ofName
  else (w.resolve? input).map fun s ↦ (s.id w.assembly.mvid).text

def typesAmong (namespaceName : Option String) : List TypeDef :=
  Search.typesAmong w.assembly (namespaceName.map fun input ↦
    (w.namespaceTypes? (NamespaceId.nameOf input)).getD [])

def onlyType (input : Option String) (types : List TypeDef) : List TypeDef :=
  match input with
  | none => types
  | some input =>
    types.filter fun t ↦ (w.assembly.searchType? input).any fun owner ↦ owner.token == t.token

def hits : SearchKey → List Search.Hit
  | .types search =>
    Search.typeHits w.assembly search (w.matcher search.query search.isPattern)
      (w.typesAmong search.namespaceName)
  | .members search =>
    Search.memberHits w.assembly search (w.matcher search.query search.isPattern)
      (w.onlyType search.declaringType (w.typesAmong search.namespaceName))
  | .namespaceTypes name _ =>
    (w.typesAmong (some name)).map fun t ↦ .ofSymbol w.assembly (.type t)
  | .typeMembers type kinds _ =>
    ((w.assembly.typeDef? type).elim [] fun t ↦ Search.membersOf w.assembly t kinds).map
      (.ofSymbol w.assembly)

def page (key : SearchKey) : Except Error (Page Symbol.Summary) := do
  let v ← w.window key.request
  pure (Search.pageOf w.assembly (w.hits key) v)

def membersOfType (input : String) (kinds : List MemberKind) (request : PageRequest) :
    Except Error (Page Symbol.Summary) := do
  let _ ← w.window request
  let owner ← w.requireType input
  w.page (.typeMembers owner.token kinds request)

def namespaces (request : PageRequest) : Except Error (Page String) := do
  let v ← w.window request
  pure (.complete (sortedNamespaces w.assembly) v)

def typesNamed (name : String) : List Symbol.Summary :=
  (((TypeNames.ofTypes w.assembly.types.toList).named name).filterMap
    (Symbol.ofToken? w.assembly)).map (·.summary w.assembly)

def source (s : Symbol) (format : SourceFormat) : Except Error SourceText := do
  let d ← Decompiler.choose [.disassembler] format
  let text ← d.decompile w.assembly s format
  pure ⟨d.name, text⟩

def decompile (target : String) (format : SourceFormat) :
    Except Error (MemberId × SourceFormat × SourceText) := do
  let s ← w.require target
  let source ← w.source s format
  pure (s.id w.assembly.mvid, format, source)

def edgesIn (key : EdgeQuery) (s : Symbol) : Token → List UsageEdge :=
  Usage.lookIn w.assembly
    (Usage.edgesIn w.assembly s (Usage.rolesOf w.assembly s) key.wants)

def literalsIn (key : LiteralQuery) : Token → List StringLiteral :=
  Usage.lookIn w.assembly (Usage.literalsIn w.assembly (w.matcher key.pattern key.isPattern))

end World

/-- A world under a generation of an analyzer. -/
structure Era extends World where
  generation : Nat

namespace Analyzer

/-- An analyzer with an assembly that remembers under its generation only what is so. Where the
token of a symbol is part of a key, that takes rows that are numbered. -/
structure Shows (w : Era) (z : Analyzer) : Prop where
  config_eq : z.config = w.config
  engine_eq : z.engine = w.engine
  decompilers_eq : z.decompilers = [.disassembler]
  snapshot : ∃ s, z.snapshot = some s ∧ s.Shows w.assembly w.generation
  resolver : z.resolver.Right w.assembly w.generation
  attached : ∀ r ∈ z.attached, r.Right w.assembly w.generation
  pages : ∀ key page, z.pages.kept? w.generation key = some page → w.page key = .ok page
  edgeScans : w.assembly.RowsNumbered → ∀ key scan, z.edgeScans.kept? w.generation key = some scan →
    ∀ s, w.assembly.named? key.target = some s →
      scan.Progress (w.edgesIn key s) (Scan.methodOrder w.assembly)
  literalScans : ∀ key scan, z.literalScans.kept? w.generation key = some scan →
    scan.Progress (w.literalsIn key) (Scan.methodOrder w.assembly)
  sources : w.assembly.RowsNumbered → ∀ key text, z.sources.kept? w.generation key = some text →
    ∀ s, w.assembly.named? key.token = some s → w.source s key.format = .ok text

/-- Scans that are kept and have no more methods to look at than before. -/
def ScansGoOn {κ α : Type} [DecidableEq κ] (generation : Nat) (before after : Cache κ (Scan α)) :
    Prop :=
  ∀ key scan, before.kept? generation key = some scan →
    ∃ later, after.kept? generation key = some later ∧ later.pending.length ≤ scan.pending.length

/-- What a query makes of an analyzer: it shows the same world, and no scan is lost or set back. -/
structure After (w : Era) (before after : Analyzer) : Prop where
  shows : after.Shows w
  edgeScans : ScansGoOn w.generation before.edgeScans after.edgeScans
  literalScans : ScansGoOn w.generation before.literalScans after.literalScans

/-- A query whose answers from analyzers of a world meet a condition, and that shows the world to
the queries behind it. -/
def Meets {α : Type} (w : Era) (q : Query α) (condition : Except Error α → Prop) : Prop :=
  ∀ z, z.Shows w → condition (q z).1 ∧ After w z (q z).2

/-- A query that gives one answer to all analyzers of a world. -/
def Answers {α : Type} (w : Era) (q : Query α) (answer : Except Error α) : Prop :=
  Meets w q (· = answer)

def Keeps {α : Type} (w : Era) (q : Query α) : Prop := Meets w q fun _ ↦ True

end Analyzer

end CliMetadata
