import CliMetadata.Analyzer

namespace CliMetadata.Analyzer

/-- The page kept for a search, or else the one worked out now. -/
def keptPage (key : SearchKey) (make : Query (Page Symbol.Summary)) :
    Query (Page Symbol.Summary) := do
  let s ← loaded
  let kept? ← Attempt.update fun z ↦
    let (page?, pages) := z.pages.get key s.generation
    (page?, { z with pages })
  match kept? with
  | some page => pure page
  | none =>
    let page ← make
    Attempt.update fun z ↦ (page, { z with pages := z.pages.insert key s.generation page })

def typesAmong (namespaceName : Option String) : Query (List TypeDef) := do
  let a ← assembly
  match namespaceName with
  | none => pure (Search.typesAmong a none)
  | some input =>
    let index ← withSnapshot (·.useNamespaceTypes)
    pure (Search.typesAmong a (some ((index.get? (NamespaceId.nameOf input)).getD [])))

def searchTypes (search : TypeSearch) : Query (Page Symbol.Summary) := do
  let a ← assembly
  let w ← window search.page
  keptPage (.types search) do
    let m ← matcher search.query search.isPattern
    let types ← typesAmong search.namespaceName
    pure (Search.pageOf a (Search.typeHits a search m types) w)

/-- Those types that are the one a text names, or all without a text. -/
def onlyType (input : Option String) (types : List TypeDef) : Query (List TypeDef) :=
  match input with
  | none => pure types
  | some input => do
    let owner? ← resolveType? input
    pure (types.filter fun t ↦ owner?.any fun owner ↦ owner.token == t.token)

def searchMembers (search : MemberSearch) : Query (Page Symbol.Summary) := do
  let a ← assembly
  let w ← window search.page
  keptPage (.members search) do
    let m ← matcher search.query search.isPattern
    let types ← onlyType search.declaringType (← typesAmong search.namespaceName)
    pure (Search.pageOf a (Search.memberHits a search m types) w)

def typesInNamespace (input : String) (request : PageRequest) : Query (Page Symbol.Summary) := do
  let a ← assembly
  let w ← window request
  let name := NamespaceId.nameOf input
  keptPage (.namespaceTypes name request) do
    let types ← typesAmong (some name)
    pure (Search.pageOf a (types.map fun t ↦ .ofSymbol a (.type t)) w)

def membersOfType (input : String) (kinds : List MemberKind) (request : PageRequest) :
    Query (Page Symbol.Summary) := do
  let a ← assembly
  let w ← window request
  let owner ← requireType input
  keptPage (.typeMembers owner.token kinds request) do
    let members := (a.typeDef? owner.token).elim [] fun t ↦ Search.membersOf a t kinds
    pure (Search.pageOf a (members.map (.ofSymbol a)) w)

def namespaces (request : PageRequest) : Query (Page String) := do
  let _ ← assembly
  let w ← window request
  let names ← withSnapshot (·.useNamespaces)
  pure (.complete names w)

def typesNamed (name : String) : Query (List Symbol.Summary) := do
  let a ← assembly
  let names ← withSnapshot (·.useTypeNames)
  pure (((names.named name).filterMap (Symbol.ofToken? a)).map (·.summary a))

end CliMetadata.Analyzer
