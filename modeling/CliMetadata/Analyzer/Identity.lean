import CliMetadata.Analyzer

namespace CliMetadata.Analyzer

def namespaceOf? (input : String) : Query (Option String) := do
  let name := NamespaceId.nameOf input
  let index ← withSnapshot (·.useNamespaceTypes)
  pure ((index.get? name).map fun _ ↦ name)

/-- The identifier of the symbol that a text names, for a resolver. -/
def identifierBy (resolve : String → Query (Option Symbol)) (input : String) :
    Query (Option String) := do
  if (NamespaceId.name? input).isSome then
    let name? ← namespaceOf? input
    pure (name?.map NamespaceId.ofName)
  else
    let a ← assembly
    let s? ← resolve input
    pure (s?.map fun s ↦ (s.id a.mvid).text)

/-- The identifier of the symbol or namespace that a text names. -/
def normalize (input : String) : Query (Option String) := identifierBy resolve? input

def summary? (input : String) : Query (Option Symbol.Summary) := do
  let a ← assembly
  let s? ← resolve? input
  pure (s?.map (·.summary a))

def idOf (s : Symbol) : Query MemberId := do
  let a ← assembly
  pure (s.id a.mvid)

/-- Uses an attached resolver on the snapshot and keeps what both become. -/
def withAttached {α : Type} (place : Nat) (use : Resolver → Snapshot → α × Resolver × Snapshot) :
    Query α := fun z ↦
  match z.snapshot with
  | some s =>
    let (answer, r, s) := use (z.attached[place]?.getD {}) s
    (.ok answer, { z with attached := z.attached.set place r, snapshot := some s })
  | none => (.error (.invalidOperation .notLoaded), z)

def attachedResolve? (place : Nat) (input : String) : Query (Option Symbol) :=
  withAttached place fun r s ↦ r.resolve input s

def attachedRequire (place : Nat) (input : String) : Query Symbol := do
  match ← attachedResolve? place input with
  | some s => pure s
  | none => throw (.notFound (.symbol input))

def attachedResolveType? (place : Nat) (input : String) : Query (Option TypeDef) :=
  withAttached place fun r s ↦ r.resolveType input s

def attachedNormalize (place : Nat) (input : String) : Query (Option String) :=
  identifierBy (attachedResolve? place) input

end CliMetadata.Analyzer
