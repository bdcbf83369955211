import CliMetadata.Symbol

namespace CliMetadata

/-- Types by their full and by their simple names. Of several types with one name the last counts;
the lists hold the later types in front. -/
structure TypeNames where
  byFullName : List (String × Token)
  bySimpleName : List (String × Token)

namespace TypeNames

def ofTypes (types : List TypeDef) : TypeNames where
  byFullName := (types.map fun t ↦ (t.fullName, t.token)).reverse
  bySimpleName := (types.map fun t ↦ (t.name, t.token)).reverse

variable (names : TypeNames)

def fullName? (name : String) : Option Token := names.byFullName.lookup name

/-- The type with this full name, or else the last with this simple name. -/
def get? (name : String) : Option Token :=
  (names.fullName? name).or (names.bySimpleName.lookup name)

def named (name : String) : List Token :=
  ((names.bySimpleName.filter (·.1 == name)).map (·.2)).reverse

/-- How many different names there are, full and simple ones apart. -/
def size : Nat :=
  (names.byFullName.map (·.1)).eraseDups.length + (names.bySimpleName.map (·.1)).eraseDups.length

def isEmpty : Bool := names.byFullName.isEmpty

end TypeNames

/-- The types of a namespace in the order of their tokens, for the namespaces that have types. -/
structure NamespaceTypes where
  entries : List (String × Token)

namespace NamespaceTypes

def ofTypes (types : List TypeDef) : NamespaceTypes := ⟨types.map fun t ↦ (t.ns, t.token)⟩

def get? (index : NamespaceTypes) (name : String) : Option (List Token) :=
  match index.entries.filter (·.1 == name) with
  | [] => none
  | found => some (found.map (·.2))

end NamespaceTypes

structure Members where
  entries : List (MemberId × Symbol)

namespace Members

def ofType (a : Assembly) (t : TypeDef) : List Symbol :=
  .type t :: (t.methods ++ t.fields ++ t.properties ++ t.events).filterMap (Symbol.ofToken? a)

def ofAssembly (a : Assembly) : Members :=
  ⟨(a.types.toList.flatMap (ofType a)).map fun s ↦ (s.id a.mvid, s)⟩

def get? (index : Members) (id : MemberId) : Option Symbol := index.entries.lookup id

end Members

/-- The different namespaces of an assembly, sorted; types without a namespace add none. -/
def sortedNamespaces (a : Assembly) : List String :=
  ((a.types.toList.map (·.ns)).filter (· != "")).eraseDups.mergeSort (· ≤ ·)

/-- A value that is made at its first use. -/
structure OnDemand (α : Type) where
  value? : Option α := none
  builds : Nat := 0

namespace OnDemand

variable {α : Type}

def get (cell : OnDemand α) (make : Unit → α) : α × OnDemand α :=
  match cell.value? with
  | some value => (value, cell)
  | none =>
    let value := make ()
    (value, ⟨some value, cell.builds + 1⟩)

theorem get_fst_eq {cell : OnDemand α} {make : Unit → α}
    (h : ∀ value, cell.value? = some value → value = make ()) : (cell.get make).1 = make () := by
  unfold get
  split
  · exact h _ ‹_›
  · rfl

end OnDemand

structure Indexes where
  typeNames : OnDemand TypeNames := {}
  namespaceTypes : OnDemand NamespaceTypes := {}
  members : OnDemand Members := {}
  namespaces : OnDemand (List String) := {}

/-- Whether an index is there, and how often it was made. -/
structure IndexStatus where
  name : String
  ready : Bool
  builds : Nat
  deriving DecidableEq

namespace Indexes

variable (x : Indexes) (a : Assembly)

def useTypeNames : TypeNames × Indexes :=
  let (names, cell) := x.typeNames.get fun _ ↦ .ofTypes a.types.toList
  (names, { x with typeNames := cell })

def useNamespaceTypes : NamespaceTypes × Indexes :=
  let (index, cell) := x.namespaceTypes.get fun _ ↦ .ofTypes a.types.toList
  (index, { x with namespaceTypes := cell })

def useMembers : Members × Indexes :=
  let (index, cell) := x.members.get fun _ ↦ .ofAssembly a
  (index, { x with members := cell })

def useNamespaces : List String × Indexes :=
  let (names, cell) := x.namespaces.get fun _ ↦ sortedNamespaces a
  (names, { x with namespaces := cell })

private def statusOf {α : Type} (name : String) (cell : OnDemand α) : IndexStatus :=
  ⟨name, cell.value?.isSome, cell.builds⟩

def status : List IndexStatus :=
  [statusOf "type_names" x.typeNames, statusOf "namespace_types" x.namespaceTypes,
    statusOf "members" x.members, statusOf "namespaces" x.namespaces]

end Indexes

end CliMetadata
