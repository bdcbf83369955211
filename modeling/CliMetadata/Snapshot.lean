import CliMetadata.Files
import CliMetadata.Index

namespace CliMetadata

/-- The file an assembly came from, and the directories to look for references in. -/
structure LoadSource where
  path : String
  searchDirectories : List String
  deriving DecidableEq

/-- A referenced assembly, with its file where one was found. -/
structure ReferenceInfo where
  name : String
  version : String
  resolvedPath : Option String
  deriving DecidableEq

structure LoadInfo where
  path : Option String
  name : String
  version : String
  moduleName : String
  mvid : Guid
  types : Nat
  methods : Nat
  generation : Nat
  loadedAt : Nat
  references : List ReferenceInfo
  deriving DecidableEq

structure Snapshot where
  assembly : Assembly
  source : Option LoadSource
  generation : Nat
  loadedAt : Nat
  references : List ReferenceInfo
  indexes : Indexes := {}

namespace Snapshot

def directoriesOf : Option LoadSource → List String
  | none => []
  | some source => (Path.parent? source.path).toList ++ source.searchDirectories

/-- The first file in the directories that is named like an assembly. -/
def referencedFile? (files : Files) (directories : List String) (name : String) : Option String :=
  (directories.flatMap fun d ↦ [Path.join d (name ++ ".dll"), Path.join d (name ++ ".exe")]).find?
    files.isFile

def referencesOf (files : Files) (a : Assembly) (source : Option LoadSource) :
    List ReferenceInfo :=
  a.assemblyRefs.toList.map fun r ↦
    ⟨r.name, r.version.text, referencedFile? files (directoriesOf source) r.name⟩

def info (s : Snapshot) : LoadInfo where
  path := s.source.map (·.path)
  name := s.assembly.name
  version := s.assembly.version.text
  moduleName := s.assembly.moduleName
  mvid := s.assembly.mvid
  types := s.assembly.types.size
  methods := s.assembly.methods.size
  generation := s.generation
  loadedAt := s.loadedAt
  references := s.references

def useTypeNames (s : Snapshot) : TypeNames × Snapshot :=
  let (names, indexes) := s.indexes.useTypeNames s.assembly
  (names, { s with indexes })

def useNamespaceTypes (s : Snapshot) : NamespaceTypes × Snapshot :=
  let (index, indexes) := s.indexes.useNamespaceTypes s.assembly
  (index, { s with indexes })

def useMembers (s : Snapshot) : Members × Snapshot :=
  let (index, indexes) := s.indexes.useMembers s.assembly
  (index, { s with indexes })

def useNamespaces (s : Snapshot) : List String × Snapshot :=
  let (names, indexes) := s.indexes.useNamespaces s.assembly
  (names, { s with indexes })

end Snapshot

end CliMetadata
