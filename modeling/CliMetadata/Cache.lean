import CliMetadata.Keyword

namespace CliMetadata

/-- What a cache is for; caches are cleared by kind. -/
inductive CacheKind where
  | source | resolution | search | usage
  deriving DecidableEq, Inhabited

instance : Keyword CacheKind where
  all := [.source, .resolution, .search, .usage]
  text
    | .source => "source"
    | .resolution => "resolution"
    | .search => "search"
    | .usage => "usage"

/-- An association list in which a key stands at most once. -/
structure Entries (κ ν : Type) where
  toList : List (κ × ν) := []

namespace Entries

variable {κ ν : Type} [DecidableEq κ]

def find? (e : Entries κ ν) (key : κ) : Option ν := (e.toList.find? (·.1 == key)).map (·.2)

def erase (e : Entries κ ν) (key : κ) : Entries κ ν := ⟨e.toList.filter (·.1 != key)⟩

def insert (e : Entries κ ν) (key : κ) (value : ν) : Entries κ ν :=
  ⟨(key, value) :: (e.erase key).toList⟩

def size (e : Entries κ ν) : Nat := e.toList.length

end Entries

/-- A cache whose entries belong to a generation. A lookup under another generation than the stored
one misses and drops the entry. -/
structure Cache (κ ν : Type) where
  kind : CacheKind
  name : String
  entries : Entries κ (Nat × ν) := {}
  hits : Nat := 0
  misses : Nat := 0

structure CacheStats where
  kind : CacheKind
  name : String
  entries : Nat
  hits : Nat
  misses : Nat
  deriving DecidableEq

namespace Cache

variable {κ ν : Type} [DecidableEq κ] (c : Cache κ ν)

def get (key : κ) (generation : Nat) : Option ν × Cache κ ν :=
  match c.entries.find? key with
  | none => (none, { c with misses := c.misses + 1 })
  | some (stored, value) =>
    if stored = generation then (some value, { c with hits := c.hits + 1 })
    else (none, { c with entries := c.entries.erase key, misses := c.misses + 1 })

def insert (key : κ) (generation : Nat) (value : ν) : Cache κ ν :=
  { c with entries := c.entries.insert key (generation, value) }

/-- The stored value, or else a new one that is stored. -/
def getOrInsert (key : κ) (generation : Nat) (value : Unit → ν) : ν × Cache κ ν :=
  match c.get key generation with
  | (some stored, c) => (stored, c)
  | (none, c) =>
    let computed := value ()
    (computed, c.insert key generation computed)

def clear : Cache κ ν := { c with entries := {} }

def size : Nat := c.entries.size

def isEmpty : Bool := c.size == 0

def stats : CacheStats :=
  { kind := c.kind, name := c.name, entries := c.size, hits := c.hits, misses := c.misses }

end Cache

end CliMetadata
