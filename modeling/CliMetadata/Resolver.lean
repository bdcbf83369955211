import CliMetadata.Cache
import CliMetadata.Resolver.Strategy

namespace CliMetadata

/-- What a text led to, nothing included, is kept for the generation it was found in. -/
structure Resolver where
  cache : Cache String (Option Symbol) := { kind := .resolution, name := "resolution" }
  successes : Nat := 0
  failures : Nat := 0
  strategyRuns : Nat := 0

structure ResolverStats where
  entries : Nat
  hits : Nat
  misses : Nat
  successes : Nat
  failures : Nat
  strategyRuns : Nat
  deriving DecidableEq

namespace Resolver

/-- Tries ways until one leads to a symbol; also says how many it tried. -/
def search (input : String) (snapshot : Snapshot) :
    List Strategy → Option Symbol × Nat × Snapshot
  | [] => (none, 0, snapshot)
  | strategy :: rest =>
    match strategy.run input snapshot with
    | (some s, snapshot) => (some s, 1, snapshot)
    | (none, snapshot) =>
      let (found, runs, snapshot) := search input snapshot rest
      (found, runs + 1, snapshot)

variable (r : Resolver)

/-- Counts a search that tried so many ways. -/
def count (found : Option Symbol) (runs : Nat) : Resolver :=
  { r with
    successes := r.successes + if found.isSome then 1 else 0
    failures := r.failures + if found.isSome then 0 else 1
    strategyRuns := r.strategyRuns + runs }

def resolve (input : String) (snapshot : Snapshot) : Option Symbol × Resolver × Snapshot :=
  let key := trimmed input
  match r.cache.get key snapshot.generation with
  | (some known, cache) => (known, { r with cache }, snapshot)
  | (none, cache) =>
    let (found, runs, snapshot) := search key snapshot Strategy.all
    let r := count { r with cache } found runs
    (found, { r with cache := r.cache.insert key snapshot.generation found }, snapshot)

/-- The type that a text names; as a last resort the text is taken as a name. -/
def resolveType (input : String) (snapshot : Snapshot) : Option TypeDef × Resolver × Snapshot :=
  match r.resolve input snapshot with
  | (some (.type t), r, snapshot) => (some t, r, snapshot)
  | (some _, r, snapshot) => (none, r, snapshot)
  | (none, r, snapshot) =>
    let (names, snapshot) := snapshot.useTypeNames
    ((names.get? (trimmed input)).bind snapshot.assembly.typeDef?, r, snapshot)

def clear : Resolver := { r with cache := r.cache.clear }

def stats : ResolverStats where
  entries := r.cache.size
  hits := r.cache.hits
  misses := r.cache.misses
  successes := r.successes
  failures := r.failures
  strategyRuns := r.strategyRuns

end Resolver

end CliMetadata
