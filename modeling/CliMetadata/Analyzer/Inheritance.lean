import CliMetadata.Analyzer

namespace CliMetadata.Analyzer

def baseTypes (input : String) (limit : Nat) : Query (List TypeEndpoint) := do
  if limit = 0 then throw (.invalidArgument .emptyLimit)
  let a ← assembly
  let t ← requireType input
  let config ← config?
  pure (Inheritance.baseTypes a config t limit)

def derivedTypes (input : String) (request : PageRequest) : Query (Page TypeEndpoint) := do
  let a ← assembly
  let w ← window request
  let root ← requireType input
  let config ← config?
  pure (.complete (Inheritance.derivedTypes a config root.token) w)

def interfaces (input : String) : Query (List TypeEndpoint) := do
  let a ← assembly
  let t ← requireType input
  pure (Inheritance.interfacesOf a t)

def implementors (input : String) (request : PageRequest) : Query (Page TypeEndpoint) := do
  let a ← assembly
  let w ← window request
  let interface ← requireType input
  pure (.complete (Inheritance.implementors a interface.token) w)

def overrides (input : String) : Query Overrides := do
  let a ← assembly
  let m ← requireMethod input
  let config ← config?
  pure (Inheritance.overridesOf a config m)

def overloads (input : String) : Query (List Symbol.Summary) := do
  let a ← assembly
  let m ← requireMethod input
  pure ((Inheritance.overloads a m).map fun c ↦ (Symbol.method c).summary a)

end CliMetadata.Analyzer
