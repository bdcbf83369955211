import CliMetadata.Config
import CliMetadata.Assembly

namespace CliMetadata

/-- What is still to be looked at, and what was found so far. -/
structure Scan (α : Type) where
  pending : List Token
  found : List α := []
  deriving DecidableEq

namespace Scan

variable {α : Type}

/-- The methods in the order of the types that list them. -/
def methodOrder (a : Assembly) : List Token := a.types.toList.flatMap (·.methods)

def ofAssembly (a : Assembly) : Scan α := { pending := methodOrder a }

def isComplete (s : Scan α) : Bool := s.pending.isEmpty

def batch (look : Token → List α) (size : Nat) (s : Scan α) : Scan α :=
  ⟨s.pending.drop size, s.found ++ (s.pending.take size).flatMap look⟩

/-- Goes on until more than `wanted` results are found, all methods are looked at, or the budget of
the call is spent. The first batch is free; `timeUp` tells whether the time is over after so many
methods of this call. -/
def advanceFrom (config : Config) (timeUp : Nat → Bool) (look : Token → List α) (wanted : Nat)
    (scanned : Nat) (s : Scan α) : Scan α :=
  if _ : s.pending = [] then s
  else if wanted < s.found.length then s
  else if 0 < scanned ∧ (config.scanMethodBudget ≤ scanned ∨ timeUp scanned) then s
  else
    let size := max 1 config.scanBatchSize
    advanceFrom config timeUp look wanted (scanned + min size s.pending.length)
      (batch look size s)
termination_by s.pending.length
decreasing_by
  have := List.length_pos_iff.2 ‹_›
  simp only [batch, List.length_drop]
  omega

def advance (config : Config) (timeUp : Nat → Bool) (look : Token → List α) (wanted : Nat)
    (s : Scan α) : Scan α :=
  advanceFrom config timeUp look wanted 0 s

end Scan

end CliMetadata
