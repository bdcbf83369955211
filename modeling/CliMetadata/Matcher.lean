import CliMetadata.Text.Casing
import CliMetadata.Text.Split

namespace CliMetadata

/-- Reads patterns: the source of a pattern and a limit on its compiled size give the test of texts
for a match, if the pattern is valid and within the limit. -/
abbrev PatternEngine := String → Nat → Option (String → Bool)

inductive Matcher where
  | everything
  | containing (needle : List Char)
  | pattern (test : String → Bool)
  | nothing

namespace Matcher

/-- The empty query matches everything and a pattern that cannot be used nothing. -/
def ofQuery (engine : PatternEngine) (query : String) (isPattern : Bool) (limit : Nat) : Matcher :=
  if query = "" then .everything
  else if isPattern then (engine query limit).elim .nothing .pattern
  else .containing (Casing.lowercase query)

def holds (text : String) : Matcher → Bool
  | .everything => true
  | .containing needle => occursIn needle (Casing.lowercase text)
  | .pattern test => test text
  | .nothing => false

def holdsOfName (m : Matcher) (name fullName : String) : Bool := m.holds name || m.holds fullName

end Matcher

end CliMetadata
