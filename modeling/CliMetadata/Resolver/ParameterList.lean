import CliMetadata.Text.Blank

namespace CliMetadata.ParameterList

/-- The usual spelling of a mark. -/
def standardMark (c : Char) : Char :=
  if c = '\x7b' then '<'
  else if c = '\x7d' then '>'
  else if c = '@' then '&'
  else if c = '/' then '+'
  else c

/-- A type without white space and in the usual spelling. -/
def standardize (text : List Char) : List Char :=
  (text.filter fun c ↦ !isBlank c).map standardMark

/-- How many brackets are open behind a character; there are never fewer than none. -/
def depthAfter (depth : Nat) (c : Char) : Nat :=
  if c = '<' ∨ c = '[' ∨ c = '(' ∨ c = '\x7b' then depth + 1
  else if c = '>' ∨ c = ']' ∨ c = ')' ∨ c = '\x7d' then depth - 1
  else depth

/-- The pieces between the commas outside of brackets; always at least one. -/
def pieces (depth : Nat) : List Char → List (List Char)
  | [] => [[]]
  | c :: rest =>
    if c = ',' ∧ depth = 0 then [] :: pieces depth rest
    else match pieces (depthAfter depth c) rest with
      | [] => [[c]]
      | piece :: others => (c :: piece) :: others

/-- Without the last piece, where that is blank. -/
def withoutBlankEnd : List (List Char) → List (List Char)
  | [] => []
  | [last] => if last.all isBlank then [] else [last]
  | piece :: rest => piece :: withoutBlankEnd rest

/-- The types of a list. Nothing but white space behind the last comma is no type. -/
def split (text : List Char) : List (List Char) :=
  (withoutBlankEnd (pieces 0 text)).map standardize

end CliMetadata.ParameterList
