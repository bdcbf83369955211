import CliMetadata.Pattern.Bracketed
import CliMetadata.Text.Numeral

namespace CliMetadata.PatternText

/-- A decimal numeral with white space around it, if there is one. -/
def count? (m : Modes) (cs : List Char) : Option (Nat × List Char) :=
  let (digits, rest) := m.span Char.isDigit (cs.dropWhile isBlank)
  if digits.isEmpty then none
  else (Numeral.decimal? 32 (String.ofList digits)).map (·, rest.dropWhile isBlank)

/-- The least and the greatest number of rounds, behind an opening brace. -/
def bounds? (m : Modes) (cs : List Char) : Option ((Nat × Option Nat) × List Char) := do
  let (least, rest) ← count? m (m.skip cs)
  match rest with
  | '\x7d' :: rest => pure ((least, some least), rest)
  | ',' :: rest =>
    match m.skip rest with
    | '\x7d' :: rest => pure ((least, none), rest)
    | rest =>
      let (most, rest) ← count? m rest
      match rest with
      | '\x7d' :: rest => if least ≤ most then pure ((least, some most), rest) else none
      | _ => none
  | _ => none

/-- A question mark behind a repetition changes which match is found, not whether there is one. -/
def withoutLazyMark : List Char → List Char
  | '?' :: rest => rest
  | cs => cs

/-- A repetition in simple terms. To repeat what takes no character is to ask for it once. -/
def repetition (inner : Pattern) (least : Nat) (most : Option Nat) : Pattern :=
  let (least, most) :=
    if inner.takesNothing then (min least 1, some (most.elim 1 (min · 1))) else (least, most)
  if most = some 0 then .empty
  else if least = 1 ∧ most = some 1 then inner
  else .repeated inner least most

/-- Switches one mode; the second switch of one mode is an error. -/
def setFlag? (seen : List Char) (on : Bool) (m : Modes) (flag : Char) : Option Modes :=
  if flag ∈ seen then none
  else match flag with
    | 'i' => some { m with ignoreCase := on }
    | 'm' => some { m with multiLine := on }
    | 's' => some { m with dotAll := on }
    | 'U' => some { m with swapGreed := on }
    | 'u' => some { m with unicode := on }
    | 'x' => some { m with spaced := on }
    | 'R' => some { m with crlf := on }
    | _ => none

/-- Flags up to a colon or a closing parenthesis, whether that is the parenthesis, and whether there
were any. -/
def flags? (m : Modes) (seen : List Char) (on : Bool) :
    List Char → Option ((Modes × Bool × Bool) × List Char)
  | [] => none
  | ':' :: rest => if seen.head? = some '-' then none else some ((m, false, seen != []), rest)
  | ')' :: rest => if seen.head? = some '-' then none else some ((m, true, seen != []), rest)
  | '-' :: rest => if '-' ∈ seen then none else flags? m ('-' :: seen) false rest
  | flag :: rest => (setFlag? seen on m flag).bind fun m ↦ flags? m (flag :: seen) on rest

def isNameStart (c : Char) : Bool := c == '_' || CharClass.nameLetter.contains c.toNat

def isNamePart (c : Char) : Bool :=
  isNameStart c || c == '.' || c == '[' || c == ']' || CharClass.nameNumber.contains c.toNat

/-- A group's name up to its closing angle. -/
def groupName? (names : List (List Char)) (cs : List Char) : Option (List Char × List Char) := do
  let (name, rest) ← splitFirst? '>' cs
  match name with
  | [] => none
  | c :: others =>
    if isNameStart c && others.all isNamePart && !names.contains name then pure (name, rest)
    else none

/-- A pattern, and how deep things stand inside each other in its text. -/
structure Nested where
  pattern : Pattern
  depth : Nat := 0

def depthLimit : Nat := 250

namespace Nested

/-- Something that is not too deep. -/
def shallow? (n : Nested) : Option Nested := if n.depth ≤ depthLimit then some n else none

/-- The parts of an alternative one behind the other. Flags are parts without a pattern; what stands
for nothing needs no place. -/
def sequence (parts : List (Option Nested)) : Nested where
  pattern := .ofList ((parts.filterMap (·.map (·.pattern))).filter (!·.isEmpty))
  depth := jointDepth (parts.map (·.elim 0 (·.depth)))

def sets? : List Pattern → Option CharSet
  | [] => some {}
  | .one s :: rest => (sets? rest).map s.union
  | _ => none

/-- One of several patterns; classes become one class. -/
def anyOf (ps : List Pattern) : Pattern :=
  match sets? ps, ps with
  | some s, _ :: _ => .one s
  | _, [] => .empty
  | _, p :: rest => rest.foldl .either p

def choice (alternatives : List Nested) : Nested where
  pattern := anyOf (alternatives.map (·.pattern))
  depth := jointDepth (alternatives.map (·.depth))

/-- A group, which counts as one or only holds things together. -/
def grouped (n : Nested) (counts : Bool) : Nested where
  pattern := if counts then .group n.pattern else n.pattern
  depth := n.depth + 1

def repeated (n : Nested) (least : Nat) (most : Option Nat) : Nested where
  pattern := repetition n.pattern least most
  depth := n.depth + 1

end Nested

/-- What is open around the present alternative: the modes to come back to, whether the group counts
as one, and what was read of it before. -/
structure OpenGroup where
  modes : Modes
  counts : Bool
  /-- The finished alternatives, the last in front. -/
  alternatives : List Nested
  /-- The parts of the present alternative, the last in front; flags are parts without a pattern. -/
  parts : List (Option Nested)

structure State where
  modes : Modes := {}
  alternatives : List Nested := []
  parts : List (Option Nested) := []
  outer : List OpenGroup := []
  names : List (List Char) := []

namespace State

variable (s : State)

def push (n : Nested) : State := { s with parts := some n :: s.parts }

def pushFlat (p : Pattern) : State := s.push { pattern := p }

def alternative : Nested := .sequence s.parts.reverse

def total : Nested := .choice (s.alternative :: s.alternatives).reverse

def nextAlternative : State :=
  { s with alternatives := s.alternative :: s.alternatives, parts := [] }

def openGroup (modes : Modes) (counts : Bool) : State :=
  { s with
    modes, alternatives := [], parts := []
    outer := ⟨s.modes, counts, s.alternatives, s.parts⟩ :: s.outer }

def closeGroup? : Option State :=
  match s.outer with
  | [] => none
  | g :: outer =>
    (s.total.grouped g.counts).shallow?.map fun n ↦
      { s with
        modes := g.modes, alternatives := g.alternatives, parts := some n :: g.parts, outer }

def repeatLast? (least : Nat) (most : Option Nat) : Option State :=
  match s.parts with
  | some n :: parts =>
    (n.repeated least most).shallow?.map fun n ↦ { s with parts := some n :: parts }
  | _ => none

end State

/-- What stands behind an opening parenthesis. -/
def openParenthesis? (s : State) (cs : List Char) : Option (State × List Char) :=
  match s.modes.skip cs with
  | '?' :: '=' :: _ | '?' :: '!' :: _ | '?' :: '<' :: '=' :: _ | '?' :: '<' :: '!' :: _ => none
  | '?' :: 'P' :: '<' :: rest | '?' :: '<' :: rest =>
    (groupName? s.names rest).map fun (name, rest) ↦
      ({ s with names := name :: s.names }.openGroup s.modes true, rest)
  | '?' :: rest =>
    match flags? s.modes [] true rest with
    | none | some ((_, true, false), _) => none
    | some ((modes, true, true), rest) => some ({ s with modes, parts := none :: s.parts }, rest)
    | some ((modes, false, _), rest) => some (s.openGroup modes false, rest)
  | rest => some (s.openGroup s.modes true, rest)

def step? (s : State) : List Char → Option (State × List Char)
  | [] => some (s, [])
  | '(' :: rest => openParenthesis? s rest
  | ')' :: rest => s.closeGroup?.map (·, rest)
  | '|' :: rest => some (s.nextAlternative, rest)
  | '[' :: rest =>
    (bracketed? s.modes rest).map fun (n, rest) ↦ (s.push ⟨.one n.set, n.depth⟩, rest)
  | '?' :: rest => (s.repeatLast? 0 (some 1)).map (·, withoutLazyMark rest)
  | '*' :: rest => (s.repeatLast? 0 none).map (·, withoutLazyMark rest)
  | '+' :: rest => (s.repeatLast? 1 none).map (·, withoutLazyMark rest)
  | '\x7b' :: rest => do
    let ((least, most), rest) ← bounds? s.modes rest
    let s ← s.repeatLast? least most
    pure (s, withoutLazyMark (s.modes.skip rest))
  | '.' :: rest => s.modes.dot?.map fun set ↦ (s.pushFlat (.one set), rest)
  | '^' :: rest => some (s.pushFlat (.look s.modes.lineStart), rest)
  | '$' :: rest => some (s.pushFlat (.look s.modes.lineEnd), rest)
  | '\\' :: rest => do
    let (piece, rest) ← escape s.modes rest
    let p ← ofPiece? s.modes piece
    pure (s.pushFlat p, rest)
  | c :: rest => (ofPiece? s.modes (.char c)).map fun p ↦ (s.pushFlat p, rest)

/-- Takes pieces to the end of a text, in at most so many steps. -/
def readWithin : Nat → State → List Char → Option State
  | 0, s, cs => if (s.modes.skip cs).isEmpty then some s else none
  | steps + 1, s, cs =>
    match s.modes.skip cs with
    | [] => some s
    | cs =>
      match step? s cs with
      | none => none
      | some (s, rest) => readWithin steps s rest

/-- The pattern that a text spells, where case does not count unless it says so. -/
def read? (text : String) : Option Pattern := do
  let s ← readWithin text.length {} text.toList
  if s.outer.isEmpty then s.total.shallow?.map (·.pattern) else none

end CliMetadata.PatternText
