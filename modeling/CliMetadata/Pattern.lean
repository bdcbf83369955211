import CliMetadata.Pattern.CharSet

namespace CliMetadata

/-- A place between the characters of a text: how many stand before it, the last of them, and what
follows. -/
structure Gap where
  index : Nat
  before : Option Char
  rest : List Char

namespace Gap

/-- The places of a text from one place on, the later ones in front of those passed before. -/
def onward (passed : List Gap) (index : Nat) (before : Option Char) : List Char → List Gap
  | [] => ⟨index, before, []⟩ :: passed
  | c :: rest => onward (⟨index, before, c :: rest⟩ :: passed) (index + 1) (some c) rest

def ofText (text : String) : List Gap := onward [] 0 none text.toList

def after (p : Gap) : Option Char := p.rest.head?

def passing? (set : CharSet) (p : Gap) : Option Gap :=
  match p.rest with
  | [] => none
  | c :: rest => if set.contains c.toNat then some ⟨p.index + 1, some c, rest⟩ else none

/-- The places of two descending lists as one descending list. -/
def merged : List Gap → List Gap → List Gap
  | [], ys => ys
  | xs, [] => xs
  | x :: xs, y :: ys =>
    if y.index < x.index then x :: merged xs (y :: ys)
    else if x.index < y.index then y :: merged (x :: xs) ys
    else x :: merged xs ys
termination_by xs ys => xs.length + ys.length

/-- The places of a descending list that another one lacks. -/
def without : List Gap → List Gap → List Gap
  | [], _ => []
  | xs, [] => xs
  | x :: xs, y :: ys =>
    if y.index < x.index then x :: without xs (y :: ys)
    else if x.index < y.index then without (x :: xs) ys
    else without xs ys
termination_by xs ys => xs.length + ys.length

/-- The places `reached` and those that at most so many more rounds of a step lead to, where `fresh`
are the places that the last round found. -/
def reachable (round : List Gap → List Gap) :
    Nat → List Gap → List Gap → List Gap
  | 0, reached, _ => reached
  | _ + 1, reached, [] => reached
  | rounds + 1, reached, fresh =>
    let found := without (round fresh) reached
    reachable round rounds (merged found reached) found

/-- As many rounds as can still lead to another place: each has to pass a character. -/
def roundsLeft (places : List Gap) : Nat := places.getLast?.elim 0 fun p ↦ p.rest.length + 1

end Gap

/-- Conditions on the characters around a place, without taking any. Word characters are those of
`words`. -/
inductive Look where
  | textStart | textEnd | lineStart | lineEnd | crlfStart | crlfEnd
  | wordEdge (words : CharSet)
  | noWordEdge (words : CharSet)
  | wordStart (words : CharSet)
  | wordEnd (words : CharSet)
  | noWordBefore (words : CharSet)
  | noWordAfter (words : CharSet)

namespace Look

def isWord (words : CharSet) (c : Option Char) : Bool := c.any fun c ↦ words.contains c.toNat

def holds (p : Gap) : Look → Bool
  | .textStart => p.before.isNone
  | .textEnd => p.after.isNone
  | .lineStart => p.before.all (· == '\n')
  | .lineEnd => p.after.all (· == '\n')
  | .crlfStart => p.before.all fun c ↦ c == '\n' || c == '\r' && p.after != some '\n'
  | .crlfEnd => p.after.all fun c ↦ c == '\r' || c == '\n' && p.before != some '\r'
  | .wordEdge words => isWord words p.before != isWord words p.after
  | .noWordEdge words => isWord words p.before == isWord words p.after
  | .wordStart words => !isWord words p.before && isWord words p.after
  | .wordEnd words => isWord words p.before && !isWord words p.after
  | .noWordBefore words => !isWord words p.before
  | .noWordAfter words => !isWord words p.after

end Look

inductive Pattern where
  | empty
  | one (set : CharSet)
  | look (condition : Look)
  | group (inner : Pattern)
  | sequence (first second : Pattern)
  | either (first second : Pattern)
  /-- At least `least` times the inner pattern, and at most `most` times. -/
  | repeated (inner : Pattern) (least : Nat) (most : Option Nat)

namespace Pattern

/-- The places at which a match can end that starts at one of some places. Both lists descend, which
keeps a place from being followed up twice. -/
def ends : Pattern → List Gap → List Gap
  | .empty, starts => starts
  | .one set, starts => starts.filterMap (·.passing? set)
  | .look condition, starts => starts.filter condition.holds
  | .group inner, starts => inner.ends starts
  | .sequence first second, starts => second.ends (first.ends starts)
  | .either first second, starts => Gap.merged (first.ends starts) (second.ends starts)
  | .repeated inner least most, starts =>
    let required := Nat.repeat inner.ends least starts
    let rounds := most.elim (Gap.roundsLeft required) (· - least)
    Gap.reachable inner.ends rounds required required

def matchesIn (pattern : Pattern) (text : String) : Bool :=
  !(pattern.ends (Gap.ofText text)).isEmpty

/-- Whether the shape of a pattern leaves no room for a character in a match. -/
def takesNothing : Pattern → Bool
  | .empty | .look _ => true
  | .one _ => false
  | .group inner | .repeated inner _ _ => inner.takesNothing
  | .sequence first second | .either first second => first.takesNothing && second.takesNothing

/-- Whether the shape of a pattern leaves room for a match without characters. -/
def mayBeEmpty : Pattern → Bool
  | .empty | .look _ => true
  | .one _ => false
  | .group inner => inner.mayBeEmpty
  | .sequence first second => first.mayBeEmpty && second.mayBeEmpty
  | .either first second => first.mayBeEmpty || second.mayBeEmpty
  | .repeated inner least _ => least == 0 || inner.mayBeEmpty

def isEmpty : Pattern → Bool
  | .empty => true
  | _ => false

def ofList : List Pattern → Pattern
  | [] => .empty
  | [p] => p
  | p :: ps => .sequence p (ofList ps)

end Pattern

end CliMetadata
