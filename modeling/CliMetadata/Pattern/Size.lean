import CliMetadata.Pattern.Reader

namespace CliMetadata.Pattern

/-- A range of values for each byte of a character's spelling. Of the bytes behind the leading one
only the six low bits are meant. -/
abbrev Spelling := List (Nat × Nat)

/-- How a range of numbers is spelled with a leading byte and so many bytes of six bits. Each
spelling stands for all choices from its ranges. -/
def blocks : Nat → Nat → Nat → List Spelling
  | 0, first, last => [[(first, last)]]
  | count + 1, first, last =>
    let size := 1 <<< (6 * (count + 1))
    let under (lead low high : Nat) := (blocks count low high).map ((lead, lead) :: ·)
    let x := first / size
    let y := last / size
    if x = y then under x (first % size) (last % size)
    else
      let start := if first % size = 0 then [] else under x (first % size) (size - 1)
      let x := (first + size - 1) / size
      let stop := (last + 1) / size
      let full :=
        if x < stop then (blocks count 0 (size - 1)).map ((x, stop - 1) :: ·) else []
      start ++ full ++ if (last + 1) % size = 0 then [] else under y 0 (last % size)

/-- The numbers whose spellings are of one length, with the number of bytes behind the leading one
and the mark in that. -/
def spellingLengths : List (Nat × Nat × Nat × Nat) := [
  (0, 0x7F, 0, 0), (0x80, 0x7FF, 1, 0xC0), (0x800, 0xD7FF, 2, 0xE0), (0xE000, 0xFFFF, 2, 0xE0),
  (0x10000, 0x10FFFF, 3, 0xF0)]

/-- How the characters of a set are spelled, in ascending order. -/
def spellings (set : CharSet) : List Spelling :=
  set.ranges.flatMap fun (first, last) ↦ spellingLengths.flatMap fun (low, high, count, mark) ↦
    let first := max first low
    let last := min last high
    if first ≤ last then
      (blocks count first last).map (·.modifyHead fun lead ↦ (lead.1 + mark, lead.2 + mark))
    else []

def commonLength : Spelling → Spelling → Nat
  | x :: xs, y :: ys => if x = y then commonLength xs ys + 1 else 0
  | _, _ => 0

/-- How many different starts spellings have, the spellings themselves left out. -/
def startCount (earlier : Spelling) : List Spelling → Nat
  | [] => 0
  | s :: rest => s.length - 1 - min (s.length - 1) (commonLength earlier s) + startCount s rest

/-- An estimate of the bytes an automaton takes for one character of a set. One that reads texts
backwards can share less between spellings. -/
def setCost (backward : Bool) (set : CharSet) : Nat :=
  match set.ranges with
  | [(first, last)] =>
    if first = last then 32 * (spellings set).head?.elim 1 List.length else wide
  | _ => wide
where
  wide : Nat :=
    if set.isAscii then 64 + 8 * set.ranges.length
    else
      let found := spellings set
      if backward then 64 + 36 * found.length + 32 * startCount [] found
      else 64 + 8 * found.length + 40 * startCount [] found

/-- An estimate of the bytes an automaton for the pattern takes. A branch of a choice counts four
more, for the choice has to refer to it. -/
def cost (backward isBranch : Bool) : Pattern → Nat
  | .either first second =>
    (if isBranch then 0 else 64) + first.cost backward true + second.cost backward true
  | .empty | .look _ => reference + 32
  | .one set => reference + setCost backward set
  | .group inner => reference + inner.cost backward false + if backward then 0 else 64
  | .sequence first second =>
    reference + first.cost backward false + second.cost backward false
  | .repeated inner least most =>
    let round := inner.cost backward false
    reference + match least, most with
    | 0, none => round + if inner.mayBeEmpty then 112 else 40
    | 0, some 1 => round + 72
    | n, none => n * round + 40
    | n, some most =>
      if most = n then n * round
      else (if n = 0 then 32 else n * round) + 32 + (most - n) * (round + 40)
where
  reference : Nat := if isBranch then 4 else 0

/-- Whether each match of the pattern is bound to the start of the text, or to its end. -/
def isAnchored (atEnd : Bool) : Pattern → Bool
  | .look .textStart => !atEnd
  | .look .textEnd => atEnd
  | .empty | .one _ | .look _ => false
  | .group inner => inner.isAnchored atEnd
  | .sequence first second =>
    if atEnd then second.isAnchored true || second.takesNothing && first.isAnchored true
    else first.isAnchored false || first.takesNothing && second.isAnchored false
  | .either first second => first.isAnchored atEnd && second.isAnchored atEnd
  | .repeated inner least _ => least != 0 && inner.isAnchored atEnd

/-- The bytes an automaton takes, with what finds the place of a match and tells its bounds. -/
def wholeCost (backward : Bool) (p : Pattern) : Nat :=
  p.cost backward false + (if p.isAnchored backward then 64 else 144) + if backward then 0 else 64

/-- Whether automata for the pattern, in either direction, stay within a limit. -/
def isWithin (limit : Nat) (p : Pattern) : Bool :=
  p.wholeCost false ≤ limit && p.wholeCost true ≤ limit

/-- The most texts, the most characters of one class and the most rounds that count as few. -/
def textLimit : Nat := 250

def classLimit : Nat := 10

def roundLimit : Nat := 10

/-- All texts made of one from each of two lists, if they are not too many. -/
def products? (xs ys : List (List Char)) : Option (List (List Char)) :=
  if textLimit < xs.length * ys.length then none
  else some (xs.flatMap fun x ↦ ys.map (x ++ ·))

def powers? (xs : List (List Char)) : Nat → Option (List (List Char))
  | 0 => some [[]]
  | n + 1 => (powers? xs n).bind (products? · xs)

/-- The texts a pattern stands for, if they are few and nothing else is asked for. -/
def texts? : Pattern → Option (List (List Char))
  | .empty => some [[]]
  | .look _ | .group _ => none
  | .one set => if classLimit < set.size then none else some (set.toList.map ([·]))
  | .sequence first second => do products? (← first.texts?) (← second.texts?)
  | .either first second => do
    let xs ← first.texts?
    let ys ← second.texts?
    if textLimit < xs.length + ys.length then none else pure (xs ++ ys)
  | .repeated inner least most => do
    let xs ← inner.texts?
    if least = 0 ∧ most = some 1 then pure (xs ++ [[]])
    else if most = some least ∧ least ≤ roundLimit then powers? xs least
    else none

/-- Leaves out what starts with an earlier text. -/
def withoutExtensions (texts : List (List UInt8)) : List (List UInt8) :=
  (texts.foldl (fun kept text ↦ if kept.any (·.isPrefixOf text) then kept else text :: kept)
    []).reverse

def commonStart : List UInt8 → List UInt8 → List UInt8
  | x :: xs, y :: ys => if x = y then x :: commonStart xs ys else []
  | _, _ => []

def sharedStart : List (List UInt8) → List UInt8
  | [] => []
  | text :: texts => texts.foldl commonStart text

/-- Shortens texts as long as there are too many; each step has a length and a number. -/
def shortened : List (Nat × Nat) → List (List UInt8) → List (List UInt8)
  | [], texts => texts
  | (length, number) :: steps, texts =>
    if texts.length ≤ number then texts
    else shortened steps (withoutExtensions (texts.map (·.take length)))

def isCommon (b : UInt8) : Bool :=
  0xC0 ≤ b || "\n\r (),-./0129:_abcdefghilmnoprstuvxy|".toList.any (·.toNat == b.toNat)

/-- A shared start that is better looked for alone than the texts themselves. -/
def sharesStart (texts : List (List UInt8)) : Bool :=
  let start := sharedStart texts
  1 < texts.length
    && (start.length ≤ 3 && (start.head?.any fun b ↦ !isCommon b)
      || 4 < start.length || 1 < start.length && 16 < texts.length)

/-- Texts that are looked for one by one: none is empty, and neither a shared start nor shortened
texts serve better. -/
def areSoughtSingly (texts : List (List UInt8)) : Bool :=
  let texts := withoutExtensions texts
  let short := shortened [(5, 10), (4, 10), (3, 64), (2, 64), (1, 10)] texts
  !texts.isEmpty && texts.all (fun text ↦ 0 < text.length && text.length ≤ 100)
    && !sharesStart texts
    && (short == texts || short.any (·.length ≤ 2) || 64 < short.length)

def isPlain (p : Pattern) : Bool :=
  p.texts?.any fun texts ↦
    areSoughtSingly (texts.map fun text ↦ (String.ofList text).toUTF8.toList)

/-- The test for a match of the pattern that a text spells, within a limit on its size. -/
def test? (text : String) (limit : Nat) : Option (String → Bool) :=
  (PatternText.read? text).bind fun p ↦
    if p.isPlain || p.isWithin limit then some p.matchesIn else none

end CliMetadata.Pattern
