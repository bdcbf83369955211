import CliMetadata.Pattern.Modes
import CliMetadata.Text.Hex
import CliMetadata.Text.Split

namespace CliMetadata.PatternText

/-- What one escape or one plain character stands for. -/
inductive Piece where
  | char (c : Char)
  /-- A character given as two hexadecimal digits, which is a byte outside of Unicode mode. -/
  | byte (c : Char)
  | set (s : CharSet)
  | look (condition : Look)

def scalar? (n : Nat) : Option Char := if n.isValidChar then some (Char.ofNat n) else none

def hexDigits (m : Modes) : Nat → Nat → List Char → Option (Nat × List Char)
  | 0, n, cs => some (n, cs)
  | count + 1, n, cs =>
    match m.skip cs with
    | c :: rest => (Hex.digitValue? c).bind fun d ↦ hexDigits m count (n * 16 + d) rest
    | [] => none

def bracedHex (m : Modes) (cs : List Char) : Option (Piece × List Char) := do
  let (digits, rest) ← m.braced? cs
  if digits.isEmpty then none
  else do
    let n ← Hex.value? digits
    let c ← scalar? n
    pure (.char c, rest)

/-- A character by its number; `mark` tells how many digits it has without braces. -/
def hexEscape (m : Modes) (mark : Char) (cs : List Char) : Option (Piece × List Char) :=
  match m.skip cs with
  | '\x7b' :: rest => bracedHex m rest
  | cs => do
    let width := if mark = 'x' then 2 else if mark = 'u' then 4 else 8
    let (n, rest) ← hexDigits m width 0 cs
    let c ← scalar? n
    pure (if mark = 'x' then .byte c else .char c, rest)

/-- The class of what stands between braces, a name or a property and its value, and whether the
property is asked to differ from the value. -/
def propertyClass? (name : List Char) : Option (Bool × CharSet) :=
  match splitFirstPiece? ['!', '='] name with
  | some (property, value) => (CharClass.valued? property value).map (true, ·)
  | none =>
    match (splitFirst? ':' name).or (splitFirst? '=' name) with
    | some (property, value) => (CharClass.valued? property value).map (false, ·)
    | none => (CharClass.named? name).map (false, ·)

def propertyEscape (m : Modes) (negated : Bool) (cs : List Char) : Option (Piece × List Char) :=
  if !m.unicode then none
  else match m.skip cs with
    | [] => none
    | '\x7b' :: rest => do
      let (name, rest) ← m.braced? rest
      let (differs, s) ← propertyClass? name
      let s ← m.finished (negated != differs) s
      pure (.set s, rest)
    | '\\' :: _ => none
    | c :: rest => do
      let s ← CharClass.named? [c]
      let s ← m.finished negated s
      pure (.set s, rest)

def isMeta (c : Char) : Bool := "\\.+*?()|[]\x7b\x7d^$#&-~".toList.contains c

/-- The characters that may have a backslash in front without need. -/
def isEscapable (c : Char) : Bool :=
  isMeta c || c.toNat < 0x80 && !c.isAlphanum && c != '<' && c != '>'

/-- A word condition with a name in braces. What cannot be one may still be a repetition. -/
def namedEdge (m : Modes) (cs : List Char) : Option (Look × List Char) :=
  match cs with
  | '\x7b' :: rest =>
    match m.skip rest with
    | [] => none
    | c :: _ =>
      if c.isAlpha || c == '-' then do
        let (name, rest) ← m.braced? rest
        match String.ofList name with
        | "start" => pure (.wordStart m.words, rest)
        | "end" => pure (.wordEnd m.words, rest)
        | "start-half" => pure (.noWordBefore m.words, rest)
        | "end-half" => pure (.noWordAfter m.words, rest)
        | _ => none
      else some (.wordEdge m.words, cs)
  | _ => some (.wordEdge m.words, cs)

def escape (m : Modes) : List Char → Option (Piece × List Char)
  | [] => none
  | c :: rest =>
    if c = 'x' ∨ c = 'u' ∨ c = 'U' then hexEscape m c rest
    else if c = 'p' ∨ c = 'P' then propertyEscape m (c == 'P') rest
    else if c ∈ ['d', 's', 'w', 'D', 'S', 'W'] then (m.letterClass? c).map fun s ↦ (.set s, rest)
    else if isEscapable c then some (.char c, rest)
    else match c with
      | 'a' => some (.char '\x07', rest)
      | 'f' => some (.char '\x0c', rest)
      | 't' => some (.char '\t', rest)
      | 'n' => some (.char '\n', rest)
      | 'r' => some (.char '\r', rest)
      | 'v' => some (.char '\x0b', rest)
      | 'A' => some (.look .textStart, rest)
      | 'z' => some (.look .textEnd, rest)
      | 'b' => (namedEdge m rest).map fun (condition, rest) ↦ (.look condition, rest)
      | 'B' => some (.look (.noWordEdge m.words), rest)
      | '<' => some (.look (.wordStart m.words), rest)
      | '>' => some (.look (.wordEnd m.words), rest)
      | _ => none

/-- The pattern of a piece outside of classes. -/
def ofPiece? (m : Modes) : Piece → Option Pattern
  | .char c =>
    some (.one (if m.unicode || c.toNat < 0x80 then m.closed (.ofChar c) else .ofChar c))
  | .byte c => (m.checked (.ofChar c)).map fun s ↦ .one (m.closed s)
  | .set s => some (.one s)
  | .look condition => some (.look condition)

end CliMetadata.PatternText
