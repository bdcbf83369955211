import CliMetadata.Pattern.Escape

namespace CliMetadata.PatternText

/-- The depth of things of the given depths side by side: to join two or more is one level more. -/
def jointDepth (depths : List Nat) : Nat := depths.foldl max 0 + if 1 < depths.length then 1 else 0

inductive SetOperation where
  | inter | diff | symmDiff

namespace SetOperation

def apply (x y : CharSet) : SetOperation → CharSet
  | .inter => x.inter y
  | .diff => x.diff y
  | .symmDiff => x.symmDiff y

def read? : List Char → Option (SetOperation × List Char)
  | '&' :: '&' :: rest => some (.inter, rest)
  | '-' :: '-' :: rest => some (.diff, rest)
  | '~' :: '~' :: rest => some (.symmDiff, rest)
  | _ => none

end SetOperation

/-- A set of characters, and how deep classes stand inside each other in its text. -/
structure NestedSet where
  set : CharSet
  depth : Nat := 0

/-- An open class: what was read since its last operation, and the operation with its left side. -/
structure OpenClass where
  negated : Bool
  items : List NestedSet := []
  left : Option (NestedSet × SetOperation) := none

namespace OpenClass

variable (m : Modes) (o : OpenClass)

def add (item : NestedSet) : OpenClass := { o with items := item :: o.items }

def addChar (c : Char) : OpenClass := o.add { set := .ofChar c }

def right : NestedSet where
  set := .ofRanges (o.items.flatMap (·.set.ranges))
  depth := jointDepth (o.items.map (·.depth))

/-- What was read so far. Operations go from left to right and see all forms of letters. -/
def total : NestedSet :=
  let right := o.right
  match o.left with
  | none => right
  | some (left, operation) =>
    { set := operation.apply (m.closed left.set) (m.closed right.set)
      depth := jointDepth [left.depth, right.depth] }

def operate (operation : SetOperation) : OpenClass :=
  { o with items := [], left := some (o.total m, operation) }

def close? : Option NestedSet :=
  let total := o.total m
  (m.finished o.negated total.set).map fun set ↦ { set, depth := total.depth + 1 }

end OpenClass

/-- What opens a class behind its bracket. A closing bracket that comes first stands for itself. -/
def openClass (m : Modes) (cs : List Char) : OpenClass × List Char :=
  let (negated, cs) := match m.skip cs with
    | '^' :: rest => (true, rest)
    | cs => (false, cs)
  let (dashes, rest) := m.span (· == '-') cs
  let o := dashes.foldl OpenClass.addChar { negated }
  match dashes, rest with
  | [], ']' :: rest => (o.addChar ']', rest)
  | _, rest => (o, rest)

/-- A class of ASCII characters by its name, such as `[:alpha:]`, behind the bracket. -/
def asciiClass? (m : Modes) (cs : List Char) : Option (Option CharSet × List Char) :=
  match cs with
  | ':' :: rest => do
    let (negated, rest) := match rest with
      | '^' :: rest => (true, rest)
      | rest => (false, rest)
    let (name, rest) ← splitFirst? ':' rest
    match rest with
    | ']' :: rest =>
      let s ← CharClass.ascii? (String.ofList name)
      pure (m.finished negated s, rest)
    | _ => none
  | _ => none

def classPiece? (m : Modes) : List Char → Option (Piece × List Char)
  | [] => none
  | '\\' :: rest => escape m rest
  | c :: rest => some (.char c, rest)

/-- The character that a piece of a class stands for. -/
def classChar? (m : Modes) : Piece → Option Char
  | .char c | .byte c => if m.unicode || c.toNat < 0x80 then some c else none
  | _ => none

def classSet? (m : Modes) : Piece → Option CharSet
  | .set s => some s
  | .look _ => none
  | piece => (classChar? m piece).map .ofChar

/-- The character by which it is decided whether a dash starts a range. Behind it white space and
one number sign are looked through, unless there is nothing else. -/
def behindDash? (m : Modes) (cs : List Char) : Option Char :=
  if m.spaced then
    let seen := match cs.dropWhile isBlank with
      | '#' :: rest => rest.dropWhile isBlank
      | rest => rest
    seen.head?.or cs.head?
  else cs.head?

/-- A range, or one piece of a class. -/
def classItem? (m : Modes) (cs : List Char) : Option (CharSet × List Char) := do
  let (first, rest) ← classPiece? m cs
  let rest := m.skip rest
  match rest with
  | '-' :: behind =>
    if behindDash? m behind = some ']' ∨ behindDash? m behind = some '-' then
      let s ← classSet? m first
      pure (s, rest)
    else
      let (last, rest) ← classPiece? m (m.skip behind)
      let first ← classChar? m first
      let last ← classChar? m last
      if first.toNat ≤ last.toNat then pure (⟨[(first.toNat, last.toNat)]⟩, rest) else none
  | _ =>
    let s ← classSet? m first
    pure (s, rest)

/-- A class to its closing bracket, where `outer` are the classes open around the present one. -/
def classWithin (m : Modes) :
    Nat → List OpenClass → OpenClass → List Char → Option (NestedSet × List Char)
  | 0, _, _, _ => none
  | steps + 1, outer, o, cs =>
    match m.skip cs with
    | [] => none
    | '[' :: rest =>
      match asciiClass? m rest with
      | some (none, _) => none
      | some (some set, rest) => classWithin m steps outer (o.add { set }) rest
      | none =>
        let (inner, rest) := openClass m rest
        classWithin m steps (o :: outer) inner rest
    | ']' :: rest =>
      match o.close? m, outer with
      | none, _ => none
      | some set, [] => some (set, rest)
      | some set, around :: outer => classWithin m steps outer (around.add set) rest
    | cs =>
      match SetOperation.read? cs with
      | some (operation, rest) => classWithin m steps outer (o.operate m operation) rest
      | none =>
        match classItem? m cs with
        | none => none
        | some (set, rest) => classWithin m steps outer (o.add { set }) rest

def bracketed? (m : Modes) (cs : List Char) : Option (NestedSet × List Char) :=
  let (o, rest) := openClass m cs
  classWithin m (cs.length + 1) [] o rest

end CliMetadata.PatternText
