import CliMetadata.Text.Casing
import CliMetadata.Text.FoldingData

namespace CliMetadata

/-- Ascending closed ranges of code points that neither overlap nor touch. -/
structure CharSet where
  ranges : List (Nat × Nat) := []
  deriving DecidableEq

namespace CharSet

/-- Puts a range together with those of an ascending list behind it that overlap or touch. -/
def joinedFrom (first last : Nat) : List (Nat × Nat) → List (Nat × Nat)
  | [] => [(first, last)]
  | (next, stop) :: rest =>
    if next ≤ last + 1 then joinedFrom first (max last stop) rest
    else (first, last) :: joinedFrom next stop rest

def joined : List (Nat × Nat) → List (Nat × Nat)
  | [] => []
  | (first, last) :: rest => joinedFrom first last rest

def ofRanges (ranges : List (Nat × Nat)) : CharSet :=
  ⟨joined (ranges.mergeSort fun x y ↦ x.1 ≤ y.1)⟩

def ofPoint (n : Nat) : CharSet := ⟨[(n, n)]⟩

def ofChar (c : Char) : CharSet := ofPoint c.toNat

variable (s t : CharSet)

def holdsIn (n : Nat) : List (Nat × Nat) → Bool
  | [] => false
  | (first, last) :: rest => first ≤ n && (n ≤ last || holdsIn n rest)

def contains (n : Nat) : Bool := holdsIn n s.ranges

def union : CharSet := ofRanges (s.ranges ++ t.ranges)

/-- The ranges between ascending ranges, from `start` up to the greatest code point of interest. -/
def gaps (greatest start : Nat) : List (Nat × Nat) → List (Nat × Nat)
  | [] => if start ≤ greatest then [(start, greatest)] else []
  | (first, last) :: rest =>
    if start < first then (start, first - 1) :: gaps greatest (last + 1) rest
    else gaps greatest (last + 1) rest

def lastPoint : Nat := 0x10FFFF

def complementTo (greatest : Nat) : CharSet := ⟨gaps greatest 0 s.ranges⟩

def complement : CharSet := s.complementTo lastPoint

def inter : CharSet := (s.complement.union t.complement).complement

def diff : CharSet := s.inter t.complement

def symmDiff : CharSet := (s.diff t).union (t.diff s)

def size : Nat := s.ranges.foldr (fun r n ↦ r.2 + 1 - r.1 + n) 0

def isAscii : Bool := s.ranges.all (·.2 < 0x80)

/-- The characters of the set, meant for small sets. -/
def toList : List Char :=
  s.ranges.flatMap fun r ↦ (List.range (r.2 + 1 - r.1)).map fun i ↦ Char.ofNat (r.1 + i)

def foldings : List (Nat × Nat) :=
  Folding.runs.toList.flatMap fun run ↦
    (List.range ((run.last - run.first) / run.stride + 1)).map fun i ↦
      let n := run.first + i * run.stride
      (n, ((n : Int) + run.shift).toNat)

/-- The characters that do not fold like themselves alone. -/
def foldable : CharSet := ofRanges (foldings.flatMap fun p ↦ [(p.1, p.1), (p.2, p.2)])

/-- All characters that fold like one of the set. -/
def foldClosure : CharSet :=
  let images := (foldings.filter fun p ↦ s.contains p.1).map fun p ↦ (p.2, p.2)
  let folded := ofRanges (s.ranges ++ images)
  ofRanges (folded.ranges ++ (foldings.filter fun p ↦ folded.contains p.2).map fun p ↦ (p.1, p.1))

def asciiClosure : CharSet :=
  let letters := (List.range 26).flatMap fun i ↦
    if s.contains (65 + i) || s.contains (97 + i) then [(65 + i, 65 + i), (97 + i, 97 + i)] else []
  ofRanges (s.ranges ++ letters)

end CharSet

end CliMetadata
