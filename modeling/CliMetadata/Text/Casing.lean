import CliMetadata.Text.CasingData

namespace CliMetadata.Casing

def inRanges (ranges : Array (Nat × Nat)) (n : Nat) : Bool :=
  ranges.any fun r ↦ r.1 ≤ n && n ≤ r.2

def isIgnorable (c : Char) : Bool := inRanges ignorableRanges c.toNat

def isCased (c : Char) : Bool := inRanges casedRanges c.toNat

def Run.holds (r : Run) (n : Nat) : Bool :=
  r.first ≤ n && n ≤ r.last && (n - r.first) % r.stride == 0

def lowerSimple (c : Char) : Char :=
  if c.toNat < 0x80 then c.toLower
  else match lowercaseRuns.find? (·.holds c.toNat) with
    | some r => Char.ofNat ((c.toNat : Int) + r.shift).toNat
    | none => c

/-- The first character that is not ignorable is cased. -/
def meetsCased (cs : List Char) : Bool :=
  match cs.dropWhile isIgnorable with
  | c :: _ => isCased c
  | [] => false

/-- The lowercase of a character between what stands before it, nearest first, and what follows. -/
def lowerAt (before : List Char) (c : Char) (after : List Char) : List Char :=
  if c = 'Σ' then [if meetsCased before && !meetsCased after then 'ς' else 'σ']
  else if c = 'İ' then ['i', '\u0307']
  else [lowerSimple c]

def lowerFrom (before : List Char) : List Char → List Char
  | [] => []
  | c :: after => lowerAt before c after ++ lowerFrom (c :: before) after

def lowercase (text : String) : List Char := lowerFrom [] text.toList

end CliMetadata.Casing
