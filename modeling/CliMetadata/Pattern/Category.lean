import CliMetadata.Pattern.CharSet
import CliMetadata.Text.CategoryData

namespace CliMetadata.CharClass

def ofArray (ranges : Array (Nat × Nat)) : CharSet := .ofRanges ranges.toList

def ofArrays (arrays : List (Array (Nat × Nat))) : CharSet := .ofRanges (arrays.flatMap (·.toList))

/-- Every other character of some ranges. -/
def alternating (ranges : Array (Nat × Nat)) : List (Nat × Nat) :=
  ranges.toList.flatMap fun r ↦
    (List.range ((r.2 - r.1) / 2 + 1)).map fun i ↦ (r.1 + 2 * i, r.1 + 2 * i)

def uppercaseLetters : CharSet :=
  .ofRanges (uppercaseLetter.toList ++ alternating uppercaseLetterAlternating)

def lowercaseLetters : CharSet :=
  .ofRanges (lowercaseLetter.toList ++ alternating lowercaseLetterAlternating)

/-- The categories with a short and a long name each, and what they hold. -/
def categories : List (String × String × (Unit → CharSet)) := [
  ("lu", "uppercaseletter", fun _ ↦ uppercaseLetters),
  ("ll", "lowercaseletter", fun _ ↦ lowercaseLetters),
  ("lt", "titlecaseletter", fun _ ↦ ofArray titlecaseLetter),
  ("lm", "modifierletter", fun _ ↦ ofArray modifierLetter),
  ("lo", "otherletter", fun _ ↦ ofArray otherLetter),
  ("mn", "nonspacingmark", fun _ ↦ ofArray nonspacingMark),
  ("mc", "spacingmark", fun _ ↦ ofArray spacingMark),
  ("me", "enclosingmark", fun _ ↦ ofArray enclosingMark),
  ("nd", "decimalnumber", fun _ ↦ ofArray decimalNumber),
  ("nl", "letternumber", fun _ ↦ ofArray letterNumber),
  ("no", "othernumber", fun _ ↦ ofArray otherNumber),
  ("pc", "connectorpunctuation", fun _ ↦ ofArray connectorPunctuation),
  ("pd", "dashpunctuation", fun _ ↦ ofArray dashPunctuation),
  ("ps", "openpunctuation", fun _ ↦ ofArray openPunctuation),
  ("pe", "closepunctuation", fun _ ↦ ofArray closePunctuation),
  ("pi", "initialpunctuation", fun _ ↦ ofArray initialPunctuation),
  ("pf", "finalpunctuation", fun _ ↦ ofArray finalPunctuation),
  ("po", "otherpunctuation", fun _ ↦ ofArray otherPunctuation),
  ("sm", "mathsymbol", fun _ ↦ ofArray mathSymbol),
  ("sc", "currencysymbol", fun _ ↦ ofArray currencySymbol),
  ("sk", "modifiersymbol", fun _ ↦ ofArray modifierSymbol),
  ("so", "othersymbol", fun _ ↦ ofArray otherSymbol),
  ("zs", "spaceseparator", fun _ ↦ ofArray spaceSeparator),
  ("zl", "lineseparator", fun _ ↦ ofArray lineSeparator),
  ("zp", "paragraphseparator", fun _ ↦ ofArray paragraphSeparator),
  ("cc", "control", fun _ ↦ ofArray control),
  ("cf", "format", fun _ ↦ ofArray format),
  ("co", "privateuse", fun _ ↦ ofArray privateUse)]

def categoriesUnder (letter : Char) : CharSet :=
  .ofRanges (categories.flatMap fun (short, _, set) ↦
    if short.toList.head? == some letter then (set ()).ranges else [])

/-- The numbers of surrogates, which are no characters. -/
def surrogates : CharSet := ⟨[(0xD800, 0xDFFF)]⟩

def assigned : CharSet := .ofRanges (categories.flatMap fun (_, _, set) ↦ (set ()).ranges)

def unassigned : CharSet := (assigned.union surrogates).complement

def group? : String → Option Char
  | "l" | "letter" => some 'l'
  | "m" | "mark" | "combiningmark" => some 'm'
  | "n" | "number" => some 'n'
  | "p" | "punctuation" | "punct" => some 'p'
  | "s" | "symbol" => some 's'
  | "z" | "separator" => some 'z'
  | _ => none

def category? (name : String) : Option CharSet :=
  match categories.find? fun (short, long, _) ↦ name == short || name == long with
  | some (_, _, set) => some (set ())
  | none =>
    match group? name with
    | some letter => some (categoriesUnder letter)
    | none =>
      match name with
      | "any" => some ⟨[(0, CharSet.lastPoint)]⟩
      | "ascii" => some ⟨[(0, 0x7F)]⟩
      | "assigned" => some (unassigned.complement)
      | "cn" | "unassigned" => some unassigned
      | "c" | "other" => some ((categoriesUnder 'c').union unassigned)
      | "lc" | "casedletter" =>
        some ((uppercaseLetters.union lowercaseLetters).union (ofArray titlecaseLetter))
      | "digit" => some (ofArray decimalNumber)
      | "cntrl" => some (ofArray control)
      | _ => none

end CliMetadata.CharClass
