import CliMetadata.Pattern.Segment
import CliMetadata.Text.AgeData

namespace CliMetadata.CharClass

def digit : CharSet := ofArray decimalNumber

/-- The characters of words: letters with their marks, digits, connectors and joiners. -/
def word : CharSet :=
  (alphabetic.union (categoriesUnder 'm')).union
    (ofArrays [decimalNumber, connectorPunctuation, joinControl])

def nameLetter : CharSet := alphabetic.union (ofArray laterAlphabetic)

def nameNumber : CharSet := (categoriesUnder 'n').union (ofArray laterNumber)

def asciiDigit : CharSet := ⟨[(0x30, 0x39)]⟩

def asciiSpace : CharSet := ⟨[(0x09, 0x0D), (0x20, 0x20)]⟩

def asciiWord : CharSet := ⟨[(0x30, 0x39), (0x41, 0x5A), (0x5F, 0x5F), (0x61, 0x7A)]⟩

def ascii? : String → Option CharSet
  | "alnum" => some ⟨[(0x30, 0x39), (0x41, 0x5A), (0x61, 0x7A)]⟩
  | "alpha" => some ⟨[(0x41, 0x5A), (0x61, 0x7A)]⟩
  | "ascii" => some ⟨[(0x00, 0x7F)]⟩
  | "blank" => some ⟨[(0x09, 0x09), (0x20, 0x20)]⟩
  | "cntrl" => some ⟨[(0x00, 0x1F), (0x7F, 0x7F)]⟩
  | "digit" => some asciiDigit
  | "graph" => some ⟨[(0x21, 0x7E)]⟩
  | "lower" => some ⟨[(0x61, 0x7A)]⟩
  | "print" => some ⟨[(0x20, 0x7E)]⟩
  | "punct" => some ⟨[(0x21, 0x2F), (0x3A, 0x40), (0x5B, 0x60), (0x7B, 0x7E)]⟩
  | "space" => some asciiSpace
  | "upper" => some ⟨[(0x41, 0x5A)]⟩
  | "word" => some asciiWord
  | "xdigit" => some ⟨[(0x30, 0x39), (0x41, 0x46), (0x61, 0x66)]⟩
  | _ => none

/-- What counts in a name. -/
def looseName (name : List Char) : String :=
  let spelled (cs : List Char) := (cs.filter fun c ↦
    c.toNat < 0x80 && c != ' ' && c != '_' && c != '-').map Char.toLower
  let kept := match name with
    | i :: s :: rest =>
      if (i = 'i' ∨ i = 'I') ∧ (s = 's' ∨ s = 'S') then
        if spelled rest = ['c'] then ['i', 's', 'c'] else spelled rest
      else spelled name
    | _ => spelled name
  String.ofList kept

/-- The characters that a version and the versions before it have. -/
def age? (name : String) : Option CharSet :=
  let isNamed (version : String) :=
    name == version || name.toList == 'v' :: version.toList.filter (· != '.')
  if ages.any fun (version, _) ↦ isNamed version then
    let earlier := ages.takeWhile fun (version, _) ↦ !isNamed version
    some (.ofRanges ((ages.take (earlier.length + 1)).flatMap fun (_, ranges) ↦ ranges))
  else none

def named? (name : List Char) : Option CharSet :=
  let name := looseName name
  ((property? name).or (category? name)).or (script? name)

def valued? (property value : List Char) : Option CharSet :=
  let value := looseName value
  match looseName property with
  | "gc" | "generalcategory" => category? value
  | "sc" | "script" => script? value
  | "scx" | "scriptextensions" => scriptExtension? value
  | "age" => age? value
  | "gcb" | "graphemeclusterbreak" => graphemeBreak? value
  | "wb" | "wordbreak" => wordBreak? value
  | "sb" | "sentencebreak" => sentenceBreak? value
  | _ => none

end CliMetadata.CharClass
