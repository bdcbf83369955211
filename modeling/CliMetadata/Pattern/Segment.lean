import CliMetadata.Pattern.Property
import CliMetadata.Pattern.Script
import CliMetadata.Text.SegmentData

namespace CliMetadata.CharClass

/-- The syllables of the Korean script: those without a final consonant, or those with one. -/
def syllables (closed : Bool) : CharSet :=
  .ofRanges ((List.range 399).map fun i ↦
    let first := 0xAC00 + 28 * i
    if closed then (first + 1, first + 27) else (first, first))

def graphemeExtender : CharSet := graphemeExtend.union (ofArray emojiModifier)

def graphemeControl : CharSet :=
  ((ofArrays [lineSeparator, paragraphSeparator, control, format]).union
    (unassigned.inter defaultIgnorable)).diff
    (((ofArray prependedConcatenationMark).union graphemeExtender).union
      ⟨[(0x0A, 0x0A), (0x0D, 0x0D), (0x200C, 0x200D)]⟩)

def graphemeSpacing : CharSet :=
  ((ofArray spacingMark).diff (graphemeExtender.union (ofArray unspacedMark))).union
    (ofArray otherSpacingMark)

def graphemeBreak? : String → Option CharSet
  | "control" | "cn" => some graphemeControl
  | "cr" => some (.ofPoint 0x0D)
  | "extend" | "ex" => some graphemeExtender
  | "l" => some (ofArray leadingJamo)
  | "lf" => some (.ofPoint 0x0A)
  | "lv" => some (syllables false)
  | "lvt" => some (syllables true)
  | "prepend" | "pp" => some (ofArrays [prependedConcatenationMark, otherPrepend])
  | "regionalindicator" | "ri" => some (ofArray regionalIndicator)
  | "spacingmark" | "sm" => some graphemeSpacing
  | "t" => some (ofArray trailingJamo)
  | "v" => some (ofArray vowelJamo)
  | "zwj" => some (.ofPoint 0x200D)
  | _ => none

def wordExtender : CharSet := graphemeExtender.union (ofArray spacingMark)

def wordFormat : CharSet :=
  ((ofArray format).diff (wordExtender.union (ofArray prependedConcatenationMark))).diff
    ⟨[(0x200B, 0x200D)]⟩

def hebrewLetter : CharSet := ((script? "hebrew").getD {}).inter (ofArray otherLetter)

def wordLetter : CharSet :=
  let others := [ofArray ideographic, wordExtender, ofArray wordKatakana, hebrewLetter,
    (script? "hiragana").getD {}, ofArray letterOutsideWords]
  (alphabetic.diff (others.foldl .union {})).union (ofArray otherWordLetter)

def numeric : CharSet := ofArrays [decimalNumber, otherNumeric]

def wordBreak? : String → Option CharSet
  | "aletter" | "le" => some wordLetter
  | "cr" => some (.ofPoint 0x0D)
  | "doublequote" | "dq" => some (.ofPoint 0x22)
  | "extend" => some wordExtender
  | "extendnumlet" | "ex" => some (ofArray numberConnector)
  | "format" | "fo" => some wordFormat
  | "hebrewletter" | "hl" => some hebrewLetter
  | "katakana" | "ka" => some (ofArray wordKatakana)
  | "lf" => some (.ofPoint 0x0A)
  | "midletter" | "ml" => some (ofArray midLetter)
  | "midnum" | "mn" => some (ofArray midNumber)
  | "midnumlet" | "mb" => some (ofArray midNumberLetter)
  | "newline" | "nl" => some ⟨[(0x0B, 0x0C), (0x85, 0x85), (0x2028, 0x2029)]⟩
  | "numeric" | "nu" => some numeric
  | "regionalindicator" | "ri" => some (ofArray regionalIndicator)
  | "singlequote" | "sq" => some (.ofPoint 0x27)
  | "wsegspace" =>
    some ((ofArray spaceSeparator).diff ⟨[(0xA0, 0xA0), (0x2007, 0x2007), (0x202F, 0x202F)]⟩)
  | "zwj" => some (.ofPoint 0x200D)
  | _ => none

/-- The marks that belong to the character in front of them, and the joiner. -/
def sentenceExtender : CharSet :=
  ((graphemeExtend.union (ofArray spacingMark)).union (.ofPoint 0x200D)).diff
    (ofArray emojiModifier)

def sentenceLower : CharSet := lowercase.diff (graphemeExtend.union (ofArray caselessGeorgian))

def sentenceUpper : CharSet :=
  (uppercase.union (ofArray titlecaseLetter)).diff (ofArray headingGeorgian)

def sentenceLetter : CharSet :=
  (alphabetic.diff ((sentenceLower.union sentenceUpper).union sentenceExtender)).union
    (.ofPoint 0x5F3)

def sentenceBreak? : String → Option CharSet
  | "aterm" | "at" => some (ofArray fullStop)
  | "close" | "cl" =>
    some (ofArrays
      [openPunctuation, closePunctuation, initialPunctuation, finalPunctuation, otherClose])
  | "cr" => some (.ofPoint 0x0D)
  | "extend" | "ex" => some sentenceExtender
  | "format" | "fo" => some (wordFormat.union ⟨[(0x70F, 0x70F), (0x200B, 0x200B)]⟩)
  | "lf" => some (.ofPoint 0x0A)
  | "lower" | "lo" => some sentenceLower
  | "numeric" | "nu" => some (numeric.union (.ofPoint 0x66C))
  | "oletter" | "le" => some sentenceLetter
  | "scontinue" | "sc" => some (ofArray sentenceContinue)
  | "sep" | "se" => some ⟨[(0x85, 0x85), (0x2028, 0x2029)]⟩
  | "sp" => some ((ofArray spaceSeparator).union ⟨[(0x09, 0x09), (0x0B, 0x0C)]⟩)
  | "sterm" | "st" => some ((ofArray sentenceTerminal).diff (ofArray fullStop))
  | "upper" | "up" => some sentenceUpper
  | _ => none

end CliMetadata.CharClass
