import CliMetadata.Pattern.Category
import CliMetadata.Text.PropertyData

namespace CliMetadata.CharClass

def alphabetic : CharSet := (categoriesUnder 'l').union (ofArrays [letterNumber, otherAlphabetic])

def lowercase : CharSet := lowercaseLetters.union (ofArray otherLowercase)

def uppercase : CharSet := uppercaseLetters.union (ofArray otherUppercase)

def cased : CharSet := (lowercase.union uppercase).union (ofArray titlecaseLetter)

/-- The white space characters, of which some lie outside the separators. -/
def space : CharSet := (categoriesUnder 'z').union ⟨[(0x09, 0x0D), (0x85, 0x85)]⟩

def graphemeExtend : CharSet := ofArrays [enclosingMark, nonspacingMark, otherGraphemeExtend]

def graphemeBase : CharSet :=
  let unseen := ofArrays [control, format, privateUse, lineSeparator, paragraphSeparator]
  (unassigned.complement.diff (surrogates.union unseen)).diff graphemeExtend

def patternCharacters : CharSet := ofArrays [patternSyntax, patternWhiteSpace]

def idStart : CharSet :=
  ((categoriesUnder 'l').union (ofArrays [letterNumber, otherIdStart])).diff patternCharacters

def idContinue : CharSet :=
  (idStart.union (ofArrays
    [nonspacingMark, spacingMark, decimalNumber, connectorPunctuation, otherIdContinue])).diff
    patternCharacters

/-- The characters that are not shown where they are not known. -/
def defaultIgnorable : CharSet :=
  (ofArrays [otherDefaultIgnorable, format, variationSelector]).diff
    ((ofArray prependedConcatenationMark).union ⟨[(0xFFF9, 0xFFFB), (0x13430, 0x1343F)]⟩)

/-- The marks between letters that words may hold. -/
def wordPunctuation : CharSet := .ofRanges [
  (0x27, 0x27), (0x2E, 0x2E), (0x3A, 0x3A), (0xB7, 0xB7), (0x387, 0x387), (0x55F, 0x55F),
  (0x5F4, 0x5F4), (0x2018, 0x2019), (0x2024, 0x2024), (0x2027, 0x2027), (0xFE13, 0xFE13),
  (0xFE52, 0xFE52), (0xFE55, 0xFE55), (0xFF07, 0xFF07), (0xFF0E, 0xFF0E), (0xFF1A, 0xFF1A)]

def caseIgnorable : CharSet :=
  (ofArrays [nonspacingMark, enclosingMark, format, modifierLetter, modifierSymbol]).union
    wordPunctuation

/-- The last two numbers of each block of 65536 and 32 more, which never become characters. -/
def noncharacter : CharSet :=
  .ofRanges ((0xFDD0, 0xFDEF) ::
    (List.range 17).map fun plane ↦ (plane * 0x10000 + 0xFFFE, plane * 0x10000 + 0xFFFF))

def changesWhenLowercased : CharSet :=
  ((uppercase.union (ofArray titlecaseLetter)).inter CharSet.foldable).union (.ofPoint 0x130)

def changesWhenUppercased : CharSet :=
  (CharSet.foldable.diff uppercase).union (ofArray expandsInUppercase)

def changesWhenTitlecased : CharSet :=
  (changesWhenUppercased.diff (ofArray ownTitlecase)).union (ofArray otherTitlecase)

def changesWhenCasefolded : CharSet :=
  (changesWhenLowercased.diff (ofArray foldsToUppercase)).union (ofArray foldsToOther)

def changesWhenCasemapped : CharSet :=
  (changesWhenLowercased.union changesWhenUppercased).union changesWhenTitlecased

def properties : List (List String × (Unit → CharSet)) := [
  (["asciihexdigit", "ahex"], fun _ ↦ ⟨[(0x30, 0x39), (0x41, 0x46), (0x61, 0x66)]⟩),
  (["alphabetic", "alpha"], fun _ ↦ alphabetic),
  (["bidicontrol", "bidic"], fun _ ↦ ofArray bidiControl),
  (["bidimirrored", "bidim"], fun _ ↦ ofArray bidiMirrored),
  (["caseignorable", "ci"], fun _ ↦ caseIgnorable),
  (["cased"], fun _ ↦ cased),
  (["changeswhencasefolded", "cwcf"], fun _ ↦ changesWhenCasefolded),
  (["changeswhencasemapped", "cwcm"], fun _ ↦ changesWhenCasemapped),
  (["changeswhenlowercased", "cwl"], fun _ ↦ changesWhenLowercased),
  (["changeswhentitlecased", "cwt"], fun _ ↦ changesWhenTitlecased),
  (["changeswhenuppercased", "cwu"], fun _ ↦ changesWhenUppercased),
  (["dash"], fun _ ↦ ofArrays [dashPunctuation, otherDash]),
  (["defaultignorablecodepoint", "di"], fun _ ↦ defaultIgnorable),
  (["deprecated", "dep"], fun _ ↦ ofArray deprecated),
  (["diacritic", "dia"], fun _ ↦ ofArray diacritic),
  (["emoji"], fun _ ↦ ofArray emoji),
  (["emojicomponent", "ecomp"], fun _ ↦ ofArray emojiComponent),
  (["emojimodifier", "emod"], fun _ ↦ ofArray emojiModifier),
  (["emojimodifierbase", "ebase"], fun _ ↦ ofArray emojiModifierBase),
  (["emojipresentation", "epres"], fun _ ↦ ofArray emojiPresentation),
  (["extendedpictographic", "extpict"], fun _ ↦ ofArray extendedPictographic),
  (["extender", "ext"], fun _ ↦ ofArray extender),
  (["graphemebase", "grbase"], fun _ ↦ graphemeBase),
  (["graphemeextend", "grext"], fun _ ↦ graphemeExtend),
  (["graphemelink", "grlink"], fun _ ↦ ofArray graphemeLink),
  (["hexdigit", "hex"], fun _ ↦ ofArray hexDigit),
  (["hyphen"], fun _ ↦ ofArray hyphen),
  (["idsbinaryoperator", "idsb"], fun _ ↦ ofArray idsBinaryOperator),
  (["idstrinaryoperator", "idst"], fun _ ↦ ofArray idsTrinaryOperator),
  (["idsunaryoperator", "idsu"], fun _ ↦ ofArray idsUnaryOperator),
  (["idcompatmathcontinue"], fun _ ↦ ofArray compatMathContinue),
  (["idcompatmathstart"], fun _ ↦ ofArray compatMathStart),
  (["idcontinue", "idc"], fun _ ↦ idContinue),
  (["idstart", "ids"], fun _ ↦ idStart),
  (["ideographic", "ideo"], fun _ ↦ ofArray ideographic),
  (["joincontrol", "joinc"], fun _ ↦ ofArray joinControl),
  (["logicalorderexception", "loe"], fun _ ↦ ofArray logicalOrderException),
  (["lowercase", "lower"], fun _ ↦ lowercase),
  (["math"], fun _ ↦ ofArrays [mathSymbol, otherMath]),
  (["modifiercombiningmark", "mcm"], fun _ ↦ ofArray modifierCombiningMark),
  (["noncharactercodepoint", "nchar"], fun _ ↦ noncharacter),
  (["otheralphabetic", "oalpha"], fun _ ↦ ofArray otherAlphabetic),
  (["otherdefaultignorablecodepoint", "odi"], fun _ ↦ ofArray otherDefaultIgnorable),
  (["othergraphemeextend", "ogrext"], fun _ ↦ ofArray otherGraphemeExtend),
  (["otheridcontinue", "oidc"], fun _ ↦ ofArray otherIdContinue),
  (["otheridstart", "oids"], fun _ ↦ ofArray otherIdStart),
  (["otherlowercase", "olower"], fun _ ↦ ofArray otherLowercase),
  (["othermath", "omath"], fun _ ↦ ofArray otherMath),
  (["otheruppercase", "oupper"], fun _ ↦ ofArray otherUppercase),
  (["patternsyntax", "patsyn"], fun _ ↦ ofArray patternSyntax),
  (["patternwhitespace", "patws"], fun _ ↦ ofArray patternWhiteSpace),
  (["prependedconcatenationmark", "pcm"], fun _ ↦ ofArray prependedConcatenationMark),
  (["quotationmark", "qmark"], fun _ ↦ ofArray quotationMark),
  (["radical"], fun _ ↦ ofArray radical),
  (["regionalindicator", "ri"], fun _ ↦ ofArray regionalIndicator),
  (["sentenceterminal", "sterm"], fun _ ↦ ofArray sentenceTerminal),
  (["softdotted", "sd"], fun _ ↦ ofArray softDotted),
  (["terminalpunctuation", "term"], fun _ ↦ ofArray terminalPunctuation),
  (["unifiedideograph", "uideo"], fun _ ↦ ofArray unifiedIdeograph),
  (["uppercase", "upper"], fun _ ↦ uppercase),
  (["variationselector", "vs"], fun _ ↦ ofArray variationSelector),
  (["whitespace", "wspace", "space"], fun _ ↦ space),
  (["xidcontinue", "xidc"], fun _ ↦ idContinue.diff (ofArray unstableInIdentifiers)),
  (["xidstart", "xids"], fun _ ↦ idStart.diff (ofArrays [unstableInIdentifiers, unstableAtStart]))]

def property? (name : String) : Option CharSet :=
  (properties.find? fun (names, _) ↦ names.contains name).map fun (_, set) ↦ set ()

end CliMetadata.CharClass
