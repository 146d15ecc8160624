import Triage.Unicode.CharSet

/-!
Properties that characters have or lack. Most follow from the general category and from a few
characters that are listed on their own.
-/

namespace Triage.Unicode

def lowercase : CharSet := (categories ["Ll"]).union (charsOf otherLowercaseRuns)

def uppercase : CharSet := (categories ["Lu"]).union (charsOf otherUppercaseRuns)

def cased : CharSet := (lowercase.union uppercase).union (categories ["Lt"])

def mathematical : CharSet := (categories ["Sm"]).union (charsOf otherMathRuns)

def changesWhenLowercased : CharSet :=
  (uppercase.union (categories ["Lt"])).diff (charsOf unpairedUpperRuns)

/-- Lowercase and titlecase letters, the small Roman numerals and circled letters, and the
subscript iota. -/
def changesWhenUppercased : CharSet :=
  ((categories ["Ll", "Lt"]).diff (charsOf unpairedLowerRuns)).union
    (RangeSet.ofList [(0x345, 0x345), (0x2170, 0x217F), (0x24D0, 0x24E9)])

/-- Georgian letters, whose capitals are not used for titles. -/
def georgianSmall : CharSet := RangeSet.ofList [(0x10D0, 0x10FA), (0x10FD, 0x10FF)]

/-- Four digraphs are uppercase and have a titlecase form of their own. -/
def changesWhenTitlecased : CharSet :=
  ((changesWhenUppercased.diff (categories ["Lt"])).diff georgianSmall).union
    (RangeSet.ofList [(0x1C4, 0x1C4), (0x1C7, 0x1C7), (0x1CA, 0x1CA), (0x1F1, 0x1F1)])

/-- Cherokee capitals stand for both cases. -/
def changesWhenCasefolded : CharSet :=
  (changesWhenLowercased.diff (RangeSet.ofList [(0x13A0, 0x13F5)])).union
    (charsOf foldedOnlyRuns)

def changesWhenCasemapped : CharSet :=
  (changesWhenLowercased.union changesWhenUppercased).union changesWhenTitlecased

def patternSyntax : CharSet :=
  (charsOf patternSyntaxRuns).union (charsOf patternWhiteSpaceRuns)

def idStart : CharSet :=
  ((letter.union (categories ["Nl"])).union (charsOf otherIdStartRuns)).diff patternSyntax

def idContinue : CharSet :=
  (idStart.union ((categories ["Mn", "Mc", "Nd", "Pc"]).union
    (charsOf otherIdContinueRuns))).diff patternSyntax

/-- Characters whose compatible forms do not continue an identifier. -/
def unstableInIdentifiers : CharSet :=
  RangeSet.ofList [(0x37A, 0x37A), (0x309B, 0x309C), (0xFC5E, 0xFC63), (0xFDFA, 0xFDFB),
    (0xFE70, 0xFE70), (0xFE72, 0xFE72), (0xFE74, 0xFE74), (0xFE76, 0xFE76), (0xFE78, 0xFE78),
    (0xFE7A, 0xFE7A), (0xFE7C, 0xFE7C), (0xFE7E, 0xFE7E)]

/-- The Thai and Lao vowels and the Japanese sound marks that continue an identifier only. -/
def xidStart : CharSet :=
  (idStart.diff unstableInIdentifiers).diff
    (RangeSet.ofList [(0xE33, 0xE33), (0xEB3, 0xEB3), (0xFF9E, 0xFF9F)])

def xidContinue : CharSet := idContinue.diff unstableInIdentifiers

def graphemeExtend : CharSet :=
  (categories ["Mn", "Me"]).union (charsOf otherGraphemeExtendRuns)

def graphemeBase : CharSet :=
  (CharSet.complement (categories ["Cc", "Cf", "Co", "Cn", "Zl", "Zp"])).diff graphemeExtend

/-- Punctuation that may stand inside a word. -/
def caseIgnorable : CharSet :=
  (categories ["Mn", "Me", "Cf", "Lm", "Sk"]).union (RangeSet.ofList
    [(0x27, 0x27), (0x2E, 0x2E), (0x3A, 0x3A), (0xB7, 0xB7), (0x387, 0x387), (0x55F, 0x55F),
     (0x5F4, 0x5F4), (0x2018, 0x2019), (0x2024, 0x2024), (0x2027, 0x2027), (0xFE13, 0xFE13),
     (0xFE52, 0xFE52), (0xFE55, 0xFE55), (0xFF07, 0xFF07), (0xFF0E, 0xFF0E), (0xFF1A, 0xFF1A)])

/-- Format characters that show, such as those that stand before a number, are not ignorable. -/
def defaultIgnorable : CharSet :=
  (((categories ["Cf"]).union (charsOf variationSelectorRuns)).union
    (charsOf otherDefaultIgnorableCodePointRuns)).diff
      ((charsOf prependedConcatenationMarkRuns).union
        (RangeSet.ofList [(0xFFF9, 0xFFFB), (0x13430, 0x1343F)]))

/-- The characters with a property, named in small letters only. -/
def property? (name : String) : Option CharSet :=
  match name with
  | "alphabetic" | "alpha" => some alphabetic
  | "asciihexdigit" | "ahex" => some (charsOf asciiHexDigitRuns)
  | "bidicontrol" | "bidic" => some (charsOf bidiControlRuns)
  | "bidimirrored" | "bidim" => some (charsOf bidiMirroredRuns)
  | "cased" => some cased
  | "caseignorable" | "ci" => some caseIgnorable
  | "changeswhencasefolded" | "cwcf" => some changesWhenCasefolded
  | "changeswhencasemapped" | "cwcm" => some changesWhenCasemapped
  | "changeswhenlowercased" | "cwl" => some changesWhenLowercased
  | "changeswhentitlecased" | "cwt" => some changesWhenTitlecased
  | "changeswhenuppercased" | "cwu" => some changesWhenUppercased
  | "dash" => some (charsOf dashRuns)
  | "defaultignorablecodepoint" | "di" => some defaultIgnorable
  | "deprecated" | "dep" => some (charsOf deprecatedRuns)
  | "diacritic" | "dia" => some (charsOf diacriticRuns)
  | "emoji" => some (charsOf emojiRuns)
  | "emojicomponent" | "ecomp" => some (charsOf emojiComponentRuns)
  | "emojimodifier" | "emod" => some (charsOf emojiModifierRuns)
  | "emojimodifierbase" | "ebase" => some (charsOf emojiModifierBaseRuns)
  | "emojipresentation" | "epres" => some (charsOf emojiPresentationRuns)
  | "extendedpictographic" | "extpict" => some (charsOf extendedPictographicRuns)
  | "extender" | "ext" => some (charsOf extenderRuns)
  | "graphemebase" | "grbase" => some graphemeBase
  | "graphemeextend" | "grext" => some graphemeExtend
  | "graphemelink" | "grlink" => some (charsOf graphemeLinkRuns)
  | "hexdigit" | "hex" => some (charsOf hexDigitRuns)
  | "hyphen" => some (charsOf hyphenRuns)
  | "idcompatmathcontinue" => some (charsOf idCompatMathContinueRuns)
  | "idcompatmathstart" => some (charsOf idCompatMathStartRuns)
  | "idcontinue" | "idc" => some idContinue
  | "ideographic" | "ideo" => some (charsOf ideographicRuns)
  | "idsbinaryoperator" | "idsb" => some (charsOf idsBinaryOperatorRuns)
  | "idstart" | "ids" => some idStart
  | "idstrinaryoperator" | "idst" => some (charsOf idsTrinaryOperatorRuns)
  | "idsunaryoperator" | "idsu" => some (charsOf idsUnaryOperatorRuns)
  | "joincontrol" | "joinc" => some (charsOf joinControlRuns)
  | "logicalorderexception" | "loe" => some (charsOf logicalOrderExceptionRuns)
  | "lowercase" | "lower" => some lowercase
  | "math" => some mathematical
  | "modifiercombiningmark" | "mcm" => some (charsOf modifierCombiningMarkRuns)
  | "noncharactercodepoint" | "nchar" => some (charsOf noncharacterCodePointRuns)
  | "otheralphabetic" | "oalpha" => some (charsOf otherAlphabeticRuns)
  | "otherdefaultignorablecodepoint" | "odi" =>
    some (charsOf otherDefaultIgnorableCodePointRuns)
  | "othergraphemeextend" | "ogrext" => some (charsOf otherGraphemeExtendRuns)
  | "otheridcontinue" | "oidc" => some (charsOf otherIdContinueRuns)
  | "otheridstart" | "oids" => some (charsOf otherIdStartRuns)
  | "otherlowercase" | "olower" => some (charsOf otherLowercaseRuns)
  | "othermath" | "omath" => some (charsOf otherMathRuns)
  | "otheruppercase" | "oupper" => some (charsOf otherUppercaseRuns)
  | "patternsyntax" | "patsyn" => some (charsOf patternSyntaxRuns)
  | "patternwhitespace" | "patws" => some (charsOf patternWhiteSpaceRuns)
  | "prependedconcatenationmark" | "pcm" => some (charsOf prependedConcatenationMarkRuns)
  | "quotationmark" | "qmark" => some (charsOf quotationMarkRuns)
  | "radical" => some (charsOf radicalRuns)
  | "regionalindicator" | "ri" => some (charsOf regionalIndicatorRuns)
  | "sentenceterminal" | "sterm" => some (charsOf sentenceTerminalRuns)
  | "softdotted" | "sd" => some (charsOf softDottedRuns)
  | "terminalpunctuation" | "term" => some (charsOf terminalPunctuationRuns)
  | "unifiedideograph" | "uideo" => some (charsOf unifiedIdeographRuns)
  | "uppercase" | "upper" => some uppercase
  | "variationselector" | "vs" => some (charsOf variationSelectorRuns)
  | "whitespace" | "space" | "wspace" => some whiteSpace
  | "xidcontinue" | "xidc" => some xidContinue
  | "xidstart" | "xids" => some xidStart
  | _ => none

end Triage.Unicode
