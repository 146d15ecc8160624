import Triage.Unicode.Property

/-!
The parts that characters play where text is divided into what a reader takes for characters, into
words and into sentences.
-/

namespace Triage.Unicode

def code (n : Nat) : CharSet := RangeSet.singleton n

namespace GraphemeBreak

def extending : CharSet := graphemeExtend.union (charsOf emojiModifierRuns)

def control : CharSet :=
  ((((categories ["Zl", "Zp", "Cc", "Cf"]).union
    (CharSet.inter (categories ["Cn"]) defaultIgnorable)).diff extending).diff
      (charsOf prependedConcatenationMarkRuns)).diff
        (RangeSet.ofList [(0xA, 0xA), (0xD, 0xD), (0x200D, 0x200D)])

def leadingJamo : CharSet := RangeSet.ofList [(0x1100, 0x115F), (0xA960, 0xA97C)]

def vowel : CharSet :=
  RangeSet.ofList
    [(0x1160, 0x11A7), (0xD7B0, 0xD7C6), (0x16D63, 0x16D63), (0x16D67, 0x16D6A)]

def trailingJamo : CharSet := RangeSet.ofList [(0x11A8, 0x11FF), (0xD7CB, 0xD7FB)]

/-- Hangul syllables come in blocks of 28, the first of which ends in a vowel. -/
def openSyllable : CharSet :=
  RangeSet.ofList ((List.range 399).map fun k => (0xAC00 + 28 * k, 0xAC00 + 28 * k))

def closedSyllable : CharSet := CharSet.diff (CharSet.span 0xAC00 0xD7A3) openSyllable

def prepending : CharSet :=
  (charsOf prependedConcatenationMarkRuns).union (RangeSet.ofList
    [(0xD4E, 0xD4E), (0x111C2, 0x111C3), (0x113D1, 0x113D1), (0x1193F, 0x1193F),
     (0x11941, 0x11941), (0x11A3A, 0x11A3A), (0x11A84, 0x11A89), (0x11D46, 0x11D46),
     (0x11F02, 0x11F02)])

/-- Spacing marks, apart from some of the Burmese, Tai and Ahom scripts, and two vowels. -/
def spacing : CharSet :=
  ((((categories ["Mc"]).union (RangeSet.ofList [(0xE33, 0xE33), (0xEB3, 0xEB3)])).diff
    extending).diff vowel).diff (RangeSet.ofList
      [(0x102B, 0x102C), (0x1038, 0x1038), (0x1062, 0x1064), (0x1067, 0x106D), (0x1083, 0x1083),
       (0x1087, 0x108C), (0x108F, 0x108F), (0x109A, 0x109C), (0x1A61, 0x1A61),
       (0x1A63, 0x1A64), (0xAA7B, 0xAA7B), (0xAA7D, 0xAA7D), (0x11720, 0x11721)])

/-- The characters that play a part, named in small letters. -/
def part? (name : String) : Option CharSet :=
  match name with
  | "cr" => some (code 0xD)
  | "lf" => some (code 0xA)
  | "control" | "cn" => some control
  | "extend" | "ex" => some extending
  | "l" => some leadingJamo
  | "v" => some vowel
  | "t" => some trailingJamo
  | "lv" => some openSyllable
  | "lvt" => some closedSyllable
  | "prepend" | "pp" => some prepending
  | "regionalindicator" | "ri" => some (charsOf regionalIndicatorRuns)
  | "spacingmark" | "sm" => some spacing
  | "zwj" => some (code 0x200D)
  | _ => none

end GraphemeBreak

/-- Characters that continue what they follow in words and sentences. -/
def attached : CharSet := graphemeExtend.union (categories ["Mc"])

namespace SentenceBreak

def lower : CharSet := (lowercase.diff graphemeExtend).diff georgianSmall

def upper : CharSet :=
  (uppercase.union (categories ["Lt"])).diff (CharSet.span 0x1C90 0x1CBF)

def extending : CharSet := attached.union (code 0x200D)

def letter : CharSet :=
  (((alphabetic.union (code 0x5F3)).diff lower).diff upper).diff extending

/-- Decimal digits, signs that open a number, and separators inside one. -/
def number : CharSet :=
  ((decimalDigit.union (charsOf prependedConcatenationMarkRuns)).diff (code 0x70F)).union
    (RangeSet.ofList [(0x66B, 0x66C), (0x19DA, 0x19DA)])

def format : CharSet := ((categories ["Cf"]).diff number).diff extending

def fullStop : CharSet :=
  RangeSet.ofList [(0x2E, 0x2E), (0x2024, 0x2024), (0xFE52, 0xFE52), (0xFF0E, 0xFF0E)]

def terminator : CharSet := (charsOf sentenceTerminalRuns).diff fullStop

def closing : CharSet :=
  (((categories ["Ps", "Pe", "Pi", "Pf"]).union (charsOf quotationMarkRuns)).diff
    (RangeSet.ofList [(0xFF02, 0xFF02), (0xFF07, 0xFF07)])).union (RangeSet.ofList
      [(0x275B, 0x2760), (0x2E00, 0x2E01), (0x2E06, 0x2E08), (0x2E0B, 0x2E0B),
       (0x1F676, 0x1F678)])

def continuing : CharSet :=
  RangeSet.ofList
    [(0x2C, 0x2D), (0x3A, 0x3B), (0x37E, 0x37E), (0x55D, 0x55D), (0x60C, 0x60D),
     (0x7F8, 0x7F8), (0x1802, 0x1802), (0x1808, 0x1808), (0x2013, 0x2014), (0x3001, 0x3001),
     (0xFE10, 0xFE11), (0xFE13, 0xFE14), (0xFE31, 0xFE32), (0xFE50, 0xFE51), (0xFE54, 0xFE55),
     (0xFE58, 0xFE58), (0xFE63, 0xFE63), (0xFF0C, 0xFF0D), (0xFF1A, 0xFF1B), (0xFF64, 0xFF64)]

def separator : CharSet := RangeSet.ofList [(0x85, 0x85), (0x2028, 0x2029)]

def part? (name : String) : Option CharSet :=
  match name with
  | "cr" => some (code 0xD)
  | "lf" => some (code 0xA)
  | "aterm" | "at" => some fullStop
  | "close" | "cl" => some closing
  | "extend" | "ex" => some extending
  | "format" | "fo" => some format
  | "lower" | "lo" => some lower
  | "numeric" | "nu" => some number
  | "oletter" | "le" => some letter
  | "scontinue" | "sc" => some continuing
  | "sep" | "se" => some separator
  | "sp" => some ((whiteSpace.diff separator).diff (RangeSet.ofList [(0xA, 0xA), (0xD, 0xD)]))
  | "sterm" | "st" => some terminator
  | "upper" | "up" => some upper
  | _ => none

end SentenceBreak

namespace WordBreak

def extending : CharSet := attached.union (charsOf emojiModifierRuns)

def katakana : CharSet :=
  (script "Kana").union (RangeSet.ofList
    [(0x3031, 0x3035), (0x309B, 0x309C), (0x30A0, 0x30A0), (0x30FC, 0x30FC), (0xFF70, 0xFF70)])

def hebrewLetter : CharSet := CharSet.inter (script "Hebr") (categories ["Lo"])

/-- Letters of scripts whose words stand side by side are left to a dictionary. -/
def unspaced : CharSet :=
  ["Thai", "Laoo", "Khmr", "Mymr", "Talu", "Tale", "Lana", "Tavt", "Ahom", "Hira"].foldl
    (fun set code => set.union (script code)) (charsOf ideographicRuns)

/-- Characters that words hold though they are not alphabetic. -/
def letterLike : CharSet :=
  RangeSet.ofList
    [(0x2C2, 0x2C5), (0x2D2, 0x2D7), (0x2DE, 0x2DF), (0x2E5, 0x2EB), (0x2ED, 0x2ED),
     (0x2EF, 0x2FF), (0x55A, 0x55C), (0x55E, 0x55E), (0x58A, 0x58A), (0x5F3, 0x5F3),
     (0x70F, 0x70F), (0xA708, 0xA716), (0xA720, 0xA721), (0xA789, 0xA78A), (0xAB5B, 0xAB5B)]

def letter : CharSet :=
  ((((alphabetic.union letterLike).diff unspaced).diff katakana).diff extending).diff
    hebrewLetter

def format : CharSet :=
  (((categories ["Cf"]).diff extending).diff (charsOf prependedConcatenationMarkRuns)).diff
    (RangeSet.ofList [(0x200B, 0x200B), (0x200D, 0x200D)])

def part? (name : String) : Option CharSet :=
  match name with
  | "cr" => some (code 0xD)
  | "lf" => some (code 0xA)
  | "newline" | "nl" => some (RangeSet.ofList [(0xB, 0xC), (0x85, 0x85), (0x2028, 0x2029)])
  | "aletter" | "le" => some letter
  | "doublequote" | "dq" => some (code 0x22)
  | "singlequote" | "sq" => some (code 0x27)
  | "extend" => some extending
  | "extendnumlet" | "ex" => some ((categories ["Pc"]).union (code 0x202F))
  | "format" | "fo" => some format
  | "hebrewletter" | "hl" => some hebrewLetter
  | "katakana" | "ka" => some katakana
  | "midletter" | "ml" =>
    some (RangeSet.ofList
      [(0x3A, 0x3A), (0xB7, 0xB7), (0x387, 0x387), (0x55F, 0x55F), (0x5F4, 0x5F4),
       (0x2027, 0x2027), (0xFE13, 0xFE13), (0xFE55, 0xFE55), (0xFF1A, 0xFF1A)])
  | "midnum" | "mn" =>
    some (RangeSet.ofList
      [(0x2C, 0x2C), (0x3B, 0x3B), (0x37E, 0x37E), (0x589, 0x589), (0x60C, 0x60D),
       (0x66C, 0x66C), (0x7F8, 0x7F8), (0x2044, 0x2044), (0xFE50, 0xFE50), (0xFE54, 0xFE54),
       (0xFF0C, 0xFF0C), (0xFF1B, 0xFF1B)])
  | "midnumlet" | "mb" =>
    some (RangeSet.ofList
      [(0x2E, 0x2E), (0x2018, 0x2019), (0x2024, 0x2024), (0xFE52, 0xFE52), (0xFF07, 0xFF07),
       (0xFF0E, 0xFF0E)])
  | "numeric" | "nu" => some (SentenceBreak.number.diff (code 0x66C))
  | "regionalindicator" | "ri" => some (charsOf regionalIndicatorRuns)
  | "wsegspace" =>
    some ((categories ["Zs"]).diff (RangeSet.ofList
      [(0xA0, 0xA0), (0x2007, 0x2007), (0x202F, 0x202F)]))
  | "zwj" => some (code 0x200D)
  | _ => none

end WordBreak

end Triage.Unicode
