import Triage.Charset.Big5Table
import Triage.Charset.CodePageTable
import Triage.Charset.GbTable
import Triage.Charset.JisTable
import Triage.Charset.KsTable
import Triage.Charset.LabelTable
import Triage.Text.Utf8

/-!
Legacy character sets and how text is written in them. A text with a character that its set lacks
has no form.
-/

namespace Triage

/-- A two-dimensional character table, as blocks of characters and runs of code points. -/
structure CharTable where
  blocks : List (Nat × String)
  runs : List (Nat × Nat × Nat)

/-- Every position at which the table has the character, in no particular order. -/
def CharTable.positions (t : CharTable) (c : Char) : List Nat :=
  (t.blocks.flatMap fun (start, text) =>
    (text.toList.zipIdx start).filterMap fun (d, i) => if d = c then some i else none) ++
  t.runs.filterMap fun (start, first, count) =>
    if first ≤ c.toNat ∧ c.toNat < first + count then some (start + (c.toNat - first)) else none

def CharTable.first? (t : CharTable) (c : Char) : Option Nat := (t.positions c).min?

def CharTable.last? (t : CharTable) (c : Char) : Option Nat := (t.positions c).max?

def jis0208 : CharTable := ⟨jis0208Blocks, jis0208Runs⟩

def gb18030Table : CharTable := ⟨gb18030Blocks, gb18030Runs⟩

def big5Table : CharTable := ⟨big5Blocks, big5Runs⟩

def ksc5601 : CharTable := ⟨ksc5601Blocks, ksc5601Runs⟩

inductive Charset
  | codePage (page : CodePage)
  | utf8
  | utf16 (bigEndian : Bool)
  | replacement
  | userDefined
  | gbk
  | gb18030
  | big5
  | eucJp
  | iso2022Jp
  | shiftJis
  | eucKr
deriving DecidableEq, Repr

namespace Charset

def name : Charset → String
  | .codePage page => page.name
  | .utf8 => "UTF-8"
  | .utf16 false => "UTF-16LE"
  | .utf16 true => "UTF-16BE"
  | .replacement => "replacement"
  | .userDefined => "x-user-defined"
  | .gbk => "GBK"
  | .gb18030 => "gb18030"
  | .big5 => "Big5"
  | .eucJp => "EUC-JP"
  | .iso2022Jp => "ISO-2022-JP"
  | .shiftJis => "Shift_JIS"
  | .eucKr => "EUC-KR"

def fixed : List Charset :=
  [.utf8, .utf16 false, .utf16 true, .replacement, .userDefined, .gbk, .gb18030, .big5, .eucJp,
   .iso2022Jp, .shiftJis, .eucKr]

/-- The character set with a canonical name. -/
def named? (name : String) : Option Charset :=
  (fixed ++ codePages.map Charset.codePage).find? fun c => c.name == name

def isAsciiBlank (c : Char) : Bool :=
  c == ' ' || c == '\t' || c == '\n' || c == '\x0c' || c == '\r'

def trimBlanks (label : List Char) : List Char :=
  ((label.dropWhile isAsciiBlank).reverse.dropWhile isAsciiBlank).reverse

/-- The character set with a label; blanks around it and the case of ASCII letters do not count. -/
def labelled? (label : List Char) : Option Charset :=
  let label := String.ofList ((trimBlanks label).map Char.toLower)
  (charsetLabels.find? fun (_, labels) => labels.contains label).bind fun (name, _) => named? name

def isAscii (c : Char) : Bool := c.toNat < 128

def single (n : Nat) : List UInt8 := [n.toUInt8]

def pair (lead trail : Nat) : List UInt8 := [lead.toUInt8, trail.toUInt8]

def isHalfKatakana (c : Char) : Bool := 0xFF61 ≤ c.toNat && c.toNat ≤ 0xFF9F

/-- The minus sign is written as the full-width hyphen-minus in Japanese sets. -/
def japaneseForm (c : Char) : Char := if c = '\u2212' then '\uff0d' else c

def eucJpChar? (c : Char) : Option (List UInt8) :=
  if isAscii c then some (single c.toNat)
  else if c = '\u00a5' then some (single 0x5C)
  else if c = '\u203e' then some (single 0x7E)
  else if isHalfKatakana c then some (pair 0x8E (c.toNat - 0xFF61 + 0xA1))
  else (jis0208.first? (japaneseForm c)).map fun p => pair (p / 94 + 0xA1) (p % 94 + 0xA1)

def shiftJisChar? (c : Char) : Option (List UInt8) :=
  if isAscii c || c = '\u0080' then some (single c.toNat)
  else if c = '\u00a5' then some (single 0x5C)
  else if c = '\u203e' then some (single 0x7E)
  else if isHalfKatakana c then some (single (c.toNat - 0xFF61 + 0xA1))
  else
    let usable := (jis0208.positions (japaneseForm c)).filter fun p => p < 8272 || 8835 < p
    usable.min?.map fun p =>
      let lead := p / 188
      let trail := p % 188
      pair (lead + if lead < 0x1F then 0x81 else 0xC1) (trail + if trail < 0x3F then 0x40 else 0x41)

def gbPair (p : Nat) : List UInt8 :=
  pair (p / 190 + 0x81) (p % 190 + if p % 190 < 0x3F then 0x40 else 0x41)

/-- Characters that have taken the two-byte place of a private-use character, with that
character. -/
def gbReplaced : List (Nat × Nat) :=
  [(0x1E3F, 0xE7C7), (0x3000, 0xE5E5), (0xFE10, 0xE78D), (0xFE12, 0xE78E), (0xFE11, 0xE78F),
   (0xFE13, 0xE790), (0xFE14, 0xE791), (0xFE15, 0xE792), (0xFE16, 0xE793), (0xFE17, 0xE794), (0xFE18, 0xE795),
   (0xFE19, 0xE796), (0x9FB4, 0xE81E), (0x9FB5, 0xE826), (0x9FB6, 0xE82B), (0x9FB7, 0xE82C),
   (0x9FB8, 0xE832), (0x9FB9, 0xE843), (0x9FBA, 0xE854), (0x9FBB, 0xE864)]

/-- The place of a character among those that take four bytes. Within the basic plane they follow
each other in code order, counted as if no character had been replaced; U+E7C7 has the place that
U+1E3F left. -/
def gbFourByteIndex (c : Char) : Nat :=
  if c.toNat ≥ 0x10000 then 189000 + (c.toNat - 0x10000)
  else
    let code := if c = '\ue7c7' then 0x1E3F else c.toNat
    let below := fun (d : Nat) => d < code
    let inBlocks := (gb18030Blocks.map fun (_, text) =>
      (text.toList.filter fun d => below d.toNat).length).foldr (· + ·) 0
    let inRuns :=
      (gb18030Runs.map fun (_, first, count) => min count (code - first)).foldr (· + ·) 0
    let taken := (gbReplaced.filter fun (new, _) => below new).length
    let vacated := (gbReplaced.filter fun (_, old) => below old).length
    let surrogates := if 0xDFFF < code then 0x800 else 0
    code + taken - (0x80 + inBlocks + inRuns + vacated + surrogates)

def gbFourBytes (p : Nat) : List UInt8 :=
  pair (p / 12600 + 0x81) (p % 12600 / 1260 + 0x30) ++ pair (p % 1260 / 10 + 0x81) (p % 10 + 0x30)

/-- The two bytes of a character. A replaced private-use character is written as the one that took
its place. -/
def gbTwoBytes? (c : Char) : Option (List UInt8) :=
  let current := (gbReplaced.find? fun (new, old) => old = c.toNat && new ≠ 0x1E3F).map (·.1)
  (gb18030Table.first? ((current.map Char.ofNat).getD c)).map gbPair

def gb18030Char? (c : Char) : Option (List UInt8) :=
  if isAscii c then some (single c.toNat)
  else if c = '\ue5e5' then none
  else some ((gbTwoBytes? c).getD (gbFourBytes (gbFourByteIndex c)))

def gbkChar? (c : Char) : Option (List UInt8) :=
  if isAscii c then some (single c.toNat)
  else if c = '\ue5e5' then none
  else if c = '\u20ac' then some (single 0x80)
  else gbTwoBytes? c

/-- Characters that Big5 has twice and that are written with the later pair. -/
def big5Later : List Char := ['\u2550', '\u255e', '\u2561', '\u256a', '\u5341', '\u5345']

def big5Char? (c : Char) : Option (List UInt8) :=
  if isAscii c then some (single c.toNat)
  else
    (if big5Later.contains c then big5Table.last? c else big5Table.first? c).map fun p =>
      pair (p / 157 + 0x81) (p % 157 + if p % 157 < 0x3F then 0x40 else 0x62)

def eucKrChar? (c : Char) : Option (List UInt8) :=
  if isAscii c then some (single c.toNat)
  else (ksc5601.first? c).map fun p => pair (p / 190 + 0x81) (p % 190 + 0x41)

def codePageChar? (page : CodePage) (c : Char) : Option (List UInt8) :=
  if isAscii c then some (single c.toNat)
  else if c = '\ufffd' then none
  else (page.upper.toList.idxOf? c).map fun i => single (0x80 + i)

/-- The full-width forms of U+FF61 to U+FF9F. -/
def fullKatakana : String :=
  "。「」、・ヲァィゥェォャュョッーアイウエオカキクケコサシスセソタチツテト" ++
  "ナニヌネノハヒフヘホマミムメモヤユヨラリルレロワン゛゜"

inductive JisState
  | ascii
  | roman
  | jis0208
deriving DecidableEq, Repr

def JisState.escape : JisState → List UInt8
  | .ascii => [0x1B, 0x28, 0x42]
  | .roman => [0x1B, 0x28, 0x4A]
  | .jis0208 => [0x1B, 0x24, 0x42]

/-- The state a character is written in, and its bytes there. A state that can write the character
is kept. -/
def iso2022JpChar? (state : JisState) (c : Char) : Option (JisState × List UInt8) :=
  if isAscii c then
    if c = '\x0e' || c = '\x0f' || c = '\x1b' then none
    else if state = .roman && c ≠ '\x5c' && c ≠ '~' then some (.roman, single c.toNat)
    else some (.ascii, single c.toNat)
  else if c = '\u00a5' then some (.roman, single 0x5C)
  else if c = '\u203e' then some (.roman, single 0x7E)
  else
    let c := if isHalfKatakana c then (fullKatakana.toList[c.toNat - 0xFF61]?).getD c else japaneseForm c
    (jis0208.first? c).map fun p => (.jis0208, pair (p / 94 + 0x21) (p % 94 + 0x21))

def iso2022JpFrom? (state : JisState) : List Char → Option (List UInt8)
  | [] => some (if state = .ascii then [] else JisState.ascii.escape)
  | c :: text => do
    let (next, bytes) ← iso2022JpChar? state c
    let rest ← iso2022JpFrom? next text
    return (if next = state then [] else next.escape) ++ bytes ++ rest

def eachChar? (char? : Char → Option (List UInt8)) (text : List Char) : Option (List UInt8) :=
  (text.mapM char?).map List.flatten

/-- The text as bytes. The replacement set and UTF-16 are written as UTF-8. -/
def encode? (set : Charset) (text : List Char) : Option (List UInt8) :=
  match set with
  | .codePage page => eachChar? (codePageChar? page) text
  | .utf8 | .utf16 _ | .replacement => some (Utf8.encode text)
  | .userDefined =>
    eachChar? (fun c =>
      if isAscii c then some (single c.toNat)
      else if 0xF780 ≤ c.toNat ∧ c.toNat ≤ 0xF7FF then some (single (c.toNat - 0xF780 + 0x80))
      else none) text
  | .gbk => eachChar? gbkChar? text
  | .gb18030 => eachChar? gb18030Char? text
  | .big5 => eachChar? big5Char? text
  | .eucJp => eachChar? eucJpChar? text
  | .iso2022Jp => iso2022JpFrom? .ascii text
  | .shiftJis => eachChar? shiftJisChar? text
  | .eucKr => eachChar? eucKrChar? text

end Charset

end Triage
