/-!
Places in a text of settings. A line ends with a line feed, a line separator or a paragraph
separator; the other ways to end one are read as line feeds before.
-/

namespace Triage.Yaml

def isBlank (c : Char) : Bool := c = ' ' || c = '\t'

def isBreak (c : Char) : Bool := c = '\n' || c = '\u2028' || c = '\u2029'

def isGap (c : Char) : Bool := isBlank c || isBreak c

/-- Whether the text is at its end, at a blank or at a line end. -/
def atGap (text : List Char) : Bool := text.head?.all isGap

def isFlowMark (c : Char) : Bool := [',', '[', ']', '{', '}'].contains c

/-- Names of anchors, handles and directives are made of these. -/
def isNameChar (c : Char) : Bool := c.isAlphanum || c = '_' || c = '-'

def isAllowed (c : Char) : Bool :=
  let n := c.toNat
  n = 9 || n = 10 || n = 13 || (0x20 ≤ n && n ≤ 0x7E) || n = 0x85 || (0xA0 ≤ n && n ≤ 0xFFFD) ||
    0x10000 ≤ n

/-- Every way to end a line becomes a line feed, except for the two separators. -/
def joinLineEnds : List Char → List Char
  | '\r' :: '\n' :: rest => '\n' :: joinLineEnds rest
  | '\r' :: rest | '\u0085' :: rest => '\n' :: joinLineEnds rest
  | c :: rest => c :: joinLineEnds rest
  | [] => []

/-- The text from a place on, the number of the line and the characters before the place on it. -/
structure Place where
  text : List Char
  line : Nat := 0
  column : Nat := 0
deriving DecidableEq, Repr

namespace Place

def next (p : Place) : Place :=
  match p.text with
  | [] => p
  | c :: rest => if isBreak c then ⟨rest, p.line + 1, 0⟩ else ⟨rest, p.line, p.column + 1⟩

def skip : Nat → Place → Place
  | 0, p => p
  | n + 1, p => skip n p.next

def skipWhile (p : Place) (holds : Char → Bool) : Place :=
  p.skip (p.text.takeWhile holds).length

def startsWith (p : Place) (c : Char) : Bool := p.text.head? = some c

/-- Whether a line starts with three times the character and a gap, as the marks of documents do. -/
def atMark (p : Place) (c : Char) : Bool :=
  p.column = 0 && p.text.take 3 = [c, c, c] && atGap (p.text.drop 3)

def atDocumentMark (p : Place) : Bool := p.atMark '-' || p.atMark '.'

def skipComment (p : Place) : Place :=
  if p.startsWith '#' then p.skipWhile (!isBreak ·) else p

/-- Goes to the next line if this one holds nothing more than blanks and a comment. -/
def endLine? (p : Place) : Option Place :=
  let done := (p.skipWhile isBlank).skipComment
  if done.text.head?.all isBreak then some done.next else none

end Place

end Triage.Yaml
