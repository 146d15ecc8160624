import Triage.Text.Hex
import Triage.Text.Yaml.Place

/-!
The three ways to write a scalar: plain, in quotes, and as a block of lines. What a scalar says
depends on how its lines are folded: a single line end between two words counts as a blank, and of
several the first is left out.
-/

namespace Triage.Yaml

inductive Style
  | plain | quoted | literal | folded
deriving DecidableEq, Repr

/-- What line ends between two words count as. Only a line feed is folded. -/
def foldBreaks : List Char → List Char
  | ['\n'] => [' ']
  | '\n' :: more => more
  | breaks => breaks

/-- What stands between two words: blanks as they are unless a line ends among them. -/
def foldGap (gap : List Char) : List Char :=
  if gap.any isBreak then foldBreaks (gap.filter isBreak) else gap

/-! ## Plain scalars -/

/-- The characters up to a gap, to a colon before a gap or, in a flow, to a mark of flows. A colon in
a flow may not touch a mark. -/
def plainWord? (flow : Bool) : List Char → Option (List Char)
  | [] => some []
  | c :: rest =>
    if isGap c || (c = ':' && atGap rest) || (flow && isFlowMark c) then some []
    else if flow && c = ':' && rest.head?.any (fun d => d = '?' || isFlowMark d) then none
    else (plainWord? flow rest).map (c :: ·)

/-- The blanks and line ends at the front. No tab may stand before column `least` of a line that
starts among them. -/
def plainGap? (least : Nat) (broken : Bool) (column : Nat) : List Char → Option (List Char)
  | [] => some []
  | c :: rest =>
    if isBreak c then (plainGap? least true 0 rest).map (c :: ·)
    else if isBlank c then
      if broken && c = '\t' && column < least then none
      else (plainGap? least broken (column + 1) rest).map (c :: ·)
    else some []

/-- The words from a place on, each after what stands between it and the one before; `gap` is what
stands before the first. Tells also where the scalar ends and whether a line has ended before. -/
def plainWords? (flow : Bool) (least : Nat) :
    Nat → List Char → Place → Option (List Char × Place × Bool)
  | 0, _, _ => none
  | fuel + 1, gap, p => do
    let done := some ([], p, gap.any isBreak)
    if p.atDocumentMark || p.startsWith '#' then done
    else
      let word ← plainWord? flow p.text
      let text := if word.isEmpty then [] else foldGap gap ++ word
      let gap := if word.isEmpty then gap else []
      let p := p.skip word.length
      let more ← plainGap? least false p.column p.text
      let p := p.skip more.length
      if more.isEmpty || (!flow && p.column < least) then
        some (text, p, (gap ++ more).any isBreak)
      else
        let (words, rest) ← plainWords? flow least fuel (gap ++ more) p
        some (text ++ words, rest)

/-- A plain scalar, where it ends, and whether its line has ended before. Outside of a flow its
further lines are indented by at least `least`. -/
def plain? (flow : Bool) (least : Nat) (p : Place) : Option (List Char × Place × Bool) :=
  plainWords? flow least (p.text.length + 1) [] p

/-! ## Quoted scalars -/

def simpleEscapes : List (Char × Nat) :=
  [('0', 0), ('a', 7), ('b', 8), ('t', 9), ('\t', 9), ('n', 10), ('v', 11), ('f', 12), ('r', 13),
    ('e', 27), (' ', 32), ('"', 34), ('/', 47), ('\\', 92), ('N', 0x85), ('_', 0xA0), ('L', 0x2028),
    ('P', 0x2029)]

def hexEscapes : List (Char × Nat) := [('x', 2), ('u', 4), ('U', 8)]

/-- The character whose number the digits spell. -/
def codePoint? (digits : List Char) : Option Char := do
  let n := (← digits.mapM Hex.value?).foldl (fun n d => 16 * n + d) 0
  if n.isValidChar then some (Char.ofNat n) else none

/-- What a backslash and the characters after it stand for, and how many those are. -/
def escape? : List Char → Option (Char × Nat)
  | [] => none
  | c :: rest =>
    match simpleEscapes.lookup c, hexEscapes.lookup c with
    | some n, _ => some (Char.ofNat n, 1)
    | none, some width => do
      if rest.length < width then failure
      return (← codePoint? (rest.take width), width + 1)
    | none, none => none

/-- What is read up to a gap or to the closing quote, and where that is. A backslash before a line
end hides the line end. -/
def quotedWord? (quote : Char) : Nat → Place → Option (List Char × Place × Bool)
  | 0, _ => none
  | fuel + 1, p =>
    match p.text with
    | [] => some ([], p, false)
    | c :: rest =>
      let go? (c : Char) (n : Nat) : Option (List Char × Place × Bool) :=
        (quotedWord? quote fuel (p.skip n)).map fun (t, r) => (c :: t, r)
      if isGap c then some ([], p, false)
      else if c = quote then
        if quote = '\'' && rest.head? = some quote then go? quote 2 else some ([], p, false)
      else if quote = '"' && c = '\\' then
        if rest.head?.any isBreak then some ([], p.skip 2, true)
        else (escape? rest).bind fun (c, n) => go? c (n + 1)
      else go? c 1

/-- The words up to the closing quote with what stands between them, and the place after the quote.
No line within may be a mark of documents. -/
def quotedWords? (quote : Char) : Nat → Place → Option (List Char × Place)
  | 0, _ => none
  | fuel + 1, p => do
    if p.atDocumentMark || p.text.isEmpty then failure
    let (word, p, hidden) ← quotedWord? quote (fuel + 1) p
    if p.startsWith quote then some (word, p.next)
    else
      let gap := p.text.takeWhile isGap
      let between := if hidden then gap.filter isBreak else foldGap gap
      let (words, rest) ← quotedWords? quote fuel (p.skip gap.length)
      some (word ++ between ++ words, rest)

/-- The scalar whose opening quote stands before the place. -/
def quoted? (quote : Char) (p : Place) : Option (List Char × Place) :=
  quotedWords? quote (p.text.length + 1) p

/-! ## Blocks of lines -/

/-- What becomes of the line ends behind the last line: none stays, one stays, or all do. -/
inductive Chomping
  | strip | clip | keep
deriving DecidableEq, Repr

def chomping? : List Char → Option Chomping
  | '-' :: _ => some .strip
  | '+' :: _ => some .keep
  | _ => none

/-- An indentation that is told by a digit, which is not zero. -/
def indentation? : List Char → Option Nat
  | c :: _ => if c.isDigit then some (c.toNat - 48) else none
  | [] => none

/-- The two marks behind the sign of a block, in either order. -/
def blockHeader? (p : Place) : Option (Chomping × Option Nat × Place) := do
  let first := chomping? p.text
  let p := if first.isSome then p.next else p
  let indentation := indentation? p.text
  if indentation = some 0 then failure
  let p := if indentation.isSome then p.next else p
  let second := if first.isNone && indentation.isSome then chomping? p.text else none
  let p := if second.isSome then p.next else p
  some ((first <|> second).getD .clip, indentation, ← p.endLine?)

/-- The line ends before the next line with content, the widest indentation on the way, and the place
in that line at its content or at the column `indent` if it is known. A tab may not stand before. -/
def blankLines? (indent : Option Nat) : Nat → Place → Option (List Char × Nat × Place)
  | 0, _ => none
  | fuel + 1, p => do
    let spaces := (p.text.takeWhile (· = ' ')).length
    let p := p.skip (indent.elim spaces fun i => min spaces (i - p.column))
    if p.startsWith '\t' && indent.all (p.column < ·) then failure
    match p.text with
    | c :: _ =>
      if isBreak c then
        let (breaks, widest, rest) ← blankLines? indent fuel p.next
        some (c :: breaks, max p.column widest, rest)
      else some ([], p.column, p)
    | [] => some ([], p.column, p)

/-- A line of a block with the line ends behind it: its own, and those of blank lines. -/
structure BlockLine where
  text : List Char
  own : List Char
  blank : List Char

/-- The lines with the indentation. -/
def blockLines? (indent : Nat) : Nat → Place → Option (List BlockLine × Place)
  | 0, _ => none
  | fuel + 1, p => do
    if p.column ≠ indent || p.text.isEmpty then return ([], p)
    let text := p.text.takeWhile (!isBreak ·)
    let p := p.skip text.length
    let own := p.text.take 1
    let p := p.next
    let (blank, _, p) ← blankLines? (some indent) (fuel + 1) p
    let (lines, p) ← blockLines? indent fuel p
    return (⟨text, own, blank⟩ :: lines, p)

/-- The lines with their ends between them. Of a folded block a line feed between two lines is folded
if neither starts with a blank. -/
def joinLines (folded : Bool) (chomping : Chomping) : List BlockLine → List Char
  | [] => []
  | [line] =>
    match chomping with
    | .strip => line.text
    | .clip => line.text ++ line.own
    | .keep => line.text ++ line.own ++ line.blank
  | line :: after :: rest =>
    let ends := line.own ++ line.blank
    let folds := folded && line.own = ['\n'] && !line.text.head?.any isBlank &&
      !after.text.head?.any isBlank
    line.text ++ (if folds then foldBreaks ends else ends) ++
      joinLines folded chomping (after :: rest)

/-- The scalar whose sign stands before the place, in a node that is indented by `parent`. Without a
digit the first line tells the indentation. -/
def block? (folded : Bool) (parent : Option Nat) (p : Place) : Option (List Char × Place) := do
  let (chomping, digit, p) ← blockHeader? p
  let told := digit.map (parent.getD 0 + ·)
  let (blank, widest, p) ← blankLines? told (p.text.length + 1) p
  let indent := told.getD (max widest (parent.elim 1 (· + 1)))
  let (lines, p) ← blockLines? indent (p.text.length + 1) p
  let first := if lines.isEmpty && chomping ≠ .keep then [] else blank
  some (first ++ joinLines folded chomping lines, p)

end Triage.Yaml
