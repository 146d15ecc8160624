import Triage.Text.Yaml.Scalar

/-!
The tokens of a text of settings. Indentation is told by tokens that open and close a block. A text
in front of a colon is a key, which is only known at the colon: the token for the key, and the one
that opens a block with it, are then put in front of the text.
-/

namespace Triage.Yaml

inductive Token
  | version (major minor : Nat)
  | handle (name uri : List Char)
  | documentStart
  | documentEnd
  | blockSequence
  | blockMapping
  | blockEnd
  | openSequence
  | closeSequence
  | openMapping
  | closeMapping
  | item
  | comma
  | key
  | value
  | reference (name : List Char)
  | anchor (name : List Char)
  | tag (handle rest : List Char)
  | scalar (style : Style) (text : List Char)
deriving DecidableEq, Repr

/-! ## Tags and directives -/

/-- How many octets a character has in UTF-8, by its first one. -/
def octetCount? (first : Nat) : Option Nat :=
  if first < 0x80 then some 1
  else if 0xC0 ≤ first ∧ first < 0xE0 then some 2
  else if 0xE0 ≤ first ∧ first < 0xF0 then some 3
  else if 0xF0 ≤ first ∧ first < 0xF8 then some 4
  else none

/-- An octet written with a percent sign and two digits. -/
def octet? : List Char → Option Nat
  | '%' :: a :: b :: _ => do return 16 * (← Hex.value? a) + (← Hex.value? b)
  | _ => none

/-- A character in escaped octets. Only how the octets start is looked at. -/
def escapedOctets? (text : List Char) : Option (List Nat) := do
  let first ← octet? text
  let more ← (List.range ((← octetCount? first) - 1)).mapM fun i => octet? (text.drop (3 * (i + 1)))
  if more.all (fun o => 0x80 ≤ o && o < 0xC0) then some (first :: more) else none

def isUriChar (brackets : Bool) (c : Char) : Bool :=
  isNameChar c || [';', '/', '?', ':', '@', '&', '=', '+', '$', '.', '%', '!', '~', '*', '\'', '(',
    ')'].contains c || (brackets && [',', '[', ']'].contains c)

/-- The characters of an address and the place after them. An escaped octet counts as the character
of that number. -/
def uriChars? (brackets : Bool) : Nat → Place → Option (List Char × Place)
  | 0, _ => none
  | fuel + 1, p =>
    match p.text with
    | [] => some ([], p)
    | c :: _ =>
      if c = '%' then do
        let octets ← escapedOctets? p.text
        let (more, rest) ← uriChars? brackets fuel (p.skip (3 * octets.length))
        some (octets.map Char.ofNat ++ more, rest)
      else if isUriChar brackets c then do
        let (more, rest) ← uriChars? brackets fuel p.next
        some (c :: more, rest)
      else some ([], p)

/-- An address ends at an octet that is zero. -/
def uri? (brackets : Bool) (p : Place) : Option (List Char × Place) := do
  let (chars, p) ← uriChars? brackets (p.text.length + 1) p
  some (chars.takeWhile (· ≠ '\x00'), p)

/-- An exclamation mark with a name behind it, and with a second mark if there is one. -/
def handle? (p : Place) : Option (List Char × Place) :=
  match p.text with
  | '!' :: rest =>
    let name := rest.takeWhile isNameChar
    let close := (rest.drop name.length).take 1 |>.filter (· = '!')
    some ('!' :: name ++ close, p.skip (1 + name.length + close.length))
  | _ => none

/-- Whether a handle stands for the start of an address. -/
def closesHandle (handle : List Char) : Bool := 1 < handle.length && handle.getLast? = some '!'

/-- A tag: an address in angles, a handle and the rest of an address, or a mark and a name of its
own, which may be empty. -/
def tag? (flow : Bool) (p : Place) : Option (Token × Place) := do
  let (token, rest) ←
    if p.text.take 2 = ['!', '<'] then do
      let (uri, rest) ← uri? true (p.skip 2)
      if rest.column = p.column + 2 || !rest.startsWith '>' then failure
      pure (Token.tag [] uri, rest.next)
    else do
      let (handle, after) ← handle? p
      if closesHandle handle then
        let (uri, rest) ← uri? false after
        if rest.column = after.column then failure
        pure (Token.tag handle uri, rest)
      else
        let (uri, rest) ← uri? false p.next
        pure (if uri.isEmpty then Token.tag [] ['!'] else Token.tag ['!'] uri, rest)
  if atGap rest.text || (flow && rest.startsWith ',') then some (token, rest) else none

/-- A part of the number of a version. -/
def versionPart? (p : Place) : Option (Nat × Place) :=
  let digits := p.text.takeWhile Char.isDigit
  if digits.isEmpty || 9 < digits.length then none
  else some (digits.foldl (fun n d => 10 * n + (d.toNat - 48)) 0, p.skip digits.length)

/-- The directive whose percent sign stands at the place, up to the next line. -/
def directive? (p : Place) : Option (Token × Place) := do
  let p := p.next
  let name := p.text.takeWhile isNameChar
  let p := p.skip name.length
  if name.isEmpty || !atGap p.text then failure
  let p := p.skipWhile isBlank
  let (token, p) ←
    if name = "YAML".toList then do
      let (major, p) ← versionPart? p
      if !p.startsWith '.' then failure
      let (minor, p) ← versionPart? p.next
      pure (Token.version major minor, p)
    else if name = "TAG".toList then do
      let (handle, p) ← handle? p
      if (handle ≠ ['!'] && !closesHandle handle) || !p.text.head?.any isBlank then failure
      let start := p.skipWhile isBlank
      let (uri, p) ← uri? true start
      if p.column = start.column || !atGap p.text then failure
      pure (Token.handle handle uri, p)
    else failure
  some (token, ← p.endLine?)

/-- The name of an anchor or alias, whose sign stands at the place. -/
def anchorName? (p : Place) : Option (List Char × Place) :=
  let p := p.next
  let name := p.text.takeWhile isNameChar
  let rest := p.text.drop name.length
  if !name.isEmpty &&
      (atGap rest || rest.head?.any ['?', ':', ',', ']', '}', '%', '@', '\x60'].contains) then
    some (name, p.skip name.length)
  else none

/-! ## Reading tokens in turn -/

/-- What may turn out to be a key: how many tokens come before it, and where it starts. Where a block
expects a key it has to be one. -/
structure PossibleKey where
  before : Nat
  line : Nat
  column : Nat
  required : Bool
deriving DecidableEq, Repr

/-- The tokens so far. `indents` are the columns of the open blocks, innermost first; `outer` are the
possible keys around the open flows. -/
structure Scanner where
  place : Place
  tokens : Array Token := #[]
  indents : List Nat := []
  key : Option PossibleKey := none
  outer : List (Option PossibleKey) := []
  keyAllowed : Bool := true

namespace Scanner

def inFlow (s : Scanner) : Bool := !s.outer.isEmpty

def add (s : Scanner) (t : Token) : Scanner := { s with tokens := s.tokens.push t }

def skip (s : Scanner) (n : Nat) : Scanner := { s with place := s.place.skip n }

/-- The least column of what belongs to the innermost block. -/
def least (s : Scanner) : Nat := s.indents.head?.elim 0 (· + 1)

/-- Opens a block at a column, unless one is open there already. -/
def indent (s : Scanner) (column before : Nat) (t : Token) : Scanner :=
  if s.inFlow || column < s.least then s
  else
    { s with indents := column :: s.indents, tokens := s.tokens.insertIdxIfInBounds before t }

def indentHere (s : Scanner) (t : Token) : Scanner :=
  s.indent s.place.column s.tokens.size t

/-- Closes the blocks that satisfy the condition, from the innermost on. -/
def closeBlocks (s : Scanner) (closes : Nat → Bool) : Scanner :=
  if s.inFlow then s
  else
    let closed := s.indents.takeWhile closes
    { s with
      indents := s.indents.drop closed.length
      tokens := s.tokens ++ (closed.map fun _ => Token.blockEnd).toArray }

/-- The text since the possible key is not one. -/
def dropKey? (s : Scanner) : Option Scanner :=
  if s.key.any (·.required) then none else some { s with key := none }

/-- What starts here may be a key. -/
def markKey? (s : Scanner) : Option Scanner :=
  if s.keyAllowed then do
    let s ← s.dropKey?
    let p := s.place
    let required := !s.inFlow && s.indents.head? = some p.column
    some { s with key := some ⟨s.tokens.size, p.line, p.column, required⟩ }
  else some s

/-- A key has one line and at most 1024 characters. -/
def isStale (p : Place) (k : PossibleKey) : Bool := k.line < p.line || k.column + 1024 < p.column

def dropStale? (s : Scanner) : Option Scanner :=
  let stale := isStale s.place
  if (s.key :: s.outer).any (·.any fun k => stale k && k.required) then none
  else
    let fresh := Option.filter fun k => !stale k
    some { s with key := fresh s.key, outer := s.outer.map fresh }

/-- Goes to the next token. A tab may not stand where a block may have a key. -/
def skipGap : Nat → Scanner → Scanner
  | 0, s => s
  | fuel + 1, s =>
    let p := s.place
    let p := if p.column = 0 && p.startsWith '\ufeff' then p.next else p
    let tabs := s.inFlow || !s.keyAllowed
    let p := (p.skipWhile fun c => c = ' ' || (tabs && c = '\t')).skipComment
    if p.text.head?.any isBreak then
      skipGap fuel { s with place := p.next, keyAllowed := s.keyAllowed || !s.inFlow }
    else { s with place := p }

/-- At the start of a line that says something about documents all blocks end. -/
def leaveBlocks? (s : Scanner) : Option Scanner := do
  let s ← (s.closeBlocks fun _ => true).dropKey?
  some { s with keyAllowed := false }

def mark? (s : Scanner) (t : Token) : Option Scanner := do
  return (← s.leaveBlocks?).add t |>.skip 3

def openFlow? (s : Scanner) (t : Token) : Option Scanner := do
  let s ← s.markKey?
  return { s with key := none, outer := s.key :: s.outer, keyAllowed := true }.add t |>.skip 1

def closeFlow? (s : Scanner) (t : Token) : Option Scanner := do
  let s ← s.dropKey?
  let s := { s with key := s.outer.head?.join, outer := s.outer.drop 1, keyAllowed := false }
  return s.add t |>.skip 1

def comma? (s : Scanner) : Option Scanner := do
  return { ← s.dropKey? with keyAllowed := true }.add .comma |>.skip 1

/-- Outside of a flow, an item or a key needs a place where a key may be, and opens a block if it
stands deeper than the others. -/
def enterBlock? (s : Scanner) (t : Token) : Option Scanner :=
  if s.inFlow then some s
  else if s.keyAllowed then some (s.indentHere t)
  else none

def item? (s : Scanner) : Option Scanner := do
  let s ← (← s.enterBlock? .blockSequence).dropKey?
  return { s with keyAllowed := true }.add .item |>.skip 1

def key? (s : Scanner) : Option Scanner := do
  let s ← (← s.enterBlock? .blockMapping).dropKey?
  return { s with keyAllowed := !s.inFlow }.add .key |>.skip 1

/-- The colon after a key, which may be found to be one only now. -/
def value? (s : Scanner) : Option Scanner := do
  let s ←
    match s.key with
    | some k =>
      let s := { s with key := none, tokens := s.tokens.insertIdxIfInBounds k.before .key }
      pure { s.indent k.column k.before .blockMapping with keyAllowed := false }
    | none => do
      let s ← s.enterBlock? .blockMapping
      pure { s with keyAllowed := !s.inFlow }
  return s.add .value |>.skip 1

/-- Adds a token that may be a key or start one. -/
def content? (s : Scanner) (read : Place → Option (Token × Place)) : Option Scanner := do
  let s ← s.markKey?
  let (token, place) ← read s.place
  return { s with place, keyAllowed := false }.add token

def anchor? (s : Scanner) (token : List Char → Token) : Option Scanner :=
  s.content? fun p => (anchorName? p).map fun (name, rest) => (token name, rest)

def quoted? (s : Scanner) (quote : Char) : Option Scanner :=
  s.content? fun p => (Yaml.quoted? quote p.next).map fun (text, rest) =>
    (.scalar .quoted text, rest)

def blockScalar? (s : Scanner) (style : Style) : Option Scanner := do
  let s ← s.dropKey?
  let (text, place) ← block? (style = .folded) s.indents.head? s.place.next
  return { s with place, keyAllowed := true }.add (.scalar style text)

/-- After a plain scalar whose line has ended there may be a key. -/
def plain? (s : Scanner) : Option Scanner := do
  let s ← s.markKey?
  let (text, place, broken) ← Yaml.plain? s.inFlow s.least s.place
  return { s with place, keyAllowed := broken }.add (.scalar .plain text)

/-- The characters that may not start a plain scalar. -/
def isSign (c : Char) : Bool :=
  ['-', '?', ':', ',', '[', ']', '{', '}', '#', '&', '*', '!', '|', '>', '\'', '"', '%', '@',
    '\x60'].contains c

/-- Adds the token at the place. -/
def token? (s : Scanner) : Option Scanner :=
  let p := s.place
  match p.text with
  | [] => none
  | c :: rest =>
    if p.column = 0 && c = '%' then do
      let s ← s.leaveBlocks?
      let (token, place) ← directive? p
      return { s with place }.add token
    else if p.atMark '-' then s.mark? .documentStart
    else if p.atMark '.' then s.mark? .documentEnd
    else if c = '[' then s.openFlow? .openSequence
    else if c = '{' then s.openFlow? .openMapping
    else if c = ']' then s.closeFlow? .closeSequence
    else if c = '}' then s.closeFlow? .closeMapping
    else if c = ',' then s.comma?
    else if c = '-' && atGap rest then s.item?
    else if c = '?' && (s.inFlow || atGap rest) then s.key?
    else if c = ':' && (s.inFlow || atGap rest) then s.value?
    else if c = '*' then s.anchor? .reference
    else if c = '&' then s.anchor? .anchor
    else if c = '!' then s.content? (tag? s.inFlow)
    else if c = '|' && !s.inFlow then s.blockScalar? .literal
    else if c = '>' && !s.inFlow then s.blockScalar? .folded
    else if c = '\'' || c = '"' then s.quoted? c
    else if !(isGap c || isSign c) || c = '-' || (!s.inFlow && (c = '?' || c = ':')) then s.plain?
    else none

/-- Adds tokens up to the end, where all blocks close. -/
def run? : Nat → Scanner → Option Scanner
  | 0, _ => none
  | fuel + 1, s => do
    let s ← (s.skipGap (fuel + 1)).dropStale?
    let s := s.closeBlocks (s.place.column < ·)
    if s.place.text.isEmpty then s.leaveBlocks? else run? fuel (← s.token?)

end Scanner

/-- The tokens of a text, if each character is allowed and is part of a token. -/
def Token.ofText? (text : List Char) : Option (List Token) := do
  if !text.all isAllowed then failure
  let text := joinLineEnds text
  return (← Scanner.run? (text.length + 1) { place := { text } }).tokens.toList

end Triage.Yaml
