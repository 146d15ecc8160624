import Triage.Regex.Syntax
import Triage.Unicode.CharSet

/-!
Reading the text of a regular expression. A text that is not an expression gives `none`; the
reader's steps each consume at least one character, so the length of the text bounds the recursion.
-/

namespace Triage.Regex

/-- What is left to read, whether blanks and comments between tokens are skipped, and the capture
groups met so far. -/
structure Reader where
  rest : List Char
  skipBlanks : Bool := false
  names : List (List Char) := []
  groups : Nat := 0

abbrev Read := StateT Reader Option

namespace Read

def dropBlanks (inComment : Bool) : List Char → List Char
  | [] => []
  | c :: cs =>
    if inComment then dropBlanks (c != '\n') cs
    else if Unicode.isWhiteSpace c then dropBlanks false cs
    else if c == '#' then dropBlanks true cs
    else c :: cs

def blanks : Read Unit :=
  modify fun r => if r.skipBlanks then { r with rest := dropBlanks false r.rest } else r

/-- Moves past one character. -/
def bump : Read Unit := modify fun r => { r with rest := r.rest.drop 1 }

/-- Moves past one character and the blanks after it. -/
def step : Read Unit := do bump; blanks

def rest : Read (List Char) := return (← get).rest

def current? : Read (Option Char) := return (← get).rest.head?

def current : Read Char := do
  match ← current? with
  | some c => pure c
  | none => failure

def expect (c : Char) : Read Unit := do
  guard ((← current) == c)

def collectUpTo (keep : Char → Bool) (advance : Read Unit) : Nat → Read (List Char)
  | 0 => pure []
  | fuel + 1 => do
    match ← current? with
    | some c =>
      if keep c then
        advance
        return c :: (← collectUpTo keep advance fuel)
      else pure []
    | none => pure []

/-- The run of characters that pass the test. -/
def collect (keep : Char → Bool) (advance : Read Unit) : Read (List Char) := do
  collectUpTo keep advance (← get).rest.length

def pastBlanks (inComment : Bool) (fallback : Option Char) : List Char → Option Char
  | [] => fallback
  | c :: cs =>
    if Unicode.isWhiteSpace c then pastBlanks inComment fallback cs
    else if !inComment && c == '#' then pastBlanks true fallback cs
    else some c

/-- The character after the current one; blanks and a comment sign are looked past where they are
skipped. -/
def peek : Read (Option Char) := do
  let r ← get
  let after := r.rest.drop 1
  return if r.skipBlanks then pastBlanks false after.head? after else after.head?

end Read

open Read

def isHexDigit (c : Char) : Bool := c.isDigit || ('a' ≤ c && c ≤ 'f') || ('A' ≤ c && c ≤ 'F')

def hexValue (digits : List Char) : Nat := digits.foldl (fun n c => n * 16 + hexDigitValue c) 0
where
  hexDigitValue (c : Char) : Nat :=
    if c.isDigit then c.toNat - 48 else if c.isLower then c.toNat - 87 else c.toNat - 55

def charOfCode? (code : Nat) : Option Char := if code.isValidChar then some (Char.ofNat code) else none

def readHexDigits : Nat → Read (List Char)
  | 0 => pure []
  | n + 1 => do
    let c ← current
    guard (isHexDigit c)
    step
    return c :: (← readHexDigits n)

/-- A hexadecimal escape, from its letter on: a fixed number of digits or any number in braces. -/
def readHexEscape : Read Literal := do
  let letter ← current
  step
  if (← current) == '\x7b' then
    step
    let digits ← collect isHexDigit step
    expect '\x7d'
    step
    guard !digits.isEmpty
    return ⟨← charOfCode? (hexValue digits), false⟩
  else
    let digits ← readHexDigits (if letter == 'x' then 2 else if letter == 'u' then 4 else 8)
    return ⟨← charOfCode? (hexValue digits), letter == 'x'⟩

def cutAt (mark : List Char) (text : List Char) : Option (List Char × List Char) :=
  go [] text
where
  go (seen : List Char) : List Char → Option (List Char × List Char)
    | [] => none
    | c :: cs =>
      if mark.isPrefixOf (c :: cs) then some (seen.reverse, (c :: cs).drop mark.length)
      else go (c :: seen) cs

/-- A Unicode class, from its letter on, and whether it is negated: a capital letter negates it, and
so does the sign for a value that differs. -/
def readProperty : Read (Bool × Property) := do
  let negated := (← current) == 'P'
  step
  let c ← current
  if c == '\x7b' then
    step
    let name ← collect (· != '\x7d') step
    expect '\x7d'
    bump
    if let some (property, value) := cutAt ['!', '='] name then
      return (!negated, .valued property value)
    match cutAt [':'] name <|> cutAt ['='] name with
    | some (property, value) => return (negated, .valued property value)
    | none => return (negated, .named name)
  else
    guard (c != '\\')
    step
    return (negated, .letter c)

/-- An element of an expression that is one token. -/
inductive Primitive
  | literal (l : Literal)
  | dot
  | assertion (a : Assertion)
  | property (negated : Bool) (p : Property)
  | shorthand (negated : Bool) (s : Shorthand)

def isMeta (c : Char) : Bool :=
  ['\\', '.', '+', '*', '?', '(', ')', '|', '[', ']', '\x7b', '\x7d', '^', '$', '#', '&', '-', '~'].contains c

/-- Characters that a backslash leaves as they are. -/
def isPlainEscape (c : Char) : Bool :=
  isMeta c || (c.toNat < 128 && !c.isAlphanum && c != '<' && c != '>')

def isEdgeNameChar (c : Char) : Bool := c.isAlpha || c == '-'

/-- A name in braces after a word boundary. Braces that hold no name are left unread, as they may
count repetitions. -/
def readEdgeName : Read WordEdge := do
  let before ← get
  if (← current?) != some '\x7b' then return .boundary
  step
  if isEdgeNameChar (← current) then
    let name ← collect isEdgeNameChar step
    expect '\x7d'
    bump
    match String.ofList name with
    | "start" => return .start
    | "end" => return .finish
    | "start-half" => return .startHalf
    | "end-half" => return .finishHalf
    | _ => failure
  else
    set before
    return .boundary

def readEscape : Read Primitive := do
  bump
  let c ← current
  match c with
  | 'x' | 'u' | 'U' => return .literal (← readHexEscape)
  | 'p' | 'P' =>
    let (negated, p) ← readProperty
    return .property negated p
  | 'd' | 'D' => bump; return .shorthand (c == 'D') .digit
  | 's' | 'S' => bump; return .shorthand (c == 'S') .space
  | 'w' | 'W' => bump; return .shorthand (c == 'W') .word
  | _ =>
    bump
    if isPlainEscape c then return .literal ⟨c, false⟩
    match c with
    | 'a' => return .literal ⟨'\x07', false⟩
    | 'f' => return .literal ⟨'\x0c', false⟩
    | 't' => return .literal ⟨'\t', false⟩
    | 'n' => return .literal ⟨'\n', false⟩
    | 'r' => return .literal ⟨'\r', false⟩
    | 'v' => return .literal ⟨'\x0b', false⟩
    | 'A' => return .assertion .textStart
    | 'z' => return .assertion .textEnd
    | 'b' => return .assertion (.word (← readEdgeName))
    | 'B' => return .assertion (.word .inside)
    | '<' => return .assertion (.word .start)
    | '>' => return .assertion (.word .finish)
    | _ => failure

def readPrimitive : Read Primitive := do
  match ← current with
  | '\\' => readEscape
  | '.' => bump; return .dot
  | '^' => bump; return .assertion .lineStart
  | '$' => bump; return .assertion .lineEnd
  | c => bump; return .literal ⟨c, false⟩

def Primitive.toSyntax : Primitive → Syntax
  | .literal l => .literal l
  | .dot => .dot
  | .assertion a => .assertion a
  | .property negated p => .property negated p
  | .shorthand negated s => .shorthand negated s

/-- The primitives that a class may hold. -/
def Primitive.toClassSet? : Primitive → Option ClassSet
  | .literal l => some (.literal l)
  | .property negated p => some (.property negated p)
  | .shorthand negated s => some (.shorthand negated s)
  | .dot | .assertion _ => none

def Primitive.toLiteral? : Primitive → Option Literal
  | .literal l => some l
  | _ => none

def readClassPrimitive : Read Primitive := do
  let c ← current
  if c == '\\' then readEscape else bump; return .literal ⟨c, false⟩

/-- One member of a class, or a range when a hyphen and a second member follow. -/
def readClassRange : Read ClassSet := do
  let first ← readClassPrimitive
  blanks
  let c ← current
  let after ← peek
  if c != '-' || after == some ']' || after == some '-' then first.toClassSet?
  else
    step
    let last ← readClassPrimitive
    let first ← first.toLiteral?
    let last ← last.toLiteral?
    guard (first.char ≤ last.char)
    return .range first last

/-- A class such as `[:alpha:]`, with what follows it. -/
def posixClass? (text : List Char) : Option (ClassSet × List Char) := do
  let text ← dropStart? ['[', ':'] text
  let (negated, text) := match text with
    | '^' :: rest => (true, rest)
    | _ => (false, text)
  let (name, rest) := text.span (· != ':')
  let rest ← dropStart? [':', ']'] rest
  return (.posix negated (← PosixClass.named? name), rest)
where
  dropStart? (mark text : List Char) : Option (List Char) :=
    if mark.isPrefixOf text then some (text.drop mark.length) else none

/-- Hyphens, then possibly a closing bracket, that stand for themselves after an opening
bracket. -/
def readLeading (fuel : Nat) : Read (List ClassSet) := do
  let hyphens ← collectUpTo (· == '-') step fuel
  let c ← current
  if hyphens.isEmpty && c == ']' then
    step
    let _ ← current
    return [.literal ⟨']', false⟩]
  return hyphens.map fun c => .literal ⟨c, false⟩

/-- The start of a class, from its bracket on: whether it is negated, and its first members. -/
def readBracketOpening : Read (Bool × List ClassSet) := do
  step
  let negated := (← current) == '^'
  if negated then step
  let _ ← current
  let leading ← readLeading (← get).rest.length
  return (negated, leading)

def withPending (pending : Option (SetOp × ClassSet)) (items : List ClassSet) : ClassSet :=
  let right := ClassSet.ofItems items.reverse
  match pending with
  | some (kind, left) => .op kind left right
  | none => right

/-- The members of a class up to its closing bracket. Operators associate to the left and bind
less than juxtaposition. -/
def readBracketBody : Nat → Option (SetOp × ClassSet) → List ClassSet → Read ClassSet
  | 0, _, _ => failure
  | fuel + 1, pending, items => do
    blanks
    match ← rest with
    | [] => failure
    | ']' :: _ =>
      bump
      return withPending pending items
    | '[' :: after =>
      match posixClass? ('[' :: after) with
      | some (item, after) =>
        modify fun r => { r with rest := after }
        readBracketBody fuel pending (item :: items)
      | none =>
        let (negated, leading) ← readBracketOpening
        let set ← readBracketBody fuel none leading.reverse
        readBracketBody fuel pending (.bracket negated set :: items)
    | '&' :: '&' :: _ => bump; bump; readBracketBody fuel (some (.inter, withPending pending items)) []
    | '-' :: '-' :: _ => bump; bump; readBracketBody fuel (some (.diff, withPending pending items)) []
    | '~' :: '~' :: _ =>
      bump
      bump
      readBracketBody fuel (some (.symmDiff, withPending pending items)) []
    | _ =>
      let item ← readClassRange
      readBracketBody fuel pending (item :: items)

def readBracket : Read Syntax := do
  let (negated, leading) ← readBracketOpening
  return .bracket negated (← readBracketBody ((← get).rest.length + 1) none leading.reverse)

def flagNamed? : Char → Option Flag
  | 'i' => some .ignoreCase
  | 'm' => some .multiLine
  | 's' => some .dotAll
  | 'U' => some .swapGreed
  | 'u' => some .unicode
  | 'R' => some .crlf
  | 'x' => some .ignoreSpace
  | _ => none

/-- Flags up to a colon or a closing parenthesis. No flag may be named twice, at most one hyphen may
be used, and a flag must follow it. -/
def readFlags (seen : FlagChange) (on dangling : Bool) :
    List Char → Option (FlagChange × Char × List Char)
  | [] => none
  | c :: rest =>
    if c == ':' || c == ')' then
      if dangling then none else some (seen.reverse, c, rest)
    else if c == '-' then if on then readFlags seen false true rest else none
    else
      match flagNamed? c with
      | some flag =>
        if seen.any fun (f, _) => f == flag then none
        else readFlags ((flag, on) :: seen) on false rest
      | none => none

def isGroupNameChar (first : Bool) (c : Char) : Bool :=
  if first then c == '_' || Unicode.isAlphabetic c
  else c == '_' || c == '.' || c == '[' || c == ']' || Unicode.isAlphanumeric c

/-- A group's name up to its closing angle bracket. -/
def readGroupName : Read Unit := do
  let (name, after) := (← rest).span (· != '>')
  guard (!after.isEmpty && !name.isEmpty)
  guard (name.zipIdx.all fun (c, i) => isGroupNameChar (i == 0) c)
  guard !(← get).names.contains name
  modify fun r => { r with rest := after.drop 1, names := name :: r.names }

inductive GroupOpening
  | flags (change : FlagChange)
  | group (kind : GroupKind)

def nextCapture : Read GroupKind := do
  modify fun r => { r with groups := r.groups + 1 }
  return .capture (← get).groups

/-- The start of a group, from its parenthesis on, or a change of flags in parentheses. -/
def readGroupOpening : Read GroupOpening := do
  step
  match ← rest with
  | '?' :: '=' :: _ | '?' :: '!' :: _ | '?' :: '<' :: '=' :: _ | '?' :: '<' :: '!' :: _ => failure
  | '?' :: 'P' :: '<' :: after | '?' :: '<' :: after =>
    let kind ← nextCapture
    modify fun r => { r with rest := after }
    readGroupName
    return .group kind
  | '?' :: after =>
    let (change, stop, after) ← readFlags [] true false after
    modify fun r => { r with rest := after }
    if stop == ')' then
      guard !change.isEmpty
      return .flags change
    else return .group (.plain change)
  | _ => return .group (← nextCapture)

def applySpaceFlag (change : FlagChange) : Read Unit :=
  modify fun r => { r with skipBlanks := (change.value? .ignoreSpace).getD r.skipBlanks }

/-- The last part, which a repetition sign applies to. -/
def repeatable? : List Syntax → Option (Syntax × List Syntax)
  | [] | .empty :: _ | .flags _ :: _ => none
  | part :: parts => some (part, parts)

def readLazy : Read Bool := do
  if (← current?) == some '?' then
    bump
    return true
  return false

/-- A count, with blanks around it. -/
def readCount? : Read (Option Nat) := do
  let _ ← collect Unicode.isWhiteSpace bump
  let digits ← collect Char.isDigit step
  let _ ← collect Unicode.isWhiteSpace step
  if digits.isEmpty then return none
  let n := digits.foldl (fun n c => n * 10 + (c.toNat - 48)) 0
  guard (n < 0x100000000)
  return some n

/-- A counted repetition, from its opening brace to its closing one. -/
def readBounds : Read (Nat × Option Nat) := do
  step
  let _ ← current
  let least? ← readCount?
  let range ← (do
    if (← current) == ',' then
      step
      let least ← least?
      if (← current) == '\x7d' then return (least, none)
      let most ← (← readCount?)
      return (least, some most)
    else
      let least ← least?
      return (least, some least))
  expect '\x7d'
  step
  return range

/-- Reads up to a closing parenthesis or the end: the finished branches and the parts of the branch
being read are held last first. -/
def readBranches : Nat → List Syntax → List Syntax → Read Syntax
  | 0, _, _ => failure
  | fuel + 1, branches, parts => do
    blanks
    let uncounted := fun (counts : Counts) => do
      let (part, parts) ← repeatable? parts
      bump
      let isLazy ← readLazy
      readBranches fuel branches (Syntax.repetition counts (!isLazy) part :: parts)
    match ← rest with
    | [] | ')' :: _ =>
      return Syntax.ofBranches (Syntax.ofParts parts.reverse :: branches).reverse
    | '|' :: _ =>
      bump
      readBranches fuel (Syntax.ofParts parts.reverse :: branches) []
    | '(' :: _ =>
      match ← readGroupOpening with
      | .flags change =>
        applySpaceFlag change
        readBranches fuel branches (.flags change :: parts)
      | .group kind =>
        let outside := (← get).skipBlanks
        if let .plain change := kind then applySpaceFlag change
        let body ← readBranches fuel [] []
        expect ')'
        modify fun r => { r with skipBlanks := outside }
        bump
        readBranches fuel branches (.group kind body :: parts)
    | '[' :: _ =>
      let bracket ← readBracket
      readBranches fuel branches (bracket :: parts)
    | '?' :: _ => uncounted ⟨0, some 1, by simp⟩
    | '*' :: _ => uncounted ⟨0, none, by simp⟩
    | '+' :: _ => uncounted ⟨1, none, by simp⟩
    | '\x7b' :: _ =>
      let (part, parts) ← repeatable? parts
      let (least, most) ← readBounds
      let isLazy ← readLazy
      if ordered : ∀ m ∈ most, least ≤ m then
        let counts := ⟨least, most, ordered⟩
        readBranches fuel branches (Syntax.repetition counts (!isLazy) part :: parts)
      else failure
    | _ =>
      let part ← readPrimitive
      readBranches fuel branches (part.toSyntax :: parts)

/-- The expression a text spells, if it spells one that is not nested too deeply. -/
def parse? (text : List Char) : Option Syntax := do
  let (tree, reader) ← (readBranches (text.length + 1) [] []).run { rest := text }
  guard reader.rest.isEmpty
  guard (tree.depth ≤ Syntax.depthLimit)
  return tree

end Triage.Regex
