import Triage.Rule.Fault

/-!
Reading a token list from the left. A reader keeps its place when it fails, so that it can be asked
again; at the end of the file it stays.
-/

namespace Triage

/-- Where reading stands. `index` counts the tokens before those unread, `finish` stands for all
tokens behind them, `nesting` counts the open parentheses and `declared` are the names of the
patterns that the rule has so far. -/
structure ReaderState where
  index : Nat := 0
  unread : List Token
  finish : Token
  nesting : Nat := 0
  declared : List String := []
deriving DecidableEq, Repr

abbrev Reader := ExceptT ParseError (StateM ReaderState)

namespace ReaderState

/-- The state at the first of a text's tokens. When they do not end with the end of the file, it is
taken to stand where the last token does, behind all `size` bytes. -/
def start (size : Nat) (tokens : List Token) : ReaderState :=
  match tokens.getLast? with
  | some last =>
    if last.kind = .endOfFile then { unread := tokens.dropLast, finish := last }
    else { unread := tokens, finish := ⟨.endOfFile, size, size, last.position, ""⟩ }
  | none => { unread := [], finish := ⟨.endOfFile, size, size, {}, ""⟩ }

def peek (s : ReaderState) : Token := s.unread.headD s.finish

/-- Goes past a token, if one is left. -/
def skip (s : ReaderState) : ReaderState :=
  match s.unread with
  | [] => s
  | _ :: rest => { s with index := s.index + 1, unread := rest }

/-- Goes on to the next token that starts a rule, or to the end. -/
def toRule (s : ReaderState) : ReaderState :=
  let passed := s.unread.takeWhile fun t => t.kind ≠ .keyword .rule
  { s with index := s.index + passed.length, unread := s.unread.drop passed.length }

end ReaderState

namespace Reader

variable {α σ : Type}

def run (r : Reader α) (s : ReaderState) : Except ParseError α × ReaderState :=
  StateT.run (ExceptT.run r) s

def fail (fault : ParseFault) (position : Position) : Reader α := throw ⟨fault, position⟩

def peek : Reader Token := return (← get).peek

def advance : Reader Token := do
  let s ← get
  set s.skip
  return s.peek

def isNext (kind : TokenKind) : Reader Bool := return (← peek).kind = kind

/-- Takes the next token if it is of the kind. -/
def accept? (kind : TokenKind) : Reader (Option Token) := do
  if ← isNext kind then some <$> advance else return none

def accept (kind : TokenKind) : Reader Bool := return (← accept? kind).isSome

/-- Takes the next token, which has to be of one of the kinds. -/
def expectAny (kinds : List TokenKind) (what : String) : Reader Token := do
  let t ← peek
  if kinds.contains t.kind then advance else fail (.expected what) t.position

def expect (kind : TokenKind) (what : String) : Reader Token := expectAny [kind] what

def expectKeyword (k : Keyword) : Reader Token :=
  expect (.keyword k) (k.spelling ++ " keyword")

/-- The keyword of a section and its colon. -/
def heading (k : Keyword) : Reader Unit := do
  discard <| expectKeyword k
  discard <| expect .colon ("colon after " ++ k.spelling ++ " keyword")

def iterate (step : σ → Reader (Option σ)) : Nat → σ → Reader σ
  | 0, s => return s
  | fuel + 1, s => do
    match ← step s with
    | some s => iterate step fuel s
    | none => return s

/-- Repeats a step as long as it goes on. Each step that does takes a token. -/
def repeatStep (step : σ → Reader (Option σ)) (s : σ) : Reader σ := do
  iterate step ((← get).unread.length + 1) s

/-- One item, and another one after each comma. -/
def commaSeparated (item : σ → Reader σ) (s : σ) : Reader σ := do
  repeatStep (fun s => do if ← accept .comma then some <$> item s else return none) (← item s)

end Reader

end Triage
