import Triage.Token
import Triage.Unicode.CharSet

/-!
Reading tokens. A text is first cut into pieces that lose nothing: blanks, comments and tokens with
their quotes. The pieces are then located, each piece starting where the text before it ends.
-/

namespace Triage

inductive LexFault
  | character
  | bang
  | slash
  | unterminatedString
  | unterminatedComment
  | equalAfterEncodings
  | encodingName
deriving DecidableEq, Repr

def LexFault.message : LexFault → String
  | character => "Unexpected input character"
  | bang => "Unexpected input character: !"
  | slash => "Unexpected input character: /"
  | unterminatedString => "Unterminated string"
  | unterminatedComment => "Unterminated multi-line comment"
  | equalAfterEncodings => "Expected = after encodings"
  | encodingName => "Expected encoding name"

structure LexError where
  fault : LexFault
  position : Position
deriving DecidableEq, Repr

def LexError.message (e : LexError) : String :=
  e.fault.message ++ " at " ++ e.position.render

namespace Lexer

inductive Piece
  | blank (text : List Char)
  | comment (text : List Char)
  | token (kind : TokenKind) (text : List Char)
  | quoted (text : List Char)
deriving DecidableEq, Repr

/-- The characters that the piece was cut from. -/
def Piece.source : Piece → List Char
  | .blank text | .comment text | .token _ text => text
  | .quoted text => '"' :: text ++ ['"']

/-- What the text ahead is read as. An encoding list follows its keyword and holds names that are
no identifiers. -/
inductive Mode
  | plain
  | encodingsEqual
  | encodingName
deriving DecidableEq, Repr

inductive Outcome
  | next (mode : Mode)
  | fault (f : LexFault) (read : List Char)
deriving DecidableEq, Repr

/-- One step: the pieces read, the text after them and how to go on. At a fault `read` are the
characters that were looked at in vain. -/
structure Step where
  pieces : List Piece
  rest : List Char
  outcome : Outcome
deriving DecidableEq, Repr

def isBlank (c : Char) : Bool := c = ' ' || c = '\t' || c = '\r' || c = '\n'

def isDigit (c : Char) : Bool := '0' ≤ c && c ≤ '9'

def startsIdentifier (c : Char) : Bool :=
  ('a' ≤ c && c ≤ 'z') || ('A' ≤ c && c ≤ 'Z') || c = '_'

def continuesIdentifier (c : Char) : Bool := startsIdentifier c || isDigit c

def continuesEncoding (c : Char) : Bool :=
  !(Unicode.isWhiteSpace c || c = ',' || c = '}' || c = ')')

/-- The text of a string and what follows its closing quote. A backslash protects the character
after it. -/
def closeString? : List Char → Option (List Char × List Char)
  | [] => none
  | '"' :: rest => some ([], rest)
  | '\\' :: c :: rest => (closeString? rest).map fun (text, rest) => ('\\' :: c :: text, rest)
  | c :: rest => (closeString? rest).map fun (text, rest) => (c :: text, rest)

/-- A comment up to its closing mark, with the mark, and what follows it. -/
def closeComment? : List Char → Option (List Char × List Char)
  | [] => none
  | '*' :: '/' :: rest => some (['*', '/'], rest)
  | c :: rest => (closeComment? rest).map fun (text, rest) => (c :: text, rest)

def token (kind : TokenKind) (text rest : List Char) : Step :=
  ⟨[.token kind text], rest, .next .plain⟩

/-- A token that is one character, or two when an equal sign follows. -/
def orEqual (one two : TokenKind) (c : Char) : List Char → Step
  | '=' :: rest => token two [c, '='] rest
  | rest => token one [c] rest

def word (text rest : List Char) : Step :=
  match Keyword.spelled? (String.ofList text) with
  | some .encodings => ⟨[.token (.keyword .encodings) text], rest, .next .encodingsEqual⟩
  | some k => token (.keyword k) text rest
  | none => token .identifier text rest

def plainStep (c : Char) (rest : List Char) : Step :=
  if isBlank c then ⟨[.blank [c]], rest, .next .plain⟩
  else if isDigit c then token .number (c :: rest.takeWhile isDigit) (rest.dropWhile isDigit)
  else if startsIdentifier c then
    word (c :: rest.takeWhile continuesIdentifier) (rest.dropWhile continuesIdentifier)
  else
    match c with
    | '{' => token .openBrace [c] rest
    | '}' => token .closeBrace [c] rest
    | '(' => token .openParen [c] rest
    | ')' => token .closeParen [c] rest
    | ',' => token .comma [c] rest
    | ':' => token .colon [c] rest
    | '=' => orEqual .equal .equalEqual c rest
    | '<' => orEqual .less .lessEqual c rest
    | '>' => orEqual .greater .greaterEqual c rest
    | '!' =>
      match rest with
      | '=' :: rest => token .notEqual ['!', '='] rest
      | rest => ⟨[], c :: rest, .fault .bang [c]⟩
    | '/' =>
      match rest with
      | '/' :: rest =>
        ⟨[.comment ('/' :: '/' :: rest.takeWhile (· != '\n'))], rest.dropWhile (· != '\n'),
          .next .plain⟩
      | '*' :: rest =>
        match closeComment? rest with
        | some (text, after) => ⟨[.comment ('/' :: '*' :: text)], after, .next .plain⟩
        | none => ⟨[], c :: '*' :: rest, .fault .unterminatedComment (c :: '*' :: rest)⟩
      | rest => ⟨[], c :: rest, .fault .slash [c]⟩
    | '"' =>
      match closeString? rest with
      | some (text, after) => ⟨[.quoted text], after, .next .plain⟩
      | none => ⟨[], c :: rest, .fault .unterminatedString (c :: rest)⟩
    | _ => ⟨[], c :: rest, .fault .character [c]⟩

def blanks (text : List Char) : List Piece := if text.isEmpty then [] else [.blank text]

def equalStep (text : List Char) : Step :=
  let gap := blanks (text.takeWhile Unicode.isWhiteSpace)
  match text.dropWhile Unicode.isWhiteSpace with
  | '=' :: rest => ⟨gap ++ [.token .equal ['=']], rest, .next .encodingName⟩
  | rest => ⟨gap, rest, .fault .equalAfterEncodings []⟩

/-- A name, and the comma behind it if one follows. Blanks before a comma belong to the list, other
blanks to the text after it. -/
def nameStep (text : List Char) : Step :=
  let gap := blanks (text.takeWhile Unicode.isWhiteSpace)
  let text := text.dropWhile Unicode.isWhiteSpace
  let name := text.takeWhile continuesEncoding
  let rest := text.dropWhile continuesEncoding
  if name.isEmpty then ⟨gap, text, .fault .encodingName []⟩
  else
    let pieces := gap ++ [.token .identifier name]
    match rest.dropWhile Unicode.isWhiteSpace with
    | ',' :: after =>
      ⟨pieces ++ blanks (rest.takeWhile Unicode.isWhiteSpace) ++ [.token .comma [',']], after,
        .next .encodingName⟩
    | _ => ⟨pieces, rest, .next .plain⟩

/-- The step at a text, unless the text ends here as it may. -/
def step? : Mode → List Char → Option Step
  | .plain, [] => none
  | .plain, c :: rest => some (plainStep c rest)
  | .encodingsEqual, text => some (equalStep text)
  | .encodingName, text => some (nameStep text)

/-- A fault with the characters that were looked at in vain. -/
abbrev Failure := LexFault × List Char

/-- The pieces of a text up to its end or the first fault. Every step that goes on has read
something, so no more steps than characters are needed. -/
def piecesFrom : Nat → Mode → List Char → List Piece × Option Failure
  | 0, _, _ => ([], none)
  | fuel + 1, mode, text =>
    match step? mode text with
    | none => ([], none)
    | some ⟨pieces, rest, .next mode⟩ =>
      let (more, failure) := piecesFrom fuel mode rest
      (pieces ++ more, failure)
    | some ⟨pieces, _, .fault f read⟩ => (pieces, some (f, read))

def pieces (text : List Char) : List Piece × Option Failure :=
  piecesFrom (text.length + 1) .plain text

/-- A place in a text: the bytes before it and its line and column. -/
structure Place where
  offset : Nat := 0
  position : Position := {}
deriving DecidableEq, Repr

def byteSize (text : List Char) : Nat := (text.map Char.utf8Size).foldr (· + ·) 0

def Place.afterAll (p : Place) (text : List Char) : Place :=
  ⟨p.offset + byteSize text, p.position.afterAll text⟩

def tokenAt (p : Place) : Piece → Option Token
  | .blank _ | .comment _ => none
  | .token kind text =>
    some ⟨kind, p.offset, p.offset + byteSize text, p.position, String.ofList text⟩
  | .quoted text =>
    some ⟨.string, p.offset + 1, p.offset + 1 + byteSize text, p.position, String.ofList text⟩

/-- The tokens among the pieces, the first of which stands at the place. -/
def locate (p : Place) : List Piece → List Token
  | [] => []
  | piece :: more => (tokenAt p piece).toList ++ locate (p.afterAll piece.source) more

def placeAfter (p : Place) (pieces : List Piece) : Place :=
  pieces.foldl (fun p piece => p.afterAll piece.source) p

/-- The indices of the `rule` keywords among the tokens of the pieces, noted as the tokens are made. The
first token has the given index. -/
def ruleIndices (index : Nat) : List Piece → List Nat
  | [] => []
  | .blank _ :: more | .comment _ :: more => ruleIndices index more
  | .token (.keyword .rule) _ :: more => index :: ruleIndices (index + 1) more
  | .token _ _ :: more | .quoted _ :: more => ruleIndices (index + 1) more

def endToken (p : Place) : Token := ⟨.endOfFile, p.offset, p.offset, p.position, ""⟩

end Lexer

/-- What reading a text gave: its tokens, ending with the end of file unless there is an error, the
indices of those that start a rule, and the position that reading reached. -/
structure Scan where
  tokens : List Token
  ruleStarts : List Nat
  reached : Position
  error : Option LexError
deriving Repr

def scan (text : String) : Scan :=
  let (pieces, failure) := Lexer.pieces text.toList
  let tokens := Lexer.locate {} pieces
  let starts := Lexer.ruleIndices 0 pieces
  let stop := Lexer.placeAfter {} pieces
  match failure with
  | none => ⟨tokens ++ [Lexer.endToken stop], starts, stop.position, none⟩
  | some (fault, read) => ⟨tokens, starts, stop.position.afterAll read, some ⟨fault, stop.position⟩⟩

/-- The tokens of a text, if it has no fault. -/
def tokens (text : String) : Except LexError (List Token) :=
  let s := scan text
  match s.error with
  | none => .ok s.tokens
  | some e => .error e

/-- The positions in a token list where a rule starts. -/
def ruleStarts (tokens : List Token) : List Nat :=
  tokens.zipIdx.filterMap fun (t, i) => if t.kind = .keyword .rule then some i else none

end Triage
