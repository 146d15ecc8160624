/-!
The tokens of rule texts and where they stand.
-/

namespace Triage

/-- A line and a column, both counted from one and in characters. -/
structure Position where
  line : Nat := 1
  column : Nat := 1
deriving DecidableEq, Repr, Inhabited

namespace Position

def after (p : Position) (c : Char) : Position :=
  if c = '\n' then ⟨p.line + 1, 1⟩ else ⟨p.line, p.column + 1⟩

def afterAll (p : Position) (text : List Char) : Position := text.foldl after p

def render (p : Position) : String :=
  "line " ++ toString p.line ++ " column " ++ toString p.column

end Position

inductive Keyword
  | rule | metaSection | fileMetadata | signature | grep | patterns | hash | condition
  | created | modified | filesize | filename | filepath
  | all | any | offset | count | countHasHits | length
  | md5 | sha1 | sha256 | blake3
  | encodings | nocase | fixed | and | or
deriving DecidableEq, Repr

namespace Keyword

def every : List Keyword :=
  [rule, metaSection, fileMetadata, signature, grep, patterns, hash, condition, created, modified,
    filesize, filename, filepath, all, any, offset, count, countHasHits, length, md5, sha1, sha256,
    blake3, encodings, nocase, fixed, and, or]

def spelling : Keyword → String
  | rule => "rule"
  | metaSection => "meta"
  | fileMetadata => "file_metadata"
  | signature => "signature"
  | grep => "grep"
  | patterns => "patterns"
  | hash => "hash"
  | condition => "condition"
  | created => "created"
  | modified => "modified"
  | filesize => "filesize"
  | filename => "filename"
  | filepath => "filepath"
  | all => "all"
  | any => "any"
  | offset => "offset"
  | count => "count"
  | countHasHits => "count_has_hits"
  | length => "length"
  | md5 => "md5"
  | sha1 => "sha1"
  | sha256 => "sha256"
  | blake3 => "blake3"
  | encodings => "encodings"
  | nocase => "nocase"
  | fixed => "fixed"
  | and => "and"
  | or => "or"

def spelled? (text : String) : Option Keyword := every.find? (·.spelling == text)

end Keyword

inductive TokenKind
  | openBrace | closeBrace | openParen | closeParen | comma | colon | equal
  | equalEqual | notEqual | less | lessEqual | greater | greaterEqual
  | identifier | string | number
  | keyword (k : Keyword)
  | endOfFile
deriving DecidableEq, Repr

namespace TokenKind

def isKeyword : TokenKind → Bool
  | keyword _ => true
  | _ => false

def isComparison : TokenKind → Bool
  | equalEqual | notEqual | less | lessEqual | greater | greaterEqual => true
  | _ => false

/-- The text of every token of the kind, when they all have the same. -/
def literal : TokenKind → String
  | openBrace => "\x7b"
  | closeBrace => "\x7d"
  | openParen => "("
  | closeParen => ")"
  | comma => ","
  | colon => ":"
  | equal => "="
  | equalEqual => "=="
  | notEqual => "!="
  | less => "<"
  | lessEqual => "<="
  | greater => ">"
  | greaterEqual => ">="
  | keyword k => k.spelling
  | identifier | string | number | endOfFile => ""

end TokenKind

/-- A token with the bytes it takes from `start` up to `stop`. A string's text and bytes lie between
its quotes, while its position is that of the opening quote. -/
structure Token where
  kind : TokenKind
  start : Nat
  stop : Nat
  position : Position
  text : String
deriving DecidableEq, Repr

def Token.size (t : Token) : Nat := t.stop - t.start

end Triage
