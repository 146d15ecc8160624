import Triage.Pattern.Definition

/-!
Escapes in the text of patterns that are not expressions: `\zXY` is a raw byte, `\xXY` the character
of that number, `\n`, `\r`, `\t` and `\0` are control characters, and a backslash, a quote or an
operator stands for itself after a backslash.
-/

namespace Triage.Pattern

/-- An element of a literal pattern. -/
inductive Piece
  | char (c : Char)
  | byte (b : UInt8)
deriving DecidableEq, Repr

/-- The characters with a meaning of their own in expressions. -/
def operators : List Char := ['.', '*', '+', '?', '|', '(', ')', '[', ']', '\x7b', '\x7d', '^', '$']

def isOperator (c : Char) : Bool := operators.contains c

/-- The characters that have a meaning in a literal pattern after a backslash. -/
def isLiteralEscape (c : Char) : Bool :=
  ['z', 'x', 'n', 'r', 't', '0', '\\', '"'].contains c || isOperator c

/-- Whether a text is an expression: it has an operator that is not escaped, or an escape that
literal patterns lack. -/
def isExpression : List Char → Bool
  | [] => false
  | ['\\'] => false
  | '\\' :: c :: rest => !isLiteralEscape c || isExpression rest
  | c :: rest => isOperator c || isExpression rest

def digitValue? (c : Char) : Option Nat :=
  if '0' ≤ c ∧ c ≤ '9' then some (c.toNat - 48)
  else if 'a' ≤ c ∧ c ≤ 'f' then some (c.toNat - 87)
  else if 'A' ≤ c ∧ c ≤ 'F' then some (c.toNat - 55)
  else none

/-- The number two hexadecimal digits spell. -/
def hexPair? (high low : Char) : Option Nat := do
  return (← digitValue? high) * 16 + (← digitValue? low)

/-- The pieces of a text whose only escapes are the backslash's and the quote's. -/
def fixedPieces : List Char → Except EscapeFault (List Piece)
  | [] => .ok []
  | ['\\'] => .error .trailingBackslash
  | '\\' :: c :: rest => do
    let pieces ← fixedPieces rest
    return if c = '\\' ∨ c = '"' then .char c :: pieces else .char '\\' :: .char c :: pieces
  | c :: rest => return .char c :: (← fixedPieces rest)

/-- The pieces of a text with escapes. -/
def escapedPieces : List Char → Except EscapeFault (List Piece)
  | [] => .ok []
  | ['\\'] => .error .trailingBackslash
  | '\\' :: 'z' :: high :: low :: rest =>
    match hexPair? high low with
    | some n => return .byte n.toUInt8 :: (← escapedPieces rest)
    | none => .error .hexDigits
  | '\\' :: 'x' :: high :: low :: rest =>
    match hexPair? high low with
    | some n => return .char (Char.ofNat n) :: (← escapedPieces rest)
    | none => .error .hexDigits
  | '\\' :: 'n' :: rest => return .char '\n' :: (← escapedPieces rest)
  | '\\' :: 'r' :: rest => return .char '\r' :: (← escapedPieces rest)
  | '\\' :: 't' :: rest => return .char '\t' :: (← escapedPieces rest)
  | '\\' :: '0' :: rest => return .char '\x00' :: (← escapedPieces rest)
  | '\\' :: c :: rest =>
    if c = 'z' ∨ c = 'x' then .error .hexDigits
    else if c = '\\' ∨ c = '"' ∨ isOperator c then return .char c :: (← escapedPieces rest)
    else .error (.unknown c)
  | c :: rest => return .char c :: (← escapedPieces rest)

/-- The pieces of a literal pattern's text. -/
def pieces (fixed : Bool) (text : List Char) : Except EscapeFault (List Piece) :=
  if fixed then fixedPieces text else escapedPieces text

end Triage.Pattern
