import Triage.Pattern.Encoding
import Triage.Pattern.Escape
import Triage.Regex.Automaton
import Triage.Regex.Elaborate
import Triage.Regex.Parser
import Triage.Regex.Spelling
import Triage.Regex.Widen

/-!
Compiled patterns: a literal is the bytes to look for, an expression a regular expression over
bytes that consumes at least one byte wherever it matches.
-/

namespace Triage

structure LiteralPattern where
  bytes : List UInt8
  nocase : Bool
deriving DecidableEq, Repr

/-- The expression to search for, with the least and the greatest length of what the pattern
matches. -/
structure RegexPattern where
  expr : Regex.Expr
  shortest : Nat
  longest : Option Nat
deriving DecidableEq

inductive CompiledPattern
  | literal (p : LiteralPattern)
  | regex (p : RegexPattern)
deriving DecidableEq

namespace Pattern

/-- What keeps an expression from holding a raw byte. `depth` counts the brackets that are open. -/
def rawByteFault? (wide : Bool) (depth : Nat) : Option EscapeFault :=
  if wide then some .rawByteInWide
  else if depth > 0 then some .rawByteInClass
  else none

/-- Spells out the escapes that expressions lack: `\zXY` is a raw byte, `\"` a quote and `\0` a
null character. -/
def spellEscapesFrom (wide : Bool) (depth : Nat) : List Char → Except EscapeFault (List Char)
  | [] => .ok []
  | ['\\'] => .error .trailingBackslash
  | '\\' :: 'z' :: rest =>
    match rawByteFault? wide depth with
    | some fault => .error fault
    | none =>
      match rest with
      | high :: low :: rest =>
        if (hexPair? high low).isSome then do
          let rest ← spellEscapesFrom wide depth rest
          return "(?-u:\\x".toList ++ high :: low :: ')' :: rest
        else .error .hexDigits
      | _ => .error .hexDigits
  | '\\' :: '"' :: rest => return '"' :: (← spellEscapesFrom wide depth rest)
  | '\\' :: '0' :: rest => return "\\x00".toList ++ (← spellEscapesFrom wide depth rest)
  | '\\' :: c :: rest => return '\\' :: c :: (← spellEscapesFrom wide depth rest)
  | '[' :: rest => return '[' :: (← spellEscapesFrom wide (depth + 1) rest)
  | ']' :: rest => return ']' :: (← spellEscapesFrom wide (depth - 1) rest)
  | c :: rest => return c :: (← spellEscapesFrom wide depth rest)

def spellEscapes (wide : Bool) (text : List Char) : Except EscapeFault (List Char) :=
  spellEscapesFrom wide 0 text

/-- The expression that a text spells, its escapes spelled out. -/
def expressionOf? (unicode nocase : Bool) (text : List Char) : Option Regex.Expr := do
  let tree ← Regex.parse? text
  let (expr, _) ← tree.elaborate? { unicode, ignoreCase := nocase }
  return expr

/-- What keeps an expression from being searched for in a stream. -/
def lookFault? (wide : Bool) (expr : Regex.Expr) : Option ExpressionFault :=
  if expr.looks.any Regex.Look.isAnchor then some .anchor
  else if wide && !expr.looks.isEmpty then some .wideWordEdge
  else none

/-- An expression's byte order: none, or that of UTF-16. -/
def widenIn (order : Option Utf16.Order) (expr : Regex.Expr) : Except ExpressionFault Regex.Expr :=
  match order with
  | none => .ok expr
  | some order => (expr.widen order).mapError fun | .rawBytes => .wideRawBytes

/-- The expression that is searched for: the one that the text of `expr` spells, if that text is not
nested too deeply. -/
def searched? (unicode : Bool) (expr : Regex.Expr) : Option Regex.Expr :=
  if expr.spelledDepth ≤ Regex.Syntax.depthLimit then
    if unicode then some expr.respelled else expr.respelled.inAscii?
  else none

def compileExpression (d : PatternDef) (unicode : Bool) (order : Option Utf16.Order) :
    Except PatternError RegexPattern := do
  let wide := order.isSome
  let text ← (spellEscapes wide d.text.toList).mapError (.invalidEscape d.text)
  let some expr := expressionOf? unicode d.nocase text
    | throw (.regex d.text .notAnExpression)
  if let some fault := lookFault? wide expr then throw (.regex d.text fault)
  let expr ← (widenIn order expr).mapError (.regex d.text)
  let shortest := expr.shortest?.getD 0
  if shortest = 0 then throw (.emptyMatch d.text)
  let some searched := searched? unicode expr
    | throw (.regex d.text .notAnExpression)
  if !searched.fits then throw (.regex d.text .tooLarge)
  return ⟨searched, shortest, expr.longest?⟩

def compileRegex (d : PatternDef) (encoding : Encoding) : Except PatternError RegexPattern :=
  match encoding with
  | .ascii =>
    if d.text.toList.all Charset.isAscii then compileExpression d false none
    else .error (.unencodable d.text encoding.name)
  | .utf8 => compileExpression d true none
  | .utf16 order => compileExpression d true (some order)
  | .other set => .error (.regexEncoding d.text set.name)

/-- The pieces' bytes. Characters between raw bytes are encoded together; `run` holds those read
since the last raw byte, last first. -/
def encodePieces (encoding : Encoding) (run : List Char) :
    List Piece → Except PatternError (List UInt8)
  | [] => encodeRun run
  | .char c :: rest => encodePieces encoding (c :: run) rest
  | .byte b :: rest => return (← encodeRun run) ++ b :: (← encodePieces encoding [] rest)
where
  encodeRun (run : List Char) : Except PatternError (List UInt8) :=
    if run.isEmpty then .ok []
    else
      match encoding.encode? run.reverse with
      | some bytes => .ok bytes
      | none => .error (.unencodable (String.ofList run.reverse) encoding.name)

def compileLiteral (d : PatternDef) (encoding : Encoding) : Except PatternError LiteralPattern := do
  let pieces ← (pieces d.fixed d.text.toList).mapError (.invalidEscape d.text)
  let bytes ← encodePieces encoding [] pieces
  if bytes.isEmpty then throw .empty
  return ⟨bytes, d.nocase⟩

end Pattern

def PatternDef.compile (d : PatternDef) : Except PatternError CompiledPattern :=
  match Encoding.labelled? d.encoding with
  | none => .error (.unknownEncoding d.encoding)
  | some encoding =>
    if d.text.isEmpty then .error .empty
    else if !d.fixed && Pattern.isExpression d.text.toList then
      (Pattern.compileRegex d encoding).map .regex
    else (Pattern.compileLiteral d encoding).map .literal

end Triage
