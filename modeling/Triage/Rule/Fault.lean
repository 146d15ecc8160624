import Triage.Pattern.Definition
import Triage.Predicate
import Triage.Token

/-!
What can be wrong with a rule text.
-/

namespace Triage

/-- A text is refused because a token is missing, or because what it says is not allowed. -/
inductive ParseFault
  | expected (what : String)
  | unterminatedHex
  | noHashType
  | duplicateHash
  | duplicatePattern (name : String)
  | unknownEncoding (name : String)
  | pattern (e : PatternError)
  | hexDigit
  | oddHexDigits
  | emptyHex
  | nestedTooDeeply
  | operator (op : CompareOp) (property : String)
  | numberOutOfRange
  | argumentCount (function : HitFunction)
  | comparisonMissing (function : HitFunction)
  | comparisonUnexpected (function : HitFunction)
  | hitIndex
  | patternName
  | unknownPattern (name : String)
deriving DecidableEq, Repr

namespace ParseFault

/-- Whether the text breaks the grammar, and not a rule on what it may say. -/
def isSyntax : ParseFault → Bool
  | expected _ | unterminatedHex => true
  | _ => false

def message : ParseFault → String
  | expected what => "Expected " ++ what
  | unterminatedHex => "Unterminated hex string"
  | noHashType => "Expected hash type"
  | duplicateHash => "Duplicate hash type"
  | duplicatePattern name => "Duplicate pattern name " ++ name
  | unknownEncoding name => "Unknown encoding " ++ name
  | pattern e => e.message
  | hexDigit => "Invalid hex digit"
  | oddHexDigits => "Odd number of hex digits"
  | emptyHex => "Empty hex string"
  | nestedTooDeeply => "Expression nested too deeply"
  | operator op property => "Operator " ++ op.spelling ++ " is not supported for " ++ property
  | numberOutOfRange => "Number out of range"
  | argumentCount f => "Wrong number of arguments to " ++ f.name
  | comparisonMissing f => "Expected comparison after " ++ f.name
  | comparisonUnexpected f => "Unexpected comparison after " ++ f.name
  | hitIndex => "Expected hit index"
  | patternName => "Expected pattern name"
  | unknownPattern name => "Unknown pattern " ++ name

end ParseFault

structure ParseError where
  fault : ParseFault
  position : Position
deriving DecidableEq, Repr

def ParseError.message (e : ParseError) : String :=
  e.fault.message ++ " at " ++ e.position.render

end Triage
