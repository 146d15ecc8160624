/-!
Pattern definitions as rules state them, and what can be wrong with one.
-/

namespace Triage

/-- A text to search for in one encoding. With `fixed` the text has no escapes but `\\` and `\"`. -/
structure PatternDef where
  text : String
  nocase : Bool := false
  fixed : Bool := false
  encoding : String := "ASCII"
deriving DecidableEq, Repr

/-- What makes an escape malformed. -/
inductive EscapeFault
  | trailingBackslash
  | hexDigits
  | unknown (c : Char)
  | rawByteInWide
  | rawByteInClass
deriving DecidableEq, Repr

def EscapeFault.message : EscapeFault → String
  | .trailingBackslash => "trailing backslash"
  | .hexDigits => "expected two hex digits"
  | .unknown c => "unknown escape \\" ++ c.toString
  | .rawByteInWide => "raw bytes are not supported in UTF-16 expressions"
  | .rawByteInClass => "raw bytes are not supported inside a class"

/-- Why an expression cannot be searched for. -/
inductive ExpressionFault
  | notAnExpression
  | tooLarge
  | anchor
  | wideWordEdge
  | wideRawBytes
deriving DecidableEq, Repr

def ExpressionFault.message : ExpressionFault → String
  | .notAnExpression => "regex parse error"
  | .tooLarge => "Compiled regex exceeds size limit of 10485760 bytes."
  | .anchor => "anchors are not supported in streaming search"
  | .wideWordEdge => "word boundaries are not supported in UTF-16 expressions"
  | .wideRawBytes => "raw bytes are not supported in UTF-16 expressions"

inductive PatternError
  | regex (text : String) (fault : ExpressionFault)
  | regexEncoding (text encoding : String)
  | emptyMatch (text : String)
  | invalidEscape (text : String) (fault : EscapeFault)
  | unknownEncoding (label : String)
  | unencodable (text encoding : String)
  | empty
deriving DecidableEq, Repr

def PatternError.message : PatternError → String
  | .regex text fault => "Invalid regular expression \"" ++ text ++ "\": " ++ fault.message
  | .regexEncoding text encoding =>
    "Regular expression \"" ++ text ++ "\" cannot be searched as " ++ encoding
  | .emptyMatch text => "Regular expression \"" ++ text ++ "\" matches the empty string"
  | .invalidEscape text fault => "Invalid escape in pattern \"" ++ text ++ "\": " ++ fault.message
  | .unknownEncoding label => "Unknown encoding " ++ label
  | .unencodable text encoding => "Pattern \"" ++ text ++ "\" cannot be encoded as " ++ encoding
  | .empty => "Empty pattern"

end Triage
