import Triage.Processor
import Triage.Rule.Parser

/-!
What can go wrong with a scan as a whole.
-/

namespace Triage

/-- A rule text that was not read in full. -/
structure RuleError where
  source : String
  reason : String
deriving DecidableEq, Repr

def RuleError.message (e : RuleError) : String := e.source ++ ": " ++ e.reason

inductive ScanError
  | lex (e : LexError)
  | parse (e : ParseError)
  | rules (first : RuleError) (others : List RuleError)
  | pattern (e : PatternError)
  | process (e : ProcessError)
  | sink (e : SinkError)
  | config (e : ConfigError)
  | threadPool (reason : String)
  | io (reason : String)
deriving DecidableEq, Repr

def ScanError.missing (path : String) : ScanError := .io (path ++ " does not exist")

/-- A reason that stands behind another one. -/
def SinkError.causes : SinkError → List String
  | io reason | serialization reason => [reason]

def ProcessError.causes : ProcessError → List String
  | read _ reason => [reason]
  | sink e => e.message :: e.causes

def ConfigError.causes : ConfigError → List String
  | unreadable _ reason => [reason]
  | malformed => []
  | zero _ => []

namespace ScanError

def message : ScanError → String
  | lex e => "Lexer error: " ++ e.message
  | parse e => "Parse error: " ++ e.message
  | rules first others =>
    toString (others.length + 1) ++ " rule error(s), first: " ++ first.message
  | pattern e => "Pattern error: " ++ e.message
  | process e => "Processing error: " ++ e.message
  | sink e => "Sink error: " ++ e.message
  | config e => "Configuration error: " ++ e.message
  | threadPool reason => "Thread pool error: " ++ reason
  | io reason => "IO error: " ++ reason

/-- The reasons behind an error, each the cause of the one before. -/
def causes : ScanError → List String
  | lex e => [e.message]
  | parse e => [e.message]
  | pattern e => [e.message]
  | process e => e.message :: e.causes
  | sink e => e.message :: e.causes
  | config e => e.message :: e.causes
  | io reason => [reason]
  | rules _ _ | threadPool _ => []

end ScanError

end Triage
