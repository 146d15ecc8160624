import Triage.Decimal
import Triage.Text.Hex

/-!
JSON text without blanks. Values are written fragment by fragment, each fragment being what is handed
to a writer at once.
-/

namespace Triage

inductive JsonValue
  | null
  | number (n : Nat)
  | real (b : Binary)
  | text (s : String)
  | list (items : List JsonValue)
  | object (fields : List (String × JsonValue))
deriving Repr, Inhabited

namespace JsonValue

/-- The escape of a character that may not stand in a string. -/
def escape? (c : Char) : Option String :=
  match c with
  | '"' => some "\\\""
  | '\\' => some "\\\\"
  | '\n' => some "\\n"
  | '\r' => some "\\r"
  | '\t' => some "\\t"
  | '\x08' => some "\\b"
  | '\x0c' => some "\\f"
  | c => if c.toNat < 0x20 then some ("\\u00" ++ String.ofList (Hex.ofByte c.toNat.toUInt8)) else none

def runFragment (run : List Char) : List String :=
  if run.isEmpty then [] else [String.ofList run.reverse]

/-- Runs of plain characters, with escapes between them. `run` is the run being read, last first. -/
def contents (run : List Char) : List Char → List String
  | [] => runFragment run
  | c :: rest =>
    match escape? c with
    | none => contents (c :: run) rest
    | some e => runFragment run ++ e :: contents [] rest

def quoted (s : String) : List String := "\"" :: contents [] s.toList ++ ["\""]

mutual

def fragments : JsonValue → List String
  | null => ["null"]
  | number n => [toString n]
  | real b => [Decimal.shortest b]
  | text s => quoted s
  | list items => "[" :: itemFragments items ++ ["]"]
  | object fields => "\x7b" :: fieldFragments fields ++ ["\x7d"]

def itemFragments : List JsonValue → List String
  | [] => []
  | [v] => v.fragments
  | v :: rest => v.fragments ++ "," :: itemFragments rest

def fieldFragments : List (String × JsonValue) → List String
  | [] => []
  | [(k, v)] => quoted k ++ ":" :: v.fragments
  | (k, v) :: rest => quoted k ++ ":" :: v.fragments ++ "," :: fieldFragments rest

end

def render (v : JsonValue) : String := String.join v.fragments

end JsonValue

end Triage
