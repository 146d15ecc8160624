import Triage.Charset
import Triage.Text.Utf16

/-!
The encodings that patterns are searched in.
-/

namespace Triage

inductive Encoding
  | ascii
  | utf8
  | utf16 (order : Utf16.Order)
  | other (set : Charset)
deriving DecidableEq, Repr

namespace Encoding

def ofCharset : Charset → Encoding
  | .utf16 bigEndian => .utf16 (if bigEndian then .big else .little)
  | set => .other set

/-- The encoding that a rule's label names. Under some labels, those of the first four lines, ASCII and
the Unicode forms are encodings of their own; all other labels are those of character sets. -/
def labelled? (label : String) : Option Encoding :=
  match String.ofList (label.toList.map Char.toUpper) with
  | "ASCII" | "US-ASCII" => some .ascii
  | "UTF-8" | "UTF8" => some .utf8
  | "UTF-16" | "UTF-16LE" | "UTF16LE" => some (.utf16 .little)
  | "UTF-16BE" | "UTF16BE" => some (.utf16 .big)
  | _ => (Charset.labelled? label.toList).map ofCharset

def name : Encoding → String
  | .ascii => "ASCII"
  | .utf8 => "UTF-8"
  | .utf16 .little => "UTF-16LE"
  | .utf16 .big => "UTF-16BE"
  | .other set => set.name

/-- The text's bytes, unless it has a character that the encoding lacks. -/
def encode? (encoding : Encoding) (text : List Char) : Option (List UInt8) :=
  match encoding with
  | .ascii => if text.all Charset.isAscii then some (text.map fun c => c.toNat.toUInt8) else none
  | .utf8 => some (Utf8.encode text)
  | .utf16 order => some (Utf16.encode order text)
  | .other set => set.encode? text

end Encoding

end Triage
