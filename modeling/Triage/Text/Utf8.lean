/-!
UTF-8 read one byte at a time. A byte either opens a character, continues one, or is refused; the
bounds kept for the next byte exclude overlong forms, surrogates and numbers past U+10FFFF.
-/

namespace Triage.Utf8

/-- A character whose last bytes are still to come. -/
structure Partial where
  owed : Nat
  code : Nat
  low : UInt8
  high : UInt8
deriving DecidableEq, Hashable, Repr

inductive Progress
  | refused
  | more (rest : Partial)
  | complete (code : Nat)
deriving DecidableEq, Repr

def opening (b : UInt8) : Progress :=
  if b < 0x80 then .complete b.toNat
  else if b < 0xC2 then .refused
  else if b < 0xE0 then .more ⟨1, b.toNat - 0xC0, 0x80, 0xBF⟩
  else if b < 0xF0 then
    .more ⟨2, b.toNat - 0xE0, if b = 0xE0 then 0xA0 else 0x80, if b = 0xED then 0x9F else 0xBF⟩
  else if b < 0xF5 then
    .more ⟨3, b.toNat - 0xF0, if b = 0xF0 then 0x90 else 0x80, if b = 0xF4 then 0x8F else 0xBF⟩
  else .refused

def Partial.next (p : Partial) (b : UInt8) : Progress :=
  if p.low ≤ b ∧ b ≤ p.high then
    let code := p.code * 64 + (b.toNat - 0x80)
    if p.owed ≤ 1 then .complete code else .more ⟨p.owed - 1, code, 0x80, 0xBF⟩
  else .refused

def Partial.finish? (p : Partial) : List UInt8 → Option (Nat × List UInt8)
  | [] => none
  | b :: rest =>
    match p.next b with
    | .refused => none
    | .more p => p.finish? rest
    | .complete code => some (code, rest)

/-- The code point that starts the bytes, and what follows it. -/
def first? : List UInt8 → Option (Nat × List UInt8)
  | [] => none
  | b :: rest =>
    match opening b with
    | .refused => none
    | .more p => p.finish? rest
    | .complete code => some (code, rest)

def isContinuation (b : UInt8) : Bool := 0x80 ≤ b && b < 0xC0

/-- The code point read from the nearest byte, at most four back, that does not continue another.
The bytes are given last first, and bytes after the code point that is read do not count. -/
def last? (behind : List UInt8) : Option Nat :=
  let trailing := ((behind.take 3).takeWhile isContinuation).length
  (first? (behind.take (trailing + 1)).reverse).map (·.1)

def decodeFrom (state : Option Partial) (acc : List Char) : List UInt8 → Option (List Char)
  | [] => if state.isNone then some acc.reverse else none
  | b :: rest =>
    match (match state with | none => opening b | some p => p.next b) with
    | .refused => none
    | .more p => decodeFrom (some p) acc rest
    | .complete code => decodeFrom none (Char.ofNat code :: acc) rest

/-- The text the bytes spell, if they are UTF-8 throughout. -/
def decode? (bytes : List UInt8) : Option (List Char) := decodeFrom none [] bytes

def encode (text : List Char) : List UInt8 := text.flatMap String.utf8EncodeChar

/-- How many bytes a code point takes. -/
def width (code : Nat) : Nat :=
  if code < 0x80 then 1 else if code < 0x800 then 2 else if code < 0x10000 then 3 else 4

end Triage.Utf8
