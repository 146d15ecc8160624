import Triage.Regex.Run
import Triage.Search.Program

/-!
Searching a stream that comes in chunks. Literals are reported as soon as their last byte is there;
expressions once so many bytes follow that no preferred match can still appear.
-/

namespace Triage

def foldCase (b : UInt8) : UInt8 := if 65 ≤ b && b ≤ 90 then b + 32 else b

namespace LiteralPattern

def equalByte (p : LiteralPattern) (a b : UInt8) : Bool :=
  if p.nocase then foldCase a == foldCase b else a == b

/-- Whether the text starts with the pattern. -/
def startsAt (p : LiteralPattern) : List UInt8 → List UInt8 → Bool
  | [], _ => true
  | _ :: _, [] => false
  | a :: as, b :: bs => p.equalByte a b && p.startsAt as bs

end LiteralPattern

namespace Search

/-- The hits of literals that start at the front of the text, which stands at `pos`. -/
def literalsAt (literals : List (LiteralPattern × Nat)) (pos : Nat) (text : List UInt8) :
    List Hit :=
  literals.filterMap fun (p, i) =>
    if p.startsAt p.bytes text then some ⟨pos, pos + p.bytes.length, i⟩ else none

/-- All hits of literals, overlapping ones too, in a text that stands at `pos`. -/
def literalHits (literals : List (LiteralPattern × Nat)) (pos : Nat) : List UInt8 → List Hit
  | [] => []
  | b :: rest => literalsAt literals pos (b :: rest) ++ literalHits literals (pos + 1) rest

/-- How many bytes stay for conditions that look back. -/
def lookBehind : Nat := 4

/-- What is kept of a stream between its chunks. `tail` are the last bytes, in which literals may
have begun. `pending` are the bytes from `base` on, in which expressions are still searched for, each
from its place in `resume` on. -/
structure State where
  offset : Nat := 0
  tail : List UInt8 := []
  pending : List UInt8 := []
  base : Nat := 0
  resume : List Nat := []
deriving DecidableEq, Repr

/-- The matches that start before `committed`, and where to search on. A match is never empty, so
the search moves on with each. -/
def matchesUntil (r : RegexPattern) (text : List UInt8) (committed : Nat) :
    Nat → Nat → List (Nat × Nat) × Nat
  | 0, pos => ([], pos)
  | fuel + 1, pos =>
    match r.expr.findBetween? text pos committed with
    | none => ([], pos)
    | some (start, stop) =>
      let (more, last) := matchesUntil r text committed fuel stop
      ((start, stop) :: more, last)

/-- The hits of one expression that start before `committed`, and the place in the stream where its
search resumes. -/
def regexHits (s : State) (committed : Nat) (r : RegexPattern × Nat) (resume : Nat) :
    List Hit × Nat :=
  let (spans, last) := matchesUntil r.1 s.pending committed committed (resume - s.base)
  (spans.map fun (start, stop) => ⟨s.base + start, s.base + stop, r.2⟩,
    s.base + max last committed)

/-- Searches for the expressions as far as `committed`, then drops the bytes that are done with. -/
def commit (p : Program) (s : State) (committed : Nat) : List Hit × State :=
  let regexes := p.regexes
  let resume :=
    if s.resume.length = regexes.length then s.resume else List.replicate regexes.length s.base
  let found := (regexes.zip resume).map fun (r, start) => regexHits s committed r start
  let dropped := committed - lookBehind
  (found.flatMap (·.1),
    { s with
      pending := s.pending.drop dropped
      base := s.base + dropped
      resume := found.map (·.2) })

/-- The literals that end in a chunk, and the bytes to keep. -/
def feedLiterals (p : Program) (s : State) (chunk : List UInt8) : List Hit × List UInt8 :=
  let literals := p.literals
  if literals.isEmpty then ([], s.tail)
  else
    let text := s.tail ++ chunk
    let hits := (literalHits literals (s.offset - s.tail.length) text).filter (s.offset < ·.stop)
    (hits, text.drop (text.length - min (p.literalLength - 1) text.length))

def feedRegexes (p : Program) (s : State) (chunk : List UInt8) : List Hit × State :=
  if p.regexes.isEmpty then ([], s)
  else
    let s := { s with pending := s.pending ++ chunk }
    if s.pending.length > p.overlap then commit p s (s.pending.length - p.overlap) else ([], s)

/-- Takes the next chunk of a stream. -/
def feed (p : Program) (s : State) (chunk : List UInt8) : List Hit × State :=
  if chunk.isEmpty then ([], s)
  else
    let (literals, tail) := feedLiterals p s chunk
    let (regexes, s) := feedRegexes p s chunk
    (Hit.sort (literals ++ regexes), { s with tail, offset := s.offset + chunk.length })

/-- The hits still held back at the end of a stream. -/
def finish (p : Program) (s : State) : List Hit :=
  if p.regexes.isEmpty || s.pending.isEmpty then []
  else Hit.sort (commit p s s.pending.length).1

/-- Ends a stream: the hits still held back, how many bytes were searched, and the state in which the
next stream is searched. -/
def close (p : Program) (s : State) : List Hit × Nat × State := (finish p s, s.offset, {})

/-- Takes chunks one after the other, and tells the hits of each. -/
def feedAll (p : Program) (s : State) : List (List UInt8) → List (List Hit) × State
  | [] => ([], s)
  | chunk :: chunks =>
    let (hits, s) := feed p s chunk
    let (others, s) := feedAll p s chunks
    (hits :: others, s)

/-- The hits in a whole text. -/
def searchAll (p : Program) (text : List UInt8) : List Hit :=
  let (hits, s) := feed p {} text
  hits ++ finish p s

end Search

end Triage
