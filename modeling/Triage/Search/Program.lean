import Triage.Pattern.Compile

/-!
Programs: compiled patterns that are searched for together, and the hits they give.
-/

namespace Triage.Search

/-- Where a pattern of the program matched. -/
structure Hit where
  start : Nat
  stop : Nat
  pattern : Nat
deriving DecidableEq, Repr

namespace Hit

def length (h : Hit) : Nat := h.stop - h.start

/-- Hits are reported by where they end, then by where they start, then by pattern. -/
def before (a b : Hit) : Bool :=
  a.stop < b.stop || (a.stop = b.stop && (a.start < b.start ||
    (a.start = b.start && a.pattern ≤ b.pattern)))

def sort (hits : List Hit) : List Hit := hits.mergeSort before

end Hit

/-- A pattern as its owner knows it. `length` bounds the bytes that its matches take, as far as they
are found in a stream. -/
structure PatternInfo where
  tag : Nat
  text : String
  encoding : String
  length : Nat
deriving DecidableEq, Repr

structure Entry where
  info : PatternInfo
  compiled : CompiledPattern
deriving DecidableEq

/-- How many bytes of a match are waited for, unless the program says otherwise. -/
def defaultWindow : Nat := 4096

/-- Patterns in the order in which they were added. -/
structure Program where
  entries : List Entry := []
  window : Nat := defaultWindow
deriving DecidableEq

namespace Program

def withWindow (window : Nat) : Program := { window := max window 1 }

/-- Waits for matches of another length from now on. What the patterns say of theirs stays. -/
def resize (p : Program) (window : Nat) : Program := { p with window := max window 1 }

/-- How long a match of the pattern the program waits for. -/
def waitFor (window : Nat) (longest : Option Nat) : Nat := min (longest.getD window) window

def patternLength (window : Nat) : CompiledPattern → Nat
  | .literal p => p.bytes.length
  | .regex p => waitFor window p.longest

/-- Adds a pattern under a tag of its owner. Its index is the number of patterns before it. -/
def add (p : Program) (tag : Nat) (d : PatternDef) : Except PatternError Program := do
  let compiled ← d.compile
  let info := ⟨tag, d.text, d.encoding, patternLength p.window compiled⟩
  return { p with entries := p.entries ++ [⟨info, compiled⟩] }

def size (p : Program) : Nat := p.entries.length

def isEmpty (p : Program) : Bool := p.entries.isEmpty

def info? (p : Program) (index : Nat) : Option PatternInfo := (p.entries[index]?).map (·.info)

def longest (p : Program) : Nat := (p.entries.map (·.info.length)).foldl max 0

/-- The literal patterns with their indices. -/
def literals (p : Program) : List (LiteralPattern × Nat) :=
  p.entries.zipIdx.filterMap fun (e, i) =>
    match e.compiled with
    | .literal l => some (l, i)
    | .regex _ => none

def regexes (p : Program) : List (RegexPattern × Nat) :=
  p.entries.zipIdx.filterMap fun (e, i) =>
    match e.compiled with
    | .literal _ => none
    | .regex r => some (r, i)

/-- The length of the longest literal. -/
def literalLength (p : Program) : Nat := (p.literals.map (·.1.bytes.length)).foldl max 0

/-- How many bytes are held back so that matches of expressions can be completed. -/
def overlap (p : Program) : Nat :=
  (p.regexes.map fun r => waitFor p.window r.1.longest).foldl max 0

end Program

end Triage.Search
