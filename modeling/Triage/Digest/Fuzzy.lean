/-!
A digest that stays similar when bytes are inserted or changed. A rolling sum over seven bytes cuts
the stream into pieces and each piece adds one character. Several contexts run side by side, each
with pieces twice as long as those of the one before, and the shortest that fits the whole length is
written, with half the digest of the next.
-/

namespace Triage.Digest.Fuzzy

def contextLimit : Nat := 31

/-- How many characters a digest may have. -/
def digestLength : Nat := 64

def prime : UInt32 := 0x01000193

def seed : UInt32 := 0x28021967

/-- The piece length of a context, on average. -/
def pieceLength (context : Nat) : Nat := 3 <<< context

def alphabet : Array Char :=
  "ABCDEFGHIJKLMNOPQRSTUVWXYZabcdefghijklmnopqrstuvwxyz0123456789+/".toList.toArray

def character (hash : UInt32) : Char := alphabet.getD (hash.toNat % 64) 'A'

/-- The sums over the last seven bytes. -/
structure Rolling where
  window : List UInt8 := [0, 0, 0, 0, 0, 0, 0]
  sum : UInt32 := 0
  weighted : UInt32 := 0
  shifted : UInt32 := 0
deriving DecidableEq, Repr

namespace Rolling

/-- The window holds its bytes oldest first. -/
def push (r : Rolling) (b : UInt8) : Rolling :=
  let c := b.toUInt32
  { window := r.window.drop 1 ++ [b]
    sum := r.sum + c - (r.window.headD 0).toUInt32
    weighted := r.weighted - r.sum + 7 * c
    shifted := (r.shifted <<< 5) ^^^ c }

def value (r : Rolling) : UInt32 := r.sum + r.weighted + r.shifted

end Rolling

/-- One context. `kept` are the characters of finished pieces, last first, and `length` counts them.
`last` and `halfLast` stand for the pieces that are not finished. -/
structure Context where
  hash : UInt32 := seed
  half : UInt32 := seed
  kept : List Char := []
  length : Nat := 0
  last : Option Char := none
  halfLast : Option Char := none
deriving DecidableEq, Repr

namespace Context

def push (c : Context) (b : UInt8) : Context :=
  { c with hash := (c.hash * prime) ^^^ b.toUInt32, half := (c.half * prime) ^^^ b.toUInt32 }

def mark (c : Context) : Context :=
  { c with last := some (character c.hash), halfLast := some (character c.half) }

/-- Starts the next piece. The hash for half a digest goes on once half a digest is there. -/
def keep (c : Context) : Context :=
  let next := { c with
    hash := seed, kept := c.last.toList ++ c.kept, length := c.length + 1, last := none }
  if c.length + 1 < digestLength / 2 then { next with half := seed, halfLast := none } else next

end Context

/-- The contexts from `first` on are in use. -/
structure State where
  rolling : Rolling := {}
  contexts : Array Context := #[{}]
  first : Nat := 0
  total : Nat := 0
deriving DecidableEq, Repr

namespace State

def modify (s : State) (i : Nat) (f : Context → Context) : State :=
  { s with contexts := s.contexts.modify i f }

def context (s : State) (i : Nat) : Context := s.contexts.getD i {}

/-- Adds a context when the last one ends its first piece. -/
def fork (s : State) (i : Nat) : State :=
  if (s.context i).length = 0 ∧ s.contexts.size < contextLimit then
    let last := s.context (s.contexts.size - 1)
    { s with contexts := s.contexts.push { hash := last.hash, half := last.half } }
  else s

/-- Ends a piece of a context. A context whose digest is full is given up when a later one will
serve. -/
def endPiece (s : State) (i : Nat) : State :=
  let s := (s.fork i).modify i Context.mark
  if (s.context i).length < digestLength - 1 then s.modify i Context.keep
  else if s.contexts.size - s.first ≥ 2 ∧ pieceLength s.first * digestLength < s.total ∧
      (s.context (s.first + 1)).length ≥ digestLength / 2 then
    { s with first := s.first + 1 }
  else s

/-- Ends the pieces of the contexts from `i` on, as long as the sum asks for it. -/
def endPieces (sum : Nat) : Nat → Nat → State → State
  | 0, _, s => s
  | fuel + 1, i, s =>
    if i < s.contexts.size ∧ sum % pieceLength i = pieceLength i - 1 then
      endPieces sum fuel (i + 1) (s.endPiece i)
    else s

def push (s : State) (b : UInt8) : State :=
  let rolling := s.rolling.push b
  let s := { s with
    rolling,
    contexts := s.contexts.mapIdx fun i c => if s.first ≤ i then c.push b else c }
  endPieces rolling.value.toNat contextLimit s.first s

/-- Takes the next bytes, all of which count into the total that their pieces see. -/
def absorb (s : State) (bytes : List UInt8) : State :=
  bytes.foldl push { s with total := s.total + bytes.length }

/-- The first context from `i` on whose digest can hold the whole length. -/
def fitting (total : Nat) : Nat → Nat → Nat
  | 0, i => i
  | fuel + 1, i => if pieceLength i * digestLength < total then fitting total fuel (i + 1) else i

/-- The nearest context back to `first` whose digest is at least half full. -/
def halfFull (s : State) : Nat → Nat
  | 0 => 0
  | i + 1 =>
    if i + 1 > s.first ∧ (s.context (i + 1)).length < digestLength / 2 then s.halfFull i else i + 1

/-- The context that is written. -/
def chosen (s : State) : Nat :=
  s.halfFull (min (fitting s.total s.total s.first) (s.contexts.size - 1))

def ending (s : State) (hash : UInt32) (last : Option Char) : List Char :=
  if s.rolling.value ≠ 0 then [character hash] else last.toList

def render (s : State) : String :=
  let i := s.chosen
  let whole := s.context i
  let digest := whole.kept.reverse ++ s.ending whole.hash whole.last
  let half :=
    if i + 1 < s.contexts.size then
      let next := s.context (i + 1)
      next.kept.reverse.take (digestLength / 2 - 1) ++ s.ending next.half next.halfLast
    else []
  toString (pieceLength i) ++ ":" ++ String.ofList digest ++ ":" ++ String.ofList half

end State

end Triage.Digest.Fuzzy
