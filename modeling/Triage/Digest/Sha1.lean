import Triage.Digest.Blocks
import Triage.Text.Hex

/-!
The SHA-1 digest.
-/

namespace Triage.Digest.Sha1

structure Chain where
  a : UInt32 := 0x67452301
  b : UInt32 := 0xefcdab89
  c : UInt32 := 0x98badcfe
  d : UInt32 := 0x10325476
  e : UInt32 := 0xc3d2e1f0
deriving DecidableEq, Repr

/-- The schedule grows by words that mix four of the last sixteen. -/
def extend (schedule : Array UInt32) : Nat → Array UInt32
  | 0 => schedule
  | n + 1 =>
    let back (k : Nat) := schedule.getD (schedule.size - k) 0
    extend (schedule.push (rotateLeft (back 3 ^^^ back 8 ^^^ back 14 ^^^ back 16) 1)) n

/-- The function and the constant of the twenty rounds that a round belongs to. -/
def mix (round : Nat) (s : Chain) : UInt32 :=
  match round / 20 with
  | 0 => ((s.b &&& s.c) ||| (~~~s.b &&& s.d)) + 0x5a827999
  | 1 => (s.b ^^^ s.c ^^^ s.d) + 0x6ed9eba1
  | 2 => ((s.b &&& s.c) ||| (s.b &&& s.d) ||| (s.c &&& s.d)) + 0x8f1bbcdc
  | _ => (s.b ^^^ s.c ^^^ s.d) + 0xca62c1d6

def round (s : Chain) (input : UInt32 × Nat) : Chain :=
  let (word, i) := input
  ⟨rotateLeft s.a 5 + mix i s + s.e + word, s.a, rotateLeft s.b 30, s.c, s.d⟩

def compress (s : Chain) (block : List UInt8) : Chain :=
  let schedule := extend (wordsWith joinBig block).toArray 64
  let t := schedule.toList.zipIdx.foldl round s
  ⟨s.a + t.a, s.b + t.b, s.c + t.c, s.d + t.d, s.e + t.e⟩

abbrev State := Blocks Chain

def start : State := { chain := {} }

def absorb (s : State) (bytes : List UInt8) : State := Blocks.absorb compress s bytes

def finish (s : State) : String :=
  let chain := Blocks.finish compress (bigEndian 8) s
  Hex.encode ([chain.a, chain.b, chain.c, chain.d, chain.e].flatMap fun w => bigEndian 4 w.toNat)

end Triage.Digest.Sha1
