/-!
Digests over blocks of 64 bytes. Bytes are taken one at a time and a block is compressed as soon as
it is full, so a digest does not depend on how its bytes were cut into pieces.
-/

namespace Triage.Digest

/-- The value compressed so far, the bytes of the block that is not full, last first, and the number
of bytes taken. -/
structure Blocks (σ : Type) where
  chain : σ
  held : List UInt8 := []
  taken : Nat := 0
deriving Repr

namespace Blocks

variable {σ : Type}

def push (compress : σ → List UInt8 → σ) (s : Blocks σ) (b : UInt8) : Blocks σ :=
  if (s.taken + 1) % 64 = 0 then ⟨compress s.chain (b :: s.held).reverse, [], s.taken + 1⟩
  else ⟨s.chain, b :: s.held, s.taken + 1⟩

def absorb (compress : σ → List UInt8 → σ) (s : Blocks σ) (bytes : List UInt8) : Blocks σ :=
  bytes.foldl (push compress) s

theorem absorb_append (compress : σ → List UInt8 → σ) (s : Blocks σ) (a b : List UInt8) :
    s.absorb compress (a ++ b) = (s.absorb compress a).absorb compress b :=
  List.foldl_append

/-- A one bit, then as many zero bits as leave eight bytes of the last block for the length. -/
def padding (lengthBytes : Nat → List UInt8) (taken : Nat) : List UInt8 :=
  0x80 :: List.replicate ((119 - taken % 64) % 64) 0 ++ lengthBytes (8 * taken)

/-- The value after the padded end. -/
def finish (compress : σ → List UInt8 → σ) (lengthBytes : Nat → List UInt8) (s : Blocks σ) : σ :=
  (s.absorb compress (padding lengthBytes s.taken)).chain

end Blocks

/-- The lowest `count` bytes of a number, lowest first. -/
def littleEndian (count n : Nat) : List UInt8 :=
  match count with
  | 0 => []
  | count + 1 => (n % 256).toUInt8 :: littleEndian count (n / 256)

def bigEndian (count n : Nat) : List UInt8 := (littleEndian count n).reverse

def joinLittle (a b c d : UInt8) : UInt32 :=
  a.toUInt32 ||| (b.toUInt32 <<< 8) ||| (c.toUInt32 <<< 16) ||| (d.toUInt32 <<< 24)

def joinBig (a b c d : UInt8) : UInt32 := joinLittle d c b a

/-- The words that groups of four bytes make. -/
def wordsWith (join : UInt8 → UInt8 → UInt8 → UInt8 → UInt32) : List UInt8 → List UInt32
  | a :: b :: c :: d :: rest => join a b c d :: wordsWith join rest
  | _ => []

def rotateLeft (x : UInt32) (n : UInt32) : UInt32 := (x <<< n) ||| (x >>> (32 - n))

def rotateRight (x : UInt32) (n : UInt32) : UInt32 := (x >>> n) ||| (x <<< (32 - n))

end Triage.Digest
