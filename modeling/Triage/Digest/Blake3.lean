import Triage.Digest.Blocks
import Triage.Text.Hex

/-!
The BLAKE3 digest of 256 bits. A message is cut into chunks of 1024 bytes, which are the leaves of a
tree; the tree is full on the left, so that its finished parts are kept on a stack.
-/

namespace Triage.Digest.Blake3

abbrev Chain := Vector UInt32 8

def initial : Chain :=
  #v[0x6a09e667, 0xbb67ae85, 0x3c6ef372, 0xa54ff53a, 0x510e527f, 0x9b05688c, 0x1f83d9ab, 0x5be0cd19]

def chunkStart : UInt32 := 1

def chunkEnd : UInt32 := 2

def parent : UInt32 := 4

def root : UInt32 := 8

/-- What is compressed: a block of a chunk, or the values of two parts of the tree. -/
structure Node where
  chain : Chain
  block : Vector UInt32 16
  counter : Nat
  length : Nat
  flags : UInt32
deriving DecidableEq, Repr

/-- The places of the state that are mixed together, columns before diagonals. -/
def quarters : List (Fin 16 × Fin 16 × Fin 16 × Fin 16) :=
  [(0, 4, 8, 12), (1, 5, 9, 13), (2, 6, 10, 14), (3, 7, 11, 15),
    (0, 5, 10, 15), (1, 6, 11, 12), (2, 7, 8, 13), (3, 4, 9, 14)]

/-- The order in which a round takes the words of the block, given that of the round before. -/
def permutation : Vector (Fin 16) 16 :=
  #v[2, 6, 3, 10, 7, 0, 4, 13, 1, 11, 12, 5, 9, 14, 15, 8]

def quarter (x y : UInt32) (v : Vector UInt32 16) (q : Fin 16 × Fin 16 × Fin 16 × Fin 16) :
    Vector UInt32 16 :=
  let (a, b, c, d) := q
  let v := v.set a (v[a] + v[b] + x)
  let v := v.set d (rotateRight (v[d] ^^^ v[a]) 16)
  let v := v.set c (v[c] + v[d])
  let v := v.set b (rotateRight (v[b] ^^^ v[c]) 12)
  let v := v.set a (v[a] + v[b] + y)
  let v := v.set d (rotateRight (v[d] ^^^ v[a]) 8)
  let v := v.set c (v[c] + v[d])
  v.set b (rotateRight (v[b] ^^^ v[c]) 7)

def pairs : List UInt32 → List (UInt32 × UInt32)
  | x :: y :: rest => (x, y) :: pairs rest
  | _ => []

def round (block v : Vector UInt32 16) : Vector UInt32 16 :=
  (quarters.zip (pairs block.toList)).foldl (fun v (q, x, y) => quarter x y v q) v

def permute (block : Vector UInt32 16) : Vector UInt32 16 := permutation.map fun i => block[i]

def rounds (block v : Vector UInt32 16) : Nat → Vector UInt32 16
  | 0 => v
  | n + 1 => rounds (permute block) (round block v) n

namespace Node

def state (n : Node) : Vector UInt32 16 :=
  n.chain ++ #v[0x6a09e667, 0xbb67ae85, 0x3c6ef372, 0xa54ff53a,
    n.counter.toUInt32, (n.counter >>> 32).toUInt32, n.length.toUInt32, n.flags]

/-- The value of the node in the tree. -/
def value (n : Node) : Chain :=
  let v := rounds n.block n.state 7
  Vector.ofFn fun i : Fin 8 => v[i.val] ^^^ v[i.val + 8]

def ofParts (left right : Chain) : Node := ⟨initial, left ++ right, 0, 64, parent⟩

end Node

def blockOf (bytes : List UInt8) : Vector UInt32 16 :=
  let words := wordsWith joinLittle (bytes ++ List.replicate (64 - bytes.length) 0)
  Vector.ofFn fun i => words.getD i.val 0

/-- The chunk being read. `held` are the bytes of its last block, last first, and `blocks` counts the
blocks before that one. -/
structure State where
  chain : Chain := initial
  held : List UInt8 := []
  heldLength : Nat := 0
  blocks : Nat := 0
  chunk : Nat := 0
  parts : List Chain := []
deriving Repr

namespace State

/-- The node of the last block read, with the flags given besides those of its place. -/
def lastBlock (s : State) (flags : UInt32) : Node :=
  ⟨s.chain, blockOf s.held.reverse, s.chunk, s.heldLength,
    flags ||| if s.blocks = 0 then chunkStart else 0⟩

/-- Adds the value of a finished chunk. Each even number of chunks closes as many parts as the number
can be halved. -/
def closeParts (value : Chain) (chunks : Nat) : Nat → List Chain → List Chain
  | fuel + 1, part :: parts =>
    if chunks % 2 = 0 then closeParts (Node.ofParts part value).value (chunks / 2) fuel parts
    else value :: part :: parts
  | _, parts => value :: parts

/-- Makes room for another byte. A full block is compressed only now, since the last block of a
message is treated differently. -/
def makeRoom (s : State) : State :=
  if s.heldLength < 64 then s
  else if s.blocks < 15 then
    { s with chain := (s.lastBlock 0).value, held := [], heldLength := 0, blocks := s.blocks + 1 }
  else
    { chunk := s.chunk + 1,
      parts := closeParts (s.lastBlock chunkEnd).value (s.chunk + 1) s.parts.length s.parts }

def push (s : State) (b : UInt8) : State :=
  let s := s.makeRoom
  { s with held := b :: s.held, heldLength := s.heldLength + 1 }

def absorb (s : State) (bytes : List UInt8) : State := bytes.foldl push s

/-- The root of the tree: the last block, joined with the finished parts from the latest on. -/
def rootNode (s : State) : Node :=
  s.parts.foldl (fun node part => Node.ofParts part node.value) (s.lastBlock chunkEnd)

def finish (s : State) : String :=
  let node := s.rootNode
  let value := { node with counter := 0, flags := node.flags ||| root }.value
  Hex.encode (value.toList.flatMap fun w => littleEndian 4 w.toNat)

end State

/-- The digest of a whole message. -/
def digest (bytes : List UInt8) : String := (State.absorb {} bytes).finish

end Triage.Digest.Blake3
