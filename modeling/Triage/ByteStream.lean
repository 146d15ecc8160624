/-!
Byte streams that are read piece by piece and may fail.
-/

namespace Triage

/-- What may happen to a read: it is interrupted, it fails, or it gives fewer bytes than there are. -/
inductive ReadEvent
  | interrupted
  | failed (reason : String)
  | short (most : Nat)
deriving DecidableEq, Repr

/-- Bytes with a position. `mostPerRead` bounds what a read gives. Events befall the reads and seeks
with the numbers given, counted over the life of the stream. -/
structure ByteStream where
  bytes : List UInt8
  position : Nat := 0
  mostPerRead : Option Nat := none
  readEvents : List (Nat × ReadEvent) := []
  seekFailures : List (Nat × String) := []
  reads : Nat := 0
  seeks : Nat := 0
deriving DecidableEq, Repr

namespace ByteStream

/-- Where a seek goes to. -/
inductive SeekTarget
  | fromStart (n : Nat)
  | fromEnd (offset : Int)
deriving DecidableEq, Repr

/-- The position meant in a stream of the size. None lies before its start, nor from 2^63 on. -/
def SeekTarget.position? (size : Nat) : SeekTarget → Option Nat
  | fromStart n => if n < 0x8000000000000000 then some n else none
  | fromEnd offset => if 0 ≤ size + offset then some (size + offset).toNat else none

def seek (s : ByteStream) (target : SeekTarget) : Except String Nat × ByteStream :=
  let next := { s with seeks := s.seeks + 1 }
  match s.seekFailures.lookup s.seeks with
  | some reason => (.error reason, next)
  | none =>
    match target.position? s.bytes.length with
    | none => (.error "Invalid argument (os error 22)", next)
    | some position => (.ok position, { next with position })

def rewind (s : ByteStream) : Except String Unit × ByteStream :=
  let (result, s) := s.seek (.fromStart 0)
  (result.map fun _ => (), s)

/-- What one read gives. -/
inductive ReadResult
  | bytes (bs : List UInt8)
  | interrupted
  | failed (reason : String)
deriving DecidableEq, Repr

def take (s : ByteStream) (most : Nat) : ReadResult × ByteStream :=
  let bs := (s.bytes.drop s.position).take most
  (.bytes bs, { s with position := s.position + bs.length })

/-- One read into a buffer of the size. -/
def readOnce (s : ByteStream) (size : Nat) : ReadResult × ByteStream :=
  let next := { s with reads := s.reads + 1 }
  let most := (s.mostPerRead.map (min size)).getD size
  match s.readEvents.lookup s.reads with
  | some .interrupted => (.interrupted, next)
  | some (.failed reason) => (.failed reason, next)
  | some (.short n) => next.take (min n most)
  | none => next.take most

/-- Reads again as long as it is interrupted. There are no more interruptions than events. -/
def readWithin (size : Nat) : Nat → ByteStream → Except String (List UInt8) × ByteStream
  | 0, s => (.ok [], s)
  | fuel + 1, s =>
    match s.readOnce size with
    | (.bytes bs, next) => (.ok bs, next)
    | (.failed reason, next) => (.error reason, next)
    | (.interrupted, next) => readWithin size fuel next

def read (s : ByteStream) (size : Nat) : Except String (List UInt8) × ByteStream :=
  readWithin size (s.readEvents.length + 1) s

end ByteStream

end Triage
