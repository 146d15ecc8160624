import Mathlib.Data.List.Basic
import Triage.ByteStream

/-! What a stream gives in a pass. Where the pieces are cut depends on how the reads go, and what the
pieces are together does not, unless a read fails. -/

namespace Triage

/-- The pieces a reader gets, and the stream behind them or the reason why there are no more. -/
structure Delivery where
  pieces : List (List UInt8)
  ending : Except String ByteStream

def Delivery.cons (piece : List UInt8) (d : Delivery) : Delivery :=
  { d with pieces := piece :: d.pieces }

namespace ByteStream

def drain (size : Nat) : Nat → ByteStream → Delivery
  | 0, stream => ⟨[], .ok stream⟩
  | fuel + 1, stream =>
    match stream.read size with
    | (.error reason, _) => ⟨[], .error reason⟩
    | (.ok [], stream) => ⟨[], .ok stream⟩
    | (.ok piece, stream) => (drain size fuel stream).cons piece

def deliver (size : Nat) (stream : ByteStream) : Delivery :=
  match stream.rewind with
  | (.error reason, _) => ⟨[], .error reason⟩
  | (.ok (), stream) => stream.drain size (stream.bytes.length + 1)

/-- A stream that gives its bytes to whoever goes on reading. No read or seek still to come fails, and
none gives nothing before the end. -/
structure Steady (s : ByteStream) : Prop where
  reads : ∀ n e, s.reads ≤ n → s.readEvents.lookup n = some e →
    e = .interrupted ∨ ∃ most, 0 < most ∧ e = .short most
  seeks : ∀ n, s.seeks ≤ n → s.seekFailures.lookup n = none
  most : s.mostPerRead ≠ some 0

theorem Steady.later {s next : ByteStream} (steady : s.Steady)
    (events : next.readEvents = s.readEvents) (failures : next.seekFailures = s.seekFailures)
    (most : next.mostPerRead = s.mostPerRead) (reads : s.reads ≤ next.reads)
    (seeks : s.seeks ≤ next.seeks) : next.Steady where
  reads n e after found := steady.reads n e (Nat.le_trans reads after) (events ▸ found)
  seeks n after := failures ▸ steady.seeks n (Nat.le_trans seeks after)
  most := most ▸ steady.most

theorem Steady.read {s : ByteStream} (steady : s.Steady) :
    ({ s with reads := s.reads + 1 } : ByteStream).Steady :=
  steady.later rfl rfl rfl (Nat.le_succ _) (Nat.le_refl _)

def rest (s : ByteStream) : List UInt8 := s.bytes.drop s.position

/-! ## One read -/

/-- How many events may still befall a read. -/
def ahead (s : ByteStream) : Nat := (s.readEvents.filter fun e => s.reads ≤ e.1).length

theorem drain_cons {s next : ByteStream} {size fuel : Nat} {piece : List UInt8}
    (read : s.read size = (.ok piece, next)) (bytes : piece ≠ []) :
    s.drain size (fuel + 1) = (next.drain size fuel).cons piece := by
  rw [drain, read]
  cases piece with
  | nil => exact absurd rfl bytes
  | cons b piece => rfl

/-- A stream of which no read and no seek still to come fails. It may be interrupted and may give few bytes,
or none, at a time. -/
structure Unfailing (s : ByteStream) : Prop where
  reads : ∀ n reason, s.reads ≤ n → s.readEvents.lookup n ≠ some (.failed reason)
  seeks : ∀ n, s.seeks ≤ n → s.seekFailures.lookup n = none

theorem Unfailing.later {s next : ByteStream} (unfailing : s.Unfailing)
    (events : next.readEvents = s.readEvents) (failures : next.seekFailures = s.seekFailures)
    (reads : s.reads ≤ next.reads) (seeks : s.seeks ≤ next.seeks) : next.Unfailing where
  reads n reason after := events ▸ unfailing.reads n reason (Nat.le_trans reads after)
  seeks n after := failures ▸ unfailing.seeks n (Nat.le_trans seeks after)

theorem Unfailing.readOnce {s : ByteStream} (unfailing : s.Unfailing) (size : Nat) :
    (s.readOnce size).2.Unfailing ∧ ∀ reason, (s.readOnce size).1 ≠ .failed reason := by
  unfold ByteStream.readOnce
  cases event : s.readEvents.lookup s.reads with
  | none => exact ⟨unfailing.later rfl rfl (Nat.le_succ _) (Nat.le_refl _), nofun⟩
  | some e =>
    cases e with
    | failed reason => exact absurd event (unfailing.reads _ reason (Nat.le_refl _))
    | interrupted => exact ⟨unfailing.later rfl rfl (Nat.le_succ _) (Nat.le_refl _), nofun⟩
    | short n => exact ⟨unfailing.later rfl rfl (Nat.le_succ _) (Nat.le_refl _), nofun⟩

theorem Unfailing.readWithin {s : ByteStream} (unfailing : s.Unfailing) (size fuel : Nat) :
    ∃ piece next, s.readWithin size fuel = (.ok piece, next) ∧ next.Unfailing := by
  induction fuel generalizing s with
  | zero => exact ⟨[], s, rfl, unfailing⟩
  | succ fuel ih =>
    obtain ⟨later, works⟩ := unfailing.readOnce size
    rw [ByteStream.readWithin]
    rcases once : s.readOnce size with ⟨result, next⟩
    rw [once] at later works
    cases result with
    | bytes bs => exact ⟨bs, next, rfl, later⟩
    | interrupted => exact ih later
    | failed reason => exact absurd rfl (works reason)

theorem Unfailing.drain {s : ByteStream} (unfailing : s.Unfailing) (size fuel : Nat) :
    ∃ next, (s.drain size fuel).ending = .ok next ∧ next.Unfailing := by
  induction fuel generalizing s with
  | zero => exact ⟨s, rfl, unfailing⟩
  | succ fuel ih =>
    obtain ⟨piece, next, read, later⟩ := unfailing.readWithin size (s.readEvents.length + 1)
    rw [ByteStream.drain, ByteStream.read, read]
    cases piece with
    | nil => exact ⟨next, rfl, later⟩
    | cons b piece => exact ih later

/-- A pass over a stream that does not fail comes to its end, and so will the next pass. -/
theorem Unfailing.deliver {s : ByteStream} (unfailing : s.Unfailing) (size : Nat) :
    ∃ next, (s.deliver size).ending = .ok next ∧ next.Unfailing := by
  have start : s.rewind = (.ok (), { s with seeks := s.seeks + 1, position := 0 }) := by
    rw [rewind, seek, unfailing.seeks _ (Nat.le_refl _)]
    rfl
  rw [ByteStream.deliver, start]
  exact Unfailing.drain (s := { s with seeks := s.seeks + 1, position := 0 })
    (unfailing.later rfl rfl (Nat.le_refl _) (Nat.le_succ _)) size _

end ByteStream

end Triage
