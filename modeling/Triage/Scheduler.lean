import Triage.Error
import Triage.Pool

/-!
Scheduling batches of entries over a pool of processors. The entries of a batch are written down
first; then a processor is taken out, handles them one after another and comes back.
-/

namespace Triage

structure ScanStats where
  batches : Nat := 0
  entries : Nat := 0
  files : Nat := 0
  failed : Nat := 0
  bytes : Nat := 0
  hits : Nat := 0
  ruleMatches : Nat := 0
  peak : Nat := 0
deriving DecidableEq, Repr

structure Scheduler (σ : Type) where
  pool : Pool Processor
  sink : σ
  batches : Nat := 0
  entries : Nat := 0
  failed : Nat := 0

namespace Scheduler

variable {σ : Type} [Sink σ]

/-- A scheduler whose processors are like the one given, with as many of them as the settings say or
else as the machine has. -/
def create (prototype : Processor) (sink : σ) (c : ScanConfig) (machine : Nat) :
    Except ScanError (Scheduler σ) := do
  c.validate.mapError .config
  return { pool := Pool.create prototype.fresh (c.workers.getD machine), sink }

/-- Handles entries in turn and counts those that fail. A failure does not stop the others. -/
def handle (p : Processor) (sink : σ) : List FileEntry → Processor × σ × Nat
  | [] => (p, sink, 0)
  | entry :: rest =>
    let (result, p, sink) := Processor.run (Processor.processEntry entry) p sink
    let (p, sink, failed) := handle p sink rest
    match result with
    | .ok () => (p, sink, failed)
    | .error _ => (p, sink, failed + 1)

/-- Takes a batch. Entries that the sink refuses are handled all the same. -/
def schedule (s : Scheduler σ) (batch : List FileEntry) : Scheduler σ :=
  let (_, sink) := Sink.write (.dirents (batch.map (·.dirent))) s.sink
  let (_, sink) := Sink.write (.inodes (batch.map (·.inode))) sink
  let s := { s with sink, batches := s.batches + 1, entries := s.entries + batch.length }
  match s.pool.take? with
  | none => s
  | some (p, pool) =>
    let (p, sink, failed) := handle p s.sink batch
    { s with pool := pool.put p, sink, failed := s.failed + failed }

/-- Flushes processors in turn. The first failure counts, and does not keep the others from being
flushed. -/
def flushAll (sink : σ) : List Processor → Option ProcessError × σ
  | [] => (none, sink)
  | p :: rest =>
    let (result, _, sink) := Processor.run Processor.flush p sink
    let (later, sink) := flushAll sink rest
    match result with
    | .ok () => (later, sink)
    | .error e => (some e, sink)

def stats (s : Scheduler σ) : ScanStats :=
  let sum (f : ProcessorStats → Nat) : Nat := (s.pool.idle.map fun p => f p.stats).foldr (· + ·) 0
  { batches := s.batches, entries := s.entries, failed := s.failed, peak := s.pool.peak
    files := sum (·.files), bytes := sum (·.bytes), hits := sum (·.hits)
    ruleMatches := sum (·.ruleMatches) }

/-- Ends the scan: rows still kept go to the sink, the processor that was idle longest first. -/
def finish (s : Scheduler σ) : Except ScanError ScanStats × σ :=
  let (failure, sink) := flushAll s.sink s.pool.idle.reverse
  match failure with
  | some e => (.error (.process e), sink)
  | none =>
    match Sink.flush sink with
    | (.error e, sink) => (.error (.sink e), sink)
    | (.ok (), sink) => (.ok s.stats, sink)

end Scheduler

end Triage
