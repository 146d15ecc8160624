import Mathlib.Logic.Relation
import Triage.Proofs.Processor.Ledger

/-! Scans step by step. A producer posts batches to a queue, a thread writes down the entries of each batch
and starts a job with a processor from the pool, and jobs process their entries. Whoever can take a step
may be the next one to take it. -/

namespace Triage

inductive Strand
  | idle
  | dirents (batch : List FileEntry)
  | inodes (batch : List FileEntry)
  | checkout (batch : List FileEntry)

/-- A job as long as its wait token is there. It gives its processor back before it drops the token. -/
inductive Job
  | working (p : Processor) (rest : List FileEntry)
  | returned

/-- A scan under way: batches that are still to be posted, those in the queue, the scheduling thread, the
jobs, and what they share. -/
structure System (σ : Type) where
  unposted : List (List FileEntry)
  queue : List (List FileEntry) := []
  closed : Bool := false
  strand : Strand := .idle
  jobs : List Job := []
  shared : Scheduler σ
  result : Option (Except ScanError ScanStats) := none

namespace System
variable {σ : Type}

structure Drained (s : System σ) : Prop where
  closed : s.closed
  queue : s.queue = []
  strand : s.strand = .idle
  jobs : s.jobs = []

def start (prototype : Processor) (workers : Nat) (batches : List (List FileEntry)) (sink : σ) :
    System σ where
  unposted := batches
  shared := { pool := Pool.create prototype.fresh workers, sink }

variable [Sink σ]

/-- The last step: what processors still keep goes to the sink. -/
def finished (s : System σ) : System σ :=
  { s with result := some s.shared.finish.1, shared := { s.shared with sink := s.shared.finish.2 } }

/-- The steps of a scan whose queue holds so many batches. -/
inductive Step (depth : Nat) : System σ → System σ → Prop
  | post {s : System σ} {batch : List FileEntry} {rest : List (List FileEntry)}
      (next : s.unposted = batch :: rest) (room : s.queue.length < depth) :
      Step depth s { s with unposted := rest, queue := s.queue ++ [batch] }
  | close {s : System σ} (posted : s.unposted = []) (opened : s.closed = false) :
      Step depth s { s with closed := true }
  | take {s : System σ} {batch : List FileEntry} {rest : List (List FileEntry)}
      (idle : s.strand = .idle) (next : s.queue = batch :: rest) :
      Step depth s { s with
        queue := rest
        strand := .dirents batch
        shared := { s.shared with
          batches := s.shared.batches + 1, entries := s.shared.entries + batch.length } }
  | writeDirents {s : System σ} {batch : List FileEntry} (here : s.strand = .dirents batch) :
      Step depth s { s with
        strand := .inodes batch
        shared := { s.shared with
          sink := (Sink.write (.dirents (batch.map (·.dirent))) s.shared.sink).2 } }
  | writeInodes {s : System σ} {batch : List FileEntry} (here : s.strand = .inodes batch) :
      Step depth s { s with
        strand := .checkout batch
        shared := { s.shared with
          sink := (Sink.write (.inodes (batch.map (·.inode))) s.shared.sink).2 } }
  | spawn {s : System σ} {batch : List FileEntry} {p : Processor} {pool : Pool Processor}
      (here : s.strand = .checkout batch) (free : s.shared.pool.take? = some (p, pool)) :
      Step depth s { s with
        strand := .idle
        jobs := s.jobs ++ [.working p batch]
        shared := { s.shared with pool } }
  | work {s : System σ} {before after : List Job} {p q : Processor} {entry : FileEntry}
      {rest : List FileEntry} {result : Except ProcessError Unit} {sink : σ}
      (job : s.jobs = before ++ .working p (entry :: rest) :: after)
      (ran : Processor.run (Processor.processEntry entry) p s.shared.sink = (result, q, sink)) :
      Step depth s { s with
        jobs := before ++ .working q rest :: after
        shared := { s.shared with sink, failed := s.shared.failed + Processor.failures result } }
  | giveBack {s : System σ} {before after : List Job} {p : Processor}
      (job : s.jobs = before ++ .working p [] :: after) :
      Step depth s { s with
        jobs := before ++ .returned :: after
        shared := { s.shared with pool := s.shared.pool.put p } }
  | leave {s : System σ} {before after : List Job} (job : s.jobs = before ++ .returned :: after) :
      Step depth s { s with jobs := before ++ after }
  | finish {s : System σ} (drained : s.Drained) (pending : s.result = none) : Step depth s s.finished

abbrev Steps (depth : Nat) : System σ → System σ → Prop := Relation.ReflTransGen (Step depth)

variable {depth : Nat} {s t : System σ}

theorem Step.result (step : Step depth s t) (pending : t.result = none) : s.result = none := by
  cases step with
  | finish drained => nomatch pending
  | _ => exact pending

theorem Step.posted (posted : s.closed → s.unposted = []) (step : Step depth s t) :
    t.closed → t.unposted = [] := by
  cases step with
  | post next room =>
    intro closed
    rw [posted closed] at next
    nomatch next
  | close none opened => exact fun _ => none
  | _ => exact posted

theorem Drained.stuck (drained : s.Drained) (posted : s.unposted = []) : ¬Step depth s.finished t := by
  intro step
  obtain ⟨closed, queue, idle, jobs⟩ := drained
  cases step with
  | post next room => exact List.cons_ne_nil _ _ (next.symm.trans posted)
  | close none opened => exact Bool.false_ne_true (opened.symm.trans closed)
  | take here next => exact List.cons_ne_nil _ _ (next.symm.trans queue)
  | writeDirents here | writeInodes here | spawn here => nomatch here.symm.trans idle
  | work job | giveBack job | leave job =>
    exact List.append_ne_nil_of_right_ne_nil _ (List.cons_ne_nil _ _) (job.symm.trans jobs)
  | finish again pending => nomatch pending

variable {prototype : Processor} {workers : Nat} {batches : List (List FileEntry)} {sink : σ}

theorem posted (runs : Steps depth (start prototype workers batches sink) t) : t.closed → t.unposted = [] := by
  induction runs with
  | refl => nofun
  | tail _ step ih => exact step.posted ih

/-- A scan that has a result has come to it by its last step, once nothing was left to wait for. -/
theorem ended (runs : Steps depth (start prototype workers batches sink) t) (ended : t.result ≠ none) :
    ∃ s, Steps depth (start prototype workers batches sink) s ∧ s.Drained ∧ s.result = none ∧
      t = s.finished := by
  induction runs with
  | refl => exact absurd rfl ended
  | @tail u t runs step ih =>
    cases earlier : u.result with
    | some result =>
      -- There was a result before, so this step would follow the last one.
      obtain ⟨s, before, drained, _, rfl⟩ := ih (earlier ▸ Option.some_ne_none result)
      exact absurd step (drained.stuck (posted before drained.closed))
    | none =>
      cases step with
      | finish drained pending => exact ⟨u, runs, drained, pending, rfl⟩
      | _ => exact absurd earlier ended

end System

end Triage
