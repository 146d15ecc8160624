import Triage.Proofs.Scheduler.Accounts

/-! Progress of scans. Every step is counted in advance, so that no scan goes on forever; and as long as
there is no result some step can be taken, because a processor that is missed is out with a job. -/

namespace Triage
open Processor

/-- How many steps of a scan a batch is still good for. -/
def Strand.toGo : Strand → Nat
  | idle => 0
  | checkout batch => batch.length + 3
  | inodes batch => batch.length + 4
  | dirents batch => batch.length + 5

def Job.toGo : Job → Nat
  | working _ rest => rest.length + 2
  | returned => 1

namespace System
variable {σ : Type}

def toGo (s : System σ) : Nat :=
  (s.unposted.map (·.length + 7)).sum + (s.queue.map (·.length + 6)).sum + s.strand.toGo +
    (s.jobs.map Job.toGo).sum + (if s.closed then 0 else 1) + (if s.result.isNone then 1 else 0)

variable [Sink σ] {depth : Nat} {s t : System σ}

theorem Step.toGo (step : Step depth s t) : t.toGo + 1 = s.toGo := by
  cases step with
  | post next room => simp [System.toGo, next]; omega
  | close none opened => simp [System.toGo, opened]; omega
  | take idle next => simp [System.toGo, idle, next, Strand.toGo]; omega
  | writeDirents here => simp [System.toGo, here, Strand.toGo]; omega
  | writeInodes here => simp [System.toGo, here, Strand.toGo]; omega
  | spawn here free => simp [System.toGo, here, Strand.toGo, Job.toGo]; omega
  | work job ran => simp [System.toGo, job, Job.toGo]; omega
  | giveBack job => simp [System.toGo, job, Job.toGo]; omega
  | leave job => simp [System.toGo, job, Job.toGo]; omega
  | finish drained pending =>
    simp only [System.toGo, System.finished, pending]
    rfl

theorem terminates (depth : Nat) : WellFounded fun t s : System σ => Step depth s t :=
  Subrelation.wf (fun step => Nat.lt_of_succ_le (Nat.le_of_eq step.toGo)) (measure System.toGo).wf

theorem Step.of_job {job : Job} (member : job ∈ s.jobs) : ∃ t, Step depth s t := by
  obtain ⟨before, after, split⟩ := List.append_of_mem member
  cases job with
  | returned => exact ⟨_, .leave split⟩
  | working p rest =>
    cases rest with
    | nil => exact ⟨_, .giveBack split⟩
    | cons entry rest => exact ⟨_, .work split rfl⟩

/-! ## One after the other -/

theorem steps_handle (entries : List FileEntry) {p : Processor} (job : s.jobs = [.working p entries]) :
    let done := Scheduler.handle p s.shared.sink entries
    Steps depth s { s with
      jobs := [.working done.1 []]
      shared := { s.shared with sink := done.2.1, failed := s.shared.failed + done.2.2 } } := by
  induction entries generalizing s p with
  | nil =>
    obtain ⟨unposted, queue, closed, strand, jobs, shared, result⟩ := s
    obtain rfl : jobs = [.working p []] := job
    exact .refl
  | cons entry rest ih =>
    have first : s.jobs = [] ++ .working p (entry :: rest) :: [] := job
    rcases ran : run (processEntry entry) p s.shared.sink with ⟨result, q, sink⟩
    let next : System σ := { s with
      jobs := [.working q rest]
      shared := { s.shared with sink, failed := s.shared.failed + failures result } }
    have one : Step depth s next := .work first ran
    have others : Steps depth next _ := ih rfl
    rw [Scheduler.handle_cons, ran]
    dsimp only
    rw [Nat.add_comm _ (failures result), ← Nat.add_assoc]
    exact .head one others

theorem schedule_eq (shared : Scheduler σ) (batch : List FileEntry) {p : Processor} {pool : Pool Processor}
    (free : shared.pool.take? = some (p, pool)) :
    let written := (Sink.write (.inodes (batch.map (·.inode)))
      (Sink.write (.dirents (batch.map (·.dirent))) shared.sink).2).2
    let done := Scheduler.handle p written batch
    shared.schedule batch =
      { pool := pool.put done.1
        sink := done.2.1
        batches := shared.batches + 1
        entries := shared.entries + batch.length
        failed := shared.failed + done.2.2 } := by
  rw [Scheduler.schedule]
  dsimp only
  rw [free]

/-- A batch is posted, written down and handled before the next one is. -/
theorem steps_schedule (room : 0 < depth) {batch : List FileEntry} {rest : List (List FileEntry)}
    (next : s.unposted = batch :: rest) (queue : s.queue = []) (strand : s.strand = .idle) (jobs : s.jobs = [])
    {p : Processor} {pool : Pool Processor} (free : s.shared.pool.take? = some (p, pool)) :
    Steps depth s { s with unposted := rest, shared := s.shared.schedule batch } := by
  obtain ⟨_, _, closed, _, _, shared, result⟩ := s
  obtain rfl : _ = batch :: rest := next
  obtain rfl : _ = [] := queue
  obtain rfl : _ = Strand.idle := strand
  obtain rfl : _ = [] := jobs
  dsimp only at free
  rw [schedule_eq shared batch free]
  refine .head (.post rfl room) (.head (.take rfl rfl) (.head (.writeDirents rfl) (.head (.writeInodes rfl)
    (.head (.spawn rfl free) ?_))))
  refine (steps_handle batch rfl).trans ?_
  have held (q : Processor) : [Job.working q []] = [] ++ .working q [] :: [] := rfl
  have back : [Job.returned] = [] ++ .returned :: [] := rfl
  exact .head (.giveBack (held _)) (.head (.leave back) .refl)

theorem steps_scheduleAll (room : 0 < depth) (batches : List (List FileEntry)) (next : s.unposted = batches)
    (queue : s.queue = []) (strand : s.strand = .idle) (jobs : s.jobs = []) (free : s.shared.pool.idle ≠ []) :
    Steps depth s { s with unposted := [], shared := batches.foldl Scheduler.schedule s.shared } := by
  induction batches generalizing s with
  | nil =>
    obtain ⟨_, _, closed, _, _, shared, result⟩ := s
    obtain rfl : _ = [] := next
    exact .refl
  | cons batch rest ih =>
    obtain ⟨p, others, idle⟩ := List.exists_cons_of_ne_nil free
    have taken : ∃ pool, s.shared.pool.take? = some (p, pool) := by
      rw [Pool.take?, idle]
      exact ⟨_, rfl⟩
    obtain ⟨pool, taken⟩ := taken
    refine (steps_schedule room next queue strand jobs taken).trans (ih rfl queue strand jobs ?_)
    rw [schedule_eq s.shared batch taken]
    exact List.cons_ne_nil _ _

/-- A scheduler that is given batch after batch runs one of the scans that are possible. -/
theorem exists_in_order (room : 0 < depth) (prototype : Processor) (workers : Nat)
    (batches : List (List FileEntry)) (sink : σ) :
    let scheduler := batches.foldl Scheduler.schedule { pool := Pool.create prototype.fresh workers, sink }
    ∃ t, Steps depth (start prototype workers batches sink) t ∧ t.result = some scheduler.finish.1 ∧
      t.shared.sink = scheduler.finish.2 := by
  intro scheduler
  have free : (Pool.create prototype.fresh workers).idle ≠ [] := by simp [Pool.create]
  have all : Steps depth (start prototype workers batches sink) _ :=
    steps_scheduleAll room batches rfl rfl rfl rfl free
  refine ⟨_, (all.tail (.close rfl rfl)).tail (.finish ⟨rfl, rfl, rfl, rfl⟩ rfl), rfl, rfl⟩

/-! ## To the end -/

variable [Sink.Keeps σ] {prototype : Processor} {workers : Nat} {batches : List (List FileEntry)} {sink : σ}

/-- A scan whose queue has room for a batch is never stuck before it has a result. -/
theorem exists_step (room : 0 < depth) (runs : Steps depth (start prototype workers batches sink) s)
    (pending : s.result = none) : ∃ t, Step depth s t := by
  cases strand : s.strand with
  | dirents batch => exact ⟨_, .writeDirents strand⟩
  | inodes batch => exact ⟨_, .writeInodes strand⟩
  | checkout batch =>
    cases free : s.shared.pool.take? with
    | some taken => exact ⟨_, .spawn strand free⟩
    | none =>
      have idle : s.shared.pool.idle = [] := by
        unfold Pool.take? at free
        split at free
        · assumption
        · nomatch free
      -- A processor that is not idle is out, and its job can go on.
      have count := (staffed runs).count
      rw [members, idle, List.nil_append] at count
      have missed : 0 < s.out.length := by omega
      obtain ⟨job, member, _⟩ := List.mem_filterMap.mp (List.getElem_mem missed)
      exact Step.of_job member
  | idle =>
    cases queue : s.queue with
    | cons batch rest => exact ⟨_, .take strand queue⟩
    | nil =>
      cases unposted : s.unposted with
      | cons batch rest => exact ⟨_, .post unposted (by rw [queue]; exact room)⟩
      | nil =>
        cases closed : s.closed with
        | false => exact ⟨_, .close unposted closed⟩
        | true =>
          cases jobs : s.jobs with
          | cons job rest => exact Step.of_job (jobs ▸ List.mem_cons_self)
          | nil => exact ⟨_, .finish ⟨closed, queue, strand, jobs⟩ pending⟩

theorem exists_finished (room : 0 < depth) (runs : Steps depth (start prototype workers batches sink) s) :
    ∃ t, Steps depth s t ∧ t.result ≠ none := by
  induction left : s.toGo generalizing s with
  | zero =>
    cases result : s.result with
    | some _ => exact ⟨s, .refl, result ▸ Option.some_ne_none _⟩
    | none =>
      rw [System.toGo, result] at left
      simp at left
  | succ n ih =>
    cases result : s.result with
    | some _ => exact ⟨s, .refl, result ▸ Option.some_ne_none _⟩
    | none =>
      obtain ⟨t, step⟩ := exists_step room runs result
      have fewer := step.toGo
      obtain ⟨u, rest, ended⟩ := ih (runs.tail step) (by omega)
      exact ⟨u, .head step rest, ended⟩

end System

end Triage
