import Triage.Proofs.Scheduler.Steps

/-! Accounts of a scan. No step changes what the scan will have made in the end: rows and counts move from
what is due to processors and from these to the sink, and batches move on in their order. -/

namespace Triage
open Processor

theorem Pool.take?_eq_some {α : Type} {pool next : Pool α} {a : α}
    (taken : pool.take? = some (a, next)) :
    pool.idle = a :: next.idle ∧ next.inUse = pool.inUse + 1 := by
  unfold take? at taken
  split at taken
  · nomatch taken
  · rename_i b rest idle
    obtain ⟨rfl, rfl⟩ := Prod.mk.inj (Option.some.inj taken)
    exact ⟨idle, rfl⟩

namespace Strand

/-- The entries that no job has yet. -/
def batch : Strand → List FileEntry
  | idle => []
  | dirents batch | inodes batch | checkout batch => batch

/-- The entries whose names are not written yet. -/
def unnamed : Strand → List FileEntry
  | dirents batch => batch
  | idle | inodes _ | checkout _ => []

/-- The entries whose metadata are not written yet. -/
def undescribed : Strand → List FileEntry
  | dirents batch | inodes batch => batch
  | idle | checkout _ => []

end Strand

namespace Job

def processor? : Job → Option Processor
  | working p _ => some p
  | returned => none

@[simp] theorem processor?_working (p : Processor) (rest : List FileEntry) :
    (working p rest).processor? = some p := rfl

@[simp] theorem processor?_returned : returned.processor? = none := rfl

def ledger (e : Engine) (size : Nat) : Job → Ledger
  | working p rest => p.kept + (rest.map (due e size)).sum
  | returned => 0

end Job

/-- What a scan comes to: all that is made, the tables that are written in order, and how many batches and
entries there are. -/
@[ext]
structure Account where
  ledger : Ledger
  dirents : List Dirent
  inodes : List Inode
  batches : Nat
  entries : Nat

namespace System
variable {σ : Type} [Sink σ] [Sink.Keeps σ]

def ahead (s : System σ) : List FileEntry := (s.queue ++ s.unposted).flatten

def account (e : Engine) (size : Nat) (s : System σ) : Account where
  ledger :=
    accepted s.shared.sink + (s.shared.pool.idle.map kept).sum + (s.jobs.map (Job.ledger e size)).sum +
      ((s.strand.batch ++ s.ahead).map (due e size)).sum + .ofFailed s.shared.failed
  dirents := (Sink.Keeps.tables s.shared.sink).dirents ++ (s.strand.unnamed ++ s.ahead).map (·.dirent)
  inodes := (Sink.Keeps.tables s.shared.sink).inodes ++ (s.strand.undescribed ++ s.ahead).map (·.inode)
  batches := s.shared.batches + s.queue.length + s.unposted.length
  entries := s.shared.entries + s.ahead.length

def out (s : System σ) : List Processor := s.jobs.filterMap Job.processor?

def members (s : System σ) : List Processor := s.shared.pool.idle ++ s.out

/-- The processors of a scan are alike and none of them gets lost. -/
structure Staffed (e : Engine) (size workers : Nat) (s : System σ) : Prop where
  alike : ∀ p ∈ s.members, p.engine = e ∧ p.chunkSize = size
  count : s.members.length = workers
  inUse : s.shared.pool.inUse = s.out.length

variable {e : Engine} {size workers depth : Nat} {s t : System σ}

theorem account_start (prototype : Processor) (batches : List (List FileEntry)) (sink : σ) :
    (start prototype workers batches sink).account e size =
      ⟨accepted sink + (batches.flatten.map (due e size)).sum,
        (Sink.Keeps.tables sink).dirents ++ batches.flatten.map (·.dirent),
        (Sink.Keeps.tables sink).inodes ++ batches.flatten.map (·.inode), batches.length,
        batches.flatten.length⟩ := by
  have kept : prototype.fresh.kept = 0 := rfl
  have failed : Ledger.ofFailed 0 = 0 := rfl
  ext1 <;> simp [account, start, ahead, Pool.create, Strand.batch, Strand.unnamed, Strand.undescribed, kept,
    failed]

omit [Sink σ] [Sink.Keeps σ] in
theorem staffed_start (prototype : Processor) (batches : List (List FileEntry)) (sink : σ) :
    (start prototype workers batches sink).Staffed prototype.engine prototype.chunkSize (max workers 1) where
  alike p member := by
    have same : p = prototype.fresh := by simpa [start, Pool.create, members, out] using member
    rw [same]
    exact ⟨rfl, rfl⟩
  count := by simp [start, Pool.create, members, out]
  inUse := rfl

omit [Sink σ] [Sink.Keeps σ] in
theorem Staffed.of_perm (staffed : Staffed e size workers s) (perm : t.members.Perm s.members)
    (inUse : t.shared.pool.inUse = t.out.length) : Staffed e size workers t :=
  ⟨fun p member => staffed.alike p (perm.mem_iff.mp member), perm.length_eq.trans staffed.count, inUse⟩

theorem Step.staffed (staffed : Staffed e size workers s) (step : Step depth s t) :
    Staffed e size workers t := by
  have inUse := staffed.inUse
  cases step with
  | @spawn batch p pool here free =>
    obtain ⟨idle, more⟩ := Pool.take?_eq_some free
    refine staffed.of_perm ?_ (by simp [more, inUse, out])
    simp only [members, out, idle, List.filterMap_append, ← List.append_assoc]
    exact List.perm_append_singleton p _
  | @work before after p q entry rest result sink job ran =>
    have grows := processEntry_grows entry p s.shared.sink
    rw [ran] at grows
    have engine : q.engine = p.engine := grows.engine
    have size : q.chunkSize = p.chunkSize := grows.chunkSize
    obtain ⟨alike, count, _⟩ := staffed
    simp only [members, out, job, List.filterMap_append, List.filterMap_cons, Job.processor?_working,
      List.forall_mem_append, List.forall_mem_cons] at alike count inUse
    obtain ⟨idle, first, own, last⟩ := alike
    refine ⟨?_, ?_, ?_⟩
    · simp only [members, out, List.filterMap_append, List.filterMap_cons, Job.processor?_working,
        List.forall_mem_append, List.forall_mem_cons]
      exact ⟨idle, first, ⟨engine.trans own.1, size.trans own.2⟩, last⟩
    · simpa [members, out, List.filterMap_cons] using count
    · simpa [out, List.filterMap_cons] using inUse
  | @giveBack before after p job =>
    refine staffed.of_perm ?_ ?_
    · simp only [members, out, job, Pool.put, List.filterMap_append, List.filterMap_cons, Job.processor?_working,
        Job.processor?_returned, ← List.append_assoc]
      exact List.perm_middle.symm
    · simp [out, job, Pool.put, List.filterMap_cons] at inUse ⊢
      omega
  | leave job =>
    exact staffed.of_perm (by simp [members, out, job, List.filterMap_cons])
      (by simpa [out, job, List.filterMap_cons] using inUse)
  | post | close | take | writeDirents | writeInodes | finish => exact staffed.of_perm (.refl _) inUse

variable {prototype : Processor} {batches : List (List FileEntry)} {sink : σ}

theorem staffed (runs : Steps depth (start prototype workers batches sink) t) :
    t.Staffed prototype.engine prototype.chunkSize (max workers 1) := by
  induction runs with
  | refl => exact staffed_start prototype batches sink
  | tail _ step ih => exact step.staffed ih

variable [Sink.Reliable σ]

theorem tables_write (rows : Rows) (s : σ) :
    Sink.Keeps.tables (Sink.write rows s).2 = (Sink.Keeps.tables s).add rows :=
  Sink.Keeps.write_ok rows s (Sink.Reliable.write rows s)

omit [Sink σ] [Sink.Keeps σ] [Sink.Reliable σ] in
theorem jobs_sum (before after : List Job) (job : Job) :
    ((before ++ job :: after).map (Job.ledger e size)).sum =
      (before.map (Job.ledger e size)).sum + (job.ledger e size + (after.map (Job.ledger e size)).sum) := by
  rw [List.map_append, List.map_cons, List.sum_append, List.sum_cons]

/-- No step but the last changes what a scan comes to. -/
theorem Step.account (staffed : Staffed e size workers s) (step : Step depth s t)
    (pending : t.result = none) : t.account e size = s.account e size := by
  cases step with
  | post next room =>
    ext1 <;> simp [System.account, System.ahead, next]
    omega
  | close posted opened => rfl
  | take idle next =>
    ext1 <;> simp [System.account, System.ahead, idle, next, Strand.batch, Strand.unnamed, Strand.undescribed]
    all_goals omega
  | @writeDirents batch here =>
    have tables := tables_write (.dirents (batch.map (·.dirent))) s.shared.sink
    ext1 <;> simp [System.account, System.ahead, accepted, tables, here, Strand.batch, Strand.unnamed,
      Strand.undescribed, MemoryTables.add, MemoryTables.taken]
  | @writeInodes batch here =>
    have tables := tables_write (.inodes (batch.map (·.inode))) s.shared.sink
    ext1 <;> simp [System.account, System.ahead, accepted, tables, here, Strand.batch, Strand.unnamed,
      Strand.undescribed, MemoryTables.add, MemoryTables.taken]
  | spawn here free =>
    obtain ⟨idle, _⟩ := Pool.take?_eq_some free
    ext1
    · simp only [System.account, System.ahead, here, idle, Strand.batch, Job.ledger, List.map_append,
        List.map_cons, List.sum_append, List.sum_cons, List.map_nil, List.sum_nil, List.nil_append]
      abel
    all_goals simp [System.account, here, Strand.unnamed, Strand.undescribed, System.ahead]
  | @work before after p q entry rest result sink job ran =>
    have one := ledger_processEntry entry p s.shared.sink
    have grows := (processEntry_grows entry p s.shared.sink).others
    have member : p ∈ s.members := by simp [System.members, System.out, job]
    rw [ran, (staffed.alike p member).1, (staffed.alike p member).2] at one
    rw [ran] at grows
    have dirents := congrArg MemoryTables.dirents grows
    have inodes := congrArg MemoryTables.inodes grows
    ext1
    · -- All that the step leaves alone.
      let others := (s.shared.pool.idle.map kept).sum + (before.map (Job.ledger e size)).sum +
        (rest.map (due e size)).sum + (after.map (Job.ledger e size)).sum +
        ((s.strand.batch ++ s.ahead).map (due e size)).sum + .ofFailed s.shared.failed
      simp only [System.account, job, jobs_sum, Job.ledger, List.map_cons, List.sum_cons, Ledger.ofFailed_add]
      calc _ = accepted sink + q.kept + .ofFailed (failures result) + others := by
            simp only [others, System.ahead]
            abel
        _ = accepted s.shared.sink + p.kept + due e size entry + others := by rw [one]
        _ = _ := by
            simp only [others, System.ahead]
            abel
    · exact congrArg (· ++ (s.strand.unnamed ++ s.ahead).map (·.dirent)) dirents
    · exact congrArg (· ++ (s.strand.undescribed ++ s.ahead).map (·.inode)) inodes
    · rfl
    · rfl
  | giveBack job =>
    ext1
    · simp only [System.account, System.ahead, job, jobs_sum, Job.ledger, Pool.put, List.map_cons, List.map_nil,
        List.sum_cons, List.sum_nil]
      abel
    all_goals rfl
  | leave job =>
    ext1
    · simp only [System.account, System.ahead, job, List.map_append, List.map_cons, List.sum_append,
        List.sum_cons, Job.ledger, zero_add]
    all_goals rfl
  | finish drained => cases pending

theorem account_eq (runs : Steps depth (start prototype workers batches sink) t) (pending : t.result = none) :
    t.account prototype.engine prototype.chunkSize =
      (start prototype workers batches sink).account prototype.engine prototype.chunkSize := by
  induction runs with
  | refl => rfl
  | tail before step ih => exact (step.account (staffed before) pending).trans (ih (step.result pending))

end System

end Triage
