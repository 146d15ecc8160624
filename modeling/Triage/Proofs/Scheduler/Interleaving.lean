import Triage.Proofs.Scheduler.Progress

/-! Interleavings. However the steps of a scan come, it makes what one processor makes of all entries. -/

namespace Triage
open Processor

namespace Scheduler
variable {σ : Type} [Sink σ] [Sink.Keeps σ] [Sink.Reliable σ]

theorem ledger_flushAll (ps : List Processor) (s : σ) :
    let after := flushAll s ps
    after.1 = none ∧ accepted after.2 + (ps.map counted).sum = accepted s + (ps.map kept).sum ∧
      (Sink.Keeps.tables after.2).others = (Sink.Keeps.tables s).others := by
  induction ps generalizing s with
  | nil => exact ⟨rfl, rfl, rfl⟩
  | cons p rest ih =>
    obtain ⟨ok, moved⟩ := ledger_flush p s
    have grows := (quiet_flush p s).others
    rw [flushAll]
    rcases ran : run flush p s with ⟨result, q, t⟩
    rw [ran] at ok moved grows
    obtain rfl : result = .ok () := ok
    obtain ⟨none, others, same⟩ := ih t
    refine ⟨none, ?_, same.trans grows⟩
    dsimp only at moved ⊢
    simp only [List.map_cons, List.sum_cons]
    calc _ = accepted (flushAll t rest).2 + (rest.map counted).sum + p.counted := by abel
      _ = accepted t + p.counted + (rest.map kept).sum := by rw [others]; abel
      _ = _ := by rw [moved, add_assoc]

theorem sum_counted (ps : List Processor) :
    (ps.map counted).sum =
      let sum (f : ProcessorStats → Nat) : Nat := (ps.map fun p => f p.stats).foldr (· + ·) 0
      Yield.ledger ⟨{}, ⟨sum (·.files), sum (·.bytes), sum (·.hits), sum (·.ruleMatches)⟩⟩ := by
  induction ps with
  | nil => rfl
  | cons p rest ih =>
    rw [List.map_cons, List.sum_cons, ih]
    rfl

theorem finish_reliable (s : Scheduler σ) :
    s.finish.1 = .ok s.stats ∧
      accepted s.finish.2 + (s.pool.idle.map counted).sum = accepted s.sink + (s.pool.idle.map kept).sum ∧
      (Sink.Keeps.tables s.finish.2).others = (Sink.Keeps.tables s.sink).others := by
  obtain ⟨none, moved, others⟩ := ledger_flushAll s.pool.idle.reverse s.sink
  have ok := Sink.Reliable.flush (flushAll s.sink s.pool.idle.reverse).2
  have tables := Sink.Keeps.flush (flushAll s.sink s.pool.idle.reverse).2
  have same : s.finish = (.ok s.stats, (Sink.flush (flushAll s.sink s.pool.idle.reverse).2).2) := by
    rw [finish]
    rcases flushed : flushAll s.sink s.pool.idle.reverse with ⟨failure, after⟩
    rw [flushed] at none ok
    obtain rfl : failure = Option.none := none
    dsimp only at ok ⊢
    rcases ended : Sink.flush after with ⟨result, last⟩
    rw [ended] at ok
    obtain rfl : result = .ok () := ok
    rfl
  rw [same]
  refine ⟨rfl, ?_, (congrArg MemoryTables.others tables).trans others⟩
  rw [List.map_reverse, List.map_reverse, List.sum_reverse, List.sum_reverse] at moved
  rw [← moved, accepted, tables]
  rfl

end Scheduler

namespace System
variable {σ : Type} [Sink σ] [Sink.Keeps σ] [Sink.Reliable σ] {depth workers : Nat} {prototype : Processor}
  {batches : List (List FileEntry)} {sink : σ} {t : System σ}

/-- What a scan has in common with one processor that handles all entries in their order. -/
structure LikeOne (scheduled : List (List FileEntry)) (before after : σ) (stats : ScanStats)
    (reference : Processor × σ × Nat) : Prop where
  dirents : (Sink.Keeps.tables after).dirents =
    (Sink.Keeps.tables before).dirents ++ scheduled.flatten.map (·.dirent)
  inodes : (Sink.Keeps.tables after).inodes =
    (Sink.Keeps.tables before).inodes ++ scheduled.flatten.map (·.inode)
  hashes : (Sink.Keeps.tables after).hashes.Perm (Sink.Keeps.tables reference.2.1).hashes
  searchHits : (Sink.Keeps.tables after).searchHits.Perm (Sink.Keeps.tables reference.2.1).searchHits
  ruleMatches : (Sink.Keeps.tables after).ruleMatches.Perm (Sink.Keeps.tables reference.2.1).ruleMatches
  batches : stats.batches = scheduled.length
  entries : stats.entries = scheduled.flatten.length
  files : stats.files = reference.1.stats.files
  bytes : stats.bytes = reference.1.stats.bytes
  hits : stats.hits = reference.1.stats.hits
  matched : stats.ruleMatches = reference.1.stats.ruleMatches
  failed : stats.failed = reference.2.2

/-- However the steps of a scan interleave, its result is that of one processor which handles all entries in
turn: names and metadata are written in the order of the batches, the other tables have the same rows, and
the counts are the same. When the last step flushes the pool, all its processors are there. -/
theorem scan_like_one (runs : Steps depth (start prototype workers batches sink) t)
    (finished : t.result ≠ none) :
    ∃ s stats, Steps depth (start prototype workers batches sink) s ∧ t = s.finished ∧
      s.shared.pool.idle.length = max workers 1 ∧ s.shared.pool.inUse = 0 ∧
      t.result = some (.ok stats) ∧
      LikeOne batches sink t.shared.sink stats (Scheduler.alone prototype sink batches.flatten) := by
  obtain ⟨s, before, drained, pending, rfl⟩ := ended runs finished
  have staff := staffed before
  have account := account_eq before pending
  have ahead : s.ahead = [] := by rw [System.ahead, drained.queue, posted before drained.closed]; rfl
  have none : s.out = [] := by rw [out, drained.jobs]; rfl
  obtain ⟨ok, moved, others⟩ := s.shared.finish_reliable
  rw [account_start, System.account, ahead, drained.jobs, drained.strand, drained.queue,
    posted before drained.closed, Account.mk.injEq] at account
  obtain ⟨ledger, dirents, inodes, batchCount, entryCount⟩ := account
  refine ⟨s, s.shared.stats, before, rfl, ?_, ?_, congrArg some ok, ?_⟩
  · have count := staff.count
    rwa [members, none, List.append_nil] at count
  · rw [staff.inUse, none]
    rfl
  · have alone := Scheduler.ledger_alone prototype sink batches.flatten
    -- Before the flush the account is that of the start, and the flush only moves what is kept.
    have total : accepted s.shared.finish.2 + (s.shared.pool.idle.map counted).sum + .ofFailed s.shared.failed =
        accepted (Scheduler.alone prototype sink batches.flatten).2.1 +
          (Scheduler.alone prototype sink batches.flatten).1.counted +
          .ofFailed (Scheduler.alone prototype sink batches.flatten).2.2 := by
      rw [moved, alone, ← ledger]
      simp [Strand.batch]
    rw [Scheduler.sum_counted, accepted, accepted, counted, ledger_total, ledger_total, Ledger.mk.injEq] at total
    obtain ⟨hashes, searchHits, ruleMatches, files, bytes, hits, matched, failed⟩ := total
    exact {
      dirents := (congrArg MemoryTables.dirents others).trans ((List.append_nil _).symm.trans dirents)
      inodes := (congrArg MemoryTables.inodes others).trans ((List.append_nil _).symm.trans inodes)
      hashes := Multiset.coe_eq_coe.mp hashes
      searchHits := Multiset.coe_eq_coe.mp searchHits
      ruleMatches := Multiset.coe_eq_coe.mp ruleMatches
      batches := batchCount
      entries := entryCount
      files := files
      bytes := bytes
      hits := hits
      matched := matched
      failed := failed }

def noteEntry : FileEntry := { dirent := note, inode := noteInode }

def lostEntry : FileEntry :=
  { noteEntry with content := some { bytes := [1], seekFailures := [(0, "gone")] } }

theorem lostEntry_scanned :
    ∃ (t : System MemoryTables) (stats : ScanStats),
      Steps 1 (start eager 2 [[noteEntry], [lostEntry, noteEntry]] {}) t ∧ t.result = some (.ok stats) ∧
        t.shared.sink.dirents = [note, note, note] ∧
        t.shared.sink.ruleMatches = List.replicate 2 ⟨"0f", "/notes", "todo", 7⟩ ∧ stats.failed = 1 := by
  let origin : System MemoryTables := start eager 2 [[noteEntry], [lostEntry, noteEntry]] {}
  have none : Steps 1 origin origin := .refl
  obtain ⟨t, runs, ended⟩ := exists_finished Nat.one_pos none
  obtain ⟨_, stats, _, _, _, _, result, like⟩ := scan_like_one runs ended
  refine ⟨t, stats, runs, result, like.dirents, ?_, like.failed⟩
  -- Equal rows have one order only.
  exact List.perm_replicate.mp like.ruleMatches

end System

end Triage
