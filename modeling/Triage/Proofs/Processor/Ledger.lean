import Mathlib.Algebra.BigOperators.Group.List.Basic
import Mathlib.Data.Multiset.AddSub
import Mathlib.Tactic.Abel
import Triage.Proofs.Processor.Report
import Triage.Scheduler

/-! Ledgers. What processors have made and what they still owe is added up without regard to order, so that
it can be compared across processors that share a sink. -/

namespace Triage

/-- Rows of the tables that processors write, what they count, and how many entries failed. -/
@[ext]
structure Ledger where
  hashes : Multiset HashRow := 0
  searchHits : Multiset HitRow := 0
  ruleMatches : Multiset MatchRow := 0
  files : Nat := 0
  bytes : Nat := 0
  hits : Nat := 0
  matched : Nat := 0
  failed : Nat := 0

namespace Ledger

instance : Zero Ledger := ⟨{}⟩

instance : Add Ledger where
  add a b :=
    ⟨a.hashes + b.hashes, a.searchHits + b.searchHits, a.ruleMatches + b.ruleMatches, a.files + b.files,
      a.bytes + b.bytes, a.hits + b.hits, a.matched + b.matched, a.failed + b.failed⟩

instance : AddCommMonoid Ledger where
  add_assoc a b c := by ext1 <;> exact add_assoc _ _ _
  zero_add a := by ext1 <;> exact zero_add _
  add_zero a := by ext1 <;> exact add_zero _
  add_comm a b := by ext1 <;> exact add_comm _ _
  nsmul := nsmulRec

def ofFailed (n : Nat) : Ledger := { failed := n }

theorem ofFailed_add (m n : Nat) : ofFailed (m + n) = ofFailed m + ofFailed n := rfl

end Ledger

def Yield.ledger (y : Yield) : Ledger where
  hashes := y.rows.hashes
  searchHits := y.rows.searchHits
  ruleMatches := y.rows.ruleMatches
  files := y.stats.files
  bytes := y.stats.bytes
  hits := y.stats.hits
  matched := y.stats.ruleMatches

theorem Yield.ledger_append (a b : Yield) : (a ++ b).ledger = a.ledger + b.ledger := rfl

namespace Processor

def kept (p : Processor) : Ledger := Yield.ledger ⟨p.rows, p.stats⟩

variable {σ : Type} [Sink σ] [Sink.Keeps σ]

def accepted (s : σ) : Ledger := Yield.ledger ⟨(Sink.Keeps.tables s).taken, {}⟩

def failures {α : Type} : Except ProcessError α → Nat
  | .ok _ => 0
  | .error _ => 1

/-- What an entry that was not processed yet will add. -/
def due (e : Engine) (size : Nat) (entry : FileEntry) : Ledger :=
  (entryReport e size entry).2.ledger + .ofFailed (failures (entryReport e size entry).1)

theorem accepted_add_kept (p : Processor) (s : σ) :
    accepted s + p.kept = Yield.ledger ⟨held (p, s), p.stats⟩ := by
  have stats : ({} : ProcessorStats) + p.stats = p.stats := by
    ext <;> exact Nat.zero_add _
  rw [accepted, kept, ← Yield.ledger_append, Yield.append_def, stats]
  rfl

theorem Grows.ledger {made : Yield} {p q : Processor} {s t : σ} (grows : Grows made (p, s) (q, t)) :
    accepted t + q.kept = accepted s + p.kept + made.ledger := by
  rw [accepted_add_kept, accepted_add_kept, grows.rows, grows.stats, ← Yield.ledger_append]
  rfl

/-- Rows that are kept come to the sink in a flush, and what is counted stays. -/
def counted (p : Processor) : Ledger := Yield.ledger ⟨{}, p.stats⟩

variable [Sink.Reliable σ]

omit [Sink.Keeps σ] [Sink σ] [Sink.Reliable σ] in
theorem ledger_total (rows : RowBuffer) (stats : ProcessorStats) (failed : Nat) :
    Yield.ledger ⟨rows, {}⟩ + Yield.ledger ⟨{}, stats⟩ + .ofFailed failed =
      ⟨rows.hashes, rows.searchHits, rows.ruleMatches, stats.files, stats.bytes, stats.hits,
        stats.ruleMatches, failed⟩ := by
  change (⟨rows.hashes + (0 : Multiset HashRow) + 0, rows.searchHits + (0 : Multiset HitRow) + 0,
    rows.ruleMatches + (0 : Multiset MatchRow) + 0, 0 + stats.files + 0, 0 + stats.bytes + 0,
    0 + stats.hits + 0, 0 + stats.ruleMatches + 0, 0 + 0 + failed⟩ : Ledger) = _
  simp only [add_zero, zero_add]

theorem ledger_processEntry (entry : FileEntry) (p : Processor) (s : σ) :
    let after := run (processEntry entry) p s
    accepted after.2.2 + after.2.1.kept + .ofFailed (failures after.1) =
      accepted s + p.kept + due p.engine p.chunkSize entry := by
  obtain ⟨result, made⟩ := processEntry_reported entry p s
  have grows := processEntry_grows entry p s
  rw [made] at grows
  intro after
  rw [grows.ledger, result, due, add_assoc]

theorem ledger_flush (p : Processor) (s : σ) :
    let after := run flush p s
    after.1 = .ok () ∧ accepted after.2.2 + p.counted = accepted s + p.kept := by
  have ok : (run flush p s).1 = .ok () := succeeds_flush p s
  have grows := quiet_flush p s
  rcases ran : run flush p s with ⟨result, q, t⟩
  rw [ran] at ok grows
  obtain rfl : result = .ok () := ok
  have counted : q.kept = p.counted := by
    have stats : q.stats = p.stats + {} := grows.stats
    rw [kept, rows_flush ran, stats]
    rfl
  have whole := grows.ledger
  rw [counted] at whole
  exact ⟨rfl, whole.trans (add_zero _)⟩

end Processor

namespace Scheduler
open Processor
variable {σ : Type} [Sink σ] [Sink.Keeps σ] [Sink.Reliable σ]

omit [Sink.Keeps σ] [Sink.Reliable σ] in
theorem handle_cons (entry : FileEntry) (rest : List FileEntry) (p : Processor) (s : σ) :
    handle p s (entry :: rest) =
      let one := run (processEntry entry) p s
      let others := handle one.2.1 one.2.2 rest
      (others.1, others.2.1, others.2.2 + failures one.1) := by
  rw [handle]
  rcases run (processEntry entry) p s with ⟨result, q, t⟩
  cases result <;> rfl

theorem ledger_handle (entries : List FileEntry) (p : Processor) (s : σ) :
    let after := handle p s entries
    accepted after.2.1 + after.1.kept + .ofFailed after.2.2 =
      accepted s + p.kept + (entries.map (due p.engine p.chunkSize)).sum := by
  induction entries generalizing p s with
  | nil => rfl
  | cons entry rest ih =>
    have one := ledger_processEntry entry p s
    have grows := processEntry_grows entry p s
    rw [handle_cons]
    rcases ran : run (processEntry entry) p s with ⟨result, q, t⟩
    rw [ran] at one grows
    have engine : q.engine = p.engine := grows.engine
    have size : q.chunkSize = p.chunkSize := grows.chunkSize
    have others := ih q t
    rw [engine, size] at others
    dsimp only at one others ⊢
    rw [Ledger.ofFailed_add, ← add_assoc, others, List.map_cons, List.sum_cons, ← add_assoc, ← one]
    abel

/-- A processor that handles all entries, the sink once it has flushed, and how many entries failed. -/
def alone (prototype : Processor) (s : σ) (entries : List FileEntry) : Processor × σ × Nat :=
  let after := handle prototype.fresh s entries
  (after.1, (run flush after.1 after.2.1).2.2, after.2.2)

theorem ledger_alone (prototype : Processor) (s : σ) (entries : List FileEntry) :
    let after := alone prototype s entries
    accepted after.2.1 + after.1.counted + .ofFailed after.2.2 =
      accepted s + (entries.map (due prototype.engine prototype.chunkSize)).sum := by
  intro after
  have handled := ledger_handle entries prototype.fresh s
  have flushed := (ledger_flush (handle prototype.fresh s entries).1 (handle prototype.fresh s entries).2.1).2
  have kept : prototype.fresh.kept = 0 := rfl
  dsimp only at handled
  rw [kept, add_zero, ← flushed] at handled
  exact handled

end Scheduler

end Triage
