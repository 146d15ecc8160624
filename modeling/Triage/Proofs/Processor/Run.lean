import Mathlib.Data.List.Basic
import Triage.Processor
import Triage.Sink.Journal
import Triage.Sink.Memory

/-! Runs of a processor, and where its rows are. A row that was made is in the sink or still kept; giving
rows to the sink moves them, and loses none when the sink refuses them. -/

namespace Triage

attribute [ext] RowBuffer ProcessorStats

namespace RowBuffer

instance : Append RowBuffer where
  append a b :=
    ⟨a.hashes ++ b.hashes, a.searchHits ++ b.searchHits, a.ruleMatches ++ b.ruleMatches⟩

theorem append_def (a b : RowBuffer) :
    a ++ b = ⟨a.hashes ++ b.hashes, a.searchHits ++ b.searchHits, a.ruleMatches ++ b.ruleMatches⟩ := rfl

theorem append_assoc (a b c : RowBuffer) : a ++ b ++ c = a ++ (b ++ c) := by
  simp only [append_def, List.append_assoc]

@[simp] theorem append_empty (a : RowBuffer) : a ++ ({} : RowBuffer) = a := by
  simp only [append_def, List.append_nil]

@[simp] theorem empty_append (a : RowBuffer) : ({} : RowBuffer) ++ a = a := rfl

end RowBuffer

instance : Add ProcessorStats where
  add a b := ⟨a.files + b.files, a.bytes + b.bytes, a.hits + b.hits, a.ruleMatches + b.ruleMatches⟩

/-- What some work adds: rows, and what it counts. -/
@[ext]
structure Yield where
  rows : RowBuffer := {}
  stats : ProcessorStats := {}

namespace Yield

instance : Append Yield where
  append a b := ⟨a.rows ++ b.rows, a.stats + b.stats⟩

theorem append_def (a b : Yield) : a ++ b = ⟨a.rows ++ b.rows, a.stats + b.stats⟩ := rfl

@[simp] theorem append_empty (a : Yield) : a ++ ({} : Yield) = a := by
  rw [append_def, RowBuffer.append_empty]
  rfl

@[simp] theorem empty_append (a : Yield) : ({} : Yield) ++ a = a := by
  rw [append_def, RowBuffer.empty_append]
  congr 1
  ext <;> exact Nat.zero_add _

end Yield

/-! ## Sinks -/

namespace MemoryTables

/-- The tables that processors write. -/
def taken (t : MemoryTables) : RowBuffer := ⟨t.hashes, t.searchHits, t.ruleMatches⟩

def others (t : MemoryTables) : MemoryTables :=
  { t with hashes := [], searchHits := [], ruleMatches := [] }

end MemoryTables

/-- A sink that can be asked for the rows it has accepted. A write that fails leaves none behind. -/
class Sink.Keeps (σ : Type) [Sink σ] where
  tables : σ → MemoryTables
  write_ok : ∀ rows s, (Sink.write rows s).1 = .ok () →
    tables (Sink.write rows s).2 = (tables s).add rows
  write_error : ∀ rows s e, (Sink.write rows s).1 = .error e →
    tables (Sink.write rows s).2 = tables s
  flush : ∀ s : σ, tables (Sink.flush s).2 = tables s

class Sink.Reliable (σ : Type) [Sink σ] : Prop where
  write : ∀ rows (s : σ), (Sink.write rows s).1 = .ok ()
  flush : ∀ s : σ, (Sink.flush s).1 = .ok ()

instance : Sink.Keeps MemoryTables where
  tables t := { t with flushes := 0 }
  write_ok rows t _ := by cases rows <;> rfl
  write_error rows t e failed := nomatch failed
  flush t := rfl

instance : Sink.Reliable MemoryTables where
  write _ _ := rfl
  flush _ := rfl

def Journal.tables (j : Journal) : MemoryTables :=
  j.entries.foldr
    (fun entry t =>
      match entry with
      | ⟨.write rows, true⟩ => t.add rows
      | _ => t)
    {}

instance : Sink.Keeps Journal where
  tables := Journal.tables
  write_ok rows j ok := by
    cases accepted : !j.refused.contains (some rows.table, j.callsOn (some rows.table)) with
    | true => simp only [Sink.write, Journal.call, SinkCall.table?, accepted, Journal.tables, List.foldr_cons]
    | false =>
      simp only [Sink.write, Journal.call, SinkCall.table?, accepted] at ok
      nomatch ok
  write_error rows j e failed := by
    cases accepted : !j.refused.contains (some rows.table, j.callsOn (some rows.table)) with
    | true =>
      simp only [Sink.write, Journal.call, SinkCall.table?, accepted] at failed
      nomatch failed
    | false => simp only [Sink.write, Journal.call, SinkCall.table?, accepted, Journal.tables, List.foldr_cons]
  flush j := rfl

/-! ## Work -/

namespace Processor
variable {σ α β : Type}

theorem run_bind (w : Work σ α) (f : α → Work σ β) (p : Processor) (s : σ) :
    run (w >>= f) p s = match run w p s with
      | (.ok a, p, s) => run (f a) p s
      | (.error e, p, s) => (.error e, p, s) := by
  simp only [run, bind, ExceptT.bind, ExceptT.run, ExceptT.mk, StateT.bind, StateT.run,
    ExceptT.bindCont]
  rcases w (p, s) with ⟨result, p, s⟩
  cases result <;> rfl

theorem run_bind_of_ok {w : Work σ α} {a : α} {p : Processor} {s : σ} (ok : (run w p s).1 = .ok a)
    (f : α → Work σ β) : run (w >>= f) p s = run (f a) (run w p s).2.1 (run w p s).2.2 := by
  rw [run_bind]
  rcases ran : run w p s with ⟨result, q, t⟩
  rw [ran] at ok
  obtain rfl : result = .ok a := ok
  rfl

theorem run_map (f : α → β) (w : Work σ α) (p : Processor) (s : σ) :
    run (f <$> w) p s = ((run w p s).1.map f, (run w p s).2) := by
  rw [map_eq_pure_bind, run_bind]
  rcases run w p s with ⟨result, after⟩
  cases result <;> rfl

theorem run_discard (w : Work σ α) (p : Processor) (s : σ) :
    run (discard w) p s = ((run w p s).1.map fun _ => (), (run w p s).2) :=
  run_map (fun _ => ()) w p s

theorem run_bind_ok {w : Work σ α} {f : α → Work σ β} {p p' : Processor} {s s' : σ} {b : β}
    (ran : run (w >>= f) p s = (.ok b, p', s')) :
    ∃ a q t, run w p s = (.ok a, q, t) ∧ run (f a) q t = (.ok b, p', s') := by
  rw [run_bind] at ran
  rcases first : run w p s with ⟨result, q, t⟩
  rw [first] at ran
  cases result with
  | ok a => exact ⟨a, q, t, rfl, ran⟩
  | error e => nomatch ran

section
variable [Sink σ]

theorem run_send (rows : Rows) (p : Processor) (s : σ) :
    run (send rows) p s =
      match (Sink.write rows s).1 with
      | .ok () => (.ok (), p, (Sink.write rows s).2)
      | .error e => (.error (.sink e), p, (Sink.write rows s).2) := by
  have asked : run (send rows) p s = run (match (Sink.write rows s).1 with
      | .ok () => pure ()
      | .error e => throw (.sink e) : Work σ Unit) p (Sink.write rows s).2 := rfl
  rw [asked]
  cases (Sink.write rows s).1 <;> rfl

theorem run_sendTable (kept : RowBuffer → List α) (table : List α → Rows)
    (clear : RowBuffer → RowBuffer) (p : Processor) (s : σ) :
    run (sendTable kept table clear) p s =
      if (kept p.rows).isEmpty then (.ok (), p, s)
      else
        match (Sink.write (table (kept p.rows)) s).1 with
        | .ok () => (.ok (), { p with rows := clear p.rows }, (Sink.write (table (kept p.rows)) s).2)
        | .error e => (.error (.sink e), p, (Sink.write (table (kept p.rows)) s).2) := by
  have asked : run (sendTable kept table clear) p s =
      run (if !(kept p.rows).isEmpty then
        send (table (kept p.rows)) >>= fun _ => modifyRows clear else pure ()) p s := rfl
  rw [asked]
  cases (kept p.rows).isEmpty with
  | true => rfl
  | false =>
    change run (send (table (kept p.rows)) >>= fun _ => modifyRows clear) p s = _
    rw [run_bind, run_send]
    cases (Sink.write (table (kept p.rows)) s).1 <;> rfl

theorem run_flushFull (p : Processor) (s : σ) :
    run flushFull p s = if p.batchSize ≤ p.rows.size then run flush p s else (.ok (), p, s) := by
  have asked : run flushFull p s =
      run (if p.batchSize ≤ p.rows.size then flush else pure ()) p s := rfl
  rw [asked]
  split <;> rfl

theorem run_flushFullHits (p : Processor) (s : σ) :
    run flushFullHits p s =
      if p.batchSize ≤ p.rows.searchHits.length then run sendHits p s else (.ok (), p, s) := by
  have asked : run flushFullHits p s =
      run (if p.batchSize ≤ p.rows.searchHits.length then sendHits else pure ()) p s := rfl
  rw [asked]
  split <;> rfl

theorem rows_sendTable {kept : RowBuffer → List α} {table : List α → Rows}
    {clear : RowBuffer → RowBuffer} (still : ∀ b, kept b = [] → clear b = b) {p p' : Processor}
    {s s' : σ} (ran : run (sendTable kept table clear) p s = (.ok (), p', s')) :
    p'.rows = clear p.rows := by
  rw [run_sendTable] at ran
  split at ran
  · rename_i empty
    obtain ⟨_, rfl, _⟩ := ran
    exact (still _ (List.isEmpty_iff.mp empty)).symm
  · cases result : (Sink.write (table (kept p.rows)) s).1 with
    | ok =>
      rw [result] at ran
      obtain ⟨_, rfl, _⟩ := ran
      rfl
    | error e =>
      rw [result] at ran
      nomatch ran

theorem rows_flush {p p' : Processor} {s s' : σ} (ran : run flush p s = (.ok (), p', s')) :
    p'.rows = {} := by
  obtain ⟨_, q, t, hashes, ran⟩ := run_bind_ok ran
  obtain ⟨_, q', t', hits, matched⟩ := run_bind_ok ran
  have first := rows_sendTable (fun b empty => by rw [← empty]) hashes
  have second := rows_sendTable (fun b empty => by rw [← empty]) hits
  have third := rows_sendTable (fun b empty => by rw [← empty]) matched
  rw [third, second, first]

def Succeeds (w : Work σ Unit) : Prop := ∀ p s, (run w p s).1 = .ok ()

omit [Sink σ] in
theorem Succeeds.bind {w : Work σ Unit} {f : Unit → Work σ Unit} (first : Succeeds w)
    (next : Succeeds (f ())) : Succeeds (w >>= f) := by
  intro p s
  rw [run_bind_of_ok (first p s)]
  exact next _ _

omit [Sink σ] in
theorem Succeeds.result_pure {w : Work σ Unit} (first : Succeeds w) (a : α) (p : Processor) (s : σ) :
    (run (w >>= fun _ => pure a) p s).1 = .ok a := by
  rw [run_bind_of_ok (first p s)]
  rfl

variable [Sink.Reliable σ]

theorem succeeds_sendTable (kept : RowBuffer → List α) (table : List α → Rows)
    (clear : RowBuffer → RowBuffer) : Succeeds (sendTable kept table clear : Work σ Unit) := by
  intro p s
  rw [run_sendTable, Sink.Reliable.write]
  split <;> rfl

theorem succeeds_flush : Succeeds (flush : Work σ Unit) :=
  (succeeds_sendTable _ _ _).bind ((succeeds_sendTable _ _ _).bind (succeeds_sendTable _ _ _))

theorem succeeds_flushFull : Succeeds (flushFull : Work σ Unit) := by
  intro p s
  rw [run_flushFull]
  split
  · exact succeeds_flush p s
  · rfl

theorem succeeds_flushFullHits : Succeeds (flushFullHits : Work σ Unit) := by
  intro p s
  rw [run_flushFullHits]
  split
  · exact succeeds_sendTable _ _ _ p s
  · rfl

end

/-- The rows that the sink has taken, then those still kept. -/
def held [Sink σ] [Sink.Keeps σ] (state : Processor × σ) : RowBuffer :=
  (Sink.Keeps.tables state.2).taken ++ state.1.rows

/-- What a run does that `made` rows: they follow the rows from before, wherever those are, and nothing
else changes that a later run depends on. -/
structure Grows [Sink σ] [Sink.Keeps σ] (made : Yield) (before after : Processor × σ) : Prop where
  engine : after.1.engine = before.1.engine
  chunkSize : after.1.chunkSize = before.1.chunkSize
  batchSize : after.1.batchSize = before.1.batchSize
  rows : held after = held before ++ made.rows
  stats : after.1.stats = before.1.stats + made.stats
  others : (Sink.Keeps.tables after.2).others = (Sink.Keeps.tables before.2).others

variable [Sink σ] [Sink.Keeps σ] {made more : Yield} {before between after : Processor × σ}

theorem Grows.refl (state : Processor × σ) : Grows {} state state :=
  ⟨rfl, rfl, rfl, (RowBuffer.append_empty _).symm, rfl, rfl⟩

theorem Grows.trans (one : Grows made before between) (other : Grows more between after) :
    Grows (made ++ more) before after where
  engine := other.engine.trans one.engine
  chunkSize := other.chunkSize.trans one.chunkSize
  batchSize := other.batchSize.trans one.batchSize
  rows := by rw [other.rows, one.rows, RowBuffer.append_assoc]; rfl
  stats := by
    rw [other.stats, one.stats]
    ext <;> exact Nat.add_assoc _ _ _
  others := other.others.trans one.others

theorem Grows.keep {p next : Processor} (s : σ) (engine : next.engine = p.engine)
    (chunkSize : next.chunkSize = p.chunkSize) (batchSize : next.batchSize = p.batchSize)
    (rows : next.rows = p.rows ++ made.rows) (stats : next.stats = p.stats + made.stats) :
    Grows made (p, s) (next, s) where
  engine := engine
  chunkSize := chunkSize
  batchSize := batchSize
  rows := by rw [held, rows, ← RowBuffer.append_assoc]; rfl
  stats := stats
  others := rfl

theorem Grows.scratch (p : Processor) (s : σ) (hasher : Hasher) (search : Search.State) :
    Grows {} (p, s) ({ p with hasher, search }, s) :=
  Grows.keep s rfl rfl rfl (RowBuffer.append_empty _).symm rfl

/-- Work that makes nothing, however it ends. -/
def Quiet (w : Work σ α) : Prop := ∀ p s, Grows {} (p, s) (run w p s).2

theorem Quiet.bind {w : Work σ α} {f : α → Work σ β} (first : Quiet w) (next : ∀ a, Quiet (f a)) :
    Quiet (w >>= f) := by
  intro p s
  have grows := first p s
  rw [run_bind]
  rcases ran : run w p s with ⟨result, p', s'⟩
  rw [ran] at grows
  cases result with
  | ok a => exact grows.trans (next a p' s')
  | error e => exact grows

theorem quiet_sendTable {kept : RowBuffer → List α} {table : List α → Rows}
    {clear : RowBuffer → RowBuffer}
    (moves : ∀ (t : MemoryTables) b, (t.add (table (kept b))).taken ++ clear b = t.taken ++ b)
    (alone : ∀ (t : MemoryTables) rows, (t.add (table rows)).others = t.others) :
    Quiet (sendTable kept table clear : Work σ Unit) := by
  intro p s
  rw [run_sendTable]
  split
  · exact Grows.refl _
  · cases result : (Sink.write (table (kept p.rows)) s).1 with
    | ok =>
      have taken := Sink.Keeps.write_ok _ s result
      refine ⟨rfl, rfl, rfl, ?_, rfl, ?_⟩
      · rw [RowBuffer.append_empty]
        exact (congrArg (·.taken ++ clear p.rows) taken).trans (moves _ _)
      · exact (congrArg MemoryTables.others taken).trans (alone _ _)
    | error e =>
      have same := Sink.Keeps.write_error _ s e result
      refine ⟨rfl, rfl, rfl, ?_, rfl, congrArg MemoryTables.others same⟩
      rw [RowBuffer.append_empty]
      exact congrArg (·.taken ++ p.rows) same

theorem quiet_sendHits : Quiet (sendHits : Work σ Unit) :=
  quiet_sendTable (fun t b => by simp [MemoryTables.add, MemoryTables.taken, RowBuffer.append_def])
    fun _ _ => rfl

theorem quiet_flush : Quiet (flush : Work σ Unit) := by
  refine Quiet.bind ?_ fun _ => quiet_sendHits.bind fun _ => ?_
  · exact quiet_sendTable
      (fun t b => by simp [MemoryTables.add, MemoryTables.taken, RowBuffer.append_def]) fun _ _ => rfl
  · exact quiet_sendTable
      (fun t b => by simp [MemoryTables.add, MemoryTables.taken, RowBuffer.append_def]) fun _ _ => rfl

theorem quiet_flushFull : Quiet (flushFull : Work σ Unit) := by
  intro p s
  rw [run_flushFull]
  split
  · exact quiet_flush p s
  · exact Grows.refl _

theorem Grows.flushed {p next : Processor} {s : σ} (grows : Grows made (p, s) (next, s)) (a : α) :
    Grows made (p, s) (run (flushFull >>= fun _ => pure a) next s).2 := by
  have quiet := quiet_flushFull.bind (f := fun _ => pure a) (fun _ _ _ => Grows.refl _) next s
  simpa using grows.trans quiet

theorem quiet_flushFullHits : Quiet (flushFullHits : Work σ Unit) := by
  intro p s
  rw [run_flushFullHits]
  split
  · exact quiet_sendHits p s
  · exact Grows.refl _

end Processor

end Triage
