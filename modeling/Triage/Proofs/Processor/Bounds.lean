import Triage.Proofs.Processor.Counts

/-! How many rows a processor keeps when no sink fails. A table of hits that is full goes to the sink before
the next piece is read, and all tables go there when they are full together at the end of a call; a stream that
fails leaves behind hits that did not fill their table. -/

namespace Triage.Processor
variable {σ α β : Type} {batch : Nat}

/-- What work makes of processors: how they are left when it succeeds, and how when it fails. -/
def Leaves (w : Work σ α) (before ok error : Processor → Prop) : Prop :=
  ∀ p s, before p → match run w p s with
    | (.ok _, q, _) => ok q
    | (.error _, q, _) => error q

section Leaves
variable {w : Work σ α} {f : α → Work σ β} {before between ok error : Processor → Prop}

theorem Leaves.bind (first : Leaves w before between error) (next : ∀ a, Leaves (f a) between ok error) :
    Leaves (w >>= f) before ok error := by
  intro p s holds
  have left := first p s holds
  rw [run_bind]
  rcases ran : run w p s with ⟨result, q, t⟩
  rw [ran] at left
  cases result with
  | ok a => exact next a q t left
  | error e => exact left

theorem Leaves.mono {stronger weaker failed : Processor → Prop} (leaves : Leaves w before ok error)
    (given : ∀ p, stronger p → before p) (done : ∀ p, ok p → weaker p)
    (broken : ∀ p, error p → failed p) :
    Leaves w stronger weaker failed := by
  intro p s holds
  have left := leaves p s (given p holds)
  rcases ran : run w p s with ⟨result, q, t⟩
  rw [ran] at left
  cases result with
  | ok a => exact done q left
  | error e => exact broken q left

theorem leaves_pure {a : α} (done : ∀ p, before p → ok p) : Leaves (pure a : Work σ α) before ok error :=
  fun p _ holds => done p holds

theorem leaves_throw {e : ProcessError} (broken : ∀ p, before p → error p) :
    Leaves (throw e : Work σ α) before ok error :=
  fun p _ holds => broken p holds

theorem leaves_get : Leaves (get : Work σ (Processor × σ)) before before error :=
  fun _ _ holds => holds

theorem Leaves.map (leaves : Leaves w before ok error) (g : α → β) : Leaves (g <$> w) before ok error := by
  rw [map_eq_pure_bind]
  exact leaves.bind fun a => leaves_pure fun _ => id

theorem Leaves.of_ok (leaves : Leaves w before ok error) {p : Processor} {s : σ} {a : α}
    (holds : before p) (succeeded : (run w p s).1 = .ok a) : ok (run w p s).2.1 := by
  have left := leaves p s holds
  rcases ran : run w p s with ⟨result, q, t⟩
  rw [ran] at left succeeded
  obtain rfl : result = .ok a := succeeded
  exact left

/-- What holds however the work ends. -/
theorem Leaves.always (leaves : Leaves w before ok ok) {p : Processor} (s : σ) (holds : before p) :
    ok (run w p s).2.1 := by
  have left := leaves p s holds
  rcases ran : run w p s with ⟨result, q, t⟩
  rw [ran] at left
  cases result with
  | ok a => exact left
  | error e => exact left

end Leaves

/-! ## Bounds -/

def Batched (batch : Nat) (p : Processor) : Prop := p.batchSize = batch

/-- The rows of hits do not fill a batch, and neither do the others. -/
structure Bounded (batch : Nat) (p : Processor) : Prop where
  batched : Batched batch p
  others : p.rows.hashes.length + p.rows.ruleMatches.length < batch
  hits : p.rows.searchHits.length < batch

/-- All rows together do not fill a batch. -/
structure Roomy (batch : Nat) (p : Processor) : Prop where
  batched : Batched batch p
  rows : p.rows.size < batch

theorem Roomy.bounded {p : Processor} (roomy : Roomy batch p) : Bounded batch p := by
  have rows := roomy.rows
  unfold RowBuffer.size at rows
  exact ⟨roomy.batched, by omega, by omega⟩

theorem roomy_create (e : Engine) (c : ScanConfig) : Roomy (max c.rowBatch 1) (create e c) :=
  ⟨rfl, Nat.le_max_right _ _⟩

/-! ## Passes -/

theorem leaves_eachPiece {holds : Processor → Prop} {address size : Nat} {step : β → List UInt8 → Work σ β}
    (keeps : ∀ b piece, Leaves (step b piece) holds holds holds) (fuel : Nat) (stream : ByteStream) (b : β) :
    Leaves (eachPiece address size step fuel stream b) holds holds holds := by
  induction fuel generalizing stream b with
  | zero => exact leaves_pure fun _ => id
  | succ fuel ih =>
    unfold eachPiece
    split
    · exact leaves_throw fun _ => id
    · exact leaves_pure fun _ => id
    · exact (keeps b _).bind fun b => ih _ b

/-- A pass until it is about to read a piece, `read` pieces having been read, or until it ends if that is
before. -/
def passBefore (read address : Nat) (step : β → List UInt8 → Work σ β) (stream : ByteStream) (b : β) :
    Work σ (β × ByteStream) := do
  match stream.rewind with
  | (.error reason, _) => throw (.read address reason)
  | (.ok (), stream) => eachPiece address (← get).1.chunkSize step read stream b

theorem rewind_bytes (stream : ByteStream) : stream.rewind.2.bytes = stream.bytes := by
  unfold ByteStream.rewind ByteStream.seek
  dsimp only
  split
  · rfl
  · split <;> rfl

/-- A whole pass reads at most once more than there are bytes. -/
theorem pass_eq (address : Nat) (step : β → List UInt8 → Work σ β) (stream : ByteStream) (b : β) :
    pass address step stream b = passBefore (stream.bytes.length + 1) address step stream b := by
  have bytes := rewind_bytes stream
  unfold pass passBefore
  rcases rewound : stream.rewind with ⟨result, next⟩
  rw [rewound] at bytes
  cases result with
  | error reason => rfl
  | ok => rw [← show next.bytes = stream.bytes from bytes]

theorem leaves_passBefore {holds : Processor → Prop} {address : Nat} {step : β → List UInt8 → Work σ β}
    (keeps : ∀ b piece, Leaves (step b piece) holds holds holds) (read : Nat) (stream : ByteStream) (b : β) :
    Leaves (passBefore read address step stream b) holds holds holds := by
  unfold passBefore
  split
  · exact leaves_throw fun _ => id
  · exact leaves_get.bind fun _ => leaves_eachPiece keeps read _ b

theorem leaves_hashStream (address : Nat) (stream : ByteStream) :
    Leaves (hashStream address stream : Work σ _) (Bounded batch) (Bounded batch) (Bounded batch) := by
  rintro p s ⟨batched, others, hits⟩
  rw [run_hashStream]
  dsimp only
  cases (stream.deliver p.chunkSize).ending <;> exact ⟨batched, others, hits⟩

theorem leaves_setSearch (state : Search.State) :
    Leaves (setSearch state : Work σ Unit) (Bounded batch) (Bounded batch) (Bounded batch) :=
  fun _ _ bounded => ⟨bounded.batched, bounded.others, bounded.hits⟩

theorem leaves_finishSearch (fileHash : String) (g : Progress) :
    Leaves (finishSearch fileHash g : Work σ Progress) (Bounded batch) (Batched batch) (Bounded batch) := by
  intro p s bounded
  rw [run_finishSearch]
  exact bounded.batched

theorem leaves_modifyRows (f : RowBuffer → RowBuffer) {error : Processor → Prop} :
    Leaves (modifyRows f : Work σ Unit) (Batched batch) (Batched batch) error :=
  fun _ _ batched => batched

theorem leaves_modifyStats (f : ProcessorStats → ProcessorStats) {error : Processor → Prop} :
    Leaves (modifyStats f : Work σ Unit) (Batched batch) (Batched batch) error :=
  fun _ _ batched => batched

/-! ## Searching -/

section
variable [Sink σ]

/-- A search up to a read of its pass. -/
def searchBefore (read address : Nat) (fileHash : String) (stream : ByteStream) : Work σ Progress := do
  let e := (← get).1.engine
  if e.program.isEmpty then return ⟨.empty e, 0⟩
  setSearch {}
  let (g, _) ← passBefore read address (searchPiece fileHash) stream ⟨.empty e, 0⟩
  return g

/-- The work of `process` up to a read of its search. -/
def processBefore (read address : Nat) (stream : ByteStream) : Work σ Progress := do
  let (hashes, _, stream) ← hashStream address stream
  searchBefore read address hashes.blake3 stream

/-- A search reads at most once more than the stream has bytes. -/
theorem run_searchStream_whole (address : Nat) (fileHash : String) (stream : ByteStream) {p : Processor}
    (some : ¬p.engine.program.isEmpty) (s : σ) :
    run (searchStream address fileHash stream) p s =
      run (searchBefore (stream.bytes.length + 1) address fileHash stream >>= finishSearch fileHash) p s := by
  have asked : run (searchBefore (stream.bytes.length + 1) address fileHash stream >>= finishSearch fileHash) p s =
      run ((if p.engine.program.isEmpty then pure ⟨.empty p.engine, 0⟩ else do
        setSearch {}
        let (g, _) ← passBefore (stream.bytes.length + 1) address (searchPiece fileHash) stream
          ⟨.empty p.engine, 0⟩
        return g) >>= finishSearch fileHash) p s := rfl
  rw [asked, run_searchStream, if_neg some, if_neg some, pass_eq]
  simp only [bind_assoc, pure_bind]
  rfl

end

/-! ## Giving rows away -/

variable [Sink σ] [Sink.Reliable σ]

theorem leaves_sendTable (kept : RowBuffer → List α) (table : List α → Rows) (clear : RowBuffer → RowBuffer) :
    Leaves (sendTable kept table clear : Work σ Unit) (Batched batch) (Batched batch) (Batched batch) := by
  intro p s batched
  rw [run_sendTable, Sink.Reliable.write]
  cases (kept p.rows).isEmpty <;> exact batched

theorem leaves_flush :
    Leaves (flush : Work σ Unit) (Batched batch) (Batched batch) (Batched batch) :=
  (leaves_sendTable _ _ _).bind fun _ => (leaves_sendTable _ _ _).bind fun _ => leaves_sendTable _ _ _

theorem leaves_flush_roomy (some : 0 < batch) :
    Leaves (flush : Work σ Unit) (Batched batch) (Roomy batch) (Roomy batch) := by
  intro p s batched
  have flushed := leaves_flush p s batched
  rcases ran : run flush p s with ⟨result, q, t⟩
  rw [ran] at flushed
  obtain rfl : result = .ok () := by rw [← succeeds_flush p s, ran]
  exact ⟨flushed, by rw [rows_flush ran]; exact some⟩

theorem leaves_flushFull (some : 0 < batch) :
    Leaves (flushFull : Work σ Unit) (Batched batch) (Roomy batch) (Roomy batch) := by
  intro p s batched
  have size : p.batchSize = batch := batched
  rw [run_flushFull, size]
  by_cases full : batch ≤ p.rows.size
  · rw [if_pos full]
    exact leaves_flush_roomy some p s batched
  · rw [if_neg full]
    exact ⟨batched, Nat.lt_of_not_le full⟩

/-- A full table of hits goes to the sink. -/
theorem leaves_flushFullHits (some : 0 < batch) :
    Leaves (flushFullHits : Work σ Unit)
      (fun p => Batched batch p ∧ p.rows.hashes.length + p.rows.ruleMatches.length < batch)
      (Bounded batch) (Bounded batch) := by
  rintro p s ⟨batched, others⟩
  have size : p.batchSize = batch := batched
  rw [run_flushFullHits, size]
  by_cases full : batch ≤ p.rows.searchHits.length
  · have rows : ¬p.rows.searchHits.isEmpty := by
      rw [List.isEmpty_iff_length_eq_zero]
      omega
    rw [if_pos full, sendHits, run_sendTable, if_neg rows, Sink.Reliable.write]
    exact ⟨batched, others, some⟩
  · rw [if_neg full]
    exact ⟨batched, others, Nat.lt_of_not_le full⟩

/-! ## Keeping rows -/

/-- The rows of a piece's hits are kept only as long as they do not fill a batch. -/
theorem leaves_searchPiece (some : 0 < batch) (fileHash : String) (g : Progress) (piece : List UInt8) :
    Leaves (searchPiece fileHash g piece : Work σ Progress) (Bounded batch) (Bounded batch)
      (Bounded batch) := by
  rintro p s ⟨batched, others, hits⟩
  rw [run_searchPiece]
  refine (leaves_flushFullHits some).bind (fun _ => leaves_pure fun _ => id) (afterPiece fileHash p piece) s ?_
  rw [afterPiece, add_hits]
  exact ⟨batched, others⟩

theorem leaves_searchBefore (some : 0 < batch) (read address : Nat) (fileHash : String) (stream : ByteStream) :
    Leaves (searchBefore read address fileHash stream : Work σ Progress) (Bounded batch) (Bounded batch)
      (Bounded batch) := by
  refine leaves_get.bind fun (p, _) => ?_
  dsimp only
  split
  · exact leaves_pure fun _ => id
  · refine (leaves_setSearch {}).bind fun _ => ?_
    exact (leaves_passBefore (leaves_searchPiece some fileHash) read stream _).bind fun _ => leaves_pure fun _ => id

theorem leaves_processBefore (some : 0 < batch) (read address : Nat) (stream : ByteStream) :
    Leaves (processBefore read address stream : Work σ Progress) (Bounded batch) (Bounded batch)
      (Bounded batch) :=
  (leaves_hashStream address stream).bind fun _ => leaves_searchBefore some read address _ _

/-- What a search leaves when it is done may fill a batch. -/
theorem leaves_searchStream (some : 0 < batch) (address : Nat) (fileHash : String) (stream : ByteStream) :
    Leaves (searchStream address fileHash stream : Work σ Progress) (Bounded batch) (Batched batch)
      (Bounded batch) := by
  intro p s bounded
  by_cases empty : p.engine.program.isEmpty
  · rw [run_searchStream, if_pos empty]
    exact bounded.batched
  · rw [run_searchStream_whole address fileHash stream empty]
    exact (leaves_searchBefore some _ address fileHash stream).bind (fun _ => leaves_finishSearch _ _) p s bounded

/-! ## Calls -/

theorem leaves_recordContent (some : 0 < batch) (address : Nat) (hashes : FileHashes) (bytes : Nat)
    (found : Progress) :
    Leaves (recordContent address hashes bytes found : Work σ FileOutcome) (Batched batch) (Roomy batch)
      (Roomy batch) :=
  (leaves_modifyRows _).bind fun _ => (leaves_modifyStats _).bind fun _ =>
    (leaves_flushFull some).bind fun _ => leaves_pure fun _ => id

theorem leaves_matchRules (some : 0 < batch) (d : Dirent) (n : Inode) (outcome : Option FileOutcome) :
    Leaves (matchRules d n outcome : Work σ Nat) (Batched batch) (Roomy batch) (Roomy batch) :=
  leaves_get.bind fun _ => (leaves_modifyRows _).bind fun _ => (leaves_modifyStats _).bind fun _ =>
    (leaves_flushFull some).bind fun _ => leaves_pure fun _ => id

theorem leaves_process (some : 0 < batch) (address : Nat) (stream : ByteStream) :
    Leaves (process address stream : Work σ FileOutcome) (Bounded batch) (Roomy batch) (Bounded batch) :=
  (leaves_hashStream address stream).bind fun _ => (leaves_searchStream some _ _ _).bind fun _ =>
    (leaves_recordContent some _ _ _ _).mono (fun _ => id) (fun _ => id) fun _ => Roomy.bounded

theorem leaves_processEntry (some : 0 < batch) (entry : FileEntry) :
    Leaves (processEntry entry : Work σ Unit) (Bounded batch) (Roomy batch) (Bounded batch) := by
  have asked (outcome : Option FileOutcome) :
      Leaves (discard (matchRules entry.dirent entry.inode outcome) : Work σ Unit) (Batched batch) (Roomy batch)
        (Bounded batch) :=
    ((leaves_matchRules some _ _ outcome).map _).mono (fun _ => id) (fun _ => id) fun _ => Roomy.bounded
  intro p s bounded
  rw [run_processEntry]
  cases entry.content with
  | none => exact asked none p s bounded.batched
  | some stream =>
    refine (leaves_process some entry.inode.address stream).bind (fun outcome => ?_) p s bounded
    exact (asked outcome).mono (fun _ => Bounded.batched ∘ Roomy.bounded) (fun _ => id) fun _ => id

/-- A call as work, of which only counts whether it succeeds. -/
def Call.work : Call → Work σ Unit
  | process address stream => discard (Processor.process address stream)
  | matchRules d n outcome => discard (Processor.matchRules d n outcome)
  | processEntry entry => Processor.processEntry entry
  | flush => Processor.flush

omit [Sink.Reliable σ] in
theorem Call.perform_eq (call : Call) (p : Processor) (s : σ) :
    call.perform p s = (run call.work p s).2 := by
  cases call with
  | process address stream => rw [work, run_discard]; rfl
  | matchRules d n outcome => rw [work, run_discard]; rfl
  | processEntry entry => rfl
  | flush => rfl

theorem Call.leaves_work (some : 0 < batch) (call : Call) :
    Leaves (call.work : Work σ Unit) (Bounded batch) (Roomy batch) (Bounded batch) := by
  cases call with
  | process address stream => exact (leaves_process some address stream).map _
  | matchRules d n outcome =>
    exact ((leaves_matchRules some d n outcome).map _).mono (fun _ => Bounded.batched) (fun _ => id)
      fun _ => Roomy.bounded
  | processEntry entry => exact leaves_processEntry some entry
  | flush =>
    exact (leaves_flush_roomy some).mono (fun _ => Bounded.batched) (fun _ => id) fun _ => Roomy.bounded

theorem bounded_all (some : 0 < batch) (calls : List Call) {p : Processor} (s : σ) (bounded : Bounded batch p) :
    Bounded batch (performAll calls p s).1 := by
  induction calls generalizing p s with
  | nil => exact bounded
  | cons call calls ih =>
    have one := ((call.leaves_work some).mono (fun _ => id) (fun _ => Roomy.bounded) fun _ => id).always s bounded
    rw [← call.perform_eq] at one
    exact ih _ one

/-- A new processor whose sink takes all rows keeps few of them, whatever calls it has done and whichever of them
failed: rows of digests and of matches together do not fill a batch, and rows of hits do not either. After a call
that succeeds all of them together do not, and the rows of hits do not when a search is about to read on. -/
theorem rows_bounded (calls : List Call) (e : Engine) (c : ScanConfig) (s : σ) :
    let after := performAll calls (create e c) s
    let batch := max c.rowBatch 1
    (after.1.rows.hashes.length + after.1.rows.ruleMatches.length < batch ∧
        after.1.rows.searchHits.length < batch) ∧
      (∀ call : Call, (run call.work after.1 after.2).1 = .ok () →
        (call.perform after.1 after.2).1.rows.size < batch) ∧
      ∀ read address stream,
        (run (processBefore read address stream) after.1 after.2).2.1.rows.searchHits.length < batch := by
  intro after batch
  have some : 0 < batch := Nat.le_max_right _ _
  have bounded : Bounded batch after.1 := bounded_all some calls s (roomy_create e c).bounded
  refine ⟨⟨bounded.others, bounded.hits⟩, fun call succeeded => ?_, fun read address stream => ?_⟩
  · rw [call.perform_eq]
    exact ((call.leaves_work some).of_ok bounded succeeded).rows
  · exact ((leaves_processBefore some read address stream).always after.2 bounded).hits

def batchOfTwo : ScanConfig := { chunkSize := 2, rowBatch := 2 }

/-- A search has failed and has left the row of its one hit. -/
def halfDone : Processor × MemoryTables := performAll [.process 7 halfSearched] (create abEngine batchOfTwo) {}

def wholeEntry : Call := .processEntry ⟨note, noteInode, some { bytes := halfSearched.bytes }⟩

theorem halfSearched_bounded :
    halfDone.1.rows.searchHits.length = 1 ∧
      (run wholeEntry.work halfDone.1 halfDone.2).1 = .ok () ∧
      (wholeEntry.perform halfDone.1 halfDone.2).1.rows.size < max batchOfTwo.rowBatch 1 ∧
      (run (processBefore 1 7 { bytes := halfSearched.bytes }) halfDone.1 halfDone.2).2.1.rows.searchHits.length <
        max batchOfTwo.rowBatch 1 := by
  obtain ⟨_, succeeded, reading⟩ := rows_bounded [.process 7 halfSearched] abEngine batchOfTwo ({} : MemoryTables)
  have ended : (run wholeEntry.work halfDone.1 halfDone.2).1 = .ok () := by decide +kernel
  exact ⟨by decide +kernel, ended, succeeded wholeEntry ended, reading 1 7 _⟩

end Triage.Processor
