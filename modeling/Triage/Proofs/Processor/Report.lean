import Triage.Proofs.Processor.Rows

/-! What processing gives when no sink fails: it is told by the engine, the size of the pieces and what the
stream delivers, and neither by what the processor did before nor by when it flushes. -/

namespace Triage.Processor
variable {σ : Type} [Sink σ] [Sink.Reliable σ]

/-! ## Searching -/

theorem search_succeeds (fileHash : String) (pieces : List (List UInt8)) (g : Progress) (p : Processor)
    (s : σ) : ∃ next, (run (pieces.foldlM (searchPiece fileHash) g) p s).1 = .ok next := by
  induction pieces generalizing g p s with
  | nil => exact ⟨g, rfl⟩
  | cons piece pieces ih =>
    rw [List.foldlM_cons, run_bind, run_searchPiece, run_bind_of_ok (succeeds_flushFullHits _ s)]
    exact ih _ _ _

theorem searched_eq (fileHash : String) (stream : ByteStream) (p : Processor) (s : σ) :
    searched fileHash stream p s = (stream.deliver p.chunkSize).pieces := by
  obtain ⟨next, ok⟩ := search_succeeds fileHash (stream.deliver p.chunkSize).pieces ⟨.empty p.engine, 0⟩
    { p with search := {} } s
  exact through_of_ok (Prod.ext ok rfl)

/-- What a search of a stream finds, unless the stream fails. -/
def searchResult (e : Engine) (size address : Nat) (fileHash : String) (stream : ByteStream) :
    Except ProcessError Progress :=
  let d := stream.deliver size
  let hits := Search.streamed e.program d.pieces
  if e.program.isEmpty then .ok ⟨.empty e, 0⟩
  else
    match d.ending with
    | .ok _ => .ok ⟨.ofHits e hits, (hitRows e fileHash hits).length⟩
    | .error reason => .error (.read address reason)

variable [Sink.Keeps σ]

theorem result_searchStream (address : Nat) (fileHash : String) (stream : ByteStream) (p : Processor)
    (s : σ) :
    (run (searchStream address fileHash stream) p s).1 =
      searchResult p.engine p.chunkSize address fileHash stream := by
  unfold searchResult
  cases empty : p.engine.program.isEmpty with
  | true =>
    rw [run_searchStream, if_pos empty]
    rfl
  | false =>
    obtain ⟨g, ok⟩ := search_succeeds fileHash (stream.deliver p.chunkSize).pieces ⟨.empty p.engine, 0⟩
      { p with search := {} } s
    rcases pieces : run ((stream.deliver p.chunkSize).pieces.foldlM (searchPiece fileHash)
      ⟨.empty p.engine, 0⟩) { p with search := {} } s with ⟨result, q, t⟩
    rw [pieces] at ok
    obtain rfl : result = .ok g := ok
    have asked : run (searchStream address fileHash stream) p s =
        run (ended address (stream.deliver p.chunkSize) g >>= fun read => finishSearch fileHash read.1) q t := by
      rw [run_searchStream, empty]
      change run (pass address (searchPiece fileHash) stream ⟨.empty p.engine, 0⟩ >>= _) _ s = _
      rw [run_bind, run_pass, run_bind]
      dsimp only
      rw [pieces, run_bind]
    dsimp only
    rw [if_neg Bool.false_ne_true]
    cases ending : (stream.deliver p.chunkSize).ending with
    | error reason =>
      rw [asked, ended, ending]
      rfl
    | ok last =>
      rcases ran : run (searchStream address fileHash stream) p s with ⟨result, q', t'⟩
      cases result with
      | ok found => exact congrArg Except.ok (searchStream_ok ran).2
      | error e =>
        rw [asked, ended, ending] at ran
        cases ran

/-! ## Processing -/

/-- The result of processing a stream, and what it makes. -/
def contentReport (e : Engine) (size address : Nat) (stream : ByteStream) :
    Except ProcessError FileOutcome × Yield :=
  let first := stream.deliver size
  match first.ending with
  | .error reason => (.error (.read address reason), {})
  | .ok again =>
    let hashes := FileHashes.ofBytes first.pieces.flatten
    let bytes := first.pieces.flatten.length
    let pieces := (again.deliver size).pieces
    match searchResult e size address hashes.blake3 again with
    | .error failure =>
      (.error failure, hitYield e hashes.blake3 (Search.feedAll e.program {} pieces).1.flatten)
    | .ok found =>
      (.ok ⟨hashes, found.summary, found.hits, bytes⟩,
        hitYield e hashes.blake3 (Search.streamed e.program pieces) ++
          closingYield address hashes bytes found.hits)

theorem process_reported (address : Nat) (stream : ByteStream) (p : Processor) (s : σ) :
    (run (process address stream) p s).1 = (contentReport p.engine p.chunkSize address stream).1 ∧
      contentYield address stream p s = (contentReport p.engine p.chunkSize address stream).2 := by
  rw [process, run_bind, run_hashStream, contentYield, contentReport]
  dsimp only
  cases (stream.deliver p.chunkSize).ending with
  | error reason => exact ⟨rfl, rfl⟩
  | ok again =>
    have found := result_searchStream address
      (FileHashes.ofBytes (stream.deliver p.chunkSize).pieces.flatten).blake3 again
      { p with hasher := {} } s
    dsimp only at found ⊢
    rw [run_bind, searched_eq, ← found]
    rcases run (searchStream address
      (FileHashes.ofBytes (stream.deliver p.chunkSize).pieces.flatten).blake3 again)
      { p with hasher := {} } s with ⟨result, q, t⟩
    cases result with
    | error e => exact ⟨rfl, rfl⟩
    | ok found => exact ⟨succeeds_flushFull.result_pure _ _ _, rfl⟩

def entryReport (e : Engine) (size : Nat) (entry : FileEntry) : Except ProcessError Unit × Yield :=
  match entry.content with
  | none => (.ok (), matchYield e entry.dirent entry.inode none)
  | some stream =>
    match contentReport e size entry.inode.address stream with
    | (.error failure, made) => (.error failure, made)
    | (.ok outcome, made) => (.ok (), made ++ matchYield e entry.dirent entry.inode (some outcome))

omit [Sink.Keeps σ] in
theorem result_matchRules (d : Dirent) (n : Inode) (outcome : Option FileOutcome) (p : Processor) (s : σ) :
    (run (discard (matchRules d n outcome)) p s).1 = .ok () := by
  have flushed : Succeeds (flushFull : Work σ Unit) := succeeds_flushFull
  have matched : (run (matchRules d n outcome) p s).1 = .ok _ := flushed.result_pure _ _ _
  rw [run_discard, matched]
  rfl

theorem processEntry_reported (entry : FileEntry) (p : Processor) (s : σ) :
    (run (processEntry entry) p s).1 = (entryReport p.engine p.chunkSize entry).1 ∧
      entryYield entry p s = (entryReport p.engine p.chunkSize entry).2 := by
  rw [run_processEntry, entryYield, entryReport]
  cases entry.content with
  | none => exact ⟨result_matchRules _ _ _ _ _, rfl⟩
  | some stream =>
    obtain ⟨result, made⟩ := process_reported entry.inode.address stream p s
    dsimp only
    rw [run_bind, made]
    rcases reported : contentReport p.engine p.chunkSize entry.inode.address stream with ⟨expected, made⟩
    rcases ran : run (process entry.inode.address stream) p s with ⟨got, q, t⟩
    rw [reported, ran] at result
    obtain rfl : got = expected := result
    cases got with
    | error e => exact ⟨rfl, Yield.append_empty _⟩
    | ok outcome => exact ⟨result_matchRules _ _ _ _ _, rfl⟩

end Triage.Processor
