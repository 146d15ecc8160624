import Triage.Proofs.ByteStream
import Triage.Proofs.Digest.Pieces
import Triage.Proofs.Processor.Run
import Triage.Proofs.Search.Single

/-! The rows that the calls of a processor make, and that each of them is in the sink or still kept. -/

namespace Triage

namespace Search

theorem feed_of_isEmpty {p : Program} (empty : p.isEmpty) (s : State) (chunk : List UInt8) :
    (feed p s chunk).1 = [] := by
  have none : p.entries = [] := List.isEmpty_iff.mp empty
  have literals : p.literals = [] := by simp [Program.literals, none]
  have regexes : p.regexes = [] := by simp [Program.regexes, none]
  unfold feed
  split
  · rfl
  · simp [feedLiterals, feedRegexes, literals, regexes, Hit.sort]

theorem streamed_of_isEmpty {p : Program} (empty : p.isEmpty) (chunks : List (List UInt8)) :
    streamed p chunks = [] := by
  have quiet (s : State) : (feedAll p s chunks).1.flatten = [] := by
    induction chunks generalizing s with
    | nil => rfl
    | cons chunk chunks ih =>
      rw [feedAll, List.flatten_cons, feed_of_isEmpty empty, List.nil_append]
      exact ih _
  have regexes : p.regexes = [] := by
    simp [Program.regexes, List.isEmpty_iff.mp (show p.entries.isEmpty from empty)]
  rw [streamed, quiet, close, finish, regexes]
  rfl

end Search

namespace Processor
variable {σ β : Type}

/-! ## Passes -/

def ended (address : Nat) (d : Delivery) (b : β) : Work σ (β × ByteStream) :=
  match d.ending with
  | .ok stream => return (b, stream)
  | .error reason => throw (.read address reason)

theorem ended_ok {address : Nat} {d : Delivery} {b c : β} {last : ByteStream} {p q : Processor} {s t : σ}
    (ran : run (ended address d b) p s = (.ok (c, last), q, t)) :
    d.ending = .ok last ∧ c = b ∧ q = p ∧ t = s := by
  unfold ended at ran
  cases ending : d.ending with
  | ok stream =>
    rw [ending] at ran
    obtain ⟨⟨rfl, rfl⟩, rfl, rfl⟩ := ran
    exact ⟨rfl, rfl, rfl, rfl⟩
  | error reason =>
    rw [ending] at ran
    nomatch ran

theorem run_ended (address : Nat) (d : Delivery) (b : β) (p : Processor) (s : σ) :
    (run (ended address d b) p s).2 = (p, s) := by
  unfold ended
  cases d.ending <;> rfl

theorem eachPiece_eq (address size : Nat) (step : β → List UInt8 → Work σ β) (fuel : Nat)
    (stream : ByteStream) (b : β) :
    eachPiece address size step fuel stream b =
      (stream.drain size fuel).pieces.foldlM step b >>= ended address (stream.drain size fuel) := by
  induction fuel generalizing stream b with
  | zero => rfl
  | succ fuel ih =>
    rcases read : stream.read size with ⟨result, next⟩
    cases result with
    | error reason =>
      rw [eachPiece, ByteStream.drain, read]
      rfl
    | ok piece =>
      cases piece with
      | nil =>
        rw [eachPiece, ByteStream.drain, read]
        rfl
      | cons x piece =>
        rw [eachPiece, ByteStream.drain_cons read (List.cons_ne_nil _ _), read]
        simp only [Delivery.cons, List.foldlM_cons, bind_assoc, ih]
        rfl

theorem run_pass (address : Nat) (step : β → List UInt8 → Work σ β) (stream : ByteStream) (b : β)
    (p : Processor) (s : σ) :
    run (pass address step stream b) p s =
      run ((stream.deliver p.chunkSize).pieces.foldlM step b >>=
        ended address (stream.deliver p.chunkSize)) p s := by
  unfold pass ByteStream.deliver
  rcases stream.rewind with ⟨result, next⟩
  cases result with
  | error reason => rfl
  | ok =>
    rw [← eachPiece_eq]
    rfl

/-! ## Hashing -/

theorem run_hashPieces (pieces : List (List UInt8)) (p : Processor) (s : σ) :
    run (pieces.foldlM hashPiece ()) p s =
      (.ok (), { p with hasher := pieces.foldl Hasher.absorb p.hasher }, s) := by
  induction pieces generalizing p with
  | nil => rfl
  | cons piece pieces ih =>
    rw [List.foldlM_cons, run_bind]
    exact ih _

/-- Hashing takes the digests of all bytes that the stream gives, whatever the hasher held before. -/
theorem run_hashStream (address : Nat) (stream : ByteStream) (p : Processor) (s : σ) :
    run (hashStream address stream) p s =
      let d := stream.deliver p.chunkSize
      match d.ending with
      | .ok again =>
        (.ok (.ofBytes d.pieces.flatten, d.pieces.flatten.length, again), { p with hasher := {} }, s)
      | .error reason =>
        (.error (.read address reason), { p with hasher := d.pieces.foldl Hasher.absorb {} }, s) := by
  have asked : run (hashStream address stream) p s =
      run (pass address hashPiece stream () >>= fun read => do
        let hasher := (← get).1.hasher
        modifyHasher fun _ => {}
        return (hasher.finish, hasher.taken, read.2)) { p with hasher := {} } s := rfl
  rw [asked, run_bind, run_pass, run_bind, run_hashPieces]
  dsimp only
  cases ending : (stream.deliver p.chunkSize).ending with
  | error reason =>
    rw [ended, ending]
    rfl
  | ok again =>
    rw [ended, ending, ← Hasher.finish_pieces, ← Hasher.taken_pieces]
    rfl

/-! ## Searching -/

def hitRows (e : Engine) (fileHash : String) (hits : List Search.Hit) : List HitRow :=
  hits.filterMap (hitRow e fileHash)

def Progress.after (e : Engine) (fileHash : String) (hits : List Search.Hit) (g : Progress) : Progress :=
  ⟨hits.foldl (HitSummary.record e) g.summary, g.hits + (hitRows e fileHash hits).length⟩

theorem Progress.after_append (e : Engine) (fileHash : String) (hits more : List Search.Hit)
    (g : Progress) : (g.after e fileHash hits).after e fileHash more = g.after e fileHash (hits ++ more) := by
  simp only [after, hitRows, List.foldl_append, List.filterMap_append, List.length_append, Nat.add_assoc]

def hitYield (e : Engine) (fileHash : String) (hits : List Search.Hit) : Yield :=
  { rows := { searchHits := hitRows e fileHash hits } }

theorem hitYield_append (e : Engine) (fileHash : String) (hits more : List Search.Hit) :
    hitYield e fileHash (hits ++ more) = hitYield e fileHash hits ++ hitYield e fileHash more := by
  simp only [hitYield, hitRows, List.filterMap_append]
  rfl

/-- The pieces that the steps get through, the one on which a step fails included. -/
def through (step : β → List UInt8 → Work σ β) : List (List UInt8) → β → Processor → σ → List (List UInt8)
  | [], _, _, _ => []
  | piece :: rest, b, p, s =>
    piece ::
      match run (step b piece) p s with
      | (.ok b, p, s) => through step rest b p s
      | (.error _, _) => []

theorem through_of_ok {step : β → List UInt8 → Work σ β} {pieces : List (List UInt8)} {b c : β}
    {p q : Processor} {s t : σ} (ran : run (pieces.foldlM step b) p s = (.ok c, q, t)) :
    through step pieces b p s = pieces := by
  induction pieces generalizing b p s with
  | nil => rfl
  | cons piece pieces ih =>
    obtain ⟨next, p', s', one, rest⟩ := run_bind_ok ran
    rw [through, one]
    exact congrArg (piece :: ·) (ih rest)

def afterPiece (fileHash : String) (p : Processor) (piece : List UInt8) : Processor :=
  let found := Search.feed p.engine.program p.search piece
  { p with
    search := found.2
    rows := p.rows ++ { searchHits := hitRows p.engine fileHash found.1 } }

def afterSearch (fileHash : String) (p : Processor) : Processor :=
  { p with
    search := {}
    rows := p.rows ++
      { searchHits := hitRows p.engine fileHash (Search.finish p.engine.program p.search) } }

theorem add_hits (rows : RowBuffer) (hits : List HitRow) :
    rows ++ ({ searchHits := hits } : RowBuffer) = { rows with searchHits := rows.searchHits ++ hits } := by
  simp [RowBuffer.append_def]

theorem run_finishSearch (fileHash : String) (g : Progress) (p : Processor) (s : σ) :
    run (finishSearch fileHash g) p s =
      (.ok (g.after p.engine fileHash (Search.finish p.engine.program p.search)),
        afterSearch fileHash p, s) := by
  rw [afterSearch, add_hits]
  rfl

section
variable [Sink σ]

theorem search_sendHits (p : Processor) (s : σ) : (run sendHits p s).2.1.search = p.search := by
  rw [sendHits, run_sendTable]
  split
  · rfl
  · cases (Sink.write (.searchHits p.rows.searchHits) s).1 <;> rfl

theorem search_flushFullHits (p : Processor) (s : σ) :
    (run flushFullHits p s).2.1.search = p.search := by
  rw [run_flushFullHits]
  split
  · exact search_sendHits p s
  · rfl

theorem run_searchPiece (fileHash : String) (g : Progress) (piece : List UInt8) (p : Processor) (s : σ) :
    run (searchPiece fileHash g piece) p s =
      run (flushFullHits >>= fun _ =>
        pure (g.after p.engine fileHash (Search.feed p.engine.program p.search piece).1))
        (afterPiece fileHash p piece) s := by
  rw [afterPiece, add_hits]
  rfl

theorem run_searchStream (address : Nat) (fileHash : String) (stream : ByteStream) (p : Processor)
    (s : σ) :
    run (searchStream address fileHash stream) p s =
      if p.engine.program.isEmpty then (.ok ⟨.empty p.engine, 0⟩, p, s)
      else
        run (pass address (searchPiece fileHash) stream ⟨.empty p.engine, 0⟩ >>= fun (g, _) =>
          finishSearch fileHash g) { p with search := {} } s := by
  have asked : run (searchStream address fileHash stream) p s =
      run (if p.engine.program.isEmpty then pure ⟨.empty p.engine, 0⟩ else do
        setSearch {}
        let (g, _) ← pass address (searchPiece fileHash) stream ⟨.empty p.engine, 0⟩
        finishSearch fileHash g) p s := rfl
  rw [asked]
  split <;> rfl

def searched (fileHash : String) (stream : ByteStream) (p : Processor) (s : σ) : List (List UInt8) :=
  through (searchPiece fileHash) (stream.deliver p.chunkSize).pieces ⟨.empty p.engine, 0⟩
    { p with search := {} } s

end

variable [Sink σ] [Sink.Keeps σ]

theorem searchPiece_grows {fileHash : String} {g : Progress} {piece : List UInt8} {p q : Processor}
    {s t : σ} {result : Except ProcessError Progress}
    (ran : run (searchPiece fileHash g piece) p s = (result, q, t)) :
    let found := Search.feed p.engine.program p.search piece
    Grows (hitYield p.engine fileHash found.1) (p, s) (q, t) ∧ q.search = found.2 ∧
      ∀ next, result = .ok next → next = g.after p.engine fileHash found.1 := by
  have grows : Grows (hitYield p.engine fileHash (Search.feed p.engine.program p.search piece).1) (p, s)
      (afterPiece fileHash p piece, s) := Grows.keep s rfl rfl rfl rfl rfl
  have flushed := grows.trans (quiet_flushFullHits (afterPiece fileHash p piece) s)
  have kept := search_flushFullHits (afterPiece fileHash p piece) s
  rw [Yield.append_empty] at flushed
  rw [run_searchPiece, run_bind] at ran
  rcases first : run flushFullHits (afterPiece fileHash p piece) s with ⟨ended, q', t'⟩
  rw [first] at ran flushed kept
  cases ended with
  | ok a =>
    obtain ⟨rfl, rfl, rfl⟩ := ran
    exact ⟨flushed, kept, fun next same => (Except.ok.inj same).symm⟩
  | error e =>
    obtain ⟨rfl, rfl, rfl⟩ := ran
    exact ⟨flushed, kept, fun next same => nomatch same⟩

/-- A search makes the rows of the hits in the pieces that it gets through. -/
theorem search_grows {fileHash : String} {pieces : List (List UInt8)} {g : Progress} {p q : Processor}
    {s t : σ} {result : Except ProcessError Progress}
    (ran : run (pieces.foldlM (searchPiece fileHash) g) p s = (result, q, t)) :
    let got := Search.feedAll p.engine.program p.search (through (searchPiece fileHash) pieces g p s)
    Grows (hitYield p.engine fileHash got.1.flatten) (p, s) (q, t) ∧
      ∀ next, result = .ok next → q.search = got.2 ∧ next = g.after p.engine fileHash got.1.flatten := by
  induction pieces generalizing g p s with
  | nil =>
    obtain ⟨rfl, rfl, rfl⟩ := ran
    exact ⟨Grows.refl _, fun next same => ⟨rfl, (Except.ok.inj same).symm⟩⟩
  | cons piece pieces ih =>
    rw [List.foldlM_cons, run_bind] at ran
    rcases first : run (searchPiece fileHash g piece) p s with ⟨ended, p', s'⟩
    obtain ⟨grows, search, progress⟩ := searchPiece_grows first
    rw [first] at ran
    rw [through, first]
    cases ended with
    | error e =>
      -- The hits of the piece were kept before the sink was asked.
      obtain ⟨rfl, rfl, rfl⟩ := ran
      refine ⟨?_, fun next same => nomatch same⟩
      simpa [Search.feedAll] using grows
    | ok next =>
      obtain rfl := progress next rfl
      obtain ⟨more, rest⟩ := ih ran
      have engine : p'.engine = p.engine := grows.engine
      rw [engine, search] at more rest
      dsimp only at more rest ⊢
      rw [Search.feedAll, List.flatten_cons, hitYield_append]
      refine ⟨grows.trans more, fun last same => ?_⟩
      obtain ⟨state, final⟩ := rest last same
      exact ⟨state, by rw [final, Progress.after_append]⟩

theorem pass_search_ok {address : Nat} {fileHash : String} {stream last : ByteStream} {p q : Processor}
    {s t : σ} {g next : Progress}
    (ran : run (pass address (searchPiece fileHash) stream g) p s = (.ok (next, last), q, t)) :
    let got := Search.feedAll p.engine.program p.search (stream.deliver p.chunkSize).pieces
    Grows (hitYield p.engine fileHash got.1.flatten) (p, s) (q, t) ∧ q.search = got.2 ∧
      next = g.after p.engine fileHash got.1.flatten := by
  rw [run_pass] at ran
  obtain ⟨g', p', s', pieces, atEnd⟩ := run_bind_ok ran
  obtain ⟨_, rfl, rfl, rfl⟩ := ended_ok atEnd
  obtain ⟨grows, progress⟩ := search_grows pieces
  rw [through_of_ok pieces] at grows progress
  exact ⟨grows, progress _ rfl⟩

theorem searchStream_ok {address : Nat} {fileHash : String} {stream : ByteStream} {p q : Processor}
    {s t : σ} {found : Progress} (ran : run (searchStream address fileHash stream) p s = (.ok found, q, t)) :
    let hits := Search.streamed p.engine.program (stream.deliver p.chunkSize).pieces
    Grows (hitYield p.engine fileHash hits) (p, s) (q, t) ∧
      found = ⟨.ofHits p.engine hits, (hitRows p.engine fileHash hits).length⟩ := by
  rw [run_searchStream] at ran
  split at ran
  · rename_i empty
    obtain ⟨rfl, rfl, rfl⟩ := ran
    rw [Search.streamed_of_isEmpty empty]
    exact ⟨Grows.refl _, rfl⟩
  · obtain ⟨⟨g, last⟩, p', s'', passed, closed⟩ := run_bind_ok ran
    obtain ⟨grows, search, rfl⟩ := pass_search_ok passed
    have engine : p'.engine = p.engine := grows.engine
    dsimp only at grows search closed
    rw [run_finishSearch, engine, search] at closed
    obtain ⟨rfl, rfl, rfl⟩ := closed
    have finish : Grows (hitYield p.engine fileHash (Search.finish p'.engine.program p'.search)) (p', t)
        (afterSearch fileHash p', t) := by
      rw [← engine]
      exact Grows.keep t rfl rfl rfl rfl rfl
    rw [engine, search] at finish
    have whole := ((Grows.scratch p s p.hasher {}).trans grows).trans finish
    rw [Yield.empty_append, ← hitYield_append] at whole
    refine ⟨whole, ?_⟩
    rw [Progress.after_append]
    simp only [Progress.after, Nat.zero_add]
    rfl

theorem searchStream_error {address : Nat} {fileHash : String} {stream : ByteStream} {p q : Processor}
    {s t : σ} {e : ProcessError} (ran : run (searchStream address fileHash stream) p s = (.error e, q, t)) :
    Grows (hitYield p.engine fileHash
      (Search.feedAll p.engine.program {} (searched fileHash stream p s)).1.flatten) (p, s) (q, t) := by
  rw [run_searchStream] at ran
  split at ran
  · nomatch ran
  · rw [run_bind, run_pass, run_bind] at ran
    rcases pieces : run ((stream.deliver p.chunkSize).pieces.foldlM (searchPiece fileHash)
      ⟨.empty p.engine, 0⟩) { p with search := {} } s with ⟨result, p', s''⟩
    have whole := (Grows.scratch p s p.hasher {}).trans (search_grows pieces).1
    rw [Yield.empty_append] at whole
    dsimp only at ran
    rw [pieces] at ran
    cases result with
    | error e =>
      obtain ⟨_, rfl, rfl⟩ := ran
      exact whole
    | ok g =>
      -- All pieces came through, so that only the stream itself can have failed.
      dsimp only at ran
      have same := run_ended address (stream.deliver p.chunkSize) g p' s''
      rcases atEnd : run (ended address (stream.deliver p.chunkSize) g) p' s'' with ⟨result, after⟩
      rw [atEnd] at ran same
      dsimp only at same
      subst same
      cases result with
      | error e =>
        obtain ⟨_, rfl, rfl⟩ := ran
        exact whole
      | ok found =>
        dsimp only at ran
        rw [run_finishSearch] at ran
        nomatch ran

/-! ## Calls -/

def closingYield (address : Nat) (hashes : FileHashes) (bytes hits : Nat) : Yield where
  rows := { hashes := [⟨address, hashes⟩] }
  stats := { files := 1, bytes, hits }

/-- What processing a stream makes. When the search comes to the end of the stream, there is a row for
each of its hits and one for its digests. When the stream fails or the sink refuses rows before, there
are the rows of the hits until then. -/
def contentYield (address : Nat) (stream : ByteStream) (p : Processor) (s : σ) : Yield :=
  let first := stream.deliver p.chunkSize
  match first.ending with
  | .error _ => {}
  | .ok again =>
    let hashes := FileHashes.ofBytes first.pieces.flatten
    let q : Processor := { p with hasher := {} }
    match (run (searchStream address hashes.blake3 again) q s).1 with
    | .ok found =>
      let hits := Search.streamed p.engine.program (again.deliver p.chunkSize).pieces
      hitYield p.engine hashes.blake3 hits ++
        closingYield address hashes first.pieces.flatten.length found.hits
    | .error _ =>
      let pieces := searched hashes.blake3 again q s
      hitYield p.engine hashes.blake3 (Search.feedAll p.engine.program {} pieces).1.flatten

theorem recordContent_grows (address : Nat) (hashes : FileHashes) (bytes : Nat) (found : Progress)
    (p : Processor) (s : σ) :
    Grows (closingYield address hashes bytes found.hits) (p, s)
      (run (recordContent address hashes bytes found) p s).2 := by
  have kept : Grows (closingYield address hashes bytes found.hits) (p, s)
      ({ p with
          rows := { p.rows with hashes := p.rows.hashes ++ [⟨address, hashes⟩] }
          stats := p.stats + { files := 1, bytes, hits := found.hits } }, s) :=
    Grows.keep s rfl rfl rfl (by simp [RowBuffer.append_def, closingYield]) rfl
  exact kept.flushed (⟨hashes, found.summary, found.hits, bytes⟩ : FileOutcome)

theorem process_grows (address : Nat) (stream : ByteStream) (p : Processor) (s : σ) :
    Grows (contentYield address stream p s) (p, s) (run (process address stream) p s).2 := by
  have hashed (h : Hasher) := Grows.scratch p s h p.search
  rw [process, run_bind, run_hashStream, contentYield]
  dsimp only
  cases (stream.deliver p.chunkSize).ending with
  | error reason => exact hashed _
  | ok again =>
    dsimp only
    rw [run_bind]
    rcases search : run (searchStream address
      (FileHashes.ofBytes (stream.deliver p.chunkSize).pieces.flatten).blake3 again)
      { p with hasher := {} } s with ⟨result, q, t⟩
    cases result with
    | error e => exact (hashed {}).trans (searchStream_error search)
    | ok found =>
      exact ((hashed {}).trans (searchStream_ok search).1).trans (recordContent_grows _ _ _ _ _ _)

def matchRow (d : Dirent) (n : Inode) (r : Rule) : MatchRow := ⟨r.id, d.path, d.name, n.address⟩

def matchYield (e : Engine) (d : Dirent) (n : Inode) (outcome : Option FileOutcome) : Yield :=
  let matched := e.matching ⟨d, n, outcome.map (·.hashes), outcome.map (·.summary)⟩
  { rows := { ruleMatches := matched.map (matchRow d n) }, stats := { ruleMatches := matched.length } }

theorem matchRules_grows (d : Dirent) (n : Inode) (outcome : Option FileOutcome) (p : Processor) (s : σ) :
    Grows (matchYield p.engine d n outcome) (p, s) (run (matchRules d n outcome) p s).2 := by
  let rows := (p.engine.matching ⟨d, n, outcome.map (·.hashes), outcome.map (·.summary)⟩).map (matchRow d n)
  have kept : Grows (matchYield p.engine d n outcome) (p, s)
      ({ p with
          rows := { p.rows with ruleMatches := p.rows.ruleMatches ++ rows }
          stats := { p.stats with ruleMatches := p.stats.ruleMatches + rows.length } }, s) :=
    Grows.keep s rfl rfl rfl (by simp [RowBuffer.append_def, matchYield, rows])
      (by simp [matchYield, rows]; rfl)
  exact kept.flushed rows.length

/-- What processing an entry makes. -/
def entryYield (entry : FileEntry) (p : Processor) (s : σ) : Yield :=
  match entry.content with
  | none => matchYield p.engine entry.dirent entry.inode none
  | some stream =>
    contentYield entry.inode.address stream p s ++
      match (run (process entry.inode.address stream) p s).1 with
      | .ok outcome => matchYield p.engine entry.dirent entry.inode (some outcome)
      -- The rules are not asked.
      | .error _ => {}

omit [Sink.Keeps σ] in
theorem run_processEntry (entry : FileEntry) (p : Processor) (s : σ) :
    run (processEntry entry) p s =
      match entry.content with
      | none => run (discard (matchRules entry.dirent entry.inode none)) p s
      | some stream =>
        run (process entry.inode.address stream >>= fun outcome =>
          discard (matchRules entry.dirent entry.inode (some outcome))) p s := by
  rw [processEntry]
  cases entry.content with
  | none => rfl
  | some stream =>
    dsimp only
    rw [map_eq_pure_bind, bind_assoc]
    rfl

theorem processEntry_grows (entry : FileEntry) (p : Processor) (s : σ) :
    Grows (entryYield entry p s) (p, s) (run (processEntry entry) p s).2 := by
  rw [run_processEntry, entryYield]
  cases entry.content with
  | none =>
    dsimp only
    rw [run_discard]
    exact matchRules_grows _ _ _ _ _
  | some stream =>
    have grows := process_grows entry.inode.address stream p s
    dsimp only
    rw [run_bind]
    rcases ran : run (process entry.inode.address stream) p s with ⟨result, q, t⟩
    rw [ran] at grows
    cases result with
    | error e => simpa using grows
    | ok outcome =>
      have engine : q.engine = p.engine := grows.engine
      have matched := matchRules_grows entry.dirent entry.inode (some outcome) q t
      rw [engine] at matched
      dsimp only
      rw [run_discard]
      exact grows.trans matched

/-! ## Any number of calls -/

inductive Call
  | process (address : Nat) (stream : ByteStream)
  | matchRules (d : Dirent) (n : Inode) (outcome : Option FileOutcome)
  | processEntry (entry : FileEntry)
  | flush

namespace Call

def perform : Call → Processor → σ → Processor × σ
  | process address stream, p, s => (run (Processor.process address stream) p s).2
  | matchRules d n outcome, p, s => (run (Processor.matchRules d n outcome) p s).2
  | processEntry entry, p, s => (run (Processor.processEntry entry) p s).2
  | flush, p, s => (run Processor.flush p s).2

/-- What a call makes, whether or not it succeeds. -/
def yield : Call → Processor → σ → Yield
  | process address stream, p, s => contentYield address stream p s
  | matchRules d n outcome, p, _ => matchYield p.engine d n outcome
  | processEntry entry, p, s => entryYield entry p s
  | flush, _, _ => {}

theorem grows (call : Call) (p : Processor) (s : σ) : Grows (call.yield p s) (p, s) (call.perform p s) := by
  cases call with
  | process address stream => exact process_grows address stream p s
  | matchRules d n outcome => exact matchRules_grows d n outcome p s
  | processEntry entry => exact processEntry_grows entry p s
  | flush => exact quiet_flush p s

end Call

def performAll : List Call → Processor → σ → Processor × σ
  | [], p, s => (p, s)
  | call :: calls, p, s => performAll calls (call.perform p s).1 (call.perform p s).2

def yieldAll : List Call → Processor → σ → Yield
  | [], _, _ => {}
  | call :: calls, p, s => call.yield p s ++ yieldAll calls (call.perform p s).1 (call.perform p s).2

theorem performAll_grows (calls : List Call) (p : Processor) (s : σ) :
    Grows (yieldAll calls p s) (p, s) (performAll calls p s) := by
  induction calls generalizing p s with
  | nil => exact Grows.refl _
  | cons call calls ih => exact (call.grows p s).trans (ih _ _)

/-- Whatever fails, no row is lost and none comes twice: after any calls the rows that the sink has
accepted, followed by those still kept, are those from before and then all that the calls made, in the
order in which they were made. A flush that succeeds brings all of them to the sink. -/
theorem rows_conserved (calls : List Call) (p : Processor) (s : σ) :
    held (performAll calls p s) = held (p, s) ++ (yieldAll calls p s).rows ∧
      ∀ q t, run flush (performAll calls p s).1 (performAll calls p s).2 = (.ok (), q, t) →
        q.rows = {} ∧ (Sink.Keeps.tables t).taken = held (p, s) ++ (yieldAll calls p s).rows := by
  have grows := (performAll_grows calls p s).rows
  refine ⟨grows, fun q t flushed => ?_⟩
  have rows := rows_flush flushed
  have moved := (quiet_flush (performAll calls p s).1 (performAll calls p s).2).rows
  rw [flushed] at moved
  refine ⟨rows, ?_⟩
  calc (Sink.Keeps.tables t).taken
      = held (q, t) := by rw [held, rows, RowBuffer.append_empty]
    _ = held (performAll calls p s) ++ {} := moved
    _ = held (p, s) ++ (yieldAll calls p s).rows := by rw [RowBuffer.append_empty, grows]

def everyFile : Rule :=
  ⟨"every_file", "0f", SortedMap.empty, none, none, none, none, 0, 0⟩

def note : Dirent := ⟨"/notes", "todo", 7, .file⟩

def noteInode : Inode := { address := 7, size := 0 }

/-- A processor that flushes after each row. -/
def eager : Processor := Processor.create ⟨[everyFile], [], [], {}⟩ { rowBatch := 1 }

def fullOnce : Journal := { refused := [(some .ruleMatches, 0)] }

/-- The sink refuses the row of a match when the call gives it away, and a later flush brings it. -/
theorem refused_row_delivered :
    (run (matchRules note noteInode none) eager fullOnce).1 = .error (.sink (.io "disk full")) ∧
      (Sink.Keeps.tables (performAll [.matchRules note noteInode none] eager fullOnce).2).ruleMatches = [] ∧
      (performAll [.matchRules note noteInode none, .flush] eager fullOnce).1.rows = {} ∧
      (Sink.Keeps.tables
          (performAll [.matchRules note noteInode none, .flush] eager fullOnce).2).ruleMatches =
        [⟨"0f", "/notes", "todo", 7⟩] := by
  obtain ⟨empty, taken⟩ := (rows_conserved [.matchRules note noteInode none] eager fullOnce).2
    (performAll [.matchRules note noteInode none, .flush] eager fullOnce).1
    (performAll [.matchRules note noteInode none, .flush] eager fullOnce).2 rfl
  exact ⟨rfl, rfl, empty, congrArg RowBuffer.ruleMatches taken⟩

end Processor

end Triage
