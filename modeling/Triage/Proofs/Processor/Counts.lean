import Triage.Proofs.Engine.Independence
import Triage.Proofs.Processor.Report

/-! What a processor counts beside the rows it has made. Rows of hits are made while a stream is searched and
counted when it is done, so that hits found before a stream fails are there and are not counted. -/

namespace Triage

/-- What is counted is what there are rows for, but for a number of rows of hits. -/
structure Yield.Counted (uncounted : Nat) (made : Yield) : Prop where
  files : made.rows.hashes.length = made.stats.files
  hits : made.rows.searchHits.length = made.stats.hits + uncounted
  ruleMatches : made.rows.ruleMatches.length = made.stats.ruleMatches

theorem Yield.counted_empty : ({} : Yield).Counted 0 := ⟨rfl, rfl, rfl⟩

theorem Yield.Counted.append {m n : Nat} {a b : Yield} (first : a.Counted m) (second : b.Counted n) :
    (a ++ b).Counted (m + n) where
  files := (List.length_append ..).trans (congrArg₂ (· + ·) first.files second.files)
  hits := by
    refine (List.length_append ..).trans ?_
    rw [first.hits, second.hits]
    exact Nat.add_add_add_comm ..
  ruleMatches := (List.length_append ..).trans (congrArg₂ (· + ·) first.ruleMatches second.ruleMatches)

namespace Search

theorem feedAll_of_isEmpty {p : Program} (empty : p.isEmpty) (s : State) (chunks : List (List UInt8)) :
    (feedAll p s chunks).1.flatten = [] := by
  induction chunks generalizing s with
  | nil => rfl
  | cons chunk chunks ih =>
    rw [feedAll, List.flatten_cons, feed_of_isEmpty empty, List.nil_append]
    exact ih _

end Search

namespace Processor

/-- The rows of the hits that are found in a stream before its search fails. -/
def strayHits (e : Engine) (size : Nat) (stream : ByteStream) : List HitRow :=
  let first := stream.deliver size
  match first.ending with
  | .error _ => []
  | .ok again =>
    let second := again.deliver size
    match second.ending with
    | .ok _ => []
    | .error _ =>
      hitRows e (FileHashes.ofBytes first.pieces.flatten).blake3
        (Search.feedAll e.program {} second.pieces).1.flatten

theorem counted_hits (e : Engine) (fileHash : String) (hits : List Search.Hit) :
    (hitYield e fileHash hits).Counted (hitRows e fileHash hits).length := ⟨rfl, (Nat.zero_add _).symm, rfl⟩

theorem counted_closed (e : Engine) (fileHash : String) (hits : List Search.Hit) (address : Nat)
    (hashes : FileHashes) (bytes : Nat) :
    (hitYield e fileHash hits ++
      closingYield address hashes bytes (hitRows e fileHash hits).length).Counted 0 where
  files := rfl
  hits := by
    refine (List.length_append ..).trans ?_
    exact Nat.add_comm ..
  ruleMatches := rfl

theorem counted_content (e : Engine) (size address : Nat) (stream : ByteStream) :
    (contentReport e size address stream).2.Counted (strayHits e size stream).length := by
  rw [contentReport, strayHits]
  dsimp only
  cases (stream.deliver size).ending with
  | error reason => exact Yield.counted_empty
  | ok again =>
    dsimp only
    generalize (FileHashes.ofBytes (stream.deliver size).pieces.flatten) = hashes
    rw [searchResult]
    cases empty : e.program.isEmpty with
    | true =>
      -- Nothing is searched for, so a stream that would fail has no hits either.
      rw [if_pos rfl, Search.streamed_of_isEmpty empty, Search.feedAll_of_isEmpty empty]
      have closed := counted_closed e hashes.blake3 [] address hashes (stream.deliver size).pieces.flatten.length
      cases (again.deliver size).ending <;> exact closed
    | false =>
      rw [if_neg Bool.false_ne_true]
      cases (again.deliver size).ending with
      | ok last => exact counted_closed e hashes.blake3 _ address hashes _
      | error reason => exact counted_hits e hashes.blake3 _

theorem counted_matches (e : Engine) (d : Dirent) (n : Inode) (outcome : Option FileOutcome) :
    (matchYield e d n outcome).Counted 0 := ⟨rfl, rfl, List.length_map _⟩

def strayHitsOf (e : Engine) (size : Nat) (entry : FileEntry) : List HitRow :=
  (entry.content.map (strayHits e size)).getD []

theorem counted_entry (e : Engine) (size : Nat) (entry : FileEntry) :
    (entryReport e size entry).2.Counted (strayHitsOf e size entry).length := by
  rw [entryReport, strayHitsOf]
  cases entry.content with
  | none => exact counted_matches e _ _ _
  | some stream =>
    have content := counted_content e size entry.inode.address stream
    dsimp only
    rcases reported : contentReport e size entry.inode.address stream with ⟨ended, made⟩
    rw [reported] at content
    cases ended with
    | error failure => exact content
    | ok outcome => exact content.append (counted_matches e _ _ _)

/-- The rows of hits that a call leaves uncounted. -/
def Call.strayHits (e : Engine) (size : Nat) : Call → List HitRow
  | .process _ stream => Processor.strayHits e size stream
  | .processEntry entry => strayHitsOf e size entry
  | .matchRules .. => []
  | .flush => []

variable {σ : Type} [Sink σ] [Sink.Reliable σ] [Sink.Keeps σ]

theorem Call.counted (call : Call) (p : Processor) (s : σ) :
    (call.yield p s).Counted (call.strayHits p.engine p.chunkSize).length := by
  cases call with
  | process address stream =>
    rw [Call.yield, (process_reported address stream p s).2]
    exact counted_content p.engine p.chunkSize address stream
  | matchRules d n outcome => exact counted_matches p.engine d n outcome
  | processEntry entry =>
    rw [Call.yield, (processEntry_reported entry p s).2]
    exact counted_entry p.engine p.chunkSize entry
  | flush => exact Yield.counted_empty

theorem counted_all (calls : List Call) (p : Processor) (s : σ) :
    (yieldAll calls p s).Counted (calls.flatMap (Call.strayHits p.engine p.chunkSize)).length := by
  induction calls generalizing p s with
  | nil => exact Yield.counted_empty
  | cons call calls ih =>
    have grows := call.grows p s
    have others := ih (call.perform p s).1 (call.perform p s).2
    rw [grows.engine, grows.chunkSize] at others
    rw [yieldAll, List.flatMap_cons, List.length_append]
    exact (call.counted p s).append others

/-- What a new processor has counted after any calls, streams that fail among them, is what there are rows for,
those in the sink and those still kept, as to digests and matches. Of the hits it has counted all but those
that were found in a stream before its search failed, so its count is right as long as there are none. -/
theorem counts_tell_rows (calls : List Call) (e : Engine) (c : ScanConfig) (s : σ) :
    let after := performAll calls (create e c) s
    let before := (Sink.Keeps.tables s).taken
    let stray := calls.flatMap (Call.strayHits e (max c.chunkSize 1))
    (held after).hashes.length = before.hashes.length + after.1.stats.files ∧
      (held after).ruleMatches.length = before.ruleMatches.length + after.1.stats.ruleMatches ∧
      (held after).searchHits.length = before.searchHits.length + after.1.stats.hits + stray.length ∧
      ((held after).searchHits.length = before.searchHits.length + after.1.stats.hits ↔
        ∀ call ∈ calls, call.strayHits e (max c.chunkSize 1) = []) := by
  intro after before stray
  have grows := performAll_grows calls (create e c) s
  obtain ⟨files, hits, matched⟩ := counted_all calls (create e c) s
  have stats : after.1.stats = (yieldAll calls (create e c) s).stats := by
    rw [grows.stats, create]
    ext <;> exact Nat.zero_add _
  have rows : held after = before ++ (yieldAll calls (create e c) s).rows := by
    rw [grows.rows, held, create, RowBuffer.append_empty]
  have total : (held after).searchHits.length =
      before.searchHits.length + after.1.stats.hits + stray.length := by
    rw [rows, stats, RowBuffer.append_def, List.length_append, hits, Nat.add_assoc]
    rfl
  refine ⟨?_, ?_, total, ?_⟩
  · rw [rows, stats, RowBuffer.append_def, List.length_append, files]
  · rw [rows, stats, RowBuffer.append_def, List.length_append, matched]
  · rw [total, Nat.add_eq_left, List.length_eq_zero_iff, List.flatMap_eq_nil_iff]

def abRule : Rule :=
  { everyFile with
    id := "ab"
    grep := some ⟨⟨[("a", [⟨"ab", false, false, "ASCII"⟩])]⟩, .leaf (.call ⟨.any, [], none, none⟩)⟩ }

def abEngine : Engine :=
  Engine.withProgram [abRule] { entries := [⟨⟨0, "ab", "ASCII", 2⟩, .literal ⟨[97, 98], false⟩⟩] }

/-- A stream that is read for its digests and fails when half of it is searched. -/
def halfSearched : ByteStream :=
  { bytes := [97, 98, 97, 98], readEvents := [(4, .failed "bad sector")] }

theorem halfSearched_uncounted :
    let after := performAll [.process 7 halfSearched] (create abEngine { chunkSize := 2 }) ({} : MemoryTables)
    Engine.ofRules [abRule] = .ok abEngine ∧ (held after).searchHits.length = 1 ∧ after.1.stats.hits = 0 := by
  have built : Engine.ofRules [abRule] = .ok abEngine :=
    Engine.ofRules_eq (Search.Program.eq_ok_of_toOption (by decide +kernel))
  exact ⟨built, by decide +kernel, by decide +kernel⟩

/-- The same content once as it is and once cut short. -/
theorem halfSearched_counted :
    let after := performAll
      [.process 6 { bytes := halfSearched.bytes }, .processEntry ⟨note, noteInode, some halfSearched⟩, .flush]
      (create abEngine { chunkSize := 2 }) ({} : MemoryTables)
    (held after).hashes.length = after.1.stats.files ∧
      (held after).searchHits.length = after.1.stats.hits + 1 ∧
      (held after).ruleMatches.length = after.1.stats.ruleMatches := by
  intro after
  obtain ⟨files, matched, hits, _⟩ := counts_tell_rows
    [.process 6 { bytes := halfSearched.bytes }, .processEntry ⟨note, noteInode, some halfSearched⟩, .flush]
    abEngine { chunkSize := 2 } ({} : MemoryTables)
  refine ⟨files.trans (Nat.zero_add _), hits.trans ?_, matched.trans (Nat.zero_add _)⟩
  have one : (([.process 6 { bytes := halfSearched.bytes }, .processEntry ⟨note, noteInode, some halfSearched⟩,
      .flush] : List Call).flatMap (Call.strayHits abEngine (max 2 1))).length = 1 := by decide +kernel
  rw [one]
  exact congrArg (· + 1) (Nat.zero_add _)

end Processor

end Triage
