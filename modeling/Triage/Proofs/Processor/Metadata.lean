import Triage.Proofs.Processor.Report

/-! Rules that ask for names and metadata only. Whether an entry is matched against them depends on its
content in one way: it must be possible to read it, for the rules are asked last. -/

namespace Triage

namespace Rule

/-- Whether a rule asks for digests or for hits. -/
def asksContent (r : Rule) : Bool := r.hash.isSome || r.grep.isSome

/-- Whether all that a rule asks of names and metadata holds. -/
def metadataHolds (d : Dirent) (n : Inode) (r : Rule) : Bool :=
  r.fileMetadata.all (FileFacts.propertiesHold d n) && r.signature.all (FileFacts.propertiesHold d n)

end Rule

namespace Engine

theorem ruleHolds_of_metadata (e : Engine) (facts : FileFacts) (i : Nat) {r : Rule}
    (metadata : r.asksContent = false) :
    e.ruleHolds facts i r = r.metadataHolds facts.dirent facts.inode := by
  obtain ⟨hash, grep⟩ := Bool.or_eq_false_iff.mp metadata
  rw [Option.isSome_eq_false_iff, Option.isNone_iff_eq_none] at hash grep
  simp [ruleHolds, Rule.metadataHolds, hash, grep]

/-- Of the rules that match a file, those that ask for metadata only are told by its metadata. -/
theorem filter_matching (e : Engine) (facts : FileFacts) :
    ((e.matching facts).filter fun r => !r.asksContent) =
      e.rules.filter fun r => !r.asksContent && r.metadataHolds facts.dirent facts.inode := by
  have rules : e.rules = e.rules.zipIdx.map (·.1) := (List.zipIdx_map_fst 0 e.rules).symm
  conv_rhs => rw [rules]
  rw [matching, List.filter_map, List.filter_map, List.filter_filter]
  refine congrArg _ (List.filter_congr fun entry _ => ?_)
  cases asks : entry.1.asksContent with
  | true => simp [asks]
  | false => simp [asks, e.ruleHolds_of_metadata facts entry.2 asks]

end Engine

namespace Processor

/-- Whether the passes over a content come to its end: the one for its digests and, if there are patterns, the
one for its hits. -/
def ReadsThrough (e : Engine) (size : Nat) (stream : ByteStream) : Prop :=
  ∃ again, (stream.deliver size).ending = .ok again ∧
    (e.program.isEmpty = false → ∃ last, (again.deliver size).ending = .ok last)

theorem readsThrough_of_unfailing (e : Engine) (size : Nat) {stream : ByteStream}
    (unfailing : stream.Unfailing) : ReadsThrough e size stream := by
  obtain ⟨again, ending, later⟩ := unfailing.deliver size
  obtain ⟨last, ending', _⟩ := later.deliver size
  exact ⟨again, ending, fun _ => ⟨last, ending'⟩⟩

/-- A content gives an outcome if it can be read through. If not, the failure is all that is told, and no rule
has been asked. -/
theorem contentReport_ends (e : Engine) (size address : Nat) (stream : ByteStream) :
    (ReadsThrough e size stream → ∃ outcome, (contentReport e size address stream).1 = .ok outcome) ∧
      (¬ ReadsThrough e size stream →
        ∃ reason, (contentReport e size address stream).1 = .error (.read address reason)) ∧
      (contentReport e size address stream).2.rows.ruleMatches = [] := by
  rw [contentReport]
  dsimp only
  cases first : (stream.deliver size).ending with
  | error reason =>
    refine ⟨fun through => ?_, fun _ => ⟨reason, rfl⟩, rfl⟩
    obtain ⟨again, ending, _⟩ := through
    rw [first] at ending
    cases ending
  | ok again =>
    dsimp only
    generalize (FileHashes.ofBytes (stream.deliver size).pieces.flatten) = hashes
    rw [searchResult]
    cases empty : e.program.isEmpty with
    | true =>
      rw [if_pos rfl]
      refine ⟨fun _ => ⟨_, rfl⟩, fun stuck => absurd ⟨again, first, fun some => ?_⟩ stuck, rfl⟩
      rw [empty] at some
      cases some
    | false =>
      rw [if_neg Bool.false_ne_true]
      cases second : (again.deliver size).ending with
      | ok last => exact ⟨fun _ => ⟨_, rfl⟩, fun stuck => absurd ⟨again, first, fun _ => ⟨last, second⟩⟩ stuck, rfl⟩
      | error reason =>
        refine ⟨fun through => ?_, fun _ => ⟨reason, rfl⟩, rfl⟩
        obtain ⟨next, ending, searched⟩ := through
        obtain rfl := Except.ok.inj (first.symm.trans ending)
        obtain ⟨last, ending'⟩ := searched empty
        rw [second] at ending'
        cases ending'

/-- Whether an entry's content does not keep the rules from being asked. -/
def Readable (e : Engine) (size : Nat) (entry : FileEntry) : Prop :=
  ∀ stream, entry.content = some stream → ReadsThrough e size stream

theorem entryReport_of_readable {e : Engine} {size : Nat} {entry : FileEntry} (readable : Readable e size entry) :
    (entryReport e size entry).1 = .ok () ∧ ∃ matched : List Rule,
      (entryReport e size entry).2.rows.ruleMatches = matched.map (matchRow entry.dirent entry.inode) ∧
      (matched.filter fun r => !r.asksContent) =
        e.rules.filter fun r => !r.asksContent && r.metadataHolds entry.dirent entry.inode := by
  rw [entryReport]
  cases content : entry.content with
  | none => exact ⟨rfl, _, rfl, e.filter_matching ⟨entry.dirent, entry.inode, none, none⟩⟩
  | some stream =>
    obtain ⟨through, _, none⟩ := contentReport_ends e size entry.inode.address stream
    obtain ⟨outcome, done⟩ := through (readable stream content)
    rcases reported : contentReport e size entry.inode.address stream with ⟨ended, made⟩
    rw [reported] at done none
    obtain rfl : ended = .ok outcome := done
    dsimp only
    rw [reported]
    refine ⟨rfl, _, ?_, e.filter_matching
      ⟨entry.dirent, entry.inode, some outcome.hashes, some outcome.summary⟩⟩
    dsimp only
    rw [Yield.append_def, RowBuffer.append_def, none]
    rfl

theorem entryReport_of_not_readable {e : Engine} {size : Nat} {entry : FileEntry}
    (stuck : ¬ Readable e size entry) :
    (∃ reason, (entryReport e size entry).1 = .error (.read entry.inode.address reason)) ∧
      (entryReport e size entry).2.rows.ruleMatches = [] := by
  simp only [Readable, not_forall] at stuck
  obtain ⟨stream, content, stuck⟩ := stuck
  obtain ⟨_, failing, none⟩ := contentReport_ends e size entry.inode.address stream
  obtain ⟨reason, failed⟩ := failing stuck
  rcases reported : contentReport e size entry.inode.address stream with ⟨ended, made⟩
  rw [reported] at failed none
  obtain rfl : ended = .error (.read entry.inode.address reason) := failed
  rw [entryReport, content]
  dsimp only
  rw [reported]
  exact ⟨⟨reason, rfl⟩, none⟩

variable {σ : Type} [Sink σ] [Sink.Reliable σ] [Sink.Keeps σ]

theorem taken_flush (p : Processor) (s : σ) :
    (run flush p s).1 = .ok () ∧ (Sink.Keeps.tables (run flush p s).2.2).taken = held (p, s) := by
  have ok : (run flush p s).1 = .ok () := succeeds_flush p s
  have moved := (quiet_flush p s).rows
  rcases ran : run flush p s with ⟨result, q, t⟩
  rw [ran] at ok moved
  obtain rfl : result = .ok () := ok
  refine ⟨rfl, ?_⟩
  calc (Sink.Keeps.tables t).taken
      = held (q, t) := by rw [held, rows_flush ran, RowBuffer.append_empty]
    _ = held (p, s) := by rw [moved, RowBuffer.append_empty]

/-- The rows of matches that are in the sink once an entry is processed and the processor has flushed. -/
theorem matches_flushed (entry : FileEntry) (p : Processor) (s : σ) :
    let processed := run (processEntry entry) p s
    let flushed := run flush processed.2.1 processed.2.2
    flushed.1 = .ok () ∧
      (Sink.Keeps.tables flushed.2.2).ruleMatches =
        (held (p, s)).ruleMatches ++ (entryReport p.engine p.chunkSize entry).2.rows.ruleMatches := by
  intro processed flushed
  have grows := (processEntry_grows entry p s).rows
  rw [(processEntry_reported entry p s).2] at grows
  obtain ⟨ok, taken⟩ := taken_flush processed.2.1 processed.2.2
  exact ⟨ok, congrArg RowBuffer.ruleMatches (taken.trans grows)⟩

/-- An entry that has no content, or one that can be read through, gets a row for each rule that asks for
metadata only and holds of it, whatever else matches it. An entry whose content cannot be read through is
given up: its failure is returned, and no rule is asked. -/
theorem metadata_rules_matched (entry : FileEntry) (p : Processor) (s : σ) :
    let processed := run (processEntry entry) p s
    let flushed := run flush processed.2.1 processed.2.2
    let rows := (Sink.Keeps.tables flushed.2.2).ruleMatches
    flushed.1 = .ok () ∧
      (Readable p.engine p.chunkSize entry → processed.1 = .ok () ∧ ∃ matched : List Rule,
        rows = (held (p, s)).ruleMatches ++ matched.map (matchRow entry.dirent entry.inode) ∧
        (matched.filter fun r => !r.asksContent) =
          p.engine.rules.filter fun r => !r.asksContent && r.metadataHolds entry.dirent entry.inode) ∧
      (¬ Readable p.engine p.chunkSize entry → rows = (held (p, s)).ruleMatches ∧
        ∃ reason, processed.1 = .error (.read entry.inode.address reason)) := by
  intro processed flushed rows
  obtain ⟨ok, made⟩ := matches_flushed entry p s
  have result : processed.1 = (entryReport p.engine p.chunkSize entry).1 := (processEntry_reported entry p s).1
  have total : rows = _ := made
  rw [total, result]
  refine ⟨ok, fun readable => ?_, fun stuck => ?_⟩
  · obtain ⟨done, matched, rows, metadata⟩ := entryReport_of_readable readable
    exact ⟨done, matched, by rw [rows], metadata⟩
  · obtain ⟨failed, none⟩ := entryReport_of_not_readable stuck
    exact ⟨by rw [none, List.append_nil], failed⟩

/-- A content that comes a byte at a time, is interrupted first and gives nothing once. -/
def slowEntry : FileEntry where
  dirent := note
  inode := noteInode
  content := some { bytes := [1, 2], mostPerRead := some 1, readEvents := [(0, .interrupted), (2, .short 0)] }

theorem slowEntry_matched :
    let processed := run (processEntry slowEntry) eager ({} : MemoryTables)
    let flushed := run flush processed.2.1 processed.2.2
    Readable eager.engine eager.chunkSize slowEntry ∧ processed.1 = .ok () ∧
      matchRow note noteInode everyFile ∈ flushed.2.2.ruleMatches := by
  intro processed flushed
  have readable : Readable eager.engine eager.chunkSize slowEntry := by
    intro stream content
    obtain rfl := Option.some.inj content
    refine readsThrough_of_unfailing _ _ ⟨fun n reason _ found => ?_, fun _ _ => rfl⟩
    obtain ⟨_, _, split, _⟩ := List.lookup_eq_some_iff.mp found
    dsimp only at split
    have member : (n, ReadEvent.failed reason) ∈ [(0, ReadEvent.interrupted), (2, ReadEvent.short 0)] := by
      rw [split]
      exact List.mem_append_right _ List.mem_cons_self
    simp at member
  obtain ⟨done, matched, rows, metadata⟩ :=
    (metadata_rules_matched slowEntry eager ({} : MemoryTables)).2.1 readable
  have asked : everyFile ∈ matched.filter fun r => !r.asksContent := by
    rw [metadata]
    decide
  refine ⟨readable, done, ?_⟩
  change _ ∈ (Sink.Keeps.tables flushed.2.2).ruleMatches
  rw [rows]
  exact List.mem_append_right _ (List.mem_map_of_mem (List.mem_of_mem_filter asked))

/-- A content of which not even the start is found. -/
def goneEntry : FileEntry where
  dirent := note
  inode := noteInode
  content := some { bytes := [1, 2], seekFailures := [(0, "gone")] }

theorem goneEntry_unmatched :
    everyFile ∈ eager.engine.rules ∧ everyFile.asksContent = false ∧
      everyFile.metadataHolds note noteInode = true ∧
      let processed := run (processEntry goneEntry) eager ({} : MemoryTables)
      let flushed := run flush processed.2.1 processed.2.2
      flushed.1 = .ok () ∧ flushed.2.2.ruleMatches = [] := by
  refine ⟨List.mem_singleton_self _, rfl, rfl, rfl, rfl⟩

end Processor

end Triage
