import Triage.Proofs.Engine.Tally
import Triage.Proofs.Search.Exact

/-! The order in which hits are reported. How a stream is cut decides when a hit is reported, and so do
the lengths of literals and what expressions wait for; but hits of literals that lie in one place are
reported together, and so are those of expressions. -/

namespace Triage.Search

/-- A hit that can only be reported once more than the bytes seen are there. -/
structure Later (p : Program) (seen : List UInt8) (h : Hit) : Prop where
  literal : ∀ l, p.Has h.pattern (.literal l) → seen.length < h.stop
  regex : ∀ r, p.Has h.pattern (.regex r) → horizon p.overlap seen ≤ h.start

section kinds
variable {p : Program} {seen : List UInt8} {h : Hit} {l : LiteralPattern} {r : RegexPattern}

end kinds

theorem Later.mono {p : Program} {seen : List UInt8} {chunk : List UInt8} {h : Hit}
    (later : Later p (seen ++ chunk) h) : Later p seen h where
  literal l has := by
    have := later.literal l has
    rw [List.length_append] at this
    omega
  regex r has := Nat.le_trans (horizon_mono p.overlap seen chunk) (later.regex r has)

section program
variable {p : Program} {s : State} {seen chunk : List UInt8}

/-- The expressions are searched for from behind what was searched. -/
def Searched (p : Program) (s : State) (seen : List UInt8) : Prop :=
  ∀ place ∈ cursors p s, horizon p.overlap seen ≤ place ∧ place ≤ seen.length

theorem searched_empty (p : Program) : Searched p {} [] := by
  intro place member
  rw [cursors] at member
  split at member
  · cases member
  · obtain ⟨_, rfl⟩ := List.mem_replicate.mp member
    simp [horizon]

theorem consuming_endsFrom {r : RegexPattern} (sound : r.Sound) (base : Nat) (buffer : List UInt8) :
    Pass.Consuming (endsFrom r.expr base buffer) := by
  intro q stop found
  unfold endsFrom at found
  split at found
  · obtain ⟨place, here, rfl⟩ := Option.map_eq_some_iff.mp found
    have := consuming_endAt? sound buffer _ _ here
    omega
  · nomatch found

theorem regexHits_between {r : RegexPattern} (sound : r.Sound) (index committed : Nat) {resume : Nat}
    (low : s.base ≤ resume) (inside : resume ≤ s.base + s.pending.length) {h : Hit}
    (member : h ∈ (regexHits s committed (r, index) resume).1) :
    resume ≤ h.start ∧ h.start < s.base + committed := by
  obtain ⟨spans, hits, pass⟩ := pass_regexHits sound index committed low inside
  rw [hits] at member
  obtain ⟨span, found, rfl⟩ := List.mem_map.mp member
  obtain ⟨after, before, _⟩ := pass.of_mem (consuming_endsFrom sound _ _) found
  exact ⟨after, before⟩

theorem advance_between {r : RegexPattern} (sound : r.Sound) (index overlap : Nat) (chunk : List UInt8)
    {resume : Nat} (low : horizon overlap seen ≤ resume) (inside : resume ≤ seen.length) :
    (∀ h ∈ (advance overlap seen chunk (r, index) resume).1,
      horizon overlap seen ≤ h.start ∧ h.start < horizon overlap (seen ++ chunk)) ∧
    horizon overlap (seen ++ chunk) ≤ (advance overlap seen chunk (r, index) resume).2 ∧
    (advance overlap seen chunk (r, index) resume).2 ≤ (seen ++ chunk).length := by
  have kept : keptFrom overlap seen ≤ horizon overlap seen := Nat.sub_le _ _
  have mono := horizon_mono overlap seen chunk
  have behind : horizon overlap (seen ++ chunk) ≤ (seen ++ chunk).length := Nat.sub_le _ _
  have limit : keptFrom overlap seen + (horizon overlap (seen ++ chunk) - keptFrom overlap seen) =
      horizon overlap (seen ++ chunk) := by omega
  have length : (buffered overlap seen chunk).pending.length =
      (seen ++ chunk).length - keptFrom overlap seen := List.length_drop
  have start : (buffered overlap seen chunk).base ≤ resume := Nat.le_trans kept low
  have whole : keptFrom overlap seen + (buffered overlap seen chunk).pending.length =
      (seen ++ chunk).length := by omega
  have room : resume ≤ (buffered overlap seen chunk).base + (buffered overlap seen chunk).pending.length := by
    change resume ≤ keptFrom overlap seen + _
    rw [whole, List.length_append]
    omega
  refine ⟨fun h member => ?_, ?_, ?_⟩
  · obtain ⟨after, before⟩ := regexHits_between sound index _ start room member
    change h.start < keptFrom overlap seen + _ at before
    omega
  · obtain ⟨_, _, pass⟩ := pass_regexHits sound index
      (horizon overlap (seen ++ chunk) - keptFrom overlap seen) start room
    have := pass.le_resume
    change keptFrom overlap seen + _ ≤ _ at this
    rwa [limit] at this
  · have fits : horizon overlap (seen ++ chunk) - keptFrom overlap seen ≤
        (buffered overlap seen chunk).pending.length := by omega
    exact Nat.le_trans (regexHits_resume_le sound index start room fits) (Nat.le_of_eq whole)

theorem searched_feed (built : p.Built) (present : p.regexes ≠ []) (buffers : Buffers p s seen)
    (searched : Searched p s seen) : Searched p (feed p s chunk).2 (seen ++ chunk) := by
  cases empty : chunk.isEmpty with
  | true =>
    have still : feed p s chunk = ([], s) := by simp [feed, empty]
    rwa [still, List.isEmpty_iff.mp empty, List.append_nil]
  | false =>
    intro place member
    rw [cursors_feed present buffers empty] at member
    obtain ⟨⟨r, resume⟩, pair, rfl⟩ := List.mem_map.mp member
    obtain ⟨regex, cursor⟩ := List.of_mem_zip pair
    obtain ⟨low, inside⟩ := searched resume cursor
    exact (advance_between (built.sound_of_has (Program.mem_regexes.mp regex)) r.2 p.overlap chunk low
      inside).2

end program

/-- What is asked of a program so that its hits in a content do not depend on the chunks: its expressions
have no word boundaries, and their matches in a single pass are no longer than the window. -/
structure Plain (p : Program) (content : List UInt8) : Prop where
  wordless : ∀ index r, p.Has index (.regex r) → ∀ unicode edge, .word unicode edge ∉ r.expr.looks
  short : ∀ index r, p.Has index (.regex r) → ∀ span ∈ r.expr.spans content, span.2 - span.1 ≤ p.window

theorem Plain.streamed_perm {p : Program} (built : p.Built) {chunks others : List (List UInt8)}
    (same : chunks.flatten = others.flatten) (plain : Plain p others.flatten) :
    (streamed p chunks).Perm (streamed p others) := by
  refine Search.streamed_perm built same fun index r has => ?_
  have short : ∀ span ∈ r.expr.spans others.flatten, span.2 - span.1 ≤ Program.waitFor p.window r.longest :=
    fun span member => span_le_waitFor (built.sound_of_has has) member (plain.short index r has span member)
  rw [single_of_short built has (plain.wordless index r has) chunks (same ▸ short),
    single_of_short built has (plain.wordless index r has) others short, same]

end Triage.Search
