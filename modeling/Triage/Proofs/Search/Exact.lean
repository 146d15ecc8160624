import Triage.Proofs.Search.Single

/-! When a stream in chunks gives what one pass over all of it gives. It is enough that every buffer
tells the truth about the places that are searched with it: that a match of the pass ends in it where
it ends in the stream, and that nothing matches where nothing does. -/

namespace Triage.Search
open Regex

/-- A buffer that tells of the places between two bounds what the stream tells of them, at least where
the spans are and where nothing matches. -/
structure Faithful (e : Expr) (stream : List UInt8) (spans : List (Nat × Nat)) (base : Nat)
    (buffer : List UInt8) (low high : Nat) : Prop where
  present : ∀ start stop, (start, stop) ∈ spans → low ≤ start → start < high →
    endsFrom e base buffer start = some stop
  absent : ∀ q, low ≤ q → q < high → e.endAt? stream q = none → endsFrom e base buffer q = none

theorem Faithful.of_eq {e : Expr} {stream buffer : List UInt8} {spans : List (Nat × Nat)}
    {base low high : Nat}
    (ends : ∀ start stop, (start, stop) ∈ spans → e.endAt? stream start = some stop)
    (same : ∀ q, low ≤ q → q < high → endsFrom e base buffer q = e.endAt? stream q) :
    Faithful e stream spans base buffer low high where
  present start stop member after before := by rw [same start after before, ends start stop member]
  absent q after before missing := by rw [same q after before, missing]

/-- A search of a faithful buffer gives the part of a pass that it covers. -/
theorem regexHits_of_faithful {r : RegexPattern} (sound : r.Sound) (index : Nat)
    {committed resume : Nat} {stream : List UInt8} {s : State} {all spans : List (Nat × Nat)} {place : Nat}
    (low : s.base ≤ resume) (inside : resume ≤ s.base + s.pending.length)
    (pass : Pass (r.expr.endAt? stream) (s.base + committed) resume spans place)
    (subset : spans ⊆ all)
    (faithful : Faithful r.expr stream all s.base s.pending resume (s.base + committed)) :
    regexHits s committed (r, index) resume = (spans.map (Hit.ofSpan index), place) := by
  obtain ⟨found, hits, search⟩ := pass_regexHits sound index committed low inside
  have consuming := consuming_endAt? sound stream
  have present : ∀ start stop, (start, stop) ∈ spans →
      endsFrom r.expr s.base s.pending start = some stop := by
    intro start stop member
    obtain ⟨after, before, _⟩ := pass.of_mem consuming member
    exact faithful.present start stop (subset member) after before
  have covered := pass.congr consuming present faithful.absent
  obtain ⟨rfl, resumes⟩ := search.unique covered
  exact Prod.ext hits resumes

theorem regexHits_resume_le {r : RegexPattern} (sound : r.Sound) (index : Nat)
    {committed resume : Nat} {s : State} (low : s.base ≤ resume) (inside : resume ≤ s.base + s.pending.length)
    (fits : committed ≤ s.pending.length) :
    (regexHits s committed (r, index) resume).2 ≤ s.base + s.pending.length := by
  obtain ⟨_, _, search⟩ := pass_regexHits sound index committed low inside
  refine search.resume_le (fun q stop found => ?_) inside (by omega)
  unfold endsFrom at found
  split at found
  · obtain ⟨own, here, rfl⟩ := Option.map_eq_some_iff.mp found
    obtain ⟨_, high, _⟩ := endAt?_spec here
    omega
  · simp at found

theorem Faithful.mono {e : Expr} {stream buffer : List UInt8} {spans : List (Nat × Nat)}
    {base low low' high : Nat} (faithful : Faithful e stream spans base buffer low high)
    (le : low ≤ low') : Faithful e stream spans base buffer low' high where
  present start stop member after before := faithful.present start stop member (by omega) before
  absent q after before missing := faithful.absent q (by omega) before missing

/-! ## What a buffer tells -/

theorem endsFrom_eq {e : Expr} {seen rest : List UInt8} {base pos : Nat} (low : base ≤ pos)
    (inside : pos ≤ seen.length)
    (same : (e.widthsAt (seen.drop base) (pos - base)).head? = (e.widthsAt (seen ++ rest) pos).head?) :
    endsFrom e base (seen.drop base) pos = e.endAt? (seen ++ rest) pos := by
  have fits : pos - base ≤ (seen.drop base).length := by
    rw [List.length_drop]
    omega
  have within : pos ≤ (seen ++ rest).length := by
    rw [List.length_append]
    omega
  rw [endsFrom, if_pos low, Expr.endAt?, if_pos fits, Expr.endAt?, if_pos within, same,
    Option.map_map]
  congr 1
  funext width
  simp only [Function.comp_apply]
  omega

theorem widthsAt_le {e : Expr} {text : List UInt8} {pos width : Nat}
    (member : width ∈ e.widthsAt text pos) :
    width ≤ text.length - pos ∧ (text.drop pos).take width ∈ e.language := by
  obtain ⟨fits, word⟩ := take_mem_language member
  rw [Thread.language_singleton] at word
  rw [List.length_drop] at fits
  exact ⟨fits, word⟩

theorem endsFrom_at_end {e : Expr} {seen : List UInt8} {base pos : Nat} (low : base ≤ pos)
    (context : base = 0 ∨ base + 4 ≤ pos) (inside : pos ≤ seen.length) :
    endsFrom e base (seen.drop base) pos = e.endAt? seen pos := by
  have all (text : List UInt8) (place : Nat) (short : text.length - place ≤ seen.length - pos) :
      (e.widthsAt text place).filter (· < seen.length - pos + 1) = e.widthsAt text place := by
    apply List.filter_eq_self.mpr
    intro width member
    have := (widthsAt_le member).1
    simp only [decide_eq_true_eq]
    omega
  have settled : ∀ l ∈ e.looks, ∀ x y, seen.drop pos = x ++ y → x.length < seen.length - pos + 1 →
      l.Settled y [] := fun l _ x y _ _ => settled_nil y l
  have ways : e.widthsAt (seen.drop base) (pos - base) = e.widthsAt (seen ++ []) pos := by
    have short := widthsAt_buffer low context inside (Nat.le_refl _) settled
    rwa [all _ _ (by rw [List.length_drop]; omega), all _ _ (by rw [List.append_nil])] at short
  have same := endsFrom_eq low inside (congrArg List.head? ways)
  rwa [List.append_nil] at same

/-! ## All chunks -/

/-- What is kept is far enough before the places that are searched. -/
theorem context_keptFrom (overlap : Nat) (seen : List UInt8) {pos : Nat}
    (after : horizon overlap seen ≤ pos) :
    keptFrom overlap seen ≤ pos ∧ (keptFrom overlap seen = 0 ∨ keptFrom overlap seen + 4 ≤ pos) := by
  unfold keptFrom lookBehind
  omega

theorem horizon_mono (overlap : Nat) (seen chunk : List UInt8) :
    horizon overlap seen ≤ horizon overlap (seen ++ chunk) := by
  simp only [horizon, List.length_append]
  omega

/-- The end of a stream gives the rest of the pass. -/
theorem finish_of_pass {r : RegexPattern} (sound : r.Sound) (index overlap : Nat)
    {seen : List UInt8} {spans : List (Nat × Nat)} {resume : Nat}
    (searched : horizon overlap seen ≤ resume) (inside : resume ≤ seen.length)
    (pass : Pass (r.expr.endAt? seen) seen.length resume spans seen.length) :
    single overlap (r, index) seen resume [] = spans.map (Hit.ofSpan index) := by
  obtain ⟨low, _⟩ := context_keptFrom overlap seen searched
  have limit : keptFrom overlap seen + (seen.length - keptFrom overlap seen) = seen.length := by
    omega
  have ends : ∀ start stop, (start, stop) ∈ spans → r.expr.endAt? seen start = some stop :=
    fun start stop member => (pass.of_mem (consuming_endAt? sound seen) member).2.2
  have told : Faithful r.expr seen spans (keptFrom overlap seen)
      (seen.drop (keptFrom overlap seen)) resume seen.length :=
    .of_eq ends fun q after before => by
      obtain ⟨low, context⟩ := context_keptFrom overlap seen (searched.trans after)
      exact endsFrom_at_end low context before.le
  have room : resume ≤ keptFrom overlap seen + (buffered overlap seen []).pending.length := by
    simp only [buffered, List.append_nil, List.length_drop]
    omega
  have all : Pass (r.expr.endAt? seen) (keptFrom overlap seen + (seen.length - keptFrom overlap seen))
      resume spans seen.length := by rwa [limit]
  have hits : regexHits (buffered overlap seen []) (seen.length - keptFrom overlap seen) (r, index)
      resume = (spans.map (Hit.ofSpan index), seen.length) := by
    apply regexHits_of_faithful sound index low room all (List.Subset.refl _)
    simpa only [buffered, List.append_nil, limit] using told
  rw [single, hits]

/-- A chunk whose buffer is faithful gives the part of the pass up to its horizon. -/
theorem advance_of_pass {r : RegexPattern} (sound : r.Sound) (index overlap : Nat)
    {seen chunk stream : List UInt8} {all spans : List (Nat × Nat)} {resume place : Nat}
    (searched : horizon overlap seen ≤ resume) (inside : resume ≤ seen.length)
    (pass : Pass (r.expr.endAt? stream) (horizon overlap (seen ++ chunk)) resume spans place)
    (subset : spans ⊆ all)
    (faithful : Faithful r.expr stream all (keptFrom overlap seen)
      ((seen ++ chunk).drop (keptFrom overlap seen)) (horizon overlap seen)
      (horizon overlap (seen ++ chunk))) :
    advance overlap seen chunk (r, index) resume = (spans.map (Hit.ofSpan index), place) ∧
      place ≤ (seen ++ chunk).length := by
  obtain ⟨low, _⟩ := context_keptFrom overlap seen searched
  have mono := horizon_mono overlap seen chunk
  have kept : keptFrom overlap seen ≤ horizon overlap seen := Nat.sub_le _ _
  have behind : horizon overlap (seen ++ chunk) ≤ (seen ++ chunk).length := Nat.sub_le _ _
  have limit : keptFrom overlap seen +
      (horizon overlap (seen ++ chunk) - keptFrom overlap seen) =
        horizon overlap (seen ++ chunk) := by omega
  have length : (buffered overlap seen chunk).pending.length =
      (seen ++ chunk).length - keptFrom overlap seen := List.length_drop
  have room : resume ≤ keptFrom overlap seen + (buffered overlap seen chunk).pending.length := by
    rw [length, List.length_append]
    omega
  rw [← limit] at pass
  have told := faithful.mono searched
  rw [← limit] at told
  have moved : advance overlap seen chunk (r, index) resume =
      (spans.map (Hit.ofSpan index), place) :=
    regexHits_of_faithful sound index low room pass subset told
  have fits : horizon overlap (seen ++ chunk) - keptFrom overlap seen ≤
      (buffered overlap seen chunk).pending.length := by
    rw [length]
    omega
  have reach := regexHits_resume_le sound index low room fits
  refine ⟨moved, ?_⟩
  have place_eq : (advance overlap seen chunk (r, index) resume).2 = place := by rw [moved]
  rw [length] at reach
  rw [← place_eq]
  apply reach.trans
  change keptFrom overlap seen + _ ≤ _
  omega

/-- If all buffers are faithful, the chunks give the matches of the pass. -/
theorem single_of_faithful {r : RegexPattern} (sound : r.Sound) (index overlap : Nat)
    {stream : List UInt8} {all spans : List (Nat × Nat)} {seen : List UInt8} {resume : Nat}
    {chunks : List (List UInt8)} (whole : seen ++ chunks.flatten = stream)
    (searched : horizon overlap seen ≤ resume) (inside : resume ≤ seen.length)
    (pass : Pass (r.expr.endAt? stream) stream.length resume spans stream.length)
    (subset : spans ⊆ all)
    (faithful : ∀ front chunk back, chunks = front ++ chunk :: back →
      Faithful r.expr stream all (keptFrom overlap (seen ++ front.flatten))
        ((seen ++ front.flatten ++ chunk).drop (keptFrom overlap (seen ++ front.flatten)))
        (horizon overlap (seen ++ front.flatten))
        (horizon overlap (seen ++ front.flatten ++ chunk))) :
    single overlap (r, index) seen resume chunks = spans.map (Hit.ofSpan index) := by
  induction chunks generalizing seen resume spans with
  | nil =>
    obtain rfl : seen = stream := by simpa using whole
    exact finish_of_pass sound index overlap searched inside pass
  | cons chunk chunks ih =>
    cases empty : chunk.isEmpty with
    | true =>
      obtain rfl := List.isEmpty_iff.mp empty
      rw [single]
      apply ih (by simpa using whole) searched inside pass subset
      intro front piece back split
      have piecewise := faithful ([] :: front) piece back (by rw [split, List.cons_append])
      simpa using piecewise
    | false =>
      have fits : horizon overlap (seen ++ chunk) ≤ stream.length := by
        rw [← whole, List.flatten_cons, ← List.append_assoc, List.length_append, horizon]
        omega
      obtain ⟨before, after, place, rfl, here, later⟩ := pass.split fits
      have told := faithful [] chunk chunks rfl
      rw [List.flatten_nil, List.append_nil] at told
      obtain ⟨moved, reach⟩ := advance_of_pass sound index overlap searched inside here
        (List.Subset.trans (List.subset_append_left before after) subset) told
      rw [single, if_neg (by simp [empty]), moved, List.map_append]
      congr 1
      refine ih (by simpa using whole) here.le_resume reach later
        (List.Subset.trans (List.subset_append_right before after) subset) fun front piece back split => ?_
      have piecewise := faithful (chunk :: front) piece back (by rw [split, List.cons_append])
      simpa using piecewise

theorem single_eq_spans {r : RegexPattern} (sound : r.Sound) (index overlap : Nat)
    (chunks : List (List UInt8))
    (faithful : ∀ front chunk back, chunks = front ++ chunk :: back →
      let stream := front.flatten ++ chunk ++ back.flatten
      Faithful r.expr stream (r.expr.spans stream) (keptFrom overlap front.flatten)
        ((front.flatten ++ chunk).drop (keptFrom overlap front.flatten))
        (horizon overlap front.flatten) (horizon overlap (front.flatten ++ chunk))) :
    single overlap (r, index) [] 0 chunks =
      (r.expr.spans chunks.flatten).map (Hit.ofSpan index) := by
  refine single_of_faithful sound index overlap (List.nil_append _) (by simp [horizon])
    (Nat.le_refl _) (pass_spans sound _) (List.Subset.refl _) fun front chunk back split => ?_
  have cut : chunks.flatten = front.flatten ++ chunk ++ back.flatten := by simp [split]
  rw [List.nil_append, cut]
  exact faithful front chunk back split

/-! ## Expressions without conditions -/

theorem endAt?_eq_none_iff {e : Expr} {text : List UInt8} {pos : Nat} (inside : pos ≤ text.length) :
    e.endAt? text pos = none ↔ e.widthsAt text pos = [] := by
  rw [Expr.endAt?, if_pos inside, Option.map_eq_none_iff, List.head?_eq_none_iff]

/-- Without conditions a buffer tells of all matches that end in it. -/
theorem widthsAt_of_plain {e : Expr} (plain : e.looks = []) {seen rest : List UInt8} {base pos : Nat}
    (low : base ≤ pos) (context : base = 0 ∨ base + 4 ≤ pos) (inside : pos ≤ seen.length) :
    e.widthsAt (seen.drop base) (pos - base) =
      (e.widthsAt (seen ++ rest) pos).filter (· < seen.length - pos + 1) := by
  rw [← widthsAt_buffer low context inside (Nat.le_refl _) (by simp [plain])]
  refine (List.filter_eq_self.mpr fun width member => ?_).symm
  have := (widthsAt_le member).1
  rw [List.length_drop] at this
  simp only [decide_eq_true_eq]
  omega

/-- No match of the pass that begins before the horizon reaches the end of the buffer. -/
theorem faithful_of_short {r : RegexPattern} (sound : r.Sound) (plain : r.expr.looks = [])
    {overlap : Nat} {seen chunk rest : List UInt8}
    (short : ∀ span ∈ r.expr.spans (seen ++ chunk ++ rest), span.2 - span.1 ≤ overlap) :
    Faithful r.expr (seen ++ chunk ++ rest) (r.expr.spans (seen ++ chunk ++ rest))
      (keptFrom overlap seen) ((seen ++ chunk).drop (keptFrom overlap seen))
      (horizon overlap seen) (horizon overlap (seen ++ chunk)) := by
  have ways {q : Nat} (after : horizon overlap seen ≤ q) (before : q < horizon overlap (seen ++ chunk)) :
      keptFrom overlap seen ≤ q ∧ q + overlap < (seen ++ chunk).length ∧
        r.expr.widthsAt ((seen ++ chunk).drop (keptFrom overlap seen)) (q - keptFrom overlap seen) =
          (r.expr.widthsAt (seen ++ chunk ++ rest) q).filter (· < (seen ++ chunk).length - q + 1) := by
    obtain ⟨low, context⟩ := context_keptFrom overlap seen after
    have room : q + overlap < (seen ++ chunk).length := by
      unfold horizon at before
      omega
    exact ⟨low, room, widthsAt_of_plain plain low context (by omega)⟩
  refine ⟨fun start stop member after before => ?_, fun q after before missing => ?_⟩
  · obtain ⟨low, room, ways⟩ := ways after before
    have ends := ((pass_spans sound _).of_mem (consuming_endAt? sound _) member).2.2
    have narrow := short _ member
    rw [endsFrom_eq low (by omega) ?_, ends]
    -- the preferred match is short, so it is also the first that the buffer tells of
    unfold Expr.endAt? at ends
    split at ends
    · obtain ⟨width, first, rfl⟩ := Option.map_eq_some_iff.mp ends
      obtain ⟨others, list⟩ := List.head?_eq_some_iff.mp first
      rw [ways, list, List.filter_cons_of_pos (by simp only [decide_eq_true_eq]; omega)]
      rfl
    · simp at ends
  · obtain ⟨low, room, ways⟩ := ways after before
    have inside : q ≤ (seen ++ chunk ++ rest).length := by
      rw [List.length_append]
      omega
    rw [endsFrom_eq low (by omega) ?_, missing]
    rw [ways, (endAt?_eq_none_iff inside).mp missing]
    rfl

/-- No match of a pass is longer than the longest one. -/
theorem span_le_longest {r : RegexPattern} (sound : r.Sound) {n : Nat} (longest : r.longest = some n)
    {text : List UInt8} {span : Nat × Nat} (member : span ∈ r.expr.spans text) :
    span.2 - span.1 ≤ n := by
  have here := ((pass_spans sound _).of_mem (consuming_endAt? sound _) member).2.2
  obtain ⟨_, fits, word⟩ := endAt?_spec here
  have short := sound.bounded n longest _ word
  rw [List.length_take, List.length_drop] at short
  omega

theorem span_le_waitFor {r : RegexPattern} (sound : r.Sound) {window : Nat} {text : List UInt8}
    {span : Nat × Nat} (member : span ∈ r.expr.spans text) (short : span.2 - span.1 ≤ window) :
    span.2 - span.1 ≤ Program.waitFor window r.longest := by
  rw [Program.waitFor]
  cases longest : r.longest with
  | none => simpa using short
  | some n => exact Nat.le_min_of_le_of_le (span_le_longest sound longest member) short

theorem single_of_short {p : Program} (built : p.Built) {index : Nat} {r : RegexPattern}
    (has : p.Has index (.regex r)) (wordless : ∀ unicode edge, .word unicode edge ∉ r.expr.looks)
    (chunks : List (List UInt8))
    (short : ∀ span ∈ r.expr.spans chunks.flatten,
      span.2 - span.1 ≤ Program.waitFor p.window r.longest) :
    single p.overlap (r, index) [] 0 chunks = (r.expr.spans chunks.flatten).map (Hit.ofSpan index) := by
  have sound : r.Sound := built.sound_of_has has
  have plain : r.expr.looks = [] := by
    apply List.eq_nil_iff_forall_not_mem.mpr
    intro l member
    have word := sound.words l member
    cases l with
    | word unicode edge => exact wordless unicode edge member
    | _ => simp [Look.isAnchor] at word
  have waits := Program.le_overlap (Program.mem_regexes.mpr has)
  refine single_eq_spans sound index p.overlap chunks fun front chunk back split => ?_
  have cut : chunks.flatten = front.flatten ++ chunk ++ back.flatten := by simp [split]
  rw [cut] at short
  exact faithful_of_short sound plain fun span member => (short span member).trans waits

/-- An expression without word boundaries whose matches are as short as the program waits for gives
the matches of a single pass over the stream, however the stream is cut into chunks. -/
theorem regex_streamed {p : Program} (built : p.Built) {index : Nat} {r : RegexPattern}
    (has : p.Has index (.regex r)) (wordless : ∀ unicode edge, .word unicode edge ∉ r.expr.looks)
    (chunks : List (List UInt8))
    (short : ∀ span ∈ r.expr.spans chunks.flatten,
      span.2 - span.1 ≤ Program.waitFor p.window r.longest) :
    ((streamed p chunks).filter (·.pattern = index)).Perm
      ((r.expr.spans chunks.flatten).map (Hit.ofSpan index)) := by
  rw [← single_of_short built has wordless chunks short]
  exact filter_streamed built has chunks

def runs : RegexPattern :=
  ⟨.seq (.repetition 1 none true (.literal [97])) (.literal [98]), 2, none⟩

/-- An expression without a bound beside a literal. -/
def runsProgram : Program where
  entries := [⟨⟨0, "a+b", "ASCII", 4096⟩, .regex runs⟩, ⟨⟨1, "b", "ASCII", 1⟩, .literal ⟨[98], false⟩⟩]

theorem built_runsProgram : runsProgram.Built :=
  .addAll [⟨"a+b", false, false, "ASCII"⟩, ⟨"b", false, false, "ASCII"⟩] .empty
    (Program.eq_ok_of_toOption (by decide +kernel))

theorem spans_runs : runs.expr.spans [120, 97, 97, 98, 99] = [(1, 4)] := by
  have has : runsProgram.Has 0 (.regex runs) := ⟨_, rfl, rfl⟩
  have sound : runs.Sound := built_runsProgram.sound_of_has has
  have first : ∀ q, 0 ≤ q → q < 1 → runs.expr.endAt? [120, 97, 97, 98, 99] q = none := by
    intro q _ before
    obtain rfl : q = 0 := by omega
    decide
  have rest : ∀ q, 4 ≤ q → q < 5 → runs.expr.endAt? [120, 97, 97, 98, 99] q = none := by
    intro q after before
    obtain rfl : q = 4 := by omega
    decide
  have here : runs.expr.endAt? [120, 97, 97, 98, 99] 1 = some 4 := by decide
  exact spans_eq_of_pass sound (.found (Nat.zero_le 1) (by decide) first here (.done 4 rest))

theorem runsProgram_streamed :
    ((streamed runsProgram [[120, 97], [97], [98, 99]]).filter (·.pattern = 0)).Perm
      [⟨1, 4, 0⟩] := by
  have has : runsProgram.Has 0 (.regex runs) := ⟨_, rfl, rfl⟩
  have wordless : ∀ unicode edge, .word unicode edge ∉ runs.expr.looks := by simp [runs, Expr.looks]
  have pass : runs.expr.spans [[120, 97], [97], [98, 99]].flatten = [(1, 4)] := spans_runs
  have hits := regex_streamed built_runsProgram has wordless [[120, 97], [97], [98, 99]] (by
    rw [pass]
    decide)
  rw [pass] at hits
  exact hits

end Triage.Search
