import Triage.Proofs.Search.Order

/-! How far hits reach. A hit is never empty, ends in what has been fed, and is as long as its pattern
declares; so the loop that looks for matches moves on with each of them and comes to an end. -/

namespace Triage.Search
open Regex

/-- What the entry declares of the length of a match. -/
def Entry.Admits (e : Entry) (n : Nat) : Prop :=
  match e.compiled with
  | .literal l => n = l.bytes.length ∧ n = e.info.length
  | .regex r => r.shortest ≤ n ∧ ∀ most ∈ r.longest, n ≤ most

/-- A hit of a program where so many bytes have been fed. -/
structure Hit.Fits (h : Hit) (p : Program) (fed : Nat) : Prop where
  forward : h.start < h.stop
  inside : h.stop ≤ fed
  length : ∃ e, p.entries[h.pattern]? = some e ∧ e.Admits h.length

/-! ## Lengths -/

theorem Program.Built.declares {p : Program} (built : p.Built) : ∀ e ∈ p.entries,
    ∃ (d : PatternDef) (window : Nat), d.compile = .ok e.compiled ∧ e.info.length = patternLength window e.compiled := by
  induction built with
  | empty => simp
  | resize window _ ih => exact ih
  | @add p q tag d built added ih =>
    obtain ⟨c, compiled, added⟩ := bind_eq_ok.mp added
    obtain rfl := Except.ok.inj added
    refine List.forall_mem_append.mpr ⟨ih, List.forall_mem_singleton.mpr ⟨d, p.window, compiled, rfl⟩⟩

section lengths
variable {p : Program} {h : Hit} {fed : Nat}

/-- An occurrence of a literal is as long as the literal. -/
theorem Occurs.fits (built : p.Built) {stream : List UInt8} (occurs : Occurs p stream h) :
    h.Fits p stream.length := by
  have forward := occurs.start_lt built
  obtain ⟨l, ⟨e, entry, compiled⟩, order, inside, spelled⟩ := occurs
  refine ⟨forward, inside, e, entry, ?_⟩
  obtain ⟨d, window, -, declared⟩ := built.declares e (List.mem_of_getElem? entry)
  have length := spelled.length_eq
  rw [List.extract_eq_take_drop, List.length_take, List.length_drop] at length
  unfold Entry.Admits
  rw [compiled] at declared ⊢
  have same : h.length = l.bytes.length := by
    unfold Hit.length
    omega
  exact ⟨same, same.trans declared.symm⟩

/-- A word of an expression is as long as the expression declares. -/
theorem Hit.Fits.of_word {r : RegexPattern} (built : p.Built) (has : p.Has h.pattern (.regex r)) {w : List UInt8}
    (word : w ∈ r.expr.language) (length : w.length = h.length) (inside : h.stop ≤ fed) : h.Fits p fed := by
  obtain ⟨e, entry, compiled⟩ := has
  obtain ⟨d, window, found, -⟩ := built.declares e (List.mem_of_getElem? entry)
  rw [compiled] at found
  obtain ⟨some, long⟩ := shortest_of_compile found
  have sound : r.Sound := sound_of_compile found
  have least := long w word
  refine ⟨?_, inside, e, entry, ?_⟩
  · unfold Hit.length at length
    omega
  · unfold Entry.Admits
    rw [compiled, ← length]
    exact ⟨least, fun most bounded => sound.bounded most bounded w word⟩

end lengths

/-! ## The loop -/

/-- The loop that takes one match after another, each from where the last one ended, until there is none. -/
inductive Loop (find : Nat → Option (Nat × Nat)) : Nat → List (Nat × Nat) → Nat → Prop
  | done {pos : Nat} (none : find pos = none) : Loop find pos [] pos
  | step {pos start stop last : Nat} {spans : List (Nat × Nat)} (found : find pos = some (start, stop))
    (more : Loop find stop spans last) : Loop find pos ((start, stop) :: spans) last

section loop
variable {r : RegexPattern} {text : List UInt8} {pos committed : Nat}

theorem findBetween?_past (sound : r.Sound) (past : text.length < pos) :
    r.expr.findBetween? text pos committed = none := by
  rw [findBetween?_eq, List.drop_eq_nil_of_le (Nat.le_of_lt past)]
  cases committed - pos with
  | zero => rfl
  | succ starts =>
    have quiet : r.expr.matchEnd? pos (text.take pos).reverse [] = none := by
      rw [Expr.matchEnd?, stop?_eq_head?_widths, Option.map_eq_none_iff, List.head?_eq_none_iff]
      refine List.eq_nil_iff_forall_not_mem.mpr fun width member => sound.consumes ?_
      have word := (take_mem_language member).2
      rwa [List.take_nil, Thread.language_singleton] at word
    simp only [Expr.firstMatch?, quiet]

/-- What is found starts before the limit and ends further on. -/
theorem findBetween?_forward (sound : r.Sound) {start stop : Nat}
    (found : r.expr.findBetween? text pos committed = some (start, stop)) :
    pos ≤ start ∧ start < stop ∧ start < committed ∧ stop ≤ text.length := by
  by_cases inside : pos ≤ text.length
  · have search := firstMatch?_eq r.expr (committed - pos) inside
    rw [← findBetween?_eq, found] at search
    obtain ⟨after, before, -, here⟩ := search
    have forward := consuming_endAt? sound text _ _ here
    obtain ⟨-, fits, -⟩ := endAt?_spec here
    exact ⟨after, forward, by omega, fits⟩
  · rw [findBetween?_past sound (Nat.lt_of_not_le inside)] at found
    nomatch found

/-- The loop ends by itself: its fuel is never used up. -/
theorem loop_matchesUntil (sound : r.Sound) {fuel : Nat} (enough : committed ≤ fuel + pos) :
    Loop (r.expr.findBetween? text · committed) pos (matchesUntil r text committed fuel pos).1
      (matchesUntil r text committed fuel pos).2 := by
  induction fuel generalizing pos with
  | zero =>
    refine .done (Option.eq_none_iff_forall_ne_some.mpr ?_)
    rintro ⟨start, stop⟩ found
    have moves := findBetween?_forward sound found
    omega
  | succ fuel ih =>
    unfold matchesUntil
    split
    · rename_i none
      exact .done none
    · rename_i start stop found
      have moves := findBetween?_forward sound found
      exact .step found (ih (by omega))

/-- Each round goes on from further behind, so there are no more rounds than places. -/
theorem Loop.rounds (sound : r.Sound) {spans : List (Nat × Nat)} {last : Nat}
    (loop : Loop (r.expr.findBetween? text · committed) pos spans last) : spans.length ≤ committed - pos := by
  induction loop with
  | done none => exact Nat.zero_le _
  | step found more ih =>
    have moves := findBetween?_forward sound found
    rw [List.length_cons]
    omega

end loop

/-! ## Streams -/

section stream
variable {p : Program} {s : State} {seen : List UInt8} {h : Hit}

theorem regexHits_fits (built : p.Built) {r : RegexPattern} {index committed resume : Nat}
    (has : p.Has index (.regex r)) (low : s.base ≤ resume) (inside : resume ≤ s.base + s.pending.length)
    (member : h ∈ (regexHits s committed (r, index) resume).1) : h.Fits p (s.base + s.pending.length) := by
  have sound : r.Sound := built.sound_of_has has
  obtain ⟨spans, hits, pass⟩ := pass_regexHits sound index committed low inside
  rw [hits] at member
  obtain ⟨⟨start, stop⟩, found, rfl⟩ := List.mem_map.mp member
  obtain ⟨-, -, here⟩ := pass.of_mem (consuming_endsFrom sound _ _) found
  unfold endsFrom at here
  split at here
  · rename_i above
    obtain ⟨place, ends, rfl⟩ := Option.map_eq_some_iff.mp here
    obtain ⟨forward, fits, word⟩ := endAt?_spec ends
    refine .of_word built has word ?_ (Nat.add_le_add_left fits _)
    rw [List.length_take, List.length_drop]
    change _ = s.base + place - start
    omega
  · nomatch here

/-- What a state keeps of the bytes that were fed, and from where it goes on. -/
structure Follows (p : Program) (s : State) (seen : List UInt8) : Prop where
  carries : Carries p s seen
  buffers : p.regexes ≠ [] → Buffers p s seen
  searched : p.regexes ≠ [] → Searched p s seen

theorem follows_empty (p : Program) : Follows p {} [] :=
  ⟨carries_empty p, fun _ => buffers_empty p, fun _ => searched_empty p⟩

theorem Follows.feed (built : p.Built) (follows : Follows p s seen) (chunk : List UInt8) :
    Follows p (feed p s chunk).2 (seen ++ chunk) where
  carries := carries_feed built follows.carries chunk
  buffers present := buffers_feed present (follows.buffers present) chunk
  searched present := searched_feed built present (follows.buffers present) (follows.searched present)

theorem feed_fits (built : p.Built) (follows : Follows p s seen) {chunk : List UInt8}
    (member : h ∈ (feed p s chunk).1) : h.Fits p (seen ++ chunk).length := by
  have parts := (feed_perm p s chunk).mem_iff.mp member
  split at parts
  · nomatch parts
  · rcases List.mem_append.mp parts with literal | regex
    · exact (((feedLiterals_spec built follows.carries chunk).1 h).mp literal).1.fits built
    · have present : p.regexes ≠ [] := by
        obtain ⟨r, has⟩ := pattern_of_mem_feedRegexes regex
        exact List.ne_nil_of_mem (Program.mem_regexes.mpr has)
      rw [(feedRegexes_spec present (follows.buffers present) chunk).1] at regex
      obtain ⟨_, moved, found⟩ := List.mem_flatMap.mp regex
      obtain ⟨⟨⟨r, index⟩, resume⟩, pair, rfl⟩ := List.mem_map.mp moved
      obtain ⟨inside, cursor⟩ := List.of_mem_zip pair
      obtain ⟨low, high⟩ := follows.searched present resume cursor
      have kept : keptFrom p.overlap seen ≤ horizon p.overlap seen := Nat.sub_le _ _
      have below : horizon p.overlap seen ≤ seen.length := Nat.sub_le _ _
      have whole : (buffered p.overlap seen chunk).base + (buffered p.overlap seen chunk).pending.length =
          (seen ++ chunk).length := by
        change keptFrom p.overlap seen + ((seen ++ chunk).drop _).length = _
        rw [List.length_drop, List.length_append]
        omega
      rw [← whole]
      refine regexHits_fits built (Program.mem_regexes.mp inside) (kept.trans low) ?_ found
      rw [whole, List.length_append]
      omega

theorem finish_fits (built : p.Built) (follows : Follows p s seen) (member : h ∈ finish p s) :
    h.Fits p seen.length := by
  have present : p.regexes ≠ [] := by
    obtain ⟨r, has⟩ := pattern_of_mem_finish member
    exact List.ne_nil_of_mem (Program.mem_regexes.mpr has)
  obtain ⟨pending, base⟩ := follows.buffers present
  unfold finish at member
  split at member
  · nomatch member
  · have found := (sort_perm _).mem_iff.mp member
    simp only [commit, List.mem_flatMap, List.mem_map] at found
    obtain ⟨_, ⟨⟨⟨r, index⟩, resume⟩, pair, rfl⟩, found⟩ := found
    obtain ⟨inside, cursor⟩ := List.of_mem_zip pair
    obtain ⟨low, high⟩ := follows.searched present resume cursor
    have kept : keptFrom p.overlap seen ≤ horizon p.overlap seen := Nat.sub_le _ _
    have below : horizon p.overlap seen ≤ seen.length := Nat.sub_le _ _
    have whole : s.base + s.pending.length = seen.length := by
      rw [base, pending, List.length_drop]
      omega
    rw [← whole]
    exact regexHits_fits built (Program.mem_regexes.mp inside) (by omega) (by omega) found

/-- Chunk by chunk the hits fit what has been fed. -/
theorem feedAll_fits (built : p.Built) (follows : Follows p s seen) (chunks : List (List UInt8)) :
    Follows p (feedAll p s chunks).2 (seen ++ chunks.flatten) ∧
      ∀ k hits, (feedAll p s chunks).1[k]? = some hits →
        ∀ h ∈ hits, Hit.Fits h p (seen ++ (chunks.take (k + 1)).flatten).length := by
  induction chunks generalizing s seen with
  | nil => exact ⟨by simpa [feedAll] using follows, by simp [feedAll]⟩
  | cons chunk chunks ih =>
    obtain ⟨last, each⟩ := ih (follows.feed built chunk)
    rw [List.append_assoc] at last
    refine ⟨by simpa [feedAll] using last, fun k hits found h member => ?_⟩
    cases k with
    | zero =>
      obtain rfl : (feed p s chunk).1 = hits := by simpa [feedAll] using found
      simpa using feed_fits built follows member
    | succ k =>
      have fits := each k hits (by simpa [feedAll] using found) h member
      rwa [List.append_assoc] at fits

end stream

/-- Patterns that compile make progress within the lengths they declare. However a stream is cut, each hit is
not empty, ends in what has been fed, and is as long as its pattern declares; and the loop that looks for the
matches of an expression moves on with each of them and ends by itself. -/
theorem hits_fit {p : Program} (built : p.Built) :
    (∀ chunks : List (List UInt8),
      (∀ k hits, (feedAll p {} chunks).1[k]? = some hits →
        ∀ h ∈ hits, Hit.Fits h p (chunks.take (k + 1)).flatten.length) ∧
      ∀ h ∈ (close p (feedAll p {} chunks).2).1, h.Fits p chunks.flatten.length) ∧
    ∀ r index, p.Has index (.regex r) → ∀ (text : List UInt8) (pos committed : Nat),
      (∀ start stop, r.expr.findBetween? text pos committed = some (start, stop) →
        pos ≤ start ∧ start < stop ∧ start < committed ∧ stop ≤ text.length) ∧
      Loop (r.expr.findBetween? text · committed) pos (matchesUntil r text committed committed pos).1
        (matchesUntil r text committed committed pos).2 ∧
      (matchesUntil r text committed committed pos).1.length ≤ committed - pos := by
  refine ⟨fun chunks => ?_, fun r index has text pos committed => ?_⟩
  · obtain ⟨last, each⟩ := feedAll_fits built (follows_empty p) chunks
    exact ⟨each, fun h member => finish_fits built last member⟩
  · have sound : r.Sound := built.sound_of_has has
    have loop : Loop (r.expr.findBetween? text · committed) pos _ _ :=
      loop_matchesUntil sound (Nat.le_add_right committed pos)
    exact ⟨fun start stop found => findBetween?_forward sound found, loop, loop.rounds sound⟩

theorem runsProgram_fit :
    (∀ k hits, (feedAll runsProgram {} [[120, 97], [97], [98, 99]]).1[k]? = some hits →
      ∀ h ∈ hits, Hit.Fits h runsProgram ([[(120 : UInt8), 97], [97], [98, 99]].take (k + 1)).flatten.length) ∧
    ∀ h ∈ (close runsProgram (feedAll runsProgram {} [[120, 97], [97], [98, 99]]).2).1, h.Fits runsProgram 5 :=
  (hits_fit built_runsProgram).1 [[120, 97], [97], [98, 99]]

end Triage.Search
