import Triage.Proofs.Search.Literals
import Triage.Proofs.Search.Pass

/-! One expression at a time. All expressions of a program share the buffer, but each has its own place
in it, so the hits of one are those of a search for it alone, with the same overlap. What a search
keeps of a stream is told by how much of it has been seen. -/

namespace Triage.Search

def horizon (overlap : Nat) (seen : List UInt8) : Nat := seen.length - overlap

def keptFrom (overlap : Nat) (seen : List UInt8) : Nat := horizon overlap seen - lookBehind

/-- The buffer with which a chunk is searched. -/
def buffered (overlap : Nat) (seen chunk : List UInt8) : State where
  pending := (seen ++ chunk).drop (keptFrom overlap seen)
  base := keptFrom overlap seen

/-- A chunk's hits of one expression and the place where its search resumes. -/
def advance (overlap : Nat) (seen chunk : List UInt8) (r : RegexPattern × Nat) (resume : Nat) :
    List Hit × Nat :=
  regexHits (buffered overlap seen chunk)
    (horizon overlap (seen ++ chunk) - keptFrom overlap seen) r resume

/-- The hits of one expression in the chunks that follow, and at the end. -/
def single (overlap : Nat) (r : RegexPattern × Nat) (seen : List UInt8) (resume : Nat) :
    List (List UInt8) → List Hit
  | [] => (regexHits (buffered overlap seen []) (seen.length - keptFrom overlap seen) r resume).1
  | chunk :: chunks =>
    if chunk.isEmpty then single overlap r seen resume chunks
    else
      (advance overlap seen chunk r resume).1 ++
        single overlap r (seen ++ chunk) (advance overlap seen chunk r resume).2 chunks

/-- The places from which the expressions are searched for. -/
def cursors (p : Program) (s : State) : List Nat :=
  if s.resume.length = p.regexes.length then s.resume
  else List.replicate p.regexes.length s.base

structure Buffers (p : Program) (s : State) (seen : List UInt8) : Prop where
  pending : s.pending = seen.drop (keptFrom p.overlap seen)
  base : s.base = keptFrom p.overlap seen

theorem buffers_empty (p : Program) : Buffers p {} [] := ⟨by simp, by simp [keptFrom, horizon]⟩

theorem length_cursors (p : Program) (s : State) : (cursors p s).length = p.regexes.length := by
  unfold cursors
  split
  · assumption
  · exact List.length_replicate

/-- What a searched chunk drops of the buffer. -/
theorem keptFrom_add (overlap : Nat) (seen chunk : List UInt8) :
    keptFrom overlap seen + (horizon overlap (seen ++ chunk) - keptFrom overlap seen - lookBehind) =
      keptFrom overlap (seen ++ chunk) := by
  simp only [keptFrom, horizon, lookBehind, List.length_append]
  omega

/-- As long as the buffer is no longer than the overlap, nothing has been dropped of it. -/
theorem kept_of_few {overlap : Nat} {seen chunk : List UInt8}
    (few : ((seen ++ chunk).drop (keptFrom overlap seen)).length ≤ overlap) :
    keptFrom overlap seen = 0 ∧ horizon overlap (seen ++ chunk) = 0 := by
  rw [List.length_drop, List.length_append] at few
  simp only [keptFrom, horizon, lookBehind, List.length_append] at few ⊢
  omega

theorem regexHits_congr {s t : State} (pending : s.pending = t.pending) (base : s.base = t.base)
    (committed : Nat) (r : RegexPattern × Nat) (resume : Nat) :
    regexHits s committed r resume = regexHits t committed r resume := by
  simp only [regexHits, pending, base]

theorem regexHits_zero {s : State} {resume : Nat} (r : RegexPattern × Nat) (low : s.base ≤ resume) :
    regexHits s 0 r resume = ([], resume) := by
  simp only [regexHits, matchesUntil, List.map_nil, Nat.max_zero, Nat.add_sub_cancel' low]

theorem regexHits_pattern {s : State} {committed resume : Nat} {r : RegexPattern × Nat} {h : Hit}
    (member : h ∈ (regexHits s committed r resume).1) : h.pattern = r.2 := by
  obtain ⟨span, _, rfl⟩ := List.mem_map.mp member
  rfl

section program
variable {p : Program} {s : State} {seen : List UInt8}

/-- A chunk is searched for each expression on its own. -/
theorem feedRegexes_spec (present : p.regexes ≠ []) (buffers : Buffers p s seen) (chunk : List UInt8) :
    let moves := (p.regexes.zip (cursors p s)).map fun x => advance p.overlap seen chunk x.1 x.2
    (feedRegexes p s chunk).1 = moves.flatMap (·.1) ∧
      Buffers p (feedRegexes p s chunk).2 (seen ++ chunk) ∧
      cursors p (feedRegexes p s chunk).2 = moves.map (·.2) := by
  have length := length_cursors p s
  have low : keptFrom p.overlap seen ≤ seen.length := by
    unfold keptFrom horizon
    omega
  have text : s.pending ++ chunk = (seen ++ chunk).drop (keptFrom p.overlap seen) := by
    rw [buffers.pending, List.drop_append_of_le_length low]
  have committed : ((seen ++ chunk).drop (keptFrom p.overlap seen)).length - p.overlap =
      horizon p.overlap (seen ++ chunk) - keptFrom p.overlap seen := by
    rw [List.length_drop, horizon, Nat.sub_right_comm]
  unfold feedRegexes
  rw [if_neg (by simpa using present)]
  simp only [text]
  split
  · rename_i enough
    have found (r : RegexPattern × Nat) (start : Nat) :
        regexHits { s with pending := (seen ++ chunk).drop (keptFrom p.overlap seen) }
          (((seen ++ chunk).drop (keptFrom p.overlap seen)).length - p.overlap) r start =
            advance p.overlap seen chunk r start := by
      rw [advance, committed]
      exact regexHits_congr (s := { s with pending := (seen ++ chunk).drop (keptFrom p.overlap seen) })
        (t := buffered p.overlap seen chunk) rfl buffers.base _ _ _
    have later := keptFrom_add p.overlap seen chunk
    refine ⟨?_, ⟨?_, ?_⟩, ?_⟩
    · simp only [commit, found]
      rfl
    · simp only [commit, committed]
      rw [List.drop_drop, later]
    · simp only [commit, committed, buffers.base, later]
    · simp only [commit, found, cursors]
      rw [if_pos (by simpa [cursors] using length.ge)]
  · rename_i few
    have start := kept_of_few (Nat.le_of_not_gt few)
    have still (r : RegexPattern × Nat) (resume : Nat) :
        advance p.overlap seen chunk r resume = ([], resume) := by
      rw [advance, start.1, start.2]
      exact regexHits_zero r (by simp [buffered, start.1])
    have later : keptFrom p.overlap (seen ++ chunk) = 0 := by rw [keptFrom, start.2, Nat.zero_sub]
    refine ⟨?_, ⟨by simp [start.1, later], by simp [buffers.base, start.1, later]⟩, ?_⟩
    · simp only [still, List.flatMap_map]
      exact (List.flatMap_eq_nil_iff.mpr fun _ _ => rfl).symm
    · simp only [still, List.map_map]
      change cursors p s = _
      exact (List.map_snd_zip length.le).symm

theorem buffers_feed (present : p.regexes ≠ []) (buffers : Buffers p s seen) (chunk : List UInt8) :
    Buffers p (feed p s chunk).2 (seen ++ chunk) := by
  unfold feed
  split
  · rename_i none
    rwa [List.isEmpty_iff.mp none, List.append_nil]
  · obtain ⟨_, next, _⟩ := feedRegexes_spec present buffers chunk
    exact ⟨next.pending, next.base⟩

theorem cursors_feed (present : p.regexes ≠ []) (buffers : Buffers p s seen) {chunk : List UInt8}
    (bytes : chunk.isEmpty = false) :
    cursors p (feed p s chunk).2 =
      (p.regexes.zip (cursors p s)).map fun x => (advance p.overlap seen chunk x.1 x.2).2 := by
  obtain ⟨_, _, places⟩ := feedRegexes_spec present buffers chunk
  unfold feed
  rw [if_neg (by simp [bytes])]
  refine Eq.trans ?_ (places.trans ?_)
  · rfl
  · rw [List.map_map]
    rfl

/-- Of the hits that several expressions give, those of one are told by its index. -/
theorem filter_flatMap_zip {regexes : List (RegexPattern × Nat)} {places : List Nat}
    (apart : regexes.Pairwise fun a b => a.2 < b.2) (moves : RegexPattern × Nat → Nat → List Hit)
    (own : ∀ r place, ∀ h ∈ moves r place, h.pattern = r.2) {j place : Nat} {r : RegexPattern × Nat}
    (regex : regexes[j]? = some r) (cursor : places[j]? = some place) :
    ((regexes.zip places).flatMap fun x => moves x.1 x.2).filter (·.pattern = r.2) = moves r place := by
  have others {index : Nat} {xs : List ((RegexPattern × Nat) × Nat)}
      (different : ∀ x ∈ xs, x.1.2 ≠ index) :
      (xs.flatMap fun x => moves x.1 x.2).filter (·.pattern = index) = [] := by
    apply List.filter_eq_nil_iff.mpr
    intro h member
    obtain ⟨x, inside, member⟩ := List.mem_flatMap.mp member
    rw [own _ _ h member]
    simpa using different x inside
  have whole (r : RegexPattern × Nat) (place : Nat) :
      (moves r place).filter (·.pattern = r.2) = moves r place :=
    List.filter_eq_self.mpr fun h member => by simpa using own r place h member
  induction regexes generalizing places j with
  | nil => simp at regex
  | cons first regexes ih =>
    obtain ⟨least, apart⟩ := List.pairwise_cons.mp apart
    cases places with
    | nil => simp at cursor
    | cons start places =>
      rw [List.zip_cons_cons, List.flatMap_cons, List.filter_append]
      cases j with
      | zero =>
        obtain rfl := Option.some.inj regex
        obtain rfl := Option.some.inj cursor
        rw [whole, others fun x member => ?_, List.append_nil]
        exact (Nat.ne_of_lt (least _ (List.of_mem_zip member).1)).symm
      | succ j =>
        have later := ih apart regex cursor
        have before : first.2 < r.2 := least _ (List.mem_of_getElem? regex)
        rw [later, List.filter_eq_nil_iff.mpr fun h member => ?_, List.nil_append]
        rw [own _ _ h member]
        simpa using Nat.ne_of_lt before

theorem filter_feedLiterals (built : p.Built) (carries : Carries p s seen) (chunk : List UInt8)
    {r : RegexPattern × Nat} (member : r ∈ p.regexes) :
    (feedLiterals p s chunk).1.filter (·.pattern = r.2) = [] := by
  apply List.filter_eq_nil_iff.mpr
  intro h found
  obtain ⟨⟨l, has, _⟩, _⟩ := ((feedLiterals_spec built carries chunk).1 h).mp found
  rw [decide_eq_true_eq]
  intro same
  have wrong := has.unique (same ▸ Program.mem_regexes.mp member)
  nomatch wrong

theorem filter_feed (built : p.Built) (carries : Carries p s seen) (buffers : Buffers p s seen)
    {chunk : List UInt8} (bytes : chunk.isEmpty = false) {j place : Nat} {r : RegexPattern × Nat}
    (regex : p.regexes[j]? = some r) (cursor : (cursors p s)[j]? = some place) :
    ((feed p s chunk).1.filter (·.pattern = r.2)).Perm (advance p.overlap seen chunk r place).1 := by
  have member := List.mem_of_getElem? regex
  have moves := (feedRegexes_spec (List.ne_nil_of_mem member) buffers chunk).1
  have perm := (feed_perm p s chunk).filter (·.pattern = r.2)
  rw [if_neg (by simp [bytes]), List.filter_append, filter_feedLiterals built carries chunk member,
    List.nil_append, moves, List.flatMap_map, filter_flatMap_zip (Program.pairwise_regexes p)
      (fun r place => (advance p.overlap seen chunk r place).1)
      (fun r place h member => regexHits_pattern member) regex cursor] at perm
  exact perm

theorem filter_finish (buffers : Buffers p s seen) {j place : Nat} {r : RegexPattern × Nat}
    (regex : p.regexes[j]? = some r) (cursor : (cursors p s)[j]? = some place) :
    ((finish p s).filter (·.pattern = r.2)).Perm (single p.overlap r seen place []) := by
  have present := List.ne_nil_of_mem (List.mem_of_getElem? regex)
  have length : s.pending.length = seen.length - keptFrom p.overlap seen := by
    rw [buffers.pending, List.length_drop]
  have found (r : RegexPattern × Nat) (start : Nat) :
      regexHits s s.pending.length r start = (regexHits (buffered p.overlap seen [])
        (seen.length - keptFrom p.overlap seen) r start) := by
    rw [length]
    exact regexHits_congr (by simp [buffered, buffers.pending]) buffers.base _ _ _
  unfold finish
  rw [single]
  split
  · rename_i none
    have empty : seen.length - keptFrom p.overlap seen = 0 := by
      rw [← length]
      simpa [present] using none
    rw [empty]
    simp [regexHits, matchesUntil]
  · have perm := (sort_perm (commit p s s.pending.length).1).filter (·.pattern = r.2)
    simp only [commit, found, List.flatMap_map] at perm
    have one := filter_flatMap_zip (Program.pairwise_regexes p)
      (fun r place => (regexHits (buffered p.overlap seen [])
        (seen.length - keptFrom p.overlap seen) r place).1)
      (fun r place h member => regexHits_pattern member) regex cursor
    simp only [commit, found, List.flatMap_map]
    exact perm.trans (List.Perm.of_eq one)

/-- All hits of one expression are those of the search for it alone. -/
theorem filter_feedAll (built : p.Built) (carries : Carries p s seen) (buffers : Buffers p s seen)
    {j place : Nat} {r : RegexPattern × Nat} (regex : p.regexes[j]? = some r)
    (cursor : (cursors p s)[j]? = some place) (chunks : List (List UInt8)) :
    (((feedAll p s chunks).1.flatten ++ finish p (feedAll p s chunks).2).filter
      (·.pattern = r.2)).Perm (single p.overlap r seen place chunks) := by
  have present := List.ne_nil_of_mem (List.mem_of_getElem? regex)
  induction chunks generalizing s seen place with
  | nil => exact filter_finish buffers regex cursor
  | cons chunk chunks ih =>
    have carries' := carries_feed built carries chunk
    have buffers' := buffers_feed present buffers chunk
    rw [single]
    cases none : chunk.isEmpty with
    | true =>
      have still : feed p s chunk = ([], s) := by simp [feed, none]
      simp only [feedAll, still, List.flatten_cons, List.nil_append, if_true]
      exact ih carries buffers cursor
    | false =>
      have pair : (p.regexes.zip (cursors p s))[j]? = some (r, place) :=
        List.getElem?_zip_eq_some.mpr ⟨regex, cursor⟩
      have next : (cursors p (feed p s chunk).2)[j]? =
          some (advance p.overlap seen chunk r place).2 := by
        rw [cursors_feed present buffers none, List.getElem?_map, pair, Option.map_some]
      simp only [feedAll, List.flatten_cons, Bool.false_eq_true, if_false, List.append_assoc,
        List.filter_append]
      rw [← List.filter_append]
      exact (filter_feed built carries buffers none regex cursor).append
        (ih carries' buffers' next)

end program

/-- All hits that are reported of a stream that comes in chunks. -/
def streamed (p : Program) (chunks : List (List UInt8)) : List Hit :=
  (feedAll p {} chunks).1.flatten ++ (close p (feedAll p {} chunks).2).1

theorem filter_streamed {p : Program} (built : p.Built) {index : Nat} {r : RegexPattern}
    (has : p.Has index (.regex r)) (chunks : List (List UInt8)) :
    ((streamed p chunks).filter (·.pattern = index)).Perm
      (single p.overlap (r, index) [] 0 chunks) := by
  obtain ⟨j, regex⟩ := List.mem_iff_getElem?.mp (Program.mem_regexes.mpr has)
  have inside : j < p.regexes.length := (List.getElem?_eq_some_iff.mp regex).1
  have start : (cursors p {})[j]? = some 0 := by
    rw [cursors, if_neg (by simp only [List.length_nil]; omega), List.getElem?_replicate,
      if_pos inside]
  exact filter_feedAll built (carries_empty p) (buffers_empty p) regex start chunks

theorem searchAll_eq_streamed (p : Program) (text : List UInt8) :
    searchAll p text = streamed p [text] := by
  simp [searchAll, streamed, feedAll, close]

/-! ## Literals beside expressions -/

theorem pattern_of_mem_commit {p : Program} {s : State} {committed : Nat} {h : Hit}
    (member : h ∈ (commit p s committed).1) : ∃ r, p.Has h.pattern (.regex r) := by
  simp only [commit, List.mem_flatMap, List.mem_map] at member
  obtain ⟨_, ⟨x, inside, rfl⟩, member⟩ := member
  rw [regexHits_pattern member]
  exact ⟨x.1.1, Program.mem_regexes.mp (List.of_mem_zip inside).1⟩

theorem pattern_of_mem_feedRegexes {p : Program} {s : State} {chunk : List UInt8} {h : Hit}
    (member : h ∈ (feedRegexes p s chunk).1) : ∃ r, p.Has h.pattern (.regex r) := by
  unfold feedRegexes at member
  split at member
  · simp at member
  · simp only at member
    split at member
    · exact pattern_of_mem_commit member
    · simp at member

theorem pattern_of_mem_finish {p : Program} {s : State} {h : Hit} (member : h ∈ finish p s) :
    ∃ r, p.Has h.pattern (.regex r) := by
  unfold finish at member
  split at member
  · simp at member
  · exact pattern_of_mem_commit ((sort_perm _).mem_iff.mp member)

/-- Hits that come in two parts: the literals that end after the bytes seen before, each once, and
hits of expressions. -/
structure Parts (p : Program) (stream : List UInt8) (from_ : Nat) (hits literals regexes : List Hit) :
    Prop where
  perm : hits.Perm (literals ++ regexes)
  distinct : literals.Nodup
  occurs : ∀ h, h ∈ literals ↔ Occurs p stream h ∧ from_ < h.stop
  others : ∀ h ∈ regexes, ∃ r, p.Has h.pattern (.regex r)

theorem feed_parts {p : Program} (built : p.Built) {s : State} {seen : List UInt8}
    (carries : Carries p s seen) (chunk : List UInt8) :
    ∃ literals regexes, Parts p (seen ++ chunk) seen.length (feed p s chunk).1 literals regexes := by
  have perm := feed_perm p s chunk
  cases empty : chunk.isEmpty with
  | true =>
    rw [empty, if_pos rfl] at perm
    refine ⟨[], [], perm, List.nodup_nil, fun h => ?_, by simp⟩
    rw [List.isEmpty_iff.mp empty, List.append_nil]
    refine ⟨fun wrong => by simp at wrong, fun ⟨⟨_, _, _, fits, _⟩, after⟩ => by omega⟩
  | false =>
    rw [empty, if_neg (by simp)] at perm
    obtain ⟨members, distinct, _⟩ := feedLiterals_spec built carries chunk
    exact ⟨_, _, perm, distinct, members, fun h member => pattern_of_mem_feedRegexes member⟩

theorem Parts.append {p : Program} {seen chunk rest : List UInt8}
    {hits more literals regexes literals' regexes' : List Hit}
    (first : Parts p (seen ++ chunk) seen.length hits literals regexes)
    (later : Parts p (seen ++ chunk ++ rest) (seen ++ chunk).length more literals' regexes') :
    Parts p (seen ++ chunk ++ rest) seen.length (hits ++ more) (literals ++ literals')
      (regexes ++ regexes') := by
  have within {h : Hit} (occurs : Occurs p (seen ++ chunk) h) : h.stop ≤ (seen ++ chunk).length := by
    obtain ⟨_, _, _, fits, _⟩ := occurs
    exact fits
  refine ⟨?_, ?_, fun h => ?_, List.forall_mem_append.mpr ⟨first.others, later.others⟩⟩
  · apply (first.perm.append later.perm).trans
    simp only [List.append_assoc]
    apply List.Perm.append_left
    simp only [← List.append_assoc]
    exact List.perm_append_comm.append_right _
  · refine List.nodup_append'.mpr ⟨first.distinct, later.distinct, fun h early late => ?_⟩
    have := within ((first.occurs h).mp early).1
    have := ((later.occurs h).mp late).2
    omega
  · rw [List.mem_append, first.occurs, later.occurs]
    constructor
    · intro found
      rcases found with ⟨occurs, after⟩ | ⟨occurs, after⟩
      · exact ⟨(occurs_append _ (within occurs)).mpr occurs, after⟩
      · exact ⟨occurs, by simp only [List.length_append] at after; omega⟩
    · intro found
      by_cases here : h.stop ≤ (seen ++ chunk).length
      · exact .inl ⟨(occurs_append _ here).mp found.1, found.2⟩
      · exact .inr ⟨found.1, by omega⟩

theorem feedAll_parts {p : Program} (built : p.Built) {s : State} {seen : List UInt8}
    (carries : Carries p s seen) (chunks : List (List UInt8)) :
    ∃ literals regexes, Parts p (seen ++ chunks.flatten) seen.length
      ((feedAll p s chunks).1.flatten ++ finish p (feedAll p s chunks).2) literals regexes := by
  induction chunks generalizing s seen with
  | nil =>
    refine ⟨[], finish p s, List.Perm.refl _, List.nodup_nil, fun h => ?_,
      fun h member => pattern_of_mem_finish member⟩
    rw [List.flatten_nil, List.append_nil]
    exact ⟨fun wrong => by simp at wrong, fun ⟨⟨_, _, _, fits, _⟩, after⟩ => by omega⟩
  | cons chunk chunks ih =>
    obtain ⟨literals, regexes, first⟩ := feed_parts built carries chunk
    obtain ⟨literals', regexes', later⟩ := ih (carries_feed built carries chunk)
    refine ⟨literals ++ literals', regexes ++ regexes', ?_⟩
    simp only [feedAll, List.flatten_cons]
    rw [List.append_assoc, ← List.append_assoc seen]
    exact first.append later

/-- The hits of a stream: the literals that occur in it, and hits of expressions. -/
theorem streamed_parts {p : Program} (built : p.Built) (chunks : List (List UInt8)) :
    ∃ literals regexes, (streamed p chunks).Perm (literals ++ regexes) ∧ literals.Nodup ∧
      (∀ h, h ∈ literals ↔ Occurs p chunks.flatten h) ∧
      ∀ h ∈ regexes, ∃ r, p.Has h.pattern (.regex r) := by
  obtain ⟨literals, regexes, parts⟩ := feedAll_parts built (carries_empty p) chunks
  refine ⟨literals, regexes, parts.perm, parts.distinct, fun h => ?_, parts.others⟩
  rw [parts.occurs, List.nil_append]
  refine ⟨fun found => found.1, fun occurs => ⟨occurs, ?_⟩⟩
  have := occurs.start_lt built
  rw [List.length_nil]
  omega

/-- Lists whose hits of each index are the same are the same. -/
theorem perm_of_filters {hits others : List Hit}
    (each : ∀ h, h ∈ hits ∨ h ∈ others →
      (hits.filter (·.pattern = h.pattern)).Perm (others.filter (·.pattern = h.pattern))) :
    hits.Perm others := by
  apply List.perm_iff_count.mpr
  intro h
  by_cases present : h ∈ hits ∨ h ∈ others
  · have own (hits : List Hit) :
        (hits.filter (·.pattern = h.pattern)).count h = hits.count h :=
      List.count_filter (by simp)
    rw [← own hits, ← own others]
    exact (each h present).count_eq h
  · rw [not_or] at present
    rw [List.count_eq_zero.mpr present.1, List.count_eq_zero.mpr present.2]

/-- A stream gives the same hits cut in two ways if each expression on its own does. -/
theorem streamed_perm {p : Program} (built : p.Built) {chunks others : List (List UInt8)}
    (same : chunks.flatten = others.flatten)
    (each : ∀ index r, p.Has index (.regex r) →
      single p.overlap (r, index) [] 0 chunks = single p.overlap (r, index) [] 0 others) :
    (streamed p chunks).Perm (streamed p others) := by
  obtain ⟨literals, regexes, perm, distinct, occurs, kind⟩ := streamed_parts built chunks
  obtain ⟨literals', regexes', perm', distinct', occurs', kind'⟩ := streamed_parts built others
  have first : literals.Perm literals' :=
    (List.perm_ext_iff_of_nodup distinct distinct').mpr fun h => by rw [occurs, occurs', same]
  have quiet {index : Nat} {r : RegexPattern} (has : p.Has index (.regex r)) {stream : List UInt8}
      {literals : List Hit} (occurs : ∀ h, h ∈ literals ↔ Occurs p stream h) :
      literals.filter (·.pattern = index) = [] := by
    apply List.filter_eq_nil_iff.mpr
    intro h member
    obtain ⟨l, literal, _⟩ := (occurs h).mp member
    rw [decide_eq_true_eq]
    intro same
    have wrong := (same ▸ literal).unique has
    nomatch wrong
  have second : regexes.Perm regexes' := by
    apply perm_of_filters
    intro h present
    obtain ⟨r, has⟩ : ∃ r, p.Has h.pattern (.regex r) := by
      rcases present with member | member
      · exact kind h member
      · exact kind' h member
    have one := perm.filter (·.pattern = h.pattern)
    have two := perm'.filter (·.pattern = h.pattern)
    rw [List.filter_append, quiet has occurs, List.nil_append] at one
    rw [List.filter_append, quiet has occurs', List.nil_append] at two
    have alone := filter_streamed built has chunks
    rw [each _ r has] at alone
    exact one.symm.trans (alone.trans ((filter_streamed built has others).symm.trans two))
  exact perm.trans ((first.append second).trans perm'.symm)

end Triage.Search
