import Triage.Proofs.Search.Exact

/-! Expressions that ask where words begin and end. A match that is as short as the program waits for
has a byte behind it in every buffer, so it is told what it asks for, unless the buffer ends inside a
character. What is asked for there is answered as if the character could not be read. -/

namespace Triage.Search
open Regex

/-- A character begins in the first text and ends in the second. -/
def CutsCharacter (before after : List UInt8) : Prop :=
  ∃ head tail, before = head ++ tail ∧ tail ≠ [] ∧ Utf8.first? tail = none ∧
    (Utf8.first? (tail ++ after)).isSome

/-- The program waits for the longest match of each of its expressions. -/
def Program.Bounded (p : Program) : Prop :=
  ∀ index r, p.Has index (.regex r) → ∃ n, r.longest = some n ∧ n ≤ p.window

/-! ## Enough bytes -/

theorem settled_byteWord {ahead : List UInt8} (some_ahead : ahead ≠ []) (rest : List UInt8)
    (edge : WordEdge) : (Look.word false edge).Settled ahead rest := by
  intro behind
  obtain ⟨b, others, rfl⟩ := List.exists_cons_of_ne_nil some_ahead
  rfl

/-- With a byte ahead, characters of words are known, unless the first is cut. -/
theorem settled_word {ahead rest : List UInt8} (some_ahead : ahead ≠ [])
    (whole : Utf8.first? ahead = none → Utf8.first? (ahead ++ rest) = none) (edge : WordEdge) :
    (Look.word true edge).Settled ahead rest := by
  have same : (Utf8.first? ahead).map (·.1) = (Utf8.first? (ahead ++ rest)).map (·.1) := by
    cases read : Utf8.first? ahead with
    | none => rw [whole read]
    | some found => rw [Utf8.first?_append read, Option.map_some, Option.map_some]
  intro behind
  have empty : ahead.isEmpty = (ahead ++ rest).isEmpty := by
    obtain ⟨b, others, rfl⟩ := List.exists_cons_of_ne_nil some_ahead
    rfl
  simp only [Look.holds, same, empty]

/-- A buffer in which something is searched is faithful if it ends where the conditions are settled. -/
theorem faithful_of_settled {r : RegexPattern} (sound : r.Sound) {overlap n : Nat}
    (longest : r.longest = some n) (le : n ≤ overlap) {seen chunk rest : List UInt8}
    (settled : 2 ≤ (seen ++ chunk).length → ∀ l ∈ r.expr.looks, ∀ head tail,
      seen ++ chunk = head ++ tail → tail ≠ [] → l.Settled tail rest) :
    Faithful r.expr (seen ++ chunk ++ rest) (r.expr.spans (seen ++ chunk ++ rest))
      (keptFrom overlap seen) ((seen ++ chunk).drop (keptFrom overlap seen))
      (horizon overlap seen) (horizon overlap (seen ++ chunk)) := by
  have short : ShortAs n r.expr.language := sound.bounded n longest
  have narrow {text : List UInt8} {pos width : Nat} (member : width ∈ r.expr.widthsAt text pos) :
      0 < width ∧ width < overlap + 1 := by
    obtain ⟨fits, word⟩ := widthsAt_le member
    have bound := short _ word
    rw [List.length_take, List.length_drop] at bound
    refine ⟨Nat.pos_of_ne_zero fun none => sound.consumes ?_, by omega⟩
    rwa [none, List.take_zero] at word
  have all (text : List UInt8) (pos : Nat) :
      (r.expr.widthsAt text pos).filter (· < overlap + 1) = r.expr.widthsAt text pos :=
    List.filter_eq_self.mpr fun width member => by simpa using (narrow member).2
  refine .of_eq (fun start stop member => ?_) fun q after before => ?_
  · exact ((pass_spans sound _).of_mem (consuming_endAt? sound _) member).2.2
  have room : q + overlap < (seen ++ chunk).length := by
    unfold horizon at before
    omega
  obtain ⟨low, context⟩ := context_keptFrom overlap seen after
  have same : r.expr.widthsAt ((seen ++ chunk).drop (keptFrom overlap seen))
      (q - keptFrom overlap seen) = r.expr.widthsAt (seen ++ chunk ++ rest) q := by
    by_cases nothing : overlap = 0
    · have quiet (text : List UInt8) (pos : Nat) : r.expr.widthsAt text pos = [] := by
        apply List.eq_nil_iff_forall_not_mem.mpr
        intro width member
        have := narrow member
        omega
      rw [quiet, quiet]
    · have inside : q ≤ (seen ++ chunk).length := by omega
      have known : ∀ l ∈ r.expr.looks, ∀ x y, (seen ++ chunk).drop q = x ++ y →
          x.length < overlap + 1 → l.Settled y rest := by
        intro l member x y split reach
        refine settled (by omega) l member ((seen ++ chunk).take q ++ x) y ?_ fun none => ?_
        · rw [List.append_assoc, ← split, List.take_append_drop]
        · have length := congrArg List.length split
          rw [none, List.append_nil, List.length_drop] at length
          omega
      have ways := widthsAt_buffer low context inside (by omega) known
      rwa [all, all] at ways
  exact endsFrom_eq low (by omega) (by rw [same])

/-- Chunks make no difference as long as conditions are settled where they end. -/
theorem streamed_of_settled {p : Program} (built : p.Built) (bounded : p.Bounded)
    {chunks : List (List UInt8)}
    (settled : ∀ index r, p.Has index (.regex r) → ∀ l ∈ r.expr.looks,
      ∀ front back, chunks = front ++ back → 2 ≤ front.flatten.length →
        ∀ head tail, front.flatten = head ++ tail → tail ≠ [] → l.Settled tail back.flatten) :
    (streamed p chunks).Perm (searchAll p chunks.flatten) := by
  rw [searchAll_eq_streamed]
  apply streamed_perm built (by simp)
  intro index r has
  have sound : r.Sound := built.sound_of_has has
  obtain ⟨n, longest, window⟩ := bounded index r has
  have waits : n ≤ p.overlap := by
    have least := Program.le_overlap (Program.mem_regexes.mpr has)
    rwa [Program.waitFor, longest, Option.getD_some, Nat.min_eq_left window] at least
  rw [single_eq_spans sound, single_eq_spans sound, List.flatten_singleton]
  · intro front chunk back split
    apply faithful_of_settled sound longest waits
    intro long l member head tail parts
    have nothing : back = [] := by
      have := congrArg List.length split
      simp only [List.length_append, List.length_cons, List.length_nil] at this
      exact List.length_eq_zero_iff.mp (by omega)
    exact fun _ => nothing ▸ settled_nil tail l
  · intro front chunk back split
    apply faithful_of_settled sound longest waits
    intro long l member head tail parts
    refine settled index r has l member (front ++ [chunk]) back ?_ ?_ head tail ?_
    · rw [split, List.append_assoc, List.singleton_append]
    · rwa [List.flatten_append, List.flatten_singleton]
    · rwa [List.flatten_append, List.flatten_singleton]

/-! ## Matches of one byte -/

def Pass.Single (ends : Nat → Option Nat) : Prop := ∀ q stop, ends q = some stop → stop = q + 1

section single
variable {ends : Nat → Option Nat} {limit pos resume : Nat} {spans : List (Nat × Nat)}

theorem Pass.Single.consuming (one : Pass.Single ends) : Pass.Consuming ends := by
  intro q stop found
  rw [one q stop found]
  exact Nat.lt_succ_self q

theorem Pass.resume_of_single (one : Pass.Single ends) (pass : Pass ends limit pos spans resume) :
    resume = max pos limit := by
  induction pass with
  | done pos rest => rfl
  | found after before first here more ih =>
    have next := one _ _ here
    omega

/-- A pass misses no match of one byte. -/
theorem Pass.mem_iff_of_single (one : Pass.Single ends) (pass : Pass ends limit pos spans resume)
    {q : Nat} (after : pos ≤ q) (before : q < limit) :
    (q, q + 1) ∈ spans ↔ (ends q).isSome := by
  induction pass with
  | done pos rest => simp [rest q after before]
  | @found pos start stop spans resume low high first here more ih =>
    obtain rfl := one _ _ here
    rw [List.mem_cons]
    rcases Nat.lt_trichotomy q start with less | rfl | greater
    · have missing := first q after less
      have later : (q, q + 1) ∉ spans := fun member => by
        have := (more.of_mem one.consuming member).1
        omega
      simp [missing, later, Nat.ne_of_lt less]
    · simp [here]
    · rw [ih greater]
      simp [Nat.ne_of_gt greater]

end single

section cursor
variable {r : RegexPattern}

theorem single_endsFrom (sound : r.Sound) (one : r.longest = some 1) (base : Nat) (buffer : List UInt8) :
    Pass.Single (endsFrom r.expr base buffer) := by
  intro q stop found
  unfold endsFrom at found
  split at found
  · obtain ⟨own, here, rfl⟩ := Option.map_eq_some_iff.mp found
    have forward := consuming_endAt? sound buffer _ _ here
    obtain ⟨_, high, word⟩ := endAt?_spec here
    have short := sound.bounded 1 one _ word
    rw [List.length_take, List.length_drop] at short
    omega
  · simp at found

/-- A search of a buffer finds the matches of one byte that it tells of. -/
theorem regexHits_of_single (sound : r.Sound) (one : r.longest = some 1) (index committed : Nat)
    {s : State} {resume : Nat} (low : s.base ≤ resume) (inside : resume ≤ s.base + s.pending.length) :
    (regexHits s committed (r, index) resume).2 = max resume (s.base + committed) ∧
      ∀ q, ⟨q, q + 1, index⟩ ∈ (regexHits s committed (r, index) resume).1 ↔
        resume ≤ q ∧ q < s.base + committed ∧ (endsFrom r.expr s.base s.pending q).isSome := by
  obtain ⟨spans, hits, pass⟩ := pass_regexHits sound index committed low inside
  have short := single_endsFrom sound one s.base s.pending
  refine ⟨pass.resume_of_single short, fun q => ?_⟩
  have member : ⟨q, q + 1, index⟩ ∈ (regexHits s committed (r, index) resume).1 ↔
      (q, q + 1) ∈ spans := by
    rw [hits, List.mem_map]
    constructor
    · intro found
      obtain ⟨⟨start, stop⟩, inside, same⟩ := found
      obtain ⟨begins, ends, _⟩ := Hit.mk.inj same
      simp only at begins ends
      rwa [begins, ends] at inside
    · exact fun inside => ⟨_, inside, rfl⟩
  rw [member]
  constructor
  · intro inside
    obtain ⟨after, before, here⟩ := pass.of_mem short.consuming inside
    exact ⟨after, before, by rw [here, Option.isSome_some]⟩
  · exact fun ⟨after, before, here⟩ => (pass.mem_iff_of_single short after before).mpr here

variable (overlap : Nat)

theorem advance_of_single (sound : r.Sound) (one : r.longest = some 1) (index : Nat)
    (seen chunk : List UInt8) :
    (advance overlap seen chunk (r, index) (horizon overlap seen)).2 =
        horizon overlap (seen ++ chunk) ∧
      ∀ q, ⟨q, q + 1, index⟩ ∈ (advance overlap seen chunk (r, index) (horizon overlap seen)).1 ↔
        horizon overlap seen ≤ q ∧ q < horizon overlap (seen ++ chunk) ∧
          (endsFrom r.expr (keptFrom overlap seen) ((seen ++ chunk).drop (keptFrom overlap seen))
            q).isSome := by
  have mono := horizon_mono overlap seen chunk
  have kept : keptFrom overlap seen ≤ horizon overlap seen := Nat.sub_le _ _
  have limit : keptFrom overlap seen + (horizon overlap (seen ++ chunk) - keptFrom overlap seen) =
      horizon overlap (seen ++ chunk) := by omega
  have inside : horizon overlap seen ≤ (buffered overlap seen chunk).base +
      (buffered overlap seen chunk).pending.length := by
    simp only [buffered, List.length_drop, List.length_append, horizon, keptFrom]
    omega
  have found := regexHits_of_single sound one index
    (horizon overlap (seen ++ chunk) - keptFrom overlap seen) kept inside
  simpa only [advance, buffered, limit, Nat.max_eq_right mono] using found

/-- Nothing is found again before the place to which a stream has been searched. -/
theorem le_of_mem_single (sound : r.Sound) (one : r.longest = some 1) (index : Nat)
    {seen : List UInt8} {chunks : List (List UInt8)} {q : Nat}
    (member : ⟨q, q + 1, index⟩ ∈ single overlap (r, index) seen (horizon overlap seen) chunks) :
    horizon overlap seen ≤ q := by
  induction chunks generalizing seen with
  | nil =>
    have kept : keptFrom overlap seen ≤ horizon overlap seen := Nat.sub_le _ _
    have inside : horizon overlap seen ≤
        (buffered overlap seen []).base + (buffered overlap seen []).pending.length := by
      simp only [buffered, List.append_nil, List.length_drop, horizon, keptFrom]
      omega
    exact ((regexHits_of_single sound one index _ kept inside).2 q).mp member |>.1
  | cons chunk chunks ih =>
    obtain ⟨place, hits⟩ := advance_of_single overlap sound one index seen chunk
    rw [single] at member
    split at member
    · exact ih member
    · rw [place] at member
      rcases List.mem_append.mp member with here | later
      · exact ((hits q).mp here).1
      · exact (horizon_mono overlap seen chunk).trans (ih later)

/-- A match of one byte is searched for when the chunk comes that brings it behind the horizon. -/
theorem mem_single_iff (sound : r.Sound) (one : r.longest = some 1) (index : Nat)
    (seen : List UInt8) (front back : List (List UInt8)) {chunk : List UInt8} {q : Nat}
    (early : horizon overlap (seen ++ front.flatten) ≤ q)
    (late : q < horizon overlap (seen ++ front.flatten ++ chunk)) :
    ⟨q, q + 1, index⟩ ∈
        single overlap (r, index) seen (horizon overlap seen) (front ++ chunk :: back) ↔
      (endsFrom r.expr (keptFrom overlap (seen ++ front.flatten))
        ((seen ++ front.flatten ++ chunk).drop (keptFrom overlap (seen ++ front.flatten)))
        q).isSome := by
  induction front generalizing seen with
  | nil =>
    rw [List.flatten_nil, List.append_nil] at early late ⊢
    have bytes : chunk.isEmpty = false := by
      cases chunk with
      | nil =>
        rw [List.append_nil] at late
        omega
      | cons b others => rfl
    obtain ⟨place, hits⟩ := advance_of_single overlap sound one index seen chunk
    have missing : ⟨q, q + 1, index⟩ ∉
        single overlap (r, index) (seen ++ chunk) (horizon overlap (seen ++ chunk)) back :=
      fun member => by
        have := le_of_mem_single overlap sound one index member
        omega
    rw [List.nil_append, single, if_neg (by simp [bytes]), place, List.mem_append, hits]
    simp [missing, early, late]
  | cons first front ih =>
    rw [List.flatten_cons, ← List.append_assoc] at early late ⊢
    obtain ⟨place, hits⟩ := advance_of_single overlap sound one index seen first
    have step := ih (seen ++ first) early late
    rw [List.cons_append, single]
    split
    · rename_i empty
      obtain rfl := List.isEmpty_iff.mp empty
      rw [List.append_nil] at step ⊢
      exact step
    · have before := (horizon_mono overlap (seen ++ first) front.flatten).trans early
      have missing : ⟨q, q + 1, index⟩ ∉
          (advance overlap seen first (r, index) (horizon overlap seen)).1 := fun member => by
        have := ((hits q).mp member).2.1
        omega
      rw [place, List.mem_append, step]
      simp [missing]

end cursor
/-! ## A cut character -/

def byteSet : RangeSet := ⟨[(0, 255)], by decide, by decide⟩

def anyByte : Expr := .byteClass byteSet

theorem meet_byteSet (b : UInt8) : Demand.meet? b (.byte byteSet) = some [] := by
  have small := b.toNat_lt
  have inside : byteSet.contains b.toNat := by
    simp only [byteSet, RangeSet.contains, List.any_cons, List.any_nil, Bool.or_false,
      Bool.and_eq_true, decide_eq_true_eq]
    omega
  rw [Demand.meet?, if_pos inside]

theorem widths_look (l : Look) (behind ahead : List UInt8) :
    Thread.widths [.expr (.look l)] behind ahead = if l.holds behind ahead then [0] else [] := by
  cases ahead <;> cases h : l.holds behind _ <;>
  simp [Thread.widths, Thread.nexts, Thread.nextsFrom, Item.nexts, Expr.nexts, Item.ofExpr,
    Item.isOpen, Next.andThen, Next.isFinished, h]

theorem widths_byteLook (l : Look) (behind ahead : List UInt8) (b : UInt8) :
    Thread.widths [.expr (.seq anyByte (.look l))] behind (b :: ahead) =
      if l.holds (b :: behind) ahead then [1] else [] := by
  have moved := widths_look l (b :: behind) ahead
  have own := meet_byteSet b
  cases h : l.holds (b :: behind) ahead <;>
  simp [Thread.widths, Thread.nexts, Thread.nextsFrom, Item.nexts, Expr.nexts, Item.ofExpr,
    Item.isOpen, Item.openIn, Next.andThen, Next.isFinished, Next.advance?, anyByte, own, moved, h]

theorem widths_lookByte (l : Look) (behind ahead : List UInt8) (b : UInt8) :
    Thread.widths [.expr (.seq (.look l) anyByte)] behind (b :: ahead) =
      if l.holds behind (b :: ahead) then [1] else [] := by
  have own := meet_byteSet b
  have done (behind : List UInt8) : Thread.widths [] behind ahead = [0] := by
    cases ahead <;> simp [Thread.widths, Thread.nexts, Thread.nextsFrom, Next.isFinished]
  cases h : l.holds behind (b :: ahead) <;>
  simp [Thread.widths, Thread.nexts, Thread.nextsFrom, Item.nexts, Expr.nexts, Item.ofExpr,
    Item.isOpen, Item.openIn, Next.andThen, Next.isFinished, Next.advance?, anyByte, own, h, done]

theorem endsFrom_byteLook (l : Look) (x tail : List UInt8) (b : UInt8) {base : Nat}
    (low : base ≤ x.length) :
    (endsFrom (.seq anyByte (.look l)) base ((x ++ b :: tail).drop base) x.length).isSome =
      l.holds (b :: (x.drop base).reverse) tail := by
  have place : x.length - base = (x.drop base).length := List.length_drop.symm
  rw [endsFrom, if_pos low, Option.isSome_map, List.drop_append_of_le_length low, place,
    Expr.endAt?, if_pos (by simp), Option.isSome_map, Expr.widthsAt, List.take_left, List.drop_left,
    widths_byteLook]
  cases l.holds (b :: (x.drop base).reverse) tail <;> rfl

theorem endsFrom_lookByte (l : Look) (b : UInt8) (text : List UInt8) :
    (endsFrom (.seq (.look l) anyByte) 0 (b :: text) 0).isSome = l.holds [] (b :: text) := by
  rw [endsFrom, if_pos (Nat.le_refl _), Option.isSome_map, Expr.endAt?, if_pos (Nat.zero_le _),
    Option.isSome_map, Expr.widthsAt]
  change (Thread.widths _ [] (b :: text)).head?.isSome = _
  rw [widths_lookByte]
  cases l.holds [] (b :: text) <;> rfl

/-- What is asked of a cut character is answered in another way than what is asked of all of it. -/
theorem exists_holds_ne {tail rest : List UInt8} (bytes : tail ≠ [])
    (cut : Utf8.first? tail = none) (whole : (Utf8.first? (tail ++ rest)).isSome) :
    ∃ edge, (edge = .boundary ∨ edge = .finishHalf) ∧ ∀ behind,
      (Look.word true edge).holds behind tail ≠ (Look.word true edge).holds behind (tail ++ rest) := by
  obtain ⟨⟨code, others⟩, read⟩ := Option.isSome_iff_exists.mp whole
  have empty : tail.isEmpty = false := by simpa using bytes
  cases word : Unicode.word.contains code with
  | true =>
    refine ⟨.boundary, .inl rfl, fun behind => ?_⟩
    simp [Look.holds, WordEdge.holds, WordEdge.readable, cut, read, word]
  | false =>
    refine ⟨.finishHalf, .inr rfl, fun behind => ?_⟩
    simp [Look.holds, WordEdge.holds, WordEdge.readable, cut, read, word, empty]

/-- A match of one byte is reported if the buffer tells of it in which it is searched for. -/
theorem mem_streamed_iff {p : Program} (built : p.Built) {index : Nat} {r : RegexPattern}
    (has : p.Has index (.regex r)) (one : r.longest = some 1) (front back : List (List UInt8))
    {chunk : List UInt8} {q : Nat} (early : horizon p.overlap front.flatten ≤ q)
    (late : q < horizon p.overlap (front.flatten ++ chunk)) :
    ⟨q, q + 1, index⟩ ∈ streamed p (front ++ chunk :: back) ↔
      (endsFrom r.expr (keptFrom p.overlap front.flatten)
        ((front.flatten ++ chunk).drop (keptFrom p.overlap front.flatten)) q).isSome := by
  have start : horizon p.overlap [] = 0 := Nat.zero_sub _
  have sound : r.Sound := built.sound_of_has has
  rw [← List.nil_append front.flatten] at early late
  have own := mem_single_iff p.overlap sound one index [] front back early late
  rw [start, List.nil_append] at own
  rw [← own, ← (filter_streamed built has (front ++ chunk :: back)).mem_iff, List.mem_filter]
  simp

/-- Chunks that give the hits of the whole stream tell of each match of one byte what it tells. -/
theorem told_of_perm {p : Program} (built : p.Built) {chunks : List (List UInt8)}
    (perm : (streamed p chunks).Perm (searchAll p chunks.flatten)) {index : Nat} {r : RegexPattern}
    (has : p.Has index (.regex r)) (one : r.longest = some 1) {front back : List (List UInt8)}
    {chunk : List UInt8} (split : chunks = front ++ chunk :: back) {q : Nat}
    (early : horizon p.overlap front.flatten ≤ q)
    (late : q < horizon p.overlap (front.flatten ++ chunk)) :
    (endsFrom r.expr (keptFrom p.overlap front.flatten)
      ((front.flatten ++ chunk).drop (keptFrom p.overlap front.flatten)) q).isSome =
        (endsFrom r.expr 0 chunks.flatten q).isSome := by
  have start : horizon p.overlap [] = 0 := Nat.zero_sub _
  have kept : keptFrom p.overlap [] = 0 := by rw [keptFrom, start, Nat.zero_sub]
  have total : q < horizon p.overlap ([] ++ chunks.flatten) := by
    have more := horizon_mono p.overlap (front.flatten ++ chunk) back.flatten
    have stream : chunks.flatten = front.flatten ++ chunk ++ back.flatten := by simp [split]
    rw [List.nil_append, stream]
    exact late.trans_le more
  have piecewise := mem_streamed_iff built has one front back early late
  have whole := mem_streamed_iff built has one [] [] (start.trans_le (Nat.zero_le q)) total
  rw [searchAll_eq_streamed] at perm
  rw [List.flatten_nil, List.nil_append, List.nil_append, kept, List.drop_zero,
    ← perm.mem_iff] at whole
  rw [← split] at piecewise
  rw [Bool.eq_iff_iff, ← piecewise, whole]

theorem exists_crossing {chunks : List (List UInt8)} {m : Nat} (enough : m < chunks.flatten.length) :
    ∃ front chunk back, chunks = front ++ chunk :: back ∧ front.flatten.length ≤ m ∧
      m < (front.flatten ++ chunk).length := by
  induction chunks generalizing m with
  | nil => simp at enough
  | cons first chunks ih =>
    by_cases here : m < first.length
    · exact ⟨[], first, chunks, rfl, Nat.zero_le _, here⟩
    · rw [List.flatten_cons, List.length_append] at enough
      obtain ⟨front, chunk, back, split, early, late⟩ := ih (m := m - first.length) (by omega)
      refine ⟨first :: front, chunk, back, by rw [split, List.cons_append], ?_, ?_⟩
      · rw [List.flatten_cons, List.length_append]
        omega
      · rw [List.flatten_cons, List.append_assoc, List.length_append]
        omega

def afterByte (edge : WordEdge) : RegexPattern := ⟨.seq anyByte (.look (.word true edge)), 1, some 1⟩

def beforeByte (edge : WordEdge) : RegexPattern := ⟨.seq (.look (.word true edge)) anyByte, 1, some 1⟩

/-- Single bytes that stand where a word begins or ends, or where none goes on. -/
def probes : Program where
  entries := [⟨⟨0, "(?s-u:.)\\b", "UTF-8", 1⟩, .regex (afterByte .boundary)⟩,
    ⟨⟨1, "(?s-u:.)\\b\x7bend-half\x7d", "UTF-8", 1⟩, .regex (afterByte .finishHalf)⟩,
    ⟨⟨2, "\\b(?s-u:.)", "UTF-8", 1⟩, .regex (beforeByte .boundary)⟩,
    ⟨⟨3, "\\b\x7bend-half\x7d(?s-u:.)", "UTF-8", 1⟩, .regex (beforeByte .finishHalf)⟩]

theorem built_probes : probes.Built :=
  .addAll [⟨"(?s-u:.)\\b", false, false, "UTF-8"⟩,
      ⟨"(?s-u:.)\\b\x7bend-half\x7d", false, false, "UTF-8"⟩, ⟨"\\b(?s-u:.)", false, false, "UTF-8"⟩,
      ⟨"\\b\x7bend-half\x7d(?s-u:.)", false, false, "UTF-8"⟩] .empty
    (Program.eq_ok_of_toOption (by decide +kernel))

theorem bounded_probes : probes.Bounded := by
  intro index r has
  obtain ⟨e, found, compiled⟩ := has
  have member := List.mem_of_getElem? found
  simp only [probes, List.mem_cons, List.not_mem_nil, or_false] at member
  refine ⟨1, ?_, by decide⟩
  rcases member with rfl | rfl | rfl | rfl <;> obtain rfl := CompiledPattern.regex.inj compiled <;> rfl

theorem probes_afterByte {edge : WordEdge} (kind : edge = .boundary ∨ edge = .finishHalf) :
    ∃ index, probes.Has index (.regex (afterByte edge)) := by
  rcases kind with rfl | rfl
  · exact ⟨0, _, rfl, rfl⟩
  · exact ⟨1, _, rfl, rfl⟩

theorem probes_beforeByte {edge : WordEdge} (kind : edge = .boundary ∨ edge = .finishHalf) :
    ∃ index, probes.Has index (.regex (beforeByte edge)) := by
  rcases kind with rfl | rfl
  · exact ⟨2, _, rfl, rfl⟩
  · exact ⟨3, _, rfl, rfl⟩

section probes
variable {edge : WordEdge} {before after : List (List UInt8)} {chunk near : List UInt8}

theorem holds_eq_at_start (kind : edge = .boundary ∨ edge = .finishHalf)
    (perm : (streamed probes (before ++ chunk :: after)).Perm
      (searchAll probes (before ++ chunk :: after).flatten))
    (here : before.flatten ++ chunk = near) (early : before.flatten.length ≤ 1)
    (late : 1 < near.length) :
    (Look.word true edge).holds [] near =
      (Look.word true edge).holds [] (near ++ after.flatten) := by
  obtain ⟨index, has⟩ := probes_beforeByte kind
  have overlap : probes.overlap = 1 := rfl
  have start : horizon probes.overlap before.flatten = 0 := Nat.sub_eq_zero_of_le early
  have kept : keptFrom probes.overlap before.flatten = 0 := by rw [keptFrom, start, Nat.zero_sub]
  have stream : (before ++ chunk :: after).flatten = near ++ after.flatten := by simp [← here]
  have searched : 0 < horizon probes.overlap (before.flatten ++ chunk) := by
    rw [here, overlap, horizon]
    omega
  have told := told_of_perm built_probes perm has rfl rfl start.le searched
  rw [kept, List.drop_zero, here, stream] at told
  obtain ⟨b, others, rfl⟩ := List.exists_cons_of_ne_nil (List.length_pos_iff.mp (by omega : 0 < near.length))
  rwa [List.cons_append, beforeByte, endsFrom_lookByte, endsFrom_lookByte] at told

theorem holds_eq_behind {front : List UInt8} {b : UInt8} (kind : edge = .boundary ∨ edge = .finishHalf)
    (perm : (streamed probes (before ++ chunk :: after)).Perm
      (searchAll probes (before ++ chunk :: after).flatten))
    (here : before.flatten ++ chunk = front ++ b :: near)
    (early : before.flatten.length ≤ front.length + 1) (some_near : near ≠ []) :
    (Look.word true edge).holds (b :: front.reverse) near =
      (Look.word true edge).holds (b :: front.reverse) (near ++ after.flatten) := by
  obtain ⟨index, has⟩ := probes_afterByte kind
  have overlap : probes.overlap = 1 := rfl
  have bytes := List.length_pos_iff.mpr some_near
  have searched : horizon probes.overlap before.flatten ≤ front.length := by
    rw [overlap, horizon]
    omega
  have reached : front.length < horizon probes.overlap (before.flatten ++ chunk) := by
    rw [here, overlap, horizon, List.length_append, List.length_cons]
    omega
  have stream : (before ++ chunk :: after).flatten = front ++ b :: (near ++ after.flatten) := by
    rw [List.flatten_append, List.flatten_cons, ← List.append_assoc, here, List.append_assoc,
      List.cons_append]
  have told := told_of_perm built_probes perm has rfl rfl searched reached
  obtain ⟨low, context⟩ := context_keptFrom _ _ searched
  have whole := endsFrom_byteLook (.word true edge) front (near ++ after.flatten) b (Nat.zero_le _)
  rw [List.drop_zero, List.drop_zero] at whole
  rw [here, stream, afterByte, endsFrom_byteLook _ _ _ _ low, whole] at told
  -- what was dropped is too far behind for the condition
  rw [← told]
  refine holds_eq_of_take ?_ near _
  rcases context with nothing | far
  · rw [nothing, List.drop_zero]
  · rw [List.reverse_drop, List.take_succ_cons, List.take_succ_cons, List.take_take,
      Nat.min_eq_left (by omega)]

end probes

/-- The chunk that ends first inside a character that a later one cuts too. -/
theorem exists_cut {front back : List (List UInt8)} (long : 2 ≤ front.flatten.length)
    (cuts : CutsCharacter front.flatten back.flatten) :
    ∃ before chunk after head near, front ++ back = before ++ chunk :: after ∧
      before.flatten ++ chunk = head ++ near ∧ near ≠ [] ∧ Utf8.first? near = none ∧
      (Utf8.first? (near ++ after.flatten)).isSome ∧
      before.flatten.length ≤ max head.length 1 ∧ max head.length 1 < (head ++ near).length := by
  obtain ⟨head, tail, parts, bytes, cut, whole⟩ := cuts
  have length := congrArg List.length parts
  have tail_pos := List.length_pos_iff.mpr bytes
  rw [List.length_append] at length
  have enough : max head.length 1 < front.flatten.length := by omega
  obtain ⟨before, chunk, after, rfl, early, late⟩ := exists_crossing enough
  have flat : (before ++ chunk :: after).flatten = before.flatten ++ chunk ++ after.flatten := by simp
  rw [flat] at parts
  rcases List.append_eq_append_iff.mp parts with ⟨middle, short, _⟩ | ⟨near, here, rfl⟩
  · have := congrArg List.length short
    rw [List.length_append] at this
    omega
  · refine ⟨before, chunk, after ++ back, head, near, by simp, here, ?_, ?_, ?_, early, here ▸ late⟩
    · intro nothing
      rw [nothing, List.append_nil] at here
      rw [here] at late
      omega
    · exact Utf8.first?_eq_none_of_append cut
    · rwa [List.flatten_append, ← List.append_assoc]

theorem uncut_of_perm (front back : List (List UInt8))
    (perm : (streamed probes (front ++ back)).Perm (searchAll probes (front ++ back).flatten))
    (long : 2 ≤ front.flatten.length) : ¬ CutsCharacter front.flatten back.flatten := by
  intro cuts
  obtain ⟨before, chunk, after, head, near, split, here, some_near, cut, whole, early, late⟩ :=
    exists_cut long cuts
  obtain ⟨edge, kind, differ⟩ := exists_holds_ne some_near cut whole
  rw [split] at perm
  rcases List.eq_nil_or_concat' head with rfl | ⟨front, b, rfl⟩
  · exact differ [] (holds_eq_at_start kind perm here early late)
  · rw [List.append_assoc, List.singleton_append] at here
    refine differ (b :: front.reverse) (holds_eq_behind kind perm here ?_ some_near)
    rw [List.length_append, List.length_singleton] at early
    omega

/-- Programs that wait for all of their matches find in chunks what they find in the whole stream if
they ask for words in ASCII only. The others do if no chunk ends inside a character. Where one does,
some of them find something else, unless the chunk ends right after the first byte of the stream. -/
theorem words_streamed (chunks : List (List UInt8)) :
    (∀ p : Program, p.Built → p.Bounded →
      (∀ index r edge, p.Has index (.regex r) → .word true edge ∉ r.expr.looks) →
        (streamed p chunks).Perm (searchAll p chunks.flatten)) ∧
    ((∀ p : Program, p.Built → p.Bounded →
        (streamed p chunks).Perm (searchAll p chunks.flatten)) ↔
      ∀ front back, chunks = front ++ back → 2 ≤ front.flatten.length →
        ¬ CutsCharacter front.flatten back.flatten) := by
  refine ⟨fun p built bounded ascii => ?_, fun same front back split long => ?_,
    fun uncut p built bounded => ?_⟩
  · apply streamed_of_settled built bounded
    intro index r has l member _ _ _ _ head tail _ some_tail
    have sound : r.Sound := built.sound_of_has has
    have word := sound.words l member
    cases l with
    | word unicode edge =>
      cases unicode with
      | true => exact absurd member (ascii index r edge has)
      | false => exact settled_byteWord some_tail _ edge
    | _ => simp [Look.isAnchor] at word
  · have perm := same probes built_probes bounded_probes
    rw [split] at perm
    exact uncut_of_perm front back perm long
  · refine streamed_of_settled built bounded
      fun index r has l member front back split long head tail parts some_tail => ?_
    have sound : r.Sound := built.sound_of_has has
    have word := sound.words l member
    cases l with
    | word unicode edge =>
      cases unicode with
      | true =>
        refine settled_word some_tail (fun cut => ?_) edge
        have whole := uncut front back split long
        rw [← Option.not_isSome_iff_eq_none]
        exact fun read => whole ⟨head, tail, parts, some_tail, cut, read⟩
      | false => exact settled_byteWord some_tail _ edge
    | _ => simp [Look.isAnchor] at word

/-- A letter whose second byte comes later is taken for the end of the word that goes on with it. -/
theorem probes_cut : probes.Built ∧ probes.Bounded ∧
    ¬ (streamed probes [[97, 195], [169]]).Perm (searchAll probes [97, 195, 169]) := by
  refine ⟨built_probes, bounded_probes, fun perm => ?_⟩
  have cut : CutsCharacter [97, 195] [169] := ⟨[97], [195], rfl, by simp, rfl, rfl⟩
  exact uncut_of_perm [[97, 195]] [[169]] perm (Nat.le_refl 2) cut

end Triage.Search
