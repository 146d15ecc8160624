import Triage.Proofs.Search.Extent

/-! What a context keeps of its stream at any time, and that its places stay in range: a search whose differences
and slices are checked gives what the search gives. -/

namespace Triage.Search
open Regex

variable {p : Program} {s : State} {seen : List UInt8}

/-- The bytes of the current stream after an action. -/
def Action.fed (seen : List UInt8) : Action → List UInt8
  | .feed chunk => seen ++ chunk
  | .finish | .reset => []

/-- The bytes that were fed since the last stream ended. -/
def fed (history : List Action) : List UInt8 := history.foldl Action.fed []

/-! ## What is kept -/

/-- What a context says of the bytes that were fed. -/
structure Represents (p : Program) (s : State) (seen : List UInt8) : Prop where
  offset : s.offset = seen.length
  tail : p.literals ≠ [] → s.tail = seen.drop (s.offset - min (p.literalLength - 1) s.offset)
  base : p.regexes ≠ [] → s.base ≤ s.offset
  pending : p.regexes ≠ [] → s.pending = seen.extract s.base s.offset
  started : s.resume = [] ∨ s.resume.length = p.regexes.length
  places : ∀ place ∈ s.resume, s.base ≤ place ∧ place ≤ s.offset

/-- How much is kept, however long the stream is. -/
structure Small (p : Program) (s : State) : Prop where
  tail : s.tail.length ≤ p.literalLength - 1
  pending : s.pending.length ≤ p.overlap + lookBehind
  places : s.resume.length ≤ p.regexes.length

/-- What is kept of a stream, where nothing is kept for patterns that the program does not have. -/
structure Kept (p : Program) (s : State) (seen : List UInt8) : Prop where
  follows : Follows p s seen
  started : s.resume = [] ∨ s.resume.length = p.regexes.length
  tailless : p.literals = [] → s.tail = []
  unbuffered : p.regexes = [] → s.pending = []

theorem kept_empty (p : Program) : Kept p {} [] := ⟨follows_empty p, .inl rfl, fun _ => rfl, fun _ => rfl⟩

theorem resume_feedRegexes (p : Program) (s : State) (chunk : List UInt8) :
    (feedRegexes p s chunk).2.resume = s.resume ∨
      (feedRegexes p s chunk).2.resume.length = p.regexes.length := by
  unfold feedRegexes
  split
  · exact .inl rfl
  · dsimp only
    split
    · have length := length_cursors p s
      unfold cursors at length
      exact .inr (by simp only [commit, List.length_map, List.length_zip, length, Nat.min_self])
    · exact .inl rfl

theorem Kept.feed (built : p.Built) (kept : Kept p s seen) (chunk : List UInt8) :
    Kept p (feed p s chunk).2 (seen ++ chunk) := by
  refine ⟨kept.follows.feed built chunk, ?_, fun none => ?_, fun none => ?_⟩ <;> unfold Search.feed <;> split
  · exact kept.started
  · rcases resume_feedRegexes p s chunk with same | set
    · rcases kept.started with none | set
      · exact .inl (same.trans none)
      · exact .inr ((congrArg List.length same).trans set)
    · exact .inr set
  · exact kept.tailless none
  · simp only [feedLiterals, none, List.isEmpty_nil, if_true]
    exact kept.tailless none
  · exact kept.unbuffered none
  · simp only [feedRegexes, none, List.isEmpty_nil, if_true]
    exact kept.unbuffered none

theorem Kept.apply (built : p.Built) (kept : Kept p s seen) (action : Action) :
    Kept p (action.apply p s) (action.fed seen) := by
  cases action with
  | feed chunk => exact kept.feed built chunk
  | finish => exact kept_empty p
  | reset => exact kept_empty p

theorem kept_foldl (built : p.Built) (kept : Kept p s seen) (history : List Action) :
    Kept p (history.foldl (Action.apply p) s) (history.foldl Action.fed seen) := by
  induction history generalizing s seen with
  | nil => exact kept
  | cons action history ih => exact ih (kept.apply built action)

theorem Kept.base_le (kept : Kept p s seen) (present : p.regexes ≠ []) : s.base ≤ seen.length := by
  rw [(kept.follows.buffers present).base, keptFrom, horizon]
  omega

theorem Kept.cursors (kept : Kept p s seen) (present : p.regexes ≠ []) :
    ∀ place ∈ cursors p s, s.base ≤ place ∧ place ≤ seen.length := by
  intro place member
  obtain ⟨low, high⟩ := kept.follows.searched present place member
  refine ⟨?_, high⟩
  rw [(kept.follows.buffers present).base, keptFrom]
  omega

theorem Kept.represents (kept : Kept p s seen) : Represents p s seen where
  offset := kept.follows.carries.offset
  tail present := by
    rw [kept.follows.carries.tail present, kept.follows.carries.offset, Program.carriedFrom]
    congr 1
    omega
  base present := by
    rw [kept.follows.carries.offset]
    exact kept.base_le present
  pending present := by
    obtain ⟨pending, base⟩ := kept.follows.buffers present
    rw [kept.follows.carries.offset, pending, base, List.extract_eq_take_drop, ← List.length_drop, List.take_length]
  started := kept.started
  places place member := by
    have some : s.resume ≠ [] := List.ne_nil_of_mem member
    have set := kept.started.resolve_left some
    have present : p.regexes ≠ [] := by
      rw [← List.length_pos_iff, ← set]
      exact List.length_pos_iff.mpr some
    rw [kept.follows.carries.offset]
    refine kept.cursors present place ?_
    rwa [Search.cursors, if_pos set]

theorem Kept.small (kept : Kept p s seen) : Small p s where
  tail := by
    by_cases none : p.literals = []
    · rw [kept.tailless none]
      exact Nat.zero_le _
    · rw [kept.follows.carries.tail none, Program.carriedFrom, List.length_drop]
      omega
  pending := by
    by_cases none : p.regexes = []
    · rw [kept.unbuffered none]
      exact Nat.zero_le _
    · rw [(kept.follows.buffers none).pending, List.length_drop, keptFrom, horizon]
      omega
  places := by
    rcases kept.started with none | set
    · rw [none]
      exact Nat.zero_le _
    · exact Nat.le_of_eq set

/-! ## Checked searches -/

/-- A difference that is not below zero. -/
def difference? (a b : Nat) : Option Nat := if b ≤ a then some (a - b) else none

/-- The bytes from a place on that is not behind their end. -/
def from? (bytes : List UInt8) (place : Nat) : Option (List UInt8) :=
  if place ≤ bytes.length then some (bytes.drop place) else none

@[simp] theorem difference?_of_le {a b : Nat} (le : b ≤ a) : difference? a b = some (a - b) := if_pos le

@[simp] theorem from?_of_le {bytes : List UInt8} {place : Nat} (le : place ≤ bytes.length) :
    from? bytes place = some (bytes.drop place) := if_pos le

/-- `feedLiterals` where each difference and slice is checked. -/
def feedLiterals? (p : Program) (s : State) (chunk : List UInt8) : Option (List Hit × List UInt8) :=
  let literals := p.literals
  if literals.isEmpty then some ([], s.tail)
  else do
    let text := s.tail ++ chunk
    let start ← difference? s.offset s.tail.length
    let hits := (literalHits literals start text).filter (s.offset < ·.stop)
    let first ← difference? text.length (min (p.literalLength - 1) text.length)
    return (hits, ← from? text first)

/-- `matchesUntil` where each search starts inside the text. -/
def matchesUntil? (r : RegexPattern) (text : List UInt8) (committed : Nat) :
    Nat → Nat → Option (List (Nat × Nat) × Nat)
  | 0, pos => some ([], pos)
  | fuel + 1, pos =>
    if pos < committed then do
      let _ ← from? text pos
      match r.expr.findBetween? text pos committed with
      | none => return ([], pos)
      | some (start, stop) =>
        let (more, last) ← matchesUntil? r text committed fuel stop
        return ((start, stop) :: more, last)
    else some ([], pos)

def regexHits? (s : State) (committed : Nat) (r : RegexPattern × Nat) (resume : Nat) :
    Option (List Hit × Nat) := do
  let pos ← difference? resume s.base
  let (spans, last) ← matchesUntil? r.1 s.pending committed committed pos
  return (spans.map fun (start, stop) => ⟨s.base + start, s.base + stop, r.2⟩, s.base + max last committed)

def commit? (p : Program) (s : State) (committed : Nat) : Option (List Hit × State) := do
  let found ← (p.regexes.zip (cursors p s)).mapM fun (r, start) => regexHits? s committed r start
  let dropped := committed - lookBehind
  let pending ← from? s.pending dropped
  return (found.flatMap (·.1), { s with pending, base := s.base + dropped, resume := found.map (·.2) })

def feedRegexes? (p : Program) (s : State) (chunk : List UInt8) : Option (List Hit × State) :=
  if p.regexes.isEmpty then some ([], s)
  else
    let s := { s with pending := s.pending ++ chunk }
    if s.pending.length > p.overlap then do commit? p s (← difference? s.pending.length p.overlap)
    else some ([], s)

/-- `feed` where each difference and slice is checked. -/
def feed? (p : Program) (s : State) (chunk : List UInt8) : Option (List Hit × State) :=
  if chunk.isEmpty then some ([], s)
  else do
    let (literals, tail) ← feedLiterals? p s chunk
    let (regexes, s) ← feedRegexes? p s chunk
    return (Hit.sort (literals ++ regexes), { s with tail, offset := s.offset + chunk.length })

/-- `finish` where each difference and slice is checked. -/
def finish? (p : Program) (s : State) : Option (List Hit) :=
  if p.regexes.isEmpty || s.pending.isEmpty then some []
  else do
    let (hits, _) ← commit? p s s.pending.length
    return Hit.sort hits

theorem mapM_of_some {α β : Type} {xs : List α} {f : α → Option β} {g : α → β}
    (each : ∀ x ∈ xs, f x = some (g x)) : xs.mapM f = some (xs.map g) := by
  induction xs with
  | nil => rfl
  | cons x xs ih =>
    obtain ⟨first, rest⟩ := List.forall_mem_cons.mp each
    rw [List.mapM_cons, first, ih rest]
    rfl

theorem matchesUntil?_eq (r : RegexPattern) {text : List UInt8} {committed : Nat}
    (inside : committed ≤ text.length) (fuel pos : Nat) :
    matchesUntil? r text committed fuel pos = some (matchesUntil r text committed fuel pos) := by
  induction fuel generalizing pos with
  | zero => rfl
  | succ fuel ih =>
    unfold matchesUntil? matchesUntil
    by_cases before : pos < committed
    · rw [if_pos before, from?_of_le (by omega)]
      dsimp only [Option.bind_eq_bind, Option.bind_some]
      cases r.expr.findBetween? text pos committed with
      | none => rfl
      | some span => simp only [ih, Option.bind_some, Option.pure_def]
    · have none : r.expr.findBetween? text pos committed = none := by
        rw [findBetween?_eq, Nat.sub_eq_zero_of_le (Nat.le_of_not_lt before)]
        rfl
      rw [if_neg before, none]

theorem regexHits?_eq {committed resume : Nat} (r : RegexPattern × Nat) (inside : committed ≤ s.pending.length)
    (low : s.base ≤ resume) : regexHits? s committed r resume = some (regexHits s committed r resume) := by
  rw [regexHits?, difference?_of_le low]
  simp only [Option.bind_eq_bind, Option.bind_some, matchesUntil?_eq r.1 inside]
  rfl

theorem commit?_eq {committed : Nat} (inside : committed ≤ s.pending.length)
    (low : ∀ place ∈ cursors p s, s.base ≤ place) : commit? p s committed = some (commit p s committed) := by
  have found : (p.regexes.zip (cursors p s)).mapM (fun (r, start) => regexHits? s committed r start) =
      some ((p.regexes.zip (cursors p s)).map fun (r, start) => regexHits s committed r start) := by
    refine mapM_of_some fun ⟨r, start⟩ member => ?_
    exact regexHits?_eq r inside (low start (List.of_mem_zip member).2)
  rw [commit?, found]
  simp only [Option.bind_eq_bind, Option.bind_some,
    from?_of_le (show committed - lookBehind ≤ s.pending.length by omega)]
  rfl

theorem feedLiterals?_eq (kept : Kept p s seen) (chunk : List UInt8) :
    feedLiterals? p s chunk = some (feedLiterals p s chunk) := by
  unfold feedLiterals? feedLiterals
  dsimp only
  split
  · rfl
  · rename_i some
    have bytes := Nat.min_le_right (p.literalLength - 1) (s.tail ++ chunk).length
    have carried : s.tail.length ≤ s.offset := by
      rw [kept.follows.carries.tail (by simpa using some), kept.follows.carries.offset, List.length_drop]
      omega
    simp only [difference?_of_le carried, difference?_of_le bytes, from?_of_le (Nat.sub_le _ _),
      Option.bind_eq_bind, Option.bind_some]
    rfl

theorem feedRegexes?_eq (kept : Kept p s seen) (chunk : List UInt8) :
    feedRegexes? p s chunk = some (feedRegexes p s chunk) := by
  unfold feedRegexes? feedRegexes
  split
  · rfl
  · rename_i some
    have present : p.regexes ≠ [] := by simpa using some
    dsimp only
    split
    · rename_i many
      rw [difference?_of_le (Nat.le_of_lt many)]
      exact commit?_eq (Nat.sub_le _ _) fun place member => (kept.cursors present place member).1
    · rfl

theorem feed?_eq (kept : Kept p s seen) (chunk : List UInt8) : feed? p s chunk = some (feed p s chunk) := by
  unfold feed? feed
  split
  · rfl
  · rw [feedLiterals?_eq kept, feedRegexes?_eq kept]
    rfl

theorem finish?_eq (kept : Kept p s seen) : finish? p s = some (finish p s) := by
  unfold finish? finish
  split
  · rfl
  · rename_i some
    have present : p.regexes ≠ [] := by
      intro none
      simp [none] at some
    rw [commit?_eq (Nat.le_refl _) fun place member => (kept.cursors present place member).1]
    rfl

/-- Whatever is done with a context, it stands for the bytes fed since the last stream ended: it carries the last
of them for literals and holds back the last of them for expressions, each of which is searched for from a place
among those held back. What it keeps is bounded by the program alone. The next chunk and the end of the stream are
searched without a difference below zero and without a slice out of range. -/
theorem context_represents (built : p.Built) (history : List Action) :
    let s := history.foldl (Action.apply p) {}
    Represents p s (fed history) ∧ Small p s ∧
      (∀ chunk, feed? p s chunk = some (feed p s chunk) ∧
        (s.tail ++ chunk).length ≤ p.literalLength - 1 + chunk.length) ∧
      finish? p s = some (finish p s) := by
  intro s
  have kept : Kept p s (fed history) := kept_foldl built (kept_empty p) history
  refine ⟨kept.represents, kept.small, fun chunk => ⟨feed?_eq kept chunk, ?_⟩, finish?_eq kept⟩
  rw [List.length_append]
  exact Nat.add_le_add_right kept.small.tail _

/-- An expression without a bound, of whose matches two bytes are waited for, beside a literal. -/
def heldBack : Program where
  entries :=
    [⟨⟨0, "a+b", "ASCII", 2⟩, .regex runs⟩, ⟨⟨1, "bcd", "ASCII", 3⟩, .literal ⟨[98, 99, 100], false⟩⟩]
  window := 2

/-- A second stream that has not ended. -/
def halfFed : State :=
  [.feed [120], .finish, .feed [120, 97, 97], .feed [98, 99, 97, 97, 98, 99]].foldl (Action.apply heldBack) {}

theorem halfFed_represents :
    halfFed.tail = [98, 99] ∧ halfFed.base = 3 ∧ halfFed.pending = [98, 99, 97, 97, 98, 99] ∧
      Represents heldBack halfFed [120, 97, 97, 98, 99, 97, 97, 98, 99] ∧
      feed? heldBack halfFed [100] = some (feed heldBack halfFed [100]) := by
  have built : heldBack.Built :=
    .addAll [⟨"a+b", false, false, "ASCII"⟩, ⟨"bcd", false, false, "ASCII"⟩] (.resize 2 .empty)
      (Program.eq_ok_of_toOption (by decide +kernel))
  obtain ⟨represents, -, next, -⟩ := context_represents built
    [.feed [120], .finish, .feed [120, 97, 97], .feed [98, 99, 97, 97, 98, 99]]
  exact ⟨by decide +kernel, by decide +kernel, by decide +kernel, represents, (next [100]).1⟩

end Triage.Search
