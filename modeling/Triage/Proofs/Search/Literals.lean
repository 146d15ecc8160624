import Mathlib.Data.List.Permutation
import Mathlib.Data.List.Sort
import Triage.Proofs.Search.Program
import Triage.Search.Stream

/-! Literals in a stream. The carried bytes are the last ones of the stream, one fewer than the longest
literal has, so every literal that ends in a chunk lies in the carried bytes and the chunk together,
and one that ended before is told by where it ends. -/

namespace Triage

namespace LiteralPattern

/-- The bytes of the literal, up to the case of ASCII letters where it ignores case. -/
def Spells (l : LiteralPattern) (word : List UInt8) : Prop :=
  if l.nocase then word.map foldCase = l.bytes.map foldCase else word = l.bytes

theorem Spells.length_eq {l : LiteralPattern} {word : List UInt8} (spelled : l.Spells word) :
    word.length = l.bytes.length := by
  unfold Spells at spelled
  split at spelled
  · simpa using congrArg List.length spelled
  · rw [spelled]

theorem startsAt_iff (l : LiteralPattern) (bytes text : List UInt8) :
    l.startsAt bytes text ↔
      if l.nocase then (text.take bytes.length).map foldCase = bytes.map foldCase
      else text.take bytes.length = bytes := by
  induction bytes generalizing text with
  | nil => simp [startsAt]
  | cons b bytes ih =>
    cases text with
    | nil => simp [startsAt]
    | cons c text =>
      rw [startsAt, Bool.and_eq_true, ih text, equalByte]
      cases l.nocase <;> simp <;> exact fun _ => eq_comm

theorem startsAt_iff_spells (l : LiteralPattern) (text : List UInt8) :
    l.startsAt l.bytes text ↔ l.Spells (text.take l.bytes.length) :=
  startsAt_iff l l.bytes text

end LiteralPattern

namespace Search

def Hit.Precedes (a b : Hit) : Prop :=
  a.stop < b.stop ∨ a.stop = b.stop ∧
    (a.start < b.start ∨ a.start = b.start ∧ a.pattern < b.pattern)

instance : Std.Irrefl Hit.Precedes := ⟨fun h => by simp [Hit.Precedes]⟩

instance : Std.Asymm Hit.Precedes := ⟨fun a b => by unfold Hit.Precedes; omega⟩

theorem Hit.eq_of_parts {a b : Hit} (start : a.start = b.start) (stop : a.stop = b.stop)
    (pattern : a.pattern = b.pattern) : a = b := by
  cases a
  cases b
  simp_all

theorem sort_perm (hits : List Hit) : (Hit.sort hits).Perm hits := List.mergeSort_perm _ _

theorem ordered_sort (hits : List Hit) : (Hit.sort hits).Pairwise fun a b => Hit.before a b :=
  List.pairwise_mergeSort
    (fun a b c first second => by
      simp only [Hit.before, Bool.or_eq_true, Bool.and_eq_true, decide_eq_true_eq] at *
      omega)
    (fun a b => by
      simp only [Hit.before, Bool.or_eq_true, Bool.and_eq_true, decide_eq_true_eq]
      omega) _

theorem pairwise_sort {hits : List Hit} (distinct : hits.Nodup) :
    (Hit.sort hits).Pairwise Hit.Precedes := by
  have apart : (Hit.sort hits).Pairwise (· ≠ ·) := (sort_perm hits).nodup_iff.mpr distinct
  refine ((ordered_sort hits).and apart).imp fun {a b} both => ?_
  obtain ⟨before, different⟩ := both
  simp only [Hit.before, Bool.or_eq_true, Bool.and_eq_true, decide_eq_true_eq] at before
  unfold Hit.Precedes
  by_contra wrong
  exact different (Hit.eq_of_parts (by omega) (by omega) (by omega))

/-! ## One text -/

/-- A literal of the program stands at the place of the hit. -/
def Occurs (p : Program) (stream : List UInt8) (h : Hit) : Prop :=
  ∃ l, p.Has h.pattern (.literal l) ∧ h.start ≤ h.stop ∧ h.stop ≤ stream.length ∧
    l.Spells (stream.extract h.start h.stop)

theorem mem_literalsAt {literals : List (LiteralPattern × Nat)} {pos : Nat} {text : List UInt8}
    {h : Hit} :
    h ∈ literalsAt literals pos text ↔ ∃ l, (l, h.pattern) ∈ literals ∧ h.start = pos ∧
      h.stop = pos + l.bytes.length ∧ l.startsAt l.bytes text := by
  rw [literalsAt, List.mem_filterMap]
  constructor
  · intro found
    obtain ⟨⟨l, i⟩, member, found⟩ := found
    simp only [Option.ite_none_right_eq_some, Option.some.injEq] at found
    obtain ⟨starts, rfl⟩ := found
    exact ⟨l, member, rfl, rfl, starts⟩
  · intro found
    obtain ⟨l, member, start, stop, starts⟩ := found
    refine ⟨(l, h.pattern), member, ?_⟩
    simp only [starts, if_true, Option.some.injEq]
    exact Hit.eq_of_parts start.symm stop.symm rfl

theorem mem_literalHits {literals : List (LiteralPattern × Nat)}
    (bytes : ∀ l ∈ literals, l.1.bytes ≠ []) {pos : Nat} {text : List UInt8} {h : Hit} :
    h ∈ literalHits literals pos text ↔ ∃ l, (l, h.pattern) ∈ literals ∧ pos ≤ h.start ∧
      h.stop = h.start + l.bytes.length ∧ l.startsAt l.bytes (text.drop (h.start - pos)) := by
  induction text generalizing pos with
  | nil =>
    simp only [literalHits, List.not_mem_nil, List.drop_nil, false_iff]
    intro found
    obtain ⟨l, member, _, _, starts⟩ := found
    cases some : l.bytes with
    | nil => exact bytes _ member some
    | cons b rest => simp [some, LiteralPattern.startsAt] at starts
  | cons b text ih =>
    rw [literalHits, List.mem_append, mem_literalsAt, ih]
    constructor
    · intro found
      rcases found with ⟨l, member, start, stop, starts⟩ | ⟨l, member, after, stop, starts⟩
      · exact ⟨l, member, by omega, by omega, by simpa [start] using starts⟩
      · refine ⟨l, member, by omega, stop, ?_⟩
        rwa [show h.start - pos = h.start - (pos + 1) + 1 by omega, List.drop_succ_cons]
    · intro found
      obtain ⟨l, member, after, stop, starts⟩ := found
      by_cases here : h.start = pos
      · exact .inl ⟨l, member, here, by omega, by simpa [here] using starts⟩
      · refine .inr ⟨l, member, by omega, stop, ?_⟩
        rwa [show h.start - pos = h.start - (pos + 1) + 1 by omega, List.drop_succ_cons] at starts

theorem nodup_literalHits {literals : List (LiteralPattern × Nat)}
    (apart : literals.Pairwise fun a b => a.2 < b.2) (bytes : ∀ l ∈ literals, l.1.bytes ≠ [])
    (pos : Nat) (text : List UInt8) : (literalHits literals pos text).Nodup := by
  induction text generalizing pos with
  | nil => exact List.nodup_nil
  | cons b text ih =>
    have here : (literalsAt literals pos (b :: text)).Nodup := by
      apply apart.filterMap
      intro x y less h first k second
      grind
    refine List.nodup_append'.mpr ⟨here, ih (pos + 1), ?_⟩
    intro h first later
    obtain ⟨_, _, start, _⟩ := mem_literalsAt.mp first
    obtain ⟨_, _, after, _⟩ := (mem_literalHits bytes).mp later
    omega

theorem Program.Built.bytes {p : Program} (built : p.Built) : ∀ l ∈ p.literals, l.1.bytes ≠ [] :=
  fun _ member => built.sound_of_has (Program.mem_literals.mp member)

theorem mem_literalHits_drop {p : Program} (built : p.Built) {stream : List UInt8} {pos : Nat}
    {h : Hit} :
    h ∈ literalHits p.literals pos (stream.drop pos) ↔ Occurs p stream h ∧ pos ≤ h.start := by
  rw [mem_literalHits built.bytes]
  constructor
  · intro found
    obtain ⟨l, member, after, stop, starts⟩ := found
    rw [List.drop_drop, Nat.add_sub_cancel' after, LiteralPattern.startsAt_iff_spells] at starts
    have length := starts.length_eq
    have some : 0 < l.bytes.length := List.length_pos_iff.mpr (built.bytes _ member)
    rw [List.length_take, List.length_drop] at length
    refine ⟨⟨l, Program.mem_literals.mp member, by omega, by omega, ?_⟩, after⟩
    rw [List.extract_eq_take_drop, show h.stop - h.start = l.bytes.length by omega]
    exact starts
  · intro found
    obtain ⟨⟨l, has, order, fits, spelled⟩, after⟩ := found
    have length := spelled.length_eq
    rw [List.extract_eq_take_drop] at spelled length
    rw [List.length_take, List.length_drop] at length
    refine ⟨l, Program.mem_literals.mpr has, after, by omega, ?_⟩
    rw [List.drop_drop, Nat.add_sub_cancel' after, LiteralPattern.startsAt_iff_spells,
      show l.bytes.length = h.stop - h.start by omega]
    exact spelled

/-- What occurs up to a place is told by the bytes up to there. -/
theorem occurs_append {p : Program} {seen : List UInt8} (rest : List UInt8) {h : Hit}
    (before : h.stop ≤ seen.length) : Occurs p (seen ++ rest) h ↔ Occurs p seen h := by
  have same : (seen ++ rest).extract h.start h.stop = seen.extract h.start h.stop := by
    simp only [List.extract_eq_take_drop, List.drop_append, List.take_append, List.length_drop]
    rw [show h.stop - h.start - (seen.length - h.start) = 0 by omega, List.take_zero,
      List.append_nil]
  have fits : h.stop ≤ (seen ++ rest).length := by
    rw [List.length_append]
    omega
  simp only [Occurs, same, before, fits]

theorem Occurs.start_lt {p : Program} (built : p.Built) {stream : List UInt8} {h : Hit}
    (occurs : Occurs p stream h) : h.start < h.stop := by
  obtain ⟨l, has, order, fits, spelled⟩ := occurs
  have some : 0 < l.bytes.length :=
    List.length_pos_iff.mpr (built.bytes _ (Program.mem_literals.mpr has))
  have length := spelled.length_eq
  rw [List.extract_eq_take_drop, List.length_take] at length
  omega

theorem Occurs.length_le {p : Program} {stream : List UInt8} {h : Hit}
    (occurs : Occurs p stream h) : h.stop - h.start ≤ p.literalLength := by
  obtain ⟨l, has, order, fits, spelled⟩ := occurs
  have least := Program.le_literalLength (Program.mem_literals.mpr has)
  have length := spelled.length_eq
  rw [List.extract_eq_take_drop, List.length_take, List.length_drop] at length
  omega

/-! ## The carried bytes -/

/-- Where the carried bytes begin. -/
def Program.carriedFrom (p : Program) (seen : List UInt8) : Nat :=
  seen.length - (p.literalLength - 1)

/-- The state knows how much of the stream it has seen and carries its last bytes. -/
structure Carries (p : Program) (s : State) (seen : List UInt8) : Prop where
  offset : s.offset = seen.length
  tail : p.literals ≠ [] → s.tail = seen.drop (p.carriedFrom seen)

theorem carries_empty (p : Program) : Carries p {} [] := ⟨rfl, fun _ => by simp⟩

/-- The literals of a chunk are those that end in it. -/
theorem feedLiterals_spec {p : Program} (built : p.Built) {s : State} {seen : List UInt8}
    (carries : Carries p s seen) (chunk : List UInt8) :
    (∀ h, h ∈ (feedLiterals p s chunk).1 ↔ Occurs p (seen ++ chunk) h ∧ seen.length < h.stop) ∧
      (feedLiterals p s chunk).1.Nodup ∧
      (p.literals ≠ [] → (feedLiterals p s chunk).2 =
        (seen ++ chunk).drop (p.carriedFrom (seen ++ chunk))) := by
  unfold feedLiterals
  by_cases none : p.literals = []
  · simp only [none, List.isEmpty_nil, if_true]
    refine ⟨fun h => ?_, List.nodup_nil, by simp⟩
    simp only [List.not_mem_nil, false_iff, not_and]
    intro found
    obtain ⟨l, has, _⟩ := found
    simpa [none] using Program.mem_literals.mpr has
  · rw [if_neg (by simpa using none)]
    have bound : p.carriedFrom seen ≤ seen.length := Nat.sub_le _ _
    have text : s.tail ++ chunk = (seen ++ chunk).drop (p.carriedFrom seen) := by
      rw [carries.tail none, List.drop_append_of_le_length bound]
    have start : seen.length - s.tail.length = p.carriedFrom seen := by
      rw [carries.tail none, List.length_drop]
      omega
    simp only [text, carries.offset, start]
    refine ⟨fun h => ?_, ?_, fun _ => ?_⟩
    · rw [List.mem_filter, mem_literalHits_drop built, decide_eq_true_eq]
      constructor
      · intro found
        obtain ⟨⟨occurs, _⟩, ends⟩ := found
        exact ⟨occurs, ends⟩
      · intro found
        obtain ⟨occurs, ends⟩ := found
        have first := occurs.start_lt built
        have long := occurs.length_le
        exact ⟨⟨occurs, by unfold Program.carriedFrom; omega⟩, ends⟩
    · exact (nodup_literalHits (Program.pairwise_literals p) built.bytes _ _).filter _
    · rw [List.drop_drop, List.length_drop]
      congr 1
      simp only [Program.carriedFrom, List.length_append]
      omega

theorem feedRegexes_offset (p : Program) (s : State) (chunk : List UInt8) :
    (feedRegexes p s chunk).2.offset = s.offset := by
  unfold feedRegexes
  split
  · rfl
  · simp only
    split <;> rfl

/-- What a chunk gives: the literals that end in it beside the hits of expressions. -/
theorem feed_perm (p : Program) (s : State) (chunk : List UInt8) :
    (feed p s chunk).1.Perm (if chunk.isEmpty then []
      else (feedLiterals p s chunk).1 ++ (feedRegexes p s chunk).1) := by
  unfold feed
  split
  · exact List.Perm.refl _
  · exact sort_perm _

theorem carries_feed {p : Program} (built : p.Built) {s : State} {seen : List UInt8}
    (carries : Carries p s seen) (chunk : List UInt8) :
    Carries p (feed p s chunk).2 (seen ++ chunk) := by
  unfold feed
  split
  · rename_i none
    rwa [List.isEmpty_iff.mp none, List.append_nil]
  · refine ⟨?_, (feedLiterals_spec built carries chunk).2.2⟩
    simp [feedRegexes_offset, carries.offset]

/-! ## Streams of literals -/

/-- What a caller does with a context. -/
inductive Action
  | feed (chunk : List UInt8)
  | finish
  | reset

namespace Action

def apply (p : Program) (s : State) : Action → State
  | .feed chunk => (Search.feed p s chunk).2
  | .finish => (close p s).2.2
  | .reset => {}

/-- Whether the next stream can begin. -/
def ends : Action → Bool
  | .feed _ => false
  | .finish | .reset => true

theorem foldl_apply_of_ends (p : Program) {history : List Action}
    (clean : history.getLast?.all ends) : history.foldl (apply p) {} = {} := by
  cases last : history.getLast? with
  | none => rw [List.getLast?_eq_none_iff.mp last, List.foldl_nil]
  | some action =>
    obtain ⟨front, rfl⟩ := List.getLast?_eq_some_iff.mp last
    rw [List.foldl_append, List.foldl_cons, List.foldl_nil]
    cases action with
    | feed chunk => simp [ends] at clean
    | finish => rfl
    | reset => rfl

end Action

def bytesBefore (chunks : List (List UInt8)) (k : Nat) : Nat := (chunks.take k).flatten.length

section literals
variable {p : Program}

theorem feed_literals (built : p.Built) (plain : p.regexes = []) {s : State} {seen : List UInt8}
    (carries : Carries p s seen) (chunk : List UInt8) :
    (feed p s chunk).1.Pairwise Hit.Precedes ∧
      ∀ h, h ∈ (feed p s chunk).1 ↔ Occurs p (seen ++ chunk) h ∧ seen.length < h.stop := by
  unfold feed
  split
  · rename_i none
    refine ⟨.nil, fun h => ?_⟩
    simp only [List.not_mem_nil, List.isEmpty_iff.mp none, List.append_nil, false_iff, not_and,
      Nat.not_lt]
    intro found
    obtain ⟨_, _, _, fits, _⟩ := found
    exact fits
  · obtain ⟨members, distinct, _⟩ := feedLiterals_spec built carries chunk
    have only : (feedRegexes p s chunk).1 = [] := by simp [feedRegexes, plain]
    simp only [only, List.append_nil]
    exact ⟨pairwise_sort distinct, fun h => (sort_perm _).mem_iff.trans (members h)⟩

/-- Each chunk gives the literals that end in it. -/
theorem feedAll_spec (built : p.Built) (plain : p.regexes = []) {s : State} {seen : List UInt8}
    (carries : Carries p s seen) (chunks : List (List UInt8)) :
    (feedAll p s chunks).1.length = chunks.length ∧
    (∀ k found, (feedAll p s chunks).1[k]? = some found → found.Pairwise Hit.Precedes ∧
      ∀ h, h ∈ found ↔ Occurs p (seen ++ chunks.flatten) h ∧
        seen.length + bytesBefore chunks k < h.stop ∧
        h.stop ≤ seen.length + bytesBefore chunks (k + 1)) ∧
    Carries p (feedAll p s chunks).2 (seen ++ chunks.flatten) := by
  induction chunks generalizing s seen with
  | nil => exact ⟨rfl, by simp [feedAll], by simpa [feedAll] using carries⟩
  | cons chunk chunks ih =>
    obtain ⟨length, each, last⟩ := ih (carries_feed built carries chunk)
    obtain ⟨sorted, members⟩ := feed_literals built plain carries chunk
    refine ⟨by simpa [feedAll] using length, fun k found here => ?_, by simpa [feedAll] using last⟩
    cases k with
    | zero =>
      obtain rfl : (feed p s chunk).1 = found := by simpa [feedAll] using here
      refine ⟨sorted, fun h => ?_⟩
      rw [members, List.flatten_cons, ← List.append_assoc]
      simp only [bytesBefore, List.take_zero, List.flatten_nil, List.length_nil, Nat.add_zero,
        List.take_succ_cons, List.flatten_cons, List.append_nil]
      constructor
      · intro found
        obtain ⟨occurs, after⟩ := found
        obtain ⟨_, _, _, fits, _⟩ := id occurs
        have inside := fits
        rw [List.length_append] at inside
        exact ⟨(occurs_append _ fits).mpr occurs, after, inside⟩
      · intro found
        obtain ⟨occurs, after, inside⟩ := found
        refine ⟨(occurs_append chunks.flatten ?_).mp occurs, after⟩
        simpa using inside
    | succ k =>
      obtain ⟨ordered, others⟩ := each k found (by simpa [feedAll] using here)
      refine ⟨ordered, fun h => ?_⟩
      rw [others, List.flatten_cons, List.append_assoc]
      simp [bytesBefore, Nat.add_assoc]

/-- All chunks together give every literal after the bytes seen before, in order. -/
theorem feedAll_flatten (built : p.Built) (plain : p.regexes = []) {s : State} {seen : List UInt8}
    (carries : Carries p s seen) (chunks : List (List UInt8)) :
    (feedAll p s chunks).1.flatten.Pairwise Hit.Precedes ∧
      ∀ h, h ∈ (feedAll p s chunks).1.flatten ↔
        Occurs p (seen ++ chunks.flatten) h ∧ seen.length < h.stop := by
  induction chunks generalizing s seen with
  | nil =>
    refine ⟨.nil, fun h => ?_⟩
    simp only [feedAll, List.flatten_nil, List.not_mem_nil, List.append_nil, false_iff, not_and,
      Nat.not_lt]
    intro found
    obtain ⟨_, _, _, fits, _⟩ := found
    exact fits
  | cons chunk chunks ih =>
    obtain ⟨sorted, members⟩ := feed_literals built plain carries chunk
    obtain ⟨later, others⟩ := ih (carries_feed built carries chunk)
    have within {h : Hit} (occurs : Occurs p (seen ++ chunk) h) :
        h.stop ≤ (seen ++ chunk).length := by
      obtain ⟨_, _, _, fits, _⟩ := occurs
      exact fits
    simp only [feedAll, List.flatten_cons]
    refine ⟨List.pairwise_append.mpr ⟨sorted, later, fun a first b second => ?_⟩, fun h => ?_⟩
    · have := within ((members a).mp first).1
      have := ((others b).mp second).2
      exact .inl (by omega)
    · rw [List.mem_append, members, others, ← List.append_assoc]
      constructor
      · intro found
        rcases found with ⟨occurs, after⟩ | ⟨occurs, after⟩
        · exact ⟨(occurs_append _ (within occurs)).mpr occurs, after⟩
        · exact ⟨occurs, by simp only [List.length_append] at after; omega⟩
      · intro found
        obtain ⟨occurs, after⟩ := found
        by_cases here : h.stop ≤ (seen ++ chunk).length
        · exact .inl ⟨(occurs_append _ here).mp occurs, after⟩
        · exact .inr ⟨occurs, by omega⟩

/-- A program of literals reports with each chunk exactly the literals that end in it, in order, and
nothing when the stream ends. The hits of a stream are the same however it is cut into chunks. -/
theorem literals_streamed (built : p.Built)
    (literal : ∀ index c, p.Has index c → ∃ l, c = .literal l) (history : List Action)
    (clean : history.getLast?.all Action.ends) (chunks : List (List UInt8)) :
    let s := history.foldl (Action.apply p) {}
    let hits := (feedAll p s chunks).1
    hits.length = chunks.length ∧
    (∀ k found, hits[k]? = some found → found.Pairwise Hit.Precedes ∧
      ∀ h, h ∈ found ↔ Occurs p chunks.flatten h ∧
        bytesBefore chunks k < h.stop ∧ h.stop ≤ bytesBefore chunks (k + 1)) ∧
    close p (feedAll p s chunks).2 = ([], chunks.flatten.length, {}) ∧
    ∀ others : List (List UInt8), others.flatten = chunks.flatten →
      (feedAll p s others).1.flatten = hits.flatten := by
  have plain : p.regexes = [] := by
    apply List.eq_nil_iff_forall_not_mem.mpr
    intro r member
    obtain ⟨l, wrong⟩ := literal r.2 _ (Program.mem_regexes.mp member)
    nomatch wrong
  have start := carries_empty p
  simp only [Action.foldl_apply_of_ends p clean]
  obtain ⟨length, each, last⟩ := feedAll_spec built plain start chunks
  refine ⟨length, by simpa using each, ?_, fun others same => ?_⟩
  · have total := last.offset
    simp [close, finish, plain, total]
  · obtain ⟨sorted, members⟩ := feedAll_flatten built plain start chunks
    obtain ⟨sorted', members'⟩ := feedAll_flatten built plain start others
    apply sorted'.eq_of_mem_iff sorted
    intro h
    rw [members, members', same]

end literals

/-- A literal whose last byte is another one, which ignores case. -/
def nestedLiterals : Program where
  entries := [⟨⟨0, "ab", "ASCII", 2⟩, .literal ⟨[97, 98], false⟩⟩,
    ⟨⟨1, "B", "ASCII", 1⟩, .literal ⟨[66], true⟩⟩]

theorem built_nestedLiterals : nestedLiterals.Built :=
  .addAll [⟨"ab", false, false, "ASCII"⟩, ⟨"B", true, false, "ASCII"⟩] .empty
    (Program.eq_ok_of_toOption (by decide +kernel))

theorem nestedLiterals_streamed :
    (feedAll nestedLiterals {} [[97], [], [66, 97], [98]]).1 =
        [[], [], [⟨1, 2, 1⟩], [⟨2, 4, 0⟩, ⟨3, 4, 1⟩]] ∧
      (feedAll nestedLiterals {} [[97, 66, 97, 98]]).1.flatten =
        (feedAll nestedLiterals {} [[97], [], [66, 97], [98]]).1.flatten := by
  refine ⟨by cbv, ?_⟩
  have literal : ∀ index c, nestedLiterals.Has index c → ∃ l, c = .literal l := by
    intro index c found
    obtain ⟨e, found, rfl⟩ := found
    have member := List.mem_of_getElem? found
    simp only [nestedLiterals, List.mem_cons, List.not_mem_nil, or_false] at member
    rcases member with rfl | rfl <;> exact ⟨_, rfl⟩
  exact (literals_streamed built_nestedLiterals literal [.feed [97], .finish] rfl
    [[97], [], [66, 97], [98]]).2.2.2 _ rfl

end Search

end Triage
