import Triage.Proofs.Search.Exact

/-! A pattern in two programs. The patterns beside it decide how much of a stream a program keeps, and
so when hits are reported. Which hits are reported of the pattern they do not decide: a match that the
program is sure to wait for is exact in both, and any other makes both wait for the whole window. -/

namespace Triage.Search
open Regex

def spansOf (index : Nat) (hits : List Hit) : List (Nat × Nat) :=
  (hits.filter (·.pattern = index)).map fun h => (h.start, h.stop)

theorem spansOf_perm (index : Nat) {hits others : List Hit} (perm : hits.Perm others) :
    (spansOf index hits).Perm (spansOf index others) :=
  (perm.filter _).map _

/-! ## Stretches of patterns -/

/-- The hits of a stretch of patterns, by their places in the stretch. -/
def within (base count : Nat) (hits : List Hit) : List Hit :=
  (hits.filter fun h => base ≤ h.pattern ∧ h.pattern < base + count).map
    fun h => { h with pattern := h.pattern - base }

theorem filter_within (base count place : Nat) (hits : List Hit) :
    (within base count hits).filter (·.pattern = place) =
      if place < count then (spansOf (base + place) hits).map (Hit.ofSpan place) else [] := by
  rw [within, List.filter_map, List.filter_filter]
  split
  · rename_i inside
    rw [spansOf, List.map_map]
    have same : hits.filter (fun h => ((fun h : Hit => decide (h.pattern = place)) ∘
        fun h : Hit => { h with pattern := h.pattern - base }) h &&
          decide (base ≤ h.pattern ∧ h.pattern < base + count)) =
        hits.filter (·.pattern = base + place) := by
      apply List.filter_congr
      intro h _
      simp only [Function.comp_apply, ← Bool.decide_and]
      exact decide_eq_decide.mpr (by omega)
    rw [same]
    apply List.map_congr_left
    intro h member
    have own := (List.mem_filter.mp member).2
    rw [decide_eq_true_eq] at own
    simp only [Function.comp_apply, Hit.ofSpan, own, Nat.add_sub_cancel_left]
  · rename_i outside
    rw [List.map_eq_nil_iff, List.filter_eq_nil_iff]
    intro h _
    simp only [Function.comp_apply, ← Bool.decide_and, decide_eq_true_eq]
    omega

theorem within_perm {base other count : Nat} {hits others : List Hit}
    (each : ∀ place < count,
      (spansOf (base + place) hits).Perm (spansOf (other + place) others)) :
    (within base count hits).Perm (within other count others) := by
  apply perm_of_filters
  intro h _
  rw [filter_within, filter_within]
  split
  · rename_i inside
    exact (each _ inside).map _
  · exact List.Perm.refl _

/-! ## Expressions -/

/-- The place in the program is written to the hits and does nothing else. -/
theorem regexHits_index (s : State) (committed : Nat) (r : RegexPattern) (i j resume : Nat) :
    (regexHits s committed (r, i) resume).1 =
        (regexHits s committed (r, j) resume).1.map ({ · with pattern := i }) ∧
      (regexHits s committed (r, i) resume).2 = (regexHits s committed (r, j) resume).2 := by
  simp [regexHits]

theorem single_index (overlap : Nat) (r : RegexPattern) (i j : Nat) (seen : List UInt8)
    (resume : Nat) (chunks : List (List UInt8)) :
    single overlap (r, i) seen resume chunks =
      (single overlap (r, j) seen resume chunks).map ({ · with pattern := i }) := by
  induction chunks generalizing seen resume with
  | nil => exact (regexHits_index _ _ r i j resume).1
  | cons chunk chunks ih =>
    obtain ⟨hits, place⟩ := regexHits_index (buffered overlap seen chunk)
      (horizon overlap (seen ++ chunk) - keptFrom overlap seen) r i j resume
    rw [single, single]
    split
    · exact ih seen resume
    · rw [advance, advance, hits, place, ih, List.map_append]

private theorem spansOf_single (overlap : Nat) (r : RegexPattern) (i : Nat) (chunks : List (List UInt8)) :
    spansOf i (single overlap (r, i) [] 0 chunks) =
      (single overlap (r, 0) [] 0 chunks).map fun h => (h.start, h.stop) := by
  have all : (single overlap (r, i) [] 0 chunks).filter (·.pattern = i) =
      single overlap (r, i) [] 0 chunks := by
    rw [single_index overlap r i 0]
    apply List.filter_eq_self.mpr
    intro h member
    obtain ⟨_, _, rfl⟩ := List.mem_map.mp member
    simp
  rw [spansOf, all, single_index overlap r i 0, List.map_map]
  rfl

/-- The hits of an expression depend on the program by the overlap only. -/
theorem spansOf_own {p : Program} (built : p.Built) {index : Nat} {r : RegexPattern}
    (has : p.Has index (.regex r)) (chunks : List (List UInt8)) :
    (spansOf index (streamed p chunks)).Perm
      ((single p.overlap (r, 0) [] 0 chunks).map fun h => (h.start, h.stop)) := by
  rw [← spansOf_single p.overlap r index chunks]
  have hits := spansOf_perm index (filter_streamed built has chunks)
  have again : spansOf index ((streamed p chunks).filter (·.pattern = index)) =
      spansOf index (streamed p chunks) := by
    simp only [spansOf, List.filter_filter, Bool.and_self]
  rwa [again] at hits

theorem Program.overlap_le (p : Program) : p.overlap ≤ p.window := by
  have bounded (ns : List Nat) (start : Nat) (low : start ≤ p.window)
      (each : ∀ n ∈ ns, n ≤ p.window) : ns.foldl max start ≤ p.window := by
    induction ns generalizing start with
    | nil => exact low
    | cons n ns ih =>
      obtain ⟨first, others⟩ := List.forall_mem_cons.mp each
      exact ih (max start n) (Nat.max_le.mpr ⟨low, first⟩) others
  apply bounded _ 0 (Nat.zero_le _)
  intro n member
  obtain ⟨r, _, rfl⟩ := List.mem_map.mp member
  exact Nat.min_le_right _ _

/-- A program that has to wait for the window keeps as much as the window has. -/
theorem Program.overlap_eq {p : Program} {index : Nat} {r : RegexPattern}
    (has : p.Has index (.regex r)) (waits : Program.waitFor p.window r.longest = p.window) :
    p.overlap = p.window :=
  Nat.le_antisymm p.overlap_le (waits ▸ Program.le_overlap (Program.mem_regexes.mpr has))

theorem spansOf_regex {p : Program} (built : p.Built) {index n : Nat} {r : RegexPattern}
    (has : p.Has index (.regex r)) (wordless : ∀ unicode edge, .word unicode edge ∉ r.expr.looks)
    (longest : r.longest = some n) (window : n ≤ p.window) (chunks : List (List UInt8)) :
    (spansOf index (streamed p chunks)).Perm (r.expr.spans chunks.flatten) := by
  have hits := filter_streamed built has chunks
  rw [single_of_short built has wordless chunks fun span member => span_le_waitFor
    (built.sound_of_has has) member ((span_le_longest (built.sound_of_has has) longest member).trans window)]
    at hits
  have spans := hits.map fun h => (h.start, h.stop)
  rw [List.map_map] at spans
  exact spans.trans (List.Perm.of_eq (List.map_id _))

/-! ## Literals -/

theorem spansOf_literal {p : Program} (built : p.Built) {index : Nat} {l : LiteralPattern}
    (has : p.Has index (.literal l)) (chunks : List (List UInt8)) :
    (spansOf index (streamed p chunks)).Nodup ∧
      ∀ start stop, (start, stop) ∈ spansOf index (streamed p chunks) ↔
        start ≤ stop ∧ stop ≤ chunks.flatten.length ∧
          l.Spells (chunks.flatten.extract start stop) := by
  obtain ⟨literals, regexes, perm, distinct, occurs, kind⟩ := streamed_parts built chunks
  have quiet : regexes.filter (·.pattern = index) = [] := by
    apply List.filter_eq_nil_iff.mpr
    intro h member
    obtain ⟨r, regex⟩ := kind h member
    rw [decide_eq_true_eq]
    intro same
    have wrong := has.unique (same ▸ regex)
    nomatch wrong
  have found : (spansOf index (streamed p chunks)).Perm (spansOf index literals) := by
    have none : spansOf index (literals ++ regexes) = spansOf index literals := by
      rw [spansOf, List.filter_append, quiet, List.append_nil, spansOf]
    exact none ▸ spansOf_perm index perm
  constructor
  · refine found.nodup_iff.mpr (List.Nodup.map_on ?_ (distinct.filter _))
    intro a first b second same
    have own := (List.mem_filter.mp first).2
    have other := (List.mem_filter.mp second).2
    rw [decide_eq_true_eq] at own other
    obtain ⟨start, stop⟩ := Prod.mk.inj same
    exact Hit.eq_of_parts start stop (own.trans other.symm)
  · intro start stop
    rw [found.mem_iff, spansOf, List.mem_map]
    constructor
    · intro member
      obtain ⟨h, member, same⟩ := member
      obtain ⟨rfl, rfl⟩ := Prod.mk.inj same
      obtain ⟨inside, own⟩ := List.mem_filter.mp member
      obtain ⟨l', literal, order, fits, spelled⟩ := (occurs h).mp inside
      rw [decide_eq_true_eq] at own
      have same := CompiledPattern.literal.inj (has.unique (own ▸ literal))
      exact ⟨order, fits, same ▸ spelled⟩
    · intro spelled
      refine ⟨⟨start, stop, index⟩, List.mem_filter.mpr ⟨?_, by simp⟩, rfl⟩
      exact (occurs _).mpr ⟨l, has, spelled⟩

/-! ## Both programs -/

/-- What a stream gives of a pattern does not depend on the patterns beside it, nor on its place. -/
theorem spansOf_streamed {p q : Program} (built : p.Built) (other : q.Built)
    (window : p.window = q.window) {i j : Nat} {c : CompiledPattern} (has : p.Has i c)
    (again : q.Has j c)
    (wordless : ∀ r, c = .regex r → ∀ unicode edge, .word unicode edge ∉ r.expr.looks)
    (chunks : List (List UInt8)) :
    (spansOf i (streamed p chunks)).Perm (spansOf j (streamed q chunks)) := by
  cases c with
  | literal l =>
    obtain ⟨distinct, member⟩ := spansOf_literal built has chunks
    obtain ⟨distinct', member'⟩ := spansOf_literal other again chunks
    apply (List.perm_ext_iff_of_nodup distinct distinct').mpr
    intro span
    rw [member, member']
  | regex r =>
    by_cases short : ∃ n, r.longest = some n ∧ n ≤ p.window
    · obtain ⟨n, longest, fits⟩ := short
      have words := wordless r rfl
      have one := spansOf_regex built has words longest fits chunks
      exact one.trans (spansOf_regex other again words longest (window ▸ fits) chunks).symm
    · have waits : Program.waitFor p.window r.longest = p.window := by
        unfold Program.waitFor
        cases longest : r.longest with
        | none => exact Nat.min_self _
        | some n =>
          have long : ¬ n ≤ p.window := fun fits => short ⟨n, longest, fits⟩
          rw [Option.getD_some]
          omega
      have overlap := Program.overlap_eq has waits
      have overlap' : q.overlap = p.window := by
        rw [window] at waits ⊢
        exact Program.overlap_eq again waits
      have one := spansOf_own built has chunks
      have two := spansOf_own other again chunks
      rw [overlap] at one
      rw [overlap'] at two
      exact one.trans two.symm

end Triage.Search
