import Triage.Proofs.Pattern.Compile
import Triage.Proofs.Regex.Ends
import Triage.Search.Stream

/-! A pass over a text as a relation: which matches it gives, and where it goes on. The search of a
buffer up to a limit and the search of a whole text are passes, a pass can be interrupted at any limit
and taken up again, and it depends on the ends of the matches that it comes to only. -/

namespace Triage.Search
open Regex

/-- The matches that start before the limit, each searched for from where the last one ended, and the
place from which the search goes on. -/
inductive Pass (ends : Nat → Option Nat) (limit : Nat) : Nat → List (Nat × Nat) → Nat → Prop
  | done (pos : Nat) (rest : ∀ q, pos ≤ q → q < limit → ends q = none) :
    Pass ends limit pos [] (max pos limit)
  | found {pos start stop : Nat} {spans : List (Nat × Nat)} {resume : Nat} (after : pos ≤ start)
      (before : start < limit) (first : ∀ q, pos ≤ q → q < start → ends q = none)
      (here : ends start = some stop) (more : Pass ends limit stop spans resume) :
    Pass ends limit pos ((start, stop) :: spans) resume

namespace Pass
variable {ends other : Nat → Option Nat} {limit pos resume : Nat} {spans : List (Nat × Nat)}

theorem unique {spans' : List (Nat × Nat)} {resume' : Nat} (pass : Pass ends limit pos spans resume)
    (again : Pass ends limit pos spans' resume') : spans = spans' ∧ resume = resume' := by
  induction pass generalizing spans' resume' with
  | done pos rest =>
    cases again with
    | done => exact ⟨rfl, rfl⟩
    | found after before _ here _ => simp [rest _ after before] at here
  | @found pos start stop spans resume after before first here more ih =>
    cases again with
    | done _ rest => simp [rest _ after before] at here
    | @found _ start' stop' _ _ after' before' first' here' more' =>
      obtain rfl : start = start' := by
        rcases Nat.lt_trichotomy start start' with less | same | less
        · simp [first' start after less] at here
        · exact same
        · simp [first start' after' less] at here'
      obtain rfl := Option.some.inj (here.symm.trans here')
      obtain ⟨rfl, rfl⟩ := ih more'
      exact ⟨rfl, rfl⟩

def Consuming (ends : Nat → Option Nat) : Prop := ∀ q stop, ends q = some stop → q < stop

theorem le_resume (pass : Pass ends limit pos spans resume) : limit ≤ resume := by
  induction pass with
  | done pos rest => exact Nat.le_max_right _ _
  | found _ _ _ _ _ ih => exact ih

theorem resume_le {bound : Nat} (bounded : ∀ q stop, ends q = some stop → stop ≤ bound)
    (pass : Pass ends limit pos spans resume) (low : pos ≤ bound) (last : limit ≤ bound) :
    resume ≤ bound := by
  induction pass with
  | done pos rest => exact Nat.max_le.mpr ⟨low, last⟩
  | found _ _ _ here _ ih => exact ih (bounded _ _ here)

theorem of_mem (consuming : Consuming ends) (pass : Pass ends limit pos spans resume)
    {start stop : Nat} (member : (start, stop) ∈ spans) :
    pos ≤ start ∧ start < limit ∧ ends start = some stop := by
  induction pass with
  | done pos rest => simp at member
  | @found pos first last _ _ after before _ here _ ih =>
    rcases List.mem_cons.mp member with same | member
    · obtain ⟨rfl, rfl⟩ := Prod.mk.inj same
      exact ⟨after, before, here⟩
    · obtain ⟨low, high, holds⟩ := ih member
      have := consuming _ _ here
      exact ⟨by omega, high, holds⟩

/-- A pass asks where matches end at its spans, and that there are none between. -/
theorem congr (consuming : Consuming ends) (pass : Pass ends limit pos spans resume)
    (present : ∀ start stop, (start, stop) ∈ spans → other start = some stop)
    (absent : ∀ q, pos ≤ q → q < limit → ends q = none → other q = none) :
    Pass other limit pos spans resume := by
  induction pass with
  | done pos rest => exact .done pos fun q low high => absent q low high (rest q low high)
  | @found pos start stop _ _ after before first here _ ih =>
    have forward := consuming _ _ here
    refine .found after before (fun q low high => ?_) (present start stop List.mem_cons_self) ?_
    · exact absent q low (by omega) (first q low high)
    · exact ih (fun start stop member => present start stop (List.mem_cons_of_mem _ member))
        fun q low high => absent q (by omega) high

/-- A pass up to some limit is one up to a nearer limit and one from there on. -/
theorem split {mid : Nat} (le : mid ≤ limit) (pass : Pass ends limit pos spans resume) :
    ∃ before after place, spans = before ++ after ∧ Pass ends mid pos before place ∧
      Pass ends limit place after resume := by
  induction pass with
  | done pos rest =>
    refine ⟨[], [], max pos mid, rfl, .done pos fun q low high => rest q low (by omega), ?_⟩
    have far : max (max pos mid) limit = max pos limit := by omega
    rw [← far]
    exact .done _ fun q low high => rest q (by omega) high
  | @found pos start stop spans resume after before first here more ih =>
    by_cases early : start < mid
    · obtain ⟨front, back, place, rfl, one, two⟩ := ih
      exact ⟨(start, stop) :: front, back, place, rfl, .found after early first here one, two⟩
    · refine ⟨[], (start, stop) :: spans, max pos mid, rfl,
        .done pos fun q low high => first q low (by omega), ?_⟩
      exact .found (by omega) before (fun q low high => first q (by omega) high) here more

end Pass

/-! ## Searches as passes -/

theorem consuming_endAt? {r : RegexPattern} (sound : r.Sound) (text : List UInt8) :
    Pass.Consuming (r.expr.endAt? text) := by
  intro pos stop found
  obtain ⟨low, _, word⟩ := endAt?_spec found
  apply Nat.lt_of_le_of_ne low
  intro same
  apply sound.consumes
  rwa [← same, Nat.sub_self, List.take_zero] at word

/-- A search with enough fuel is a pass up to its limit. -/
theorem pass_matchesUntil {r : RegexPattern} (sound : r.Sound) {text : List UInt8}
    {committed fuel pos : Nat} (inside : pos ≤ text.length) (enough : committed ≤ fuel + pos) :
    Pass (r.expr.endAt? text) committed pos (matchesUntil r text committed fuel pos).1
      (max (matchesUntil r text committed fuel pos).2 committed) := by
  induction fuel generalizing pos with
  | zero => exact .done pos fun q low high => by omega
  | succ fuel ih =>
    have search := firstMatch?_eq r.expr (committed - pos) inside
    unfold matchesUntil
    rw [findBetween?_eq]
    split
    · rename_i missing
      rw [missing] at search
      exact .done pos fun q low high => search q low (by omega)
    · rename_i start stop found
      rw [found] at search
      obtain ⟨after, before, first, here⟩ := search
      have forward := consuming_endAt? sound text _ _ here
      obtain ⟨_, fits, _⟩ := endAt?_spec here
      exact .found after (by omega) first here (ih fits (by omega))

private theorem pass_spansFrom {r : RegexPattern} (sound : r.Sound) {text : List UInt8}
    {fuel pos : Nat} (inside : pos ≤ text.length) (enough : text.length ≤ fuel + pos) :
    Pass (r.expr.endAt? text) text.length pos (spansFrom r.expr text fuel pos) text.length := by
  have ending (rest : ∀ q, pos ≤ q → q < text.length → r.expr.endAt? text q = none) :
      Pass (r.expr.endAt? text) text.length pos [] text.length := by
    have done := Pass.done pos rest
    rwa [Nat.max_eq_right inside] at done
  induction fuel generalizing pos with
  | zero => exact ending fun q low high => by omega
  | succ fuel ih =>
    have search := firstMatch?_eq r.expr (text.length + 1 - pos) inside
    unfold spansFrom Expr.findAt?
    rw [findBetween?_eq]
    split
    · rename_i start stop found
      rw [found] at search
      obtain ⟨after, _, first, here⟩ := search
      have forward := consuming_endAt? sound text _ _ here
      obtain ⟨_, fits, _⟩ := endAt?_spec here
      refine .found after (by omega) first here (ih fits (by omega) fun rest => ?_)
      have done := Pass.done stop rest
      rwa [Nat.max_eq_right fits] at done
    · rename_i missing
      rw [missing] at search
      exact ending fun q low high => search q low (by omega)

theorem pass_spans {r : RegexPattern} (sound : r.Sound) (text : List UInt8) :
    Pass (r.expr.endAt? text) text.length 0 (r.expr.spans text) text.length :=
  pass_spansFrom sound (Nat.zero_le _) (Nat.le_refl _)

/-- What a pass finds in a whole text are its matches. -/
theorem spans_eq_of_pass {r : RegexPattern} (sound : r.Sound) {text : List UInt8}
    {spans : List (Nat × Nat)} {resume : Nat}
    (pass : Pass (r.expr.endAt? text) text.length 0 spans resume) : r.expr.spans text = spans :=
  ((pass_spans sound text).unique pass).1

def Hit.ofSpan (pattern : Nat) (span : Nat × Nat) : Hit := ⟨span.1, span.2, pattern⟩

/-- Where matches end that start in a buffer, as places in the stream. -/
def endsFrom (e : Expr) (base : Nat) (buffer : List UInt8) (pos : Nat) : Option Nat :=
  if base ≤ pos then (e.endAt? buffer (pos - base)).map (base + ·) else none

theorem Pass.shift {e : Expr} {buffer : List UInt8} {limit pos resume : Nat}
    {spans : List (Nat × Nat)} (base : Nat) (pass : Pass (e.endAt? buffer) limit pos spans resume) :
    Pass (endsFrom e base buffer) (base + limit) (base + pos)
      (spans.map fun s => (base + s.1, base + s.2)) (base + resume) := by
  have local_eq (q : Nat) : endsFrom e base buffer (base + q) = (e.endAt? buffer q).map (base + ·) := by
    rw [endsFrom, if_pos (Nat.le_add_right _ _), Nat.add_sub_cancel_left]
  have quiet {low high : Nat} (rest : ∀ q, low ≤ q → q < high → e.endAt? buffer q = none) :
      ∀ q, base + low ≤ q → q < base + high → endsFrom e base buffer q = none := by
    intro q after before
    obtain ⟨k, rfl⟩ := Nat.exists_eq_add_of_le (show base ≤ q by omega)
    rw [local_eq, rest k (by omega) (by omega), Option.map_none]
  induction pass with
  | done pos rest =>
    rw [show base + max pos limit = max (base + pos) (base + limit) by omega]
    exact .done _ (quiet rest)
  | found after before first here _ ih =>
    exact .found (by omega) (by omega) (quiet first) (by rw [local_eq, here, Option.map_some]) ih

/-- One expression's search of a buffer is a pass over the places of the stream. -/
theorem pass_regexHits {r : RegexPattern} (sound : r.Sound) (index committed : Nat) {s : State}
    {resume : Nat} (low : s.base ≤ resume) (inside : resume ≤ s.base + s.pending.length) :
    ∃ spans, (regexHits s committed (r, index) resume).1 = spans.map (Hit.ofSpan index) ∧
      Pass (endsFrom r.expr s.base s.pending) (s.base + committed) resume spans
        (regexHits s committed (r, index) resume).2 := by
  have fits : resume - s.base ≤ s.pending.length := by omega
  have enough : committed ≤ committed + (resume - s.base) := Nat.le_add_right _ _
  have pass := (pass_matchesUntil sound fits enough).shift s.base
  rw [Nat.add_sub_cancel' low] at pass
  refine ⟨_, ?_, pass⟩
  simp [regexHits, Hit.ofSpan]

end Triage.Search
