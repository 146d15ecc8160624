/-!
Finite sets of natural numbers as increasing closed ranges with gaps between them. The form is
canonical: equal sets are equal lists.
-/

namespace Triage

structure RangeSet where
  ranges : List (Nat × Nat)
  nonempty : ∀ r ∈ ranges, r.1 ≤ r.2
  apart : ranges.Pairwise fun a b => a.2 + 1 < b.1
deriving DecidableEq, Repr

namespace RangeSet

instance : Hashable RangeSet where
  hash s := hash s.ranges

def empty : RangeSet := ⟨[], by simp, .nil⟩

instance : Inhabited RangeSet := ⟨empty⟩

def isEmpty (s : RangeSet) : Bool := s.ranges.isEmpty

def contains (s : RangeSet) (n : Nat) : Bool :=
  s.ranges.any fun r => r.1 ≤ n && n ≤ r.2

/-- Ranges sorted by their lower end, joined where they overlap or touch. -/
def joinFrom (current : Nat × Nat) : List (Nat × Nat) → List (Nat × Nat)
  | [] => [current]
  | next :: rest =>
    if next.1 ≤ current.2 + 1 then joinFrom (current.1, max current.2 next.2) rest
    else current :: joinFrom next rest

theorem nonempty_joinFrom {current : Nat × Nat} {rest : List (Nat × Nat)}
    (ordered : current.1 ≤ current.2) (others : ∀ r ∈ rest, r.1 ≤ r.2) :
    ∀ r ∈ joinFrom current rest, r.1 ≤ r.2 := by
  induction rest generalizing current with
  | nil => simpa [joinFrom] using ordered
  | cons next rest ih =>
    have tail : ∀ r ∈ rest, r.1 ≤ r.2 := fun r member => others r (List.mem_cons_of_mem _ member)
    rw [joinFrom]
    split
    · exact ih (by simp only; omega) tail
    · intro r member
      rcases List.mem_cons.mp member with rfl | member
      · exact ordered
      · exact ih (others next List.mem_cons_self) tail r member

/-- What is joined begins no earlier than the parts. -/
theorem le_of_mem_joinFrom {current : Nat × Nat} {rest : List (Nat × Nat)} {bound : Nat}
    (first : bound ≤ current.1) (others : ∀ r ∈ rest, bound ≤ r.1) :
    ∀ r ∈ joinFrom current rest, bound ≤ r.1 := by
  induction rest generalizing current with
  | nil => simpa [joinFrom] using first
  | cons next rest ih =>
    have tail : ∀ r ∈ rest, bound ≤ r.1 := fun r member => others r (List.mem_cons_of_mem _ member)
    rw [joinFrom]
    split
    · exact ih first tail
    · intro r member
      rcases List.mem_cons.mp member with rfl | member
      · exact first
      · exact ih (others next List.mem_cons_self) tail r member

theorem apart_joinFrom {current : Nat × Nat} {rest : List (Nat × Nat)}
    (sorted : rest.Pairwise fun a b => a.1 ≤ b.1) :
    (joinFrom current rest).Pairwise fun a b => a.2 + 1 < b.1 := by
  induction rest generalizing current with
  | nil => simp [joinFrom]
  | cons next rest ih =>
    obtain ⟨least, tail⟩ := List.pairwise_cons.mp sorted
    rw [joinFrom]
    split
    · exact ih tail
    · rename_i gap
      refine List.pairwise_cons.mpr ⟨?_, ih tail⟩
      intro r member
      have after : next.1 ≤ r.1 := le_of_mem_joinFrom (Nat.le_refl _) least r member
      omega

def sortedRanges (ranges : List (Nat × Nat)) : List (Nat × Nat) :=
  (ranges.filter fun r => r.1 ≤ r.2).mergeSort fun a b => a.1 ≤ b.1

theorem mem_sortedRanges {ranges : List (Nat × Nat)} {r : Nat × Nat} :
    r ∈ sortedRanges ranges ↔ r ∈ ranges ∧ r.1 ≤ r.2 := by
  simp [sortedRanges, List.mem_mergeSort]

theorem pairwise_sortedRanges (ranges : List (Nat × Nat)) :
    (sortedRanges ranges).Pairwise fun a b => a.1 ≤ b.1 := by
  have sorted : (sortedRanges ranges).Pairwise fun a b => decide (a.1 ≤ b.1) :=
    List.pairwise_mergeSort
      (fun a b c h k => by simp only [decide_eq_true_eq] at *; omega)
      (fun a b => by simp only [Bool.or_eq_true, decide_eq_true_eq]; omega) _
  exact sorted.imp fun h => by simpa using h

/-- The numbers that loose ranges cover. -/
def ofList (ranges : List (Nat × Nat)) : RangeSet :=
  match h : sortedRanges ranges with
  | [] => empty
  | first :: rest =>
    have member : ∀ r ∈ first :: rest, r.1 ≤ r.2 := fun _ inside =>
      (mem_sortedRanges.mp (h ▸ inside)).2
    have sorted : (first :: rest).Pairwise fun a b => a.1 ≤ b.1 := h ▸ pairwise_sortedRanges ranges
    ⟨joinFrom first rest,
      nonempty_joinFrom (member first List.mem_cons_self) fun r inside =>
        member r (List.mem_cons_of_mem _ inside),
      apart_joinFrom (List.pairwise_cons.mp sorted).2⟩

def singleton (n : Nat) : RangeSet := ⟨[(n, n)], by simp, by simp⟩

def union (a b : RangeSet) : RangeSet := ofList (a.ranges ++ b.ranges)

/-- The numbers from `next` to `last` that lie in none of the ranges. -/
def gapsFrom (next last : Nat) : List (Nat × Nat) → List (Nat × Nat)
  | [] => if next ≤ last then [(next, last)] else []
  | r :: rest =>
    if next < r.1 ∧ next ≤ last then (next, min (r.1 - 1) last) :: gapsFrom (r.2 + 1) last rest
    else gapsFrom (r.2 + 1) last rest

theorem nonempty_gapsFrom {next last : Nat} {ranges : List (Nat × Nat)} :
    ∀ r ∈ gapsFrom next last ranges, r.1 ≤ r.2 := by
  induction ranges generalizing next with
  | nil => grind [gapsFrom]
  | cons first rest ih =>
    rw [gapsFrom]
    split
    · intro r member
      rcases List.mem_cons.mp member with rfl | member
      · simp only
        omega
      · exact ih r member
    · exact ih

theorem le_of_mem_gapsFrom {next last : Nat} {ranges : List (Nat × Nat)}
    (ordered : ∀ r ∈ ranges, r.1 ≤ r.2)
    (apart : ranges.Pairwise fun a b => a.2 + 1 < b.1) (after : ∀ r ∈ ranges, next ≤ r.1) :
    ∀ r ∈ gapsFrom next last ranges, next ≤ r.1 := by
  induction ranges generalizing next with
  | nil => grind [gapsFrom]
  | cons first rest ih =>
    obtain ⟨beyond, tail⟩ := List.pairwise_cons.mp apart
    have start : next ≤ first.1 := after first List.mem_cons_self
    have proper : first.1 ≤ first.2 := ordered first List.mem_cons_self
    have later : ∀ r ∈ gapsFrom (first.2 + 1) last rest, first.2 + 1 ≤ r.1 :=
      ih (fun r member => ordered r (List.mem_cons_of_mem _ member)) tail fun r member => by
        have := beyond r member
        omega
    intro r member
    rw [gapsFrom] at member
    split at member
    · rcases List.mem_cons.mp member with rfl | member
      · exact Nat.le_refl _
      · have := later r member
        omega
    · have := later r member
      omega

theorem apart_gapsFrom {next last : Nat} {ranges : List (Nat × Nat)}
    (ordered : ∀ r ∈ ranges, r.1 ≤ r.2)
    (apart : ranges.Pairwise fun a b => a.2 + 1 < b.1) :
    (gapsFrom next last ranges).Pairwise fun a b => a.2 + 1 < b.1 := by
  induction ranges generalizing next with
  | nil =>
    rw [gapsFrom]
    split <;> simp
  | cons first rest ih =>
    obtain ⟨beyond, tail⟩ := List.pairwise_cons.mp apart
    have others : ∀ r ∈ rest, r.1 ≤ r.2 := fun r member => ordered r (List.mem_cons_of_mem _ member)
    have proper : first.1 ≤ first.2 := ordered first List.mem_cons_self
    rw [gapsFrom]
    split
    · refine List.pairwise_cons.mpr ⟨?_, ih others tail⟩
      intro r member
      have := le_of_mem_gapsFrom others tail (fun r inside => by
        have := beyond r inside
        omega) r member
      simp only
      omega
    · exact ih others tail

/-- The numbers up to `last` outside the set. -/
def complement (last : Nat) (s : RangeSet) : RangeSet :=
  ⟨gapsFrom 0 last s.ranges, nonempty_gapsFrom, apart_gapsFrom s.nonempty s.apart⟩

def inter (last : Nat) (a b : RangeSet) : RangeSet :=
  ((a.complement last).union (b.complement last)).complement last

def diff (last : Nat) (a b : RangeSet) : RangeSet := inter last a (b.complement last)

def symmDiff (last : Nat) (a b : RangeSet) : RangeSet :=
  diff last (a.union b) (inter last a b)

/-- The only member of a one-element set. -/
def single? (s : RangeSet) : Option Nat :=
  match s.ranges with
  | [(lo, hi)] => if lo = hi then some lo else none
  | _ => none

def least? (s : RangeSet) : Option Nat := s.ranges.head?.map (·.1)

def greatest? (s : RangeSet) : Option Nat := s.ranges.getLast?.map (·.2)

end RangeSet

end Triage
