import Mathlib.Data.List.Permutation
import Triage.RangeSet

/-! Which numbers a set holds, read off the operations that build it. That the form is canonical shows
in the one-element sets: they are a single range. -/

namespace Triage.RangeSet

theorem contains_iff {s : RangeSet} {n : Nat} :
    s.contains n ↔ ∃ r ∈ s.ranges, r.1 ≤ n ∧ n ≤ r.2 := by
  simp [contains]

@[simp] theorem contains_empty (n : Nat) : empty.contains n = false := rfl

theorem contains_eq_false_of_isEmpty {s : RangeSet} (none : s.isEmpty) (n : Nat) :
    s.contains n = false := by
  rw [isEmpty, List.isEmpty_iff] at none
  rw [contains, none, List.any_nil]

theorem mem_joinFrom {current : Nat × Nat} {rest : List (Nat × Nat)} (n : Nat)
    (ordered : current.1 ≤ current.2) (others : ∀ r ∈ rest, r.1 ≤ r.2)
    (sorted : (current :: rest).Pairwise fun a b => a.1 ≤ b.1) :
    (∃ r ∈ joinFrom current rest, r.1 ≤ n ∧ n ≤ r.2) ↔
      ∃ r ∈ current :: rest, r.1 ≤ n ∧ n ≤ r.2 := by
  induction rest generalizing current with
  | nil => rw [joinFrom]
  | cons next rest ih =>
    obtain ⟨least, tail⟩ := List.pairwise_cons.mp sorted
    obtain ⟨after, later⟩ := List.pairwise_cons.mp tail
    have first : current.1 ≤ next.1 := least next List.mem_cons_self
    have proper : next.1 ≤ next.2 := others next List.mem_cons_self
    have inner : ∀ r ∈ rest, r.1 ≤ r.2 := fun r member => others r (List.mem_cons_of_mem _ member)
    rw [joinFrom]
    split
    · rename_i touches
      have joined : ((current.1, max current.2 next.2) :: rest).Pairwise fun a b => a.1 ≤ b.1 :=
        List.pairwise_cons.mpr ⟨fun r member => Nat.le_trans first (after r member), later⟩
      have wide : (current.1, max current.2 next.2).1 ≤ (current.1, max current.2 next.2).2 :=
        Nat.le_trans ordered (Nat.le_max_left ..)
      rw [ih wide inner joined]
      simp only [List.mem_cons, exists_eq_or_imp]
      constructor
      · intro found
        rcases found with ⟨low, high⟩ | found
        · by_cases inside : n ≤ current.2
          · exact .inl ⟨low, inside⟩
          · exact .inr (.inl ⟨by omega, by omega⟩)
        · exact .inr (.inr found)
      · intro found
        rcases found with ⟨low, high⟩ | ⟨low, high⟩ | found
        · exact .inl ⟨low, by omega⟩
        · exact .inl ⟨by omega, by omega⟩
        · exact .inr found
    · simpa only [List.mem_cons, exists_eq_or_imp] using or_congr_right (ih proper inner tail)

theorem contains_ofList {ranges : List (Nat × Nat)} {n : Nat} :
    (ofList ranges).contains n ↔ ∃ r ∈ ranges, r.1 ≤ n ∧ n ≤ r.2 := by
  have sorted : (∃ r ∈ ranges, r.1 ≤ n ∧ n ≤ r.2) ↔
      ∃ r ∈ sortedRanges ranges, r.1 ≤ n ∧ n ≤ r.2 := by
    constructor
    · intro found
      obtain ⟨r, member, low, high⟩ := found
      exact ⟨r, mem_sortedRanges.mpr ⟨member, by omega⟩, low, high⟩
    · intro found
      obtain ⟨r, member, inside⟩ := found
      exact ⟨r, (mem_sortedRanges.mp member).1, inside⟩
  rw [sorted, contains_iff, ofList]
  split
  · rename_i none
    simp [none, empty]
  · rename_i first rest some
    have ordered : ∀ r ∈ first :: rest, r.1 ≤ r.2 := fun r member =>
      (mem_sortedRanges.mp (some ▸ member)).2
    have joined := mem_joinFrom n (ordered first List.mem_cons_self)
      (fun r member => ordered r (List.mem_cons_of_mem _ member)) (some ▸ pairwise_sortedRanges ranges)
    simpa only [some] using joined

/-- What ranges amount to is known where they are sorted. -/
theorem ofList_eq {ranges rest : List (Nat × Nat)} {first : Nat × Nat} {s : RangeSet}
    (sorted : sortedRanges ranges = first :: rest) (joined : joinFrom first rest = s.ranges) :
    ofList ranges = s := by
  unfold ofList
  split
  case h_1 none =>
    rw [sorted] at none
    nomatch none
  case h_2 same =>
    obtain ⟨rfl, rfl⟩ := List.cons.inj (sorted.symm.trans same)
    cases s
    cases joined
    rfl

theorem contains_union {a b : RangeSet} {n : Nat} :
    (a.union b).contains n ↔ a.contains n ∨ b.contains n := by
  rw [union, contains_ofList, contains_iff, contains_iff]
  simp only [List.mem_append]
  grind

theorem mem_gapsFrom {next last : Nat} {ranges : List (Nat × Nat)} (n : Nat)
    (ordered : ∀ r ∈ ranges, r.1 ≤ r.2) (apart : ranges.Pairwise fun a b => a.2 + 1 < b.1)
    (after : ∀ r ∈ ranges, next ≤ r.1) :
    (∃ r ∈ gapsFrom next last ranges, r.1 ≤ n ∧ n ≤ r.2) ↔
      next ≤ n ∧ n ≤ last ∧ ∀ r ∈ ranges, ¬(r.1 ≤ n ∧ n ≤ r.2) := by
  induction ranges generalizing next with
  | nil =>
    rw [gapsFrom]
    split
    · simp
    · simp
      omega
  | cons first rest ih =>
    obtain ⟨beyond, tail⟩ := List.pairwise_cons.mp apart
    obtain ⟨proper, others⟩ := List.forall_mem_cons.mp ordered
    have start : next ≤ first.1 := after first List.mem_cons_self
    have later : (∃ r ∈ gapsFrom (first.2 + 1) last rest, r.1 ≤ n ∧ n ≤ r.2) ↔
        first.2 + 1 ≤ n ∧ n ≤ last ∧ ∀ r ∈ rest, ¬(r.1 ≤ n ∧ n ≤ r.2) :=
      ih others tail fun r member => Nat.le_of_lt (beyond r member)
    -- a number before the first range is before all others
    have before (small : n < first.1) : ∀ r ∈ rest, ¬(r.1 ≤ n ∧ n ≤ r.2) := by
      intro r member inside
      have := beyond r member
      omega
    rw [gapsFrom, List.forall_mem_cons]
    split
    · simp only [List.mem_cons, exists_eq_or_imp]
      rw [later]
      constructor
      · rintro (gap | ⟨low, high, out⟩)
        · exact ⟨gap.1, by omega, by omega, before (by omega)⟩
        · exact ⟨by omega, high, by omega, out⟩
      · rintro ⟨low, high, out, others⟩
        by_cases small : n < first.1
        · exact .inl ⟨low, by omega⟩
        · exact .inr ⟨by omega, high, others⟩
    · rw [later]
      constructor
      · rintro ⟨low, high, out⟩
        exact ⟨by omega, high, by omega, out⟩
      · rintro ⟨low, high, out, others⟩
        exact ⟨by omega, high, others⟩

theorem contains_complement {s : RangeSet} {last n : Nat} :
    (s.complement last).contains n ↔ n ≤ last ∧ s.contains n = false := by
  rw [contains_iff, complement, mem_gapsFrom n s.nonempty s.apart fun _ _ => Nat.zero_le _,
    ← Bool.not_eq_true, contains_iff]
  simp

theorem contains_inter {a b : RangeSet} {last n : Nat} :
    (inter last a b).contains n ↔ n ≤ last ∧ a.contains n ∧ b.contains n := by
  have outside (s : RangeSet) (small : n ≤ last) :
      (s.complement last).contains n = false ↔ s.contains n := by
    rw [← Bool.not_eq_true, contains_complement]
    simp [small]
  rw [inter, contains_complement]
  refine and_congr_right fun small => ?_
  rw [← Bool.not_eq_true, contains_union, not_or, Bool.not_eq_true, Bool.not_eq_true, outside a small,
    outside b small]

theorem single?_eq_some_iff {s : RangeSet} {n : Nat} :
    s.single? = some n ↔ ∀ m, s.contains m ↔ m = n := by
  constructor
  · intro only m
    unfold single? at only
    split at only
    · rename_i low high form
      split at only
      · rename_i same
        obtain rfl := Option.some.inj only
        simp only [contains, form, List.any_cons, List.any_nil, Bool.or_false, Bool.and_eq_true,
          decide_eq_true_eq]
        omega
      · simp at only
    · simp at only
  · intro only
    have here := (only n).mpr rfl
    obtain ⟨ranges, nonempty, apart⟩ := s
    -- both ends of every range are members, so there is room for one range of one number
    have ends : ∀ r ∈ ranges, r.1 = n ∧ r.2 = n := by
      intro r member
      have proper := nonempty r member
      exact ⟨(only r.1).mp (contains_iff.mpr ⟨r, member, Nat.le_refl _, proper⟩),
        (only r.2).mp (contains_iff.mpr ⟨r, member, proper, Nat.le_refl _⟩)⟩
    match ranges with
    | [] => simp [contains] at here
    | [r] =>
      obtain ⟨first, last⟩ := ends r List.mem_cons_self
      simp [single?, first, last]
    | r :: q :: rest =>
      have gap := (List.pairwise_cons.mp apart).1 q List.mem_cons_self
      have first := ends r List.mem_cons_self
      have second := ends q (List.mem_cons_of_mem _ List.mem_cons_self)
      omega

theorem least?_le {s : RangeSet} {n least : Nat} (found : s.least? = some least)
    (member : s.contains n) : least ≤ n := by
  obtain ⟨ranges, nonempty, apart⟩ := s
  obtain ⟨r, inside, low, _⟩ := contains_iff.mp member
  cases ranges with
  | nil => simp [least?] at found
  | cons first rest =>
    obtain rfl : first.1 = least := by simpa [least?] using found
    rcases List.mem_cons.mp inside with rfl | inside
    · exact low
    · have gap := (List.pairwise_cons.mp apart).1 r inside
      have proper := nonempty first List.mem_cons_self
      omega

theorem le_greatest? {s : RangeSet} {n greatest : Nat} (found : s.greatest? = some greatest)
    (member : s.contains n) : n ≤ greatest := by
  obtain ⟨ranges, nonempty, apart⟩ := s
  obtain ⟨r, inside, _, high⟩ := contains_iff.mp member
  obtain ⟨last, ending, rfl⟩ := Option.map_eq_some_iff.mp found
  obtain ⟨front, rfl⟩ := List.getLast?_eq_some_iff.mp ending
  rcases List.mem_append.mp inside with inside | inside
  · have gap := (List.pairwise_append.mp apart).2.2 r inside last List.mem_cons_self
    have proper := nonempty last (List.mem_append_right _ List.mem_cons_self)
    omega
  · obtain rfl := List.mem_singleton.mp inside
    exact high

theorem contains_greatest? {s : RangeSet} {greatest : Nat} (found : s.greatest? = some greatest) :
    s.contains greatest := by
  obtain ⟨last, ending, rfl⟩ := Option.map_eq_some_iff.mp found
  have member := List.mem_of_mem_getLast? ending
  exact contains_iff.mpr ⟨last, member, s.nonempty last member, Nat.le_refl _⟩

theorem contains_eq_false_of_greatest? {s : RangeSet} (missing : s.greatest? = none) (n : Nat) :
    s.contains n = false := by
  refine contains_eq_false_of_isEmpty ?_ n
  simpa [greatest?, isEmpty] using missing

theorem contains_singleton {n m : Nat} : (singleton n).contains m ↔ m = n := by
  simp only [singleton, contains, List.any_cons, List.any_nil, Bool.or_false, Bool.and_eq_true,
    decide_eq_true_eq]
  omega

end Triage.RangeSet
