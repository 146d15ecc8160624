import Triage.Proofs.Regex.Formed
import Triage.Proofs.Regex.Language

/-! An expression's shortest and longest lengths bound its words. Both saturate: a shortest length stops
at the limit, a longest one beyond it is given up. -/

namespace Triage.Regex
open scoped Computability

def LongAs (n : Nat) (words : Language UInt8) : Prop := ∀ w ∈ words, n ≤ w.length

def ShortAs (n : Nat) (words : Language UInt8) : Prop := ∀ w ∈ words, w.length ≤ n

section words
variable {words first second : Language UInt8} {m n : Nat}

theorem longAs_one : LongAs 0 words := fun _ _ => Nat.zero_le _

theorem shortAs_one : ShortAs n 1 := by
  intro w member
  rw [(Language.mem_one w).mp member]
  exact Nat.zero_le n

theorem LongAs.mul (left : LongAs m first) (right : LongAs n second) :
    LongAs (m + n) (first * second) := by
  intro w found
  obtain ⟨u, inFirst, v, inSecond, rfl⟩ := found
  simp only [List.length_append]
  exact Nat.add_le_add (left u inFirst) (right v inSecond)

theorem ShortAs.mul (left : ShortAs m first) (right : ShortAs n second) :
    ShortAs (m + n) (first * second) := by
  intro w found
  obtain ⟨u, inFirst, v, inSecond, rfl⟩ := found
  simp only [List.length_append]
  exact Nat.add_le_add (left u inFirst) (right v inSecond)

theorem LongAs.pow (long : LongAs n words) (k : Nat) : LongAs (n * k) (words ^ k) := by
  induction k with
  | zero => exact longAs_one
  | succ k ih =>
    rw [pow_succ, Nat.mul_succ]
    exact ih.mul long

theorem ShortAs.pow (short : ShortAs n words) (k : Nat) : ShortAs (n * k) (words ^ k) := by
  induction k with
  | zero => exact shortAs_one
  | succ k ih =>
    rw [pow_succ, Nat.mul_succ]
    exact ih.mul short

theorem ShortAs.orEmpty (short : ShortAs n words) : ShortAs n (1 + words) := by
  intro w found
  rcases found with empty | member
  · exact shortAs_one w empty
  · exact short w member

theorem longAs_repeatWords (long : LongAs n words) (least : Nat) (most : Option Nat) :
    LongAs (n * least) (repeatWords words least most) := by
  cases most with
  | none => exact (long.pow least).mul longAs_one
  | some most => exact (long.pow least).mul longAs_one

theorem shortAs_repeatWords (short : ShortAs n words) {least most : Nat} (ordered : least ≤ most) :
    ShortAs (n * most) (repeatWords words least (some most)) := by
  have rounds : n * most = n * least + n * (most - least) := by
    rw [← Nat.mul_add, Nat.add_sub_cancel' ordered]
  rw [rounds]
  exact (short.pow least).mul (short.orEmpty.pow (most - least))

end words

theorem width_mono {c d : Nat} (le : c ≤ d) : Utf8.width c ≤ Utf8.width d := by
  unfold Utf8.width
  split_ifs <;> omega

theorem length_of_mem_charWords {set : CharSet} {w : List UInt8} (member : w ∈ charWords set) :
    ∃ code, set.contains code ∧ w.length = Utf8.width code := by
  obtain ⟨code, read, inside⟩ := member
  exact ⟨code, inside, Utf8.length_of_first? read⟩

theorem longAs_shortest? {e : Expr} {n : Nat} (found : e.shortest? = some n) :
    LongAs n e.language := by
  induction e generalizing n with
  | empty | look l =>
    obtain rfl := Option.some.inj found
    exact longAs_one
  | literal bytes =>
    obtain rfl := Option.some.inj found
    intro w same
    subst same
    exact Nat.le_refl _
  | byteClass set =>
    rw [Expr.shortest?] at found
    split at found
    · simp at found
    · obtain rfl := Option.some.inj found
      intro w found
      obtain ⟨b, rfl, _⟩ := found
      exact Nat.le_refl _
  | charClass set =>
    obtain ⟨least, first, rfl⟩ := Option.map_eq_some_iff.mp found
    intro w member
    obtain ⟨code, inside, length⟩ := length_of_mem_charWords member
    rw [length]
    exact width_mono (RangeSet.least?_le first inside)
  | repetition least most greedy body ih =>
    obtain ⟨once, inner, rfl⟩ := Option.map_eq_some_iff.mp found
    intro w member
    exact (Nat.min_le_left _ _).trans (longAs_repeatWords (ih inner) least most w member)
  | group index body ih => exact ih found
  | seq a b iha ihb =>
    rw [Expr.shortest?] at found
    cases left : a.shortest? <;> cases right : b.shortest? <;>
      simp only [left, right, Expr.addShortest, Option.some.injEq, reduceCtorEq] at found
    subst found
    intro w member
    exact (Nat.min_le_left _ _).trans ((iha left).mul (ihb right) w member)
  | alt a b iha ihb =>
    rw [Expr.shortest?] at found
    cases left : a.shortest? <;> cases right : b.shortest? <;>
      simp only [left, right, Expr.chooseLength, Option.some.injEq, reduceCtorEq] at found
    subst found
    intro w member
    rcases member with member | member
    · exact (Nat.min_le_left _ _).trans (iha left w member)
    · exact (Nat.min_le_right _ _).trans (ihb right w member)

theorem shortAs_longest? {allowed : Look → Prop} {e : Expr} {n : Nat} (formed : e.Formed allowed)
    (found : e.longest? = some n) : ShortAs n e.language := by
  induction e generalizing n with
  | empty | look l =>
    obtain rfl := Option.some.inj found
    exact shortAs_one
  | literal bytes =>
    obtain rfl := Option.some.inj found
    intro w same
    subst same
    exact Nat.le_refl _
  | byteClass set =>
    rw [Expr.longest?] at found
    split at found
    · simp at found
    · obtain rfl := Option.some.inj found
      intro w found
      obtain ⟨b, rfl, _⟩ := found
      exact Nat.le_refl _
  | charClass set =>
    obtain ⟨greatest, last, rfl⟩ := Option.map_eq_some_iff.mp found
    intro w member
    obtain ⟨code, inside, length⟩ := length_of_mem_charWords member
    rw [length]
    exact width_mono (RangeSet.le_greatest? last inside)
  | repetition least most greedy body ih =>
    unfold Expr.longest? at found
    split at found
    · rename_i most once inner
      simp only [Option.ite_none_right_eq_some, Option.some.injEq] at found
      obtain ⟨_, rfl⟩ := found
      exact shortAs_repeatWords (ih formed.2 inner) (formed.1 most rfl)
    · simp at found
  | group index body ih => exact ih formed found
  | seq a b iha ihb =>
    rw [Expr.longest?] at found
    cases left : a.longest? <;> cases right : b.longest? <;>
      simp only [left, right, Expr.addLongest, Option.ite_none_right_eq_some, Option.some.injEq,
        reduceCtorEq] at found
    obtain ⟨_, rfl⟩ := found
    exact (iha formed.1 left).mul (ihb formed.2 right)
  | alt a b iha ihb =>
    rw [Expr.longest?] at found
    cases left : a.longest? <;> cases right : b.longest? <;>
      simp only [left, right, Expr.chooseLength, Option.some.injEq, reduceCtorEq] at found
    subst found
    intro w member
    rcases member with member | member
    · exact (iha formed.1 left w member).trans (Nat.le_max_left _ _)
    · exact (ihb formed.2 right w member).trans (Nat.le_max_right _ _)

end Triage.Regex
