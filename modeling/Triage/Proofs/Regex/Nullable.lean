import Triage.Proofs.Regex.Ends
import Triage.Proofs.Regex.Length

/-! Matches of the empty text. An expression has finitely many ways through it that read nothing, each with the
conditions that it meets. It matches the empty text where one of them has its conditions met; its shortest length
tells whether there is such a way, if it has one at all. -/

namespace Triage.Regex
open scoped Computability

/-- The ways through an expression that read nothing, by the conditions that they meet. Rounds of a repetition meet
at one place what one round does. -/
def Expr.emptyWays : Expr → List (List Look)
  | .empty => [[]]
  | .literal bytes => if bytes.isEmpty then [[]] else []
  | .byteClass _ | .charClass _ => []
  | .look l => [[l]]
  | .repetition least _ _ body => if least = 0 then [[]] else body.emptyWays
  | .group _ body => body.emptyWays
  | .seq a b => a.emptyWays.flatMap fun way => b.emptyWays.map (way ++ ·)
  | .alt a b => a.emptyWays ++ b.emptyWays

theorem looks_of_emptyWays {e : Expr} {way : List Look} (member : way ∈ e.emptyWays) : way ⊆ e.looks := by
  induction e generalizing way with
  | empty =>
    obtain rfl := List.mem_singleton.mp member
    exact List.nil_subset _
  | literal bytes =>
    rw [Expr.emptyWays] at member
    split at member
    · obtain rfl := List.mem_singleton.mp member
      exact List.nil_subset _
    · nomatch member
  | byteClass set | charClass set => nomatch member
  | look l =>
    obtain rfl := List.mem_singleton.mp member
    exact List.Subset.refl _
  | repetition least most greedy body ih =>
    rw [Expr.emptyWays] at member
    split at member
    · obtain rfl := List.mem_singleton.mp member
      exact List.nil_subset _
    · exact ih member
  | group index body ih => exact ih member
  | seq a b iha ihb =>
    obtain ⟨first, inside, member⟩ := List.mem_flatMap.mp member
    obtain ⟨second, behind, rfl⟩ := List.mem_map.mp member
    exact List.append_subset.mpr ⟨List.subset_append_of_subset_left _ (iha inside),
      List.subset_append_of_subset_right _ (ihb behind)⟩
  | alt a b iha ihb =>
    rcases List.mem_append.mp member with member | member
    · exact List.subset_append_of_subset_left _ (iha member)
    · exact List.subset_append_of_subset_right _ (ihb member)

/-! ## Words -/

section words
variable {words : Language UInt8}

theorem nil_mem_pow (member : [] ∈ words) (n : Nat) : [] ∈ words ^ n := by
  induction n with
  | zero => exact Language.nil_mem_one
  | succ n ih =>
    rw [pow_succ']
    exact Language.append_mem_mul member ih

theorem nil_mem_mul {first second : Language UInt8} :
    [] ∈ first * second ↔ [] ∈ first ∧ [] ∈ second := by
  constructor
  · intro found
    obtain ⟨x, inFirst, y, inSecond, split⟩ := found
    obtain ⟨rfl, rfl⟩ := List.append_eq_nil_iff.mp split
    exact ⟨inFirst, inSecond⟩
  · exact fun both => Language.append_mem_mul both.1 both.2

end words

theorem emptyWays_ne_nil {e : Expr} (empty : [] ∈ e.language) : e.emptyWays ≠ [] := by
  induction e with
  | empty | look l => exact List.cons_ne_nil _ _
  | literal bytes =>
    obtain rfl : [] = bytes := empty
    exact List.cons_ne_nil _ _
  | byteClass set =>
    obtain ⟨b, split, _⟩ := empty
    nomatch split
  | charClass set =>
    obtain ⟨code, read, _⟩ := empty
    nomatch read
  | repetition least most greedy body ih =>
    rw [Expr.emptyWays]
    split
    · exact List.cons_ne_nil _ _
    · rename_i positive
      refine ih ?_
      obtain ⟨n, rfl⟩ := Nat.exists_eq_succ_of_ne_zero positive
      cases most <;>
        · rw [Expr.language, repeatWords, pow_succ'] at empty
          exact (nil_mem_mul.mp (nil_mem_mul.mp empty).1).1
  | group index body ih => exact ih empty
  | seq a b iha ihb =>
    obtain ⟨first, second⟩ := nil_mem_mul.mp empty
    obtain ⟨way, inside⟩ := List.exists_mem_of_ne_nil _ (iha first)
    obtain ⟨way', behind⟩ := List.exists_mem_of_ne_nil _ (ihb second)
    exact List.ne_nil_of_mem (List.mem_flatMap.mpr ⟨way, inside, List.mem_map_of_mem behind⟩)
  | alt a b iha ihb =>
    rw [Expr.emptyWays]
    rcases empty with left | right
    · exact List.append_ne_nil_of_left_ne_nil (iha left) _
    · exact List.append_ne_nil_of_right_ne_nil _ (ihb right)

/-! ## Steps -/

theorem finished_mem_orStop (greedy : Bool) (nexts : List Next) : .finished ∈ Next.orStop greedy nexts := by
  cases greedy <;> simp [Next.orStop]

theorem finished_mem_andThen {nexts : List Next} {more : Unit → List Next} {rest : Thread} :
    .finished ∈ Next.andThen nexts more rest ↔ .finished ∈ nexts ∧ .finished ∈ more () := by
  constructor
  · intro member
    obtain ⟨step, present, member⟩ := List.mem_flatMap.mp member
    cases step with
    | finished => exact ⟨present, member⟩
    | take demand own => nomatch List.mem_singleton.mp member
  · exact fun both => List.mem_flatMap.mpr ⟨_, both.1, both.2⟩

section rounds
variable {r : Rounds}

theorem finished_mem_atLeast {least : Nat} (round : 0 < least → ∀ (item : Item) (behind : Unit → List Next),
    .finished ∈ behind () → .finished ∈ r.round item behind) : .finished ∈ r.atLeast least := by
  induction least with
  | zero => exact finished_mem_orStop _ _
  | succ n ih =>
    cases n with
    | zero => exact round Nat.one_pos _ _ List.mem_cons_self
    | succ n => exact round (Nat.succ_pos _) _ _ (ih fun _ => round (Nat.succ_pos _))

theorem finished_mem_between {most least : Nat} (round : 0 < least → ∀ (item : Item)
    (behind : Unit → List Next), .finished ∈ behind () → .finished ∈ r.round item behind) :
    .finished ∈ r.between most least := by
  induction least generalizing most with
  | zero =>
    cases most with
    | zero => exact List.mem_cons_self
    | succ m => exact finished_mem_orStop _ _
  | succ n ih => exact round n.succ_pos _ _ (ih fun _ => round n.succ_pos)

/-- Where a round has to be made, finishing is finishing in it. -/
theorem finished_of_rounds {least : Nat} {most : Option Nat}
    (finished : .finished ∈ match most with
      | none => r.atLeast (least + 1)
      | some most => r.between most (least + 1)) : ∃ item behind, .finished ∈ r.round item behind := by
  cases most with
  | none => cases least <;> exact ⟨_, _, finished⟩
  | some most => exact ⟨_, _, finished⟩

end rounds

/-- An expression that finishes at once does so by one of its ways, whatever is open. -/
theorem exists_emptyWay {holds : Look → Bool} {opened : Thread} {e : Expr}
    (finished : .finished ∈ e.nexts holds opened) : ∃ way ∈ e.emptyWays, ∀ l ∈ way, holds l := by
  have free {ways : List (List Look)} (member : [] ∈ ways) : ∃ way ∈ ways, ∀ l ∈ way, holds l :=
    ⟨[], member, List.forall_mem_nil _⟩
  induction e generalizing opened with
  | empty => exact free List.mem_cons_self
  | literal bytes =>
    match bytes with
    | [] => exact free List.mem_cons_self
    | [b] =>
      rw [Expr.nexts] at finished
      split at finished <;> simp at finished
    | b :: c :: bytes =>
      rw [Expr.nexts] at finished
      · split at finished <;> simp at finished
      · simp
  | byteClass set | charClass set =>
    rw [Expr.nexts] at finished
    split at finished <;> simp at finished
  | look l =>
    rw [Expr.nexts] at finished
    refine ⟨[l], List.mem_cons_self, List.forall_mem_singleton.mpr ?_⟩
    split at finished
    · exact absurd finished List.not_mem_nil
    · split at finished
      · assumption
      · exact absurd finished List.not_mem_nil
  | repetition least most greedy body ih =>
    rw [Expr.emptyWays]
    split
    · exact free List.mem_cons_self
    · rename_i positive
      obtain ⟨n, rfl⟩ := Nat.exists_eq_succ_of_ne_zero positive
      rw [Expr.nexts] at finished
      split at finished
      · exact absurd finished List.not_mem_nil
      · obtain ⟨item, behind, finished⟩ := finished_of_rounds finished
        dsimp only [Next.round] at finished
        exact ih (finished_mem_andThen.mp finished).1
  | group index body ih =>
    rw [Expr.nexts] at finished
    split at finished
    · exact absurd finished List.not_mem_nil
    · exact ih finished
  | seq a b iha ihb =>
    rw [Expr.nexts] at finished
    split at finished
    · exact absurd finished List.not_mem_nil
    · obtain ⟨here, there⟩ := finished_mem_andThen.mp finished
      obtain ⟨first, inside, met⟩ := iha here
      obtain ⟨second, behind, met'⟩ := ihb there
      exact ⟨first ++ second, List.mem_flatMap.mpr ⟨_, inside, List.mem_map_of_mem behind⟩,
        List.forall_mem_append.mpr ⟨met, met'⟩⟩
  | alt a b iha ihb =>
    rw [Expr.nexts] at finished
    split at finished
    · exact absurd finished List.not_mem_nil
    · rcases List.mem_append.mp finished with finished | finished
      · obtain ⟨way, member, met⟩ := iha finished
        exact ⟨way, List.mem_append_left _ member, met⟩
      · obtain ⟨way, member, met⟩ := ihb finished
        exact ⟨way, List.mem_append_right _ member, met⟩

/-- Where nothing is open each of the ways can be gone. -/
theorem finished_of_emptyWay {holds : Look → Bool} {e : Expr} {way : List Look} (member : way ∈ e.emptyWays)
    (met : ∀ l ∈ way, holds l) : .finished ∈ e.nexts holds [] := by
  induction e generalizing way with
  | empty => exact List.mem_cons_self
  | literal bytes =>
    cases bytes with
    | nil => exact List.mem_cons_self
    | cons b bytes => nomatch member
  | byteClass set | charClass set => nomatch member
  | look l =>
    obtain rfl := List.mem_singleton.mp member
    have holds : holds l = true := met l List.mem_cons_self
    rw [Expr.nexts, if_pos holds]
    exact List.mem_cons_self
  | repetition least most greedy body ih =>
    have round (positive : 0 < least) (item : Item) (behind : Unit → List Next) (after : .finished ∈ behind ()) :
        .finished ∈ Next.round (body.nexts holds) [] item behind := by
      rw [Expr.emptyWays, if_neg (Nat.ne_of_gt positive)] at member
      exact finished_mem_andThen.mpr ⟨ih member met, after⟩
    rw [Expr.nexts, if_neg (by simp [Item.isOpen])]
    cases most with
    | none => exact finished_mem_atLeast round
    | some most => exact finished_mem_between round
  | group index body ih =>
    rw [Expr.nexts]
    exact ih member met
  | seq a b iha ihb =>
    obtain ⟨first, inside, member⟩ := List.mem_flatMap.mp member
    obtain ⟨second, behind, rfl⟩ := List.mem_map.mp member
    obtain ⟨here, there⟩ := List.forall_mem_append.mp met
    rw [Expr.nexts]
    exact List.mem_flatMap.mpr ⟨_, iha inside here, ihb behind there⟩
  | alt a b iha ihb =>
    rw [Expr.nexts]
    rcases List.mem_append.mp member with left | right
    · exact List.mem_append_left _ (iha left met)
    · exact List.mem_append_right _ (ihb right met)

/-- An expression matches the empty text where the conditions of one of its ways hold. -/
theorem zero_mem_widthsAt {e : Expr} {text : List UInt8} {pos : Nat} :
    0 ∈ e.widthsAt text pos ↔
      ∃ way ∈ e.emptyWays, ∀ l ∈ way, l.holds (text.take pos).reverse (text.drop pos) := by
  have finishes (holds : Look → Bool) : .finished ∈ Thread.nexts holds [.expr e] ↔
      ∃ way ∈ e.emptyWays, ∀ l ∈ way, holds l := by
    rw [Thread.nexts, Thread.nextsFrom, finished_mem_andThen]
    constructor
    · exact fun both => exists_emptyWay both.1
    · intro found
      obtain ⟨way, member, met⟩ := found
      exact ⟨finished_of_emptyWay member met, List.mem_cons_self⟩
  rw [← finishes, Expr.widthsAt]
  cases text.drop pos with
  | nil =>
    rw [Thread.widths, List.mem_flatMap]
    constructor
    · intro found
      obtain ⟨next, present, zero⟩ := found
      cases next with
      | finished => exact present
      | take demand rest => exact absurd zero List.not_mem_nil
    · exact fun present => ⟨_, present, List.mem_cons_self⟩
  | cons b ahead =>
    rw [Thread.widths, List.mem_flatMap]
    constructor
    · intro found
      obtain ⟨next, present, zero⟩ := found
      cases next with
      | finished => exact present
      | take demand rest =>
        simp only [Next.isFinished, Bool.false_eq_true, if_false] at zero
        split at zero <;> simp at zero
    · exact fun present => ⟨_, present, List.mem_cons_self⟩

/-- Conditions that hold together at some place. -/
def Meetable (way : List Look) : Prop := ∃ behind ahead, ∀ l ∈ way, l.holds behind ahead

def Expr.MatchesEmpty (e : Expr) : Prop := ∃ text pos, pos ≤ text.length ∧ 0 ∈ e.widthsAt text pos

theorem matchesEmpty_iff {e : Expr} : e.MatchesEmpty ↔ ∃ way ∈ e.emptyWays, Meetable way := by
  constructor
  · intro found
    obtain ⟨text, pos, _, zero⟩ := found
    obtain ⟨way, member, met⟩ := zero_mem_widthsAt.mp zero
    exact ⟨way, member, _, _, met⟩
  · intro found
    obtain ⟨way, member, behind, ahead, met⟩ := found
    refine ⟨behind.reverse ++ ahead, behind.length, by simp, zero_mem_widthsAt.mpr ⟨way, member, ?_⟩⟩
    simpa [List.take_append, List.drop_append] using met

/-! ## Lengths -/

/-- A class has a member. -/
def Expr.Peopled : Expr → Prop
  | .byteClass set | .charClass set => set.isEmpty = false
  | _ => True

theorem min_lengthLimit_eq_zero {n : Nat} : min n Expr.lengthLimit = 0 ↔ n = 0 := by
  have large : 0 < Expr.lengthLimit := by decide
  omega

/-- There is a shortest length where each class has a member. -/
theorem isSome_shortest?_iff {e : Expr} : e.shortest?.isSome ↔ e.Each Expr.Peopled := by
  induction e with
  | empty | literal bytes | look l => exact iff_of_true rfl trivial
  | byteClass set =>
    rw [Expr.shortest?, Expr.Each, Expr.Peopled]
    cases set.isEmpty <;> simp
  | charClass set =>
    rw [Expr.shortest?, Expr.Each, Expr.Peopled, Option.isSome_map, RangeSet.least?, RangeSet.isEmpty]
    cases set.ranges <;> simp
  | repetition least most greedy body ih =>
    rw [Expr.shortest?, Expr.Each, Option.isSome_map, ih]
    exact (and_iff_right trivial).symm
  | group index body ih => exact ih
  | seq a b iha ihb =>
    rw [Expr.shortest?, Expr.Each, ← iha, ← ihb]
    cases a.shortest? <;> cases b.shortest? <;> simp [Expr.addShortest]
  | alt a b iha ihb =>
    rw [Expr.shortest?, Expr.Each, ← iha, ← ihb]
    cases a.shortest? <;> cases b.shortest? <;> simp [Expr.chooseLength]

/-- It is zero where there is a way that reads nothing. -/
theorem shortest?_eq_zero_iff {e : Expr} {n : Nat} (found : e.shortest? = some n) : n = 0 ↔ e.emptyWays ≠ [] := by
  induction e generalizing n with
  | empty | look l =>
    obtain rfl := Option.some.inj found
    exact iff_of_true rfl (List.cons_ne_nil _ _)
  | literal bytes =>
    obtain rfl := Option.some.inj found
    cases bytes <;> simp [Expr.emptyWays]
  | byteClass set =>
    rw [Expr.shortest?] at found
    split at found
    · cases found
    · obtain rfl := Option.some.inj found
      exact iff_of_false Nat.one_ne_zero fun some => some rfl
  | charClass set =>
    obtain ⟨least, _, rfl⟩ := Option.map_eq_some_iff.mp found
    refine iff_of_false ?_ fun some => some rfl
    unfold Utf8.width
    split_ifs <;> simp
  | repetition least most greedy body ih =>
    obtain ⟨once, inner, rfl⟩ := Option.map_eq_some_iff.mp found
    rw [min_lengthLimit_eq_zero, Nat.mul_eq_zero, ih inner, Expr.emptyWays]
    split
    · exact iff_of_true (.inr ‹_›) (List.cons_ne_nil _ _)
    · exact or_iff_left ‹_›
  | group index body ih => exact ih found
  | seq a b iha ihb =>
    rw [Expr.shortest?] at found
    cases left : a.shortest? <;> cases right : b.shortest? <;>
      simp only [left, right, Expr.addShortest, Option.some.injEq, reduceCtorEq] at found
    subst found
    rw [min_lengthLimit_eq_zero, Nat.add_eq_zero_iff, iha left, ihb right, Expr.emptyWays]
    cases a.emptyWays <;> cases b.emptyWays <;> simp
  | alt a b iha ihb =>
    rw [Expr.shortest?] at found
    cases left : a.shortest? <;> cases right : b.shortest? <;>
      simp only [left, right, Expr.chooseLength, Option.some.injEq, reduceCtorEq] at found
    subst found
    have either (x y : Nat) : min x y = 0 ↔ x = 0 ∨ y = 0 := by omega
    rw [either, iha left, ihb right, Expr.emptyWays]
    cases a.emptyWays <;> simp

theorem getD_shortest?_eq_zero {e : Expr} :
    e.shortest?.getD 0 = 0 ↔ ¬e.Each Expr.Peopled ∨ e.emptyWays ≠ [] := by
  rw [← isSome_shortest?_iff]
  cases found : e.shortest? with
  | none => simp
  | some n => simp [shortest?_eq_zero_iff found]

end Triage.Regex
