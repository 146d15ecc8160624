import Mathlib.Data.List.Basic
import Triage.Proofs.Regex.Language
import Triage.Regex.Run.Lemmas

/-! All the ways through a thread, in order of preference, by the number of bytes they take. The
preferred match is the first of them. Cutting the text short, or changing what stands before it,
keeps the ways that end within reach of conditions that come out the same. -/

namespace Triage.Regex

/-- How many bytes each way through a thread takes, preferred ways first. -/
def Thread.widths (t : Thread) (behind : List UInt8) : List UInt8 → List Nat
  | [] =>
    (t.nexts (Look.holds behind [])).flatMap fun next => if next.isFinished then [0] else []
  | b :: ahead =>
    (t.nexts (Look.holds behind (b :: ahead))).flatMap fun next =>
      if next.isFinished then [0]
      else
        match next.advance? b with
        | some moved => (moved.widths (b :: behind) ahead).map (· + 1)
        | none => []

theorem stop?_eq_head?_widths (t : Thread) (pos : Nat) (behind ahead : List UInt8) :
    t.stop? pos behind ahead = (t.widths behind ahead).head?.map (pos + ·) := by
  induction ahead generalizing t pos behind with
  | nil =>
    rw [stop?_nil, Thread.widths, List.head?_flatMap, List.map_findSome?]
    congr 1
    funext next
    cases h : next.isFinished <;> simp [h]
  | cons b ahead ih =>
    rw [stop?_cons, Thread.widths, List.head?_flatMap, List.map_findSome?]
    congr 1
    funext next
    cases h : next.isFinished with
    | true => simp [h]
    | false =>
      cases advanced : next.advance? b with
      | none => simp [h, advanced]
      | some moved =>
        have step : (fun width => pos + width) ∘ (· + 1) = fun width => pos + 1 + width := by
          funext width
          simp only [Function.comp_apply]
          omega
        simp [h, advanced, ih, List.head?_map, Option.map_map, step]

/-- What a way reads is a word of the thread. -/
theorem take_mem_language {t : Thread} {behind ahead : List UInt8} {width : Nat}
    (member : width ∈ t.widths behind ahead) :
    width ≤ ahead.length ∧ ahead.take width ∈ Thread.language t := by
  induction ahead generalizing t behind width with
  | nil =>
    rw [Thread.widths] at member
    obtain ⟨next, present, member⟩ := List.mem_flatMap.mp member
    split at member
    · rename_i finished
      obtain rfl := List.mem_singleton.mp member
      exact ⟨Nat.zero_le _, nil_mem_language present finished⟩
    · simp at member
  | cons b ahead ih =>
    rw [Thread.widths] at member
    obtain ⟨next, present, member⟩ := List.mem_flatMap.mp member
    split at member
    · rename_i finished
      obtain rfl := List.mem_singleton.mp member
      exact ⟨Nat.zero_le _, nil_mem_language present finished⟩
    · split at member
      · rename_i moved advanced
        obtain ⟨rest, inside, rfl⟩ := List.mem_map.mp member
        obtain ⟨fits, word⟩ := ih inside
        refine ⟨Nat.succ_le_succ fits, ?_⟩
        rw [List.take_succ_cons]
        exact cons_mem_language present advanced word
      · simp at member

/-! ## What is left -/

/-- The items that may be left behind a byte that the expression reads. -/
def Expr.Leaves : Expr → Item → Prop
  | .literal _, item => ∃ bytes, item = .expr (.literal bytes)
  | .repetition _ none greedy body, item =>
    item = .again body greedy ∨ (∃ least, item = .expr (.repetition least none greedy body)) ∨ body.Leaves item
  | .repetition _ (some _) greedy body, item =>
    (∃ least most, item = .expr (.repetition least (some most) greedy body)) ∨ body.Leaves item
  | .group _ body, item => body.Leaves item
  | .seq a b, item => a.Leaves item ∨ item = .ofExpr b ∨ b.Leaves item
  | .alt a b, item => a.Leaves item ∨ b.Leaves item
  | _, _ => False

def Item.Leaves : Item → Item → Prop
  | .expr e, item => e.Leaves item
  | .again body greedy, item => item = .again body greedy ∨ body.Leaves item
  | .charRest _ _, _ => False

/-- Only such items stand behind the bytes that the steps take. -/
def Confined (left : Item → Prop) (nexts : List Next) : Prop :=
  ∀ demand rest, .take demand rest ∈ nexts → ∀ item ∈ rest, left item

section confined
variable {left : Item → Prop} {nexts : List Next}

theorem confined_nil : Confined left [] := by simp [Confined]

theorem confined_finished : Confined left [.finished] := by simp [Confined]

theorem Confined.mono {more : Item → Prop} (inside : Confined left nexts)
    (implies : ∀ item, left item → more item) : Confined more nexts :=
  fun demand rest member item here => implies item (inside demand rest member item here)

theorem confined_unless (cut : Prop) [Decidable cut] (inside : Confined left nexts) :
    Confined left (if cut then [] else nexts) := by
  split
  · exact confined_nil
  · exact inside

theorem confined_take {demand : Demand} {rest : Thread} (inside : ∀ item ∈ rest, left item) :
    Confined left [.take demand rest] := by
  intro other after member
  obtain ⟨rfl, rfl⟩ := Next.take.inj (List.mem_singleton.mp member)
  exact inside

theorem confined_append {more : List Next} (inside : Confined left nexts) (others : Confined left more) :
    Confined left (nexts ++ more) := by
  intro demand rest member
  rcases List.mem_append.mp member with member | member
  · exact inside demand rest member
  · exact others demand rest member

theorem confined_andThen {more : Unit → List Next} {rest : Thread} (inside : Confined left nexts)
    (behind : Confined left (more ())) (remains : ∀ item ∈ rest, left item) :
    Confined left (Next.andThen nexts more rest) := by
  intro demand after member
  obtain ⟨step, present, member⟩ := List.mem_flatMap.mp member
  cases step with
  | finished => exact behind demand after member
  | take demand own =>
    obtain ⟨rfl, rfl⟩ := Next.take.inj (List.mem_singleton.mp member)
    exact List.forall_mem_append.mpr ⟨inside _ own present, remains⟩

theorem confined_round {body : Thread → List Next} {opened : Thread} {item : Item} {behind : Unit → List Next}
    (inside : ∀ opened, Confined left (body opened)) (remains : left item) (after : Confined left (behind ())) :
    Confined left (Next.round body opened item behind) :=
  confined_andThen (inside _) (confined_unless _ after) (List.forall_mem_singleton.mpr remains)

theorem confined_orStop (greedy : Bool) (inside : Confined left nexts) :
    Confined left (Next.orStop greedy nexts) := by
  cases greedy
  · exact confined_append confined_finished inside
  · exact confined_append inside confined_finished

/-- Rounds of a repetition leave nothing else, whatever stands behind them. -/
def Rounds.Confined (r : Rounds) (left : Item → Prop) : Prop :=
  ∀ item behind, left item → Regex.Confined left (behind ()) → Regex.Confined left (r.round item behind)

theorem confined_atLeast {r : Rounds} (confined : r.Confined left) (again : left (.again r.body r.greedy))
    (counted : ∀ n, left (.expr (.repetition n none r.greedy r.body))) (least : Nat) :
    Confined left (r.atLeast least) := by
  have once : Confined left r.oneOrMore := confined _ _ again confined_finished
  induction least with
  | zero => exact confined_orStop _ once
  | succ n ih =>
    cases n with
    | zero => exact once
    | succ n => exact confined _ _ (counted _) ih

theorem confined_atMost {r : Rounds} (confined : r.Confined left)
    (counted : ∀ n m, left (.expr (.repetition n (some m) r.greedy r.body))) (most : Nat) :
    Confined left (r.atMost most) := by
  induction most with
  | zero => exact confined_finished
  | succ m ih => exact confined_orStop _ (confined _ _ (counted _ _) ih)

theorem confined_between {r : Rounds} (confined : r.Confined left)
    (counted : ∀ n m, left (.expr (.repetition n (some m) r.greedy r.body))) (most least : Nat) :
    Confined left (r.between most least) := by
  induction least generalizing most with
  | zero => exact confined_atMost confined counted most
  | succ n ih => exact confined _ _ (counted _ _) (ih (most - 1))

theorem confined_rounds {holds : Look → Bool} {opened : Thread} {greedy : Bool} {body : Expr}
    (inside : ∀ opened, Confined left (body.nexts holds opened)) :
    Rounds.Confined ⟨Next.round (body.nexts holds) opened, body, greedy⟩ left :=
  fun _ _ remains after => confined_round inside remains after

end confined

theorem confined_nexts (holds : Look → Bool) (opened : Thread) (e : Expr) :
    Confined e.Leaves (e.nexts holds opened) := by
  induction e generalizing opened with
  | empty =>
    rw [Expr.nexts]
    exact confined_unless _ confined_finished
  | literal bytes =>
    rcases bytes with _ | ⟨b, _ | ⟨c, bytes⟩⟩
    · rw [Expr.nexts]
      exact confined_unless _ confined_finished
    · rw [Expr.nexts]
      exact confined_unless _ (confined_take (by simp))
    · rw [Expr.nexts]
      · exact confined_unless _ (confined_take (List.forall_mem_singleton.mpr ⟨_, rfl⟩))
      · simp
  | byteClass set | charClass set =>
    rw [Expr.nexts]
    exact confined_unless _ (confined_take (by simp))
  | look l =>
    rw [Expr.nexts]
    apply confined_unless
    split
    · exact confined_finished
    · exact confined_nil
  | repetition least most greedy body ih =>
    rw [Expr.nexts]
    apply confined_unless
    cases most with
    | none =>
      exact confined_atLeast (confined_rounds fun opened => (ih opened).mono fun _ leaves => .inr (.inr leaves))
        (.inl rfl) (fun n => .inr (.inl ⟨n, rfl⟩)) least
    | some most =>
      exact confined_between (confined_rounds fun opened => (ih opened).mono fun _ leaves => .inr leaves)
        (fun n m => .inl ⟨n, m, rfl⟩) most least
  | group index body ih =>
    rw [Expr.nexts]
    exact confined_unless _ (ih opened)
  | seq a b iha ihb =>
    rw [Expr.nexts]
    exact confined_unless _ (confined_andThen ((iha _).mono fun _ leaves => .inl leaves)
      ((ihb opened).mono fun _ leaves => .inr (.inr leaves)) (List.forall_mem_singleton.mpr (.inr (.inl rfl))))
  | alt a b iha ihb =>
    rw [Expr.nexts]
    exact confined_unless _ (confined_append ((iha opened).mono fun _ leaves => .inl leaves)
      ((ihb opened).mono fun _ leaves => .inr leaves))

theorem confined_nexts_item (holds : Look → Bool) (opened : Thread) (item : Item) :
    Confined item.Leaves (item.nexts holds opened) := by
  cases item with
  | expr e => exact confined_nexts holds [] e
  | again body greedy =>
    exact confined_orStop _ (confined_andThen ((confined_nexts holds opened body).mono fun _ leaves => .inr leaves)
      confined_nil (List.forall_mem_singleton.mpr (.inl rfl)))
  | charRest seen set => exact confined_take (by simp)

/-- A thread leaves some of its items and what the others leave. -/
theorem confined_nextsFrom (holds : Look → Bool) (opened t : Thread) :
    Confined (fun left => ∃ item ∈ t, left = item ∨ item.Leaves left) (Thread.nextsFrom holds opened t) := by
  induction t generalizing opened with
  | nil => exact confined_finished
  | cons head items ih =>
    refine confined_andThen ((confined_nexts_item holds opened head).mono fun left leaves => ?_)
      ((ih (head :: opened)).mono fun left found => ?_) fun left member => ?_
    · exact ⟨head, List.mem_cons_self, .inr leaves⟩
    · obtain ⟨item, member, leaves⟩ := found
      exact ⟨item, List.mem_cons_of_mem _ member, leaves⟩
    · exact ⟨left, List.mem_cons_of_mem _ member, .inl rfl⟩

/-- After a byte only the rest of a character may be left of a demand. -/
theorem meet?_spec {demand : Demand} {b : UInt8} {own : Thread} (met : demand.meet? b = some own) :
    ∀ left ∈ own, ∃ seen set, left = .charRest seen set := by
  have within (set : CharSet) (p : Utf8.Progress) (met : Utf8.Progress.within set p = some own) :
      ∀ left ∈ own, ∃ seen set, left = .charRest seen set := by
    cases p <;> grind [Utf8.Progress.within]
  cases demand with
  | byte set => grind [Demand.meet?]
  | char set => exact within set _ met
  | charRest seen set => exact within set _ met

/-- The items after a byte are the rest of a character, if any, and those that the step leaves. -/
theorem advance?_spec {t moved : Thread} {holds : Look → Bool} {next : Next} {b : UInt8}
    (member : next ∈ t.nexts holds) (advanced : next.advance? b = some moved) :
    ∀ left ∈ moved, (∃ seen set, left = .charRest seen set) ∨ ∃ item ∈ t, left = item ∨ item.Leaves left := by
  cases next with
  | finished => simp [Next.advance?] at advanced
  | take demand rest =>
    obtain ⟨own, met, rfl⟩ := Option.map_eq_some_iff.mp advanced
    intro left here
    rcases List.mem_append.mp here with here | here
    · exact .inl (meet?_spec met left here)
    · exact .inr (confined_nextsFrom holds [] t demand rest member left here)

/-! ## Conditions -/

def Item.looks : Item → List Look
  | .expr e => e.looks
  | .again body _ => body.looks
  | .charRest _ _ => []

def Thread.looks (t : Thread) : List Look := t.flatMap Item.looks

theorem looks_ofExpr (e : Expr) : (Item.ofExpr e).looks = e.looks := by
  unfold Item.ofExpr
  split
  · split <;> rfl
  · rfl

theorem looks_singleton (item : Item) : Thread.looks [item] = item.looks := by simp [Thread.looks]

theorem looks_of_leaves {e : Expr} {left : Item} (leaves : e.Leaves left) : left.looks ⊆ e.looks := by
  induction e with
  | empty | byteClass set | charClass set | look l => exact leaves.elim
  | literal bytes =>
    obtain ⟨bytes, rfl⟩ := leaves
    exact List.nil_subset _
  | repetition least most greedy body ih =>
    cases most with
    | none =>
      rcases leaves with rfl | ⟨n, rfl⟩ | leaves
      · exact List.Subset.refl _
      · exact List.Subset.refl _
      · exact ih leaves
    | some most =>
      rcases leaves with ⟨n, m, rfl⟩ | leaves
      · exact List.Subset.refl _
      · exact ih leaves
  | group index body ih => exact ih leaves
  | seq a b iha ihb =>
    rcases leaves with leaves | rfl | leaves
    · exact List.subset_append_of_subset_left _ (iha leaves)
    · rw [looks_ofExpr]
      exact List.subset_append_right _ _
    · exact List.subset_append_of_subset_right _ (ihb leaves)
  | alt a b iha ihb =>
    rcases leaves with leaves | leaves
    · exact List.subset_append_of_subset_left _ (iha leaves)
    · exact List.subset_append_of_subset_right _ (ihb leaves)

/-- After a byte a thread meets no condition that it did not hold before. -/
theorem looks_advance {holds : Look → Bool} {t moved : Thread} {next : Next} {b : UInt8}
    (member : next ∈ t.nexts holds) (advanced : next.advance? b = some moved) :
    Thread.looks moved ⊆ Thread.looks t := by
  intro l inside
  obtain ⟨left, here, inside⟩ := List.mem_flatMap.mp inside
  rcases advance?_spec member advanced left here with ⟨seen, set, rfl⟩ | ⟨item, present, rfl | leaves⟩
  · nomatch inside
  · exact List.mem_flatMap.mpr ⟨_, present, inside⟩
  · refine List.mem_flatMap.mpr ⟨item, present, ?_⟩
    cases item with
    | expr e => exact looks_of_leaves leaves inside
    | again body greedy =>
      rcases leaves with rfl | leaves
      · exact inside
      · exact looks_of_leaves leaves inside
    | charRest seen set => exact leaves.elim

/-! ## Text out of sight -/

theorem nexts_congr {holds other : Look → Bool} (opened : Thread) (e : Expr)
    (agree : ∀ l ∈ e.looks, holds l = other l) : e.nexts holds opened = e.nexts other opened := by
  induction e generalizing opened with
  | empty => rfl
  | literal bytes =>
    cases bytes with
    | nil => rfl
    | cons b bytes =>
      cases bytes with
      | nil => rfl
      | cons c bytes =>
        rw [Expr.nexts, Expr.nexts]
        all_goals simp
  | byteClass set => rfl
  | charClass set => rfl
  | look l =>
    rw [Expr.nexts, Expr.nexts, agree l List.mem_cons_self]
  | repetition least most greedy body ih =>
    have same : body.nexts holds = body.nexts other := funext fun opened => ih opened agree
    rw [Expr.nexts, Expr.nexts, same]
  | group index body ih => rw [Expr.nexts, Expr.nexts, ih opened agree]
  | seq a b iha ihb =>
    rw [Expr.nexts, Expr.nexts]
    simp only [iha _ fun l member => agree l (List.mem_append_left _ member),
      ihb opened fun l member => agree l (List.mem_append_right _ member)]
  | alt a b iha ihb =>
    rw [Expr.nexts, Expr.nexts, iha opened fun l member => agree l (List.mem_append_left _ member),
      ihb opened fun l member => agree l (List.mem_append_right _ member)]

theorem nextsFrom_congr {holds other : Look → Bool} (opened t : Thread)
    (agree : ∀ l ∈ Thread.looks t, holds l = other l) :
    Thread.nextsFrom holds opened t = Thread.nextsFrom other opened t := by
  induction t generalizing opened with
  | nil => rfl
  | cons head items ih =>
    have first (opened : Thread) : head.nexts holds opened = head.nexts other opened := by
      have within : ∀ l ∈ head.looks, holds l = other l := fun l member =>
        agree l (List.mem_append_left _ member)
      cases head with
      | expr e => exact nexts_congr [] e within
      | again body greedy => rw [Item.nexts, Item.nexts, nexts_congr opened body within]
      | charRest seen set => rfl
    rw [Thread.nextsFrom, Thread.nextsFrom, first,
      ih (head :: opened) fun l member => agree l (List.mem_append_right _ member)]

/-- The ways shorter than `n` depend on the bytes that they read and on the conditions at fewer than
`n` bytes from the start, not on what else stands before or behind. -/
theorem widths_local {n : Nat} {t : Thread} {behind behind' here : List UInt8} (rest : List UInt8)
    (agree : ∀ l ∈ Thread.looks t, ∀ x y, here = x ++ y → x.length < n →
      Look.holds (x.reverse ++ behind) y l = Look.holds (x.reverse ++ behind') (y ++ rest) l)
    (fits : n ≤ here.length + 1) :
    (t.widths behind here).filter (· < n) = (t.widths behind' (here ++ rest)).filter (· < n) := by
  induction here generalizing n t behind behind' with
  | nil =>
    obtain rfl | rfl : n = 0 ∨ n = 1 := by
      simp only [List.length_nil] at fits
      omega
    · simp
    have same : t.nexts (Look.holds behind []) = t.nexts (Look.holds behind' rest) :=
      nextsFrom_congr [] t fun l member => agree l member [] [] rfl Nat.one_pos
    rw [List.nil_append, Thread.widths, same]
    cases rest with
    | nil => rw [Thread.widths]
    | cons b rest =>
      rw [Thread.widths, List.filter_flatMap, List.filter_flatMap]
      congr 1
      funext next
      cases next.isFinished with
      | true => rfl
      | false =>
        cases next.advance? b with
        | none => rfl
        | some moved => simp
  | cons b here ih =>
    cases n with
    | zero => simp
    | succ n =>
      have same : t.nexts (Look.holds behind (b :: here)) =
          t.nexts (Look.holds behind' (b :: (here ++ rest))) :=
        nextsFrom_congr [] t fun l member => agree l member [] (b :: here) rfl n.succ_pos
      rw [List.cons_append, Thread.widths, Thread.widths, same, List.filter_flatMap,
        List.filter_flatMap]
      apply List.flatMap_congr
      intro next member
      cases next.isFinished with
      | true => rfl
      | false =>
        cases advanced : next.advance? b with
        | none => simp
        | some moved =>
          have known : ∀ l ∈ Thread.looks moved, ∀ x y, here = x ++ y → x.length < n →
              Look.holds (x.reverse ++ b :: behind) y l =
                Look.holds (x.reverse ++ b :: behind') (y ++ rest) l := by
            intro l inside x y split short
            have at_x := agree l (looks_advance member advanced inside) (b :: x) y
              (by rw [split, List.cons_append]) (by simpa using short)
            simpa using at_x
          have later := ih known (by simpa using fits)
          simpa [advanced, List.filter_map, Function.comp_def] using congrArg (List.map (· + 1)) later

end Triage.Regex
