import Mathlib.Algebra.Order.Monoid.Unbundled.Pow
import Mathlib.Computability.Language
import Mathlib.Order.CompletePartialOrder
import Triage.Proofs.RangeSet
import Triage.Proofs.Utf8
import Triage.Regex.Match

/-! The words that an expression spells, its conditions on positions left aside. Whatever a thread
reads up to a finish is a word of what remained to be matched, in whichever order its steps are
preferred and whichever of them are cut. -/

namespace Triage.Regex
open scoped Computability

def byteWords (set : RangeSet) : Language UInt8 := {w | ∃ b : UInt8, w = [b] ∧ set.contains b.toNat}

/-- The encodings of the members of a set of characters. -/
def charWords (set : CharSet) : Language UInt8 :=
  {w | ∃ code, Utf8.first? w = some (code, []) ∧ set.contains code}

def repeatWords {α : Type} (words : Language α) (least : Nat) : Option Nat → Language α
  | none => words ^ least * words∗
  | some most => words ^ least * (1 + words) ^ (most - least)

def Expr.language : Expr → Language UInt8
  | .empty => 1
  | .literal bytes => {bytes}
  | .byteClass set => byteWords set
  | .charClass set => charWords set
  | .look _ => 1
  | .repetition least most _ body => repeatWords body.language least most
  | .group _ body => body.language
  | .seq a b => a.language * b.language
  | .alt a b => a.language + b.language

def Item.language : Item → Language UInt8
  | .expr e => e.language
  | .again body _ => body.language∗
  | .charRest seen set => {w | ∃ code, seen.finish? w = some (code, []) ∧ set.contains code}

def Thread.language (t : Thread) : Language UInt8 := (t.map Item.language).prod

/-- A byte that meets the demand with what the demand then asks for. -/
def Demand.language (demand : Demand) : Language UInt8 :=
  {w | ∃ b own rest, w = b :: rest ∧ demand.meet? b = some own ∧ rest ∈ Thread.language own}

def Next.language : Next → Language UInt8
  | .finished => 1
  | .take demand rest => demand.language * Thread.language rest

theorem Thread.language_cons (item : Item) (t : Thread) :
    Thread.language (item :: t) = item.language * Thread.language t := by
  simp [Thread.language]

theorem Thread.language_append (t u : Thread) :
    Thread.language (t ++ u) = Thread.language t * Thread.language u := by
  simp [Thread.language]

@[simp] theorem Thread.language_nil : Thread.language [] = 1 := rfl

@[simp] theorem Thread.language_singleton (item : Item) :
    Thread.language [item] = item.language := by
  rw [Thread.language_cons, Thread.language_nil, mul_one]

/-! ## Demands -/

theorem demand_byte (set : RangeSet) : (Demand.byte set).language = byteWords set := by
  ext w
  constructor
  · intro found
    obtain ⟨b, own, rest, rfl, met, inside⟩ := found
    rw [Demand.meet?] at met
    split at met
    · rename_i member
      obtain rfl := Option.some.inj met
      exact ⟨b, by rw [(Language.mem_one rest).mp inside], member⟩
    · simp at met
  · intro found
    obtain ⟨b, rfl, member⟩ := found
    exact ⟨b, [], [], rfl, by simp [Demand.meet?, member], Language.nil_mem_one⟩

/-- Both kinds of demands for characters read on as the decoder does. -/
private theorem within_language (set : CharSet) (p : Utf8.Progress) (rest : List UInt8) :
    (∃ own, Utf8.Progress.within set p = some own ∧ rest ∈ Thread.language own) ↔
      ∃ code, p.finish? rest = some (code, []) ∧ set.contains code := by
  cases p with
  | refused => simp [Utf8.Progress.within, Utf8.Progress.finish?]
  | more p =>
    simp only [Utf8.Progress.within, Option.some.injEq, exists_eq_left', Thread.language_singleton]
    rfl
  | complete code =>
    cases member : set.contains code <;>
      simp [Utf8.Progress.within, Utf8.Progress.finish?, member, Language.mem_one]

theorem demand_char (set : CharSet) : (Demand.char set).language = charWords set := by
  ext w
  constructor
  · intro found
    obtain ⟨b, own, rest, rfl, met, inside⟩ := found
    obtain ⟨code, read, member⟩ := (within_language set _ rest).mp ⟨own, met, inside⟩
    exact ⟨code, (Utf8.first?_cons b rest).trans read, member⟩
  · intro found
    obtain ⟨code, read, member⟩ := found
    cases w with
    | nil => simp [Utf8.first?] at read
    | cons b rest =>
      rw [Utf8.first?_cons] at read
      obtain ⟨own, met, inside⟩ := (within_language set (Utf8.opening b) rest).mpr
        ⟨code, read, member⟩
      exact ⟨b, own, rest, rfl, met, inside⟩

theorem demand_charRest (seen : Utf8.Partial) (set : CharSet) :
    (Demand.charRest seen set).language = (Item.charRest seen set).language := by
  ext w
  constructor
  · intro found
    obtain ⟨b, own, rest, rfl, met, inside⟩ := found
    obtain ⟨code, read, member⟩ := (within_language set _ rest).mp ⟨own, met, inside⟩
    exact ⟨code, (Utf8.finish?_cons seen b rest).trans read, member⟩
  · intro found
    obtain ⟨code, read, member⟩ := found
    cases w with
    | nil => simp [Utf8.Partial.finish?] at read
    | cons b rest =>
      rw [Utf8.finish?_cons] at read
      obtain ⟨own, met, inside⟩ := (within_language set (seen.next b) rest).mpr
        ⟨code, read, member⟩
      exact ⟨b, own, rest, rfl, met, inside⟩

/-! ## Steps -/

def Within (words : Language UInt8) (nexts : List Next) : Prop := ∀ next ∈ nexts, next.language ≤ words

theorem within_nil (words : Language UInt8) : Within words [] := by simp [Within]

theorem within_unless {words : Language UInt8} {nexts : List Next} (cut : Prop) [Decidable cut]
    (inside : Within words nexts) : Within words (if cut then [] else nexts) := by
  split
  · exact within_nil _
  · exact inside

theorem within_finished {words : Language UInt8} (stops : 1 ≤ words) : Within words [.finished] := by
  intro next member
  obtain rfl := List.mem_singleton.mp member
  exact stops

theorem Within.mono {small large : Language UInt8} {nexts : List Next} (inside : Within small nexts)
    (le : small ≤ large) : Within large nexts :=
  fun next member => (inside next member).trans le

theorem within_andThen {first second : Language UInt8} {nexts : List Next}
    {more : Unit → List Next} {rest : Thread} (inside : Within first nexts)
    (behind : Within second (more ())) (remains : Thread.language rest ≤ second) :
    Within (first * second) (Next.andThen nexts more rest) := by
  intro next member
  obtain ⟨step, present, member⟩ := List.mem_flatMap.mp member
  have led := inside step present
  cases step with
  | finished =>
    have least : 1 ≤ first := led
    calc next.language = 1 * next.language := (one_mul _).symm
      _ ≤ first * second := mul_le_mul' least (behind next member)
  | take demand own =>
    obtain rfl := List.mem_singleton.mp member
    rw [Next.language, Thread.language_append, ← mul_assoc]
    exact mul_le_mul' led remains

theorem within_orStop {words : Language UInt8} {nexts : List Next} (greedy : Bool)
    (stops : 1 ≤ words) (inside : Within words nexts) :
    Within words (Next.orStop greedy nexts) := by
  intro next member
  have cases : next = .finished ∨ next ∈ nexts := by
    cases greedy <;> simp [Next.orStop] at member <;> tauto
  rcases cases with rfl | member
  · exact stops
  · exact inside next member

theorem within_round {words behindWords : Language UInt8} {body : Thread → List Next}
    {opened : Thread} {item : Item} {behind : Unit → List Next}
    (inside : ∀ opened, Within words (body opened)) (remains : item.language ≤ behindWords)
    (after : Within behindWords (behind ())) :
    Within (words * behindWords) (Next.round body opened item behind) := by
  exact within_andThen (inside _) (within_unless _ after) (by simpa using remains)

/-! ## Repetitions -/

theorem ofExpr_language (e : Expr) : (Item.ofExpr e).language = e.language := by
  unfold Item.ofExpr
  split
  · split
    · simp [Item.language, Expr.language, repeatWords]
    · rfl
  · rfl

/-- A repetition's rounds lead to words of its body and then to those behind the round. -/
def Rounds.Sound (r : Rounds) : Prop :=
  ∀ item behind words, item.language ≤ words → Within words (behind ()) →
    Within (r.body.language * words) (r.round item behind)

section rounds
variable {r : Rounds}

theorem within_oneOrMore (sound : r.Sound) :
    Within (r.body.language * r.body.language∗) r.oneOrMore :=
  sound _ _ _ le_rfl (within_finished one_le_kstar)

theorem within_atLeast (sound : r.Sound) (least : Nat) :
    Within (r.body.language ^ least * r.body.language∗) (r.atLeast least) := by
  have once := within_oneOrMore sound
  induction least with
  | zero =>
    rw [pow_zero, one_mul]
    exact within_orStop _ one_le_kstar (once.mono mul_kstar_le_kstar)
  | succ n ih =>
    cases n with
    | zero => simpa [Rounds.atLeast] using once
    | succ n =>
      rw [pow_succ', mul_assoc]
      exact sound _ _ _ le_rfl ih

theorem within_atMost (sound : r.Sound) (most : Nat) :
    Within ((1 + r.body.language) ^ most) (r.atMost most) := by
  induction most with
  | zero => exact within_finished (pow_zero _).ge
  | succ m ih =>
    have stops : (1 : Language UInt8) ≤ (1 + r.body.language) ^ (m + 1) :=
      one_le_pow_of_one_le' (le_self_add (a := (1 : Language UInt8))) _
    apply within_orStop _ stops
    have round := sound (.expr (.repetition 0 (some m) r.greedy r.body)) (fun _ => r.atMost m)
      ((1 + r.body.language) ^ m) (by simp [Item.language, Expr.language, repeatWords]) ih
    apply round.mono
    rw [pow_succ']
    exact mul_le_mul' le_add_self le_rfl

theorem within_between (sound : r.Sound) (most least : Nat) :
    Within (r.body.language ^ least * (1 + r.body.language) ^ (most - least))
      (r.between most least) := by
  induction least generalizing most with
  | zero =>
    rw [pow_zero, one_mul, Nat.sub_zero]
    exact within_atMost sound most
  | succ n ih =>
    rw [pow_succ', mul_assoc, show most - (n + 1) = most - 1 - n by omega]
    exact sound (.expr (.repetition n (some (most - 1)) r.greedy r.body))
      (fun _ => r.between (most - 1) n) _ le_rfl (ih (most - 1))

end rounds

/-! ## Threads -/

theorem sound_round {holds : Look → Bool} {opened : Thread} {greedy : Bool} {body : Expr}
    (inside : ∀ opened, Within body.language (body.nexts holds opened)) :
    Rounds.Sound ⟨Next.round (body.nexts holds) opened, body, greedy⟩ :=
  fun _ _ _ remains after => within_round inside remains after

theorem within_single {words : Language UInt8} {next : Next} (led : next.language ≤ words) :
    Within words [next] := by
  intro other member
  obtain rfl := List.mem_singleton.mp member
  exact led

theorem within_nexts_literal (holds : Look → Bool) (opened : Thread) (bytes : List UInt8) :
    Within (Expr.literal bytes).language ((Expr.literal bytes).nexts holds opened) := by
  have demand (b : UInt8) : (Demand.byte (RangeSet.singleton b.toNat)).language = {[b]} := by
    rw [demand_byte]
    ext w
    constructor
    · intro found
      obtain ⟨c, rfl, same⟩ := found
      rw [RangeSet.contains_singleton, UInt8.toNat_inj] at same
      rw [same]
      rfl
    · intro same
      subst same
      exact ⟨b, rfl, RangeSet.contains_singleton.mpr rfl⟩
  match bytes with
  | [] =>
    rw [Expr.nexts]
    exact within_unless _ (within_finished le_rfl)
  | [b] =>
    rw [Expr.nexts]
    refine within_unless _ (within_single ?_)
    rw [Next.language, demand, Thread.language_nil, mul_one]
    rfl
  | b :: c :: bytes =>
    rw [Expr.nexts]
    · refine within_unless _ (within_single ?_)
      rw [Next.language, demand, Thread.language_singleton]
      intro w found
      obtain ⟨first, rfl, rest, rfl, rfl⟩ := found
      rfl
    · simp

theorem within_nexts (holds : Look → Bool) (opened : Thread) (e : Expr) :
    Within e.language (e.nexts holds opened) := by
  induction e generalizing opened with
  | empty =>
    rw [Expr.nexts]
    exact within_unless _ (within_finished le_rfl)
  | literal bytes => exact within_nexts_literal holds opened bytes
  | byteClass set =>
    rw [Expr.nexts]
    refine within_unless _ (within_single ?_)
    rw [Next.language, Thread.language_nil, mul_one, demand_byte]
    exact le_rfl
  | charClass set =>
    rw [Expr.nexts]
    refine within_unless _ (within_single ?_)
    rw [Next.language, Thread.language_nil, mul_one, demand_char]
    exact le_rfl
  | look l =>
    rw [Expr.nexts]
    apply within_unless
    split
    · exact within_finished le_rfl
    · exact within_nil _
  | repetition least most greedy body ih =>
    rw [Expr.nexts]
    apply within_unless
    cases most with
    | none => exact within_atLeast (sound_round ih) least
    | some most => exact within_between (sound_round ih) most least
  | group index body ih =>
    rw [Expr.nexts]
    exact within_unless _ (ih opened)
  | seq a b iha ihb =>
    rw [Expr.nexts]
    refine within_unless _ (within_andThen (iha _) (ihb _) ?_)
    rw [Thread.language_singleton, ofExpr_language]
  | alt a b iha ihb =>
    rw [Expr.nexts]
    apply within_unless
    intro next member
    rcases List.mem_append.mp member with member | member
    · exact (iha opened next member).trans le_self_add
    · exact (ihb opened next member).trans le_add_self

theorem within_nexts_item (holds : Look → Bool) (opened : Thread) (item : Item) :
    Within item.language (item.nexts holds opened) := by
  cases item with
  | expr e => exact within_nexts holds [] e
  | again body greedy =>
    apply within_orStop greedy one_le_kstar
    have round : Within (body.language * body.language∗)
        (Next.andThen (body.nexts holds opened) (fun _ => []) [.again body greedy]) :=
      within_andThen (within_nexts holds opened body) (within_nil _)
        (Thread.language_singleton _).le
    exact round.mono mul_kstar_le_kstar
  | charRest seen set =>
    apply within_single
    rw [Next.language, Thread.language_nil, mul_one, demand_charRest]

theorem within_nextsFrom (holds : Look → Bool) (opened t : Thread) :
    Within (Thread.language t) (Thread.nextsFrom holds opened t) := by
  induction t generalizing opened with
  | nil => exact within_finished le_rfl
  | cons item items ih =>
    rw [Thread.language_cons, Thread.nextsFrom]
    exact within_andThen (within_nexts_item holds opened item) (ih (item :: opened)) le_rfl

/-- A thread can finish only where the empty word is left to be matched. -/
theorem nil_mem_language {holds : Look → Bool} {t : Thread} {next : Next}
    (member : next ∈ t.nexts holds) (finished : next.isFinished) : [] ∈ Thread.language t := by
  cases next with
  | finished => exact within_nextsFrom holds [] t _ member Language.nil_mem_one
  | take demand rest => simp [Next.isFinished] at finished

/-- What a thread reads begins with a byte that a step takes. -/
theorem cons_mem_language {holds : Look → Bool} {t moved : Thread} {next : Next} {b : UInt8}
    {w : List UInt8} (member : next ∈ t.nexts holds) (advanced : next.advance? b = some moved)
    (rest : w ∈ Thread.language moved) : b :: w ∈ Thread.language t := by
  cases next with
  | finished => simp [Next.advance?] at advanced
  | take demand remains =>
    obtain ⟨own, met, rfl⟩ := Option.map_eq_some_iff.mp advanced
    rw [Thread.language_append] at rest
    obtain ⟨first, inside, last, after, rfl⟩ := rest
    apply within_nextsFrom holds [] t _ member
    exact ⟨b :: first, ⟨b, own, first, rfl, met, inside⟩, last, after, rfl⟩

end Triage.Regex
