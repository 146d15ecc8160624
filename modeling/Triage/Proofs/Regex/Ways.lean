import Mathlib.Algebra.BigOperators.Group.List.Basic
import Mathlib.Computability.Language

/-! Ways of reading the beginning of a text, in order of preference. Reading one thing after another is a
product, and a choice, in which the first is preferred, is a sum. A way that comes a second time makes
no difference to what is found first. -/

namespace Triage.Regex
open scoped Computability

/-- How much of a text each way reads, preferred ways first. -/
def Ways (α : Type) := List α → List Nat

namespace Ways
variable {α : Type} {first second third a b c : Ways α}

instance : One (Ways α) := ⟨fun _ => [0]⟩

instance : Zero (Ways α) := ⟨fun _ => []⟩

instance : Mul (Ways α) :=
  ⟨fun first second text => (first text).flatMap fun n => (second (text.drop n)).map (n + ·)⟩

instance : Add (Ways α) := ⟨fun first second text => first text ++ second text⟩

theorem one_apply (text : List α) : (1 : Ways α) text = [0] := rfl

theorem zero_apply (text : List α) : (0 : Ways α) text = [] := rfl

theorem mul_apply (first second : Ways α) (text : List α) :
    (first * second) text = (first text).flatMap fun n => (second (text.drop n)).map (n + ·) := rfl

theorem add_apply (first second : Ways α) (text : List α) :
    (first + second) text = first text ++ second text := rfl

instance : Monoid (Ways α) where
  mul_assoc first second third := by
    funext text
    simp only [mul_apply, List.flatMap_assoc, List.flatMap_map, List.map_flatMap, List.map_map, List.drop_drop,
      Function.comp_def, Nat.add_assoc]
  one_mul ways := by
    funext text
    simp [mul_apply, one_apply]
  mul_one ways := by
    funext text
    simp [mul_apply, one_apply]

instance : AddMonoid (Ways α) where
  add_assoc first second third := funext fun text => List.append_assoc ..
  zero_add ways := rfl
  add_zero ways := funext fun text => List.append_nil _
  nsmul := nsmulRec

theorem zero_mul (ways : Ways α) : 0 * ways = 0 := rfl

theorem add_mul (first second third : Ways α) : (first + second) * third = first * third + second * third :=
  funext fun _ => List.flatMap_append

/-! ## Repetitions -/

/-- The ways that read something. -/
def reading (ways : Ways α) : Ways α := fun text => (ways text).filter fun n => 0 < n && n ≤ text.length

def orStop (greedy : Bool) (ways : Ways α) : Ways α := if greedy then ways + 1 else 1 + ways

def upTo (greedy : Bool) (round : Ways α) : Nat → Ways α
  | 0 => 1
  | most + 1 => orStop greedy (round * upTo greedy round most)

/-- Any number of rounds, each of which reads something. There is no room for more of them than the text is
long. -/
def star (greedy : Bool) (round : Ways α) : Ways α :=
  fun text => upTo greedy round.reading text.length text

def repeated (greedy : Bool) (round : Ways α) (least : Nat) : Option Nat → Ways α
  | none => round ^ least * star greedy round
  | some most => round ^ least * upTo greedy round (most - least)

theorem orStop_congr {greedy : Bool} {text : List α} (same : first text = second text) :
    orStop greedy first text = orStop greedy second text := by
  cases greedy <;> simp [orStop, add_apply, same]

theorem mem_reading {ways : Ways α} {text : List α} {n : Nat} (member : n ∈ ways.reading text) :
    n ∈ ways text ∧ 0 < n ∧ n ≤ text.length := by
  simpa [reading] using member

theorem mul_congr {text : List α} (same : ∀ n ∈ first text, second (text.drop n) = third (text.drop n)) :
    (first * second) text = (first * third) text := by
  rw [mul_apply, mul_apply]
  exact List.flatMap_congr fun n member => by rw [same n member]

theorem upTo_nil (greedy : Bool) (round : Ways α) (fuel : Nat) : upTo greedy round.reading fuel [] = [0] := by
  cases fuel with
  | zero => rfl
  | succ fuel =>
    have none : round.reading [] = [] := by
      refine List.eq_nil_iff_forall_not_mem.mpr fun n member => ?_
      have bounds := (mem_reading member).2
      rw [List.length_nil] at bounds
      omega
    cases greedy <;> simp [upTo, orStop, add_apply, mul_apply, one_apply, none]

/-- More rounds than the text is long add nothing. -/
theorem upTo_eq_upTo (greedy : Bool) (round : Ways α) {fuel more : Nat} {text : List α}
    (enough : text.length ≤ fuel) (too : text.length ≤ more) :
    upTo greedy round.reading fuel text = upTo greedy round.reading more text := by
  induction fuel generalizing more text with
  | zero =>
    obtain rfl : text = [] := List.length_eq_zero_iff.mp (Nat.le_zero.mp enough)
    rw [upTo_nil, upTo_nil]
  | succ fuel ih =>
    cases more with
    | zero =>
      obtain rfl : text = [] := List.length_eq_zero_iff.mp (Nat.le_zero.mp too)
      rw [upTo_nil, upTo_nil]
    | succ more =>
      refine orStop_congr (mul_congr fun n member => ?_)
      have shorter : (text.drop n).length + 1 ≤ text.length := by
        have := (mem_reading member).2
        rw [List.length_drop]
        omega
      exact ih (by omega) (by omega)

theorem upTo_eq_star (greedy : Bool) (round : Ways α) {fuel : Nat} {text : List α} (enough : text.length ≤ fuel) :
    upTo greedy round.reading fuel text = star greedy round text :=
  upTo_eq_upTo greedy round enough (Nat.le_refl _)

theorem star_eq (greedy : Bool) (round : Ways α) :
    star greedy round = orStop greedy (round.reading * star greedy round) := by
  funext text
  rw [← upTo_eq_star greedy round (Nat.le_succ text.length)]
  refine orStop_congr (mul_congr fun n _ => upTo_eq_star greedy round ?_)
  rw [List.length_drop]
  exact Nat.sub_le _ _

/-- Nothing else reads one more round or stops. -/
theorem eq_star {greedy : Bool} {round ways : Ways α} (fixed : ways = orStop greedy (round.reading * ways)) :
    ways = star greedy round := by
  funext text
  induction length : text.length using Nat.strong_induction_on generalizing text with
  | h length ih =>
    subst length
    rw [fixed, star_eq]
    refine orStop_congr (mul_congr fun n member => ih _ ?_ _ rfl)
    have := (mem_reading member).2
    rw [List.length_drop]
    omega

/-! ## The first ways -/

theorem mem_mul {text : List α} {n : Nat} :
    n ∈ (a * b) text ↔ ∃ m ∈ a text, ∃ k ∈ b (text.drop m), m + k = n := by
  simp [mul_apply]

/-- The same is found first, whatever is looked for. -/
def Alike (first second : Ways α) : Prop :=
  ∀ text (look : Nat → Option Nat), (first text).findSome? look = (second text).findSome? look

theorem Alike.refl (a : Ways α) : a.Alike a := fun _ _ => rfl

theorem Alike.symm (alike : a.Alike b) : b.Alike a := fun text look => (alike text look).symm

theorem Alike.trans (alike : a.Alike b) (next : b.Alike c) : a.Alike c :=
  fun text look => (alike text look).trans (next text look)

theorem Alike.of_eq (same : a = b) : a.Alike b := same ▸ Alike.refl a

theorem mem_iff_findSome? {l : List Nat} {n : Nat} :
    n ∈ l ↔ (l.findSome? fun m => if m = n then some n else none).isSome := by
  rw [List.findSome?_isSome_iff]
  constructor
  · exact fun member => ⟨n, member, by simp⟩
  · intro found
    obtain ⟨m, member, same⟩ := found
    split at same
    · rename_i equal
      exact equal ▸ member
    · simp at same

theorem Alike.mem_iff (alike : a.Alike b) {text : List α} {n : Nat} : n ∈ a text ↔ n ∈ b text := by
  rw [mem_iff_findSome?, mem_iff_findSome?, alike]

theorem Alike.head? (alike : a.Alike b) (text : List α) : (a text).head? = (b text).head? := by
  have first (l : List Nat) : l.head? = l.findSome? some := by cases l <;> rfl
  rw [first, first, alike]

theorem findSome?_mul (first second : Ways α) (text : List α) (look : Nat → Option Nat) :
    ((first * second) text).findSome? look =
      (first text).findSome? fun n => (second (text.drop n)).findSome? fun m => look (n + m) := by
  rw [mul_apply]
  induction first text with
  | nil => rfl
  | cons n rest ih =>
    rw [List.flatMap_cons, List.findSome?_append, ih, List.findSome?_map, List.findSome?_cons]
    simp only [Function.comp_def]
    cases (second (text.drop n)).findSome? fun m => look (n + m) <;> rfl

theorem findSome?_reading (ways : Ways α) (text : List α) (look : Nat → Option Nat) :
    (ways.reading text).findSome? look =
      (ways text).findSome? fun n => if 0 < n ∧ n ≤ text.length then look n else none := by
  rw [reading]
  induction ways text with
  | nil => rfl
  | cons n rest ih =>
    rw [List.filter_cons, List.findSome?_cons]
    by_cases inside : 0 < n ∧ n ≤ text.length
    · rw [if_pos inside, if_pos (by simpa using inside), List.findSome?_cons, ih]
    · rw [if_neg inside, if_neg (by simpa using inside), ih]

theorem Alike.add (left : a.Alike b) (right : first.Alike second) : (a + first).Alike (b + second) := by
  intro text look
  rw [add_apply, add_apply, List.findSome?_append, List.findSome?_append, left, right]

theorem Alike.mul (left : a.Alike b) (right : first.Alike second) : (a * first).Alike (b * second) := by
  intro text look
  have later (n : Nat) : ((first (text.drop n)).findSome? fun m => look (n + m)) =
      (second (text.drop n)).findSome? fun m => look (n + m) := right _ _
  rw [findSome?_mul, findSome?_mul]
  simp only [later]
  exact left text _

theorem Alike.pow (alike : a.Alike b) (n : Nat) : (a ^ n).Alike (b ^ n) := by
  induction n with
  | zero => exact Alike.refl 1
  | succ n ih =>
    rw [pow_succ, pow_succ]
    exact ih.mul alike

theorem Alike.orStop (alike : a.Alike b) (greedy : Bool) : (a.orStop greedy).Alike (b.orStop greedy) := by
  cases greedy
  · exact (Alike.refl 1).add alike
  · exact alike.add (Alike.refl 1)

theorem Alike.reading (alike : a.Alike b) : a.reading.Alike b.reading := by
  intro text look
  rw [findSome?_reading, findSome?_reading, alike]

theorem Alike.upTo (alike : a.Alike b) (greedy : Bool) (most : Nat) :
    (upTo greedy a most).Alike (upTo greedy b most) := by
  induction most with
  | zero => exact Alike.refl 1
  | succ most ih => exact (alike.mul ih).orStop greedy

theorem Alike.star (alike : a.Alike b) (greedy : Bool) : (star greedy a).Alike (star greedy b) :=
  fun text look => alike.reading.upTo greedy text.length text look

theorem Alike.repeated (alike : a.Alike b) (greedy : Bool) (least : Nat) (most : Option Nat) :
    (repeated greedy a least most).Alike (repeated greedy b least most) := by
  cases most with
  | none => exact (alike.pow least).mul (alike.star greedy)
  | some most => exact (alike.pow least).mul (alike.upTo greedy _)

theorem alike_sum {β : Type} {left right : β → Ways α} {xs : List β} (each : ∀ x ∈ xs, (left x).Alike (right x)) :
    (xs.map left).sum.Alike (xs.map right).sum := by
  induction xs with
  | nil => exact Alike.refl 0
  | cons x xs ih =>
    obtain ⟨first, others⟩ := List.forall_mem_cons.mp each
    rw [List.map_cons, List.map_cons, List.sum_cons, List.sum_cons]
    exact first.add (ih others)

/-! ## Single ways -/

/-- All ways read the same. -/
def Single (ways : Ways α) : Prop := ∀ text, ∀ m ∈ ways text, ∀ n ∈ ways text, m = n

theorem findSome?_of_forall_eq {l : List Nat} {n : Nat} (all : ∀ m ∈ l, m = n) (look : Nat → Option Nat) :
    l.findSome? look = if l.isEmpty then none else look n := by
  induction l with
  | nil => rfl
  | cons m l ih =>
    obtain ⟨rfl, others⟩ := List.forall_mem_cons.mp all
    rw [List.findSome?_cons, ih others]
    cases look m <;> cases l <;> simp

theorem single_one : (1 : Ways α).Single := by
  intro text m here n there
  rw [List.mem_singleton.mp here, List.mem_singleton.mp there]

theorem Single.mul (left : a.Single) (right : b.Single) : (a * b).Single := by
  intro text m here n there
  obtain ⟨m, first, k, later, rfl⟩ := mem_mul.mp here
  obtain ⟨n, other, l, after, rfl⟩ := mem_mul.mp there
  obtain rfl := left text m first n other
  rw [right _ k later l after]

theorem single_prod {ways : List (Ways α)} (each : ∀ a ∈ ways, a.Single) : ways.prod.Single := by
  induction ways with
  | nil => exact single_one
  | cons a ways ih =>
    obtain ⟨first, others⟩ := List.forall_mem_cons.mp each
    rw [List.prod_cons]
    exact first.mul (ih others)

/-- Where there is no choice only membership counts. -/
theorem Single.alike (single : a.Single) (same : ∀ text n, n ∈ a text ↔ n ∈ b text) : a.Alike b := by
  intro text look
  by_cases none : a text = []
  · have none' : b text = [] :=
      List.eq_nil_iff_forall_not_mem.mpr fun n member => by simpa [none] using (same text n).mpr member
    rw [none, none']
  · obtain ⟨n, member⟩ := List.exists_mem_of_ne_nil _ none
    have here := findSome?_of_forall_eq (fun m inside => single text m inside n member) look
    have there := findSome?_of_forall_eq
      (fun m inside => single text m ((same text m).mpr inside) n member) look (l := b text)
    have some : b text ≠ [] := List.ne_nil_of_mem ((same text n).mp member)
    rw [here, there, if_neg (by simpa using none), if_neg (by simpa using some)]

/-- A choice may be put off until behind what is read in a single way. -/
theorem Single.mul_add (single : a.Single) (b c : Ways α) : (a * (b + c)).Alike (a * b + a * c) := by
  intro text look
  rw [add_apply, List.findSome?_append, findSome?_mul, findSome?_mul, findSome?_mul]
  by_cases none : a text = []
  · simp [none]
  · obtain ⟨n, member⟩ := List.exists_mem_of_ne_nil _ none
    have here (look : Nat → Option Nat) : (a text).findSome? look = look n := by
      rw [findSome?_of_forall_eq (fun m inside => single text m inside n member) look,
        if_neg (by simpa using none)]
    rw [here, here, here, add_apply, List.findSome?_append]

theorem Single.mul_sum {β : Type} (single : a.Single) (ways : β → Ways α) (xs : List β) :
    (a * (xs.map ways).sum).Alike (xs.map fun x => a * ways x).sum := by
  induction xs with
  | nil =>
    intro text look
    rw [List.map_nil, List.map_nil, List.sum_nil, findSome?_mul]
    simp [zero_apply]
  | cons x xs ih =>
    rw [List.map_cons, List.map_cons, List.sum_cons, List.sum_cons]
    exact (single.mul_add _ _).trans ((Alike.refl _).add ih)

/-! ## Words -/

open Classical in
/-- The ways that read a word. -/
noncomputable def ofLanguage (words : Language α) : Ways α :=
  fun text => (List.range (text.length + 1)).filter fun n => text.take n ∈ words

theorem mem_ofLanguage {words : Language α} {text : List α} {n : Nat} :
    n ∈ ofLanguage words text ↔ n ≤ text.length ∧ text.take n ∈ words := by
  simp [ofLanguage, Nat.lt_succ_iff]

/-- A word after a word is a word of the product. -/
theorem mem_ofLanguage_mul {first second : Language α} {text : List α} {n : Nat} :
    n ∈ (ofLanguage first * ofLanguage second) text ↔ n ∈ ofLanguage (first * second) text := by
  rw [mem_mul, mem_ofLanguage]
  constructor
  · intro found
    obtain ⟨m, here, k, there, rfl⟩ := found
    obtain ⟨fits, word⟩ := mem_ofLanguage.mp here
    obtain ⟨fits', word'⟩ := mem_ofLanguage.mp there
    rw [List.length_drop] at fits'
    exact ⟨by omega, List.take_add ▸ Language.append_mem_mul word word'⟩
  · intro found
    obtain ⟨fits, x, word, y, word', split⟩ := found
    have split : x ++ y = text.take n := split
    have length : x.length + y.length = n := by
      rw [← List.length_append, split, List.length_take_of_le fits]
    have whole : text = x ++ (y ++ text.drop n) := by
      rw [← List.append_assoc, split, List.take_append_drop]
    refine ⟨x.length, mem_ofLanguage.mpr ⟨by omega, ?_⟩, y.length, mem_ofLanguage.mpr ⟨?_, ?_⟩, length⟩
    · rwa [whole, List.take_left]
    · rw [List.length_drop]
      omega
    · rwa [whole, List.drop_left, List.take_left]

/-- No word begins with another. -/
def PrefixFree (words : Language α) : Prop := ∀ x ∈ words, ∀ y ∈ words, x <+: y → x = y

theorem single_ofLanguage {words : Language α} (free : PrefixFree words) : (ofLanguage words).Single := by
  have le (text : List α) (m n : Nat) (here : m ∈ ofLanguage words text) (there : n ∈ ofLanguage words text)
      (less : m ≤ n) : m = n := by
    obtain ⟨fits, word⟩ := mem_ofLanguage.mp here
    obtain ⟨fits', word'⟩ := mem_ofLanguage.mp there
    have same := congrArg List.length (free _ word _ word' (List.take_prefix_take_left less))
    rwa [List.length_take_of_le fits, List.length_take_of_le fits'] at same
  intro text m here n there
  rcases Nat.le_total m n with less | less
  · exact le text m n here there less
  · exact (le text n m there here less).symm

theorem prefixFree_of_length {words : Language α} {n : Nat} (length : ∀ w ∈ words, w.length = n) :
    PrefixFree words :=
  fun x here y there start => start.eq_of_length ((length x here).trans (length y there).symm)

end Ways

end Triage.Regex
