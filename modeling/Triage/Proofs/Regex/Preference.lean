import Triage.Proofs.Regex.NormalForm
import Triage.Proofs.Regex.Reads

/-! The builders keep the order of preference. Joined literals, merged classes and counts cut down leave no
choice that was there before. Taking a shared factor out of the branches of an alternation is another
matter: its ways come before the choice of a branch then, and only where it has no more than one way does
that make no difference. -/

namespace Triage.Regex
open scoped Computability

/-! ## Expressions without conditions or empty rounds -/

/-- What a backtracking reader reads in the same order. -/
abbrev Expr.Tame (e : Expr) : Prop := e.Each fun e => e.WellMade (fun _ => False) ∧ e.Consumes

theorem consumes_ofByteSet (set : RangeSet) : (Expr.ofByteSet set).Each Expr.Consumes := by
  unfold Expr.ofByteSet
  split <;> trivial

theorem consumes_ofCharSet (set : CharSet) : (Expr.ofCharSet set).Each Expr.Consumes := by
  unfold Expr.ofCharSet
  split
  · trivial
  · split <;> trivial

theorem closed_tame : Closed fun e => e.WellMade (fun _ => False) ∧ e.Consumes where
  empty := ⟨trivial, trivial⟩
  fail := ⟨rfl, trivial⟩
  blank := ⟨trivial, trivial⟩
  join _ _ := ⟨trivial, trivial⟩
  merge _ found := by
    refine (formed_classOfBranches? found).and ?_
    rcases classOfBranches?_cases found with ⟨_, _, rfl⟩ | ⟨_, _, rfl⟩ | ⟨_, _, rfl⟩ | ⟨_, _, rfl⟩
    · exact consumes_ofCharSet _
    · exact consumes_ofByteSet _
    · exact consumes_ofCharSet _
    · exact consumes_ofByteSet _
  once counts := ⟨closed_wellMade.once counts.1, trivial⟩

section tame
variable {e : Expr} {es : List Expr}

theorem formed_of_tame (tame : e.Tame) : e.Formed fun _ => False := tame.imp fun _ both => both.1

theorem allFormed_of_tame (tame : ∀ e ∈ es, e.Tame) : AllFormed (fun _ => False) es :=
  fun e member => formed_of_tame (tame e member)

theorem steady_of_tame (tame : e.Tame) : (Item.expr e).Steady :=
  ⟨tame.imp fun _ both => both.2, List.eq_nil_iff_forall_not_mem.mpr fun l member =>
    ((formed_iff_looks e).mp (formed_of_tame tame)).2 l member⟩

/-- How an expression reads bytes. -/
noncomputable abbrev Expr.byteWays (e : Expr) : Ways UInt8 := e.ways Expr.language

theorem mem_byteWays (tame : e.Tame) {text : List UInt8} {n : Nat} :
    n ∈ e.byteWays text ↔ n ≤ text.length ∧ text.take n ∈ e.language := by
  rw [← mem_reads (steady_of_tame tame).2]
  exact (alike_reads (steady_of_tame tame)).symm.mem_iff

theorem single_of_length (tame : e.Tame) {n : Nat} (length : ∀ w ∈ e.language, w.length = n) :
    e.byteWays.Single := by
  have only {text : List UInt8} {m : Nat} (member : m ∈ e.byteWays text) : m = n := by
    obtain ⟨fits, word⟩ := (mem_byteWays tame).mp member
    rw [← length _ word, List.length_take_of_le fits]
  exact fun text m here k there => (only here).trans (only there).symm

theorem mem_sum_byteWays (tame : ∀ e ∈ es, e.Tame) {text : List UInt8} {n : Nat} :
    n ∈ (es.map Expr.byteWays).sum text ↔ n ≤ text.length ∧ text.take n ∈ (es.map Expr.language).sum := by
  induction es with
  | nil => exact ⟨fun member => absurd member (List.not_mem_nil), fun found => found.2.elim⟩
  | cons e es ih =>
    obtain ⟨first, others⟩ := List.forall_mem_cons.mp tame
    rw [List.map_cons, List.map_cons, List.sum_cons, List.sum_cons, Ways.add_apply, List.mem_append,
      mem_byteWays first, ih others, Language.mem_add, and_or_left]

end tame

/-! ## Concatenations -/

theorem prod_byteWays_factors (e : Expr) : (e.factors.map Expr.byteWays).prod = e.byteWays :=
  prod_factors rfl (fun _ _ => rfl) e

theorem alike_literal_append (x y : List UInt8) :
    ((Expr.literal x).byteWays * (Expr.literal y).byteWays).Alike (Expr.literal (x ++ y)).byteWays := by
  have single : (Expr.literal (x ++ y)).byteWays.Single :=
    single_of_length ⟨trivial, trivial⟩ fun w same => congrArg List.length same
  refine (single.alike fun text n => ?_).symm
  have words : n ∈ ((Expr.literal x).byteWays * (Expr.literal y).byteWays) text ↔
      n ∈ Ways.ofLanguage ((Expr.literal x).language * (Expr.literal y).language) text := Ways.mem_ofLanguage_mul
  rw [literal_mul_literal] at words
  exact words.symm

theorem alike_literal_nil : (Expr.literal []).byteWays.Alike 1 := by
  refine (Ways.single_one.alike fun text n => ?_).symm
  rw [mem_byteWays (e := .literal []) ⟨trivial, trivial⟩]
  constructor
  · intro stop
    rw [List.mem_singleton.mp stop]
    exact ⟨Nat.zero_le _, rfl⟩
  · intro found
    obtain ⟨fits, word⟩ := found
    have none : (text.take n).length = 0 := congrArg List.length word
    rw [List.length_take_of_le fits] at none
    rw [none]
    exact List.mem_cons_self

theorem alike_joinLiterals (held : List UInt8) (es : List Expr) :
    ((Expr.joinLiterals held es).map Expr.byteWays).prod.Alike
      ((Expr.literal held).byteWays * (es.map Expr.byteWays).prod) := by
  have nothing (ways : Ways UInt8) : ways.Alike ((Expr.literal []).byteWays * ways) :=
    (Ways.Alike.of_eq (one_mul ways).symm).trans (alike_literal_nil.symm.mul (Ways.Alike.refl ways))
  induction es generalizing held with
  | nil =>
    rw [Expr.joinLiterals]
    split
    · rename_i empty
      rw [List.isEmpty_iff.mp empty]
      exact nothing 1
    · exact Ways.Alike.refl _
  | cons e es ih =>
    cases e with
    | literal bytes =>
      rw [Expr.joinLiterals, List.map_cons, List.prod_cons, ← mul_assoc]
      exact (ih _).trans ((alike_literal_append held bytes).symm.mul (Ways.Alike.refl _))
    | _ =>
      rw [Expr.joinLiterals]
      · split
        · rename_i empty
          rw [List.isEmpty_iff.mp empty, List.map_cons, List.map_cons, List.prod_cons, List.prod_cons]
          exact ((Ways.Alike.refl _).mul ((ih []).trans (nothing _).symm)).trans (nothing _)
        · rw [List.map_cons, List.map_cons, List.map_cons, List.prod_cons, List.prod_cons, List.prod_cons]
          exact (Ways.Alike.refl _).mul ((Ways.Alike.refl _).mul ((ih []).trans (nothing _).symm))
      · simp

theorem alike_concat (es : List Expr) : (Expr.concat es).byteWays.Alike (es.map Expr.byteWays).prod := by
  rw [Expr.concat, prod_ofFactors (v := Expr.byteWays) rfl fun _ _ => rfl, ← prod_flatMap prod_byteWays_factors es]
  refine (alike_joinLiterals [] _).trans ?_
  exact (alike_literal_nil.mul (Ways.Alike.refl _)).trans (Ways.Alike.of_eq (one_mul _))

/-! ## Classes -/

theorem byteWays_fail : Expr.fail.byteWays = 0 := by
  funext text
  refine List.eq_nil_iff_forall_not_mem.mpr fun n member => ?_
  have word := ((mem_byteWays (e := .fail) ⟨rfl, trivial⟩).mp member).2
  rw [language_fail] at word
  exact word

theorem single_ofByteSet (set : RangeSet) : (Expr.ofByteSet set).byteWays.Single := by
  unfold Expr.ofByteSet
  split
  · exact single_of_length ⟨trivial, trivial⟩ fun w same => congrArg List.length same
  · rename_i none
    refine single_of_length (n := 1) ⟨none, trivial⟩ fun w found => ?_
    obtain ⟨b, rfl, _⟩ := found
    rfl

theorem single_ofCharSet (set : CharSet) : (Expr.ofCharSet set).byteWays.Single := by
  unfold Expr.ofCharSet
  split
  · rw [byteWays_fail]
    exact fun text m here => absurd here List.not_mem_nil
  · split
    · exact single_of_length ⟨trivial, trivial⟩ fun w same => congrArg List.length same
    · exact Ways.single_ofLanguage (prefixFree_charWords set)

/-- Merged into a class, branches of which at most one matches are still found where they were. -/
theorem alike_classOfBranches? {es : List Expr} {e : Expr} (tame : ∀ e ∈ es, e.Tame)
    (found : Expr.classOfBranches? es = some e) : e.byteWays.Alike (es.map Expr.byteWays).sum := by
  have merged : e.Tame := closed_tame.merge tame found
  have single : e.byteWays.Single := by
    rcases classOfBranches?_cases found with ⟨_, _, rfl⟩ | ⟨_, _, rfl⟩ | ⟨_, _, rfl⟩ | ⟨_, _, rfl⟩
    · exact single_ofCharSet _
    · exact single_ofByteSet _
    · exact single_ofCharSet _
    · exact single_ofByteSet _
  refine single.alike fun text n => ?_
  rw [mem_byteWays merged, mem_sum_byteWays tame, language_classOfBranches? (allFormed_of_tame tame) found]

/-! ## Alternations -/

theorem sum_byteWays_branches (es : List Expr) :
    ((es.flatMap Expr.branches).map Expr.byteWays).sum = (es.map Expr.byteWays).sum :=
  sum_flatMap_branches (fun _ _ => rfl) es

theorem byteWays_ofBranches (es : List Expr) : (Expr.ofBranches es).byteWays = (es.map Expr.byteWays).sum :=
  sum_ofBranches byteWays_fail (fun _ _ => rfl) es

theorem alike_choose {es : List Expr} (tame : ∀ e ∈ es, e.Tame) :
    (Expr.choose es).byteWays.Alike (es.map Expr.byteWays).sum := by
  have parts : ∀ e ∈ es.flatMap Expr.branches, e.Tame := allEach_flatMap (fun _ => each_branches) tame
  rw [← sum_byteWays_branches, Expr.choose]
  split
  · rename_i e single
    rw [single]
    exact Ways.Alike.of_eq (by simp)
  · cases found : Expr.classOfBranches? (es.flatMap Expr.branches) with
    | some e => exact alike_classOfBranches? parts found
    | none => exact Ways.Alike.of_eq (byteWays_ofBranches _)

/-- All words of the expression have one length. -/
def Expr.OneLength (e : Expr) : Prop := ∃ n, ∀ w ∈ e.language, w.length = n

/-- Factors of one length may be taken out. -/
theorem alike_shared {shared es : List Expr} (tame : ∀ e ∈ es, e.Tame) (starts : ∀ e ∈ es, shared <+: e.factors)
    (single : (shared.map Expr.byteWays).prod.Single) :
    (Expr.concat (shared ++ [Expr.choose (es.map fun e =>
      Expr.concat (e.factors.drop shared.length))])).byteWays.Alike (es.map Expr.byteWays).sum := by
  have rest : ∀ e ∈ es.map fun e => Expr.concat (e.factors.drop shared.length), e.Tame := by
    intro e member
    obtain ⟨e, inside, rfl⟩ := List.mem_map.mp member
    exact each_concat closed_tame ((each_factors (tame e inside)).subset (List.drop_subset _ _))
  -- each branch is the shared factors and what is left of it
  have branch (e : Expr) (member : e ∈ es) : ((shared.map Expr.byteWays).prod *
      (Expr.concat (e.factors.drop shared.length)).byteWays).Alike e.byteWays := by
    have split : shared ++ e.factors.drop shared.length = e.factors := by
      obtain ⟨more, same⟩ := starts e member
      rw [← same, List.drop_left]
    have whole : (shared.map Expr.byteWays).prod * ((e.factors.drop shared.length).map Expr.byteWays).prod =
        e.byteWays := by
      rw [← List.prod_append, ← List.map_append, split, prod_byteWays_factors]
    exact ((Ways.Alike.refl _).mul (alike_concat _)).trans (Ways.Alike.of_eq whole)
  refine (alike_concat _).trans ?_
  rw [List.map_append, List.prod_append, List.map_singleton, List.prod_singleton]
  refine ((Ways.Alike.refl _).mul (alike_choose rest)).trans ?_
  rw [List.map_map]
  exact (single.mul_sum _ es).trans (Ways.alike_sum branch)

theorem alike_alternation {es : List Expr} (tame : ∀ e ∈ es, e.Tame)
    (fixed : ∀ f ∈ Expr.sharedFactors (es.flatMap Expr.branches), f.OneLength) :
    (Expr.alternation es).byteWays.Alike (es.map Expr.byteWays).sum := by
  have parts : ∀ e ∈ es.flatMap Expr.branches, e.Tame := allEach_flatMap (fun _ => each_branches) tame
  rw [← sum_byteWays_branches, Expr.alternation]
  generalize es.flatMap Expr.branches = branches at parts fixed
  rcases branches with _ | ⟨e, _ | ⟨f, rest⟩⟩
  · exact Ways.Alike.of_eq byteWays_fail
  · exact Ways.Alike.of_eq (by simp)
  · simp only
    split
    · rename_i found
      exact alike_classOfBranches? parts found
    · split
      · exact Ways.Alike.of_eq (byteWays_ofBranches _)
      · refine alike_shared parts (fun e member => sharedFactors_prefix member) (Ways.single_prod fun ways member => ?_)
        obtain ⟨factor, inside, rfl⟩ := List.mem_map.mp member
        obtain ⟨n, length⟩ := fixed factor inside
        have start : Expr.sharedFactors (e :: f :: rest) <+: e.factors := sharedFactors_prefix List.mem_cons_self
        exact single_of_length (each_factors (parts e List.mem_cons_self) factor (start.subset inside)) length

/-! ## Repetitions -/

/-- Counts are cut down only where there is nothing to choose. -/
theorem alike_repeated {least : Nat} {most : Option Nat} {greedy : Bool} {body : Expr}
    (tame : (Expr.repetition least most greedy body).Tame) :
    (Expr.repeated least most greedy body).byteWays.Alike (Expr.repetition least most greedy body).byteWays := by
  by_cases short : body.longest? = some 0
  · have formed := formed_of_tame tame
    have built : (Expr.repeated least most greedy body).Tame := each_repeated closed_tame tame.1 tame.2
    have same := language_repeated greedy formed.1 formed.2
    have empty : ∀ w ∈ (Expr.repetition least most greedy body).language, w.length = 0 := by
      intro w member
      rw [Expr.language, ← repeatWords_of_short (shortAs_longest? formed.2 short) formed.1] at member
      have ordered : min least 1 ≤ (most.map (min · 1)).getD 1 := by
        have := formed.1
        cases most with
        | none => exact Nat.min_le_right _ _
        | some most =>
          have := this most rfl
          simp
          omega
      have none := shortAs_repeatWords (shortAs_longest? formed.2 short) ordered w member
      omega
    refine ((single_of_length tame empty).alike fun text n => ?_).symm
    rw [mem_byteWays tame, mem_byteWays built, same]
    rfl
  · unfold Expr.repeated
    simp only [short, if_false]
    split
    · rename_i never
      obtain ⟨rfl, rfl⟩ := never
      exact Ways.Alike.of_eq (one_mul (1 : Ways UInt8)).symm
    · split
      · rename_i once
        obtain ⟨rfl, rfl⟩ := once
        have round : (Expr.repetition 1 (some 1) greedy body).byteWays = body.byteWays ^ 1 * 1 := rfl
        rw [round, pow_one, mul_one]
        exact Ways.Alike.refl _
      · exact Ways.Alike.refl _

end Triage.Regex
