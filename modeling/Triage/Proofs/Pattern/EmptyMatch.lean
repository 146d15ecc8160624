import Triage.Proofs.Pattern.Compile
import Triage.Proofs.Regex.Nullable

/-! Expressions that are refused for matching the empty text. Each that matches it somewhere is refused. So are
expressions with a class that has no member, and those whose ways to read nothing meet conditions that exclude each
other; any other that is refused matches the empty text. -/

namespace Triage

namespace Pattern
open Regex

section refused
variable {d : PatternDef} {encoding : Encoding} {unicode : Bool} {order : Option Utf16.Order} {text : List Char}
  {e wide : Expr}

/-- The check comes last but for the limits on the automaton, whose faults are others. -/
theorem compileExpression_eq_emptyMatch (spelled : spellEscapes order.isSome d.text.toList = .ok text)
    (read : expressionOf? unicode d.nocase text = some e) (fine : lookFault? order.isSome e = none)
    (widened : widenIn order e = .ok wide) :
    compileExpression d unicode order = .error (.emptyMatch d.text) ↔ wide.shortest?.getD 0 = 0 := by
  rw [compileExpression_of_widened spelled read fine widened]
  by_cases zero : wide.shortest?.getD 0 = 0
  · rw [if_pos zero]
    exact iff_of_true rfl zero
  · rw [if_neg zero]
    refine iff_of_false (fun refused => ?_) zero
    dsimp only at refused
    split at refused
    · split at refused <;> nomatch refused
    · nomatch refused

/-- What matches the empty text somewhere is refused. What is refused matches it, unless a class has no member or
conditions exclude each other. -/
theorem compileRegex_emptyMatch (mode : encoding.mode? = some (unicode, order))
    (encodable : encoding = .ascii → d.text.toList.all Charset.isAscii)
    (spelled : spellEscapes order.isSome d.text.toList = .ok text)
    (read : expressionOf? unicode d.nocase text = some e) (fine : lookFault? order.isSome e = none)
    (widened : widenIn order e = .ok wide) :
    (wide.MatchesEmpty → compileRegex d encoding = .error (.emptyMatch d.text)) ∧
      (wide.Each Expr.Peopled → (∀ way ∈ wide.emptyWays, Meetable way) →
        compileRegex d encoding = .error (.emptyMatch d.text) → wide.MatchesEmpty) := by
  rw [compileRegex_of_mode mode encodable, compileExpression_eq_emptyMatch spelled read fine widened,
    getD_shortest?_eq_zero, matchesEmpty_iff]
  constructor
  · intro found
    obtain ⟨way, member, _⟩ := found
    exact .inr (List.ne_nil_of_mem member)
  · intro peopled meetable refused
    obtain ⟨way, member⟩ := List.exists_mem_of_ne_nil _ (refused.resolve_left (not_not_intro peopled))
    exact ⟨way, member, meetable way member⟩

end refused

/-- `x*\b` reads nothing at the edge of a word. -/
theorem compileRegex_emptyMatch_edge :
    ∃ e, expressionOf? false false "x*\\b".toList = some e ∧ e.MatchesEmpty ∧
      compileRegex { text := "x*\\b" } .ascii = .error (.emptyMatch "x*\\b") := by
  let e : Expr := .seq (.repetition 0 none true (.literal [120])) (.look (.word false .boundary))
  have read : expressionOf? false false "x*\\b".toList = some e := by decide +kernel
  obtain ⟨refused, emptied⟩ := @compileRegex_emptyMatch { text := "x*\\b" } .ascii false none _ e e rfl
    (fun _ => by decide) rfl read rfl rfl
  have edge : Look.holds [] [97] (.word false .boundary) := by decide
  have meetable : ∀ way ∈ e.emptyWays, Meetable way :=
    List.forall_mem_singleton.mpr ⟨[], [97], List.forall_mem_singleton.mpr edge⟩
  have found : e.MatchesEmpty := matchesEmpty_iff.mpr ⟨_, List.mem_cons_self, meetable _ List.mem_cons_self⟩
  exact ⟨e, read, emptied ⟨⟨trivial, trivial⟩, trivial⟩ meetable (refused found), refused found⟩

/-- The second branch of `a|[a&&b]` matches nothing. The expression matches an `a` and never the empty text, and is
refused for matching the empty text. -/
theorem emptyMatch_of_emptyClass :
    ∃ e, expressionOf? false false "a|[a&&b]".toList = some e ∧ e.endAt? [98, 97] 1 = some 2 ∧ ¬e.MatchesEmpty ∧
      compileRegex { text := "a|[a&&b]" } .ascii = .error (.emptyMatch "a|[a&&b]") := by
  let e : Expr := .alt (.literal [97]) .fail
  have others : ((RangeSet.singleton 97).complement 255).union ((RangeSet.singleton 98).complement 255) =
      ⟨[(0, 255)], by decide, by decide⟩ := RangeSet.ofList_eq (by cbv) rfl
  have set : ({ unicode := false } : Flags).classSet? (.op .inter (.literal ⟨'a', false⟩) (.literal ⟨'b', false⟩)) =
      some .empty := by
    change some ((((RangeSet.singleton 97).complement 255).union ((RangeSet.singleton 98).complement 255)).complement
      255) = _
    rw [others]
    rfl
  have parsed : parse? "a|[a&&b]".toList = some (.alternation [.literal ⟨'a', false⟩,
      .bracket false (.op .inter (.literal ⟨'a', false⟩) (.literal ⟨'b', false⟩))]) := rfl
  have read : expressionOf? false false "a|[a&&b]".toList = some e := by
    rw [expressionOf?, parsed]
    simp only [Option.bind_eq_bind, Option.bind_some, Syntax.elaborate?, Syntax.elaborateList?, set]
    rfl
  refine ⟨e, read, by decide +kernel, ?_, ?_⟩
  · rw [matchesEmpty_iff]
    intro found
    obtain ⟨way, member, _⟩ := found
    exact List.not_mem_nil member
  · have mode : Encoding.mode? .ascii = some (false, none) := rfl
    rw [compileRegex_of_mode mode fun _ => by decide]
    exact (compileExpression_eq_emptyMatch rfl read rfl rfl).mpr rfl

end Pattern

end Triage
