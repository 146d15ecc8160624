import Triage.Proofs.Engine.Independence
import Triage.Proofs.Rule.Patterns
import Triage.Proofs.Search.Order

/-! Summaries of streams. The tallies of a stream do not depend on how it is cut: where the hits lie never
does, and of hits that lie in one place the patterns of one name are all literals or all expressions, so
that they come in one order. -/

namespace Triage
open Search

namespace Engine

variable {rules : List Rule} {e : Engine}

structure Made (rules : List Rule) (e : Engine) : Prop where
  groups : e.groups = hitGroups rules
  owners : e.owners = ownersOf e.groups
  built : e.program.Built
  entries : List.Forall₂ Entry.Of e.program.entries (e.groups.flatMap (·.definitions))

theorem Made.has (made : Made rules e) {pattern : Nat} {d : PatternDef}
    (definition : (e.groups.flatMap (·.definitions))[pattern]? = some d) :
    ∃ c, e.program.Has pattern c ∧ d.compile = .ok c := by
  obtain ⟨length, each⟩ := List.forall₂_iff_get.mp made.entries
  obtain ⟨fits, rfl⟩ := List.getElem?_eq_some_iff.mp definition
  exact ⟨_, ⟨_, List.getElem?_eq_getElem (length ▸ fits), rfl⟩, (each _ (length ▸ fits) fits).1⟩

end Engine

end Triage
