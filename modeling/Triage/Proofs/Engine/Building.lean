import Triage.Proofs.Engine.Routing
import Triage.Proofs.Rule.Accepted

/-! Engines of rules that were read. What reading checks is all that building an engine asks for. -/

namespace Triage
open Search

namespace Search.Program

/-- Every pattern is tagged with its place. -/
def Tagged (p : Program) : Prop := ∀ (k : Nat) (e : Entry), p.entries[k]? = some e → e.info.tag = k

theorem Tagged.add {p q : Program} {d : PatternDef} (tagged : p.Tagged)
    (added : p.add p.size d = .ok q) : q.Tagged := by
  obtain ⟨c, compiled, added⟩ := Regex.bind_eq_ok.mp added
  obtain rfl := Except.ok.inj added
  intro k e place
  rcases Nat.lt_or_ge k p.entries.length with before | behind
  · rw [List.getElem?_append_left before] at place
    exact tagged k e place
  · rw [List.getElem?_append_right behind] at place
    rw [List.getElem?_singleton] at place
    obtain ⟨last, same⟩ := Option.ite_none_right_eq_some.mp place
    obtain rfl := Option.some.inj same
    dsimp only [size]
    omega

theorem Tagged.addAll {ds : List PatternDef} {p q : Program} (tagged : p.Tagged)
    (added : ds.foldlM (fun p d => p.add p.size d) p = .ok q) : q.Tagged := by
  induction ds generalizing p with
  | nil =>
    obtain rfl := Except.ok.inj added
    exact tagged
  | cons d ds ih =>
    rw [List.foldlM_cons] at added
    obtain ⟨next, first, others⟩ := Regex.bind_eq_ok.mp added
    exact ih (tagged.add first) others

end Search.Program

namespace Engine

/-- The pattern definitions of rules one after the other, each with the number of its rule and the
name that it has there. -/
def places (rules : List Rule) : List (Nat × String × PatternDef) :=
  rules.zipIdx.flatMap fun (r, i) =>
    (r.grep.toList.flatMap (·.patterns.entries)).flatMap fun (name, defs) => defs.map (i, name, ·)

/-- The engine has a pattern for a definition of a rule, and knows whose it is. -/
structure Holds (e : Engine) (rules : List Rule) (k : Nat) (i : Nat) (name : String)
    (d : PatternDef) : Prop where
  pattern : ∃ entry, e.program.entries[k]? = some entry ∧ entry.Of d ∧ entry.info.tag = k
  owner : ∃ g r, e.owner? k = some g ∧ rules[i]? = some r ∧ g.rule = i ∧ g.ruleId = r.id ∧
    g.name = name ∧ d ∈ g.definitions

end Engine
end Triage
