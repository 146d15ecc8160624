import Mathlib
import Triage.Proofs.Engine.Routing

/-! Rules side by side. All rules share one program, but what a rule is told of a file is a function of
the hits of its own patterns, and these are the same whatever other rules there are. -/

namespace Triage
open Search

/-- What counts of a tally: how many hits there are, and where those lie that are kept. -/
def HitTally.outline (t : HitTally) : Nat × List (Nat × Nat) := (t.count, t.kept.map Hit.span)

namespace Rule

/-- None of the rule's expressions asks where words begin or end. -/
def Wordless (r : Rule) : Prop :=
  ∀ d ∈ r.definitions, ∀ x, d.compile = .ok (.regex x) → ∀ unicode edge,
    .word unicode edge ∉ x.expr.looks

/-- The hits of the rule's patterns with the texts of the patterns. -/
def textHits (r : Rule) (own : List Hit) : List (String × Nat × Nat) :=
  own.filterMap fun h => (r.definitions[h.pattern]?).map fun d => (d.text, h.start, h.stop)

def outline? (r : Rule) (name : String) (own : List Hit) : Option (Nat × List (Nat × Nat)) :=
  ((Engine.groupsOf 0 r).findIdx? (·.name == name)).bind fun j =>
    ((Engine.groupsOf 0 r)[j]?).map fun g =>
      (HitTally.ofHits g.keep (own.filter fun h => r.owners[h.pattern]? = some j)).outline

theorem textHits_perm (r : Rule) {own others : List Hit} (perm : own.Perm others) :
    (r.textHits own).Perm (r.textHits others) :=
  perm.filterMap _

theorem outline?_eq_of_perm (r : Rule) (name : String) {own others : List Hit}
    (perm : own.Perm others) : r.outline? name own = r.outline? name others := by
  unfold outline?
  congr 1
  funext j
  congr 1
  funext g
  obtain ⟨count, kept⟩ := HitTally.ofHits_eq_of_perm g.keep
    ((perm.filter fun h => r.owners[h.pattern]? = some j).map Hit.span)
  rw [HitTally.outline, HitTally.outline, count, kept]

end Rule

namespace Engine

/-- The hits whose patterns belong to a rule, with the texts of the patterns. -/
def ownedBy (e : Engine) (rule : Nat) (hits : List Hit) : List (String × Nat × Nat) :=
  hits.filterMap fun h => do
    let owner ← e.owner? h.pattern
    let info ← e.program.info? h.pattern
    if owner.rule = rule then some (info.text, h.start, h.stop) else none

/-- What is known of a file whose content, if it has one, was read in chunks. -/
def factsOf (e : Engine) (d : Dirent) (n : Inode) (hashes : Option FileHashes)
    (content : Option (List (List UInt8))) : FileFacts where
  dirent := d
  inode := n
  hashes := hashes
  hits := content.map fun chunks => .ofHits e (streamed e.program chunks)

section stands
variable {e : Engine} {i : Nat} {r : Rule} {before after : List HitGroup}

/-- The hits of a rule's own patterns, by their places in the rule. -/
def ownHits (before : List HitGroup) (r : Rule) (hits : List Hit) : List Hit :=
  within (patternsIn before) r.definitions.length hits

theorem ownedBy_eq (stands : Stands e i r before after) (hits : List Hit) :
    e.ownedBy i hits = r.textHits (ownHits before r hits) := by
  rw [ownedBy, Rule.textHits, ownHits, within, List.filterMap_map, List.filterMap_filter]
  apply List.filterMap_congr
  intro h _
  have kind := stands.rule_owner? h.pattern
  by_cases stretch : patternsIn before ≤ h.pattern ∧
      h.pattern < patternsIn before + r.definitions.length
  · obtain ⟨g, owner, own⟩ := kind.mpr stretch
    have place : h.pattern - patternsIn before < r.definitions.length := by omega
    have definition := List.getElem?_eq_getElem place
    obtain ⟨entry, found, _, text⟩ := stands.entry definition
    rw [Nat.add_sub_cancel' stretch.1] at found
    have info : e.program.info? h.pattern = some entry.info := by
      rw [Program.info?, found, Option.map_some]
    simp [stretch, owner, info, own, definition, text]
  · have missing : ∀ g, e.owner? h.pattern = some g → g.rule ≠ i := fun g owner own =>
      stretch (kind.mp ⟨g, owner, own⟩)
    rw [if_neg (by simpa using stretch)]
    cases owner : e.owner? h.pattern with
    | none => rfl
    | some g =>
      cases e.program.info? h.pattern with
      | none => rfl
      | some info => simp [missing g owner]

theorem findIdx?_groups (stands : Stands e i r before after) (name : String) :
    e.groups.findIdx? (fun g => g.rule == i && g.name == name) =
      ((groupsOf 0 r).findIdx? (·.name == name)).map (before.length + ·) := by
  have elsewhere {groups : List HitGroup} (others : ∀ g ∈ groups, g.rule ≠ i) :
      groups.findIdx? (fun g => g.rule == i && g.name == name) = none :=
    List.findIdx?_eq_none_iff.mpr fun g member => by simp [others g member]
  obtain ⟨early, late⟩ := List.forall_mem_append.mp stands.others
  rw [stands.groups, List.findIdx?_append, List.findIdx?_append, elsewhere early, elsewhere late,
    groupsOf_eq i r, List.findIdx?_map]
  simp only [Option.map_none, Option.or_none, Option.none_or, Function.comp_def, beq_self_eq_true,
    Bool.true_and, Nat.add_comm]

theorem span_hits_of_group (stands : Stands e i r before after) (hits : List Hit) {j : Nat}
    (inside : j < (groupsOf i r).length) :
    (hits.filter fun h => e.owners[h.pattern]? = some (before.length + j)).map Hit.span =
      ((ownHits before r hits).filter fun h => r.owners[h.pattern]? = some j).map Hit.span := by
  rw [ownHits, within, List.filter_map, List.filter_filter, List.map_map]
  have same : hits.filter (fun h => e.owners[h.pattern]? = some (before.length + j)) =
      hits.filter fun h => ((fun h : Hit => decide (r.owners[h.pattern]? = some j)) ∘
        fun h : Hit => { h with pattern := h.pattern - patternsIn before }) h &&
          decide (patternsIn before ≤ h.pattern ∧
            h.pattern < patternsIn before + r.definitions.length) := by
    apply List.filter_congr
    intro h _
    simp only [Function.comp_apply, ← Bool.decide_and]
    refine decide_eq_decide.mpr ((stands.owner inside).trans ?_)
    constructor
    · intro found
      have place := (List.getElem?_eq_some_iff.mp found.2).1
      rw [length_owners] at place
      exact ⟨found.2, found.1, by omega⟩
    · exact fun found => ⟨found.2.1, found.1⟩
  rw [same]
  rfl

theorem find?_outline (stands : Stands e i r before after) (hits : List Hit) (name : String) :
    ((HitSummary.ofHits e hits).find? e i name).map HitTally.outline =
      r.outline? name (ownHits before r hits) := by
  have index : (HitSummary.ofHits e hits).find? e i name =
      (((groupsOf 0 r).findIdx? (·.name == name)).map (before.length + ·)).bind
        fun k => (HitSummary.ofHits e hits).tallies[k]? := by
    rw [← findIdx?_groups stands]
    rfl
  rw [index, Rule.outline?]
  cases found : (groupsOf 0 r).findIdx? (·.name == name) with
  | none => rfl
  | some j =>
    have first := (List.findIdx?_eq_some_iff_getElem.mp found).1
    have inside : j < (groupsOf i r).length := by
      rw [groupsOf_eq, List.length_map]
      exact first
    have group : e.groups[before.length + j]? = some { (groupsOf 0 r)[j] with rule := i } := by
      rw [stands.group inside, groupsOf_eq, List.getElem?_map, List.getElem?_eq_getElem first,
        Option.map_some]
    have tally := HitSummary.getElem?_ofHits e hits group
    have spans := span_hits_of_group stands hits inside
    obtain ⟨count, kept⟩ := HitTally.ofHits_eq_of_perm (groupsOf 0 r)[j].keep (List.Perm.of_eq spans)
    simp only [Option.map_some, Option.bind_some, tally, List.getElem?_eq_getElem first,
      HitTally.outline, count, kept]

end stands

end Engine

/-! ## Conditions -/

namespace HitView

/-- Views that count the same hits, and whose hits lie in the same places. -/
structure Agree (v w : HitView) : Prop where
  count : v.count = w.count
  nth : ∀ name n, (v.nth? name n).map Hit.span = (w.nth? name n).map Hit.span

theorem callHolds_congr {v w : HitView} (agree : v.Agree w) (names : List String) (c : HitCall) :
    v.callHolds names c = w.callHolds names c := by
  have places (f : Nat × Nat → Bool) :
      ((names.head?.bind fun name => v.nth? name (c.hitIndex.getD 0)).any fun h => f h.span) =
        (names.head?.bind fun name => w.nth? name (c.hitIndex.getD 0)).any fun h => f h.span := by
    cases names.head? with
    | none => rfl
    | some name =>
      have same := agree.nth name (c.hitIndex.getD 0)
      simp only [Option.bind_some]
      cases first : v.nth? name (c.hitIndex.getD 0) <;>
        cases second : w.nth? name (c.hitIndex.getD 0) <;> simp_all
  unfold callHolds
  rw [agree.count]
  cases c.function with
  | offset => exact places fun span => c.comparison.any fun x => x.1.compare span.1 x.2
  | length => exact places fun span => c.comparison.any fun x => x.1.compare (span.2 - span.1) x.2
  | _ => rfl

theorem conditionHolds_congr {v w : HitView} (agree : v.Agree w) (g : GrepSection) :
    v.conditionHolds g = w.conditionHolds g := by
  unfold conditionHolds
  congr 1
  funext leaf
  cases leaf with
  | call c => exact callHolds_congr agree _ c
  | property c => rfl

end HitView

namespace Engine

/-- A rule sees of its tallies what their outlines tell. -/
theorem agree_view {e f : Engine} {s t : HitSummary} {i j : Nat}
    (same : ∀ name, (s.find? e i name).map HitTally.outline =
      (t.find? f j name).map HitTally.outline) : (s.view e i).Agree (t.view f j) := by
  have counts (tally : Option HitTally) :
      (tally.map (·.count)).getD 0 = ((tally.map HitTally.outline).map (·.1)).getD 0 := by
    cases tally <;> rfl
  have places (tally : Option HitTally) (n : Nat) :
      (tally.bind fun t => t.kept[n]?).map Hit.span =
        (tally.map HitTally.outline).bind fun outline => outline.2[n]? := by
    cases tally with
    | none => rfl
    | some t => simp [HitTally.outline]
  constructor
  · funext name
    simp only [HitSummary.view, counts, same]
  · intro name n
    simp only [HitSummary.view, places, same]

theorem mem_matching {e : Engine} {facts : FileFacts} {r : Rule} :
    r ∈ e.matching facts ↔ ∃ i : Nat, e.rules[i]? = some r ∧ e.ruleHolds facts i r := by
  rw [matching, List.mem_map]
  constructor
  · intro found
    obtain ⟨⟨r, i⟩, member, rfl⟩ := found
    obtain ⟨place, holds⟩ := List.mem_filter.mp member
    exact ⟨i, List.mem_zipIdx_iff_getElem?.mp place, holds⟩
  · intro found
    obtain ⟨i, place, holds⟩ := found
    exact ⟨(r, i), List.mem_filter.mpr ⟨List.mem_zipIdx_iff_getElem?.mpr place, holds⟩, rfl⟩

theorem rules_ofRules {rules : List Rule} {e : Engine} (built : ofRules rules = .ok e) :
    e.rules = rules := by
  obtain ⟨program, _, built⟩ := Regex.bind_eq_ok.mp built
  rw [← Except.ok.inj built]

/-! ## Two engines -/

section two
variable {e f : Engine} {i j : Nat} {r : Rule} {before after before' after' : List HitGroup}

/-- A stream gives the rule's own patterns the same hits in both engines. -/
theorem ownHits_streamed (stands : Stands e i r before after) (again : Stands f j r before' after')
    (wordless : r.Wordless) (chunks : List (List UInt8)) :
    (ownHits before r (streamed e.program chunks)).Perm
      (ownHits before' r (streamed f.program chunks)) := by
  apply within_perm
  intro place inside
  have definition := List.getElem?_eq_getElem inside
  obtain ⟨one, found, compiled, _⟩ := stands.entry definition
  obtain ⟨two, found', compiled', _⟩ := again.entry definition
  have same : two.compiled = one.compiled := Except.ok.inj (compiled'.symm.trans compiled)
  refine spansOf_streamed stands.built again.built (stands.window.trans again.window.symm)
    ⟨one, found, rfl⟩ ⟨two, found', same⟩ (fun x regex => ?_) chunks
  exact wordless _ (List.getElem_mem inside) x (regex ▸ compiled)

theorem outline_streamed (stands : Stands e i r before after) (again : Stands f j r before' after')
    (wordless : r.Wordless) (chunks : List (List UInt8)) (name : String) :
    ((HitSummary.ofHits e (streamed e.program chunks)).find? e i name).map HitTally.outline =
      ((HitSummary.ofHits f (streamed f.program chunks)).find? f j name).map HitTally.outline := by
  rw [find?_outline stands, find?_outline again]
  exact r.outline?_eq_of_perm name (ownHits_streamed stands again wordless chunks)

theorem ruleHolds_eq (stands : Stands e i r before after) (again : Stands f j r before' after')
    (wordless : r.Wordless) (d : Dirent) (n : Inode) (hashes : Option FileHashes)
    (content : Option (List (List UInt8))) :
    e.ruleHolds (e.factsOf d n hashes content) i r =
      f.ruleHolds (f.factsOf d n hashes content) j r := by
  have grep (g : GrepSection) :
      ((e.factsOf d n hashes content).hits.any fun s => (s.view e i).conditionHolds g) =
        (f.factsOf d n hashes content).hits.any fun s => (s.view f j).conditionHolds g := by
    cases content with
    | none => simp only [factsOf, Option.map_none, Option.any_none]
    | some chunks =>
      have agree := agree_view (outline_streamed stands again wordless chunks)
      simp only [factsOf, Option.map_some, Option.any_some]
      exact HitView.conditionHolds_congr agree g
  unfold ruleHolds
  simp only [grep]
  simp only [factsOf]

end two

/-- What a file gives a rule does not depend on the rules beside it, nor on its place among them. -/
theorem rule_independent {rules others : List Rule} {e f : Engine} {i j : Nat} {r : Rule}
    (engine : ofRules rules = .ok e) (other : ofRules others = .ok f) (here : rules[i]? = some r)
    (there : others[j]? = some r) (wordless : r.Wordless) :
    (∀ chunks, (e.ownedBy i (streamed e.program chunks)).Perm
      (f.ownedBy j (streamed f.program chunks))) ∧
    (∀ chunks name,
      ((HitSummary.ofHits e (streamed e.program chunks)).find? e i name).map HitTally.outline =
        ((HitSummary.ofHits f (streamed f.program chunks)).find? f j name).map HitTally.outline) ∧
    ∀ d n hashes content, r ∈ e.matching (e.factsOf d n hashes content) ↔
      r ∈ f.matching (f.factsOf d n hashes content) := by
  obtain ⟨_, _, stands⟩ := exists_stands engine here
  obtain ⟨_, _, again⟩ := exists_stands other there
  refine ⟨fun chunks => ?_, fun chunks name => outline_streamed stands again wordless chunks name,
    fun d n hashes content => ?_⟩
  · rw [ownedBy_eq stands, ownedBy_eq again]
    exact r.textHits_perm (ownHits_streamed stands again wordless chunks)
  · rw [mem_matching, mem_matching]
    constructor
    · intro found
      obtain ⟨k, place, holds⟩ := found
      obtain ⟨_, _, first⟩ := exists_stands engine (rules_ofRules engine ▸ place)
      exact ⟨j, again.rule, ruleHolds_eq first again wordless d n hashes content ▸ holds⟩
    · intro found
      obtain ⟨k, place, holds⟩ := found
      obtain ⟨_, _, first⟩ := exists_stands other (rules_ofRules other ▸ place)
      exact ⟨i, stands.rule, ruleHolds_eq first stands wordless d n hashes content ▸ holds⟩

/-- A rule that asks for an expression without a bound. -/
def runsRule : Rule where
  name := "Runs"
  id := "runs"
  info := ⟨[]⟩
  hash := none
  fileMetadata := none
  signature := none
  grep := some ⟨⟨[("r", [⟨"a+b", false, false, "ASCII"⟩])]⟩, .leaf (.call ⟨.any, [], none, none⟩)⟩
  firstToken := 0
  lastToken := 0

def letterRule : Rule :=
  { runsRule with
    id := "letter"
    grep := some ⟨⟨[("l", [⟨"b", false, false, "ASCII"⟩])]⟩, .leaf (.call ⟨.any, [], none, none⟩)⟩ }

def runs : RegexPattern :=
  ⟨.seq (.repetition 1 none true (.literal [97])) (.literal [98]), 2, none⟩

theorem compile_runs : PatternDef.compile ⟨"a+b", false, false, "ASCII"⟩ = .ok (.regex runs) :=
  Program.eq_ok_of_toOption (by decide +kernel)

theorem wordless_runsRule : runsRule.Wordless := by
  intro d member x compiled unicode edge
  obtain rfl := List.mem_singleton.mp member
  obtain rfl := CompiledPattern.regex.inj (Except.ok.inj (compiled.symm.trans compile_runs))
  simp [runs, Regex.Expr.looks]

/-- The engine of the rules with the program that is known for them. -/
def withProgram (rules : List Rule) (p : Program) : Engine :=
  ⟨rules, hitGroups rules, ownersOf (hitGroups rules), p⟩

theorem ofRules_eq {rules : List Rule} {p : Program}
    (added : ((hitGroups rules).flatMap (·.definitions)).foldlM addPattern {} = .ok p) :
    ofRules rules = .ok (withProgram rules p) := by
  rw [ofRules, added]
  rfl

def runsAlone : Engine :=
  withProgram [runsRule] { entries := [⟨⟨0, "a+b", "ASCII", 4096⟩, .regex runs⟩] }

def runsBehind : Engine :=
  withProgram [letterRule, runsRule]
    { entries := [⟨⟨0, "b", "ASCII", 1⟩, .literal ⟨[98], false⟩⟩,
        ⟨⟨1, "a+b", "ASCII", 4096⟩, .regex runs⟩] }

theorem runsRule_behind :
    (runsBehind.ownedBy 1 (streamed runsBehind.program [[97], [97, 98]])).Perm [("a+b", 0, 3)] := by
  have alone : ofRules [runsRule] = .ok runsAlone :=
    ofRules_eq (Program.eq_ok_of_toOption (by decide +kernel))
  have behind : ofRules [letterRule, runsRule] = .ok runsBehind :=
    ofRules_eq (Program.eq_ok_of_toOption (by decide +kernel))
  have hits := (rule_independent (i := 0) (j := 1) alone behind rfl rfl wordless_runsRule).1
    [[97], [97, 98]]
  have found : runsAlone.ownedBy 0 (streamed runsAlone.program [[97], [97, 98]]) =
      [("a+b", 0, 3)] := by cbv
  rw [found] at hits
  exact hits.symm

end Engine

end Triage
