import Triage.Proofs.Engine.Independence

/-! Verdicts on hits. What a condition says is a statement about all hits of the rule's names, and the
tallies decide it although they keep the first hits only: no condition asks for a later one. -/

namespace Triage
open Search

/-! ## What conditions say -/

def CompareOp.Relates : CompareOp → Nat → Nat → Prop
  | eq, a, b => a = b
  | ne, a, b => a ≠ b
  | lt, a, b => a < b
  | le, a, b => a ≤ b
  | gt, a, b => b < a
  | ge, a, b => b ≤ a

theorem CompareOp.compare_iff (op : CompareOp) (a b : Nat) : op.compare a b ↔ op.Relates a b := by
  unfold CompareOp.compare Relates
  rcases Nat.lt_trichotomy a b with less | rfl | more
  · have order := Nat.compare_eq_lt.mpr less
    cases op <;> simp [holds, order] <;> omega
  · cases op <;> simp [holds]
  · have order := Nat.compare_eq_gt.mpr more
    cases op <;> simp [holds, order] <;> omega

namespace Predicate

def Holds (meaning : Leaf → Prop) : Predicate → Prop
  | and l r => l.Holds meaning ∧ r.Holds meaning
  | or l r => l.Holds meaning ∨ r.Holds meaning
  | leaf l => meaning l

theorem eval_iff {holds : Leaf → Bool} {meaning : Leaf → Prop} (p : Predicate)
    (agree : ∀ l ∈ p.leaves, holds l ↔ meaning l) : p.eval holds ↔ p.Holds meaning := by
  induction p with
  | and l r first second =>
    obtain ⟨left, right⟩ := List.forall_mem_append.mp agree
    rw [eval, Bool.and_eq_true, first left, second right, Holds]
  | or l r first second =>
    obtain ⟨left, right⟩ := List.forall_mem_append.mp agree
    rw [eval, Bool.or_eq_true, first left, second right, Holds]
  | leaf l => exact agree l (List.mem_singleton.mpr rfl)

end Predicate

/-- Hits by where they start, then by where they stop, and else as they came. -/
def inOrder (hits : List Hit) : List Hit := hits.mergeSort HitTally.notAfter

namespace HitCall

def Accepts (c : HitCall) (n : Nat) : Prop :=
  ∃ op expected, c.comparison = some (op, expected) ∧ op.Relates n expected

def Picks (c : HitCall) (names : List String) (hits : String → List Hit) (h : Hit) : Prop :=
  ∃ name, names.head? = some name ∧ (inOrder (hits name))[c.hitIndex.getD 0]? = some h

def Holds (c : HitCall) (names : List String) (hits : String → List Hit) : Prop :=
  match c.function with
  | .all => ∀ name ∈ names, hits name ≠ []
  | .any => ∃ name ∈ names, hits name ≠ []
  | .count => c.Accepts (names.map fun name => (hits name).length).sum
  | .countHasHits => c.Accepts (names.countP fun name => hits name ≠ [])
  | .offset => ∃ h, c.Picks names hits h ∧ c.Accepts h.start
  | .length => ∃ h, c.Picks names hits h ∧ c.Accepts (h.stop - h.start)

theorem any_iff_accepts (c : HitCall) (n : Nat) :
    (c.comparison.any fun (op, expected) => op.compare n expected) ↔ c.Accepts n := by
  unfold Accepts
  cases c.comparison with
  | none => simp
  | some pair =>
    obtain ⟨op, expected⟩ := pair
    simp [CompareOp.compare_iff]

end HitCall

namespace GrepSection

def about (g : GrepSection) (c : HitCall) : List String :=
  match c.patterns with
  | [] => g.patterns.keys
  | names => names

def Holds (g : GrepSection) (hits : String → List Hit) : Prop :=
  g.condition.Holds fun
    | .call c => c.Holds (g.about c) hits
    | .property _ => False

def index? (g : GrepSection) (name : String) : Leaf → Option Nat
  | .call c =>
    if (c.function = .offset ∨ c.function = .length) ∧ (g.about c).head? = some name then
      some (c.hitIndex.getD 0)
    else none
  | .property _ => none

/-- How many of a name's hits the condition needs: one more than the largest index it asks for. -/
def needed (g : GrepSection) (name : String) : Nat :=
  match (g.condition.leaves.filterMap (g.index? name)).max? with
  | none => 0
  | some largest => largest + 1

theorem namesOf_eq (g : GrepSection) (c : HitCall) : g.namesOf c = g.about c := by
  unfold namesOf about
  cases c.patterns <;> rfl

theorem keepFor_eq (g : GrepSection) (name : String) (l : Leaf) :
    g.keepFor name l = ((g.index? name l).map (· + 1)).getD 0 := by
  cases l with
  | property _ => rfl
  | call c =>
    rw [keepFor, index?, namesOf_eq]
    cases c.function <;> simp [HitFunction.takesHitIndex] <;> split <;> rfl

theorem needed_le_iff (g : GrepSection) (name : String) (n : Nat) :
    g.needed name ≤ n ↔
      ∀ l ∈ g.condition.leaves, ∀ index, g.index? name l = some index → index < n := by
  have members : (∀ l ∈ g.condition.leaves, ∀ index, g.index? name l = some index → index < n) ↔
      ∀ index ∈ g.condition.leaves.filterMap (g.index? name), index < n := by
    simp only [List.mem_filterMap]
    grind
  rw [members, needed]
  split
  · rename_i none
    simp [List.max?_eq_none_iff.mp none]
  · rename_i largest some
    obtain ⟨member, least⟩ := List.max?_eq_some_iff.mp some
    exact ⟨fun le index inside => by have := least index inside; omega, fun all => all largest member⟩

theorem keep_eq (g : GrepSection) (name : String) : g.keep name = g.needed name := by
  have bound (ns : List Nat) (start n : Nat) :
      ns.foldl max start ≤ n ↔ start ≤ n ∧ ∀ m ∈ ns, m ≤ n := by
    induction ns generalizing start with
    | nil => simp
    | cons m ns ih => rw [List.foldl_cons, ih, List.forall_mem_cons, Nat.max_le, and_assoc]
  apply eq_of_forall_ge_iff
  intro n
  rw [keep, bound, needed_le_iff, List.forall_mem_map]
  have each (l : Leaf) : g.keepFor name l ≤ n ↔ ∀ index, g.index? name l = some index → index < n := by
    rw [keepFor_eq]
    cases g.index? name l <;> simp
  simp only [each, Nat.zero_le, true_and]

end GrepSection

/-! ## What the tallies tell -/

namespace Engine

/-- The rule that each pattern of the program belongs to, and its name there. -/
def askers (rules : List Rule) : List (Nat × String) :=
  rules.zipIdx.flatMap fun (r, i) =>
    (r.grep.elim [] (·.patterns.entries)).flatMap fun (name, defs) => defs.map fun _ => (i, name)

def hitsOf (rules : List Rule) (rule : Nat) (hits : List Hit) (name : String) : List Hit :=
  hits.filter fun h => (askers rules)[h.pattern]? = some (rule, name)

theorem askers_eq (rules : List Rule) :
    askers rules = (hitGroups rules).flatMap fun g => g.definitions.map fun _ => (g.rule, g.name) := by
  unfold askers hitGroups
  rw [List.flatMap_assoc]
  apply List.flatMap_congr
  rintro ⟨r, i⟩ _
  unfold groupsOf
  cases grep : r.grep with
  | none => simp [grep]
  | some g => simp [grep, List.flatMap_map]

theorem getElem?_askers (rules : List Rule) (pattern : Nat) :
    (askers rules)[pattern]? = (ownersOf (hitGroups rules))[pattern]?.bind fun index =>
      ((hitGroups rules)[index]?).map fun g => (g.rule, g.name) := by
  have all : (askers rules).map some = (ownersOf (hitGroups rules)).map fun index =>
      ((hitGroups rules)[index]?).map fun g => (g.rule, g.name) := by
    rw [askers_eq, ownersOf, List.map_flatMap, List.map_flatMap]
    conv => lhs; rw [← List.zipIdx_map_fst 0 (hitGroups rules), List.flatMap_map]
    apply List.flatMap_congr
    intro x member
    simp [List.mem_zipIdx_iff_getElem?.mp member]
  have here : ((askers rules)[pattern]?).map some =
      ((ownersOf (hitGroups rules))[pattern]?).map fun index =>
        ((hitGroups rules)[index]?).map fun g => (g.rule, g.name) := by
    rw [← List.getElem?_map, all, List.getElem?_map]
  cases asker : (askers rules)[pattern]? <;>
    cases owner : (ownersOf (hitGroups rules))[pattern]? <;> simp_all

theorem groups_ofRules {rules : List Rule} {e : Engine} (built : ofRules rules = .ok e) :
    e.groups = hitGroups rules := by
  obtain ⟨_, _, built⟩ := Regex.bind_eq_ok.mp built
  rw [← Except.ok.inj built]

section named
variable {rules : List Rule} {e : Engine} {i : Nat} {r : Rule} {g : GrepSection}

/-- A name of a rule has a group, and no other group of the rule has the name. -/
theorem exists_group {before after : List HitGroup} (stands : Stands e i r before after)
    (grep : r.grep = some g) (distinct : g.patterns.keys.Nodup) {name : String}
    (member : name ∈ g.patterns.keys) :
    ∃ index group, e.groups[index]? = some group ∧
      (group.rule = i ∧ group.name = name ∧ group.keep = g.keep name) ∧
      e.groups.findIdx? (fun g => g.rule == i && g.name == name) = some index ∧
      ∀ k other, e.groups[k]? = some other → other.rule = i → other.name = name → k = index := by
  have groups : groupsOf 0 r = g.patterns.entries.map fun (name, defs) =>
      ⟨0, r.id, name, defs, g.keep name⟩ := by simp [groupsOf, grep]
  have names : (groupsOf 0 r).map (·.name) = g.patterns.keys := by
    simp [groups, SortedMap.keys]
  obtain ⟨j, found⟩ : ∃ j, (groupsOf 0 r).findIdx? (·.name == name) = some j := by
    cases missing : (groupsOf 0 r).findIdx? (·.name == name) with
    | some j => exact ⟨j, rfl⟩
    | none =>
      obtain ⟨x, inside, rfl⟩ := List.mem_map.mp (names ▸ member)
      simpa using List.findIdx?_eq_none_iff.mp missing x inside
  obtain ⟨inside, named, _⟩ := List.findIdx?_eq_some_iff_getElem.mp found
  have length : (groupsOf i r).length = (groupsOf 0 r).length := by rw [groupsOf_eq, List.length_map]
  have own (k : Nat) (small : k < (groupsOf i r).length) :
      e.groups[before.length + k]? = some { (groupsOf 0 r)[k] with rule := i } := by
    rw [stands.group small]
    simp only [groupsOf_eq i r, List.getElem?_map, List.getElem?_eq_getElem (length ▸ small),
      Option.map_some]
  refine ⟨before.length + j, _, own j (length ▸ inside), ⟨rfl, eq_of_beq named, ?_⟩, ?_, ?_⟩
  · have kept : ∀ x ∈ groupsOf 0 r, x.keep = g.keep x.name := by
      rw [groups, List.forall_mem_map]
      exact fun _ _ => rfl
    rw [kept _ (List.getElem_mem inside), eq_of_beq named]
  · rw [findIdx?_groups stands, found, Option.map_some]
  · intro k other group rule same
    obtain ⟨l, small, rfl⟩ := stands.exists_group group rule
    rw [own l small] at group
    obtain rfl := Option.some.inj group
    have apart : ((groupsOf 0 r).map (·.name)).Nodup := names ▸ distinct
    have equal : ((groupsOf 0 r).map (·.name))[l]? = ((groupsOf 0 r).map (·.name))[j]? := by
      rw [List.getElem?_map, List.getElem?_map, List.getElem?_eq_getElem (length ▸ small),
        List.getElem?_eq_getElem inside]
      exact congrArg some (same.trans (eq_of_beq named).symm)
    rw [List.getElem?_inj (by simpa [← length] using small) apart |>.mp equal]

theorem find?_ofHits (built : ofRules rules = .ok e) (here : rules[i]? = some r)
    (grep : r.grep = some g) (distinct : g.patterns.keys.Nodup) {name : String}
    (member : name ∈ g.patterns.keys) (hits : List Hit) :
    (HitSummary.ofHits e hits).find? e i name = some ⟨(hitsOf rules i hits name).length,
      (inOrder (hitsOf rules i hits name)).take (g.needed name)⟩ := by
  obtain ⟨before, after, stands⟩ := exists_stands built here
  obtain ⟨index, group, place, ⟨rule, named, keep⟩, found, alone⟩ :=
    exists_group stands grep distinct member
  have groups := groups_ofRules built
  have same : hits.filter (fun h => e.owners[h.pattern]? = some index) = hitsOf rules i hits name := by
    apply List.filter_congr
    intro h _
    -- A pattern of the name leads to the group, for no other group has the rule and the name.
    rw [decide_eq_decide, getElem?_askers, ← groups, ← stands.owners]
    simp only [Option.bind_eq_some_iff, Option.map_eq_some_iff]
    constructor
    · intro owner
      exact ⟨index, owner, group, place, Prod.ext rule named⟩
    · intro asker
      obtain ⟨k, owner, other, there, same⟩ := asker
      obtain ⟨own, called⟩ := Prod.mk.inj same
      exact alone k other there own called ▸ owner
  rw [HitSummary.find?, found]
  change (HitSummary.ofHits e hits).tallies[index]? = _
  rw [HitSummary.getElem?_ofHits e hits place, HitTally.ofHits_eq, same, keep, GrepSection.keep_eq,
    HitTally.placeAll_eq_mergeSort]
  rfl

theorem hitsOf_eq_nil (built : ofRules rules = .ok e) (here : rules[i]? = some r)
    (grep : r.grep = some g) {name : String} (missing : name ∉ g.patterns.keys) (hits : List Hit) :
    hitsOf rules i hits name = [] ∧ (HitSummary.ofHits e hits).find? e i name = none := by
  obtain ⟨before, after, stands⟩ := exists_stands built here
  have unnamed : ∀ group ∈ groupsOf 0 r, group.name ≠ name := by
    simp only [groupsOf, grep, List.forall_mem_map]
    exact fun entry member same => missing (List.mem_map.mpr ⟨entry, member, same⟩)
  have absent : e.groups.findIdx? (fun g => g.rule == i && g.name == name) = none := by
    rw [findIdx?_groups stands, Option.map_eq_none_iff, List.findIdx?_eq_none_iff]
    exact fun group member => beq_false_of_ne (unnamed group member)
  constructor
  · rw [hitsOf, List.filter_eq_nil_iff]
    intro h _
    simp only [decide_eq_true_eq, getElem?_askers, ← groups_ofRules built, Option.bind_eq_some_iff,
      Option.map_eq_some_iff]
    rintro ⟨k, _, group, place, same⟩
    obtain ⟨own, called⟩ := Prod.mk.inj same
    have other := List.findIdx?_eq_none_iff.mp absent group (List.mem_of_getElem? place)
    simp [own, called] at other
  · rw [HitSummary.find?, absent]
    rfl

/-- A call decides from the tallies what it means, if they keep the hit that it asks for. -/
theorem callHolds_iff {v : HitView} {names : List String} {c : HitCall} {hits : String → List Hit}
    (counts : ∀ name, v.count name = (hits name).length)
    (picks : c.function = .offset ∨ c.function = .length → ∀ name, names.head? = some name →
      v.nth? name (c.hitIndex.getD 0) = (inOrder (hits name))[c.hitIndex.getD 0]?) :
    v.callHolds names c ↔ c.Holds names hits := by
  have present (name : String) : 0 < v.count name ↔ hits name ≠ [] := by
    rw [counts, List.length_pos_iff]
  have picked (asks : c.function = .offset ∨ c.function = .length) (h : Hit) :
      (names.head?.bind fun name => v.nth? name (c.hitIndex.getD 0)) = some h ↔
        c.Picks names hits h := by
    simp only [Option.bind_eq_some_iff, HitCall.Picks]
    constructor
    · rintro ⟨name, first, found⟩
      exact ⟨name, first, picks asks name first ▸ found⟩
    · rintro ⟨name, first, found⟩
      exact ⟨name, first, (picks asks name first).trans found⟩
  unfold HitView.callHolds HitCall.Holds
  cases kind : c.function with
  | all => simp [present]
  | any => simp [present]
  | count =>
    rw [funext counts]
    exact c.any_iff_accepts _
  | countHasHits =>
    have same : names.filter (fun name => decide (v.count name > 0)) =
        names.filter fun name => decide (hits name ≠ []) :=
      List.filter_congr fun name _ => decide_eq_decide.mpr (present name)
    rw [List.countP_eq_length_filter, ← same]
    exact c.any_iff_accepts _
  | offset =>
    simp only [Option.any_eq_true, c.any_iff_accepts, picked (.inl kind)]
  | length =>
    simp only [Option.any_eq_true, c.any_iff_accepts, picked (.inr kind)]
    rfl

/-- The first hits of each name decide a rule's condition as all hits would: the tallies count all of
them and keep, at every moment, as many of the first ones as the condition can ask for. -/
theorem tallies_decide (built : ofRules rules = .ok e) (here : rules[i]? = some r)
    (grep : r.grep = some g) (distinct : g.patterns.keys.Nodup) (hits : List Hit) :
    (((HitSummary.ofHits e hits).view e i).conditionHolds g ↔ g.Holds (hitsOf rules i hits)) ∧
      ∀ seen, seen <+: hits → ∀ name ∈ g.patterns.keys,
        (HitSummary.ofHits e seen).find? e i name = some ⟨(hitsOf rules i seen name).length,
          (inOrder (hitsOf rules i seen name)).take (g.needed name)⟩ := by
  refine ⟨?_, fun seen _ name member => find?_ofHits built here grep distinct member seen⟩
  apply g.condition.eval_iff
  intro l leaf
  cases l with
  | property _ => simp
  | call c =>
    change HitView.callHolds _ (g.namesOf c) c ↔ c.Holds (g.about c) (hitsOf rules i hits)
    rw [GrepSection.namesOf_eq]
    apply callHolds_iff
    · intro name
      by_cases member : name ∈ g.patterns.keys
      · simp [HitSummary.view, find?_ofHits built here grep distinct member]
      · obtain ⟨none, absent⟩ := hitsOf_eq_nil built here grep member hits
        simp [HitSummary.view, none, absent]
    · intro asks name first
      have enough : c.hitIndex.getD 0 < g.needed name :=
        (g.needed_le_iff name _).mp le_rfl _ leaf _ (if_pos ⟨asks, first⟩)
      by_cases member : name ∈ g.patterns.keys
      · simp [HitSummary.view, find?_ofHits built here grep distinct member, enough]
      · obtain ⟨none, absent⟩ := hitsOf_eq_nil built here grep member hits
        simp [HitSummary.view, none, absent, inOrder]

end named

def secondGrep : GrepSection where
  patterns := ⟨[("a", [⟨"ab", false, false, "ASCII"⟩, ⟨"ab", false, false, "UTF-16LE"⟩]),
    ("b", [⟨"b", false, false, "ASCII"⟩])]⟩
  condition := .and (.leaf (.call ⟨.offset, ["a"], some 1, some (.eq, 5)⟩))
    (.leaf (.call ⟨.countHasHits, [], none, some (.eq, 2)⟩))

def secondRule : Rule := { runsRule with id := "second", grep := some secondGrep }

def secondEngine : Engine :=
  withProgram [secondRule]
    { entries := [⟨⟨0, "ab", "ASCII", 2⟩, .literal ⟨[97, 98], false⟩⟩,
        ⟨⟨1, "ab", "UTF-16LE", 4⟩, .literal ⟨[97, 0, 98, 0], false⟩⟩,
        ⟨⟨2, "b", "ASCII", 1⟩, .literal ⟨[98], false⟩⟩] }

/-- The first two hits of the first name come last, and a pattern is unknown. -/
def lateHits : List Hit := [⟨8, 10, 0⟩, ⟨3, 4, 2⟩, ⟨0, 1, 9⟩, ⟨2, 4, 0⟩, ⟨5, 9, 1⟩]

theorem secondRule_decided :
    secondGrep.patterns.keys.Nodup ∧ secondGrep.Holds (hitsOf [secondRule] 0 lateHits) ∧
      (HitSummary.ofHits secondEngine lateHits).find? secondEngine 0 "a" =
        some ⟨3, [⟨2, 4, 0⟩, ⟨5, 9, 1⟩]⟩ := by
  have built : ofRules [secondRule] = .ok secondEngine :=
    ofRules_eq (Program.eq_ok_of_toOption (by decide +kernel))
  obtain ⟨verdict, kept⟩ := tallies_decide (i := 0) built rfl rfl (by decide) lateHits
  refine ⟨by decide, verdict.mp (by cbv), ?_⟩
  rw [kept lateHits (List.prefix_refl _) "a" (by decide)]
  have hits : hitsOf [secondRule] 0 lateHits "a" = [⟨8, 10, 0⟩, ⟨2, 4, 0⟩, ⟨5, 9, 1⟩] := by cbv
  have needed : secondGrep.needed "a" = 2 := by cbv
  rw [hits, needed, inOrder, ← HitTally.placeAll_eq_mergeSort]
  rfl

end Engine

end Triage
