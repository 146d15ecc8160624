import Triage.Proofs.Engine.Tally
import Triage.Proofs.Search.Transfer

/-! Where a rule stands in an engine. The groups of a rule and its patterns are a stretch of those of the
engine, and patterns lead to groups by their places in the stretches only. -/

namespace Triage
open Search

/-- The patterns of a rule in the order in which an engine adds them. -/
def Rule.definitions (r : Rule) : List PatternDef := (Engine.groupsOf 0 r).flatMap (·.definitions)

/-- The group within the rule that each pattern of the rule belongs to. -/
def Rule.owners (r : Rule) : List Nat := Engine.ownersOf (Engine.groupsOf 0 r)

namespace Engine

/-! ## Owners -/

theorem ownersOf_append (groups others : List HitGroup) :
    ownersOf (groups ++ others) = ownersOf groups ++ (ownersOf others).map (groups.length + ·) := by
  have shifted : others.zipIdx groups.length =
      others.zipIdx.map fun x => (x.1, groups.length + x.2) := List.zipIdx_eq_map_add
  rw [ownersOf, List.zipIdx_append, List.flatMap_append, Nat.zero_add, shifted, List.flatMap_map,
    ownersOf, ownersOf, List.map_flatMap]
  simp only [List.map_map, Function.comp_def]

theorem length_ownersOf (groups : List HitGroup) :
    (ownersOf groups).length = (groups.flatMap (·.definitions)).length := by
  induction groups with
  | nil => rfl
  | cons g groups ih =>
    rw [← List.singleton_append, ownersOf_append, List.flatMap_append, List.length_append,
      List.length_append, List.length_map, ih]
    simp [ownersOf]

theorem lt_of_mem_ownersOf {groups : List HitGroup} {j : Nat} (member : j ∈ ownersOf groups) :
    j < groups.length := by
  obtain ⟨⟨g, i⟩, inside, member⟩ := List.mem_flatMap.mp member
  obtain ⟨_, _, rfl⟩ := List.mem_map.mp member
  exact (List.getElem?_eq_some_iff.mp (List.mem_zipIdx_iff_getElem?.mp inside)).1

/-- The patterns of a stretch of groups lead to these groups, and no others do. -/
theorem getElem?_ownersOf {before groups after : List HitGroup} {pattern j : Nat}
    (inside : j < groups.length) :
    (ownersOf (before ++ (groups ++ after)))[pattern]? = some (before.length + j) ↔
      (before.flatMap (·.definitions)).length ≤ pattern ∧
        (ownersOf groups)[pattern - (before.flatMap (·.definitions)).length]? = some j := by
  rw [ownersOf_append, ownersOf_append, ← length_ownersOf]
  by_cases early : pattern < (ownersOf before).length
  · rw [List.getElem?_append_left early]
    constructor
    · intro found
      have := lt_of_mem_ownersOf (List.mem_of_getElem? found)
      omega
    · intro found
      omega
  · rw [List.getElem?_append_right (by omega), List.getElem?_map, List.getElem?_append]
    split
    · rename_i own
      rw [List.getElem?_eq_getElem own]
      simp only [Option.map_some, Option.some.injEq, Nat.add_left_cancel_iff]
      exact ⟨fun same => ⟨by omega, same⟩, fun found => found.2⟩
    · rename_i late
      have missing : (ownersOf groups)[pattern - (ownersOf before).length]? = none :=
        List.getElem?_eq_none (by omega)
      rw [missing]
      constructor
      · intro found
        obtain ⟨k, place, same⟩ := Option.map_eq_some_iff.mp found
        obtain ⟨x, _, rfl⟩ := List.mem_map.mp (List.mem_of_getElem? place)
        omega
      · intro found
        nomatch found.2

/-! ## The stretch of a rule -/

theorem groupsOf_eq (i : Nat) (r : Rule) :
    groupsOf i r = (groupsOf 0 r).map ({ · with rule := i }) := by
  unfold groupsOf
  cases r.grep with
  | none => rfl
  | some g => simp [List.map_map, Function.comp_def]

theorem rule_of_mem_groupsOf {i : Nat} {r : Rule} {g : HitGroup} (member : g ∈ groupsOf i r) :
    g.rule = i := by
  rw [groupsOf_eq] at member
  obtain ⟨_, _, rfl⟩ := List.mem_map.mp member
  rfl

theorem definitions_groupsOf (i : Nat) (r : Rule) :
    (groupsOf i r).flatMap (·.definitions) = r.definitions := by
  rw [groupsOf_eq, List.flatMap_map]
  rfl

theorem ownersOf_groupsOf (i : Nat) (r : Rule) : ownersOf (groupsOf i r) = r.owners := by
  rw [groupsOf_eq, ownersOf, List.zipIdx_map, List.flatMap_map]
  rfl

/-- The groups of all rules are those of one between those of the rules before and after it. -/
theorem hitGroups_eq {rules : List Rule} {i : Nat} {r : Rule} (here : rules[i]? = some r) :
    ∃ before after, hitGroups rules = before ++ (groupsOf i r ++ after) ∧
      (∀ g ∈ before, g.rule ≠ i) ∧ ∀ g ∈ after, g.rule ≠ i := by
  obtain ⟨inside, rfl⟩ := List.getElem?_eq_some_iff.mp here
  refine ⟨(rules.take i).zipIdx.flatMap fun x => groupsOf x.2 x.1,
    ((rules.drop (i + 1)).zipIdx (i + 1)).flatMap fun x => groupsOf x.2 x.1, ?_, ?_, ?_⟩
  · have split : rules = rules.take i ++ rules[i] :: rules.drop (i + 1) := by
      rw [← List.drop_eq_getElem_cons inside, List.take_append_drop]
    conv => lhs; rw [split]
    rw [hitGroups, List.zipIdx_append, List.flatMap_append, Nat.zero_add,
      List.length_take_of_le inside.le, List.zipIdx_cons, List.flatMap_cons]
  · intro g member
    obtain ⟨x, position, member⟩ := List.mem_flatMap.mp member
    have low := (List.getElem?_eq_some_iff.mp (List.mem_zipIdx_iff_getElem?.mp position)).1
    rw [List.length_take_of_le inside.le] at low
    rw [rule_of_mem_groupsOf member]
    omega
  · intro g member
    obtain ⟨x, position, member⟩ := List.mem_flatMap.mp member
    have high := (List.mem_zipIdx position).1
    rw [rule_of_mem_groupsOf member]
    omega

/-- The place of a rule in an engine: behind which groups those of the rule come. -/
structure Stands (e : Engine) (i : Nat) (r : Rule) (before after : List HitGroup) : Prop where
  rule : e.rules[i]? = some r
  groups : e.groups = before ++ (groupsOf i r ++ after)
  others : ∀ g ∈ before ++ after, g.rule ≠ i
  owners : e.owners = ownersOf e.groups
  built : e.program.Built
  window : e.program.window = defaultWindow
  entries : List.Forall₂ Entry.Of e.program.entries (e.groups.flatMap (·.definitions))

theorem exists_stands {rules : List Rule} {e : Engine} {i : Nat} {r : Rule}
    (built : ofRules rules = .ok e) (here : rules[i]? = some r) :
    ∃ before after, Stands e i r before after := by
  obtain ⟨program, added, built⟩ := Regex.bind_eq_ok.mp built
  obtain rfl := Except.ok.inj built
  obtain ⟨before, after, groups, early, late⟩ := hitGroups_eq here
  obtain ⟨window, entries, split, each⟩ := Program.entries_addAll added
  refine ⟨before, after, here, groups, List.forall_mem_append.mpr ⟨early, late⟩, rfl,
    .addAll _ .empty added, window, ?_⟩
  rw [split]
  exact each

section stands
variable {e : Engine} {i : Nat} {r : Rule} {before after : List HitGroup}

def patternsIn (groups : List HitGroup) : Nat := (groups.flatMap (·.definitions)).length

theorem Stands.entry (stands : Stands e i r before after) {place : Nat} {d : PatternDef}
    (definition : r.definitions[place]? = some d) :
    ∃ entry, e.program.entries[patternsIn before + place]? = some entry ∧ entry.Of d := by
  have all := stands.entries
  rw [stands.groups, List.flatMap_append, List.flatMap_append, definitions_groupsOf] at all
  obtain ⟨inside, _⟩ := List.getElem?_eq_some_iff.mp definition
  have own : (before.flatMap (·.definitions) ++ (r.definitions ++
      after.flatMap (·.definitions)))[patternsIn before + place]? = some d := by
    rw [patternsIn, List.getElem?_append_right (Nat.le_add_right _ _), Nat.add_sub_cancel_left,
      List.getElem?_append_left inside, definition]
  obtain ⟨length, each⟩ := List.forall₂_iff_get.mp all
  obtain ⟨fits, rfl⟩ := List.getElem?_eq_some_iff.mp own
  exact ⟨_, List.getElem?_eq_getElem (length ▸ fits), each _ (length ▸ fits) fits⟩

theorem Stands.group (stands : Stands e i r before after) {j : Nat}
    (inside : j < (groupsOf i r).length) :
    e.groups[before.length + j]? = (groupsOf i r)[j]? := by
  rw [stands.groups, List.getElem?_append_right (Nat.le_add_right _ _), Nat.add_sub_cancel_left,
    List.getElem?_append_left inside]

theorem Stands.exists_group (stands : Stands e i r before after) {index : Nat} {g : HitGroup}
    (group : e.groups[index]? = some g) (own : g.rule = i) :
    ∃ j, j < (groupsOf i r).length ∧ index = before.length + j := by
  rw [stands.groups] at group
  by_cases early : index < before.length
  · rw [List.getElem?_append_left early] at group
    exact absurd own (stands.others g (List.mem_append_left _ (List.mem_of_getElem? group)))
  · rw [List.getElem?_append_right (by omega)] at group
    by_cases late : index - before.length < (groupsOf i r).length
    · exact ⟨_, late, by omega⟩
    · rw [List.getElem?_append_right (by omega)] at group
      exact absurd own (stands.others g (List.mem_append_right _ (List.mem_of_getElem? group)))

theorem length_owners (r : Rule) : r.owners.length = r.definitions.length := length_ownersOf _

theorem Stands.owner (stands : Stands e i r before after) {pattern j : Nat}
    (inside : j < (groupsOf i r).length) :
    e.owners[pattern]? = some (before.length + j) ↔
      patternsIn before ≤ pattern ∧ r.owners[pattern - patternsIn before]? = some j := by
  rw [stands.owners, stands.groups, getElem?_ownersOf inside, ownersOf_groupsOf, patternsIn]

/-- A pattern of the rule has an owner in the rule, and no other pattern has. -/
theorem Stands.rule_owner? (stands : Stands e i r before after) (pattern : Nat) :
    (∃ g, e.owner? pattern = some g ∧ g.rule = i) ↔
      patternsIn before ≤ pattern ∧ pattern < patternsIn before + r.definitions.length := by
  constructor
  · intro found
    obtain ⟨g, owner, own⟩ := found
    obtain ⟨index, owner, group⟩ := Option.bind_eq_some_iff.mp owner
    obtain ⟨j, inside, rfl⟩ := stands.exists_group group own
    obtain ⟨low, place⟩ := (stands.owner inside).mp owner
    have high := (List.getElem?_eq_some_iff.mp place).1
    rw [length_owners] at high
    omega
  · intro stretch
    obtain ⟨low, high⟩ := stretch
    have place : pattern - patternsIn before < r.owners.length := by
      rw [length_owners]
      omega
    have inside := lt_of_mem_ownersOf (List.getElem_mem place)
    rw [← (groupsOf_eq i r ▸ List.length_map _ : (groupsOf i r).length = (groupsOf 0 r).length)] at inside
    have owner := (stands.owner inside).mpr ⟨low, List.getElem?_eq_getElem place⟩
    have group := stands.group inside
    rw [List.getElem?_eq_getElem inside] at group
    refine ⟨_, ?_, rule_of_mem_groupsOf (List.getElem_mem inside)⟩
    rw [owner?, owner]
    exact group

end stands

end Engine

end Triage
