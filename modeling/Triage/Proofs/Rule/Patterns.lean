import Triage.Proofs.Rule.Reading

/-! The patterns of a rule as reading gives them. No name comes twice, and the definitions of a name
differ in their encodings only. -/

namespace Triage

/-! ## Names in a sorted map -/

namespace SortedMap
variable {α : Type}

def Sorted (m : SortedMap String α) : Prop := m.keys.Pairwise (· < ·)

theorem Sorted.nodup {m : SortedMap String α} (sorted : m.Sorted) : m.keys.Nodup := by
  apply List.Pairwise.imp _ sorted
  rintro a b less rfl
  exact String.lt_irrefl a less

theorem mem_insertEntry {key : String} {value : α} {entries : List (String × α)}
    {entry : String × α} (member : entry ∈ insertEntry key value entries) :
    entry = (key, value) ∨ entry ∈ entries := by
  induction entries with
  | nil => exact .inl (List.mem_singleton.mp member)
  | cons first rest ih =>
    rw [insertEntry] at member
    split at member
    · exact List.mem_cons.mp member
    · split at member
      · rcases List.mem_cons.mp member with rfl | later
        · exact .inr List.mem_cons_self
        · exact (ih later).imp_right (List.mem_cons_of_mem _)
      · exact (List.mem_cons.mp member).imp_right (List.mem_cons_of_mem _)

theorem sorted_insert {m : SortedMap String α} (sorted : m.Sorted) (key : String) (value : α) :
    (m.insert key value).Sorted := by
  obtain ⟨entries⟩ := m
  simp only [Sorted, keys, List.pairwise_map, insert] at sorted ⊢
  induction entries with
  | nil => exact List.pairwise_singleton _ _
  | cons first rest ih =>
    obtain ⟨least, others⟩ := List.pairwise_cons.mp sorted
    rw [insertEntry]
    split
    · rename_i before
      refine List.pairwise_cons.mpr ⟨fun entry member => ?_, sorted⟩
      rcases List.mem_cons.mp member with rfl | later
      · exact before
      · exact String.lt_trans before (least entry later)
    · split
      · rename_i after
        refine List.pairwise_cons.mpr ⟨fun entry member => ?_, ih others⟩
        rcases mem_insertEntry member with rfl | later
        · exact after
        · exact least entry later
      · rename_i low high
        obtain rfl : key = first.1 := String.le_antisymm high low
        exact List.pairwise_cons.mpr ⟨least, others⟩

end SortedMap

/-! ## Patterns -/

/-- The definitions of one name differ in their encodings only. -/
def Alike (defs : List PatternDef) : Prop :=
  ∀ d ∈ defs, ∀ other ∈ defs, d.text = other.text ∧ d.nocase = other.nocase ∧ d.fixed = other.fixed

/-- What reading makes sure of: the names of a rule's patterns are distinct, and the definitions of
each are alike. -/
structure Rule.Tidy (r : Rule) : Prop where
  distinct : ∀ g, r.grep = some g → g.patterns.keys.Nodup
  alike : ∀ g, r.grep = some g → ∀ defs ∈ g.patterns.values, Alike defs

namespace Reader

theorem gives_patternDefinition : patternDefinition.Gives Alike := by
  have text (t : Token) : (textPattern t).Gives Alike := by
    refine gives_bind fun m => gives_bind fun _ => gives_pure ?_
    intro d member other again
    obtain ⟨_, _, rfl⟩ := List.mem_map.mp member
    obtain ⟨_, _, rfl⟩ := List.mem_map.mp again
    exact ⟨rfl, rfl, rfl⟩
  have hex (t : Token) : (hexPattern t).Gives Alike := by
    refine gives_bind fun text => gives_bind fun _ => gives_pure ?_
    intro d member other again
    obtain rfl := List.mem_singleton.mp member
    obtain rfl := List.mem_singleton.mp again
    exact ⟨rfl, rfl, rfl⟩
  refine gives_bind fun _ => gives_bind fun quoted => ?_
  cases quoted with
  | some t => exact text t
  | none =>
    refine gives_bind fun brace => ?_
    cases brace with
    | some t => exact hex t
    | none => exact gives_bind fun t => gives_fail _ _

def TidyPatterns (m : SortedMap String (List PatternDef)) : Prop :=
  m.Sorted ∧ ∀ defs ∈ m.values, Alike defs

theorem tidyPatterns_insert {m : SortedMap String (List PatternDef)} (tidy : TidyPatterns m)
    (name : String) {defs : List PatternDef} (alike : Alike defs) :
    TidyPatterns (m.insert name defs) := by
  refine ⟨SortedMap.sorted_insert tidy.1 name defs, fun found member => ?_⟩
  obtain ⟨entry, inside, rfl⟩ := List.mem_map.mp member
  rcases SortedMap.mem_insertEntry inside with rfl | before
  · exact alike
  · exact tidy.2 _ (List.mem_map_of_mem before)

theorem gives_patternsSection : patternsSection.Gives TidyPatterns := by
  have start : TidyPatterns SortedMap.empty := ⟨List.Pairwise.nil, by simp [SortedMap.values, SortedMap.empty]⟩
  refine gives_bind fun _ => (gives_repeatStep (fun m tidy => ?step) start).bind fun m tidy => ?read
  case step =>
    refine gives_bind fun name => ?_
    cases name with
    | none => exact gives_pure (by simp)
    | some name =>
      refine gives_patternDefinition.bind fun defs alike => ?_
      have done : (do declare name.text; return some (m.insert name.text defs) : Reader _).Gives
          fun next => ∀ t, next = some t → TidyPatterns t := gives_bind fun _ => gives_pure fun t same =>
        Option.some.inj same ▸ tidyPatterns_insert tidy name.text alike
      dsimp only
      split
      · exact gives_bind fun _ => done
      · exact done
  case read =>
    dsimp only
    split
    · exact gives_bind fun _ => gives_bind fun _ => gives_pure tidy
    · exact gives_pure tidy

theorem gives_grepSection : grepSection.Gives fun g => TidyPatterns g.patterns := by
  refine gives_bind fun _ => gives_patternsSection.bind fun m tidy => ?_
  exact gives_bind fun _ => gives_bind fun _ => gives_pure tidy

theorem gives_section? {α : Type} {r : Reader α} {P : α → Prop} (holds : r.Gives P) (k : Keyword) :
    (section? k r).Gives fun found => ∀ a, found = some a → P a := by
  refine gives_bind fun next => ?_
  split
  · rw [map_eq_pure_bind]
    exact holds.bind fun a given => gives_pure fun b same => Option.some.inj same ▸ given
  · exact gives_pure (by simp)

theorem gives_rule : rule.Gives Rule.Tidy := by
  iterate 9 refine gives_bind fun _ => ?_
  refine (gives_section? gives_grepSection .grep).bind fun found tidy => ?_
  iterate 2 refine gives_bind fun _ => ?_
  exact gives_pure ⟨fun g same => (tidy g same).1.nodup, fun g same => (tidy g same).2⟩

end Reader

theorem ReaderState.readRules_tidy (fuel : Nat) (s : ReaderState) :
    ∀ r ∈ (s.readRules fuel).1.rules, r.Tidy := by
  induction fuel generalizing s with
  | zero => exact fun r member => nomatch member
  | succ fuel ih =>
    intro r member
    rw [readRules] at member
    split at member
    · nomatch member
    · split at member
      · exact ih _ r member
      · split at member
        · rename_i rule next ran
          rcases List.mem_cons.mp member with rfl | later
          · exact Reader.gives_rule s r (by rw [ran])
          · exact ih _ r later
        · exact ih _ r member

theorem parseRules_tidy {text : String} {list : RuleList} (read : parseRules text = .ok list) :
    ∀ r ∈ list.rules, r.Tidy := by
  rcases scanned : tokens text with e | tokens
  · rw [parseRules, scanned] at read
    nomatch read
  · rw [parseRules, scanned] at read
    obtain rfl := Except.ok.inj read
    exact ReaderState.readRules_tidy _ _

end Triage
