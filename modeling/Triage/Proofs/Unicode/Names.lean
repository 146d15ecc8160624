import Mathlib.Data.List.TakeWhile
import Mathlib.Data.Option.Basic
import Triage.Unicode.Name

/-! The names of sets of characters. A known name consists of letters and digits, of the signs that the
comparison of names passes over, and of the full stop in versions. -/

namespace Triage.Unicode

/-- The characters of known names. Those past ASCII are passed over where names are compared. -/
def isNameChar (c : Char) : Bool := 128 ≤ c.toNat || c.isAlphanum || [' ', '_', '-', '.'].contains c

section loose
variable {c : Char}

theorem lowerAscii_of_odd (odd : isNameChar c = false) : lowerAscii c = c := by
  refine if_neg fun upper => ?_
  have letter : c.isAlphanum := by
    unfold Char.isAlphanum Char.isAlpha Char.isUpper
    simp only [Bool.or_eq_true, decide_eq_true_eq]
    exact .inl (.inl upper)
  simp [isNameChar, letter] at odd

theorem isNameChar_lowerAscii (c : Char) : isNameChar (lowerAscii c) = isNameChar c := by
  cases odd : isNameChar c with
  | false => rw [lowerAscii_of_odd odd, odd]
  | true =>
    unfold lowerAscii
    split
    · rename_i upper
      obtain ⟨low, high⟩ : 65 ≤ c.toNat ∧ c.toNat ≤ 90 := upper
      obtain ⟨n, rfl⟩ : ∃ n : Fin 128, c = Char.ofNat n := ⟨⟨c.toNat, by omega⟩, (Char.ofNat_toNat c).symm⟩
      revert low high odd
      decide +revert +kernel
    · exact odd

theorem mem_loose_iff (odd : isNameChar c = false) {cs : List Char} :
    c ∈ (cs.filter fun c => c.toNat < 128 && c != ' ' && c != '_' && c != '-').map lowerAscii ↔ c ∈ cs := by
  rw [List.mem_map]
  constructor
  · rintro ⟨d, kept, rfl⟩
    rw [isNameChar_lowerAscii] at odd
    rw [lowerAscii_of_odd odd]
    exact (List.mem_filter.mp kept).1
  · intro member
    refine ⟨c, List.mem_filter.mpr ⟨member, ?_⟩, lowerAscii_of_odd odd⟩
    simp only [isNameChar, Bool.or_eq_false_iff, decide_eq_false_iff_not, List.contains_cons, beq_eq_false_iff_ne] at odd
    simp only [Bool.and_eq_true, decide_eq_true_eq, bne_iff_ne]
    exact ⟨⟨⟨by omega, odd.2.1⟩, odd.2.2.1⟩, odd.2.2.2.1⟩

/-- A character that no known name has is kept where names are compared. -/
theorem mem_looseName_iff (odd : isNameChar c = false) (name : List Char) :
    c ∈ (looseName name).toList ↔ c ∈ name := by
  have other {d e : Char} (lower : (lowerAscii d == e) = true) (letter : isNameChar e) : c ≠ d := by
    rintro rfl
    rw [lowerAscii_of_odd odd, beq_iff_eq] at lower
    rw [lower, letter] at odd
    nomatch odd
  unfold looseName
  dsimp only
  split
  · rename_i i s rest
    split
    · rename_i starts
      rw [Bool.and_eq_true] at starts
      have shorter : c ∈ i :: s :: rest ↔ c ∈ rest := by
        simp [other starts.1 (by decide), other starts.2 (by decide)]
      split
      · rename_i kept
        have only : c ∈ rest ↔ c ∈ ['c'] := by
          rw [← beq_iff_eq.mp kept]
          exact (mem_loose_iff odd).symm
        rw [shorter, only]
        constructor
        · intro member
          have letters : ∀ c ∈ "isc".toList, isNameChar c := List.all_eq_true.mp (by decide)
          exact absurd (letters c member) (by simp [odd])
        · intro member
          obtain rfl := List.mem_singleton.mp member
          exact absurd odd (by decide)
      · rw [String.toList_ofList, shorter, mem_loose_iff odd]
    · rw [String.toList_ofList, mem_loose_iff odd]
  · rw [String.toList_ofList, mem_loose_iff odd]

end loose

/-! ## The tables -/

def IsName (name : String) : Prop := ∀ c ∈ name.toList, isNameChar c

instance (name : String) : Decidable (IsName name) := decidable_of_iff (name.toList.all isNameChar) List.all_eq_true

theorem isName_looseName {name : List Char} : IsName (looseName name) ↔ ∀ c ∈ name, isNameChar c := by
  constructor
  · intro loose c member
    by_contra odd
    rw [Bool.not_eq_true] at odd
    have kept := loose c ((mem_looseName_iff odd name).mpr member)
    rw [odd] at kept
    nomatch kept
  · intro known c member
    by_contra odd
    rw [Bool.not_eq_true] at odd
    have given := known c ((mem_looseName_iff odd name).mp member)
    rw [odd] at given
    nomatch given

theorem isName_of_looselyEqual {loose name : String} (same : looselyEqual loose name) (known : IsName name) :
    IsName loose :=
  beq_iff_eq.mp same ▸ isName_looseName.mpr known

theorem isName_of_property? {name : String} {set : CharSet} (known : property? name = some set) : IsName name := by
  unfold property? at known
  split at known <;> first | decide | nomatch known

theorem isName_of_categoryNamed? {name : String} {set : CharSet} (known : categoryNamed? name = some set) :
    IsName name := by
  have table : ∀ row ∈ categoryNames, IsName row.1 ∧ IsName row.2.1 := by decide +kernel
  unfold categoryNamed? at known
  split at known
  · rename_i same
    exact beq_iff_eq.mp same ▸ by decide
  split at known
  · rename_i same
    exact beq_iff_eq.mp same ▸ by decide
  split at known
  · rename_i same
    exact beq_iff_eq.mp same ▸ by decide
  obtain ⟨row, found, -⟩ := Option.map_eq_some_iff.mp known
  obtain ⟨long, short⟩ := table row (List.mem_of_find?_eq_some found)
  have same := List.find?_some found
  rcases Bool.or_eq_true_iff.mp same with same | same
  · exact isName_of_looselyEqual same long
  · exact isName_of_looselyEqual same short

theorem isName_of_scriptCode? {name code : String} (known : scriptCode? name = some code) : IsName name := by
  have table : ∀ row ∈ scriptNames, IsName row.1 ∧ IsName row.2 := by decide +kernel
  have former : ∀ row ∈ formerScriptCodes, IsName row.1 := by decide +kernel
  unfold scriptCode? at known
  rcases (Option.orElse_eq_some _ _ _).mp known with known | ⟨-, known⟩
  · obtain ⟨row, found, -⟩ := Option.map_eq_some_iff.mp known
    obtain ⟨code, long⟩ := table row (List.mem_of_find?_eq_some found)
    have same := List.find?_some found
    rcases Bool.or_eq_true_iff.mp same with same | same
    · exact isName_of_looselyEqual same long
    · exact isName_of_looselyEqual same code
  · obtain ⟨row, found, -⟩ := Option.map_eq_some_iff.mp known
    have same := List.find?_some found
    exact isName_of_looselyEqual same (former row (List.mem_of_find?_eq_some found))

theorem isName_of_agedAtLeast? {name : String} {set : CharSet} (known : agedAtLeast? name = some set) :
    IsName name := by
  have table : ∀ row ∈ ages, IsName row.1 ∧ IsName ("v" ++ String.ofList (row.1.toList.filter (· != '.'))) := by
    decide +kernel
  by_contra unknown
  have none : ∀ row ∈ ages, agedAtLeast?.isNamed name row.1 = false := by
    intro row member
    rw [agedAtLeast?.isNamed, Bool.or_eq_false_iff, beq_eq_false_iff_ne, beq_eq_false_iff_ne]
    exact ⟨fun same => unknown (same ▸ (table row member).1), fun same => unknown (same ▸ (table row member).2)⟩
  have all : ages.takeWhile (fun x => !agedAtLeast?.isNamed name x.1) = ages := by
    rw [List.takeWhile_eq_self_iff]
    intro row member
    rw [none row member, Bool.not_false]
  unfold agedAtLeast? at known
  rw [all, if_neg (Nat.lt_irrefl _)] at known
  nomatch known

theorem isName_of_graphemeBreak {name : String} {set : CharSet} (known : GraphemeBreak.part? name = some set) :
    IsName name := by
  unfold GraphemeBreak.part? at known
  split at known <;> first | decide | nomatch known

theorem isName_of_wordBreak {name : String} {set : CharSet} (known : WordBreak.part? name = some set) : IsName name := by
  unfold WordBreak.part? at known
  split at known <;> first | decide | nomatch known

theorem isName_of_sentenceBreak {name : String} {set : CharSet} (known : SentenceBreak.part? name = some set) :
    IsName name := by
  unfold SentenceBreak.part? at known
  split at known <;> first | decide | nomatch known

theorem isNameChar_of_named? {name : List Char} {set : CharSet} (known : named? name = some set) :
    ∀ c ∈ name, isNameChar c := by
  rw [← isName_looseName]
  unfold named? at known
  dsimp only at known
  rcases (Option.orElse_eq_some _ _ _).mp known with known | ⟨-, known⟩
  · split at known
    · nomatch known
    · exact isName_of_property? known
  rcases (Option.orElse_eq_some _ _ _).mp known with known | ⟨-, known⟩
  · exact isName_of_categoryNamed? known
  · obtain ⟨code, found, -⟩ := Option.map_eq_some_iff.mp known
    exact isName_of_scriptCode? found

theorem isNameChar_of_withValue? {property value : List Char} {set : CharSet}
    (known : withValue? property value = some set) : ∀ c ∈ property ++ value, isNameChar c := by
  rw [List.forall_mem_append, ← isName_looseName, ← isName_looseName]
  unfold withValue? at known
  dsimp only at known
  split at known
  case h_14 => nomatch known
  all_goals
    rename_i same
    refine ⟨same ▸ by decide, ?_⟩
  case h_1 | h_2 => exact isName_of_categoryNamed? known
  case h_7 => exact isName_of_agedAtLeast? known
  case h_8 | h_9 => exact isName_of_graphemeBreak known
  case h_10 | h_11 => exact isName_of_wordBreak known
  case h_12 | h_13 => exact isName_of_sentenceBreak known
  all_goals
    obtain ⟨code, found, -⟩ := Option.map_eq_some_iff.mp known
    exact isName_of_scriptCode? found

end Triage.Unicode
