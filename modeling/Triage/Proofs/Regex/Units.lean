import Triage.Proofs.Regex.Texts

/-! What widened expressions spell. A class becomes rows of code units that hold each of its members in the
basic plane once and nothing else; all other parts become what they were, character by character. -/

namespace Triage.Regex
open scoped Computability

/-- Characters of the basic plane. -/
def Basic (c : Char) : Prop := c.toNat < 0x10000

instance (c : Char) : Decidable (Basic c) := inferInstanceAs (Decidable (c.toNat < 0x10000))

theorem utf16_of_basic {c : Char} (basic : Basic c) (order : Utf16.Order) :
    utf16 order c = Utf16.unitBytes order c.toNat := by
  rw [utf16, Utf16.units, if_pos (show c.toNat < 0x10000 from basic), List.flatMap_singleton]

/-! ## Rows -/

theorem mem_rows {last fuel first : Nat} {row : Nat × Nat} (member : row ∈ rows last fuel first) :
    row.1 ≤ row.2 ∧ row.2 ≤ last ∧ row.1 / 256 = row.2 / 256 := by
  induction fuel generalizing first with
  | zero => simp [rows] at member
  | succ fuel ih =>
    rw [rows] at member
    split at member
    · simp at member
    · rcases List.mem_cons.mp member with rfl | member
      · simp only
        omega
      · exact ih member

/-- Each number from the first to the last is in one row, all others in none. -/
theorem count_rows {last fuel first : Nat} (enough : last < first ∨ last / 256 < fuel + first / 256) (n : Nat) :
    (rows last fuel first).countP (fun row => row.1 ≤ n && n ≤ row.2) =
      if first ≤ n ∧ n ≤ last then 1 else 0 := by
  induction fuel generalizing first with
  | zero =>
    rw [if_neg (by omega)]
    rfl
  | succ fuel ih =>
    rw [rows]
    split
    · rw [if_neg (by omega)]
      rfl
    · have stop : min last (first / 256 * 256 + 255) ≤ last := Nat.min_le_left ..
      rw [List.countP_cons, ih (by omega)]
      simp only [Bool.and_eq_true, decide_eq_true_eq]
      split_ifs <;> omega

/-- The basic members of a set. -/
abbrev basicMembers (set : RangeSet) : RangeSet := CharSet.inter set (CharSet.span 0 0xFFFF)

theorem contains_basicMembers {set : RangeSet} {n : Nat} :
    (basicMembers set).contains n ↔ set.contains n ∧ n ≤ 0xFFFF ∧ (n < 0xD800 ∨ 0xDFFF < n) := by
  have all : CharSet.all.contains n ↔ n ≤ 0xD7FF ∨ 0xE000 ≤ n ∧ n ≤ CharSet.lastCode := by
    simp [CharSet.all, RangeSet.contains]
  rw [basicMembers, CharSet.inter, RangeSet.contains_inter, CharSet.span, RangeSet.contains_inter,
    RangeSet.contains_ofList, all]
  simp only [List.mem_singleton, exists_eq_left, CharSet.lastCode]
  constructor
  · intro found
    obtain ⟨_, member, _, inside, scalar⟩ := found
    exact ⟨member, by omega, by omega⟩
  · intro found
    obtain ⟨member, inside, scalar⟩ := found
    exact ⟨by omega, member, by omega, by omega, by omega⟩

/-- The rows of all basic members of a set. -/
def basicRows (set : RangeSet) : List (Nat × Nat) := (basicMembers set).ranges.flatMap fun r => rows r.2 256 r.1

/-- Over all rows of a set each code unit is covered once if it is a basic member, else not at all. -/
theorem count_basicRows (set : RangeSet) (n : Nat) :
    (basicRows set).countP (fun row => row.1 ≤ n && n ≤ row.2) = if (basicMembers set).contains n then 1 else 0 := by
  have inside : ∀ r ∈ (basicMembers set).ranges, r.1 ≤ r.2 ∧ r.2 ≤ 0xFFFF := by
    intro r member
    have ordered := (basicMembers set).nonempty r member
    have last : (basicMembers set).contains r.2 :=
      RangeSet.contains_iff.mpr ⟨r, member, ordered, Nat.le_refl _⟩
    exact ⟨ordered, (contains_basicMembers.mp last).2.1⟩
  have apart := (basicMembers set).apart
  rw [basicRows, RangeSet.contains]
  generalize (basicMembers set).ranges = ranges at inside apart
  induction ranges with
  | nil => rfl
  | cons r ranges ih =>
    obtain ⟨here, others⟩ := List.forall_mem_cons.mp inside
    obtain ⟨gap, later⟩ := List.pairwise_cons.mp apart
    rw [List.flatMap_cons, List.countP_append, count_rows (by omega), ih others later, List.any_cons]
    by_cases first : r.1 ≤ n ∧ n ≤ r.2
    · have alone : (ranges.any fun r => r.1 ≤ n && n ≤ r.2) = false := by
        rw [List.any_eq_false]
        intro other member
        have := gap other member
        simp
        omega
      simp [first, alone]
    · have out : (decide (r.1 ≤ n) && decide (n ≤ r.2)) = false := by simpa using first
      rw [if_neg first, out, Bool.false_or, Nat.zero_add]

/-! ## Classes -/

/-- The words of a row are its code units. -/
theorem language_rowExpr (order : Utf16.Order) {row : Nat × Nat} (same : row.1 / 256 = row.2 / 256) :
    (rowExpr order row).language = {w | ∃ n, row.1 ≤ n ∧ n ≤ row.2 ∧ w = Utf16.unitBytes order n} := by
  have lowSet (m : Nat) : (RangeSet.ofList [(row.1 % 256, row.2 % 256)]).contains m ↔
      row.1 % 256 ≤ m ∧ m ≤ row.2 % 256 := by
    simp [RangeSet.contains_ofList]
  have low : (Expr.ofByteSet (RangeSet.ofList [(row.1 % 256, row.2 % 256)])).language =
      {w | ∃ n, row.1 ≤ n ∧ n ≤ row.2 ∧ w = [(n % 256).toUInt8]} := by
    rw [language_ofByteSet]
    · ext w
      constructor
      · intro found
        obtain ⟨b, rfl, member⟩ := found
        have bounds := (lowSet _).mp member
        have value : (row.1 / 256 * 256 + b.toNat) % 256 = b.toNat := by
          have := b.toNat_lt
          omega
        refine ⟨row.1 / 256 * 256 + b.toNat, by omega, by omega, ?_⟩
        rw [value, Nat.toUInt8, UInt8.ofNat_toNat]
      · intro found
        obtain ⟨n, least, most, rfl⟩ := found
        have value : (n % 256).toUInt8.toNat = n % 256 := Nat.mod_eq_of_lt (Nat.mod_lt _ (by decide))
        exact ⟨_, rfl, (lowSet _).mpr (by omega)⟩
    · intro n single
      have member := (lowSet n).mp ((RangeSet.single?_eq_some_iff.mp single n).mpr rfl)
      omega
  have high {n : Nat} (least : row.1 ≤ n) (most : n ≤ row.2) : n / 256 = row.1 / 256 := by omega
  cases order with
  | little =>
    rw [rowExpr, language_concat, List.map_cons, List.map_singleton, List.prod_cons, List.prod_singleton, low]
    ext w
    constructor
    · intro found
      obtain ⟨_, ⟨n, least, most, rfl⟩, _, rfl, rfl⟩ := found
      exact ⟨n, least, most, by rw [← high least most]; rfl⟩
    · intro found
      obtain ⟨n, least, most, rfl⟩ := found
      exact ⟨_, ⟨n, least, most, rfl⟩, _, rfl, by rw [← high least most]; rfl⟩
  | big =>
    rw [rowExpr, language_concat, List.map_cons, List.map_singleton, List.prod_cons, List.prod_singleton, low]
    ext w
    constructor
    · intro found
      obtain ⟨_, rfl, _, ⟨n, least, most, rfl⟩, rfl⟩ := found
      exact ⟨n, least, most, by rw [← high least most]; rfl⟩
    · intro found
      obtain ⟨n, least, most, rfl⟩ := found
      exact ⟨_, rfl, _, ⟨n, least, most, rfl⟩, by rw [← high least most]; rfl⟩

theorem widenSet_eq (order : Utf16.Order) (set : RangeSet) :
    widenSet order set = Expr.alternation ((basicRows set).map (rowExpr order)) := rfl

theorem language_row (order : Utf16.Order) {set : RangeSet} {row : Nat × Nat} (member : row ∈ basicRows set) :
    (rowExpr order row).language = {w | ∃ n, row.1 ≤ n ∧ n ≤ row.2 ∧ w = Utf16.unitBytes order n} := by
  obtain ⟨r, _, here⟩ := List.mem_flatMap.mp member
  exact language_rowExpr order (mem_rows here).2.2

/-- Rows hold each member of a class that is in the basic plane once, and nothing else. -/
structure CoversOnce (order : Utf16.Order) (set : RangeSet) (cover : List (Nat × Nat)) : Prop where
  built : widenSet order set = Expr.alternation (cover.map (rowExpr order))
  reads : ∀ row ∈ cover, (rowExpr order row).language =
    {w | ∃ n, row.1 ≤ n ∧ n ≤ row.2 ∧ w = Utf16.unitBytes order n}
  once (n : Nat) : cover.countP (fun row => row.1 ≤ n && n ≤ row.2) =
    if set.contains n ∧ n ≤ 0xFFFF ∧ (n < 0xD800 ∨ 0xDFFF < n) then 1 else 0

theorem coversOnce_basicRows (order : Utf16.Order) (set : RangeSet) : CoversOnce order set (basicRows set) where
  built := widenSet_eq order set
  reads _ member := language_row order member
  once n := by simp only [count_basicRows, contains_basicMembers]

/-- A class becomes the code units of its basic members. -/
theorem language_widenSet (order : Utf16.Order) (set : RangeSet) :
    (widenSet order set).language = codedBy (utf16 order) (charTexts Basic set) := by
  have formed : AllFormed (fun _ => True) ((basicRows set).map (rowExpr order)) := by
    intro e member
    obtain ⟨row, _, rfl⟩ := List.mem_map.mp member
    exact formed_rowExpr order row
  have covered (n : Nat) : (∃ row ∈ basicRows set, row.1 ≤ n ∧ n ≤ row.2) ↔ (basicMembers set).contains n := by
    have once := count_basicRows set n
    have some := List.countP_pos_iff (p := fun row : Nat × Nat => row.1 ≤ n && n ≤ row.2) (l := basicRows set)
    simp only [Bool.and_eq_true, decide_eq_true_eq] at some
    rw [← some, once]
    split <;> simp [*]
  ext w
  rw [widenSet_eq, language_alternation formed, mem_sum_language]
  constructor
  · intro found
    obtain ⟨e, member, inside⟩ := found
    obtain ⟨row, present, rfl⟩ := List.mem_map.mp member
    rw [language_row order present] at inside
    obtain ⟨n, least, most, rfl⟩ := inside
    obtain ⟨member, small, scalar⟩ := contains_basicMembers.mp ((covered n).mp ⟨row, present, least, most⟩)
    have valid : n.isValidChar := scalar.imp_right fun above => ⟨above, by omega⟩
    have value : (Char.ofNat n).toNat = n := Utf8.toNat_ofNat_of_valid valid
    have basic : Basic (Char.ofNat n) := by
      rw [Basic, value]
      omega
    refine ⟨[Char.ofNat n], ⟨_, rfl, basic, value.symm ▸ member⟩, ?_⟩
    rw [List.flatMap_singleton, utf16_of_basic basic, value]
  · intro found
    obtain ⟨_, ⟨c, rfl, basic, member⟩, rfl⟩ := found
    have scalar : c.toNat < 0xD800 ∨ 0xDFFF < c.toNat := c.valid.imp_right And.left
    have small : c.toNat ≤ 0xFFFF := Nat.le_of_lt_succ basic
    obtain ⟨row, present, inside⟩ := (covered c.toNat).mpr (contains_basicMembers.mpr ⟨member, small, scalar⟩)
    refine ⟨_, List.mem_map_of_mem present, ?_⟩
    rw [language_row order present, List.flatMap_singleton, utf16_of_basic basic]
    exact ⟨_, inside.1, inside.2, rfl⟩

/-! ## Expressions -/

/-- Text can be widened. -/
theorem widenParts_of_textual (order : Utf16.Order) {e : Expr} (textual : e.Textual) :
    ∃ parts, e.widenParts order = .ok parts := by
  induction e with
  | literal bytes =>
    obtain ⟨text, rfl⟩ := textual
    exact ⟨_, by rw [Expr.widenParts, Utf8.decode?_encode]⟩
  | repetition least most greedy body ih =>
    obtain ⟨inner, narrow⟩ := ih textual.2
    exact ⟨_, by rw [Expr.widenParts, narrow]; rfl⟩
  | group index body ih =>
    obtain ⟨inner, narrow⟩ := ih textual
    exact ⟨_, by rw [Expr.widenParts, narrow]; rfl⟩
  | seq a b iha ihb | alt a b iha ihb =>
    obtain ⟨first, here⟩ := iha textual.1
    obtain ⟨second, there⟩ := ihb textual.2
    rw [Expr.widenParts, here, there]
    split <;> exact ⟨_, rfl⟩
  | _ => exact ⟨_, rfl⟩

theorem language_concat_cons (e : Expr) (es : List Expr) :
    (Expr.concat (e :: es)).language = e.language * (Expr.concat es).language := by
  rw [language_concat, language_concat, List.map_cons, List.prod_cons]

theorem language_concat_single (e : Expr) : (Expr.concat [e]).language = e.language := by
  rw [language_concat, List.map_singleton, List.prod_singleton]

theorem language_alternation_cons {allowed : Look → Prop} {e : Expr} {es : List Expr} (first : e.Formed allowed)
    (others : AllFormed allowed es) :
    (Expr.alternation (e :: es)).language = e.language + (Expr.alternation es).language := by
  rw [language_alternation (allEach_cons.mpr ⟨first, others⟩), language_alternation others, List.map_cons,
    List.sum_cons]

theorem language_alternation_single {allowed : Look → Prop} {e : Expr} (formed : e.Formed allowed) :
    (Expr.alternation [e]).language = e.language := by
  rw [language_alternation (allEach_single.mpr formed), List.map_singleton, List.sum_singleton]

/-- The words of a widened expression are its texts in code units. -/
theorem language_gather {allowed : Look → Prop} {order : Utf16.Order} {e : Expr} {parts : List Expr}
    (formed : e.Formed allowed) (textual : e.Textual) (widened : e.widenParts order = .ok parts) :
    (Expr.widenParts.gather e parts).language = codedBy (utf16 order) (e.texts Basic) := by
  induction e generalizing parts with
  | empty | look l =>
    obtain rfl := Except.ok.inj widened
    exact (language_concat_single _).trans codedBy_one.symm
  | literal bytes =>
    obtain ⟨text, rfl⟩ := textual
    rw [Expr.widenParts, Utf8.decode?_encode] at widened
    obtain rfl := Except.ok.inj widened
    refine (language_concat_single _).trans (Language.ext fun w => ⟨fun same => ?_, fun found => ?_⟩)
    · subst same
      exact ⟨text, rfl, rfl⟩
    · obtain ⟨other, same, rfl⟩ := found
      have read := Utf8.decode?_encode other
      rw [show Utf8.encode other = Utf8.encode text from same, Utf8.decode?_encode] at read
      rw [← Option.some.inj read]
      rfl
  | byteClass set | charClass set =>
    obtain rfl := Except.ok.inj widened
    exact (language_concat_single _).trans (language_widenSet order set)
  | repetition least most greedy body ih =>
    obtain ⟨inner, narrow, widened⟩ := bind_eq_ok.mp widened
    obtain rfl := Except.ok.inj widened
    rw [Expr.texts, codedBy_repeatWords, ← ih formed.2 textual.2 narrow]
    exact (language_concat_single _).trans (language_repeated greedy formed.1
      (each_gather closed_wellMade body (each_widenParts (wellMade_widens _) formed.2 narrow)))
  | group index body ih =>
    obtain ⟨inner, narrow, widened⟩ := bind_eq_ok.mp widened
    obtain rfl := Except.ok.inj widened
    exact (language_concat_single _).trans (ih formed textual narrow)
  | seq a b iha ihb =>
    obtain ⟨first, narrow, widened⟩ := bind_eq_ok.mp widened
    rw [Expr.texts, codedBy_mul, ← iha formed.1 textual.1 narrow]
    split at widened
    all_goals
      obtain ⟨rest, behind, widened⟩ := bind_eq_ok.mp widened
      obtain rfl := Except.ok.inj widened
      rw [← ihb formed.2 textual.2 behind]
    · exact language_concat_cons _ _
    · exact (language_concat_cons _ _).trans (congrArg _ (language_concat_single _))
  | alt a b iha ihb =>
    obtain ⟨first, narrow, widened⟩ := bind_eq_ok.mp widened
    have start := each_gather closed_wellMade a (each_widenParts (wellMade_widens _) formed.1 narrow)
    rw [Expr.texts, codedBy_add, ← iha formed.1 textual.1 narrow]
    split at widened
    all_goals
      obtain ⟨rest, behind, widened⟩ := bind_eq_ok.mp widened
      obtain rfl := Except.ok.inj widened
      have later := each_widenParts (wellMade_widens _) formed.2 behind
      rw [← ihb formed.2 textual.2 behind]
    · exact language_alternation_cons start later
    · have last := each_gather closed_wellMade b later
      exact (language_alternation_cons start (allEach_single.mpr last)).trans
        (congrArg _ (language_alternation_single last))

end Triage.Regex
