import Triage.Proofs.Regex.Each
import Triage.Regex.Spelling

/-! What holds of every expression that the builders make: no class has a single member, the counts of
a repetition are in order, and all conditions are of a given kind. Reading, widening and respelling
make expressions with the builders only, so they keep it. -/

namespace Triage.Regex

def Expr.WellMade (allowed : Look → Prop) : Expr → Prop
  | .byteClass set | .charClass set => set.single? = none
  | .look l => allowed l
  | .repetition least most _ _ => ∀ m ∈ most, least ≤ m
  | _ => True

abbrev Expr.Formed (allowed : Look → Prop) (e : Expr) : Prop := e.Each (Expr.WellMade allowed)

abbrev AllFormed (allowed : Look → Prop) (es : List Expr) : Prop := AllEach (Expr.WellMade allowed) es

variable {allowed : Look → Prop}

/-- The kind of the conditions can be told apart from the rest. -/
theorem formed_iff_looks (e : Expr) :
    e.Formed allowed ↔ (e.Formed fun _ => True) ∧ ∀ l ∈ e.looks, allowed l := by
  induction e with
  | seq a b iha ihb | alt a b iha ihb =>
    simp only [Expr.Each, Expr.looks, List.mem_append, iha, ihb]
    grind
  | repetition least most greedy body ih =>
    simp only [Expr.Each, Expr.WellMade, Expr.looks, ih, and_assoc]
  | group index body ih => simpa only [Expr.Each, Expr.looks] using ih
  | _ => simp [Expr.Each, Expr.WellMade, Expr.looks]

/-! ## Classes -/

theorem formed_fail : Expr.fail.Formed allowed := rfl

theorem formed_ofByteSet (set : RangeSet) : (Expr.ofByteSet set).Formed allowed := by
  unfold Expr.ofByteSet
  split
  · trivial
  · assumption

theorem formed_ofCharSet (set : CharSet) : (Expr.ofCharSet set).Formed allowed := by
  unfold Expr.ofCharSet
  split
  · exact formed_fail
  · split
    · trivial
    · assumption

theorem formed_classOfBranches? {es : List Expr} {e : Expr}
    (found : Expr.classOfBranches? es = some e) : e.Formed allowed := by
  rcases classOfBranches?_cases found with ⟨_, _, rfl⟩ | ⟨_, _, rfl⟩ | ⟨_, _, rfl⟩ | ⟨_, _, rfl⟩
  · exact formed_ofCharSet _
  · exact formed_ofByteSet _
  · exact formed_ofCharSet _
  · exact formed_ofByteSet _

theorem closed_wellMade : Closed (Expr.WellMade allowed) where
  empty := trivial
  fail := rfl
  blank := trivial
  join _ _ := trivial
  merge _ found := formed_classOfBranches? found
  once {least most _ _} ordered := by
    cases most with
    | none =>
      intro m bound
      obtain rfl := Option.some.inj bound
      exact Nat.min_le_right least 1
    | some most =>
      have := ordered most rfl
      simp [Expr.WellMade]
      omega

/-! ## Reading -/

theorem formed_literal (flags : Flags) (l : Literal) : (flags.literal l).Formed allowed := by
  have char (c : Char) : (Expr.ofChar c).Formed allowed := trivial
  unfold Flags.literal
  split
  · trivial
  · split
    · exact char _
    · split
      · split
        · exact formed_ofCharSet _
        · exact char _
      · split
        · exact formed_ofByteSet _
        · exact char _

theorem formed_ofClass (flags : Flags) (set : RangeSet) : (flags.ofClass set).Formed allowed := by
  unfold Flags.ofClass
  split
  · exact formed_ofCharSet _
  · exact formed_ofByteSet _

theorem formed_elaborate? {flags after : Flags} {s : Syntax} {e : Expr}
    (read : s.elaborate? flags = some (e, after)) : e.Formed fun _ => True :=
  have reads : ReadsAs (Expr.WellMade fun _ => True) fun _ => True :=
    { closed := closed_wellMade
      literal := fun l _ => formed_literal _ l
      ofClass := fun set _ => formed_ofClass _ set
      look := fun _ => trivial
      counts := fun counts _ _ => counts.ordered }
  (each_elaborate? reads trivial (fun _ _ _ _ => trivial) read).1

/-! ## Widening -/

theorem formed_rowExpr (order : Utf16.Order) (row : Nat × Nat) : (rowExpr order row).Formed allowed := by
  have low : (Expr.ofByteSet (RangeSet.ofList [(row.1 % 256, row.2 % 256)])).Formed allowed :=
    formed_ofByteSet _
  have high : (Expr.literal [(row.1 / 256).toUInt8]).Formed allowed := trivial
  cases order with
  | little => exact each_concat closed_wellMade (allEach_cons.mpr ⟨low, allEach_single.mpr high⟩)
  | big => exact each_concat closed_wellMade (allEach_cons.mpr ⟨high, allEach_single.mpr low⟩)

theorem formed_widenSet (order : Utf16.Order) (set : RangeSet) :
    (widenSet order set).Formed allowed := by
  apply each_alternation closed_wellMade
  intro e member
  obtain ⟨row, _, rfl⟩ := List.mem_map.mp member
  exact formed_rowExpr order row

theorem wellMade_widens (order : Utf16.Order) :
    WidensTo order (Expr.WellMade allowed) (Expr.WellMade allowed) where
  closed := closed_wellMade
  literal _ := trivial
  widenSet := formed_widenSet order
  look allowed := allowed
  counts ordered _ _ := ordered

/-! ## Respelling -/

def Repeat.Ordered (r : Repeat) : Prop := ∀ m ∈ r.most, r.least ≤ m

theorem formed_apply {body : Expr} {r : Repeat} (formed : body.Formed allowed)
    (ordered : r.Ordered) : (Repeat.apply body r).Formed allowed :=
  each_repeated closed_wellMade ordered formed

theorem formed_foldl_apply {rs : List Repeat} {body : Expr} (formed : body.Formed allowed)
    (ordered : ∀ r ∈ rs, r.Ordered) : (rs.foldl Repeat.apply body).Formed allowed := by
  induction rs generalizing body with
  | nil => exact formed
  | cons r rs ih =>
    obtain ⟨first, others⟩ := List.forall_mem_cons.mp ordered
    exact ih (formed_apply formed first) others

def RepeatSign.counts : RepeatSign → Nat × Option Nat
  | .question => (0, some 1)
  | .count least most => (least, most)

def RepeatSign.Ordered (sign : RepeatSign) : Prop := ∀ m ∈ sign.counts.2, sign.counts.1 ≤ m

/-- A repetition is written as one sign, with the lazy mark behind it or without. -/
theorem signs_cases (r : Repeat) :
    ∃ sign, sign.counts = (r.least, r.most) ∧ (r.signs = [sign] ∨ r.signs = [sign, .question]) := by
  refine ⟨if r.least = 0 ∧ r.most = some 1 then .question else .count r.least r.most, ?_, ?_⟩
  · split
    · rename_i once
      rw [once.1, once.2, RepeatSign.counts]
    · rfl
  · unfold Repeat.signs
    grind

theorem ordered_signs {r : Repeat} (ordered : r.Ordered) : ∀ sign ∈ r.signs, sign.Ordered := by
  obtain ⟨sign, counts, spelled⟩ := signs_cases r
  have first : sign.Ordered := by
    rw [RepeatSign.Ordered, counts]
    exact ordered
  have mark : RepeatSign.question.Ordered := by simp [RepeatSign.Ordered, RepeatSign.counts]
  rcases spelled with spelled | spelled <;> simp [spelled, first, mark]

theorem ordered_ofSigns {signs : List RepeatSign} (ordered : ∀ sign ∈ signs, sign.Ordered) :
    ∀ r ∈ Repeat.ofSigns signs, r.Ordered := by
  have once (greedy : Bool) : (Repeat.mk 0 (some 1) greedy).Ordered := by simp [Repeat.Ordered]
  fun_induction Repeat.ofSigns signs with
  | case1 rest ih | case2 rest _ ih =>
    exact List.forall_mem_cons.mpr ⟨once _, ih fun sign member => ordered sign (by simp [member])⟩
  | case3 least most rest ih | case4 least most rest _ ih =>
    exact List.forall_mem_cons.mpr
      ⟨ordered (.count least most) List.mem_cons_self, ih fun sign member =>
        ordered sign (by simp [member])⟩
  | case5 => simp

theorem formed_close {signs : List RepeatSign} {branches : List Expr}
    (ordered : ∀ sign ∈ signs, sign.Ordered) (all : AllFormed allowed branches) :
    AllFormed allowed (Expr.respelledBranches.close signs branches) := by
  unfold Expr.respelledBranches.close
  split
  · exact all
  · exact allEach_single.mpr
      (formed_foldl_apply (each_alternation closed_wellMade all) (ordered_ofSigns ordered))

theorem formed_respelledBranches {signs : List RepeatSign} {e : Expr} (formed : e.Formed allowed)
    (ordered : ∀ sign ∈ signs, sign.Ordered) :
    AllFormed allowed (e.respelledBranches signs) := by
  have bare : ∀ sign ∈ ([] : List RepeatSign), sign.Ordered := by simp
  induction e generalizing signs with
  | repetition least most greedy body ih =>
    exact ih formed.2 (List.forall_mem_append.mpr
      ⟨ordered_signs (r := ⟨least, most, greedy⟩) formed.1, ordered⟩)
  | group index body ih =>
    have inner : (Expr.alternation (body.respelledBranches [])).Formed allowed :=
      each_alternation closed_wellMade (ih formed bare)
    exact formed_close ordered (allEach_single.mpr inner)
  | seq a b iha ihb =>
    exact formed_close ordered (allEach_single.mpr (each_concat closed_wellMade (allEach_cons.mpr
      ⟨each_alternation closed_wellMade (iha formed.1 bare),
        allEach_single.mpr (each_alternation closed_wellMade (ihb formed.2 bare))⟩)))
  | alt a b iha ihb =>
    exact formed_close ordered (allEach_append.mpr ⟨iha formed.1 bare, ihb formed.2 bare⟩)
  | _ => exact formed_close ordered (allEach_single.mpr formed)

theorem formed_respelled {e : Expr} (formed : e.Formed allowed) : e.respelled.Formed allowed :=
  each_alternation closed_wellMade (formed_respelledBranches formed (by simp))

/-- In ASCII the word conditions are those of ASCII. -/
theorem formed_inAscii? {e ascii : Expr} (formed : e.Formed allowed) (read : e.inAscii? = some ascii)
    (words : ∀ unicode edge, allowed (.word unicode edge) → allowed (.word false edge)) :
    ascii.Formed allowed := by
  induction e generalizing ascii with
  | empty | literal bytes | byteClass set =>
    obtain rfl := Option.some.inj read
    exact formed
  | charClass set =>
    rw [Expr.inAscii?] at read
    split at read
    · obtain rfl := Option.some.inj read
      exact formed
    · simp at read
  | look l =>
    cases l with
    | word unicode edge =>
      obtain rfl := Option.some.inj read
      exact words _ _ formed
    | _ =>
      obtain rfl := Option.some.inj read
      exact formed
  | repetition least most greedy body ih =>
    obtain ⟨inner, within, rfl⟩ := Option.map_eq_some_iff.mp read
    exact ⟨formed.1, ih formed.2 within⟩
  | group index body ih =>
    obtain ⟨inner, within, rfl⟩ := Option.map_eq_some_iff.mp read
    rw [Expr.Formed, Expr.Each]
    exact ih formed within
  | seq a b iha ihb | alt a b iha ihb =>
    obtain ⟨first, here, read⟩ := Option.bind_eq_some_iff.mp read
    obtain ⟨second, there, read⟩ := Option.bind_eq_some_iff.mp read
    obtain rfl := Option.some.inj read
    exact ⟨iha formed.1 here, ihb formed.2 there⟩

end Triage.Regex
