import Mathlib.Algebra.BigOperators.Ring.List
import Mathlib.Data.List.Forall2
import Triage.Proofs.Regex.Length

/-! The builders' normal forms spell what the plain forms spell: joined literals, merged classes, shared
factors taken out and counts of empty bodies cut down are other ways to write the same words. Read
back from its text an expression spells no other words, since a sign that turns into the lazy mark of
the one before only loses the empty word. -/

namespace Triage.Regex
open scoped Computability

variable {allowed : Look → Prop}

/-! ## Values put together

A value of expressions that multiplies along concatenations, or adds along alternations, is that of the
parts. -/

section values
variable {M : Type} {v : Expr → M} {es : List Expr}

theorem prod_factors [Monoid M] (empty : v .empty = 1) (seq : ∀ a b, v (.seq a b) = v a * v b) (e : Expr) :
    (e.factors.map v).prod = v e := by
  induction e with
  | seq a b _ ih => rw [Expr.factors, List.map_cons, List.prod_cons, ih, seq]
  | empty => exact empty.symm
  | _ => simp [Expr.factors]

theorem prod_ofFactors [Monoid M] (empty : v .empty = 1) (seq : ∀ a b, v (.seq a b) = v a * v b) (es : List Expr) :
    v (Expr.ofFactors es) = (es.map v).prod := by
  induction es with
  | nil => exact empty
  | cons e es ih =>
    cases es with
    | nil => simp [Expr.ofFactors]
    | cons f es => exact (seq _ _).trans (congrArg (v e * ·) ih)

theorem prod_flatMap [Monoid M] {parts : Expr → List Expr} (each : ∀ e, ((parts e).map v).prod = v e)
    (es : List Expr) : ((es.flatMap parts).map v).prod = (es.map v).prod := by
  induction es with
  | nil => rfl
  | cons e es ih => simp [List.flatMap_cons, each, ih]

theorem sum_branches [AddMonoid M] (alt : ∀ a b, v (.alt a b) = v a + v b) (e : Expr) :
    (e.branches.map v).sum = v e := by
  induction e with
  | alt a b _ ih => rw [Expr.branches, List.map_cons, List.sum_cons, ih, alt]
  | _ => simp [Expr.branches]

theorem sum_flatMap_branches [AddMonoid M] (alt : ∀ a b, v (.alt a b) = v a + v b) (es : List Expr) :
    ((es.flatMap Expr.branches).map v).sum = (es.map v).sum := by
  induction es with
  | nil => rfl
  | cons e es ih => simp [List.flatMap_cons, sum_branches alt, ih]

theorem sum_ofBranches [AddMonoid M] (fail : v .fail = 0) (alt : ∀ a b, v (.alt a b) = v a + v b)
    (es : List Expr) : v (Expr.ofBranches es) = (es.map v).sum := by
  induction es with
  | nil => exact fail
  | cons e es ih =>
    cases es with
    | nil => simp [Expr.ofBranches]
    | cons f es => exact (alt _ _).trans (congrArg (v e + ·) ih)

end values

theorem mem_sum_language {es : List Expr} {w : List UInt8} :
    w ∈ (es.map Expr.language).sum ↔ ∃ e ∈ es, w ∈ e.language := by
  induction es with
  | nil => simp
  | cons e es ih =>
    rw [List.map_cons, List.sum_cons, Language.mem_add, ih]
    simp

/-! ## Concatenations -/

theorem literal_mul_literal (a b : List UInt8) :
    (Expr.literal a).language * (Expr.literal b).language = (Expr.literal (a ++ b)).language := by
  ext w
  constructor
  · intro found
    obtain ⟨_, rfl, _, rfl, rfl⟩ := found
    rfl
  · intro same
    subst same
    exact ⟨a, rfl, b, rfl, rfl⟩

theorem language_factors (e : Expr) : (e.factors.map Expr.language).prod = e.language :=
  prod_factors rfl (fun _ _ => rfl) e

theorem language_joinLiterals (held : List UInt8) (es : List Expr) :
    ((Expr.joinLiterals held es).map Expr.language).prod =
      (Expr.literal held).language * (es.map Expr.language).prod := by
  have none : (Expr.literal []).language = 1 := rfl
  induction es generalizing held with
  | nil =>
    rw [Expr.joinLiterals]
    split
    · rename_i empty
      rw [List.isEmpty_iff.mp empty]
      simp [none]
    · simp
  | cons e es ih =>
    cases e with
    | literal bytes =>
      rw [Expr.joinLiterals, ih, List.map_cons, List.prod_cons, ← mul_assoc, literal_mul_literal]
    | _ =>
      rw [Expr.joinLiterals]
      · split
        · rename_i empty
          rw [List.map_cons, List.prod_cons, ih, List.isEmpty_iff.mp empty, none]
          simp
        · rw [List.map_cons, List.map_cons, List.prod_cons, List.prod_cons, ih, none]
          simp
      · simp

theorem language_concat (es : List Expr) :
    (Expr.concat es).language = (es.map Expr.language).prod := by
  rw [Expr.concat, prod_ofFactors (v := Expr.language) rfl fun _ _ => rfl, language_joinLiterals, prod_flatMap language_factors]
  exact one_mul _

/-! ## Classes -/

theorem contains_points {ns : List Nat} {n : Nat} : (Expr.points ns).contains n ↔ n ∈ ns := by
  rw [Expr.points, RangeSet.contains_ofList]
  constructor
  · intro found
    obtain ⟨r, member, low, high⟩ := found
    obtain ⟨m, inside, rfl⟩ := List.mem_map.mp member
    obtain rfl : n = m := by
      simp only at low high
      omega
    exact inside
  · intro member
    exact ⟨(n, n), List.mem_map_of_mem member, Nat.le_refl _, Nat.le_refl _⟩

theorem contains_unionAll {sets : List RangeSet} {n : Nat} :
    (Expr.unionAll sets).contains n ↔ ∃ set ∈ sets, set.contains n := by
  rw [Expr.unionAll, RangeSet.contains_ofList]
  constructor
  · intro found
    obtain ⟨r, member, inside⟩ := found
    obtain ⟨set, present, member⟩ := List.mem_flatMap.mp member
    exact ⟨set, present, RangeSet.contains_iff.mpr ⟨r, member, inside⟩⟩
  · intro found
    obtain ⟨set, present, inside⟩ := found
    obtain ⟨r, member, inside⟩ := RangeSet.contains_iff.mp inside
    exact ⟨r, List.mem_flatMap.mpr ⟨set, present, member⟩, inside⟩

/-- Sets without a single member make none with one. -/
theorem single?_unionAll {sets : List RangeSet} (several : ∀ set ∈ sets, set.single? = none) :
    (Expr.unionAll sets).single? = none := by
  apply Option.eq_none_iff_forall_ne_some.mpr
  intro n single
  have only := RangeSet.single?_eq_some_iff.mp single
  obtain ⟨set, present, inside⟩ := contains_unionAll.mp ((only n).mpr rfl)
  have alone : set.single? = some n := by
    refine RangeSet.single?_eq_some_iff.mpr fun m => ⟨fun member => ?_, fun same => same ▸ inside⟩
    exact (only m).mp (contains_unionAll.mpr ⟨set, present, member⟩)
  simp [several set present] at alone

/-- A single byte is spelled as a literal. -/
theorem language_ofByteSet {set : RangeSet} (bytes : ∀ n, set.single? = some n → n < 256) :
    (Expr.ofByteSet set).language = byteWords set := by
  unfold Expr.ofByteSet
  split
  · rename_i n single
    have only := RangeSet.single?_eq_some_iff.mp single
    have value : n.toUInt8.toNat = n := Nat.mod_eq_of_lt (bytes n single)
    ext w
    constructor
    · intro same
      subst same
      exact ⟨n.toUInt8, rfl, (only _).mpr value⟩
    · intro found
      obtain ⟨b, rfl, inside⟩ := found
      rw [(only _).mp inside |>.symm, Nat.toUInt8, UInt8.ofNat_toNat]
      rfl
  · rfl

theorem language_ofCharSet {set : CharSet}
    (chars : ∀ n, set.single? = some n → ∃ w, Utf8.first? w = some (n, [])) :
    (Expr.ofCharSet set).language = charWords set := by
  unfold Expr.ofCharSet
  split
  · rename_i empty
    ext w
    constructor
    · intro found
      obtain ⟨b, _, inside⟩ := found
      simp at inside
    · intro found
      obtain ⟨code, _, inside⟩ := found
      simp [RangeSet.contains_eq_false_of_isEmpty empty] at inside
  · split
    · rename_i n single
      have only := RangeSet.single?_eq_some_iff.mp single
      obtain ⟨bytes, read⟩ := chars n single
      have spelled := Utf8.eq_encode_of_first? read
      ext w
      constructor
      · intro same
        subst same
        exact ⟨n, by rw [← spelled, read], (only n).mpr rfl⟩
      · intro found
        obtain ⟨code, found, inside⟩ := found
        rw [(only code).mp inside] at found
        exact Utf8.eq_encode_of_first? found
    · rfl

theorem isAsciiSet_iff {set : RangeSet} : Expr.isAsciiSet set ↔ ∀ n, set.contains n → n < 128 := by
  constructor
  · intro ascii n member
    cases greatest : set.greatest? with
    | none => simp [RangeSet.contains_eq_false_of_greatest? greatest] at member
    | some last =>
      have least : last < 128 := by simpa [Expr.isAsciiSet, greatest] using ascii
      have := RangeSet.le_greatest? greatest member
      omega
  · intro small
    cases greatest : set.greatest? with
    | none => simp [Expr.isAsciiSet, greatest]
    | some last => simpa [Expr.isAsciiSet, greatest] using small last (RangeSet.contains_greatest? greatest)

/-- Below 128 characters are bytes. -/
theorem charWords_of_ascii {set : CharSet} (ascii : Expr.isAsciiSet set) :
    charWords set = byteWords set := by
  have below {n : Nat} (inside : set.contains n) : n < 128 := isAsciiSet_iff.mp ascii n inside
  ext w
  constructor
  · intro found
    obtain ⟨code, read, inside⟩ := found
    obtain ⟨head, form, spelled⟩ := Utf8.form_of_first? read
    rw [List.append_nil] at spelled
    have short : head.length = 1 := by
      rw [form.length_eq_width, Utf8.width, if_pos (below inside)]
    cases form with
    | one a small => exact ⟨a, spelled, inside⟩
    | _ => simp at short
  · intro found
    obtain ⟨b, rfl, inside⟩ := found
    refine ⟨b.toNat, ?_, inside⟩
    rw [Utf8.first?_cons, Utf8.opening_of_ascii (below inside)]
    rfl

/-- What a branch is as a class, and its words. -/
theorem language_of_charOfLiteral? {e : Expr} {code : Nat}
    (char : Expr.charOfLiteral? e = some code) {w : List UInt8} :
    w ∈ e.language ↔ Utf8.first? w = some (code, []) := by
  cases e with
  | literal bytes =>
    have read : Utf8.first? bytes = some (code, []) := by
      simp only [Expr.charOfLiteral?] at char
      split at char
      · rename_i found
        rw [found, Option.some.inj char]
      · simp at char
    constructor
    · intro same
      subst same
      exact read
    · intro found
      exact (Utf8.eq_encode_of_first? found).trans (Utf8.eq_encode_of_first? read).symm
  | _ => simp [Expr.charOfLiteral?] at char

theorem language_of_byteOfLiteral? {e : Expr} {n : Nat} (byte : Expr.byteOfLiteral? e = some n) :
    n < 256 ∧ e.language = {[n.toUInt8]} := by
  unfold Expr.byteOfLiteral? at byte
  split at byte
  · rename_i b
    obtain rfl := Option.some.inj byte
    refine ⟨b.toNat_lt, ?_⟩
    rw [Nat.toUInt8, UInt8.ofNat_toNat]
    rfl
  · simp at byte

theorem language_of_asCharSet? {e : Expr} {set : CharSet} (formed : e.Formed allowed)
    (found : Expr.asCharSet? e = some set) : set.single? = none ∧ e.language = charWords set := by
  cases e with
  | charClass own =>
    obtain rfl := Option.some.inj found
    exact ⟨formed, rfl⟩
  | byteClass own =>
    simp only [Expr.asCharSet?, Option.ite_none_right_eq_some, Option.some.injEq] at found
    obtain ⟨ascii, rfl⟩ := found
    exact ⟨formed, (charWords_of_ascii ascii).symm⟩
  | _ => simp [Expr.asCharSet?] at found

theorem language_of_asByteSet? {e : Expr} {set : RangeSet} (formed : e.Formed allowed)
    (found : Expr.asByteSet? e = some set) : set.single? = none ∧ e.language = byteWords set := by
  cases e with
  | byteClass own =>
    obtain rfl := Option.some.inj found
    exact ⟨formed, rfl⟩
  | charClass own =>
    simp only [Expr.asByteSet?, Option.ite_none_right_eq_some, Option.some.injEq] at found
    obtain ⟨ascii, rfl⟩ := found
    exact ⟨formed, charWords_of_ascii ascii⟩
  | _ => simp [Expr.asByteSet?] at found

private theorem forall₂_of_mapM {α β : Type} {f : α → Option β} {xs : List α} {ys : List β}
    (mapped : xs.mapM f = some ys) : List.Forall₂ (fun x y => f x = some y) xs ys := by
  induction xs generalizing ys with
  | nil =>
    obtain rfl : [] = ys := by simpa using mapped
    exact .nil
  | cons x xs ih =>
    simp only [List.mapM_cons, Option.bind_eq_bind, Option.bind_eq_some_iff, Option.pure_def,
      Option.some.injEq] at mapped
    obtain ⟨y, first, rest, others, rfl⟩ := mapped
    exact .cons first (ih others)

private theorem exists_of_forall₂ {α β : Type} {R : α → β → Prop} {xs : List α} {ys : List β}
    (related : List.Forall₂ R xs ys) {y : β} (member : y ∈ ys) : ∃ x ∈ xs, R x y := by
  induction related with
  | nil => simp at member
  | @cons x z xs ys first _ ih =>
    rcases List.mem_cons.mp member with rfl | member
    · exact ⟨x, List.mem_cons_self, first⟩
    · obtain ⟨x, inside, related⟩ := ih member
      exact ⟨x, List.mem_cons_of_mem _ inside, related⟩

theorem exists_of_mapM {α β : Type} {f : α → Option β} {xs : List α} {ys : List β} (mapped : xs.mapM f = some ys)
    {y : β} (member : y ∈ ys) : ∃ x ∈ xs, f x = some y :=
  exists_of_forall₂ (forall₂_of_mapM mapped) member

/-- A class made of parts holds the words of the branches that the parts come from. -/
private theorem mem_of_mapM {β : Type} {f : Expr → Option β} (words : β → Language UInt8)
    {es : List Expr} {parts : List β} (mapped : es.mapM f = some parts)
    (same : ∀ e ∈ es, ∀ part, f e = some part → e.language = words part) (w : List UInt8) :
    w ∈ (es.map Expr.language).sum ↔ ∃ part ∈ parts, w ∈ words part := by
  have related := forall₂_of_mapM mapped
  rw [mem_sum_language]
  constructor
  · intro found
    obtain ⟨e, member, inside⟩ := found
    obtain ⟨part, present, first⟩ := exists_of_forall₂ related.flip member
    exact ⟨part, present, same e member part first ▸ inside⟩
  · intro found
    obtain ⟨part, present, inside⟩ := found
    obtain ⟨e, member, first⟩ := exists_of_forall₂ related present
    exact ⟨e, member, (same e member part first).symm ▸ inside⟩

section branches
variable {es : List Expr}

theorem language_charsOfBranches {codes : List Nat}
    (mapped : es.mapM Expr.charOfLiteral? = some codes) :
    (Expr.ofCharSet (Expr.points codes)).language = (es.map Expr.language).sum := by
  have members := mem_of_mapM (fun code => {w | Utf8.first? w = some (code, [])}) mapped
    fun e _ code char => Language.ext fun w => language_of_charOfLiteral? char
  rw [language_ofCharSet]
  · ext w
    rw [members]
    constructor
    · intro found
      obtain ⟨code, read, inside⟩ := found
      exact ⟨code, contains_points.mp inside, read⟩
    · intro found
      obtain ⟨code, inside, read⟩ := found
      exact ⟨code, read, contains_points.mpr inside⟩
  · intro n single
    have inside := contains_points.mp ((RangeSet.single?_eq_some_iff.mp single n).mpr rfl)
    obtain ⟨e, _, char⟩ := exists_of_mapM mapped inside
    cases e with
    | literal bytes => exact ⟨bytes, (language_of_charOfLiteral? char).mp rfl⟩
    | _ => simp [Expr.charOfLiteral?] at char

theorem language_bytesOfBranches {codes : List Nat}
    (mapped : es.mapM Expr.byteOfLiteral? = some codes) :
    (Expr.ofByteSet (Expr.points codes)).language = (es.map Expr.language).sum := by
  have members := mem_of_mapM (fun n : Nat => {[n.toUInt8]}) mapped
    fun e _ n byte => (language_of_byteOfLiteral? byte).2
  have small {n : Nat} (inside : n ∈ codes) : n < 256 := by
    obtain ⟨e, _, byte⟩ := exists_of_mapM mapped inside
    exact (language_of_byteOfLiteral? byte).1
  rw [language_ofByteSet]
  · ext w
    rw [members]
    constructor
    · intro found
      obtain ⟨b, rfl, inside⟩ := found
      refine ⟨b.toNat, contains_points.mp inside, ?_⟩
      rw [Nat.toUInt8, UInt8.ofNat_toNat]
      rfl
    · intro found
      obtain ⟨n, inside, rfl⟩ := found
      have value : n.toUInt8.toNat = n := Nat.mod_eq_of_lt (small inside)
      exact ⟨n.toUInt8, rfl, contains_points.mpr (value.symm ▸ inside)⟩
  · intro n single
    exact small (contains_points.mp ((RangeSet.single?_eq_some_iff.mp single n).mpr rfl))

theorem language_charSetsOfBranches (formed : AllFormed allowed es) {sets : List CharSet}
    (mapped : es.mapM Expr.asCharSet? = some sets) :
    (Expr.ofCharSet (Expr.unionAll sets)).language = (es.map Expr.language).sum := by
  have members := mem_of_mapM charWords mapped
    fun e member set as => (language_of_asCharSet? (formed e member) as).2
  have several : (Expr.unionAll sets).single? = none := by
    refine single?_unionAll fun set present => ?_
    obtain ⟨e, member, as⟩ := exists_of_mapM mapped present
    exact (language_of_asCharSet? (formed e member) as).1
  rw [language_ofCharSet (by simp [several])]
  ext w
  rw [members]
  constructor
  · intro found
    obtain ⟨code, read, inside⟩ := found
    obtain ⟨set, present, inside⟩ := contains_unionAll.mp inside
    exact ⟨set, present, code, read, inside⟩
  · intro found
    obtain ⟨set, present, code, read, inside⟩ := found
    exact ⟨code, read, contains_unionAll.mpr ⟨set, present, inside⟩⟩

theorem language_byteSetsOfBranches (formed : AllFormed allowed es) {sets : List RangeSet}
    (mapped : es.mapM Expr.asByteSet? = some sets) :
    (Expr.ofByteSet (Expr.unionAll sets)).language = (es.map Expr.language).sum := by
  have members := mem_of_mapM byteWords mapped
    fun e member set as => (language_of_asByteSet? (formed e member) as).2
  have several : (Expr.unionAll sets).single? = none := by
    refine single?_unionAll fun set present => ?_
    obtain ⟨e, member, as⟩ := exists_of_mapM mapped present
    exact (language_of_asByteSet? (formed e member) as).1
  rw [language_ofByteSet (by simp [several])]
  ext w
  rw [members]
  constructor
  · intro found
    obtain ⟨b, spelled, inside⟩ := found
    obtain ⟨set, present, inside⟩ := contains_unionAll.mp inside
    exact ⟨set, present, b, spelled, inside⟩
  · intro found
    obtain ⟨set, present, b, spelled, inside⟩ := found
    exact ⟨b, spelled, contains_unionAll.mpr ⟨set, present, inside⟩⟩

theorem language_classOfBranches? {e : Expr} (formed : AllFormed allowed es)
    (found : Expr.classOfBranches? es = some e) : e.language = (es.map Expr.language).sum := by
  rcases classOfBranches?_cases found with ⟨codes, mapped, rfl⟩ | ⟨codes, mapped, rfl⟩ |
    ⟨sets, mapped, rfl⟩ | ⟨sets, mapped, rfl⟩
  · exact language_charsOfBranches mapped
  · exact language_bytesOfBranches mapped
  · exact language_charSetsOfBranches formed mapped
  · exact language_byteSetsOfBranches formed mapped

end branches

/-! ## Alternations -/

theorem language_fail : Expr.fail.language = 0 := by
  ext w
  constructor
  · intro found
    obtain ⟨b, _, inside⟩ := found
    simp at inside
  · simp

theorem sum_language_branches (es : List Expr) :
    ((es.flatMap Expr.branches).map Expr.language).sum = (es.map Expr.language).sum :=
  sum_flatMap_branches (fun _ _ => rfl) es

theorem language_ofBranches (es : List Expr) :
    (Expr.ofBranches es).language = (es.map Expr.language).sum :=
  sum_ofBranches language_fail (fun _ _ => rfl) es

theorem language_choose {es : List Expr} (formed : AllFormed allowed es) :
    (Expr.choose es).language = (es.map Expr.language).sum := by
  have parts := allEach_flatMap (fun _ => each_branches) formed
  rw [← sum_language_branches, Expr.choose]
  split
  · rename_i e single
    simp [single]
  · cases found : Expr.classOfBranches? (es.flatMap Expr.branches) with
    | some e => exact language_classOfBranches? parts found
    | none => exact language_ofBranches _

/-- What branches have in common at the front stands in front of them all. -/
theorem language_shared {shared : List Expr} {es : List Expr} (formed : AllFormed allowed es)
    (starts : ∀ e ∈ es, shared <+: e.factors) :
    (Expr.concat (shared ++ [Expr.choose (es.map fun e =>
      Expr.concat (e.factors.drop shared.length))])).language = (es.map Expr.language).sum := by
  have rest : AllFormed allowed (es.map fun e => Expr.concat (e.factors.drop shared.length)) := by
    intro e member
    obtain ⟨e, inside, rfl⟩ := List.mem_map.mp member
    exact each_concat closed_wellMade ((each_factors (formed e inside)).subset (List.drop_subset _ _))
  rw [language_concat, List.map_append, List.prod_append, List.map_singleton,
    List.prod_singleton, language_choose rest, List.map_map, ← List.sum_map_mul_left]
  congr 1
  apply List.map_congr_left
  intro e member
  have split : shared ++ e.factors.drop shared.length = e.factors := by
    obtain ⟨more, same⟩ := starts e member
    rw [← same, List.drop_left]
  rw [Function.comp_apply, language_concat, ← List.prod_append, ← List.map_append, split,
    language_factors]

theorem language_alternation {es : List Expr} (formed : AllFormed allowed es) :
    (Expr.alternation es).language = (es.map Expr.language).sum := by
  have parts := allEach_flatMap (fun _ => each_branches) formed
  rw [← sum_language_branches, Expr.alternation]
  generalize es.flatMap Expr.branches = branches at parts
  match branches with
  | [] => exact language_fail
  | [e] => simp
  | e :: f :: rest =>
    simp only
    split
    · rename_i found
      exact language_classOfBranches? parts found
    · split
      · exact language_ofBranches _
      · exact language_shared parts fun e member => sharedFactors_prefix member

/-! ## Repetitions -/

theorem repeatWords_mono {small large : Language UInt8} (le : small ≤ large) (least : Nat)
    (most : Option Nat) : repeatWords small least most ≤ repeatWords large least most := by
  have rounds : small ^ least ≤ large ^ least := pow_le_pow_left' le least
  cases most with
  | none => exact mul_le_mul' rounds (kstar_mono le)
  | some most => exact mul_le_mul' rounds (pow_le_pow_left' (add_le_add_right le 1) _)

/-- Only the empty word, or no word at all, is repeated to itself. -/
theorem eq_zero_or_one {words : Language UInt8} (short : ShortAs 0 words) :
    words = 0 ∨ words = 1 := by
  have empty {w : List UInt8} (member : w ∈ words) : w = [] :=
    List.length_eq_zero_iff.mp (Nat.le_zero.mp (short w member))
  by_cases holds : [] ∈ words
  · refine .inr (Language.ext fun w => ⟨fun member => ?_, fun one => ?_⟩)
    · exact (Language.mem_one w).mpr (empty member)
    · exact (Language.mem_one w).mp one ▸ holds
  · refine .inl (Language.ext fun w => ⟨fun member => ?_, fun none => none.elim⟩)
    exact (holds (empty member ▸ member)).elim

theorem repeatWords_of_short {words : Language UInt8} (short : ShortAs 0 words) {least : Nat}
    {most : Option Nat} (ordered : ∀ m ∈ most, least ≤ m) :
    repeatWords words (min least 1) (some ((most.map (min · 1)).getD 1)) =
      repeatWords words least most := by
  rcases eq_zero_or_one short with rfl | rfl
  · cases least with
    | zero => cases most <;> simp [repeatWords]
    | succ least => cases most <;> simp [repeatWords]
  · have one_kstar : (1 : Language UInt8)∗ = 1 := by simp
    cases most <;> simp [repeatWords, one_kstar]

theorem language_repeated {least : Nat} {most : Option Nat} {body : Expr} (greedy : Bool)
    (ordered : ∀ m ∈ most, least ≤ m) (formed : body.Formed allowed) :
    (Expr.repeated least most greedy body).language = repeatWords body.language least most := by
  have plain (least : Nat) (most : Option Nat) :
      (if least = 0 ∧ most = some 0 then Expr.empty
        else if least = 1 ∧ most = some 1 then body
        else .repetition least most greedy body).language = repeatWords body.language least most := by
    split
    · rename_i never
      obtain ⟨rfl, rfl⟩ := never
      simp [Expr.language, repeatWords]
    · split
      · rename_i once
        obtain ⟨rfl, rfl⟩ := once
        simp [repeatWords]
      · rfl
  unfold Expr.repeated
  by_cases short : body.longest? = some 0
  · simp only [short, if_true]
    rw [plain, repeatWords_of_short (shortAs_longest? formed short) ordered]
  · simp only [short, if_false]
    exact plain least most

/-! ## Respelling -/

/-- The words of a repetition of repetitions, the innermost first. -/
def repeatAll (words : Language UInt8) (rs : List Repeat) : Language UInt8 :=
  rs.foldl (fun words r => repeatWords words r.least r.most) words

theorem language_foldl_apply {rs : List Repeat} {e : Expr} (formed : e.Formed allowed)
    (ordered : ∀ r ∈ rs, r.Ordered) :
    (rs.foldl Repeat.apply e).language = repeatAll e.language rs := by
  induction rs generalizing e with
  | nil => rfl
  | cons r rs ih =>
    obtain ⟨first, others⟩ := List.forall_mem_cons.mp ordered
    rw [List.foldl_cons, ih (formed_apply formed first) others, Repeat.apply,
      language_repeated r.greedy first formed]
    rfl

theorem ofSigns_lazy (sign : RepeatSign) (rest : List RepeatSign) :
    Repeat.ofSigns (sign :: .question :: rest) =
      ⟨sign.counts.1, sign.counts.2, false⟩ :: Repeat.ofSigns rest := by
  cases sign <;> rfl

theorem ofSigns_greedy (sign : RepeatSign) {rest : List RepeatSign}
    (plain : rest.head? ≠ some .question) :
    Repeat.ofSigns (sign :: rest) =
      ⟨sign.counts.1, sign.counts.2, true⟩ :: Repeat.ofSigns rest := by
  cases sign <;> cases rest with
  | nil => rfl
  | cons next rest => cases next <;> simp_all [Repeat.ofSigns, RepeatSign.counts]

def RepeatSign.repeat (sign : RepeatSign) (words : Language UInt8) : Language UInt8 :=
  repeatWords words sign.counts.1 sign.counts.2

theorem le_question (words : Language UInt8) : words ≤ RepeatSign.question.repeat words := by
  simp [RepeatSign.repeat, RepeatSign.counts, repeatWords]

/-- A row of signs spells at most the words of the repetitions it was written for. A sign in front of
the row may take the first of its signs as its lazy mark, which costs the empty word. -/
theorem repeatAll_ofSigns (rs : List Repeat) :
    (∀ small large, small ≤ large →
      repeatAll small (Repeat.ofSigns (rs.flatMap Repeat.signs)) ≤ repeatAll large rs) ∧
    ∀ (sign : RepeatSign) (small large), small ≤ large →
      repeatAll small (Repeat.ofSigns (sign :: rs.flatMap Repeat.signs)) ≤
        repeatAll (sign.repeat large) rs := by
  induction rs with
  | nil =>
    refine ⟨fun small large le => le, fun sign small large le => ?_⟩
    rw [List.flatMap_nil, ofSigns_greedy sign (by simp)]
    exact repeatWords_mono le _ _
  | cons r rs ih =>
    obtain ⟨row, behind⟩ := ih
    obtain ⟨first, counts, spelled⟩ := signs_cases r
    have words (large : Language UInt8) :
        repeatAll large (r :: rs) = repeatAll (first.repeat large) rs := by
      rw [RepeatSign.repeat, counts]
      rfl
    have whole : ∀ small large, small ≤ large →
        repeatAll small (Repeat.ofSigns ((r :: rs).flatMap Repeat.signs)) ≤
          repeatAll large (r :: rs) := by
      intro small large le
      rw [List.flatMap_cons, words]
      rcases spelled with spelled | spelled
      · rw [spelled]
        exact behind first small large le
      · rw [spelled, List.cons_append, List.cons_append, List.nil_append, ofSigns_lazy]
        exact row _ _ (repeatWords_mono le _ _)
    refine ⟨whole, fun sign small large le => ?_⟩
    have round : sign.repeat small ≤ sign.repeat large := repeatWords_mono le _ _
    cases first with
    | question =>
      rw [List.flatMap_cons, words]
      rcases spelled with spelled | spelled
      · rw [spelled, List.cons_append, List.nil_append, ofSigns_lazy]
        exact row _ _ (round.trans (le_question _))
      · rw [spelled, List.cons_append, List.cons_append, List.nil_append, ofSigns_lazy]
        exact behind .question _ _ round
    | count least most =>
      have plain : ((r :: rs).flatMap Repeat.signs).head? ≠ some .question := by
        rcases spelled with spelled | spelled <;> simp [List.flatMap_cons, spelled]
      rw [ofSigns_greedy sign plain]
      exact whole _ _ round

theorem language_close {signs : List RepeatSign} {branches : List Expr}
    (ordered : ∀ sign ∈ signs, sign.Ordered) (formed : AllFormed allowed branches) :
    (Expr.alternation (Expr.respelledBranches.close signs branches)).language =
      repeatAll (branches.map Expr.language).sum (Repeat.ofSigns signs) := by
  unfold Expr.respelledBranches.close
  split
  · rename_i none
    rw [List.isEmpty_iff.mp none, language_alternation formed]
    rfl
  · have inner := each_alternation closed_wellMade formed
    have reps := ordered_ofSigns ordered
    rw [language_alternation (allEach_single.mpr (formed_foldl_apply inner reps)),
      List.map_singleton, List.sum_singleton, language_foldl_apply inner reps,
      language_alternation formed]

theorem ordered_row {rs : List Repeat} (ordered : ∀ r ∈ rs, r.Ordered) :
    ∀ sign ∈ rs.flatMap Repeat.signs, sign.Ordered := by
  intro sign member
  obtain ⟨r, inside, member⟩ := List.mem_flatMap.mp member
  exact ordered_signs (ordered r inside) sign member

theorem language_close_le {rs : List Repeat} {branches : List Expr} {words : Language UInt8}
    (ordered : ∀ r ∈ rs, r.Ordered) (formed : AllFormed allowed branches)
    (inside : (branches.map Expr.language).sum ≤ words) :
    (Expr.alternation (Expr.respelledBranches.close (rs.flatMap Repeat.signs) branches)).language ≤
      repeatAll words rs := by
  rw [language_close (ordered_row ordered) formed]
  exact (repeatAll_ofSigns rs).1 _ _ inside

/-- What is read back under the signs of repetitions around it spells their words at most. -/
theorem language_respelledBranches {e : Expr} (formed : e.Formed allowed) {rs : List Repeat}
    (ordered : ∀ r ∈ rs, r.Ordered) :
    (Expr.alternation (e.respelledBranches (rs.flatMap Repeat.signs))).language ≤
      repeatAll e.language rs := by
  have bare : ∀ r ∈ ([] : List Repeat), r.Ordered := by simp
  have parts {e : Expr} (formed : e.Formed allowed) : AllFormed allowed (e.respelledBranches []) :=
    formed_respelledBranches formed (by simp)
  induction e generalizing rs with
  | repetition least most greedy body ih =>
    have wider : ∀ r ∈ (⟨least, most, greedy⟩ :: rs : List Repeat), r.Ordered :=
      List.forall_mem_cons.mpr ⟨formed.1, ordered⟩
    exact ih formed.2 wider
  | group index body ih =>
    have inner : (Expr.alternation (body.respelledBranches [])).Formed allowed :=
      each_alternation closed_wellMade (parts formed)
    refine language_close_le ordered (allEach_single.mpr inner) ?_
    rw [List.map_singleton, List.sum_singleton]
    exact ih formed bare
  | seq a b iha ihb =>
    have inner : AllFormed allowed [Expr.alternation (a.respelledBranches []),
        Expr.alternation (b.respelledBranches [])] :=
      allEach_cons.mpr ⟨each_alternation closed_wellMade (parts formed.1),
        allEach_single.mpr (each_alternation closed_wellMade (parts formed.2))⟩
    refine language_close_le ordered (allEach_single.mpr (each_concat closed_wellMade inner)) ?_
    rw [List.map_singleton, List.sum_singleton, language_concat, List.map_cons, List.map_singleton,
      List.prod_cons, List.prod_singleton]
    exact mul_le_mul' (iha formed.1 bare) (ihb formed.2 bare)
  | alt a b iha ihb =>
    refine language_close_le ordered (allEach_append.mpr ⟨parts formed.1, parts formed.2⟩) ?_
    rw [List.map_append, List.sum_append, ← language_alternation (parts formed.1),
      ← language_alternation (parts formed.2)]
    exact add_le_add (iha formed.1 bare) (ihb formed.2 bare)
  | _ => exact language_close_le ordered (allEach_single.mpr formed) (by simp)

theorem language_respelled {e : Expr} (formed : e.Formed allowed) :
    e.respelled.language ≤ e.language := by
  have bare : ∀ r ∈ ([] : List Repeat), r.Ordered := by simp
  exact language_respelledBranches formed bare

theorem language_inAscii? {e ascii : Expr} (read : e.inAscii? = some ascii) :
    ascii.language = e.language := by
  induction e generalizing ascii with
  | empty | literal bytes | byteClass set =>
    obtain rfl := Option.some.inj read
    rfl
  | charClass set =>
    rw [Expr.inAscii?] at read
    split at read
    · rename_i small
      obtain rfl := Option.some.inj read
      exact (charWords_of_ascii small).symm
    · simp at read
  | look l => cases l <;> (obtain rfl := Option.some.inj read; rfl)
  | repetition least most greedy body ih | group index body ih =>
    obtain ⟨inner, within, rfl⟩ := Option.map_eq_some_iff.mp read
    rw [Expr.language, Expr.language, ih within]
  | seq a b iha ihb | alt a b iha ihb =>
    obtain ⟨first, here, read⟩ := Option.bind_eq_some_iff.mp read
    obtain ⟨second, there, read⟩ := Option.bind_eq_some_iff.mp read
    obtain rfl := Option.some.inj read
    rw [Expr.language, Expr.language, iha here, ihb there]

end Triage.Regex
