import Triage.Proofs.Regex.NormalForm
import Triage.Text.Utf16

/-! The texts that an expression spells, where it stays with text: its literals encode texts and its
classes of bytes are ASCII. Its words are the encodings of these texts. -/

namespace Triage.Regex
open scoped Computability

/-- The bytes of each character. -/
abbrev Coding := Char → List UInt8

def utf8 : Coding := String.utf8EncodeChar

def utf16 (order : Utf16.Order) : Coding := fun c => (Utf16.units c).flatMap (Utf16.unitBytes order)

theorem encode_utf8 (text : List Char) : Utf8.encode text = text.flatMap utf8 := rfl

theorem encode_utf16 (order : Utf16.Order) (text : List Char) :
    Utf16.encode order text = text.flatMap (utf16 order) := rfl

/-- What texts are in a coding. -/
def codedBy (code : Coding) (texts : Language Char) : Language UInt8 :=
  {w | ∃ text ∈ texts, w = text.flatMap code}

section coded
variable {code : Coding} {first second texts : Language Char}

theorem codedBy_one : codedBy code 1 = 1 := by
  ext w
  constructor
  · intro found
    obtain ⟨text, rfl, rfl⟩ := found
    rfl
  · intro empty
    exact ⟨[], Language.nil_mem_one, empty⟩

theorem codedBy_add : codedBy code (first + second) = codedBy code first + codedBy code second := by
  ext w
  constructor
  · intro found
    obtain ⟨text, member, rfl⟩ := found
    exact member.imp (fun member => ⟨text, member, rfl⟩) fun member => ⟨text, member, rfl⟩
  · intro found
    rcases found with ⟨text, member, rfl⟩ | ⟨text, member, rfl⟩
    · exact ⟨text, .inl member, rfl⟩
    · exact ⟨text, .inr member, rfl⟩

theorem codedBy_mul : codedBy code (first * second) = codedBy code first * codedBy code second := by
  ext w
  constructor
  · intro found
    obtain ⟨_, ⟨x, inFirst, y, inSecond, rfl⟩, rfl⟩ := found
    exact ⟨_, ⟨x, inFirst, rfl⟩, _, ⟨y, inSecond, rfl⟩, List.flatMap_append.symm⟩
  · intro found
    obtain ⟨_, ⟨x, inFirst, rfl⟩, _, ⟨y, inSecond, rfl⟩, rfl⟩ := found
    exact ⟨x ++ y, Language.append_mem_mul inFirst inSecond, List.flatMap_append.symm⟩

theorem codedBy_pow (n : Nat) : codedBy code (texts ^ n) = codedBy code texts ^ n := by
  induction n with
  | zero => exact codedBy_one
  | succ n ih => rw [pow_succ, pow_succ, codedBy_mul, ih]

theorem codedBy_kstar : codedBy code texts∗ = (codedBy code texts)∗ := by
  ext w
  rw [Language.kstar_eq_iSup_pow, Language.kstar_eq_iSup_pow, Language.mem_iSup]
  constructor
  · intro found
    obtain ⟨text, member, rfl⟩ := found
    obtain ⟨n, member⟩ := Language.mem_iSup.mp member
    exact ⟨n, codedBy_pow n ▸ ⟨text, member, rfl⟩⟩
  · intro found
    obtain ⟨n, member⟩ := found
    rw [← codedBy_pow] at member
    obtain ⟨text, member, rfl⟩ := member
    exact ⟨text, Language.mem_iSup.mpr ⟨n, member⟩, rfl⟩

theorem codedBy_repeatWords (least : Nat) (most : Option Nat) :
    codedBy code (repeatWords texts least most) = repeatWords (codedBy code texts) least most := by
  cases most with
  | none => rw [repeatWords, repeatWords, codedBy_mul, codedBy_pow, codedBy_kstar]
  | some most =>
    rw [repeatWords, repeatWords, codedBy_mul, codedBy_pow, codedBy_pow, codedBy_add, codedBy_one]

/-- No character is left out of a coding. -/
theorem nil_mem_codedBy (written : ∀ c, code c ≠ []) : [] ∈ codedBy code texts ↔ [] ∈ texts := by
  constructor
  · intro found
    obtain ⟨text, member, split⟩ := found
    cases text with
    | nil => exact member
    | cons c text => exact absurd (List.append_eq_nil_iff.mp split.symm).1 (written c)
  · exact fun member => ⟨[], member, rfl⟩

end coded

/-! ## Texts -/

/-- The members of a class among the characters that count. -/
def charTexts (counts : Char → Prop) (set : CharSet) : Language Char :=
  {text | ∃ c, text = [c] ∧ counts c ∧ set.contains c.toNat}

/-- The texts of an expression whose classes have only characters that count. -/
def Expr.texts (counts : Char → Prop) : Expr → Language Char
  | .empty => 1
  | .literal bytes => {text | Utf8.encode text = bytes}
  | .byteClass set | .charClass set => charTexts counts set
  | .look _ => 1
  | .repetition least most _ body => repeatWords (body.texts counts) least most
  | .group _ body => body.texts counts
  | .seq a b => a.texts counts * b.texts counts
  | .alt a b => a.texts counts + b.texts counts

/-- Literals encode texts and classes of bytes are ASCII. -/
def Expr.IsText : Expr → Prop
  | .literal bytes => ∃ text, bytes = Utf8.encode text
  | .byteClass set => Expr.isAsciiSet set
  | _ => True

abbrev Expr.Textual (e : Expr) : Prop := e.Each Expr.IsText

theorem charWords_eq_codedBy (set : CharSet) : charWords set = codedBy utf8 (charTexts (fun _ => True) set) := by
  ext w
  constructor
  · intro found
    obtain ⟨code, read, member⟩ := found
    obtain ⟨head, form, rfl⟩ := Utf8.form_of_first? read
    have valid : (Char.ofNat code).toNat = code := Utf8.toNat_ofNat_of_valid form.isValidChar
    refine ⟨[Char.ofNat code], ⟨_, rfl, trivial, valid.symm ▸ member⟩, ?_⟩
    rw [List.flatMap_singleton, List.append_nil]
    exact form.eq_encode
  · intro found
    obtain ⟨_, ⟨c, rfl, _, member⟩, rfl⟩ := found
    have read := Utf8.first?_encode c []
    rw [List.append_nil] at read
    refine ⟨c.toNat, ?_, member⟩
    rw [List.flatMap_singleton]
    exact read

/-- The words of an expression are its texts in UTF-8. -/
theorem language_eq_codedBy {e : Expr} (textual : e.Textual) :
    e.language = codedBy utf8 (e.texts fun _ => True) := by
  induction e with
  | empty | look l => exact codedBy_one.symm
  | literal bytes =>
    obtain ⟨text, rfl⟩ := textual
    ext w
    constructor
    · intro same
      subst same
      exact ⟨text, rfl, rfl⟩
    · intro found
      obtain ⟨other, same, rfl⟩ := found
      exact same
  | byteClass set => exact (charWords_of_ascii textual).symm.trans (charWords_eq_codedBy set)
  | charClass set => exact charWords_eq_codedBy set
  | repetition least most greedy body ih =>
    rw [Expr.language, Expr.texts, codedBy_repeatWords, ih textual.2]
  | group index body ih => exact ih textual
  | seq a b iha ihb => rw [Expr.language, Expr.texts, codedBy_mul, iha textual.1, ihb textual.2]
  | alt a b iha ihb => rw [Expr.language, Expr.texts, codedBy_add, iha textual.1, ihb textual.2]

/-! ## Leaving characters out -/

/-- The same texts among those made of characters that count. -/
def AgreeOn (counts : Char → Prop) (first second : Language Char) : Prop :=
  ∀ text, (∀ c ∈ text, counts c) → (text ∈ first ↔ text ∈ second)

section agree
variable {counts : Char → Prop} {first second third fourth : Language Char}

theorem AgreeOn.add (left : AgreeOn counts first second) (right : AgreeOn counts third fourth) :
    AgreeOn counts (first + third) (second + fourth) :=
  fun text count => or_congr (left text count) (right text count)

theorem AgreeOn.mul (left : AgreeOn counts first second) (right : AgreeOn counts third fourth) :
    AgreeOn counts (first * third) (second * fourth) := by
  intro text count
  have parts (x y : List Char) (split : x ++ y = text) : (x ∈ first ↔ x ∈ second) ∧ (y ∈ third ↔ y ∈ fourth) := by
    subst split
    exact ⟨left x fun c member => count c (List.mem_append_left _ member),
      right y fun c member => count c (List.mem_append_right _ member)⟩
  constructor
  · intro found
    obtain ⟨x, here, y, there, split⟩ := found
    exact ⟨x, (parts x y split).1.mp here, y, (parts x y split).2.mp there, split⟩
  · intro found
    obtain ⟨x, here, y, there, split⟩ := found
    exact ⟨x, (parts x y split).1.mpr here, y, (parts x y split).2.mpr there, split⟩

theorem AgreeOn.pow (agree : AgreeOn counts first second) (n : Nat) :
    AgreeOn counts (first ^ n) (second ^ n) := by
  induction n with
  | zero => exact fun text _ => Iff.rfl
  | succ n ih =>
    rw [pow_succ, pow_succ]
    exact ih.mul agree

theorem AgreeOn.kstar (agree : AgreeOn counts first second) : AgreeOn counts first∗ second∗ := by
  intro text count
  rw [Language.kstar_eq_iSup_pow, Language.kstar_eq_iSup_pow, Language.mem_iSup, Language.mem_iSup]
  exact exists_congr fun n => agree.pow n text count

theorem AgreeOn.repeatWords (agree : AgreeOn counts first second) (least : Nat) (most : Option Nat) :
    AgreeOn counts (repeatWords first least most) (repeatWords second least most) := by
  have one : AgreeOn counts 1 1 := fun text _ => Iff.rfl
  cases most with
  | none => exact (agree.pow least).mul agree.kstar
  | some most => exact (agree.pow least).mul ((one.add agree).pow _)

end agree

/-- On texts of characters that count the others make no difference. -/
theorem agreeOn_texts (counts : Char → Prop) (e : Expr) :
    AgreeOn counts (e.texts counts) (e.texts fun _ => True) := by
  have classes (set : CharSet) : AgreeOn counts (charTexts counts set) (charTexts (fun _ => True) set) := by
    intro text count
    constructor
    · intro found
      obtain ⟨c, rfl, _, member⟩ := found
      exact ⟨c, rfl, trivial, member⟩
    · intro found
      obtain ⟨c, rfl, _, member⟩ := found
      exact ⟨c, rfl, count c List.mem_cons_self, member⟩
  induction e with
  | empty | look l | literal bytes => exact fun text _ => Iff.rfl
  | byteClass set | charClass set => exact classes set
  | repetition least most greedy body ih => exact ih.repeatWords least most
  | group index body ih => exact ih
  | seq a b iha ihb => exact iha.mul ihb
  | alt a b iha ihb => exact iha.add ihb

/-! ## Reading in Unicode mode -/

theorem isText_ofChar (c : Char) : (Expr.ofChar c).Each Expr.IsText :=
  ⟨[c], by simp [Utf8.encode]⟩

theorem isText_ofCharSet (set : CharSet) : (Expr.ofCharSet set).Each Expr.IsText := by
  unfold Expr.ofCharSet
  split
  · exact isAsciiSet_iff.mpr (by simp)
  · split
    · exact isText_ofChar _
    · trivial

theorem isText_ofByteSet {set : RangeSet} (small : ∀ n, set.contains n → n < 128) :
    (Expr.ofByteSet set).Each Expr.IsText := by
  unfold Expr.ofByteSet
  split
  · rename_i n single
    have bound := small n ((RangeSet.single?_eq_some_iff.mp single n).mpr rfl)
    refine ⟨[Char.ofNat n], ?_⟩
    have value : n.toUInt8.toNat = n := Nat.mod_eq_of_lt (by omega)
    have form := (Utf8.Form.one n.toUInt8 (by omega)).eq_encode
    rw [value] at form
    rw [form, Utf8.encode, List.flatMap_singleton]
  · exact isAsciiSet_iff.mpr small

/-- A single byte is a text only if it is ASCII. -/
theorem lt_of_encode_eq {b : UInt8} {text : List Char} (same : [b] = Utf8.encode text) : b.toNat < 128 := by
  cases text with
  | nil => nomatch same
  | cons c text =>
    have form := Utf8.form_encode c
    rw [Utf8.encode, List.flatMap_cons] at same
    generalize String.utf8EncodeChar c = bytes, c.toNat = code at form same
    cases form with
    | one a ascii =>
      rw [(List.cons.inj same).1]
      exact ascii
    | _ => simp at same

theorem closed_isText : Closed Expr.IsText where
  empty := trivial
  fail := isAsciiSet_iff.mpr (by simp)
  blank := ⟨[], rfl⟩
  join left right := by
    obtain ⟨x, rfl⟩ := left
    obtain ⟨y, rfl⟩ := right
    exact ⟨x ++ y, List.flatMap_append.symm⟩
  merge {es e} all found := by
    rcases classOfBranches?_cases found with ⟨_, _, rfl⟩ | ⟨codes, mapped, rfl⟩ | ⟨_, _, rfl⟩ | ⟨sets, mapped, rfl⟩
    · exact isText_ofCharSet _
    · refine isText_ofByteSet fun n member => ?_
      obtain ⟨e, inside, byte⟩ := exists_of_mapM mapped (contains_points.mp member)
      unfold Expr.byteOfLiteral? at byte
      split at byte
      · obtain ⟨text, same⟩ := all _ inside
        exact Option.some.inj byte ▸ lt_of_encode_eq same
      · cases byte
    · exact isText_ofCharSet _
    · refine isText_ofByteSet fun n member => ?_
      obtain ⟨set, present, inside⟩ := contains_unionAll.mp member
      obtain ⟨e, here, part⟩ := exists_of_mapM mapped present
      cases e with
      | byteClass own =>
        obtain rfl := Option.some.inj part
        exact isAsciiSet_iff.mp (all _ here) n inside
      | charClass own =>
        simp only [Expr.asByteSet?, Option.ite_none_right_eq_some, Option.some.injEq] at part
        obtain ⟨ascii, rfl⟩ := part
        exact isAsciiSet_iff.mp ascii n inside
      | _ => cases part
  once _ := trivial

/-- A change of flags that leaves Unicode mode on, or does not touch it. -/
def FlagChange.KeepsUnicode (change : FlagChange) : Prop := change.value? .unicode ≠ some false

instance (change : FlagChange) : Decidable change.KeepsUnicode :=
  inferInstanceAs (Decidable (change.value? .unicode ≠ some false))

theorem isText_reads : ReadsAs Expr.IsText fun flags => flags.unicode = true where
  closed := closed_isText
  literal {flags} l unicode := by
    have char : l.byte? flags = none := by simp [Literal.byte?, unicode]
    unfold Flags.literal
    rw [char]
    simp only [unicode, if_true]
    split
    · exact isText_ofChar _
    · split
      · exact isText_ofCharSet _
      · exact isText_ofChar _
  ofClass set unicode := by
    rw [Flags.ofClass, if_pos unicode]
    exact isText_ofCharSet set
  look _ := trivial
  counts _ _ _ := trivial

/-- What is read in Unicode mode throughout is text. -/
theorem textual_elaborate? {flags after : Flags} {s : Syntax} {e : Expr} (unicode : flags.unicode = true)
    (keeps : ∀ change ∈ s.changes, change.KeepsUnicode) (read : s.elaborate? flags = some (e, after)) : e.Textual := by
  refine (each_elaborate? isText_reads unicode (fun change member flags unicode => ?_) read).1
  have kept := keeps change member
  rw [FlagChange.KeepsUnicode] at kept
  cases value : change.value? .unicode with
  | none => simpa [Flags.update, value] using unicode
  | some on => cases on <;> simp_all [Flags.update]

end Triage.Regex
