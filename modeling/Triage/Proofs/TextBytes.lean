import Mathlib.Data.List.Lex
import Mathlib.Data.String.Basic

/-! Texts as bytes. A text is known from its bytes, and texts are in the order of their bytes. -/

namespace Triage

theorem toList_toUTF8 (text : String) : text.toUTF8.toList = text.toList.flatMap String.utf8EncodeChar := by
  have loop (b : ByteArray) (i : Nat) (read : List UInt8) :
      ByteArray.toList.loop b i read = read.reverse ++ b.data.toList.drop i := by
    fun_induction ByteArray.toList.loop b i read with
    | case1 i read more ih =>
      rw [ih, List.drop_eq_getElem_cons (l := b.data.toList) more]
      simp [ByteArray.get!, more]
    | case2 i read done => rw [List.drop_eq_nil_of_le (Nat.le_of_not_lt done), List.append_nil]
  conv => lhs; rw [← String.ofList_toList (s := text)]
  rw [ByteArray.toList, loop, String.toUTF8, String.toByteArray_ofList, List.utf8Encode,
    List.data_toByteArray]
  rfl

theorem toUTF8_inj {text text' : String} (same : text.toUTF8.toList = text'.toUTF8.toList) :
    text = text' := by
  rw [toList_toUTF8, toList_toUTF8] at same
  have arrays := congrArg List.toByteArray same
  rw [← List.utf8Encode, ← List.utf8Encode, ← String.toByteArray_ofList, ← String.toByteArray_ofList,
    String.toByteArray_inj, String.ofList_toList, String.ofList_toList] at arrays
  exact arrays

/-! ## ASCII -/

/-- All bytes of a character that takes more than one have the upper bit. -/
theorem le_of_mem_utf8EncodeChar {c : Char} (long : ¬c.val.toNat ≤ 127) :
    ∀ x ∈ String.utf8EncodeChar c, 128 ≤ x.toNat := by
  unfold String.utf8EncodeChar
  dsimp only
  rw [if_neg long]
  split <;> try split
  all_goals
    simp only [List.forall_mem_cons, UInt8.toNat_ofNat', List.not_mem_nil, false_implies, implies_true,
      and_true]
    omega

theorem eq_of_mem_utf8EncodeChar {c d : Char} (ascii : d.toNat ≤ 127)
    (member : d.toNat.toUInt8 ∈ String.utf8EncodeChar c) : c = d := by
  have value : d.toNat.toUInt8.toNat = d.toNat := by
    rw [Nat.toUInt8_eq, UInt8.toNat_ofNat']
    omega
  by_cases short : c.val.toNat ≤ 127
  · unfold String.utf8EncodeChar at member
    dsimp only at member
    rw [if_pos short] at member
    have same := congrArg UInt8.toNat (List.mem_singleton.mp member)
    rw [value, UInt8.toNat_ofNat'] at same
    refine Char.ext (UInt32.toNat_inj.mp ?_)
    change d.val.toNat = _ at same
    omega
  · have high := le_of_mem_utf8EncodeChar short _ member
    omega

/-- The byte of an ASCII character stands in a text's bytes only where the character stands in the text. -/
theorem not_mem_flatMap_utf8EncodeChar {d : Char} (ascii : d.toNat ≤ 127) {text : List Char} (free : d ∉ text) :
    d.toNat.toUInt8 ∉ text.flatMap String.utf8EncodeChar := by
  intro member
  obtain ⟨c, inText, inCode⟩ := List.mem_flatMap.mp member
  exact free (eq_of_mem_utf8EncodeChar ascii inCode ▸ inText)

/-! ## Order -/

section order
variable {m n : Nat} {xs ys : List UInt8}

theorem bytes_lt (bound : n < 256) (less : m < n ∨ m = n ∧ xs < ys) :
    UInt8.ofNat m :: xs < UInt8.ofNat n :: ys := by
  rcases less with less | ⟨rfl, less⟩
  · refine List.cons_lt_cons_iff.mpr (.inl ?_)
    rw [UInt8.lt_iff_toNat_lt, UInt8.toNat_ofNat', UInt8.toNat_ofNat']
    omega
  · exact List.cons_lt_cons_iff.mpr (.inr ⟨rfl, less⟩)

theorem lastByte_lt (same : m / 64 = n / 64) (less : m < n) :
    UInt8.ofNat (m % 64 + 128) :: xs < UInt8.ofNat (n % 64 + 128) :: ys := by
  apply bytes_lt <;> omega

theorem lastTwo_lt (same : m / 4096 = n / 4096) (less : m < n) :
    UInt8.ofNat (m / 64 % 64 + 128) :: UInt8.ofNat (m % 64 + 128) :: xs <
      UInt8.ofNat (n / 64 % 64 + 128) :: UInt8.ofNat (n % 64 + 128) :: ys := by
  apply bytes_lt (by omega)
  by_cases next : m / 64 = n / 64
  · exact .inr ⟨by omega, lastByte_lt next less⟩
  · exact .inl (by omega)

theorem lastThree_lt (same : m / 262144 = n / 262144) (less : m < n) :
    UInt8.ofNat (m / 4096 % 64 + 128) :: UInt8.ofNat (m / 64 % 64 + 128) :: UInt8.ofNat (m % 64 + 128) :: xs <
      UInt8.ofNat (n / 4096 % 64 + 128) :: UInt8.ofNat (n / 64 % 64 + 128) :: UInt8.ofNat (n % 64 + 128) :: ys := by
  apply bytes_lt (by omega)
  by_cases next : m / 4096 = n / 4096
  · exact .inr ⟨by omega, lastTwo_lt next less⟩
  · exact .inl (by omega)

end order

/-- The first bytes of characters that take different numbers of bytes are already in order. -/
theorem utf8EncodeChar_lt {c d : Char} (less : c < d) (xs ys : List UInt8) :
    String.utf8EncodeChar c ++ xs < String.utf8EncodeChar d ++ ys := by
  have order : c.val.toNat < d.val.toNat := less
  have bound : d.val.toNat < 0x110000 := by
    rcases d.valid with low | ⟨_, high⟩ <;> omega
  unfold String.utf8EncodeChar
  generalize c.val.toNat = m at *
  generalize d.val.toNat = n at *
  dsimp only
  by_cases one : m ≤ 127
  · rw [if_pos one]
    split
    · apply bytes_lt <;> omega
    · split
      · apply bytes_lt <;> omega
      · split <;> apply bytes_lt <;> omega
  rw [if_neg one, if_neg (show ¬n ≤ 127 by omega)]
  by_cases two : m ≤ 2047
  · rw [if_pos two]
    split
    · apply bytes_lt (by omega)
      by_cases next : m / 64 = n / 64
      · exact .inr ⟨by omega, lastByte_lt next order⟩
      · exact .inl (by omega)
    · split <;> apply bytes_lt <;> omega
  rw [if_neg two, if_neg (show ¬n ≤ 2047 by omega)]
  by_cases three : m ≤ 65535
  · rw [if_pos three]
    split
    · apply bytes_lt (by omega)
      by_cases next : m / 4096 = n / 4096
      · exact .inr ⟨by omega, lastTwo_lt next order⟩
      · exact .inl (by omega)
    · apply bytes_lt <;> omega
  rw [if_neg three, if_neg (show ¬n ≤ 65535 by omega)]
  apply bytes_lt (by omega)
  by_cases next : m / 262144 = n / 262144
  · exact .inr ⟨by omega, lastThree_lt next order⟩
  · exact .inl (by omega)

theorem utf8Bytes_lt {cs ds : List Char} (less : cs < ds) :
    cs.flatMap String.utf8EncodeChar < ds.flatMap String.utf8EncodeChar := by
  induction less with
  | nil =>
    rename_i d ds
    obtain ⟨b, bs, some⟩ := List.exists_cons_of_ne_nil (String.utf8EncodeChar_ne_nil (c := d))
    rw [List.flatMap_cons, some]
    exact List.nil_lt_cons _ _
  | cons less ih =>
    rw [List.flatMap_cons, List.flatMap_cons]
    exact List.append_left_lt ih
  | rel less =>
    rw [List.flatMap_cons, List.flatMap_cons]
    exact utf8EncodeChar_lt less _ _

/-- Which of two texts comes first when their bytes are compared. -/
def compareBytes (text text' : String) : Ordering :=
  compareOfLessAndEq text.toUTF8.toList text'.toUTF8.toList

theorem toUTF8_lt_iff {text text' : String} :
    text.toUTF8.toList < text'.toUTF8.toList ↔ text < text' := by
  have forth {s t : String} (less : s < t) : s.toUTF8.toList < t.toUTF8.toList := by
    rw [toList_toUTF8, toList_toUTF8]
    exact utf8Bytes_lt (String.lt_iff_toList_lt.mp less)
  refine ⟨fun less => ?_, forth⟩
  rcases lt_trichotomy text text' with before | rfl | behind
  · exact before
  · exact absurd less (List.lt_irrefl _)
  · exact absurd (forth behind) (List.lt_asymm less)

theorem compare_eq_compareBytes (text text' : String) : compare text text' = compareBytes text text' := by
  have less : text.toUTF8.toList < text'.toUTF8.toList ↔ text < text' := toUTF8_lt_iff
  have same : text.toUTF8.toList = text'.toUTF8.toList ↔ text = text' :=
    ⟨toUTF8_inj, fun same => same ▸ rfl⟩
  change compareOfLessAndEq text text' = _
  simp only [compareBytes, compareOfLessAndEq, less, same]

end Triage
