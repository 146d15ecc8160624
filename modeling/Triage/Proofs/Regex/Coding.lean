import Triage.Proofs.Regex.Units
import Triage.Proofs.Regex.Ways

/-! Reading coded text character by character. Where the code of a character tells it apart from all others,
what is read of the bytes is what is read of the characters. -/

namespace Triage.Regex

/-- The code of a character that counts is not the beginning of another's. -/
structure Separating (code : Coding) (counts : Char → Prop) : Prop where
  written : ∀ c, code c ≠ []
  apart {c d : Char} {x y : List UInt8} : counts d → code c ++ x = code d ++ y → c = d

theorem separating_utf8 : Separating utf8 fun _ => True where
  written c := String.utf8EncodeChar_ne_nil
  apart {c d x y} _ same := by
    have read := (Utf8.first?_encode c x).symm.trans ((congrArg Utf8.first? same).trans (Utf8.first?_encode d y))
    exact Char.toNat_inj.mp (Prod.mk.inj (Option.some.inj read)).1

theorem unitBytes_inj {order : Utf16.Order} {m n : Nat} (small : m < 0x10000) (small' : n < 0x10000)
    {x y : List UInt8} (same : Utf16.unitBytes order m ++ x = Utf16.unitBytes order n ++ y) : m = n := by
  have byte {k : Nat} (bound : k < 256) : k.toUInt8.toNat = k := Nat.mod_eq_of_lt bound
  have equal {k l : Nat} (bound : k < 256) (bound' : l < 256) (same : k.toUInt8 = l.toUInt8) : k = l := by
    rw [← byte bound, same, byte bound']
  cases order with
  | little | big =>
    simp only [Utf16.unitBytes, List.cons_append, List.cons.injEq] at same
    have first := equal (by omega) (by omega) same.1
    have second := equal (by omega) (by omega) same.2.1
    omega

theorem separating_utf16 (order : Utf16.Order) : Separating (utf16 order) Basic where
  written c := by
    unfold utf16 Utf16.units
    cases order <;> split <;> simp [Utf16.unitBytes]
  apart {c d x y} basic same := by
    have small : d.toNat < 0x10000 := basic
    rw [utf16_of_basic basic] at same
    by_cases single : Basic c
    · rw [utf16_of_basic single] at same
      exact Char.toNat_inj.mp (unitBytes_inj single small same)
    · -- a surrogate is no character's own code unit
      have scalar : d.toNat < 0xD800 ∨ 0xDFFF < d.toNat := d.valid.imp_right And.left
      have top : c.toNat < 0xD800 ∨ 0xDFFF < c.toNat ∧ c.toNat < 0x110000 := c.valid
      have pair : ¬c.toNat < 0x10000 := single
      rw [utf16, Utf16.units, if_neg pair, List.flatMap_cons, List.append_assoc] at same
      have lead := unitBytes_inj (by omega) small same
      omega

theorem length_utf16 {order : Utf16.Order} {text : List Char} (basic : ∀ c ∈ text, Basic c) :
    (text.flatMap (utf16 order)).length = 2 * text.length := by
  induction text with
  | nil => rfl
  | cons c text ih =>
    obtain ⟨first, others⟩ := List.forall_mem_cons.mp basic
    have two : (utf16 order c).length = 2 := by
      rw [utf16_of_basic first]
      cases order <;> rfl
    rw [List.flatMap_cons, List.length_append, ih others, two, List.length_cons]
    omega

/-! ## Beginnings -/

/-- How many bytes the first characters of a text take. -/
def codedLength (code : Coding) (text : List Char) (n : Nat) : Nat := ((text.take n).flatMap code).length

section beginnings
variable {code : Coding} {counts : Char → Prop} {text : List Char}

theorem coded_split (code : Coding) (text : List Char) (n : Nat) :
    text.flatMap code = (text.take n).flatMap code ++ (text.drop n).flatMap code := by
  rw [← List.flatMap_append, List.take_append_drop]

theorem take_coded (n : Nat) : (text.flatMap code).take (codedLength code text n) = (text.take n).flatMap code := by
  rw [coded_split code text n, codedLength, List.take_left]

theorem drop_coded (n : Nat) : (text.flatMap code).drop (codedLength code text n) = (text.drop n).flatMap code := by
  rw [coded_split code text n, codedLength, List.drop_left]

theorem codedLength_le (n : Nat) : codedLength code text n ≤ (text.flatMap code).length := by
  rw [coded_split code text n, List.length_append, codedLength]
  exact Nat.le_add_right _ _

theorem codedLength_add (m n : Nat) :
    codedLength code text (m + n) = codedLength code text m + codedLength code (text.drop m) n := by
  rw [codedLength, codedLength, codedLength, List.take_add, List.flatMap_append, List.length_append]

theorem le_length_coded (written : ∀ c, code c ≠ []) (text : List Char) : text.length ≤ (text.flatMap code).length := by
  induction text with
  | nil => exact Nat.le_refl _
  | cons c text ih =>
    have some := List.length_pos_of_ne_nil (written c)
    rw [List.flatMap_cons, List.length_append, List.length_cons]
    omega

theorem codedLength_pos (written : ∀ c, code c ≠ []) {n : Nat} (inside : n ≤ text.length) :
    0 < codedLength code text n ↔ 0 < n := by
  have atLeast := le_length_coded written (text.take n)
  rw [List.length_take_of_le inside] at atLeast
  constructor
  · intro large
    apply Nat.pos_of_ne_zero
    intro none
    subst none
    exact Nat.lt_irrefl 0 large
  · exact fun large => Nat.lt_of_lt_of_le large atLeast

theorem codedLength_inj (written : ∀ c, code c ≠ []) {m n : Nat} (inside : m ≤ text.length) (inside' : n ≤ text.length)
    (same : codedLength code text m = codedLength code text n) : m = n := by
  have less {m n : Nat} (inside : n ≤ text.length) (less : m < n) :
      codedLength code text m < codedLength code text n := by
    rw [← Nat.add_sub_cancel' less.le, codedLength_add]
    have room : n - m ≤ (text.drop m).length := by
      rw [List.length_drop]
      omega
    have more := (codedLength_pos written room).mpr (by omega)
    omega
  rcases Nat.lt_trichotomy m n with below | equal | above
  · exact absurd same (less inside' below).ne
  · exact equal
  · exact absurd same.symm (less inside above).ne

theorem prefix_of_coded (separating : Separating code counts) (count : ∀ c ∈ text, counts c) {start : List Char}
    (begins : start.flatMap code <+: text.flatMap code) : start <+: text := by
  induction start generalizing text with
  | nil => exact List.nil_prefix
  | cons c start ih =>
    obtain ⟨rest, split⟩ := begins
    cases text with
    | nil =>
      rw [List.flatMap_cons, List.append_assoc] at split
      exact absurd (List.append_eq_nil_iff.mp split).1 (separating.written c)
    | cons d text =>
      obtain ⟨first, others⟩ := List.forall_mem_cons.mp count
      rw [List.flatMap_cons, List.flatMap_cons, List.append_assoc] at split
      obtain rfl := separating.apart first split
      exact (List.prefix_cons_inj c).mpr (ih others ⟨rest, List.append_cancel_left split⟩)

/-- The coded words that a coded text begins with are the texts that it begins with. -/
theorem take_mem_codedBy (separating : Separating code counts) (count : ∀ c ∈ text, counts c)
    {texts : Language Char} {n : Nat} :
    (n ≤ (text.flatMap code).length ∧ (text.flatMap code).take n ∈ codedBy code texts) ↔
      ∃ k ≤ text.length, n = codedLength code text k ∧ text.take k ∈ texts := by
  constructor
  · intro found
    obtain ⟨fits, start, member, same⟩ := found
    have begins : start <+: text := prefix_of_coded separating count (same ▸ List.take_prefix n _)
    have own := List.prefix_iff_eq_take.mp begins
    refine ⟨start.length, begins.length_le, ?_, own ▸ member⟩
    rw [codedLength, ← own, ← same, List.length_take_of_le fits]
  · intro found
    obtain ⟨k, _, rfl, member⟩ := found
    exact ⟨codedLength_le k, text.take k, member, take_coded k⟩

end beginnings

end Triage.Regex
