import Triage.Proofs.Pattern.Signs
import Triage.Rule.Parser

/-! Bytes that are written as hexadecimal digits. As raw bytes of a pattern's text, digits in either case
compile to the bytes that they spell in pairs. -/

namespace Triage

/-! ## Digits -/

/-- Digits in either case that spell bytes, two for each. -/
def Hex.Spells (digits : List Char) (bytes : List UInt8) : Prop :=
  digits.map Char.toLower = bytes.flatMap Hex.ofByte

instance (digits : List Char) (bytes : List UInt8) : Decidable (Hex.Spells digits bytes) :=
  inferInstanceAs (Decidable (digits.map Char.toLower = bytes.flatMap Hex.ofByte))

namespace Pattern

theorem toNat_toLower (c : Char) :
    c.toLower.toNat = if 65 ≤ c.toNat ∧ c.toNat ≤ 90 then c.toNat + 32 else c.toNat := by
  have low : 'A'.val.toNat = 65 := rfl
  have high : 'Z'.val.toNat = 90 := rfl
  have gap : ('a'.val - 'A'.val).toNat = 32 := rfl
  unfold Char.toLower
  simp only [ge_iff_le, UInt32.le_iff_toNat_le, low, high, Char.toNat]
  split
  · rename_i upper
    change (c.val + ('a'.val - 'A'.val)).toNat = _
    rw [UInt32.toNat_add, gap]
    omega
  · rfl

theorem toNat_digit {v : Nat} (bound : v < 16) : (Hex.digit v).toNat = if v < 10 then 48 + v else 87 + v := by
  unfold Hex.digit
  split <;> exact Utf8.toNat_ofNat_of_valid (.inl (by omega))

theorem digitValue?_ranges {c : Char} {v : Nat} : digitValue? c = some v ↔
    48 ≤ c.toNat ∧ c.toNat ≤ 57 ∧ v = c.toNat - 48 ∨ 97 ≤ c.toNat ∧ c.toNat ≤ 102 ∧ v = c.toNat - 87 ∨
      65 ≤ c.toNat ∧ c.toNat ≤ 70 ∧ v = c.toNat - 55 := by
  simp only [digitValue?, Char.le_def, UInt32.le_iff_toNat_le]
  change (if 48 ≤ c.toNat ∧ c.toNat ≤ 57 then some (c.toNat - 48) else if 97 ≤ c.toNat ∧ c.toNat ≤ 102 then
    some (c.toNat - 87) else if 65 ≤ c.toNat ∧ c.toNat ≤ 70 then some (c.toNat - 55) else none) = some v ↔ _
  split_ifs <;> simp <;> omega

/-- A digit's value is that of the lower case digit. -/
theorem digitValue?_eq_some {c : Char} {v : Nat} :
    digitValue? c = some v ↔ v < 16 ∧ c.toLower = Hex.digit v := by
  rw [digitValue?_ranges]
  constructor
  · intro ranges
    have bound : v < 16 := by omega
    refine ⟨bound, Char.toNat_inj.mp ?_⟩
    rw [toNat_toLower, toNat_digit bound]
    split_ifs <;> omega
  · rintro ⟨bound, same⟩
    have same := congrArg Char.toNat same
    rw [toNat_toLower, toNat_digit bound] at same
    split_ifs at same <;> omega

theorem hexPair?_eq_some {high low : Char} {b : UInt8} :
    hexPair? high low = some b.toNat ↔ [high, low].map Char.toLower = Hex.ofByte b := by
  have bound := b.toNat_lt
  simp only [hexPair?, Option.bind_eq_bind, Option.bind_eq_some_iff, digitValue?_eq_some, Option.pure_def,
    Option.some.injEq, Hex.ofByte, List.map_cons, List.map_nil, List.cons.injEq, and_true]
  constructor
  · rintro ⟨h, ⟨_, high⟩, l, ⟨_, low⟩, whole⟩
    rw [high, low, show b.toNat / 16 = h by omega, show b.toNat % 16 = l by omega]
    exact ⟨rfl, rfl⟩
  · rintro ⟨high, low⟩
    exact ⟨_, ⟨by omega, high⟩, _, ⟨by omega, low⟩, by omega⟩

theorem IsDigit.isExpression_cons {c : Char} {v : Nat} (digit : IsDigit c v) (text : List Char) :
    isExpression (c :: text) = isExpression text := by
  rw [Pattern.isExpression_cons digit.backslash, digit.ordinary.2, Bool.false_or]

end Pattern
open Pattern

namespace Hex
variable {digits : List Char} {bytes : List UInt8} {b : UInt8}

theorem spells_cons : Spells digits (b :: bytes) ↔
    ∃ high low rest, digits = high :: low :: rest ∧ hexPair? high low = some b.toNat ∧ Spells rest bytes := by
  unfold Spells
  constructor
  · intro spells
    match digits, spells with
    | [], spells => nomatch spells
    | [high], spells => nomatch (List.cons.inj spells).2
    | high :: low :: rest, spells =>
      obtain ⟨pair, spells⟩ : [high, low].map Char.toLower = Hex.ofByte b ∧ rest.map Char.toLower = _ :=
        List.append_inj spells rfl
      exact ⟨high, low, rest, rfl, hexPair?_eq_some.mpr pair, spells⟩
  · rintro ⟨high, low, rest, rfl, pair, spells⟩
    change [high, low].map Char.toLower ++ rest.map Char.toLower = _
    rw [hexPair?_eq_some.mp pair, spells, List.flatMap_cons]

theorem Spells.length (spells : Spells digits bytes) : digits.length = 2 * bytes.length := by
  have same := congrArg List.length spells
  rw [List.length_map, List.length_flatMap] at same
  rw [same]
  simp [ofByte, Nat.mul_comm]

theorem Spells.all_isDigit (spells : Spells digits bytes) : digits.all isDigit := by
  induction bytes generalizing digits with
  | nil =>
    obtain rfl := List.map_eq_nil_iff.mp spells
    rfl
  | cons b bytes ih =>
    obtain ⟨high, low, rest, rfl, pair, spells⟩ := spells_cons.mp spells
    obtain ⟨h, first, pair⟩ := Option.bind_eq_some_iff.mp pair
    obtain ⟨l, second, -⟩ := Option.bind_eq_some_iff.mp pair
    rw [List.all_cons, List.all_cons, ih spells]
    have here : isDigit high = true := Option.isSome_iff_exists.mpr ⟨h, first⟩
    have next : isDigit low = true := Option.isSome_iff_exists.mpr ⟨l, second⟩
    rw [here, next]
    rfl

/-- An even number of digits spells bytes. -/
theorem exists_spells : (digits : List Char) → digits.length % 2 = 0 → digits.all isDigit → ∃ bytes, Spells digits bytes
  | [], _, _ => ⟨[], rfl⟩
  | high :: low :: rest, even, each => by
    rw [List.all_cons, List.all_cons, Bool.and_eq_true, Bool.and_eq_true] at each
    obtain ⟨first, second, later⟩ := each
    obtain ⟨h, first⟩ := Option.isSome_iff_exists.mp first
    obtain ⟨l, second⟩ := Option.isSome_iff_exists.mp second
    obtain ⟨bytes, spells⟩ := exists_spells rest (by simpa [Nat.add_assoc] using even) later
    have high' := (digitValue?_eq_some.mp first).1
    have low' := (digitValue?_eq_some.mp second).1
    refine ⟨(h * 16 + l).toUInt8 :: bytes, spells_cons.mpr ⟨high, low, rest, rfl, ?_, spells⟩⟩
    have value : (h * 16 + l).toUInt8.toNat = h * 16 + l := UInt8.toNat_ofNat_of_lt' (show _ < 256 by omega)
    rw [value, hexPair?, show digitValue? high = some h from first, show digitValue? low = some l from second]
    rfl

end Hex

/-! ## What digits compile to -/

section compile
variable {digits : List Char} {bytes : List UInt8}

theorem escapedPieces_rawBytes (spells : Hex.Spells digits bytes) :
    escapedPieces (Reader.rawBytes digits) = .ok (bytes.map .byte) := by
  induction bytes generalizing digits with
  | nil =>
    obtain rfl := List.map_eq_nil_iff.mp spells
    rfl
  | cons b bytes ih =>
    obtain ⟨high, low, rest, rfl, pair, spells⟩ := Hex.spells_cons.mp spells
    rw [Reader.rawBytes, escapedPieces]
    simp only [pair, ih spells, Nat.toUInt8, UInt8.ofNat_toNat]
    rfl

theorem isExpression_rawBytes (spells : Hex.Spells digits bytes) :
    isExpression (Reader.rawBytes digits) = false := by
  induction bytes generalizing digits with
  | nil =>
    obtain rfl := List.map_eq_nil_iff.mp spells
    rfl
  | cons b bytes ih =>
    obtain ⟨high, low, rest, rfl, pair, spells⟩ := Hex.spells_cons.mp spells
    obtain ⟨h, l, first, second, -⟩ := digits_of_hexPair? pair
    change (!isLiteralEscape 'z' || isExpression (high :: low :: Reader.rawBytes rest)) = false
    rw [first.isExpression_cons, second.isExpression_cons, ih spells]
    rfl

theorem encodePieces_bytes (encoding : Encoding) (bytes : List UInt8) :
    encodePieces encoding [] (bytes.map .byte) = .ok bytes := by
  induction bytes with
  | nil => rfl
  | cons b bytes ih =>
    rw [List.map_cons, encodePieces, ih]
    rfl

theorem compile_rawBytes (spells : Hex.Spells digits bytes) (some : bytes ≠ []) :
    (PatternDef.mk (String.ofList (Reader.rawBytes digits)) false false "ASCII").compile =
      .ok (.literal ⟨bytes, false⟩) := by
  have known : Encoding.labelled? "ASCII" = .some .ascii := by decide
  have written : Reader.rawBytes digits ≠ [] := by
    obtain ⟨b, more, rfl⟩ := List.exists_cons_of_ne_nil some
    obtain ⟨high, low, rest, rfl, -, -⟩ := Hex.spells_cons.mp spells
    simp [Reader.rawBytes]
  have read : pieces false (Reader.rawBytes digits) = .ok (bytes.map .byte) := escapedPieces_rawBytes spells
  have encoded := encodePieces_bytes .ascii bytes
  apply compile_of_compileLiteral known
  · rwa [String.toList_ofList]
  · rfl
  · rw [String.toList_ofList, isExpression_rawBytes spells]
  · exact compileLiteral_eq (by rwa [String.toList_ofList]) encoded some

end compile

/-- A definition that is searched for as these very bytes. -/
structure PatternDef.Denotes (d : PatternDef) (bytes : List UInt8) : Prop where
  sharp : d.nocase = false
  encoding : d.encoding = "ASCII"
  compile : d.compile = .ok (.literal ⟨bytes, false⟩)

theorem denotes_rawBytes {digits : List Char} {bytes : List UInt8} (spells : Hex.Spells digits bytes)
    (some : bytes ≠ []) :
    (PatternDef.mk (String.ofList (Reader.rawBytes digits)) false false "ASCII").Denotes bytes :=
  ⟨rfl, rfl, compile_rawBytes spells some⟩

end Triage
