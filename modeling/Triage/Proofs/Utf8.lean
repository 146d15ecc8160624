import Triage.Text.Utf8

/-! The four forms of a UTF-8 character. The incremental reader accepts exactly these, so a code
point is read from its own encoding only and takes as many bytes as its width says. -/

namespace Triage.Utf8

def IsTail (b : UInt8) : Prop := 0x80 ≤ b.toNat ∧ b.toNat ≤ 0xBF

/-- The bytes of a character with its code point. Second bytes are narrowed where a longer form or a
surrogate would be spelled. -/
inductive Form : List UInt8 → Nat → Prop
  | one (a : UInt8) (ascii : a.toNat < 0x80) : Form [a] a.toNat
  | two (a b : UInt8) (least : 0xC2 ≤ a.toNat) (most : a.toNat < 0xE0) (tail : IsTail b) :
      Form [a, b] ((a.toNat - 0xC0) * 64 + (b.toNat - 0x80))
  | three (a b c : UInt8) (least : 0xE0 ≤ a.toNat) (most : a.toNat < 0xF0)
      (second : IsTail b) (long : a.toNat = 0xE0 → 0xA0 ≤ b.toNat)
      (scalar : a.toNat = 0xED → b.toNat ≤ 0x9F) (tail : IsTail c) :
      Form [a, b, c] (((a.toNat - 0xE0) * 64 + (b.toNat - 0x80)) * 64 + (c.toNat - 0x80))
  | four (a b c d : UInt8) (least : 0xF0 ≤ a.toNat) (most : a.toNat < 0xF5)
      (second : IsTail b) (long : a.toNat = 0xF0 → 0x90 ≤ b.toNat)
      (last : a.toNat = 0xF4 → b.toNat ≤ 0x8F) (third : IsTail c) (tail : IsTail d) :
      Form [a, b, c, d] ((((a.toNat - 0xF0) * 64 + (b.toNat - 0x80)) * 64 + (c.toNat - 0x80)) * 64 +
        (d.toNat - 0x80))

theorem Form.length_eq_width {bytes : List UInt8} {code : Nat} (form : Form bytes code) :
    bytes.length = width code := by
  cases form with
  | one a ascii => rw [width, if_pos ascii, List.length_singleton]
  | two a b least most tail =>
    obtain ⟨low, high⟩ := tail
    rw [width, if_neg (by omega), if_pos (by omega)]
    rfl
  | three a b c least most second long scalar tail =>
    obtain ⟨low, high⟩ := second
    obtain ⟨low', high'⟩ := tail
    rw [width, if_neg (by omega), if_neg (by omega), if_pos (by omega)]
    rfl
  | four a b c d least most second long last third tail =>
    obtain ⟨low, high⟩ := second
    rw [width, if_neg (by omega), if_neg (by omega), if_neg (by omega)]
    rfl

theorem Form.isValidChar {bytes : List UInt8} {code : Nat} (form : Form bytes code) :
    code.isValidChar := by
  cases form with
  | one a ascii => exact .inl (by omega)
  | two a b least most tail =>
    obtain ⟨low, high⟩ := tail
    exact .inl (by omega)
  | three a b c least most second long scalar tail =>
    obtain ⟨low, high⟩ := second
    obtain ⟨low', high'⟩ := tail
    by_cases surrogates : a.toNat = 0xED
    · exact .inl (by have := scalar surrogates; omega)
    · by_cases before : a.toNat < 0xED
      · exact .inl (by omega)
      · exact .inr ⟨by omega, by omega⟩
  | four a b c d least most second long last third tail =>
    obtain ⟨low, high⟩ := second
    obtain ⟨low', high'⟩ := third
    obtain ⟨low'', high''⟩ := tail
    exact .inr ⟨by omega, by omega⟩

private theorem eq_ofNat {b : UInt8} {n : Nat} (same : b.toNat = n) : b = UInt8.ofNat n := by
  rw [← same, UInt8.ofNat_toNat]

theorem toNat_ofNat_of_valid {n : Nat} (valid : n.isValidChar) : (Char.ofNat n).toNat = n := by
  rw [Char.ofNat, dif_pos valid]
  rfl

theorem Form.eq_encode {bytes : List UInt8} {code : Nat} (form : Form bytes code) :
    bytes = String.utf8EncodeChar (Char.ofNat code) := by
  have value : (Char.ofNat code).val.toNat = code := toNat_ofNat_of_valid form.isValidChar
  unfold String.utf8EncodeChar
  simp only [value]
  cases form with
  | one a ascii =>
    rw [if_pos (by omega), UInt8.ofNat_toNat]
  | two a b least most tail =>
    obtain ⟨low, high⟩ := tail
    rw [if_neg (by omega), if_pos (by omega)]
    simp only [List.cons.injEq, and_true]
    exact ⟨eq_ofNat (by omega), eq_ofNat (by omega)⟩
  | three a b c least most second long scalar tail =>
    obtain ⟨low, high⟩ := second
    obtain ⟨low', high'⟩ := tail
    rw [if_neg (by omega), if_neg (by omega), if_pos (by omega)]
    simp only [List.cons.injEq, and_true]
    exact ⟨eq_ofNat (by omega), eq_ofNat (by omega), eq_ofNat (by omega)⟩
  | four a b c d least most second long last third tail =>
    obtain ⟨low, high⟩ := second
    obtain ⟨low', high'⟩ := third
    obtain ⟨low'', high''⟩ := tail
    rw [if_neg (by omega), if_neg (by omega), if_neg (by omega)]
    simp only [List.cons.injEq, and_true]
    exact ⟨eq_ofNat (by omega), eq_ofNat (by omega), eq_ofNat (by omega), eq_ofNat (by omega)⟩

/-! ## The reader -/

/-- How reading ends that has come so far. -/
def Progress.finish? : Progress → List UInt8 → Option (Nat × List UInt8)
  | .refused, _ => none
  | .more p, bytes => p.finish? bytes
  | .complete code, bytes => some (code, bytes)

theorem first?_cons (b : UInt8) (bytes : List UInt8) :
    first? (b :: bytes) = (opening b).finish? bytes := by
  rw [first?]
  cases opening b <;> rfl

theorem finish?_cons (p : Partial) (b : UInt8) (bytes : List UInt8) :
    p.finish? (b :: bytes) = (p.next b).finish? bytes := by
  rw [Partial.finish?]
  cases p.next b <;> rfl

private theorem next_eq (p : Partial) (b : UInt8) :
    p.next b =
      if p.low ≤ b ∧ b ≤ p.high then
        if p.owed ≤ 1 then .complete (p.code * 64 + (b.toNat - 0x80))
        else .more ⟨p.owed - 1, p.code * 64 + (b.toNat - 0x80), 0x80, 0xBF⟩
      else .refused := rfl

/-- What a character's last byte leaves. -/
theorem finish?_one {code : Nat} {low high : UInt8} {bytes rest : List UInt8} {found : Nat}
    (read : (Partial.mk 1 code low high).finish? bytes = some (found, rest)) :
    ∃ b, bytes = b :: rest ∧ low ≤ b ∧ b ≤ high ∧ found = code * 64 + (b.toNat - 0x80) := by
  cases bytes with
  | nil => simp [Partial.finish?] at read
  | cons b bytes =>
    rw [Partial.finish?, next_eq] at read
    by_cases inside : low ≤ b ∧ b ≤ high
    · simp only [inside, and_self, if_true, Nat.le_refl, Option.some.injEq, Prod.mk.injEq] at read
      obtain ⟨rfl, rfl⟩ := read
      exact ⟨b, rfl, inside.1, inside.2, rfl⟩
    · simp [inside] at read

theorem finish?_succ {owed code : Nat} {low high : UInt8} {bytes rest : List UInt8} {found : Nat}
    (several : 1 ≤ owed)
    (read : (Partial.mk (owed + 1) code low high).finish? bytes = some (found, rest)) :
    ∃ b tail, bytes = b :: tail ∧ low ≤ b ∧ b ≤ high ∧
      (Partial.mk owed (code * 64 + (b.toNat - 0x80)) 0x80 0xBF).finish? tail =
        some (found, rest) := by
  cases bytes with
  | nil => simp [Partial.finish?] at read
  | cons b bytes =>
    rw [Partial.finish?, next_eq] at read
    by_cases inside : low ≤ b ∧ b ≤ high
    · have more : ¬ owed + 1 ≤ 1 := by omega
      simp only [inside, and_self, if_true, more, if_false, Nat.add_sub_cancel] at read
      exact ⟨b, bytes, rfl, inside.1, inside.2, read⟩
    · simp [inside] at read

private theorem isTail_of_le {b : UInt8} (low : 0x80 ≤ b) (high : b ≤ 0xBF) : IsTail b :=
  ⟨by simpa using UInt8.le_iff_toNat_le.mp low, by simpa using UInt8.le_iff_toNat_le.mp high⟩

theorem opening_of_ascii {b : UInt8} (ascii : b.toNat < 0x80) : opening b = .complete b.toNat := by
  rw [opening, if_pos (UInt8.lt_iff_toNat_lt.mpr ascii)]

theorem opening_cases (b : UInt8) :
    (b.toNat < 0x80 ∧ opening b = .complete b.toNat) ∨
    (0xC2 ≤ b.toNat ∧ b.toNat < 0xE0 ∧ opening b = .more ⟨1, b.toNat - 0xC0, 0x80, 0xBF⟩) ∨
    (0xE0 ≤ b.toNat ∧ b.toNat < 0xF0 ∧
      opening b = .more ⟨2, b.toNat - 0xE0, if b = 0xE0 then 0xA0 else 0x80,
        if b = 0xED then 0x9F else 0xBF⟩) ∨
    (0xF0 ≤ b.toNat ∧ b.toNat < 0xF5 ∧
      opening b = .more ⟨3, b.toNat - 0xF0, if b = 0xF0 then 0x90 else 0x80,
        if b = 0xF4 then 0x8F else 0xBF⟩) ∨
    opening b = .refused := by
  have above (n : UInt8) (least : ¬ b < n) : n.toNat ≤ b.toNat :=
    Nat.le_of_not_lt fun less => least (UInt8.lt_iff_toNat_lt.mpr less)
  unfold opening
  by_cases ascii : b < 0x80
  · exact .inl ⟨UInt8.lt_iff_toNat_lt.mp ascii, if_pos ascii⟩
  refine .inr ?_
  rw [if_neg ascii]
  by_cases tail : b < 0xC2
  · exact .inr (.inr (.inr (if_pos tail)))
  rw [if_neg tail]
  by_cases two : b < 0xE0
  · exact .inl ⟨above _ tail, UInt8.lt_iff_toNat_lt.mp two, if_pos two⟩
  refine .inr ?_
  rw [if_neg two]
  by_cases three : b < 0xF0
  · exact .inl ⟨above _ two, UInt8.lt_iff_toNat_lt.mp three, if_pos three⟩
  refine .inr ?_
  rw [if_neg three]
  by_cases four : b < 0xF5
  · exact .inl ⟨above _ three, UInt8.lt_iff_toNat_lt.mp four, if_pos four⟩
  · exact .inr (if_neg four)

theorem form_of_first? {bytes rest : List UInt8} {code : Nat}
    (read : first? bytes = some (code, rest)) : ∃ head, Form head code ∧ bytes = head ++ rest := by
  cases bytes with
  | nil => simp [first?] at read
  | cons a bytes =>
    rw [first?] at read
    rcases opening_cases a with ⟨ascii, opened⟩ | ⟨least, most, opened⟩ | ⟨least, most, opened⟩ |
      ⟨least, most, opened⟩ | opened
    · simp only [opened, Option.some.injEq, Prod.mk.injEq] at read
      obtain ⟨rfl, rfl⟩ := read
      exact ⟨[a], .one a ascii, rfl⟩
    · simp only [opened] at read
      obtain ⟨b, rfl, low, high, value⟩ := finish?_one read
      exact ⟨[a, b], value ▸ .two a b least most (isTail_of_le low high), rfl⟩
    · simp only [opened] at read
      obtain ⟨b, tail, rfl, low, high, read⟩ := finish?_succ (by omega) read
      obtain ⟨c, rfl, low', high', value⟩ := finish?_one read
      refine ⟨[a, b, c], value ▸ .three a b c least most ?_ ?_ ?_ (isTail_of_le low' high'), rfl⟩
      · split at low <;> split at high <;> simp [UInt8.le_iff_toNat_le] at low high <;>
          exact ⟨by omega, by omega⟩
      · intro first
        simpa [← UInt8.toNat_inj, first, UInt8.le_iff_toNat_le] using low
      · intro first
        simpa [← UInt8.toNat_inj, first, UInt8.le_iff_toNat_le] using high
    · simp only [opened] at read
      obtain ⟨b, tail, rfl, low, high, read⟩ := finish?_succ (by omega) read
      obtain ⟨c, tail, rfl, low', high', read⟩ := finish?_succ (by omega) read
      obtain ⟨d, rfl, low'', high'', value⟩ := finish?_one read
      refine ⟨[a, b, c, d], value ▸ .four a b c d least most ?_ ?_ ?_ (isTail_of_le low' high')
        (isTail_of_le low'' high''), rfl⟩
      · split at low <;> split at high <;> simp [UInt8.le_iff_toNat_le] at low high <;>
          exact ⟨by omega, by omega⟩
      · intro first
        simpa [← UInt8.toNat_inj, first, UInt8.le_iff_toNat_le] using low
      · intro first
        simpa [← UInt8.toNat_inj, first, UInt8.le_iff_toNat_le] using high
    · simp [opened] at read

theorem eq_encode_of_first? {bytes : List UInt8} {code : Nat}
    (read : first? bytes = some (code, [])) :
    bytes = String.utf8EncodeChar (Char.ofNat code) := by
  obtain ⟨head, form, rfl⟩ := form_of_first? read
  rw [List.append_nil]
  exact form.eq_encode

theorem length_of_first? {bytes rest : List UInt8} {code : Nat}
    (read : first? bytes = some (code, rest)) : bytes.length = width code + rest.length := by
  obtain ⟨head, form, rfl⟩ := form_of_first? read
  rw [List.length_append, form.length_eq_width]

/-! ## More bytes behind -/

theorem finish?_append {p : Partial} {bytes rest more : List UInt8} {code : Nat}
    (read : p.finish? bytes = some (code, rest)) :
    p.finish? (bytes ++ more) = some (code, rest ++ more) := by
  induction bytes generalizing p with
  | nil => simp [Partial.finish?] at read
  | cons b bytes ih =>
    rw [Partial.finish?] at read
    rw [List.cons_append, Partial.finish?]
    cases step : p.next b with
    | refused => simp [step] at read
    | more next =>
      simp only [step] at read
      exact ih read
    | complete found =>
      simp only [step, Option.some.injEq, Prod.mk.injEq] at read
      rw [read.1, read.2]

theorem first?_append {bytes rest more : List UInt8} {code : Nat}
    (read : first? bytes = some (code, rest)) :
    first? (bytes ++ more) = some (code, rest ++ more) := by
  cases bytes with
  | nil => simp [first?] at read
  | cons b bytes =>
    rw [first?] at read
    rw [List.cons_append, first?]
    cases step : opening b with
    | refused => simp [step] at read
    | more next =>
      simp only [step] at read
      exact finish?_append read
    | complete found =>
      simp only [step, Option.some.injEq, Prod.mk.injEq] at read
      rw [read.1, read.2]

theorem first?_eq_none_of_append {bytes more : List UInt8}
    (cut : first? (bytes ++ more) = none) : first? bytes = none := by
  cases read : first? bytes with
  | none => rfl
  | some found => simp [first?_append read] at cut

/-! ## Encoded characters -/

theorem form_encode (c : Char) : Form (String.utf8EncodeChar c) c.toNat := by
  have valid : c.val.toNat < 0xD800 ∨ 0xDFFF < c.val.toNat ∧ c.val.toNat < 0x110000 := c.valid
  have value {n : Nat} (small : n < 256) : (UInt8.ofNat n).toNat = n := UInt8.toNat_ofNat_of_lt' small
  have tail (n : Nat) : (UInt8.ofNat (n % 64 + 128)).toNat = n % 64 + 128 := value (by omega)
  have isTail (n : Nat) : IsTail (UInt8.ofNat (n % 64 + 128)) := by
    have := tail n
    exact ⟨by omega, by omega⟩
  rw [String.utf8EncodeChar, Char.toNat]
  generalize c.val.toNat = code at valid
  have of_eq {bytes : List UInt8} {n : Nat} (form : Form bytes n) (same : n = code) : Form bytes code :=
    same ▸ form
  split
  · have lead : (UInt8.ofNat code).toNat = code := value (by omega)
    exact of_eq (.one _ (by omega)) lead
  have last := tail code
  split
  · have lead : (UInt8.ofNat (code / 64 % 32 + 192)).toNat = _ := value (by omega)
    exact of_eq (.two _ _ (by omega) (by omega) (isTail _)) (by omega)
  split
  · have lead : (UInt8.ofNat (code / 4096 % 16 + 224)).toNat = _ := value (by omega)
    have second := tail (code / 64)
    exact of_eq (.three _ _ _ (by omega) (by omega) (isTail _) (fun _ => by omega) (fun _ => by omega)
      (isTail _)) (by omega)
  · have lead : (UInt8.ofNat (code / 262144 % 8 + 240)).toNat = _ := value (by omega)
    have second := tail (code / 4096)
    have third := tail (code / 64)
    exact of_eq (.four _ _ _ _ (by omega) (by omega) (isTail _) (fun _ => by omega) (fun _ => by omega)
      (isTail _) (isTail _)) (by omega)


private theorem opening_eq (b : UInt8) :
    opening b =
      if b.toNat < 0x80 then .complete b.toNat
      else if b.toNat < 0xC2 then .refused
      else if b.toNat < 0xE0 then .more ⟨1, b.toNat - 0xC0, 0x80, 0xBF⟩
      else if b.toNat < 0xF0 then
        .more ⟨2, b.toNat - 0xE0, if b.toNat = 0xE0 then 0xA0 else 0x80, if b.toNat = 0xED then 0x9F else 0xBF⟩
      else if b.toNat < 0xF5 then
        .more ⟨3, b.toNat - 0xF0, if b.toNat = 0xF0 then 0x90 else 0x80, if b.toNat = 0xF4 then 0x8F else 0xBF⟩
      else .refused := by
  simp only [opening, UInt8.lt_iff_toNat_lt, ← UInt8.toNat_inj]
  rfl

theorem Partial.finish?_of_within {owed code : Nat} {b low high : UInt8} (least : low.toNat ≤ b.toNat)
    (most : b.toNat ≤ high.toNat) (bytes : List UInt8) :
    (Partial.mk owed code low high).finish? (b :: bytes) =
      if owed ≤ 1 then some (code * 64 + (b.toNat - 0x80), bytes)
      else (Partial.mk (owed - 1) (code * 64 + (b.toNat - 0x80)) 0x80 0xBF).finish? bytes := by
  rw [finish?_cons, Partial.next,
    if_pos ⟨UInt8.le_iff_toNat_le.mpr least, UInt8.le_iff_toNat_le.mpr most⟩]
  dsimp only
  split <;> rfl

theorem Partial.finish?_of_isTail {owed code : Nat} {b : UInt8} (tail : IsTail b) (bytes : List UInt8) :
    (Partial.mk owed code 0x80 0xBF).finish? (b :: bytes) =
      if owed ≤ 1 then some (code * 64 + (b.toNat - 0x80), bytes)
      else (Partial.mk (owed - 1) (code * 64 + (b.toNat - 0x80)) 0x80 0xBF).finish? bytes :=
  have least : (0x80 : UInt8).toNat ≤ b.toNat := tail.1
  have most : b.toNat ≤ (0xBF : UInt8).toNat := tail.2
  finish?_of_within least most bytes

/-- A character is read from its form, whatever stands behind. -/
theorem first?_of_form {bytes : List UInt8} {code : Nat} (form : Form bytes code) (rest : List UInt8) :
    first? (bytes ++ rest) = some (code, rest) := by
  cases form with
  | one a ascii =>
    rw [List.cons_append, first?_cons, opening_of_ascii ascii]
    rfl
  | two a b least most tail =>
    rw [List.cons_append, first?_cons, opening_eq, if_neg (by omega), if_neg (by omega), if_pos most]
    exact Partial.finish?_of_isTail tail rest
  | three a b c least most second long scalar tail =>
    rw [List.cons_append, first?_cons, opening_eq, if_neg (by omega), if_neg (by omega), if_neg (by omega),
      if_pos most]
    refine (Partial.finish?_of_within ?_ ?_ _).trans (Partial.finish?_of_isTail tail rest)
    · split
      · exact long (by assumption)
      · exact second.1
    · split
      · exact scalar (by assumption)
      · exact second.2
  | four a b c d least most second long last third tail =>
    rw [List.cons_append, first?_cons, opening_eq, if_neg (by omega), if_neg (by omega), if_neg (by omega),
      if_neg (by omega), if_pos most]
    refine (Partial.finish?_of_within ?_ ?_ _).trans ((Partial.finish?_of_isTail third _).trans
      (Partial.finish?_of_isTail tail rest))
    · split
      · exact long (by assumption)
      · exact second.1
    · split
      · exact last (by assumption)
      · exact second.2

theorem first?_encode (c : Char) (rest : List UInt8) :
    first? (String.utf8EncodeChar c ++ rest) = some (c.toNat, rest) :=
  first?_of_form (form_encode c) rest

private theorem decodeFrom_of_finish? {p : Partial} {bytes rest : List UInt8} {code : Nat}
    (read : p.finish? bytes = some (code, rest)) (acc : List Char) :
    decodeFrom (some p) acc bytes = decodeFrom none (Char.ofNat code :: acc) rest := by
  induction bytes generalizing p with
  | nil => simp [Partial.finish?] at read
  | cons b bytes ih =>
    rw [finish?_cons] at read
    rw [decodeFrom]
    cases step : p.next b with
    | refused => simp [step, Progress.finish?] at read
    | more next =>
      rw [step] at read
      exact ih read
    | complete found =>
      simp only [step, Progress.finish?, Option.some.injEq, Prod.mk.injEq] at read
      rw [read.1, read.2]

theorem decodeFrom_of_first? {bytes rest : List UInt8} {code : Nat}
    (read : first? bytes = some (code, rest)) (acc : List Char) :
    decodeFrom none acc bytes = decodeFrom none (Char.ofNat code :: acc) rest := by
  cases bytes with
  | nil => simp [first?] at read
  | cons b bytes =>
    rw [first?_cons] at read
    rw [decodeFrom]
    cases step : opening b with
    | refused => simp [step, Progress.finish?] at read
    | more next =>
      rw [step] at read
      exact decodeFrom_of_finish? read acc
    | complete found =>
      simp only [step, Progress.finish?, Option.some.injEq, Prod.mk.injEq] at read
      rw [read.1, read.2]

/-- A text is read from its own encoding. -/
theorem decode?_encode (text : List Char) : decode? (encode text) = some text := by
  have reads (acc : List Char) : decodeFrom none acc (encode text) = some (acc.reverse ++ text) := by
    induction text generalizing acc with
    | nil => simp [encode, decodeFrom]
    | cons c text ih =>
      rw [encode, List.flatMap_cons, decodeFrom_of_first? (first?_encode c _), Char.ofNat_toNat]
      exact (ih _).trans (by simp)
  exact reads []

end Triage.Utf8
