import Mathlib.Data.Bool.AllAny
import Triage.Text.Json

/-! JSON text read back. The reader takes what the format allows between tokens and in strings, so it does not know
how a value was written: blanks, all escapes, surrogate pairs. Of the numbers it takes the whole ones. What is
written for a value whose numbers are whole reads as that value, and it has no control character. -/

namespace Triage

namespace JsonText

def isBlank (c : Char) : Bool := c == ' ' || c == '\t' || c == '\n' || c == '\r'

def skip (text : List Char) : List Char := text.dropWhile isBlank

/-- What follows a sign. -/
def past? (sign : Char) (text : List Char) : Option (List Char) :=
  match skip text with
  | c :: rest => if c = sign then some rest else none
  | [] => none

/-- The character that an escape of one letter stands for. -/
def named? : Char → Option Char
  | '"' => some '"'
  | '\\' => some '\\'
  | '/' => some '/'
  | 'b' => some '\x08'
  | 'f' => some '\x0c'
  | 'n' => some '\n'
  | 'r' => some '\r'
  | 't' => some '\t'
  | _ => none

/-- The code unit that four hexadecimal digits spell. -/
def unit? (a b c d : Char) : Option Nat := do
  return (((← Hex.value? a) * 16 + (← Hex.value? b)) * 16 + (← Hex.value? c)) * 16 + (← Hex.value? d)

def isHigh (unit : Nat) : Bool := 0xD800 ≤ unit && unit < 0xDC00

def isLow (unit : Nat) : Bool := 0xDC00 ≤ unit && unit < 0xE000

/-- The characters up to the closing quote, and what follows it. A surrogate has to be one of a pair. -/
def contents? : List Char → Option (List Char × List Char)
  | [] => none
  | '"' :: rest => some ([], rest)
  | '\\' :: 'u' :: a :: b :: c :: d :: rest => do
    let unit ← unit? a b c d
    if isHigh unit then
      match rest with
      | '\\' :: 'u' :: e :: f :: g :: h :: rest =>
        let low ← unit? e f g h
        if isLow low then
          let (read, rest) ← contents? rest
          return (Char.ofNat (0x10000 + (unit - 0xD800) * 0x400 + (low - 0xDC00)) :: read, rest)
        else none
      | _ => none
    else if isLow unit then none
    else
      let (read, rest) ← contents? rest
      return (Char.ofNat unit :: read, rest)
  | '\\' :: c :: rest => do
    let c ← named? c
    let (read, rest) ← contents? rest
    return (c :: read, rest)
  | c :: rest =>
    if c = '\\' ∨ c.toNat < 0x20 then none
    else do
      let (read, rest) ← contents? rest
      return (c :: read, rest)

def quoted? (text : List Char) : Option (String × List Char) := do
  let (read, rest) ← contents? (← past? '"' text)
  return (String.ofList read, rest)

/-- A whole number, which begins with a zero only if it is zero. -/
def number? (text : List Char) : Option (Nat × List Char) :=
  let digits := text.takeWhile Char.isDigit
  if digits.isEmpty || (digits.head? == some '0' && digits != ['0']) then none
  else some (Nat.ofDigitChars 10 digits 0, text.dropWhile Char.isDigit)

section series
variable {α : Type}

/-- One part or more, with commas between them and a sign behind the last. -/
def parts? (read : List Char → Option (α × List Char)) (close : Char) :
    Nat → List Char → Option (List α × List Char)
  | 0, _ => none
  | most + 1, text => do
    let (part, rest) ← read text
    match skip rest with
    | [] => none
    | c :: rest =>
      if c = close then some ([part], rest)
      else if c = ',' then
        let (parts, rest) ← parts? read close most rest
        return (part :: parts, rest)
      else none

/-- What stands between two brackets, of which the first is read. -/
def series? (read : List Char → Option (α × List Char)) (close : Char) (text : List Char) :
    Option (List α × List Char) :=
  match past? close text with
  | some rest => some ([], rest)
  | none => parts? read close text.length text

end series

def field? (read : List Char → Option (JsonValue × List Char)) (text : List Char) :
    Option ((String × JsonValue) × List Char) := do
  let (key, rest) ← quoted? text
  let (value, rest) ← read (← past? ':' rest)
  return ((key, value), rest)

/-- A value that is nested no deeper, and what follows it. -/
def value? : Nat → List Char → Option (JsonValue × List Char)
  | 0, _ => none
  | depth + 1, text =>
    match skip text with
    | 'n' :: 'u' :: 'l' :: 'l' :: rest => some (.null, rest)
    | '"' :: rest => (contents? rest).map fun (read, rest) => (.text (String.ofList read), rest)
    | '[' :: rest => (series? (value? depth) ']' rest).map fun (items, rest) => (.list items, rest)
    | '\x7b' :: rest =>
      (series? (field? (value? depth)) '\x7d' rest).map fun (fields, rest) => (.object fields, rest)
    | text => (number? text).map fun (n, rest) => (.number n, rest)

/-- The value that a text is. Its nesting is less than its length. -/
def read? (text : List Char) : Option JsonValue := do
  let (value, rest) ← value? text.length text
  if (skip rest).isEmpty then some value else none

end JsonText

namespace JsonValue
open JsonText

/-- All numbers in the value are whole. -/
inductive Whole : JsonValue → Prop
  | null : Whole .null
  | number (n : Nat) : Whole (.number n)
  | text (s : String) : Whole (.text s)
  | list {items : List JsonValue} (each : ∀ item ∈ items, Whole item) : Whole (.list items)
  | object {fields : List (String × JsonValue)} (each : ∀ field ∈ fields, Whole field.2) : Whole (.object fields)

/-- The text that is written for a value. -/
def chars (v : JsonValue) : List Char := v.fragments.flatMap String.toList

/-! ## Strings -/

def escaped (c : Char) : List Char := ((escape? c).map String.toList).getD [c]

theorem contents_flatMap (run text : List Char) :
    (contents run text).flatMap String.toList = run.reverse ++ text.flatMap escaped := by
  have fragment (run : List Char) : (runFragment run).flatMap String.toList = run.reverse := by
    unfold runFragment
    split
    · rename_i none
      rw [List.isEmpty_iff.mp none]
      rfl
    · rw [List.flatMap_cons, String.toList_ofList, List.flatMap_nil, List.append_nil]
  induction text generalizing run with
  | nil => rw [contents, fragment, List.flatMap_nil, List.append_nil]
  | cons c text ih =>
    rw [contents, List.flatMap_cons, escaped]
    cases escape? c with
    | none => simp [ih]
    | some e => simp [fragment, ih]

def quotedChars (s : String) : List Char := '"' :: (s.toList.flatMap escaped ++ ['"'])

theorem quoted_flatMap (s : String) : (quoted s).flatMap String.toList = quotedChars s := by
  rw [quoted, List.cons_append, List.flatMap_cons, List.flatMap_append, contents_flatMap]
  rfl

/-- An escape of four digits, the first two of them zeros, for a character below a blank. -/
theorem unit?_ofByte {n : Nat} (control : n < 0x20) : ∃ high low,
    Hex.ofByte n.toUInt8 = [high, low] ∧ unit? '0' '0' high low = some n ∧ 0x20 ≤ high.toNat ∧ 0x20 ≤ low.toNat := by
  have all : ∀ n < 0x20, unit? '0' '0' (Hex.digit (n.toUInt8.toNat / 16)) (Hex.digit (n.toUInt8.toNat % 16)) = some n ∧
      0x20 ≤ (Hex.digit (n.toUInt8.toNat / 16)).toNat ∧ 0x20 ≤ (Hex.digit (n.toUInt8.toNat % 16)).toNat := by decide
  exact ⟨_, _, rfl, all n control⟩

theorem contents?_letter {letter c : Char} (other : letter ≠ 'u') (named : named? letter = some c) (rest : List Char) :
    contents? ('\\' :: letter :: rest) = (contents? rest).map fun (read, rest) => (c :: read, rest) := by
  rw [contents?, named]
  · cases contents? rest <;> rfl
  · exact fun _ _ _ _ _ same => absurd same other

theorem contents?_plain {c : Char} (quote : c ≠ '"') (backslash : c ≠ '\\') (plain : ¬c.toNat < 0x20)
    (rest : List Char) :
    contents? (c :: rest) = (contents? rest).map fun (read, rest) => (c :: read, rest) := by
  have free : ¬(c = '\\' ∨ c.toNat < 0x20) := not_or.mpr ⟨backslash, plain⟩
  rw [contents?, if_neg free]
  · cases contents? rest <;> rfl
  · exact quote
  · exact fun _ _ _ _ _ same => absurd same backslash
  · exact fun _ _ same => absurd same backslash

theorem contents?_control {c : Char} (control : c.toNat < 0x20) (rest : List Char) :
    contents? ('\\' :: 'u' :: '0' :: '0' :: (Hex.ofByte c.toNat.toUInt8 ++ rest)) =
      (contents? rest).map fun (read, rest) => (c :: read, rest) := by
  obtain ⟨high, low, digits, unit, _⟩ := unit?_ofByte control
  have noHigh : isHigh c.toNat = false := by
    rw [isHigh, decide_eq_false (show ¬0xD800 ≤ c.toNat by omega), Bool.false_and]
  have noLow : isLow c.toNat = false := by
    rw [isLow, decide_eq_false (show ¬0xDC00 ≤ c.toNat by omega), Bool.false_and]
  rw [digits, List.cons_append, List.cons_append, List.nil_append, contents?, unit]
  simp only [Option.bind_eq_bind, Option.bind_some, noHigh, noLow, Bool.false_eq_true, if_false, Char.ofNat_toNat]
  cases contents? rest <;> rfl

theorem toList_control (b : UInt8) :
    ("\\u00" ++ String.ofList (Hex.ofByte b)).toList = '\\' :: 'u' :: '0' :: '0' :: Hex.ofByte b :=
  String.toList_append.trans (congrArg ("\\u00".toList ++ ·) String.toList_ofList)

/-- What is written for a character is read as that character. -/
theorem contents?_escaped (c : Char) (rest : List Char) :
    contents? (escaped c ++ rest) = (contents? rest).map fun (read, rest) => (c :: read, rest) := by
  unfold escaped escape?
  split
  case h_1 => exact @contents?_letter '"' _ (by decide) rfl rest
  case h_2 => exact @contents?_letter '\\' _ (by decide) rfl rest
  case h_3 => exact @contents?_letter 'n' _ (by decide) rfl rest
  case h_4 => exact @contents?_letter 'r' _ (by decide) rfl rest
  case h_5 => exact @contents?_letter 't' _ (by decide) rfl rest
  case h_6 => exact @contents?_letter 'b' _ (by decide) rfl rest
  case h_7 => exact @contents?_letter 'f' _ (by decide) rfl rest
  case h_8 quote backslash _ _ _ _ _ =>
    split
    · rename_i control
      rw [Option.map_some, Option.getD_some, toList_control]
      exact contents?_control control rest
    · rename_i plain
      exact contents?_plain quote backslash plain rest

theorem contents?_flatMap (text rest : List Char) :
    contents? (text.flatMap escaped ++ '"' :: rest) = some (text, rest) := by
  induction text with
  | nil => rfl
  | cons c text ih =>
    rw [List.flatMap_cons, List.append_assoc, contents?_escaped, ih]
    rfl

/-! ## Numbers -/

theorem toDigits_of_zero {n : Nat} (zero : (Nat.toDigits 10 n).head? = some '0') : Nat.toDigits 10 n = ['0'] := by
  induction n using Nat.strongRecOn with
  | ind n ih =>
    by_cases small : n < 10
    · rw [Nat.toDigits_of_lt_base small] at zero ⊢
      exact congrArg (fun c => [c]) (Option.some.inj zero)
    · have large : 10 ≤ n := Nat.le_of_not_lt small
      have split : Nat.toDigits 10 n = Nat.toDigits 10 (n / 10) ++ [(n % 10).digitChar] :=
        Nat.toDigits_of_base_le (by decide) large
      have first : (Nat.toDigits 10 (n / 10)).head? = some '0' := by
        rw [split] at zero
        cases digits : Nat.toDigits 10 (n / 10) with
        | nil => exact absurd digits Nat.toDigits_ne_nil
        | cons c more =>
          rw [digits] at zero
          exact zero
      have value : Nat.ofDigitChars 10 (Nat.toDigits 10 (n / 10)) 0 = n / 10 :=
        Nat.ofDigitChars_toDigits (by decide) (by decide)
      rw [ih (n / 10) (Nat.div_lt_self (by omega) (by decide)) first] at value
      have none : Nat.ofDigitChars 10 ['0'] 0 = 0 := rfl
      omega

/-- A text that does not go on with a digit. -/
def Ended (rest : List Char) : Prop := ∀ c ∈ rest.head?, c.isDigit = false

theorem number?_toDigits (n : Nat) {rest : List Char} (ended : Ended rest) :
    number? (Nat.toDigits 10 n ++ rest) = some (n, rest) := by
  have digits : ∀ c ∈ Nat.toDigits 10 n, c.isDigit = true := fun c member =>
    Nat.isDigit_of_mem_toDigits (by decide) (by decide) member
  have none : rest.takeWhile Char.isDigit = [] ∧ rest.dropWhile Char.isDigit = rest := by
    cases rest with
    | nil => exact ⟨rfl, rfl⟩
    | cons c rest =>
      have other : c.isDigit = false := ended c rfl
      simp [other]
  have taken : (Nat.toDigits 10 n ++ rest).takeWhile Char.isDigit = Nat.toDigits 10 n := by
    rw [List.takeWhile_append_of_pos digits, none.1, List.append_nil]
  have left : (Nat.toDigits 10 n ++ rest).dropWhile Char.isDigit = rest := by
    rw [List.dropWhile_append_of_pos digits, none.2]
  have some : (Nat.toDigits 10 n).isEmpty = false := by simp [Nat.toDigits_ne_nil]
  have plain : ((Nat.toDigits 10 n).head? == .some '0' && Nat.toDigits 10 n != ['0']) = false := by
    rw [Bool.and_eq_false_imp]
    intro zero
    rw [toDigits_of_zero (beq_iff_eq.mp zero)]
    rfl
  have value : Nat.ofDigitChars 10 (Nat.toDigits 10 n) 0 = n := Nat.ofDigitChars_toDigits (by decide) (by decide)
  simp only [number?, taken, left, some, plain, value, Bool.or_self, Bool.false_eq_true, if_false]

/-! ## Series -/

theorem skip_of_ne {c : Char} (dark : isBlank c = false) (rest : List Char) : skip (c :: rest) = c :: rest := by
  rw [skip, List.dropWhile_cons_of_neg (by rw [dark]; decide)]

theorem past?_self {sign : Char} (dark : isBlank sign = false) (rest : List Char) :
    past? sign (sign :: rest) = some rest := by
  rw [past?, skip_of_ne dark]
  exact if_pos rfl

section series
variable {α : Type} {read : List Char → Option (α × List Char)} {write : α → List Char} {close : Char}

/-- What is read behind a comma, or is the last, is read in its place. -/
def ReadsBack (read : List Char → Option (α × List Char)) (write : α → List Char) (close : Char) (part : α) : Prop :=
  ∀ c rest, c = ',' ∨ c = close → read (write part ++ c :: rest) = some (part, c :: rest)

theorem parts?_intercalate (dark : isBlank close = false) (other : close ≠ ',') {parts : List α} {most : Nat}
    (fits : parts.length ≤ most) (some : parts ≠ []) (back : ∀ part ∈ parts, ReadsBack read write close part)
    (rest : List Char) :
    parts? read close most ([','].intercalate (parts.map write) ++ close :: rest) = .some (parts, rest) := by
  induction parts generalizing most with
  | nil => exact absurd rfl some
  | cons part parts ih =>
    obtain ⟨most, rfl⟩ := Nat.exists_eq_succ_of_ne_zero (Nat.ne_of_gt (Nat.zero_lt_of_lt fits))
    obtain ⟨first, others⟩ := List.forall_mem_cons.mp back
    cases parts with
    | nil =>
      have here := first close rest (.inr rfl)
      simp only [List.map_cons, List.map_nil, List.intercalate_singleton]
      rw [parts?, here]
      simp only [Option.bind_eq_bind, Option.bind_some, skip_of_ne dark, if_true]
    | cons next parts =>
      have here := first ',' ([','].intercalate ((next :: parts).map write) ++ close :: rest) (.inl rfl)
      have later := ih (Nat.le_of_succ_le_succ fits) (List.cons_ne_nil _ _) others
      rw [List.map_cons, List.map_cons, List.intercalate_cons_cons, List.append_assoc, List.append_assoc,
        List.singleton_append, ← List.map_cons, parts?, here]
      simp only [Option.bind_eq_bind, Option.bind_some, skip_of_ne (show isBlank ',' = false from rfl), if_neg other.symm,
        if_true, later]
      rfl

theorem length_le_intercalate (ls : List (List Char)) : ls.length ≤ ([','].intercalate ls).length + 1 := by
  induction ls with
  | nil => exact Nat.zero_le _
  | cons l ls ih =>
    cases ls with
    | nil => simp
    | cons next ls =>
      rw [List.intercalate_cons_cons]
      simp only [List.length_cons, List.length_append] at ih ⊢
      omega

theorem length_le_of_mem_intercalate {l : List Char} {ls : List (List Char)} (member : l ∈ ls) :
    l.length ≤ ([','].intercalate ls).length := by
  induction ls with
  | nil => nomatch member
  | cons first ls ih =>
    cases ls with
    | nil =>
      obtain rfl := List.mem_singleton.mp member
      exact Nat.le_of_eq (congrArg List.length (@List.intercalate_singleton _ [','] l).symm)
    | cons next ls =>
      rw [List.intercalate_cons_cons]
      simp only [List.length_append]
      rcases List.mem_cons.mp member with rfl | member
      · omega
      · have := ih member
        omega

/-- Parts between brackets are read one by one, unless the first could be taken for the end. -/
theorem series?_intercalate (dark : isBlank close = false) (other : close ≠ ',') {parts : List α}
    (opens : ∀ part ∈ parts, ∀ rest, past? close (write part ++ rest) = none)
    (back : ∀ part ∈ parts, ReadsBack read write close part) (rest : List Char) :
    series? read close ([','].intercalate (parts.map write) ++ close :: rest) = some (parts, rest) := by
  cases parts with
  | nil =>
    have closed : past? close (close :: rest) = some rest := past?_self dark rest
    simp [series?, closed]
  | cons part parts =>
    have starts : past? close ([','].intercalate ((part :: parts).map write) ++ close :: rest) = none := by
      cases parts with
      | nil => simpa using opens part List.mem_cons_self (close :: rest)
      | cons next parts =>
        rw [List.map_cons, List.map_cons, List.intercalate_cons_cons, List.append_assoc, List.append_assoc]
        exact opens part List.mem_cons_self _
    rw [series?, starts]
    refine parts?_intercalate dark other ?_ (List.cons_ne_nil _ _) back rest
    have long := length_le_intercalate ((part :: parts).map write)
    simp only [List.length_map, List.length_append, List.length_cons] at long ⊢
    omega

end series

/-! ## Values -/

theorem itemFragments_flatMap (items : List JsonValue) :
    (itemFragments items).flatMap String.toList = [','].intercalate (items.map chars) := by
  induction items with
  | nil => rfl
  | cons v items ih =>
    cases items with
    | nil => rw [itemFragments, List.map_singleton, List.intercalate_singleton, chars]
    | cons next items =>
      rw [itemFragments, List.flatMap_append, List.flatMap_cons, ih, List.map_cons, List.map_cons, List.map_cons,
        List.intercalate_cons_cons, List.append_assoc]
      · rfl
      · exact List.cons_ne_nil _ _

def fieldChars (field : String × JsonValue) : List Char := quotedChars field.1 ++ ':' :: field.2.chars

theorem fieldFragments_flatMap (fields : List (String × JsonValue)) :
    (fieldFragments fields).flatMap String.toList = [','].intercalate (fields.map fieldChars) := by
  induction fields with
  | nil => rfl
  | cons field fields ih =>
    obtain ⟨key, v⟩ := field
    cases fields with
    | nil =>
      rw [fieldFragments, List.flatMap_append, quoted_flatMap, List.map_singleton, List.intercalate_singleton]
      rfl
    | cons next fields =>
      have first : fieldChars (key, v) = quotedChars key ++ ':' :: v.chars := rfl
      rw [fieldFragments, List.flatMap_append, List.flatMap_append, quoted_flatMap, List.flatMap_cons, List.flatMap_cons,
        ih, List.map_cons, List.map_cons, List.map_cons, List.intercalate_cons_cons, first]
      · simp only [List.append_assoc]
        rfl
      · exact List.cons_ne_nil _ _

@[simp] theorem chars_text (s : String) : (text s).chars = quotedChars s := by
  rw [chars, fragments, quoted_flatMap]

@[simp] theorem chars_number (n : Nat) : (number n).chars = Nat.toDigits 10 n := by
  rw [chars, fragments, List.flatMap_singleton, Nat.toString_eq_ofList_toDigits, String.toList_ofList]

@[simp] theorem chars_list (items : List JsonValue) :
    (list items).chars = '[' :: ([','].intercalate (items.map chars) ++ [']']) := by
  rw [chars, fragments, List.cons_append, List.flatMap_cons, List.flatMap_append, itemFragments_flatMap]
  rfl

@[simp] theorem chars_object (fields : List (String × JsonValue)) :
    (object fields).chars = '\x7b' :: ([','].intercalate (fields.map fieldChars) ++ ['\x7d']) := by
  rw [chars, fragments, List.cons_append, List.flatMap_cons, List.flatMap_append, fieldFragments_flatMap]
  rfl

theorem dark_of_isDigit {c : Char} (digit : c.isDigit = true) : isBlank c = false := by
  refine Bool.eq_false_iff.mpr fun blank => ?_
  simp only [isBlank, Bool.or_eq_true, beq_iff_eq] at blank
  rcases blank with ((rfl | rfl) | rfl) | rfl <;> nomatch digit

theorem exists_digit (n : Nat) : ∃ c more, Nat.toDigits 10 n = c :: more ∧ c.isDigit = true := by
  obtain ⟨c, more, digits⟩ := List.exists_cons_of_ne_nil (@Nat.toDigits_ne_nil n 10)
  exact ⟨c, more, digits, Nat.isDigit_of_mem_toDigits (by decide) (by decide) (digits ▸ List.mem_cons_self)⟩

theorem past?_of_ne {c sign : Char} (dark : isBlank c = false) (other : c ≠ sign) (rest : List Char) :
    past? sign (c :: rest) = none := by
  rw [past?, skip_of_ne dark]
  exact if_neg other

/-- A value does not begin as a bracket closes. -/
theorem past?_chars {v : JsonValue} (whole : v.Whole) (rest : List Char) : past? ']' (v.chars ++ rest) = none := by
  cases whole with
  | null => rfl
  | number n =>
    obtain ⟨c, more, digits, digit⟩ := exists_digit n
    rw [chars_number, digits]
    exact past?_of_ne (dark_of_isDigit digit) (by rintro rfl; nomatch digit) _
  | text s =>
    rw [chars_text]
    exact past?_of_ne rfl (by decide) _
  | list each =>
    rw [chars_list]
    exact past?_of_ne rfl (by decide) _
  | object each =>
    rw [chars_object]
    exact past?_of_ne rfl (by decide) _

theorem value?_number {n depth : Nat} {rest : List Char} (ended : Ended rest) :
    value? (depth + 1) (Nat.toDigits 10 n ++ rest) = some (.number n, rest) := by
  have read := number?_toDigits n ended
  obtain ⟨c, more, digits, digit⟩ := exists_digit n
  rw [digits, List.cons_append] at read ⊢
  rw [value?, skip_of_ne (dark_of_isDigit digit)]
  split
  case h_5 => rw [read]; rfl
  all_goals
    rename_i same
    obtain ⟨rfl, _⟩ := List.cons.inj same
    nomatch digit

theorem contents?_quoted (s : String) (rest : List Char) :
    contents? (s.toList.flatMap escaped ++ ['"'] ++ rest) = some (s.toList, rest) := by
  rw [List.append_assoc]
  exact contents?_flatMap s.toList rest

theorem field?_fieldChars {read : List Char → Option (JsonValue × List Char)} {field : String × JsonValue}
    {rest : List Char} (back : read (field.2.chars ++ rest) = some (field.2, rest)) :
    field? read (fieldChars field ++ rest) = some (field, rest) := by
  obtain ⟨key, v⟩ := field
  have spelled : fieldChars (key, v) ++ rest = '"' :: (key.toList.flatMap escaped ++ ['"'] ++ ':' :: (v.chars ++ rest)) := by
    simp [fieldChars, quotedChars]
  have opened := past?_self (show isBlank '"' = false from rfl)
  have passed := past?_self (show isBlank ':' = false from rfl)
  rw [spelled, field?, quoted?, opened]
  simp only [Option.bind_eq_bind, Option.bind_some, Option.pure_def, contents?_quoted, passed, back, String.ofList_toList]

/-- What is written for a value is read as the value. -/
theorem value?_chars {v : JsonValue} (whole : v.Whole) {depth : Nat} {rest : List Char} (deep : v.chars.length ≤ depth)
    (ended : Ended rest) : value? depth (v.chars ++ rest) = some (v, rest) := by
  have follows {close : Char} (other : close.isDigit = false) (c : Char) (rest : List Char) (here : c = ',' ∨ c = close) :
      Ended (c :: rest) := by
    intro d member
    obtain rfl : c = d := Option.some.inj member
    rcases here with rfl | rfl
    · rfl
    · exact other
  induction whole generalizing depth rest with
  | null =>
    obtain ⟨depth, rfl⟩ := Nat.exists_eq_succ_of_ne_zero (Nat.ne_of_gt (Nat.zero_lt_of_lt deep))
    rfl
  | number n =>
    rw [chars_number] at deep ⊢
    have some : 0 < (Nat.toDigits 10 n).length := List.length_pos_iff.mpr Nat.toDigits_ne_nil
    obtain ⟨depth, rfl⟩ := Nat.exists_eq_succ_of_ne_zero (Nat.ne_of_gt (Nat.lt_of_lt_of_le some deep))
    exact value?_number ended
  | text s =>
    obtain ⟨depth, rfl⟩ := Nat.exists_eq_succ_of_ne_zero (Nat.ne_of_gt (Nat.zero_lt_of_lt deep))
    rw [chars_text, quotedChars, List.cons_append, value?, skip_of_ne rfl]
    simp only [contents?_quoted, Option.map_some, String.ofList_toList]
  | @list items each ih =>
    rw [chars_list] at deep ⊢
    obtain ⟨depth, rfl⟩ := Nat.exists_eq_succ_of_ne_zero (Nat.ne_of_gt (Nat.zero_lt_of_lt deep))
    have shorter (item : JsonValue) (member : item ∈ items) : item.chars.length ≤ depth := by
      have short := length_le_of_mem_intercalate (List.mem_map_of_mem (f := chars) member)
      simp only [List.length_cons, List.length_append] at deep
      omega
    have back : ∀ item ∈ items, ReadsBack (value? depth) chars ']' item := fun item member c rest here =>
      ih item member (shorter item member) (follows rfl c rest here)
    have read := series?_intercalate rfl (by decide) (fun item member => past?_chars (each item member)) back rest
    rw [List.cons_append, List.append_assoc, List.singleton_append, value?, skip_of_ne rfl]
    simp only [read, Option.map_some]
  | @object fields each ih =>
    rw [chars_object] at deep ⊢
    obtain ⟨depth, rfl⟩ := Nat.exists_eq_succ_of_ne_zero (Nat.ne_of_gt (Nat.zero_lt_of_lt deep))
    have shorter (field : String × JsonValue) (member : field ∈ fields) : field.2.chars.length ≤ depth := by
      have short := length_le_of_mem_intercalate (List.mem_map_of_mem (f := fieldChars) member)
      simp only [fieldChars, List.length_cons, List.length_append] at deep short
      omega
    have back : ∀ field ∈ fields, ReadsBack (field? (value? depth)) fieldChars '\x7d' field :=
      fun field member c rest here => field?_fieldChars (ih field member (shorter field member) (follows rfl c rest here))
    have opens : ∀ field ∈ fields, ∀ rest, past? '\x7d' (fieldChars field ++ rest) = none :=
      fun field _ rest => past?_of_ne rfl (by decide) _
    have read := series?_intercalate rfl (by decide) opens back rest
    rw [List.cons_append, List.append_assoc, List.singleton_append, value?, skip_of_ne rfl]
    simp only [read, Option.map_some]

theorem read?_chars {v : JsonValue} (whole : v.Whole) : read? v.chars = some v := by
  have read := @value?_chars v whole v.chars.length [] (Nat.le_refl _) (by rintro _ ⟨⟩)
  rw [List.append_nil] at read
  rw [read?, read]
  rfl

/-! ## Lines -/

theorem le_of_mem_escaped {c : Char} : ∀ d ∈ escaped c, 0x20 ≤ d.toNat := by
  unfold escaped escape?
  split
  case h_8 =>
    split
    · rename_i control
      obtain ⟨high, low, digits, _, first, second⟩ := unit?_ofByte control
      rw [Option.map_some, Option.getD_some, toList_control, digits]
      simp only [List.forall_mem_cons]
      exact ⟨by decide, by decide, by decide, by decide, first, second, List.forall_mem_nil _⟩
    · rename_i plain
      exact List.forall_mem_singleton.mpr (Nat.le_of_not_lt plain)
  all_goals exact List.all_iff_forall_prop.mp (by decide)

theorem le_of_mem_quotedChars (s : String) : ∀ c ∈ quotedChars s, 0x20 ≤ c.toNat := by
  refine List.forall_mem_cons.mpr ⟨by decide, List.forall_mem_append.mpr
    ⟨fun c member => ?_, List.forall_mem_singleton.mpr (by decide)⟩⟩
  obtain ⟨d, _, inside⟩ := List.mem_flatMap.mp member
  exact le_of_mem_escaped c inside

theorem forall_mem_intercalate {P : Char → Prop} (comma : P ',') {ls : List (List Char)}
    (each : ∀ l ∈ ls, ∀ c ∈ l, P c) : ∀ c ∈ [','].intercalate ls, P c := by
  induction ls with
  | nil => exact List.forall_mem_nil _
  | cons l ls ih =>
    obtain ⟨first, others⟩ := List.forall_mem_cons.mp each
    cases ls with
    | nil =>
      rw [List.intercalate_singleton]
      exact first
    | cons next ls =>
      rw [List.intercalate_cons_cons]
      exact List.forall_mem_append.mpr
        ⟨List.forall_mem_append.mpr ⟨first, List.forall_mem_singleton.mpr comma⟩, ih others⟩

/-- What is written for a value has no control character, so it stays on its line. -/
theorem le_of_mem_chars {v : JsonValue} (whole : v.Whole) : ∀ c ∈ v.chars, 0x20 ≤ c.toNat := by
  induction whole with
  | null => exact List.all_iff_forall_prop.mp (by decide)
  | number n =>
    intro c member
    rw [chars_number] at member
    have digit : c.isDigit = true := Nat.isDigit_of_mem_toDigits (by decide) (by decide) member
    simp only [Char.isDigit, Bool.and_eq_true, decide_eq_true_eq] at digit
    exact Nat.le_trans (by decide) digit.1
  | text s =>
    rw [chars_text]
    exact le_of_mem_quotedChars s
  | @list items each ih =>
    rw [chars_list]
    refine List.forall_mem_cons.mpr ⟨by decide, List.forall_mem_append.mpr
      ⟨forall_mem_intercalate (by decide) (List.forall_mem_map.mpr ih), List.forall_mem_singleton.mpr (by decide)⟩⟩
  | @object fields each ih =>
    rw [chars_object]
    refine List.forall_mem_cons.mpr ⟨by decide, List.forall_mem_append.mpr
      ⟨forall_mem_intercalate (by decide) (List.forall_mem_map.mpr fun field member => ?_),
        List.forall_mem_singleton.mpr (by decide)⟩⟩
    exact List.forall_mem_append.mpr ⟨le_of_mem_quotedChars field.1, List.forall_mem_cons.mpr ⟨by decide, ih field member⟩⟩

end JsonValue

end Triage
