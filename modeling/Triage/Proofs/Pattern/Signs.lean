import Triage.Proofs.Pattern.Compile
import Triage.Proofs.Regex.Texts

/-! The signs that a literal pattern is written in. In a group each of them is read as an expression of
its own, and all of them together as one literal. -/

namespace Triage.Pattern
open Regex

/-! ## How literals are written -/

/-- An element of a literal pattern as it is written. -/
inductive Sign
  | plain (c : Char)
  | byte (high low : Char)
  | code (high low : Char)
  | control (letter c : Char)
  | null
  | quote
  | itself (c : Char)

namespace Sign

/-- The letters behind a backslash that name control characters in literals and in expressions. -/
def controls : List (Char × Char) := [('n', '\n'), ('r', '\r'), ('t', '\t')]

def number (high low : Char) : Nat := (hexPair? high low).getD 0

def Fits : Sign → Prop
  | plain c => c ≠ '\\' ∧ isOperator c = false
  | byte high low | code high low => (hexPair? high low).isSome
  | control letter c => (letter, c) ∈ controls
  | null | quote => True
  | itself c => c = '\\' ∨ isOperator c

def text : Sign → List Char
  | plain c => [c]
  | byte high low => ['\\', 'z', high, low]
  | code high low => ['\\', 'x', high, low]
  | control letter _ => ['\\', letter]
  | null => ['\\', '0']
  | quote => ['\\', '"']
  | itself c => ['\\', c]

def piece : Sign → Piece
  | plain c | control _ c | itself c => .char c
  | byte high low => .byte (number high low).toUInt8
  | code high low => .char (Char.ofNat (number high low))
  | null => .char '\x00'
  | quote => .char '"'

/-- The same in the syntax of expressions. -/
def respelled : Sign → List Char
  | plain c => [c]
  | byte high low => ['(', '?', '-', 'u', ':', '\\', 'x', high, low, ')']
  | code high low => ['\\', 'x', high, low]
  | control letter _ => ['\\', letter]
  | null => ['\\', 'x', '0', '0']
  | quote => ['"']
  | itself c => ['\\', c]

def isByte : Sign → Bool
  | byte _ _ => true
  | _ => false

/-- The character that is read in an expression. -/
def literal : Sign → Literal
  | plain c | control _ c | itself c => ⟨c, false⟩
  | byte high low | code high low => ⟨Char.ofNat (number high low), true⟩
  | null => ⟨'\x00', true⟩
  | quote => ⟨'"', false⟩

/-- What is read in an expression: a raw byte stands in a group without Unicode. -/
def tree (s : Sign) : Syntax :=
  if s.isByte then .group (.plain [(.unicode, false)]) (.literal s.literal) else .literal s.literal

theorem piece_char {s : Sign} (char : s.isByte = false) : s.piece = .char s.literal.char := by
  cases s with
  | byte high low => nomatch char
  | _ => rfl

theorem piece_byte {s : Sign} (byte : s.isByte = true) : ∃ b, s.piece = .byte b := by
  cases s with
  | byte high low => exact ⟨_, rfl⟩
  | _ => nomatch byte

end Sign

/-- The number of a digit and what is known of the digit. -/
structure IsDigit (c : Char) (v : Nat) : Prop where
  ascii : c.toNat < 128
  backslash : c ≠ '\\'
  hex : isHexDigit c
  value : hexValue.hexDigitValue c = v
  bound : v < 16

theorem isDigit_of_digitValue? {c : Char} {v : Nat} (digit : digitValue? c = some v) : IsDigit c v := by
  have ranges : (48 ≤ c.toNat ∧ c.toNat ≤ 57 ∧ v = c.toNat - 48) ∨ (97 ≤ c.toNat ∧ c.toNat ≤ 102 ∧ v = c.toNat - 87) ∨
      (65 ≤ c.toNat ∧ c.toNat ≤ 70 ∧ v = c.toNat - 55) := by
    simp only [digitValue?, Char.le_def, UInt32.le_iff_toNat_le] at digit
    split at digit
    · rename_i range
      exact .inl ⟨range.1, range.2, (Option.some.inj digit).symm⟩
    · split at digit
      · rename_i range
        exact .inr (.inl ⟨range.1, range.2, (Option.some.inj digit).symm⟩)
      · split at digit
        · rename_i range
          exact .inr (.inr ⟨range.1, range.2, (Option.some.inj digit).symm⟩)
        · nomatch digit
  have digit' : c.isDigit ↔ 48 ≤ c.toNat ∧ c.toNat ≤ 57 := by
    simp [Char.isDigit, UInt32.le_iff_toNat_le]
  have lower : c.isLower ↔ 97 ≤ c.toNat ∧ c.toNat ≤ 122 := by
    unfold Char.isLower
    simp [UInt32.le_iff_toNat_le]
  refine ⟨by omega, fun same => ?_, ?_, ?_, by omega⟩
  · obtain rfl := same
    simp at ranges
  · simp only [isHexDigit, Bool.or_eq_true, Bool.and_eq_true, decide_eq_true_eq, digit', Char.le_def,
      UInt32.le_iff_toNat_le]
    change (_ ∨ 97 ≤ c.toNat ∧ c.toNat ≤ 102) ∨ 65 ≤ c.toNat ∧ c.toNat ≤ 70
    omega
  · simp only [hexValue.hexDigitValue, digit', lower]
    split
    · omega
    · split <;> omega

theorem digits_of_hexPair? {high low : Char} {n : Nat} (pair : hexPair? high low = some n) :
    ∃ a b, IsDigit high a ∧ IsDigit low b ∧ n = a * 16 + b := by
  simp only [hexPair?, Option.bind_eq_bind, Option.bind_eq_some_iff, Option.pure_def, Option.some.injEq] at pair
  obtain ⟨a, first, b, second, rfl⟩ := pair
  exact ⟨a, b, isDigit_of_digitValue? first, isDigit_of_digitValue? second, rfl⟩

theorem IsDigit.ordinary {c : Char} {v : Nat} (digit : IsDigit c v) : c ≠ '\\' ∧ isOperator c = false := by
  have other : operators.all (!isHexDigit ·) := by decide
  refine ⟨digit.backslash, Bool.eq_false_iff.mpr fun operator => ?_⟩
  have plain := List.all_eq_true.mp other c (List.contains_iff_mem.mp operator)
  rw [digit.hex] at plain
  nomatch plain

theorem isExpression_cons {c : Char} {rest : List Char} (plain : c ≠ '\\') :
    isExpression (c :: rest) = (isOperator c || isExpression rest) := by
  rw [isExpression]
  · exact fun same => absurd same plain
  · exact fun _ _ same => absurd same plain

theorem ne_backslash_of_isOperator {c : Char} (operator : isOperator c) : c ≠ '\\' := by
  rintro rfl
  nomatch operator

theorem isExpression_operator {c : Char} {rest : List Char} (operator : isOperator c) :
    isExpression (c :: rest) = true := by
  rw [isExpression_cons (ne_backslash_of_isOperator operator), operator, Bool.true_or]

/-- Text of characters without a meaning of their own. -/
def Ordinary (text : List Char) : Prop := ∀ c ∈ text, c ≠ '\\' ∧ isOperator c = false

theorem isExpression_ordinary {text rest : List Char} (ordinary : Ordinary text) :
    isExpression (text ++ rest) = isExpression rest := by
  induction text with
  | nil => rfl
  | cons c text ih =>
    obtain ⟨⟨backslash, plain⟩, ordinary⟩ := List.forall_mem_cons.mp ordinary
    rw [List.cons_append, isExpression_cons backslash, plain, Bool.false_or, ih ordinary]

theorem escapedPieces_cons {c : Char} {rest : List Char} (backslash : c ≠ '\\') :
    escapedPieces (c :: rest) = (do return .char c :: (← escapedPieces rest)) := by
  rw [escapedPieces]
  all_goals simp_all

namespace Sign
variable {s : Sign} {rest : List Char}

/-- A sign is ordinary, or an escape that literals have with ordinary digits behind it. -/
theorem text_eq (fits : s.Fits) :
    Ordinary s.text ∨ ∃ c digits, s.text = '\\' :: c :: digits ∧ isLiteralEscape c ∧ Ordinary digits := by
  have digits {high low : Char} (pair : (hexPair? high low).isSome) : Ordinary [high, low] := by
    obtain ⟨n, pair⟩ := Option.isSome_iff_exists.mp pair
    obtain ⟨a, b, first, second, -⟩ := digits_of_hexPair? pair
    simp [Ordinary, first.ordinary, second.ordinary]
  cases s with
  | plain c => exact .inl (by simpa [Ordinary, text] using show c ≠ '\\' ∧ isOperator c = false from fits)
  | byte high low => exact .inr ⟨_, _, rfl, rfl, digits fits⟩
  | code high low => exact .inr ⟨_, _, rfl, rfl, digits fits⟩
  | control letter c =>
    refine .inr ⟨letter, [], rfl, ?_, by simp [Ordinary]⟩
    simp only [Fits, controls, List.mem_cons, Prod.mk.injEq, List.not_mem_nil, or_false] at fits
    rcases fits with ⟨rfl, -⟩ | ⟨rfl, -⟩ | ⟨rfl, -⟩ <;> rfl
  | null | quote => exact .inr ⟨_, [], rfl, rfl, by simp [Ordinary]⟩
  | itself c =>
    refine .inr ⟨c, [], rfl, ?_, by simp [Ordinary]⟩
    rcases fits with rfl | operator
    · rfl
    · simp [isLiteralEscape, operator]

theorem isExpression_eq (fits : s.Fits) : isExpression (s.text ++ rest) = isExpression rest := by
  rcases text_eq fits with ordinary | ⟨c, digits, same, known, ordinary⟩
  · exact isExpression_ordinary ordinary
  · rw [same]
    change (!isLiteralEscape c || isExpression (digits ++ rest)) = _
    rw [known, Bool.not_true, Bool.false_or, isExpression_ordinary ordinary]

theorem escapedPieces_eq (fits : s.Fits) :
    escapedPieces (s.text ++ rest) = (do return s.piece :: (← escapedPieces rest)) := by
  cases s with
  | plain c => exact escapedPieces_cons fits.1
  | byte high low =>
    obtain ⟨n, pair⟩ := Option.isSome_iff_exists.mp fits
    change escapedPieces ('\\' :: 'z' :: high :: low :: rest) = _
    simp only [escapedPieces, pair, piece, number, Option.getD_some]
  | code high low =>
    obtain ⟨n, pair⟩ := Option.isSome_iff_exists.mp fits
    change escapedPieces ('\\' :: 'x' :: high :: low :: rest) = _
    simp only [escapedPieces, pair, piece, number, Option.getD_some]
  | control letter c =>
    simp only [Fits, controls, List.mem_cons, Prod.mk.injEq, List.not_mem_nil, or_false] at fits
    rcases fits with ⟨rfl, rfl⟩ | ⟨rfl, rfl⟩ | ⟨rfl, rfl⟩ <;> rfl
  | null | quote => rfl
  | itself c =>
    have itself : c = '\\' ∨ isOperator c := fits
    have other : c ≠ 'z' ∧ c ≠ 'x' ∧ c ≠ 'n' ∧ c ≠ 'r' ∧ c ≠ 't' ∧ c ≠ '0' := by
      refine ⟨?_, ?_, ?_, ?_, ?_, ?_⟩ <;> rintro rfl <;> exact absurd itself (by decide)
    change escapedPieces ('\\' :: c :: rest) = _
    rw [escapedPieces, if_neg (by simp [other]), if_pos (itself.imp_right .inr)]
    · rfl
    all_goals simp_all

end Sign

/-- The text begins with what a fault of literals is named for. -/
def Begins : EscapeFault → List Char → Prop
  | .trailingBackslash, text => text = ['\\']
  | .hexDigits, text => ∃ letter rest, text = '\\' :: letter :: rest ∧ (letter = 'z' ∨ letter = 'x') ∧
      ∀ high low more, rest = high :: low :: more → hexPair? high low = none
  | .unknown c, text => ∃ rest, text = '\\' :: c :: rest ∧ isLiteralEscape c = false
  | .rawByteInWide, _ | .rawByteInClass, _ => False

theorem escapedPieces_of_begins {fault : EscapeFault} {text : List Char} (begins : Begins fault text) :
    escapedPieces text = .error fault := by
  cases fault with
  | trailingBackslash =>
    obtain rfl : text = ['\\'] := begins
    rfl
  | hexDigits =>
    obtain ⟨letter, rest, rfl, is, digitless⟩ := begins
    match rest with
    | [] | [_] => rcases is with rfl | rfl <;> rfl
    | high :: low :: more =>
      have none := digitless high low more rfl
      rcases is with rfl | rfl <;> simp only [escapedPieces, none]
  | unknown c =>
    obtain ⟨rest, rfl, unknown⟩ := begins
    simp only [isLiteralEscape, List.contains_cons, List.contains_nil, Bool.or_eq_false_iff,
      beq_eq_false_iff_ne] at unknown
    rw [escapedPieces, if_neg (by simp [unknown]), if_neg (by simp [unknown])]
    all_goals simp_all
  | rawByteInWide | rawByteInClass => exact begins.elim

/-- How a text is read: by signs, by operators that nothing escapes, up to its end or to what is wrong with it. -/
inductive Reading : List Char → Prop
  | done : Reading []
  | operator {c : Char} {rest : List Char} : isOperator c → Reading rest → Reading (c :: rest)
  | sign {s : Sign} {rest : List Char} : s.Fits → Reading rest → Reading (s.text ++ rest)
  | fault (fault : EscapeFault) {text : List Char} : Begins fault text → Reading text

theorem reading (text : List Char) : Reading text := by
  have pair {high low : Char} {n : Nat} (pair : hexPair? high low = some n) : (hexPair? high low).isSome := by
    rw [pair]
    rfl
  have digitless {letter high low : Char} {rest : List Char} (is : letter = 'z' ∨ letter = 'x')
      (none : hexPair? high low = none) : Reading ('\\' :: letter :: high :: low :: rest) := by
    refine .fault .hexDigits ⟨letter, _, rfl, is, ?_⟩
    intro _ _ _ same
    obtain ⟨rfl, others⟩ := List.cons.inj same
    obtain ⟨rfl, -⟩ := List.cons.inj others
    exact none
  induction text using escapedPieces.induct with
  | case1 => exact .done
  | case2 => exact .fault .trailingBackslash rfl
  | case3 high low rest n digits ih => exact .sign (s := .byte high low) (pair digits) ih
  | case4 high low rest none => exact digitless (.inl rfl) none
  | case5 high low rest n digits ih => exact .sign (s := .code high low) (pair digits) ih
  | case6 high low rest none => exact digitless (.inr rfl) none
  | case7 rest ih => exact .sign (s := .control 'n' '\n') (by simp [Sign.Fits, Sign.controls]) ih
  | case8 rest ih => exact .sign (s := .control 'r' '\r') (by simp [Sign.Fits, Sign.controls]) ih
  | case9 rest ih => exact .sign (s := .control 't' '\t') (by simp [Sign.Fits, Sign.controls]) ih
  | case10 rest ih => exact .sign (s := .null) trivial ih
  | case11 c rest notByte notCode n r t zero letter =>
    refine .fault .hexDigits ⟨c, rest, rfl, letter, ?_⟩
    rintro high low more rfl
    rcases letter with rfl | rfl
    · exact (notByte high low more rfl rfl).elim
    · exact (notCode high low more rfl rfl).elim
  | case12 c rest notByte notCode n r t zero noLetter itself ih =>
    by_cases quote : c = '"'
    · subst quote
      exact .sign (s := .quote) trivial ih
    · exact .sign (s := .itself c) (by simpa [Sign.Fits, quote] using itself) ih
  | case13 c rest notByte notCode n r t zero noLetter unknown =>
    refine .fault (.unknown c) ⟨rest, rfl, ?_⟩
    simp_all [isLiteralEscape]
  | case14 c rest ends _ _ _ _ _ _ escape ih =>
    have backslash : c ≠ '\\' := by
      rintro rfl
      cases rest with
      | nil => exact ends rfl rfl
      | cons d rest => exact escape d rest rfl rfl
    by_cases operator : isOperator c
    · exact .operator operator ih
    · exact .sign (s := .plain c) ⟨backslash, by simpa using operator⟩ ih

/-- The signs of a text and their pieces. -/
def Spells (signs : List Sign) (text : List Char) (ps : List Piece) : Prop :=
  (∀ s ∈ signs, s.Fits) ∧ text = signs.flatMap Sign.text ∧ ps = signs.map Sign.piece

theorem Spells.cons {signs : List Sign} {rest : List Char} {ps : List Piece} (spells : Spells signs rest ps)
    {s : Sign} (fits : s.Fits) : Spells (s :: signs) (s.text ++ rest) (s.piece :: ps) := by
  obtain ⟨each, rfl, rfl⟩ := spells
  exact ⟨List.forall_mem_cons.mpr ⟨fits, each⟩, rfl, rfl⟩

theorem escaped_ok {rest : List Char} {p : Piece} {ps : List Piece}
    (read : (do return p :: (← escapedPieces rest)) = Except.ok ps) :
    ∃ more, escapedPieces rest = .ok more ∧ ps = p :: more := by
  obtain ⟨more, tail, same⟩ := bind_eq_ok.mp read
  exact ⟨more, tail, (Except.ok.inj same).symm⟩

/-- Where no operator stands but behind a backslash, each piece is written by a sign. -/
theorem exists_signs {text : List Char} {ps : List Piece} (read : escapedPieces text = .ok ps)
    (literal : isExpression text = false) : ∃ signs, Spells signs text ps := by
  induction reading text generalizing ps with
  | done =>
    obtain rfl := Except.ok.inj read
    exact ⟨[], by simp, rfl, rfl⟩
  | operator operator _ _ =>
    rw [isExpression_operator operator] at literal
    nomatch literal
  | sign fits _ ih =>
    rw [Sign.escapedPieces_eq fits] at read
    obtain ⟨more, tail, rfl⟩ := escaped_ok read
    obtain ⟨signs, spells⟩ := ih tail (Sign.isExpression_eq fits ▸ literal)
    exact ⟨_, spells.cons fits⟩
  | fault _ begins =>
    rw [escapedPieces_of_begins begins] at read
    nomatch read

/-! ## Escapes spelled out -/

theorem spell_plain {wide : Bool} {c : Char} {rest out : List Char} (backslash : c ≠ '\\') (opening : c ≠ '[')
    (closing : c ≠ ']') (spelled : spellEscapesFrom wide 0 rest = .ok out) :
    spellEscapesFrom wide 0 (c :: rest) = .ok (c :: out) := by
  rw [spellEscapesFrom, spelled]
  · rfl
  all_goals simp_all

theorem IsDigit.spell {wide : Bool} {c : Char} {v : Nat} {rest out : List Char} (digit : IsDigit c v)
    (spelled : spellEscapesFrom wide 0 rest = .ok out) : spellEscapesFrom wide 0 (c :: rest) = .ok (c :: out) := by
  refine spell_plain digit.backslash (fun same => ?_) (fun same => ?_) spelled
  · exact absurd (same ▸ digit.hex) (by decide)
  · exact absurd (same ▸ digit.hex) (by decide)

/-- Most escapes stay as they are. -/
theorem spell_escape {wide : Bool} {c : Char} {rest out : List Char} (byte : c ≠ 'z') (quote : c ≠ '"') (null : c ≠ '0')
    (spelled : spellEscapesFrom wide 0 rest = .ok out) :
    spellEscapesFrom wide 0 ('\\' :: c :: rest) = .ok ('\\' :: c :: out) := by
  rw [spellEscapesFrom, spelled]
  · rfl
  all_goals simp_all

theorem spell_sign {wide : Bool} {s : Sign} {rest out : List Char} (fits : s.Fits) (narrow : wide → s.isByte = false)
    (spelled : spellEscapesFrom wide 0 rest = .ok out) :
    spellEscapesFrom wide 0 (s.text ++ rest) = .ok (s.respelled ++ out) := by
  cases s with
  | plain c =>
    obtain ⟨backslash, literal⟩ := fits
    refine spell_plain backslash (fun same => ?_) (fun same => ?_) spelled
    · exact absurd (same ▸ literal) (by decide)
    · exact absurd (same ▸ literal) (by decide)
  | byte high low =>
    have narrow : wide = false := by simpa [Sign.isByte] using narrow
    subst narrow
    change spellEscapesFrom false 0 ('\\' :: 'z' :: high :: low :: rest) = _
    have pair : (hexPair? high low).isSome := fits
    rw [spellEscapesFrom]
    simp only [rawByteFault?, pair, spelled]
    rfl
  | code high low =>
    obtain ⟨n, pair⟩ := Option.isSome_iff_exists.mp fits
    obtain ⟨a, b, first, second, -⟩ := digits_of_hexPair? pair
    exact spell_escape (by decide) (by decide) (by decide) (first.spell (second.spell spelled))
  | control letter c =>
    simp only [Sign.Fits, Sign.controls, List.mem_cons, Prod.mk.injEq, List.not_mem_nil, or_false] at fits
    refine spell_escape ?_ ?_ ?_ spelled <;> rcases fits with ⟨rfl, -⟩ | ⟨rfl, -⟩ | ⟨rfl, -⟩ <;> decide
  | null =>
    change spellEscapesFrom wide 0 ('\\' :: '0' :: rest) = _
    rw [spellEscapesFrom, spelled]
    rfl
  | quote =>
    change spellEscapesFrom wide 0 ('\\' :: '"' :: rest) = _
    rw [spellEscapesFrom, spelled]
    rfl
  | itself c =>
    have escapes : c = '\\' ∨ isOperator c := fits
    refine spell_escape ?_ ?_ ?_ spelled <;> rintro rfl <;> exact absurd escapes (by decide)

/-- The text of signs within parentheses. -/
theorem spell_signs {wide : Bool} {signs : List Sign} {rest out : List Char} (fits : ∀ s ∈ signs, s.Fits)
    (narrow : wide → ∀ s ∈ signs, s.isByte = false) (spelled : spellEscapesFrom wide 0 rest = .ok out) :
    spellEscapesFrom wide 0 (signs.flatMap Sign.text ++ rest) = .ok (signs.flatMap Sign.respelled ++ out) := by
  induction signs with
  | nil => exact spelled
  | cons s signs ih =>
    obtain ⟨first, others⟩ := List.forall_mem_cons.mp fits
    rw [List.flatMap_cons, List.flatMap_cons, List.append_assoc, List.append_assoc]
    refine spell_sign first (fun is => (List.forall_mem_cons.mp (narrow is)).1) (ih others fun is => ?_)
    exact (List.forall_mem_cons.mp (narrow is)).2

/-! ## Expressions read -/

section reading
variable {fuel : Nat} {branches parts : List Syntax} {rest : List Char} {names : List (List Char)} {groups : Nat}

theorem run_current (c : Char) (rest : List Char) :
    Read.current.run { rest := c :: rest, names, groups } = some (c, { rest := c :: rest, names, groups }) := rfl

theorem run_step (c : Char) (rest : List Char) :
    Read.step.run { rest := c :: rest, names, groups } = some ((), { rest, names, groups }) := rfl

theorem run_readHexDigits {high low : Char} (first : isHexDigit high) (second : isHexDigit low) :
    (readHexDigits 2).run { rest := high :: low :: rest, names, groups } = some ([high, low], { rest, names, groups }) := by
  simp only [readHexDigits, StateT.run_bind, run_current, run_step, first, second, guard_true, StateT.run_pure,
    Option.pure_def, Option.bind_eq_bind, Option.bind_some]

theorem run_readHexEscape {high low : Char} {n : Nat} (pair : hexPair? high low = some n) :
    readHexEscape.run { rest := 'x' :: high :: low :: rest, names, groups } =
      some (⟨Char.ofNat n, true⟩, { rest, names, groups }) := by
  obtain ⟨a, b, first, second, rfl⟩ := digits_of_hexPair? pair
  have brace : (high == '\x7b') = false := by
    refine beq_eq_false_iff_ne.mpr fun same => ?_
    exact absurd (same ▸ first.hex) (by decide)
  have value : hexValue [high, low] = a * 16 + b := by
    simp [hexValue, first.value, second.value]
  have valid : (a * 16 + b).isValidChar := by
    have bounds := first.bound
    have bounds' := second.bound
    exact .inl (by omega)
  have digits : (readHexDigits 2).run { rest := high :: low :: rest, names, groups } = _ :=
    run_readHexDigits first.hex second.hex
  simp only [readHexEscape, StateT.run_bind, run_current, run_step, Option.bind_eq_bind, Option.bind_some, brace,
    Bool.false_eq_true, if_false, BEq.rfl, if_true, digits, value, charOfCode?, valid]
  rfl

theorem run_readPrimitive_plain {c : Char} (backslash : c ≠ '\\') (plain : isOperator c = false) :
    readPrimitive.run { rest := c :: rest, names, groups } = some (.literal ⟨c, false⟩, { rest, names, groups }) := by
  have other : c ≠ '.' ∧ c ≠ '^' ∧ c ≠ '$' := by
    refine ⟨?_, ?_, ?_⟩ <;> rintro rfl <;> exact absurd plain (by decide)
  rw [readPrimitive]
  simp only [StateT.run_bind, run_current, Option.bind_eq_bind, Option.bind_some]
  split
  · exact absurd rfl backslash
  · exact absurd rfl other.1
  · exact absurd rfl other.2.1
  · exact absurd rfl other.2.2
  · rfl

theorem run_readPrimitive_code {high low : Char} (pair : (hexPair? high low).isSome) :
    readPrimitive.run { rest := '\\' :: 'x' :: high :: low :: rest, names, groups } =
      some (.literal ⟨Char.ofNat (Sign.number high low), true⟩, { rest, names, groups }) := by
  obtain ⟨n, pair⟩ := Option.isSome_iff_exists.mp pair
  change (readHexEscape.run { rest := 'x' :: high :: low :: rest, names, groups }).bind
    (fun (l, r) => some (Primitive.literal l, r)) = _
  rw [run_readHexEscape pair, Sign.number, pair]
  rfl

/-- A sign that is no raw byte is one character of the expression. -/
theorem run_readPrimitive_sign {s : Sign} (fits : s.Fits) (char : s.isByte = false) :
    readPrimitive.run { rest := s.respelled ++ rest, names, groups } =
      some (.literal s.literal, { rest, names, groups }) := by
  cases s with
  | plain c => exact run_readPrimitive_plain fits.1 fits.2
  | byte high low => nomatch char
  | code high low => exact run_readPrimitive_code fits
  | control letter c =>
    simp only [Sign.Fits, Sign.controls, List.mem_cons, Prod.mk.injEq, List.not_mem_nil, or_false] at fits
    rcases fits with ⟨rfl, rfl⟩ | ⟨rfl, rfl⟩ | ⟨rfl, rfl⟩ <;> rfl
  | null => rfl
  | quote => rfl
  | itself c =>
    simp only [Sign.Fits, isOperator, operators, List.contains_cons, List.contains_nil, Bool.or_eq_true, beq_iff_eq,
      Bool.or_false] at fits
    rcases fits with rfl | rfl | rfl | rfl | rfl | rfl | rfl | rfl | rfl | rfl | rfl | rfl | rfl | rfl <;> rfl

/-- Any other character than an operator starts a part that is one token. -/
theorem readBranches_primitive {c : Char} (plain : isOperator c = false) :
    (readBranches (fuel + 1) branches parts).run { rest := c :: rest, names, groups } =
      (readPrimitive.run { rest := c :: rest, names, groups }).bind fun (p, r) =>
        (readBranches fuel branches (p.toSyntax :: parts)).run r := by
  have skip : Read.blanks.run { rest := c :: rest, names, groups } = some ((), { rest := c :: rest, names, groups }) := rfl
  have ahead : Read.rest.run { rest := c :: rest, names, groups } =
      some (c :: rest, { rest := c :: rest, names, groups }) := rfl
  rw [readBranches]
  simp only [StateT.run_bind, skip, ahead, Option.bind_eq_bind, Option.bind_some]
  split
  case h_10 => rfl
  case h_1 same => nomatch same
  all_goals
    rename_i same
    obtain rfl := (List.cons.inj same).1
    exact absurd plain (by decide)

theorem readBranches_close : (readBranches (fuel + 1) branches parts).run { rest := ')' :: rest, names, groups } =
    some (Syntax.ofBranches (Syntax.ofParts parts.reverse :: branches).reverse,
      { rest := ')' :: rest, names, groups }) := rfl

/-- What follows the body of a group that has been read. -/
def closeGroup (fuel : Nat) (branches parts : List Syntax) (change : FlagChange) :
    Syntax × Regex.Reader → Option (Syntax × Regex.Reader)
  | (body, r) => do
    let (_, r) ← (Read.expect ')').run r
    (readBranches fuel branches (.group (.plain change) body :: parts)).run
      { r with skipBlanks := false, rest := r.rest.drop 1 }

theorem readBranches_group (rest : List Char) :
    (readBranches (fuel + 1) branches parts).run { rest := '(' :: '?' :: ':' :: rest, names, groups } =
      ((readBranches fuel [] []).run { rest, names, groups }).bind (closeGroup fuel branches parts []) := rfl

theorem readBranches_bytes (rest : List Char) :
    (readBranches (fuel + 1) branches parts).run { rest := '(' :: '?' :: '-' :: 'u' :: ':' :: rest, names, groups } =
      ((readBranches fuel [] []).run { rest, names, groups }).bind
        (closeGroup fuel branches parts [(.unicode, false)]) := rfl

theorem run_closeGroup (change : FlagChange) (body : Syntax) :
    closeGroup fuel branches parts change (body, { rest := ')' :: rest, names, groups }) =
      (readBranches fuel branches (.group (.plain change) body :: parts)).run { rest, names, groups } := rfl

/-- A sign is a part of its own. -/
theorem readBranches_sign {s : Sign} (fits : s.Fits) :
    (readBranches (fuel + 3) branches parts).run { rest := s.respelled ++ rest, names, groups } =
      (readBranches (fuel + 2) branches (s.tree :: parts)).run { rest, names, groups } := by
  cases isByte : s.isByte with
  | true =>
    cases s with
    | byte high low =>
      have inner : (readBranches (fuel + 2) [] []).run { rest := '\\' :: 'x' :: high :: low :: ')' :: rest, names, groups } =
          some (.literal ⟨Char.ofNat (Sign.number high low), true⟩, { rest := ')' :: rest, names, groups }) := by
        rw [readBranches_primitive (by decide), run_readPrimitive_code fits]
        rfl
      refine (readBranches_bytes ('\\' :: 'x' :: high :: low :: ')' :: rest)).trans ?_
      rw [inner]
      rfl
    | _ => nomatch isByte
  | false =>
    obtain ⟨c, more, first, plain⟩ : ∃ c more, s.respelled = c :: more ∧ isOperator c = false := by
      cases s with
      | plain c => exact ⟨c, [], rfl, fits.2⟩
      | byte _ _ => nomatch isByte
      | quote => exact ⟨'"', [], rfl, by decide⟩
      | _ => exact ⟨'\\', _, rfl, by decide⟩
    have read : readPrimitive.run { rest := s.respelled ++ rest, names, groups } = _ := run_readPrimitive_sign fits isByte
    rw [first, List.cons_append] at read ⊢
    rw [readBranches_primitive plain, read, Sign.tree, isByte]
    rfl

theorem readBranches_signs {signs : List Sign} (fits : ∀ s ∈ signs, s.Fits) :
    (readBranches (fuel + signs.length + 2) branches parts).run { rest := signs.flatMap Sign.respelled ++ ')' :: rest } =
      some (Syntax.ofBranches (Syntax.ofParts (parts.reverse ++ signs.map Sign.tree) :: branches).reverse,
        { rest := ')' :: rest }) := by
  induction signs generalizing parts with
  | nil =>
    rw [List.map_nil, List.append_nil]
    exact readBranches_close
  | cons s signs ih =>
    obtain ⟨first, others⟩ := List.forall_mem_cons.mp fits
    rw [List.flatMap_cons, List.append_assoc, List.length_cons, ← Nat.add_assoc,
      readBranches_sign first, ih others]
    simp

theorem readBranches_end : (readBranches (fuel + 1) branches parts).run { rest := [] } =
    some (Syntax.ofBranches (Syntax.ofParts parts.reverse :: branches).reverse, { rest := [] }) := rfl

theorem depth_tree (s : Sign) : s.tree.depth ≤ 1 := by
  unfold Sign.tree
  split <;> simp [Syntax.depth]

theorem depth_trees (signs : List Sign) : Syntax.depthOfList (signs.map Sign.tree) ≤ 1 := by
  induction signs with
  | nil => simp [Syntax.depthOfList]
  | cons s signs ih => simpa [Syntax.depthOfList] using ⟨depth_tree s, ih⟩

theorem depth_ofParts (signs : List Sign) : (Syntax.ofParts (signs.map Sign.tree)).depth ≤ 2 := by
  have each := depth_trees signs
  unfold Syntax.ofParts
  split
  · simp [Syntax.depth]
  · rename_i same
    rw [same] at each
    simp only [Syntax.depthOfList] at each
    omega
  · simp only [Syntax.depth]
    omega

theorem length_le_respelled (signs : List Sign) : signs.length ≤ (signs.flatMap Sign.respelled).length := by
  induction signs with
  | nil => exact Nat.le_refl _
  | cons s signs ih =>
    have some : 1 ≤ s.respelled.length := by cases s <;> simp [Sign.respelled]
    rw [List.flatMap_cons, List.length_append, List.length_cons]
    omega

/-- Signs in a group are read one by one. -/
theorem parse?_signs {signs : List Sign} (fits : ∀ s ∈ signs, s.Fits) :
    parse? ('(' :: '?' :: ':' :: (signs.flatMap Sign.respelled ++ [')'])) =
      some (.group (.plain []) (Syntax.ofParts (signs.map Sign.tree))) := by
  obtain ⟨k, count⟩ := Nat.exists_eq_add_of_le (length_le_respelled signs)
  have length : ('(' :: '?' :: ':' :: (signs.flatMap Sign.respelled ++ [')'])).length + 1 =
      k + 2 + signs.length + 2 + 1 := by
    rw [List.length_cons, List.length_cons, List.length_cons, List.length_append, List.length_singleton, count]
    omega
  have inner : (readBranches (k + 2 + signs.length + 2) [] []).run { rest := signs.flatMap Sign.respelled ++ [')'] } =
      some (Syntax.ofParts (signs.map Sign.tree), { rest := [')'] }) := readBranches_signs fits
  have depth := depth_ofParts signs
  rw [parse?, length, readBranches_group, inner, Option.bind_some, run_closeGroup, readBranches_end]
  let tree := Syntax.group (.plain []) (Syntax.ofParts (signs.map Sign.tree))
  have shallow : tree.depth ≤ Syntax.depthLimit := by
    simp only [tree, Syntax.depth, Syntax.depthLimit]
    omega
  change (guard (tree.depth ≤ Syntax.depthLimit) >>= fun _ => some tree) = some tree
  rw [guard, if_pos shallow]
  rfl

end reading

/-! ## What is read -/

/-- The bytes of a piece where characters have the given code. -/
def Piece.bytes (code : Coding) : Piece → List UInt8
  | .char c => code c
  | .byte b => [b]

theorem utf8_of_ascii {c : Char} (ascii : c.toNat < 128) : utf8 c = [c.toNat.toUInt8] := by
  unfold utf8 String.utf8EncodeChar
  dsimp only
  rw [if_pos (show c.val.toNat ≤ 127 from Nat.le_of_lt_succ ascii)]
  rfl

theorem toNat_of_hexPair? {high low : Char} {n : Nat} (pair : hexPair? high low = some n) :
    (Char.ofNat n).toNat = n := by
  obtain ⟨a, b, first, second, rfl⟩ := digits_of_hexPair? pair
  have bounds := first.bound
  have bounds' := second.bound
  exact Utf8.toNat_ofNat_of_valid (.inl (by omega))

section meaning
variable {flags : Flags}

/-- A character reads as its UTF-8 form, unless it stands for a byte. -/
theorem literal_char {l : Literal} (sharp : flags.ignoreCase = false)
    (char : flags.unicode = true ∨ l.char.toNat < 128) : flags.literal l = .literal (utf8 l.char) := by
  have none : l.byte? flags = none := by
    rcases char with unicode | ascii
    · simp [Literal.byte?, unicode]
    · have small : ¬127 < l.char.toNat := by omega
      simp [Literal.byte?, small]
  simp [Flags.literal, none, sharp, Expr.ofChar, utf8]

/-- Without Unicode the escape of a byte reads as the byte. -/
theorem literal_byte {n : Nat} (bytes : flags.unicode = false) (sharp : flags.ignoreCase = false)
    (valid : (Char.ofNat n).toNat = n) : flags.literal ⟨Char.ofNat n, true⟩ = .literal [n.toUInt8] := by
  by_cases ascii : n < 128
  · rw [literal_char sharp (.inr (valid.symm ▸ ascii)), utf8_of_ascii (valid.symm ▸ ascii), valid]
  · have large : 127 < n := by omega
    simp [Flags.literal, Literal.byte?, bytes, valid, large]

theorem elaborate?_sign {s : Sign} (fits : s.Fits) (sharp : flags.ignoreCase = false)
    (char : flags.unicode = true ∨ ∀ c, s.piece = .char c → c.toNat < 128) :
    s.tree.elaborate? flags = some (.literal (s.piece.bytes utf8), flags) := by
  cases isByte : s.isByte with
  | true =>
    cases s with
    | byte high low =>
      obtain ⟨n, pair⟩ := Option.isSome_iff_exists.mp fits
      let inner := flags.update [(.unicode, false)]
      have read : inner.literal ⟨Char.ofNat n, true⟩ = .literal [n.toUInt8] :=
        literal_byte rfl sharp (toNat_of_hexPair? pair)
      simp only [Sign.tree, Sign.isByte, if_true, Syntax.elaborate?, Sign.literal, Sign.piece, Sign.number, pair,
        Option.getD_some]
      rw [read]
      rfl
    | _ => nomatch isByte
  | false =>
    have same := Sign.piece_char isByte
    have read := literal_char sharp (char.imp_right fun ascii => ascii _ same)
    simp only [Sign.tree, isByte, Bool.false_eq_true, if_false, Syntax.elaborate?, read, same]
    rfl

theorem elaborateList?_signs {signs : List Sign} (fits : ∀ s ∈ signs, s.Fits) (sharp : flags.ignoreCase = false)
    (char : flags.unicode = true ∨ ∀ c, .char c ∈ signs.map Sign.piece → c.toNat < 128) :
    Syntax.elaborateList? flags (signs.map Sign.tree) =
      some ((signs.map fun s => s.piece.bytes utf8).map .literal, flags) := by
  induction signs with
  | nil => rfl
  | cons s signs ih =>
    obtain ⟨first, others⟩ := List.forall_mem_cons.mp fits
    have here := elaborate?_sign first sharp <| char.imp_right fun ascii c same =>
      ascii c (List.mem_map.mpr ⟨s, List.mem_cons_self, same⟩)
    have later := ih others <| char.imp_right fun ascii c member => ascii c (List.mem_cons_of_mem _ member)
    rw [List.map_cons, Syntax.elaborateList?, here, Option.bind_eq_bind, Option.bind_some]
    dsimp only
    rw [later]
    rfl

theorem joinLiterals_literals (held : List UInt8) (words : List (List UInt8)) :
    Expr.joinLiterals held (words.map .literal) =
      if (held ++ words.flatten).isEmpty then [] else [.literal (held ++ words.flatten)] := by
  induction words generalizing held with
  | nil => simp [Expr.joinLiterals]
  | cons word words ih => simp [Expr.joinLiterals, ih]

theorem concat_literals {words : List (List UInt8)} (some : words.flatten ≠ []) :
    Expr.concat (words.map .literal) = .literal words.flatten := by
  have factors : (words.map Expr.literal).flatMap Expr.factors = words.map .literal := by
    rw [List.flatMap_map]
    exact List.flatMap_pure_eq_map Expr.literal words
  rw [Expr.concat, factors, joinLiterals_literals, List.nil_append, if_neg (by simpa using some)]
  rfl

/-- All signs together read as one literal. -/
theorem elaborate?_signs {signs : List Sign} (fits : ∀ s ∈ signs, s.Fits) (sharp : flags.ignoreCase = false)
    (char : flags.unicode = true ∨ ∀ c, .char c ∈ signs.map Sign.piece → c.toNat < 128)
    (some : (signs.map Sign.piece).flatMap (Piece.bytes utf8) ≠ []) :
    (Syntax.ofParts (signs.map Sign.tree)).elaborate? flags =
      .some (.literal ((signs.map Sign.piece).flatMap (Piece.bytes utf8)), flags) := by
  have all := elaborateList?_signs fits sharp char
  match signs with
  | [] => exact absurd rfl some
  | [s] =>
    have one := elaborate?_sign (fits s List.mem_cons_self) sharp <| char.imp_right fun ascii c same =>
      ascii c (List.mem_map.mpr ⟨s, List.mem_cons_self, same⟩)
    simpa [Syntax.ofParts] using one
  | s :: t :: signs =>
    have flat : ((s :: t :: signs).map fun s => s.piece.bytes utf8).flatten =
        ((s :: t :: signs).map Sign.piece).flatMap (Piece.bytes utf8) := by
      rw [List.flatMap_map]
      rfl
    rw [← flat] at some ⊢
    change Syntax.elaborate? flags (.concat ((s :: t :: signs).map Sign.tree)) = _
    rw [Syntax.elaborate?, all, ← concat_literals some]
    rfl

/-- A literal in a group is an expression that is one literal. -/
theorem expressionOf?_signs {unicode : Bool} {signs : List Sign} (fits : ∀ s ∈ signs, s.Fits)
    (char : unicode = true ∨ ∀ c, .char c ∈ signs.map Sign.piece → c.toNat < 128)
    (some : (signs.map Sign.piece).flatMap (Piece.bytes utf8) ≠ []) :
    expressionOf? unicode false ('(' :: '?' :: ':' :: (signs.flatMap Sign.respelled ++ [')'])) =
      .some (.literal ((signs.map Sign.piece).flatMap (Piece.bytes utf8))) := by
  let flags : Flags := { unicode, ignoreCase := false }
  have body : Syntax.elaborate? flags _ = _ := elaborate?_signs fits rfl char some
  have update : flags.update [] = flags := rfl
  rw [expressionOf?, parse?_signs fits, Option.bind_eq_bind, Option.bind_some, Syntax.elaborate?, update, body]
  rfl

end meaning

end Triage.Pattern
