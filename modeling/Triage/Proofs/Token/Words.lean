import Triage.Token.Scan

/-! The words of a text: its tokens without their places. A word's text fits its kind, and only in the
list behind `encodings` may an identifier be anything else than a name that is no keyword. -/

namespace Triage

structure Word where
  kind : TokenKind
  text : String
deriving DecidableEq, Repr

def Token.word (t : Token) : Word := ⟨t.kind, t.text⟩

@[simp] theorem Token.word_kind (t : Token) : t.word.kind = t.kind := rfl

@[simp] theorem Token.word_text (t : Token) : t.word.text = t.text := rfl

namespace Lexer

/-- A name that is no keyword. -/
structure Identifier (text : List Char) : Prop where
  starts : ∃ c rest, text = c :: rest ∧ startsIdentifier c
  continues : text.all continuesIdentifier
  free : Keyword.spelled? (String.ofList text) = none

instance (text : List Char) : Decidable (Identifier text) :=
  decidable_of_iff (text.head?.any startsIdentifier ∧ text.all continuesIdentifier ∧
    Keyword.spelled? (String.ofList text) = none) <| by
    constructor
    · rintro ⟨starts, continues, free⟩
      cases text with
      | nil => nomatch starts
      | cons c rest => exact ⟨⟨c, rest, rfl, starts⟩, continues, free⟩
    · rintro ⟨⟨c, rest, rfl, starts⟩, continues, free⟩
      exact ⟨starts, continues, free⟩

/-- A run of the characters that names of encodings are made of. -/
def EncodingName (text : List Char) : Prop := text ≠ [] ∧ text.all continuesEncoding

instance (text : List Char) : Decidable (EncodingName text) :=
  inferInstanceAs (Decidable (text ≠ [] ∧ text.all continuesEncoding))

/-- What the words before it make of a word: within a list of encodings an equal sign is due, then a
name, which a comma may follow. -/
inductive Stretch
  | plain | equal | name | named
deriving DecidableEq, Repr

def Stretch.after : Stretch → TokenKind → Stretch
  | _, .keyword .encodings => .equal
  | .equal, .equal => .name
  | .name, .identifier => .named
  | .named, .comma => .name
  | _, _ => .plain

end Lexer

open Lexer

/-- Whether a word is spelled as its kind demands. -/
def Word.Spelled (w : Word) (m : Stretch) : Prop :=
  match w.kind with
  | .identifier => if m = .name then EncodingName w.text.toList else Identifier w.text.toList
  | .number => w.text.toList ≠ [] ∧ w.text.toList.all isDigit
  | .string => True
  | .endOfFile => False
  | k => w.text = k.literal

def Spelled : Stretch → List Word → Prop
  | _, [] => True
  | m, w :: ws => w.Spelled m ∧ Spelled (m.after w.kind) ws

namespace Lexer

def Piece.word? : Piece → Option Word
  | .blank _ | .comment _ => none
  | .token kind text => some ⟨kind, String.ofList text⟩
  | .quoted text => some ⟨.string, String.ofList text⟩

def words (pieces : List Piece) : List Word := pieces.filterMap Piece.word?

theorem words_append (a b : List Piece) : words (a ++ b) = words a ++ words b :=
  List.filterMap_append

theorem words_blanks (text : List Char) : words (blanks text) = [] := by
  unfold blanks
  split <;> rfl

theorem map_word_locate (p : Place) (pieces : List Piece) :
    (locate p pieces).map Token.word = words pieces := by
  induction pieces generalizing p with
  | nil => rfl
  | cons piece more ih =>
    rw [locate, List.map_append, ih]
    cases piece <;> rfl

/-! ## Characters -/

theorem isDigit_iff {c : Char} : isDigit c ↔ 48 ≤ c.toNat ∧ c.toNat ≤ 57 := by
  simp [isDigit, Char.le_def, UInt32.le_iff_toNat_le]

theorem startsIdentifier_iff {c : Char} : startsIdentifier c ↔
    97 ≤ c.toNat ∧ c.toNat ≤ 122 ∨ 65 ≤ c.toNat ∧ c.toNat ≤ 90 ∨ c.toNat = 95 := by
  simp [startsIdentifier, Char.le_def, UInt32.le_iff_toNat_le, or_assoc, Char.ext_iff,
    ← UInt32.toNat_inj]

theorem continuesIdentifier_iff {c : Char} :
    continuesIdentifier c ↔ startsIdentifier c ∨ isDigit c := by
  simp [continuesIdentifier]

theorem continuesEncoding_iff {c : Char} : continuesEncoding c ↔
    Unicode.isWhiteSpace c = false ∧ c.toNat ≠ 44 ∧ c.toNat ≠ 125 ∧ c.toNat ≠ 41 := by
  simp [continuesEncoding, Char.ext_iff, ← UInt32.toNat_inj, and_assoc]

theorem isWhiteSpace_of_printed {c : Char} (printed : 33 ≤ c.toNat ∧ c.toNat ≤ 126) :
    Unicode.isWhiteSpace c = false := by
  simp only [Unicode.isWhiteSpace, Unicode.whiteSpace, RangeSet.contains, List.any_cons,
    List.any_nil]
  simp
  omega

theorem continuesEncoding_of_identifier {c : Char} (continues : continuesIdentifier c) :
    continuesEncoding c := by
  rw [continuesIdentifier_iff, startsIdentifier_iff, isDigit_iff] at continues
  rw [continuesEncoding_iff]
  exact ⟨isWhiteSpace_of_printed (by omega), by omega, by omega, by omega⟩

/-! ## Stretches -/

/-- The stretch that the words lead to. -/
def Stretch.afterAll (m : Stretch) (ws : List Word) : Stretch := ws.foldl (fun m w => m.after w.kind) m

theorem spelled_append {m : Stretch} {a b : List Word} :
    Spelled m (a ++ b) ↔ Spelled m a ∧ Spelled (m.afterAll a) b := by
  induction a generalizing m with
  | nil => simp [Spelled, Stretch.afterAll]
  | cons w a ih => simp [Spelled, Stretch.afterAll, ih, and_assoc]

theorem after_encodings (m : Stretch) : m.after (.keyword .encodings) = .equal := by
  cases m <;> rfl

theorem after_ne_equal (m : Stretch) {kind : TokenKind} (other : kind ≠ .keyword .encodings) :
    m.after kind ≠ .equal := by
  unfold Stretch.after
  split <;> simp_all

theorem after_plain (kind : TokenKind) :
    Stretch.plain.after kind = if kind = .keyword .encodings then .equal else .plain := by
  unfold Stretch.after
  split <;> simp_all

theorem after_named {kind : TokenKind} (other : kind ≠ .comma) :
    Stretch.named.after kind = Stretch.plain.after kind := by
  rw [after_plain]
  unfold Stretch.after
  split <;> simp_all

theorem Identifier.encodingName {text : List Char} (identifier : Identifier text) :
    EncodingName text := by
  obtain ⟨c, rest, rfl, _⟩ := identifier.starts
  refine ⟨List.cons_ne_nil _ _, List.all_eq_true.mpr fun d member => ?_⟩
  exact continuesEncoding_of_identifier (List.all_eq_true.mp identifier.continues d member)

theorem Identifier.spelled {text : List Char} (identifier : Identifier text) (m : Stretch) :
    Word.Spelled ⟨.identifier, String.ofList text⟩ m := by
  simp only [Word.Spelled, String.toList_ofList]
  split
  · exact identifier.encodingName
  · exact identifier

theorem spelled_anywhere {w : Word} (spelled : w.Spelled .plain) (m : Stretch) : w.Spelled m := by
  obtain ⟨kind, text⟩ := w
  cases kind with
  | identifier =>
    have identifier : Identifier text.toList := by simpa [Word.Spelled] using spelled
    simpa using identifier.spelled m
  | _ => exact spelled

theorem spelling_of_spelled? {text : String} {k : Keyword} (found : Keyword.spelled? text = some k) :
    k.spelling = text := by
  simpa using List.find?_some found

end Lexer
end Triage
