import Triage.Proofs.Token.Words

/-! The steps in which a text is read: what each of them takes from it, and what it makes of that. -/

namespace Triage
open Lexer

/-- Whether a text can stand between quotes: a backslash protects each quote in it, and each backslash
protects something. -/
def Quotable : List Char → Bool
  | [] => true
  | '"' :: _ => false
  | ['\\'] => false
  | '\\' :: _ :: rest => Quotable rest
  | _ :: rest => Quotable rest

/-- The piece of text that a word is read from. -/
def Word.piece (w : Word) : Piece :=
  if w.kind = .string then .quoted w.text.toList else .token w.kind w.text.toList

/-- Whether a character behind a word would be read as a part of it. -/
def Word.extendedBy (w : Word) (c : Char) : Bool :=
  match w.kind with
  | .identifier | .keyword _ => continuesIdentifier c
  | .number => isDigit c
  | .equal | .less | .greater => c = '='
  | _ => false

/-- Whether a character behind a word of a stretch would be read as a part of it. Names of encodings take
more. -/
def Word.extendedIn (w : Word) (m : Stretch) (c : Char) : Bool :=
  match m with
  | .equal => false
  | .name => continuesEncoding c
  | .plain | .named => w.extendedBy c

namespace Lexer

/-- The text ahead does not start with such a character. -/
def Clear (p : Char → Bool) (rest : List Char) : Prop := ∀ c ∈ rest.head?, p c = false

theorem clear_nil {p : Char → Bool} : Clear p [] := by simp [Clear]

theorem clear_cons {p : Char → Bool} {c : Char} {rest : List Char} : Clear p (c :: rest) ↔ p c = false := by
  simp [Clear]

theorem clear_dropWhile (p : Char → Bool) (text : List Char) : Clear p (text.dropWhile p) :=
  fun c first => by
    have := List.head?_dropWhile_not p text
    rw [Option.mem_def.mp first] at this
    simpa using this

theorem takeWhile_clear {p : Char → Bool} {text rest : List Char} (each : text.all p)
    (clear : Clear p rest) :
    (text ++ rest).takeWhile p = text ∧ (text ++ rest).dropWhile p = rest := by
  rw [List.all_eq_true] at each
  rw [List.takeWhile_append_of_pos each, List.dropWhile_append_of_pos each]
  cases rest with
  | nil => simp
  | cons c rest => simp [clear_cons.mp clear]

theorem whiteSpace_of_isBlank {c : Char} (blank : isBlank c) : Unicode.isWhiteSpace c := by
  simp only [isBlank, Bool.or_eq_true, decide_eq_true_eq] at blank
  rcases blank with ((rfl | rfl) | rfl) | rfl <;> decide

theorem all_whiteSpace {text : List Char} (blank : text.all isBlank) : text.all Unicode.isWhiteSpace :=
  List.all_eq_true.mpr fun c member => whiteSpace_of_isBlank (List.all_eq_true.mp blank c member)

/-! ## Strings and comments -/

theorem quotable_cons {c : Char} {text : List Char} (quote : c ≠ '"') (backslash : c ≠ '\\') :
    Quotable (c :: text) = Quotable text := by
  rw [Quotable]
  · exact fun same => quote same
  · exact fun same _ => backslash same
  · exact fun _ _ same => absurd same backslash

theorem closeString?_quotable {text : List Char} (quotable : Quotable text) (rest : List Char) :
    closeString? (text ++ '"' :: rest) = some (text, rest) := by
  fun_induction Quotable text with
  | case1 => rfl
  | case2 => nomatch quotable
  | case3 => nomatch quotable
  | case4 c text ih => simp [closeString?, ih quotable]
  | case5 c text notQuote notLast notPair ih =>
    have backslash : c ≠ '\\' := by
      rintro rfl
      cases text with
      | nil => exact notLast rfl rfl
      | cons d text => exact notPair d text rfl rfl
    have quote : c ≠ '"' := fun same => notQuote same
    rw [List.cons_append, closeString?, ih quotable]
    · rfl
    · simpa using quote
    · exact fun _ _ same => absurd same backslash

theorem quotable_of_closeString? {text body rest : List Char}
    (found : closeString? text = some (body, rest)) : Quotable body ∧ text = body ++ '"' :: rest := by
  fun_induction closeString? text generalizing body with
  | case1 => nomatch found
  | case2 after =>
    obtain ⟨rfl, rfl⟩ := Prod.mk.inj (Option.some.inj found)
    exact ⟨rfl, rfl⟩
  | case3 c text ih =>
    obtain ⟨⟨inner, after⟩, read, same⟩ := Option.map_eq_some_iff.mp found
    obtain ⟨rfl, rfl⟩ := Prod.mk.inj same
    obtain ⟨quotable, rfl⟩ := ih read
    exact ⟨quotable, rfl⟩
  | case4 c text quote pair ih =>
    obtain ⟨⟨inner, after⟩, read, same⟩ := Option.map_eq_some_iff.mp found
    obtain ⟨rfl, rfl⟩ := Prod.mk.inj same
    obtain ⟨quotable, rfl⟩ := ih read
    have backslash : c ≠ '\\' := by
      intro same
      obtain ⟨d, more, split⟩ : ∃ d more, inner ++ '"' :: after = d :: more := by
        cases inner <;> exact ⟨_, _, rfl⟩
      exact pair d more same split
    exact ⟨(quotable_cons quote backslash).trans quotable, rfl⟩

theorem closeComment?_closed {text : List Char} (inner : ¬['*', '/'] <:+: text) (rest : List Char) :
    closeComment? (text ++ '*' :: '/' :: rest) = some (text ++ ['*', '/'], rest) := by
  induction text with
  | nil => rfl
  | cons c text ih =>
    have later : ¬['*', '/'] <:+: text := fun found => inner (found.trans (List.suffix_cons c text).isInfix)
    have here : ∀ more, c = '*' → text ++ '*' :: '/' :: rest = '/' :: more → False := by
      rintro more rfl same
      cases text with
      | nil => nomatch same
      | cons d text =>
        obtain rfl : d = '/' := (List.cons.inj same).1
        exact inner ⟨[], text, rfl⟩
    rw [List.cons_append, closeComment?, ih later]
    · rfl
    · exact here

theorem closed_of_closeComment? {text closed rest : List Char}
    (found : closeComment? text = some (closed, rest)) :
    ∃ body, closed = body ++ ['*', '/'] ∧ text = body ++ '*' :: '/' :: rest ∧ ¬['*', '/'] <:+: body := by
  fun_induction closeComment? text generalizing closed with
  | case1 => nomatch found
  | case2 after =>
    obtain ⟨rfl, rfl⟩ := Prod.mk.inj (Option.some.inj found)
    exact ⟨[], rfl, rfl, by simp⟩
  | case3 c text other ih =>
    obtain ⟨⟨inner, after⟩, read, same⟩ := Option.map_eq_some_iff.mp found
    obtain ⟨rfl, rfl⟩ := Prod.mk.inj same
    obtain ⟨body, rfl, rfl, free⟩ := ih read
    refine ⟨c :: body, rfl, rfl, fun inside => ?_⟩
    rcases List.infix_cons_iff.mp inside with ⟨more, start⟩ | inside
    · obtain ⟨rfl, tails⟩ := List.cons.inj start
      subst tails
      exact other _ rfl rfl
    · exact free inside

/-! ## Words -/

theorem keyword_spelling (k : Keyword) : Keyword.spelled? k.spelling = some k ∧
    ∃ c rest, k.spelling.toList = c :: rest ∧ startsIdentifier c ∧ rest.all continuesIdentifier := by
  cases k <;> exact ⟨by decide, _, _, rfl, by decide, by decide⟩

/-- The stretches in which the text ahead may be read in a mode. -/
def Mode.Fits : Mode → Stretch → Prop
  | .plain, m => m ≠ .equal
  | .encodingsEqual, m => m = .equal
  | .encodingName, m => m = .name

/-- How to go on behind a word that is no name of an encoding. -/
def modeAfter (kind : TokenKind) : Mode := if kind = .keyword .encodings then .encodingsEqual else .plain

theorem plainStep_starts {c : Char} (starts : startsIdentifier c) (text : List Char) :
    plainStep c text =
      word (c :: text.takeWhile continuesIdentifier) (text.dropWhile continuesIdentifier) := by
  have letter := startsIdentifier_iff.mp starts
  have noBlank : isBlank c = false := by
    simp only [isBlank, Bool.or_eq_false_iff, decide_eq_false_iff_not]
    refine ⟨⟨⟨?_, ?_⟩, ?_⟩, ?_⟩ <;> rintro rfl <;> simp at letter
  have noDigit : isDigit c = false := by
    rw [Bool.eq_false_iff]
    intro digit
    rw [isDigit_iff] at digit
    omega
  unfold plainStep
  rw [noBlank, noDigit, starts]
  rfl

theorem plainStep_digit {c : Char} (digit : isDigit c) (text : List Char) :
    plainStep c text = token .number (c :: text.takeWhile isDigit) (text.dropWhile isDigit) := by
  have figure := isDigit_iff.mp digit
  have noBlank : isBlank c = false := by
    simp only [isBlank, Bool.or_eq_false_iff, decide_eq_false_iff_not]
    refine ⟨⟨⟨?_, ?_⟩, ?_⟩, ?_⟩ <;> rintro rfl <;> simp at figure
  unfold plainStep
  rw [noBlank, digit]
  rfl

theorem modeAfter_fits (m : Stretch) (kind : TokenKind) : (modeAfter kind).Fits (m.after kind) := by
  unfold modeAfter
  split
  · rename_i encodings
    rw [encodings]
    exact after_encodings m
  · rename_i other
    exact after_ne_equal m other

theorem words_piece (w : Word) : words [w.piece] = [w] := by
  obtain ⟨kind, text⟩ := w
  by_cases quoted : kind = .string
  · subst quoted
    simp [words, Word.piece, Piece.word?]
  · simp [words, Word.piece, Piece.word?, quoted]

/-- The step from a quotation mark, by where the string that it starts is found to end. -/
def quotedStep (text : List Char) : Option (List Char × List Char) → Step
  | some (inner, after) => ⟨[.quoted inner], after, .next .plain⟩
  | none => ⟨[], text, .fault .unterminatedString text⟩

theorem step?_word {w : Word} {rest : List Char} (spelled : w.Spelled .plain)
    (quotable : w.kind = .string → Quotable w.text.toList) (clear : Clear w.extendedBy rest) :
    step? .plain (w.piece.source ++ rest) = some ⟨[w.piece], rest, .next (modeAfter w.kind)⟩ := by
  obtain ⟨kind, text⟩ := w
  obtain ⟨letters, rfl⟩ : ∃ letters, text = String.ofList letters := ⟨_, text.ofList_toList.symm⟩
  cases kind with
  | identifier =>
    have identifier : Identifier letters := by simpa [Word.Spelled] using spelled
    obtain ⟨c, more, rfl, starts⟩ := identifier.starts
    have continues := identifier.continues
    rw [List.all_cons, Bool.and_eq_true] at continues
    obtain ⟨taken, left⟩ := takeWhile_clear continues.2 clear
    simp only [Word.piece, reduceCtorEq, ↓reduceIte, Piece.source, String.toList_ofList, List.cons_append,
      step?]
    rw [plainStep_starts starts, taken, left, word, identifier.free]
    rfl
  | number =>
    obtain ⟨some, digits⟩ : letters ≠ [] ∧ letters.all isDigit := by simpa [Word.Spelled] using spelled
    obtain ⟨c, more, rfl⟩ := List.exists_cons_of_ne_nil some
    rw [List.all_cons, Bool.and_eq_true] at digits
    obtain ⟨taken, left⟩ := takeWhile_clear digits.2 clear
    simp only [Word.piece, reduceCtorEq, ↓reduceIte, Piece.source, String.toList_ofList, List.cons_append,
      step?]
    rw [plainStep_digit digits.1, taken, left]
    rfl
  | string =>
    have closes : Quotable letters := by simpa using quotable rfl
    simp only [Word.piece, ↓reduceIte, Piece.source, String.toList_ofList, List.cons_append,
      List.append_assoc, List.nil_append, step?]
    change some (quotedStep _ (closeString? (letters ++ '"' :: rest))) = _
    rw [closeString?_quotable closes]
    rfl
  | endOfFile => exact spelled.elim
  | keyword k =>
    have literal : String.ofList letters = k.spelling := spelled
    obtain ⟨found, c, more, split, starts, continues⟩ := keyword_spelling k
    obtain ⟨taken, left⟩ := takeWhile_clear continues clear
    rw [literal]
    simp only [Word.piece, reduceCtorEq, ↓reduceIte, Piece.source, split, List.cons_append, step?]
    rw [plainStep_starts starts, taken, left, word, ← split, String.ofList_toList, found]
    cases k <;> rfl
  | _ =>
    have literal : String.ofList letters = TokenKind.literal _ := spelled
    rw [literal]
    simp only [Word.piece, reduceCtorEq, ↓reduceIte, Piece.source]
    cases rest with
    | nil => rfl
    | cons c rest =>
      first
      | rfl
      | have other : c ≠ '=' := by simpa [Word.extendedBy] using clear_cons.mp clear
        change some (orEqual _ _ _ (c :: rest)) = _
        rw [orEqual]
        · rfl
        · exact fun _ same => other (List.cons.inj same).1

/-- A word starts with no blank, and with a comma only if it is one. -/
theorem source_head {w : Word} (spelled : w.Spelled .plain) : ∃ c more, w.piece.source = c :: more ∧
    Unicode.isWhiteSpace c = false ∧ (c = ',' → w.kind = .comma) := by
  obtain ⟨kind, text⟩ := w
  have of_head {source : List Char}
      (head : source.head?.any fun c => !Unicode.isWhiteSpace c && (c != ',' || kind == .comma)) :
      ∃ c more, source = c :: more ∧ Unicode.isWhiteSpace c = false ∧ (c = ',' → kind = .comma) := by
    cases source with
    | nil => nomatch head
    | cons c more => exact ⟨c, more, rfl, by simpa [Decidable.imp_iff_not_or] using head⟩
  have of_letter {c : Char} {more : List Char} (split : text.toList = c :: more) (quoted : kind ≠ .string)
      (printed : 48 ≤ c.toNat ∧ c.toNat ≤ 126) : ∃ c more, (Word.mk kind text).piece.source = c :: more ∧
        Unicode.isWhiteSpace c = false ∧ (c = ',' → kind = .comma) := by
    refine ⟨c, more, by simpa [Word.piece, quoted, Piece.source] using split,
      isWhiteSpace_of_printed (by omega), ?_⟩
    rintro rfl
    simp at printed
  cases kind with
  | identifier =>
    have identifier : Identifier text.toList := by simpa [Word.Spelled] using spelled
    obtain ⟨c, more, split, starts⟩ := identifier.starts
    rw [startsIdentifier_iff] at starts
    exact of_letter split (by simp) (by omega)
  | number =>
    obtain ⟨some, digits⟩ := spelled
    obtain ⟨c, more, split⟩ := List.exists_cons_of_ne_nil some
    have digit := isDigit_iff.mp (List.all_eq_true.mp digits c (split ▸ List.mem_cons_self))
    exact of_letter split (by simp) (by omega)
  | string => exact of_head rfl
  | endOfFile => exact spelled.elim
  | keyword k =>
    have literal : text = k.spelling := spelled
    obtain ⟨_, c, more, split, starts, _⟩ := keyword_spelling k
    rw [startsIdentifier_iff] at starts
    exact of_letter (literal ▸ split) (by simp) (by omega)
  | _ =>
    have literal : text = TokenKind.literal _ := spelled
    dsimp only at literal
    rw [literal]
    exact of_head (by decide)

/-! ## Blanks and comments -/

theorem step?_blank {c : Char} (blank : isBlank c) (text : List Char) :
    step? .plain (c :: text) = some ⟨[.blank [c]], text, .next .plain⟩ :=
  congrArg some (if_pos blank)

/-- A comment up to the end of its line. -/
theorem step?_line (text : List Char) : step? .plain ('/' :: '/' :: text) = some
    ⟨[.comment ('/' :: '/' :: text.takeWhile (· != '\n'))], text.dropWhile (· != '\n'), .next .plain⟩ := rfl

/-- The step from the opening of a comment, by where the comment is found to end. -/
def commentStep (text : List Char) : Option (List Char × List Char) → Step
  | some (inner, after) => ⟨[.comment ('/' :: '*' :: inner)], after, .next .plain⟩
  | none => ⟨[], text, .fault .unterminatedComment text⟩

theorem step?_block (free : ¬['*', '/'] <:+: text) (rest : List Char) :
    step? .plain ('/' :: '*' :: (text ++ '*' :: '/' :: rest)) =
      some ⟨[.comment ('/' :: '*' :: (text ++ ['*', '/']))], rest, .next .plain⟩ := by
  change some (commentStep _ (closeComment? (text ++ '*' :: '/' :: rest))) = _
  rw [closeComment?_closed free]
  rfl

theorem takeWhile_line_append {text rest : List Char} (free : '\n' ∉ text) (after : rest = [] ∨ ∃ more, rest = '\n' :: more) :
    (text ++ rest).takeWhile (· != '\n') = text ∧ (text ++ rest).dropWhile (· != '\n') = rest := by
  refine takeWhile_clear (List.all_eq_true.mpr fun c member => ?_) ?_
  · have other : c ≠ '\n' := fun same => free (same ▸ member)
    simpa using other
  · rcases after with rfl | ⟨more, rfl⟩
    · exact clear_nil
    · exact clear_cons.mpr rfl

theorem takeWhile_line (text : List Char) : '\n' ∉ text.takeWhile (· != '\n') ∧
    (text.dropWhile (· != '\n') = [] ∨ ∃ more, text.dropWhile (· != '\n') = '\n' :: more) := by
  refine ⟨fun inside => ?_, ?_⟩
  · simpa using List.all_eq_true.mp List.all_takeWhile '\n' inside
  · have clear := clear_dropWhile (· != '\n') text
    generalize text.dropWhile (· != '\n') = rest at clear ⊢
    cases rest with
    | nil => exact .inl rfl
    | cons c more =>
      rw [clear_cons] at clear
      obtain rfl : c = '\n' := by simpa using clear
      exact .inr ⟨more, rfl⟩

/-! ## Lists of encodings -/

section lists
variable {gap rest : List Char}

theorem equalStep_gap (white : gap.all Unicode.isWhiteSpace) (rest : List Char) :
    equalStep (gap ++ '=' :: rest) = ⟨blanks gap ++ [.token .equal ['=']], rest, .next .encodingName⟩ := by
  have clear : Clear Unicode.isWhiteSpace ('=' :: rest) := clear_cons.mpr (by decide)
  obtain ⟨taken, left⟩ := takeWhile_clear white clear
  unfold equalStep
  rw [taken, left]
  rfl

theorem nameStep_gap {name : List Char} (white : gap.all Unicode.isWhiteSpace) (encoding : EncodingName name)
    (clear : Clear continuesEncoding rest) :
    nameStep (gap ++ name ++ rest) = match rest.dropWhile Unicode.isWhiteSpace with
      | ',' :: after => ⟨blanks gap ++ [.token .identifier name] ++
          blanks (rest.takeWhile Unicode.isWhiteSpace) ++ [.token .comma [',']], after, .next .encodingName⟩
      | _ => ⟨blanks gap ++ [.token .identifier name], rest, .next .plain⟩ := by
  obtain ⟨some, continues⟩ := encoding
  obtain ⟨c, more, rfl⟩ := List.exists_cons_of_ne_nil some
  obtain ⟨taken, left⟩ := takeWhile_clear continues clear
  have noBlank : Unicode.isWhiteSpace c = false :=
    (continuesEncoding_iff.mp (List.all_eq_true.mp continues c List.mem_cons_self)).1
  have ahead : Clear Unicode.isWhiteSpace (c :: more ++ rest) := clear_cons.mpr noBlank
  obtain ⟨before, behind⟩ := takeWhile_clear white ahead
  unfold nameStep
  dsimp only
  rw [List.append_assoc, before, behind, taken, left]
  rfl

end lists

/-! ## What a step reads -/

/-- What a step that begins at a text takes from it, and how it goes on. -/
inductive Reads : Mode → List Char → Step → Prop
  | blank {c : Char} {rest : List Char} : isBlank c →
      Reads .plain (c :: rest) ⟨[.blank [c]], rest, .next .plain⟩
  | line {text rest : List Char} : '\n' ∉ text → (rest = [] ∨ ∃ more, rest = '\n' :: more) →
      Reads .plain ('/' :: '/' :: (text ++ rest)) ⟨[.comment ('/' :: '/' :: text)], rest, .next .plain⟩
  | block {text rest : List Char} : ¬['*', '/'] <:+: text →
      Reads .plain ('/' :: '*' :: (text ++ '*' :: '/' :: rest))
        ⟨[.comment ('/' :: '*' :: (text ++ ['*', '/']))], rest, .next .plain⟩
  | word {w : Word} {rest : List Char} : w.Spelled .plain → (w.kind = .string → Quotable w.text.toList) →
      Clear w.extendedBy rest →
      Reads .plain (w.piece.source ++ rest) ⟨[w.piece], rest, .next (modeAfter w.kind)⟩
  | fault {c : Char} {rest read : List Char} {f : LexFault} : isBlank c = false → read <+: c :: rest →
      Reads .plain (c :: rest) ⟨[], c :: rest, .fault f read⟩
  | equal {gap rest : List Char} : gap.all Unicode.isWhiteSpace →
      Reads .encodingsEqual (gap ++ '=' :: rest)
        ⟨blanks gap ++ [.token .equal ['=']], rest, .next .encodingName⟩
  | comma {gap name gap' rest : List Char} : gap.all Unicode.isWhiteSpace → EncodingName name →
      gap'.all Unicode.isWhiteSpace → Clear continuesEncoding (gap' ++ ',' :: rest) →
      Reads .encodingName (gap ++ name ++ (gap' ++ ',' :: rest))
        ⟨blanks gap ++ [.token .identifier name] ++ blanks gap' ++ [.token .comma [',']], rest,
          .next .encodingName⟩
  | last {gap name rest : List Char} : gap.all Unicode.isWhiteSpace → EncodingName name →
      Clear continuesEncoding rest → (∀ after, rest.dropWhile Unicode.isWhiteSpace ≠ ',' :: after) →
      Reads .encodingName (gap ++ name ++ rest)
        ⟨blanks gap ++ [.token .identifier name], rest, .next .plain⟩
  | stuck {mode : Mode} {gap rest : List Char} {f : LexFault} : mode ≠ .plain →
      gap.all Unicode.isWhiteSpace → Reads mode (gap ++ rest) ⟨blanks gap, rest, .fault f []⟩

theorem reads_text {kind : TokenKind} {text rest : List Char}
    (spelled : Word.Spelled ⟨kind, String.ofList text⟩ .plain) (quoted : kind ≠ .string)
    (clear : Clear (Word.extendedBy ⟨kind, String.ofList text⟩) rest) :
    Reads .plain (text ++ rest) ⟨[.token kind text], rest, .next (modeAfter kind)⟩ := by
  have read := Reads.word spelled (fun same => absurd same quoted) clear
  simpa [Word.piece, quoted, Piece.source] using read

theorem reads_sign {kind : TokenKind} {c : Char} (rest : List Char)
    (spelled : Word.Spelled ⟨kind, String.ofList [c]⟩ .plain) (quoted : kind ≠ .string)
    (plain : modeAfter kind = .plain)
    (clear : Clear (Word.extendedBy ⟨kind, String.ofList [c]⟩) rest) :
    Reads .plain (c :: rest) (token kind [c] rest) := by
  have read := reads_text spelled quoted clear
  rwa [plain] at read

theorem reads_word {c : Char} {rest : List Char} (starts : startsIdentifier c) :
    Reads .plain (c :: rest)
      (word (c :: rest.takeWhile continuesIdentifier) (rest.dropWhile continuesIdentifier)) := by
  have clear := clear_dropWhile continuesIdentifier rest
  have split : c :: rest.takeWhile continuesIdentifier ++ rest.dropWhile continuesIdentifier =
      c :: rest := by simp
  unfold word
  split
  · rename_i found
    have spelled : Word.Spelled ⟨.keyword .encodings, String.ofList _⟩ .plain := (spelling_of_spelled? found).symm
    have read := reads_text spelled (by simp) clear
    rwa [split] at read
  · rename_i k other found
    have spelled : Word.Spelled ⟨.keyword k, String.ofList _⟩ .plain := (spelling_of_spelled? found).symm
    have read := reads_text spelled (by simp) clear
    have plain : modeAfter (.keyword k) = .plain := if_neg fun same => other (TokenKind.keyword.inj same)
    rwa [split, plain] at read
  · rename_i free
    have identifier : Identifier (c :: rest.takeWhile continuesIdentifier) :=
      ⟨⟨c, _, rfl, starts⟩, by simp [continuesIdentifier, starts], free⟩
    have read := reads_text (identifier.spelled .plain) (by simp) clear
    rwa [split] at read

theorem reads_orEqual {one two : TokenKind} {c : Char} (rest : List Char)
    (first : Word.Spelled ⟨one, String.ofList [c]⟩ .plain)
    (second : Word.Spelled ⟨two, String.ofList [c, '=']⟩ .plain)
    (quoted : one ≠ .string ∧ two ≠ .string) (plain : modeAfter one = .plain ∧ modeAfter two = .plain)
    (apart : ∀ d, d ≠ '=' → Word.extendedBy ⟨one, String.ofList [c]⟩ d = false)
    (whole : ∀ d, Word.extendedBy ⟨two, String.ofList [c, '=']⟩ d = false) :
    Reads .plain (c :: rest) (orEqual one two c rest) := by
  unfold orEqual
  split
  · rename_i rest
    have clear : Clear (Word.extendedBy ⟨two, String.ofList [c, '=']⟩) rest := fun d _ => whole d
    have read := reads_text second quoted.2 clear
    rwa [plain.2] at read
  · rename_i other
    refine reads_sign _ first quoted.1 plain.1 fun d head => apart d ?_
    rintro rfl
    obtain ⟨more, split⟩ := List.head?_eq_some_iff.mp head
    exact other more split

theorem reads_plainStep (c : Char) (rest : List Char) : Reads .plain (c :: rest) (plainStep c rest) := by
  have fault {f : LexFault} (blank : ¬isBlank c) :
      Reads .plain (c :: rest) ⟨[], c :: rest, .fault f [c]⟩ :=
    .fault (by simpa using blank) ⟨rest, rfl⟩
  unfold plainStep
  split
  · rename_i blank
    exact .blank blank
  rename_i blank
  split
  · rename_i digit
    have clear := clear_dropWhile isDigit rest
    have spelled : Word.Spelled ⟨.number, String.ofList (c :: rest.takeWhile isDigit)⟩ .plain := by
      simp [Word.Spelled, digit]
    have read := reads_text spelled (by simp) clear
    rwa [List.cons_append, List.takeWhile_append_dropWhile] at read
  split
  · rename_i starts
    exact reads_word starts
  split
  case h_7 =>
    exact reads_orEqual rest rfl rfl (by simp) ⟨rfl, rfl⟩ (by simp [Word.extendedBy]) (fun _ => rfl)
  case h_8 =>
    exact reads_orEqual rest rfl rfl (by simp) ⟨rfl, rfl⟩ (by simp [Word.extendedBy]) (fun _ => rfl)
  case h_9 =>
    exact reads_orEqual rest rfl rfl (by simp) ⟨rfl, rfl⟩ (by simp [Word.extendedBy]) (fun _ => rfl)
  case h_10 =>
    split
    · have spelled : Word.Spelled ⟨.notEqual, String.ofList ['!', '=']⟩ .plain := rfl
      exact reads_text spelled (by simp) fun _ _ => rfl
    · exact fault blank
  case h_11 =>
    split
    · rename_i rest
      obtain ⟨free, ends⟩ := takeWhile_line rest
      have line := Reads.line free ends
      rwa [List.takeWhile_append_dropWhile] at line
    · rename_i rest
      split
      · rename_i closed after found
        obtain ⟨body, rfl, rfl, free⟩ := closed_of_closeComment? found
        exact .block free
      · exact .fault (by simpa using blank) (List.prefix_refl _)
    · exact fault blank
  case h_12 =>
    split
    · rename_i text after found
      obtain ⟨quotable, rfl⟩ := quotable_of_closeString? found
      have spelled : Word.Spelled ⟨.string, String.ofList text⟩ .plain := trivial
      have clear : Clear (Word.extendedBy ⟨.string, String.ofList text⟩) after := fun _ _ => rfl
      have read := Reads.word spelled (fun _ => by simpa using quotable) clear
      simpa [Word.piece, Piece.source, modeAfter] using read
    · exact .fault (by simpa using blank) (List.prefix_refl _)
  case h_13 => exact fault blank
  all_goals exact reads_sign rest rfl (by simp) rfl (fun _ _ => rfl)

theorem reads_equalStep (text : List Char) : Reads .encodingsEqual text (equalStep text) := by
  have white : (text.takeWhile Unicode.isWhiteSpace).all Unicode.isWhiteSpace := List.all_takeWhile
  have split : text.takeWhile Unicode.isWhiteSpace ++ text.dropWhile Unicode.isWhiteSpace = text :=
    List.takeWhile_append_dropWhile
  unfold equalStep
  split
  · rename_i rest found
    have read : Reads .encodingsEqual (_ ++ '=' :: rest) _ := .equal white
    rwa [← found, split] at read
  · have read : Reads .encodingsEqual (_ ++ text.dropWhile Unicode.isWhiteSpace)
        ⟨_, _, .fault .equalAfterEncodings []⟩ := .stuck (by simp) white
    rwa [split] at read

theorem reads_nameStep (text : List Char) : Reads .encodingName text (nameStep text) := by
  have white : (text.takeWhile Unicode.isWhiteSpace).all Unicode.isWhiteSpace := List.all_takeWhile
  have split : text.takeWhile Unicode.isWhiteSpace ++ text.dropWhile Unicode.isWhiteSpace = text :=
    List.takeWhile_append_dropWhile
  unfold nameStep
  dsimp only
  generalize text.takeWhile Unicode.isWhiteSpace = gap at white split ⊢
  generalize text.dropWhile Unicode.isWhiteSpace = ahead at split ⊢
  subst split
  have clear := clear_dropWhile continuesEncoding ahead
  have split : ahead.takeWhile continuesEncoding ++ ahead.dropWhile continuesEncoding = ahead :=
    List.takeWhile_append_dropWhile
  have all : (ahead.takeWhile continuesEncoding).all continuesEncoding := List.all_takeWhile
  split
  · exact .stuck (by simp) white
  rename_i some
  generalize ahead.takeWhile continuesEncoding = name at all split some ⊢
  generalize ahead.dropWhile continuesEncoding = rest at clear split ⊢
  subst split
  have encoding : EncodingName name := ⟨by simpa using some, all⟩
  rw [← List.append_assoc]
  split
  · rename_i after found
    have split : rest.takeWhile Unicode.isWhiteSpace ++ ',' :: after = rest := by
      rw [← found, List.takeWhile_append_dropWhile]
    have read := Reads.comma white encoding List.all_takeWhile (split ▸ clear)
    rwa [split] at read
  · rename_i ended
    exact .last white encoding clear ended

/-- Whatever step a text is read with, it takes what it should from the text. -/
theorem reads_step? {mode : Mode} {text : List Char} {s : Step} (read : step? mode text = some s) :
    Reads mode text s := by
  cases mode with
  | plain =>
    cases text with
    | nil => nomatch read
    | cons c rest => exact Option.some.inj read ▸ reads_plainStep c rest
  | encodingsEqual => exact Option.some.inj read ▸ reads_equalStep text
  | encodingName => exact Option.some.inj read ▸ reads_nameStep text

/-- A step that goes on has read something. -/
theorem Reads.shorter {mode next : Mode} {text rest : List Char} {ps : List Piece}
    (reads : Reads mode text ⟨ps, rest, .next next⟩) : rest.length < text.length := by
  cases reads with
  | blank _ | line _ _ | block _ | equal _ | comma _ _ _ _ =>
    simp only [List.length_append, List.length_cons]
    omega
  | word spelled _ _ =>
    obtain ⟨c, more, source, _⟩ := source_head spelled
    rw [source, List.length_append, List.length_cons]
    omega
  | last _ encoding _ _ =>
    obtain ⟨c, more, rfl⟩ := List.exists_cons_of_ne_nil encoding.1
    simp only [List.length_append, List.length_cons]
    omega

/-! ## What is read is spelled as it should be -/

structure Step.Sound (s : Step) (m : Stretch) : Prop where
  spelled : Spelled m (words s.pieces)
  fits : ∀ mode, s.outcome = .next mode → mode.Fits (m.afterAll (words s.pieces))

theorem Reads.sound {mode : Mode} {text : List Char} {s : Step} {m : Stretch} (reads : Reads mode text s)
    (fits : mode.Fits m) : s.Sound m := by
  cases reads with
  | blank _ | line _ _ | block _ => exact ⟨trivial, fun next same => Outcome.next.inj same ▸ fits⟩
  | fault _ _ => exact ⟨trivial, fun next same => nomatch same⟩
  | @word w rest spelled _ _ =>
    refine ⟨?_, fun next same => Outcome.next.inj same ▸ ?_⟩
    · rw [words_piece]
      exact ⟨spelled_anywhere spelled m, trivial⟩
    · dsimp only
      rw [words_piece]
      exact modeAfter_fits m w.kind
  | equal _ =>
    obtain rfl : m = .equal := fits
    constructor
    · simp only [words_append, words_blanks, List.nil_append]
      exact ⟨rfl, trivial⟩
    · intro next same
      obtain rfl : Mode.encodingName = next := Outcome.next.inj same
      simp only [words_append, words_blanks, List.nil_append]
      rfl
  | comma _ encoding _ _ =>
    obtain rfl : m = .name := fits
    constructor
    · simp only [words_append, words_blanks, List.nil_append, List.append_nil]
      exact ⟨by simpa [Word.Spelled] using encoding, rfl, trivial⟩
    · intro next same
      obtain rfl : Mode.encodingName = next := Outcome.next.inj same
      simp only [words_append, words_blanks, List.nil_append, List.append_nil]
      rfl
  | last _ encoding _ _ =>
    obtain rfl : m = .name := fits
    constructor
    · simp only [words_append, words_blanks, List.nil_append]
      exact ⟨by simpa [Word.Spelled] using encoding, trivial⟩
    · intro next same
      obtain rfl : Mode.plain = next := Outcome.next.inj same
      simp only [words_append, words_blanks, List.nil_append]
      rintro ⟨⟩
  | stuck _ _ =>
    refine ⟨?_, by rintro _ ⟨⟩⟩
    rw [words_blanks]
    trivial

theorem spelled_piecesFrom (fuel : Nat) {mode : Mode} (text : List Char) {m : Stretch}
    (fits : mode.Fits m) : Spelled m (words (piecesFrom fuel mode text).1) := by
  induction fuel generalizing mode text m with
  | zero => trivial
  | succ fuel ih =>
    rw [piecesFrom]
    split
    · trivial
    · rename_i pieces rest next read
      have sound := (reads_step? read).sound fits
      rw [words_append]
      exact spelled_append.mpr ⟨sound.spelled, ih rest (sound.fits next rfl)⟩
    · rename_i read
      exact ((reads_step? read).sound fits).spelled

end Lexer

/-- The tokens of a text: words that are spelled as they should be, and the end of the file. -/
theorem tokens_spelled {text : String} {ts : List Token} (lexed : tokens text = .ok ts) :
    ∃ body finish, ts = body ++ [finish] ∧ finish.kind = .endOfFile ∧
      Spelled .plain (body.map Token.word) := by
  unfold tokens scan at lexed
  rcases read : pieces text.toList with ⟨found, failure⟩
  rw [read] at lexed
  cases failure with
  | some f => nomatch lexed
  | none =>
    obtain rfl := Except.ok.inj lexed
    refine ⟨_, _, rfl, rfl, ?_⟩
    rw [map_word_locate]
    have fits : Mode.plain.Fits .plain := by simp [Mode.Fits]
    have spelled := spelled_piecesFrom (text.toList.length + 1) text.toList fits
    rwa [← pieces, read] at spelled

end Triage
