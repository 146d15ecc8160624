import Mathlib.Data.List.TakeWhile
import Triage.Proofs.Token.Steps

/-! A text as tiles: each word with the gap in front of it. Which tiles a text may have is told without
the reader, by what the words and gaps are made of and by what may follow a word; a text laid out so is
cut into these words. -/

namespace Triage
open Lexer

namespace Lexer

/-! ## Gaps -/

/-- Text that is read past: blanks, and comments with the marks that end them. -/
inductive Filler (white : Char → Bool) : List Char → Prop
  | nil : Filler white []
  | blank {c : Char} {rest : List Char} : white c → Filler white rest → Filler white (c :: rest)
  | line {text rest : List Char} : '\n' ∉ text → Filler white rest →
      Filler white ('/' :: '/' :: (text ++ '\n' :: rest))
  | block {text rest : List Char} : ¬['*', '/'] <:+: text → Filler white rest →
      Filler white ('/' :: '*' :: (text ++ '*' :: '/' :: rest))

/-- What may stand behind the last word: a gap, or one that ends in a comment up to the end of the text. -/
def Finish (white : Char → Bool) (gap : List Char) : Prop :=
  Filler white gap ∨ ∃ before text, gap = before ++ '/' :: '/' :: text ∧ Filler white before ∧ '\n' ∉ text

section fillers
variable {white : Char → Bool} {a b : List Char}

theorem Filler.append (first : Filler white a) (second : Filler white b) : Filler white (a ++ b) := by
  induction first with
  | nil => exact second
  | blank is _ ih => exact .blank is ih
  | line free _ ih =>
    rw [List.cons_append, List.cons_append, List.append_assoc, List.cons_append]
    exact .line free ih
  | block free _ ih =>
    rw [List.cons_append, List.cons_append, List.append_assoc, List.cons_append, List.cons_append]
    exact .block free ih

theorem Filler.of_all (each : a.all white) : Filler white a := by
  induction a with
  | nil => exact .nil
  | cons c a ih =>
    rw [List.all_cons, Bool.and_eq_true] at each
    exact .blank each.1 (ih each.2)

theorem Filler.mono {other : Char → Bool} (filler : Filler white a) (wider : ∀ c, white c → other c) :
    Filler other a := by
  induction filler with
  | nil => exact .nil
  | blank is _ ih => exact .blank (wider _ is) ih
  | line free _ ih => exact .line free ih
  | block free _ ih => exact .block free ih

end fillers

/-- No word is extended by what a gap starts with. -/
theorem extendedBy_gap {c : Char} (starts : isBlank c ∨ c = '/') (w : Word) : w.extendedBy c = false := by
  have none : continuesIdentifier c = false ∧ isDigit c = false ∧ c ≠ '=' := by
    simp only [isBlank, Bool.or_eq_true, decide_eq_true_eq] at starts
    rcases starts with (((rfl | rfl) | rfl) | rfl) | rfl <;> decide
  unfold Word.extendedBy
  split <;> simp [none]

theorem extendedIn_blank {c : Char} (blank : isBlank c) (w : Word) (m : Stretch) :
    w.extendedIn m c = false := by
  cases m with
  | equal => rfl
  | name => simp [Word.extendedIn, continuesEncoding, whiteSpace_of_isBlank blank]
  | plain => exact extendedBy_gap (.inl blank) w
  | named => exact extendedBy_gap (.inl blank) w

/-! ## Tiles -/

/-- A word with the gap before it. -/
structure Tile where
  gap : List Char
  word : Word
deriving DecidableEq

def Tile.source (t : Tile) : List Char := t.gap ++ t.word.piece.source

/-- The text of tiles and what follows them. -/
def paved (tiles : List Tile) (after : List Char) : List Char := tiles.flatMap Tile.source ++ after

/-- Where a word is read behind a gap. Behind the name of an encoding a comma belongs to the list if
nothing but blanks separates them. -/
def Stretch.behind (m : Stretch) (gap : List Char) : Stretch :=
  if m = .named ∧ ¬gap.all Unicode.isWhiteSpace then .plain else m

theorem behind_white {gap : List Char} (white : gap.all Unicode.isWhiteSpace) (m : Stretch) :
    m.behind gap = m := by
  simp [Stretch.behind, white]

def Tile.next (m : Stretch) (t : Tile) : Stretch := (m.behind t.gap).after t.word.kind

/-- Whether a word of the kind is read as part of a list of encodings. -/
def Stretch.lists (m : Stretch) (kind : TokenKind) : Bool :=
  m = .equal || m = .name || (m = .named && kind = .comma)

/-- A tile may stand in a stretch in front of the text after it. -/
structure Tile.Fits (t : Tile) (m : Stretch) (after : List Char) : Prop where
  gap : if (m.behind t.gap).lists t.word.kind then t.gap.all Unicode.isWhiteSpace else Filler isBlank t.gap
  spelled : t.word.Spelled (m.behind t.gap)
  quotable : t.word.kind = .string → Quotable t.word.text.toList
  equal : m = .equal → t.word.kind = .equal
  name : m = .name → t.word.kind = .identifier
  clear : Clear (t.word.extendedIn (m.behind t.gap)) after

/-- A text may be laid out in these tiles in front of what comes after them. -/
def Laid : Stretch → List Tile → List Char → Prop
  | _, [], _ => True
  | m, t :: ts, after => t.Fits m (paved ts after) ∧ Laid (t.next m) ts after

/-- The stretch that tiles lead to. -/
def Stretch.past (m : Stretch) (tiles : List Tile) : Stretch := tiles.foldl Tile.next m

/-! ## What is cut -/

/-- From a mode on a text is cut to its end, into pieces of these words. -/
def Cuts (mode : Mode) (text : List Char) (ws : List Word) : Prop :=
  ∀ fuel, text.length < fuel → ∃ ps, piecesFrom fuel mode text = (ps, none) ∧ words ps = ws

theorem cuts_nil : Cuts .plain [] [] := by
  intro fuel more
  cases fuel with
  | zero => nomatch more
  | succ fuel => exact ⟨[], rfl, rfl⟩

section cuts
variable {mode next : Mode} {gap text rest : List Char} {ps : List Piece} {ws : List Word}

theorem Cuts.step (cuts : Cuts next rest ws) (read : step? mode text = some ⟨ps, rest, .next next⟩) :
    Cuts mode text (words ps ++ ws) := by
  intro fuel more
  cases fuel with
  | zero => nomatch more
  | succ fuel =>
    have shorter := (reads_step? read).shorter
    obtain ⟨found, cut, rfl⟩ := cuts fuel (by omega)
    refine ⟨ps ++ found, ?_, words_append ps found⟩
    rw [piecesFrom, read]
    simp only [cut]

theorem Cuts.blank {c : Char} (cuts : Cuts .plain text ws) (blank : isBlank c) :
    Cuts .plain (c :: text) ws :=
  cuts.step (step?_blank blank text)

theorem Cuts.filler (cuts : Cuts .plain text ws) (filler : Filler isBlank gap) :
    Cuts .plain (gap ++ text) ws := by
  induction filler with
  | nil => exact cuts
  | blank is _ ih => exact ih.blank is
  | @line inner more free _ ih =>
    obtain ⟨taken, left⟩ := takeWhile_line_append free (.inr ⟨more ++ text, rfl⟩)
    have read := step?_line (inner ++ '\n' :: (more ++ text))
    rw [taken, left] at read
    rw [List.cons_append, List.cons_append, List.append_assoc, List.cons_append]
    exact (ih.blank rfl).step read
  | @block inner more free _ ih =>
    rw [List.cons_append, List.cons_append, List.append_assoc, List.cons_append, List.cons_append]
    exact ih.step (step?_block free (more ++ text))

theorem cuts_finish (finish : Finish isBlank gap) : Cuts .plain gap [] := by
  rcases finish with filler | ⟨before, text, rfl, filler, free⟩
  · have cuts := cuts_nil.filler filler
    rwa [List.append_nil] at cuts
  · obtain ⟨taken, left⟩ := takeWhile_line_append free (.inl rfl)
    rw [List.append_nil] at taken left
    have read := step?_line text
    rw [taken, left] at read
    exact (cuts_nil.step read).filler filler

theorem Cuts.word {w : Word} (cuts : Cuts (modeAfter w.kind) rest ws) (spelled : w.Spelled .plain)
    (quotable : w.kind = .string → Quotable w.text.toList) (clear : Clear w.extendedBy rest) :
    Cuts .plain (w.piece.source ++ rest) (w :: ws) := by
  have cut := cuts.step (step?_word spelled quotable clear)
  rwa [words_piece] at cut

/-! ### Lists of encodings -/

theorem Cuts.equal (cuts : Cuts .encodingName rest ws) (white : gap.all Unicode.isWhiteSpace) :
    Cuts .encodingsEqual (gap ++ '=' :: rest) (⟨.equal, "="⟩ :: ws) := by
  have read : step? .encodingsEqual (gap ++ '=' :: rest) = _ := congrArg some (equalStep_gap white rest)
  have cut := cuts.step read
  rwa [words_append, words_blanks] at cut

/-- A name of a list that goes on behind a comma. -/
theorem Cuts.nameComma {name gap' : List Char} (cuts : Cuts .encodingName rest ws)
    (white : gap.all Unicode.isWhiteSpace) (encoding : EncodingName name)
    (white' : gap'.all Unicode.isWhiteSpace) (clear : Clear continuesEncoding (gap' ++ ',' :: rest)) :
    Cuts .encodingName (gap ++ name ++ (gap' ++ ',' :: rest))
      (⟨.identifier, String.ofList name⟩ :: ⟨.comma, ","⟩ :: ws) := by
  have ahead : Clear Unicode.isWhiteSpace (',' :: rest) := clear_cons.mpr (by decide)
  obtain ⟨taken, left⟩ := takeWhile_clear white' ahead
  have here := nameStep_gap white encoding clear
  rw [taken, left] at here
  have read : step? .encodingName (gap ++ name ++ (gap' ++ ',' :: rest)) = _ := congrArg some here
  have cut := cuts.step read
  rw [words_append, words_append, words_append, words_blanks, words_blanks] at cut
  exact cut

/-- The last name of a list. -/
theorem Cuts.nameLast {name : List Char} (cuts : Cuts .plain rest ws)
    (white : gap.all Unicode.isWhiteSpace) (encoding : EncodingName name)
    (clear : Clear continuesEncoding rest)
    (ended : ∀ after, rest.dropWhile Unicode.isWhiteSpace ≠ ',' :: after) :
    Cuts .encodingName (gap ++ name ++ rest) (⟨.identifier, String.ofList name⟩ :: ws) := by
  have here := nameStep_gap white encoding clear
  split at here
  · rename_i after found
    exact absurd found (ended after)
  · have read : step? .encodingName (gap ++ name ++ rest) = _ := congrArg some here
    have cut := cuts.step read
    rwa [words_append, words_blanks] at cut

end cuts

/-- The mode in which words are read where a stretch goes on. -/
def Stretch.mode : Stretch → Mode
  | .plain | .named => .plain
  | .equal => .encodingsEqual
  | .name => .encodingName

theorem mode_after_plain (kind : TokenKind) : (Stretch.plain.after kind).mode = modeAfter kind := by
  rw [after_plain, modeAfter]
  split <;> rfl

theorem after_plain_ne_named (kind : TokenKind) : Stretch.plain.after kind ≠ .named := by
  rw [after_plain]
  split <;> simp

theorem paved_cons (t : Tile) (ts : List Tile) (after : List Char) :
    paved (t :: ts) after = t.gap ++ (t.word.piece.source ++ paved ts after) := by
  simp [paved, Tile.source]

theorem paved_append (ts us : List Tile) (after : List Char) :
    paved (ts ++ us) after = paved ts (paved us after) := by
  simp [paved]

theorem Laid.append {m : Stretch} {ts us : List Tile} {after : List Char} (first : Laid m ts (paved us after))
    (second : Laid (m.past ts) us after) : Laid m (ts ++ us) after := by
  induction ts generalizing m with
  | nil => exact second
  | cons t ts ih =>
    obtain ⟨fits, laid⟩ := first
    rw [← paved_append] at fits
    exact ⟨fits, ih laid second⟩

theorem Filler.white_or_slash {gap : List Char} (filler : Filler isBlank gap) :
    gap.all Unicode.isWhiteSpace ∨ ∃ more, gap.dropWhile Unicode.isWhiteSpace = '/' :: more := by
  have slash : Unicode.isWhiteSpace '/' = false := by decide
  induction filler with
  | nil => exact .inl rfl
  | @blank c rest blank _ ih =>
    rw [List.all_cons, List.dropWhile_cons_of_pos (whiteSpace_of_isBlank blank), whiteSpace_of_isBlank blank]
    simpa using ih
  | line _ _ _ => exact .inr ⟨_, List.dropWhile_cons_of_neg (by simp [slash])⟩
  | block _ _ _ => exact .inr ⟨_, List.dropWhile_cons_of_neg (by simp [slash])⟩

/-- Behind a gap no list of encodings goes on, unless a comma is ahead and only blanks are between. -/
theorem Filler.no_comma {gap rest : List Char} (filler : Filler isBlank gap)
    (other : gap.all Unicode.isWhiteSpace → ∀ after, rest.dropWhile Unicode.isWhiteSpace ≠ ',' :: after)
    (after : List Char) : (gap ++ rest).dropWhile Unicode.isWhiteSpace ≠ ',' :: after := by
  rw [List.dropWhile_append]
  rcases filler.white_or_slash with white | ⟨more, slash⟩
  · have nothing : gap.dropWhile Unicode.isWhiteSpace = [] :=
      List.dropWhile_eq_nil_iff.mpr (List.all_eq_true.mp white)
    rw [nothing]
    exact other white after
  · rw [slash]
    simp

theorem Finish.no_comma {gap : List Char} (finish : Finish isBlank gap) (after : List Char) :
    gap.dropWhile Unicode.isWhiteSpace ≠ ',' :: after := by
  rcases finish with filler | ⟨before, text, rfl, filler, _⟩
  · rw [← gap.append_nil]
    exact filler.no_comma (fun _ _ => by simp) after
  · refine filler.no_comma (fun _ _ => ?_) after
    rw [List.dropWhile_cons_of_neg (by decide)]
    simp

/-- A list of encodings goes on at a comma behind blanks. -/
theorem Stretch.lists_named {gap : List Char} {kind : TokenKind}
    (list : (Stretch.named.behind gap).lists kind) :
    gap.all Unicode.isWhiteSpace ∧ kind = .comma ∧ Stretch.named.behind gap = .named := by
  unfold Stretch.behind at list ⊢
  split at list
  · simp [Stretch.lists] at list
  · rename_i near
    rw [if_neg near]
    exact ⟨by simpa using near, by simpa [Stretch.lists] using list, rfl⟩

/-- Where a list of encodings ends, the text goes on as if there had been none. -/
theorem Laid.plain_of_named {t : Tile} {ts : List Tile} {after : List Char} (laid : Laid .named (t :: ts) after)
    (ended : (Stretch.named.behind t.gap).lists t.word.kind = false) :
    Laid .plain (t :: ts) after ∧ t.next .named = t.next .plain := by
  have behind : Stretch.plain.behind t.gap = .plain := rfl
  obtain ⟨⟨gap, spelled, quotable, -, -, clear⟩, more⟩ := laid
  rw [ended] at gap
  have next : t.next .named = t.next .plain ∧ t.word.Spelled .plain ∧
      Clear (t.word.extendedIn .plain) (paved ts after) := by
    unfold Tile.next
    unfold Stretch.behind at ended spelled clear ⊢
    split at ended
    · rename_i far
      rw [if_pos far] at spelled clear
      rw [if_pos far]
      exact ⟨rfl, spelled, clear⟩
    · rename_i near
      rw [if_neg near] at spelled clear
      rw [if_neg near]
      exact ⟨after_named (by simpa [Stretch.lists] using ended), spelled, clear⟩
  exact ⟨⟨⟨gap, next.2.1, quotable, by simp, by simp, next.2.2⟩, next.1 ▸ more⟩, next.1⟩

/-- A text laid out in tiles is cut into their words. Behind the name of an encoding a comma is read with
the name, so the tiles go by one or two. -/
theorem cuts_paved {m : Stretch} (notNamed : m ≠ .named) {tail : List Char} (finish : Finish isBlank tail) :
    (tiles : List Tile) → Laid m tiles tail → m.past tiles ≠ .equal → m.past tiles ≠ .name →
    Cuts m.mode (paved tiles tail) (tiles.map Tile.word)
  | [], _, notEqual, notName => by
    cases m with
    | plain => exact cuts_finish finish
    | named => exact absurd rfl notNamed
    | equal => exact absurd rfl notEqual
    | name => exact absurd rfl notName
  | t :: ts, ⟨⟨gap, spelled, quotable, equal, name, clear⟩, laid⟩, notEqual, notName => by
    rw [paved_cons]
    cases m with
    | named => exact absurd rfl notNamed
    | plain =>
      have cuts := cuts_paved (after_plain_ne_named t.word.kind) finish ts laid notEqual notName
      rw [mode_after_plain] at cuts
      exact (cuts.word spelled quotable clear).filler gap
    | equal =>
      obtain ⟨gap, kind, text⟩ := t
      obtain rfl : kind = .equal := equal rfl
      obtain rfl : text = "=" := spelled
      have source : (Word.mk .equal "=").piece.source = ['='] := rfl
      rw [source]
      exact (cuts_paved (m := .name) (by simp) finish ts laid notEqual notName).equal gap
    | name =>
      obtain ⟨gap, kind, text⟩ := t
      obtain rfl : kind = .identifier := name rfl
      obtain ⟨letters, rfl⟩ : ∃ letters, text = String.ofList letters := ⟨_, text.ofList_toList.symm⟩
      have encoding : EncodingName letters := by simpa [Word.Spelled, Stretch.behind] using spelled
      have source : (Word.mk .identifier (String.ofList letters)).piece.source = letters := by
        simp [Word.piece, Piece.source]
      rw [source, ← List.append_assoc]
      cases ts with
      | nil => exact (cuts_finish finish).nameLast gap encoding clear finish.no_comma
      | cons v ts =>
        have laid : Laid .named (v :: ts) tail := laid
        rcases list : (Stretch.named.behind v.gap).lists v.word.kind with _ | _
        · obtain ⟨plain, next⟩ := laid.plain_of_named list
          have ends : Stretch.named.past (v :: ts) = Stretch.plain.past (v :: ts) :=
            congrArg (fun m => m.past ts) next
          have cuts := cuts_paved (m := .plain) (by simp) finish (v :: ts) plain
            (ends ▸ notEqual) (ends ▸ notName)
          refine cuts.nameLast gap encoding clear ?_
          rw [paved_cons]
          obtain ⟨⟨between, spelled', -, -, -, -⟩, -⟩ := plain
          refine Filler.no_comma between fun white after found => ?_
          obtain ⟨c, rest, source, noBlank, isComma⟩ := source_head spelled'
          rw [source, List.cons_append, List.dropWhile_cons_of_neg (by simp [noBlank])] at found
          have comma : v.word.kind = .comma := isComma (List.cons.inj found).1
          simp [Stretch.behind, Stretch.lists, white, comma] at list
        · obtain ⟨between, comma, behind⟩ := Stretch.lists_named list
          obtain ⟨⟨-, spelled', -, -, -, -⟩, laid'⟩ := laid
          obtain ⟨gap', kind, sign⟩ := v
          obtain rfl : kind = .comma := comma
          obtain rfl : sign = "," := spelled'
          have next : Tile.next .named ⟨gap', .comma, ","⟩ = .name := by rw [Tile.next, behind]; rfl
          have ends : Stretch.named.past (⟨gap', .comma, ","⟩ :: ts) = Stretch.name.past ts :=
            congrArg (fun m => m.past ts) next
          have source : (Word.mk .comma ",").piece.source = [','] := rfl
          rw [next] at laid'
          have cuts := cuts_paved (m := .name) (by simp) finish ts laid' (ends ▸ notEqual) (ends ▸ notName)
          rw [paved_cons, source] at clear ⊢
          exact cuts.nameComma gap encoding between clear
termination_by tiles => tiles.length

end Lexer

/-- A text that is laid out in tiles has their words and no other tokens. -/
theorem tokens_paved {tiles : List Tile} {last : List Char} (laid : Laid .plain tiles last)
    (finish : Finish isBlank last) (notEqual : Stretch.plain.past tiles ≠ .equal)
    (notName : Stretch.plain.past tiles ≠ .name) :
    ∃ body finish, tokens (String.ofList (paved tiles last)) = .ok (body ++ [finish]) ∧
      finish.word = ⟨.endOfFile, ""⟩ ∧ body.map Token.word = tiles.map Tile.word := by
  have cuts : Cuts .plain (paved tiles last) _ := cuts_paved (by simp) finish tiles laid notEqual notName
  obtain ⟨ps, cut, words⟩ := cuts _ (Nat.lt_succ_self _)
  refine ⟨locate {} ps, endToken (placeAfter {} ps), ?_, rfl, (map_word_locate _ _).trans words⟩
  unfold tokens scan pieces
  rw [String.toList_ofList, cut]

end Triage
