import Triage.Proofs.Rule.Identity

/-! Layout. Other gaps between the words of a text change neither its words nor its rules, and its errors
only in where they stand. -/

namespace Triage
open Lexer

/-! ## Readers do not see places -/

namespace Reader

theorem whole_get_bind {β δ : Type} {view : β → δ} {Q : β → Prop} {f f' : ReaderState → Reader β}
    (next : ∀ s s' : ReaderState, s.Same s' → (f s).Agree .whole view Q (f' s')) :
    (get >>= f).Agree .whole view Q (get >>= f') where
  eats s ends := runs_bind.mpr ((next s s ⟨rfl, rfl, rfl, rfl, rfl, ends⟩).eats s ends)
  follows s s' same sees := by
    rw [run_bind, run_get] at sees ⊢
    exact (next s s' same).follows s s' same sees

theorem texts_of_same {s s' : ReaderState} (same : s.Same s') (n : Nat) :
    (s'.unread.take n).map (·.text) = (s.unread.take n).map (·.text) := by
  have words := congrArg (fun ws : List Word => (ws.take n).map (·.text)) same.words
  simpa [List.map_take, List.map_map, Function.comp_def] using words.symm

theorem agree_declaration {s s' : ReaderState} (same : s.Same s') :
    (declaration s).Likewise .whole idle (declaration s') := by
  rw [declaration_eq, declaration_eq]
  refine (sections_blind _).then fun x => (agree_expect (by simp)).discard.then fun _ => ?_
  refine whole_get_bind fun t t' stop => agree_pure ?_ False.elim
  rw [same.index, stop.index, texts_of_same same]

/-- From the same words ahead a rule is read the same, or fails with the same fault. -/
theorem outcomes_rule {s s' : ReaderState} (same : s.Same s') :
    Outcomes id (rule.run s).1 (rule.run s').1 := by
  have fresh : ({ s with declared := [] } : ReaderState).Same { s' with declared := [] } :=
    ⟨same.words, same.finish, same.index, same.nesting, rfl, same.ends⟩
  have agree : (discard (expectKeyword .rule) >>= fun _ => declaration s).Likewise .whole idle
      (discard (expectKeyword .rule) >>= fun _ => declaration s') :=
    (agree_expect (by simp)).discard.then fun _ => agree_declaration same
  exact (agree.follows _ _ fresh trivial).1

end Reader

/-- Tokens of the same words. -/
structure Rewritten (ts ts' : List Token) : Prop where
  words : ts'.map Token.word = ts.map Token.word
  ends : ∃ body finish, ts = body ++ [finish] ∧ finish.kind = .endOfFile

section account
variable {ts ts' : List Token}

theorem startAt_same (same : Rewritten ts ts') (size size' i : Nat) :
    (ReaderState.startAt size ts i).Same (ReaderState.startAt size' ts' i) := by
  obtain ⟨words, body, finish, rfl, ends⟩ := same
  rw [List.map_append, List.map_singleton] at words
  obtain ⟨body', last, rfl, bodies, lasts⟩ := List.map_eq_append_iff.mp words
  obtain ⟨finish', rfl, finishes⟩ := List.map_eq_singleton_iff.mp lasts
  have ends' : finish'.kind = .endOfFile := (Token.kind_of_word finishes).trans ends
  rw [ReaderState.startAt, ReaderState.startAt, ReaderState.start_eq _ ends, ReaderState.start_eq _ ends']
  exact ⟨by simp [List.map_drop, bodies], finishes, rfl, rfl, rfl, ends⟩

theorem outcomesAt (same : Rewritten ts ts') (size size' i : Nat) :
    Reader.Outcomes id (outcomeAt size ts i) (outcomeAt size' ts' i) :=
  Reader.outcomes_rule (startAt_same same size size' i)

theorem word?_rewritten (same : Rewritten ts ts') (i : Nat) :
    (ts'[i]?).map Token.word = (ts[i]?).map Token.word := by
  rw [← List.getElem?_map, ← List.getElem?_map, same.words]

theorem strayAt_faults (same : Rewritten ts ts') (i : Nat) :
    (strayAt ts' i).map (·.fault) = (strayAt ts i).map (·.fault) := by
  have words := word?_rewritten same i
  unfold strayAt
  cases here : ts[i]? with
  | none =>
    rw [here] at words
    rw [Option.map_eq_none_iff.mp words]
  | some t =>
    rw [here] at words
    obtain ⟨t', here', word⟩ := Option.map_eq_some_iff.mp words
    rw [here']
    dsimp only
    rw [Token.kind_of_word word]
    split <;> rfl

theorem startsFrom_rewritten {ts ts' : List Token} (words : ts'.map Token.word = ts.map Token.word) (i : Nat) :
    startsFrom i ts' = startsFrom i ts := by
  induction ts generalizing ts' i with
  | nil => rw [List.map_eq_nil_iff.mp words]
  | cons t ts ih =>
    obtain ⟨t', ts', rfl, word, others⟩ := List.map_eq_cons_iff.mp words
    rw [startsFrom_cons, startsFrom_cons, ih others, Token.kind_of_word word]

theorem errorsAt_faults (same : Rewritten ts ts') (size size' i : Nat) :
    (errorsAt size' ts' i).map (·.fault) = (errorsAt size ts i).map (·.fault) := by
  have outcomes := outcomesAt same size size' i
  unfold errorsAt
  rcases here : outcomeAt size ts i with e | r <;> rcases here' : outcomeAt size' ts' i with e' | r' <;>
    rw [here, here'] at outcomes
  · exact congrArg ([·]) outcomes
  · exact outcomes.elim
  · exact outcomes.elim
  · obtain rfl : r' = r := outcomes
    exact strayAt_faults same r'.lastToken

theorem account_rewritten (same : Rewritten ts ts') (size size' : Nat) {stray stray' : List ParseError}
    (strays : stray'.map (·.fault) = stray.map (·.fault)) (starts : List Nat) :
    (account size' ts' stray' starts).rules = (account size ts stray starts).rules ∧
      (account size' ts' stray' starts).errors.map (·.fault) =
        (account size ts stray starts).errors.map (·.fault) := by
  constructor
  · refine congrArg (starts.filterMap ·) (funext fun i => ?_)
    have outcomes := outcomesAt same size size' i
    rcases here : outcomeAt size ts i with e | r <;> rcases here' : outcomeAt size' ts' i with e' | r' <;>
      rw [here, here'] at outcomes
    · rfl
    · exact outcomes.elim
    · exact outcomes.elim
    · exact congrArg some outcomes
  · simp only [account, List.map_append, List.map_flatMap, strays, errorsAt_faults same size size']

end account

/-- Two texts have the same words, the same rules, and the same errors but for where those stand. -/
def ReadAlike (text text' : String) : Prop :=
  ∃ ts ts' list list', tokens text = .ok ts ∧ tokens text' = .ok ts' ∧
    ts'.map Token.word = ts.map Token.word ∧ parseRules text = .ok list ∧ parseRules text' = .ok list' ∧
    list'.rules = list.rules ∧ list'.errors.map (·.fault) = list.errors.map (·.fault)

/-- The words of a text decide what is read from it. -/
theorem readAlike_of_words {text text' : String} {ts ts' : List Token} (lexed : tokens text = .ok ts)
    (lexed' : tokens text' = .ok ts') (words : ts'.map Token.word = ts.map Token.word) :
    ReadAlike text text' := by
  obtain ⟨body, finish, whole, ends, -⟩ := tokens_spelled lexed
  have same : Rewritten ts ts' := ⟨words, body, finish, whole, ends⟩
  have starts : ruleStarts ts' = ruleStarts ts := startsFrom_rewritten words 0
  have accounts := account_rewritten same text.utf8ByteSize text'.utf8ByteSize (strayAt_faults same 0)
    (ruleStarts ts)
  refine ⟨ts, ts', _, _, lexed, lexed', words, parseRules_eq_account lexed, parseRules_eq_account lexed', ?_⟩
  rw [starts]
  exact accounts

/-! ## Other gaps -/

/-- What may stand in place of a gap of a stretch: another one that is not empty, but the same within a
list of encodings. -/
def Lexer.Stretch.Regaps (m : Stretch) (gap gap' : List Char) : Prop :=
  gap' = gap ∨ m = .plain ∧ gap' ≠ [] ∧ Filler isBlank gap'

/-- Tiles of the same words with other gaps before them, and another gap behind. -/
def Regapped : Stretch → List Tile → List Char → List Tile → List Char → Prop
  | m, [], last, [], last' => m.Regaps last last'
  | m, t :: ts, last, t' :: ts', last' =>
    m.Regaps t.gap t'.gap ∧ t'.word = t.word ∧ Regapped (t.next m) ts last ts' last'
  | _, _, _, _, _ => False

namespace Lexer

theorem Filler.head {gap : List Char} (filler : Filler isBlank gap) (some : gap ≠ []) :
    ∃ c rest, gap = c :: rest ∧ (isBlank c ∨ c = '/') := by
  cases filler with
  | nil => exact absurd rfl some
  | blank blank _ => exact ⟨_, _, rfl, .inl blank⟩
  | line _ _ | block _ _ => exact ⟨_, _, rfl, .inr rfl⟩

theorem source_ne_nil {w : Word} {m : Stretch} (spelled : w.Spelled m) : w.piece.source ≠ [] := by
  have of_plain (plain : w.Spelled .plain) : w.piece.source ≠ [] := by
    obtain ⟨c, more, source, -⟩ := source_head plain
    rw [source]
    simp
  obtain ⟨kind, text⟩ := w
  cases kind with
  | identifier =>
    by_cases name : m = .name
    · have encoding : EncodingName text.toList := by simpa [Word.Spelled, name] using spelled
      simpa [Word.piece, Piece.source] using encoding.1
    · exact of_plain (by simpa [Word.Spelled, name] using spelled)
  | _ => exact of_plain spelled

/-- A gap that is not empty starts with a character of its own. -/
theorem clear_of_gap {p : Char → Bool} {gap : List Char} (filler : Filler isBlank gap) (some : gap ≠ [])
    (gaps : ∀ c, isBlank c ∨ c = '/' → p c = false) (rest : List Char) : Clear p (gap ++ rest) := by
  obtain ⟨c, more, rfl, first⟩ := filler.head some
  exact clear_cons.mpr (gaps c first)

/-- What is ahead of a word is still no part of it when the gaps there are other ones. -/
theorem clear_regapped {p : Char → Bool} {m : Stretch} {ts ts' : List Tile} {last last' : List Char}
    (laid : Laid m ts last) (regapped : Regapped m ts last ts' last')
    (gaps : m = .plain → ∀ c, isBlank c ∨ c = '/' → p c = false) (clear : Clear p (paved ts last)) :
    Clear p (paved ts' last') := by
  cases ts with
  | nil =>
    cases ts' with
    | cons t' ts' => exact regapped.elim
    | nil =>
      rcases regapped with rfl | ⟨plain, some, filler⟩
      · exact clear
      · have other := clear_of_gap filler some (gaps plain) []
        rwa [List.append_nil] at other
  | cons t ts =>
    cases ts' with
    | nil => exact regapped.elim
    | cons t' ts' =>
      obtain ⟨gap, word, -⟩ := regapped
      rw [paved_cons] at clear ⊢
      rcases gap with same | ⟨plain, some, filler⟩
      · obtain ⟨c, more, split⟩ := List.exists_cons_of_ne_nil
          (List.append_ne_nil_of_right_ne_nil t.gap (source_ne_nil laid.1.spelled))
        rw [← List.append_assoc, split] at clear
        rw [same, word, ← List.append_assoc, split]
        exact clear_cons.mpr (clear_cons.mp clear)
      · exact clear_of_gap filler some (gaps plain) _

/-- Where only what is read past follows, nothing that a gap starts with belongs to a word. -/
theorem gaps_of_next_plain {t : Tile} {m : Stretch} {after : List Char} (fits : t.Fits m after)
    (next : t.next m = .plain) {c : Char} (first : isBlank c ∨ c = '/') :
    t.word.extendedIn (m.behind t.gap) c = false := by
  cases within : m.behind t.gap with
  | equal => rfl
  | plain => exact extendedBy_gap first _
  | named => exact extendedBy_gap first _
  | name =>
    have inName : m = .name := by
      unfold Stretch.behind at within
      split at within
      · cases within
      · exact within
    rw [Tile.next, within, fits.name inName] at next
    cases next

theorem laid_regapped {m : Stretch} {ts ts' : List Tile} {last last' : List Char} (laid : Laid m ts last)
    (regapped : Regapped m ts last ts' last') :
    Laid m ts' last' ∧ m.past ts' = m.past ts ∧ ts'.map Tile.word = ts.map Tile.word := by
  induction ts generalizing m ts' with
  | nil =>
    cases ts' with
    | nil => exact ⟨trivial, rfl, rfl⟩
    | cons t' ts' => exact regapped.elim
  | cons t ts ih =>
    cases ts' with
    | nil => exact regapped.elim
    | cons t' ts' =>
      obtain ⟨fits, laid⟩ := laid
      obtain ⟨gap, word, regapped⟩ := regapped
      obtain ⟨gap', word'⟩ := t'
      obtain rfl : word' = t.word := word
      have behind : m.behind gap' = m.behind t.gap := by
        rcases gap with rfl | ⟨rfl, -, -⟩ <;> rfl
      have next : Tile.next m ⟨gap', t.word⟩ = t.next m := congrArg (·.after t.word.kind) behind
      obtain ⟨laid', past, words⟩ := ih laid regapped
      have clear := clear_regapped laid regapped
        (fun next c first => gaps_of_next_plain fits next first) fits.clear
      refine ⟨⟨⟨?_, behind ▸ fits.spelled, fits.quotable, fits.equal, fits.name, behind ▸ clear⟩,
        next ▸ laid'⟩, ?_, congrArg (t.word :: ·) words⟩
      · rw [behind]
        rcases gap with same | ⟨rfl, -, filler⟩
        · rw [same]
          exact fits.gap
        · exact filler
      · rw [Stretch.past, List.foldl_cons, next]
        exact past

theorem finish_regapped {m : Stretch} {ts ts' : List Tile} {last last' : List Char}
    (finish : Finish isBlank last) (regapped : Regapped m ts last ts' last') : Finish isBlank last' := by
  induction ts generalizing m ts' with
  | nil =>
    cases ts' with
    | nil =>
      rcases regapped with rfl | ⟨-, -, filler⟩
      · exact finish
      · exact .inl filler
    | cons t' ts' => exact regapped.elim
  | cons t ts ih =>
    cases ts' with
    | nil => exact regapped.elim
    | cons t' ts' => exact ih regapped.2.2

theorem map_word_standing (before : List Char) (tiles : List Tile) :
    (standing before tiles).map Token.word = tiles.map Tile.word := by
  induction tiles generalizing before with
  | nil => rfl
  | cons t ts ih => exact congrArg (t.word :: ·) (ih _)

end Lexer

/-- The layout of a text does not matter. Its gaps may give way to any others that are not empty, if those
of lists of encodings stay: the words stay the same, and so do the rules and the faults. -/
theorem readAlike_regapped {text : String} {ts : List Token} (lexed : tokens text = .ok ts) :
    ∃ tiles last, text.toList = paved tiles last ∧
      ts = standing [] tiles ++ [Word.standing ⟨.endOfFile, ""⟩ text.toList] ∧
      ∀ tiles' last', Regapped .plain tiles last tiles' last' →
        ReadAlike text (String.ofList (paved tiles' last')) := by
  obtain ⟨tiles, last, rest, closing, source, laid, body, -, ends⟩ := scan_tiling text
  have read := lexed
  unfold tokens at read
  dsimp only at read
  cases fault : (scan text).error with
  | some e => rw [fault] at read; nomatch read
  | none =>
    rw [fault] at read ends
    obtain rfl : (scan text).tokens = ts := Except.ok.inj read
    obtain ⟨rfl, rfl, finish, notEqual, notName⟩ := ends
    rw [List.append_nil] at source laid
    refine ⟨tiles, last, source, body, fun tiles' last' regapped => ?_⟩
    obtain ⟨laid', past, words⟩ := laid_regapped laid regapped
    rw [← past] at notEqual notName
    obtain ⟨body', finish', lexed', ends', words'⟩ :=
      tokens_paved laid' (finish_regapped finish regapped) notEqual notName
    refine readAlike_of_words lexed lexed' ?_
    rw [body, List.map_append, List.map_append, words', words, map_word_standing, List.map_singleton, ends']
    rfl

theorem readAlike_braces : ∃ ts, tokens "rule A\x7b\x7d" = .ok ts ∧ ∃ tiles last,
    "rule A\x7b\x7d".toList = paved tiles last ∧
    ts = standing [] tiles ++ [Word.standing ⟨.endOfFile, ""⟩ "rule A\x7b\x7d".toList] ∧
    ∀ tiles' last', Regapped .plain tiles last tiles' last' →
      ReadAlike "rule A\x7b\x7d" (String.ofList (paved tiles' last')) := by
  obtain ⟨ts, lexed⟩ : ∃ ts, tokens "rule A\x7b\x7d" = .ok ts := ⟨_, rfl⟩
  exact ⟨ts, lexed, readAlike_regapped lexed⟩

end Triage
