import Triage.Proofs.Pattern.HexBytes
import Triage.Proofs.Rule.RoundTrip

/-! Definitions in braces. Their digits may be written in either case and in any tokens, with gaps between
them, and denote the bytes that they spell in pairs. -/

namespace Triage

/-! ## What readers accept in braces -/

namespace ReaderState

/-- From `s` to `t` tokens were taken in which these digits stand. -/
def TakesDigits (s t : ReaderState) (digits : List Char) : Prop :=
  ∃ body : List Token, s.unread = body ++ t.unread ∧ t.finish = s.finish ∧
    (∀ x ∈ body, x.word.HoldsDigits) ∧ body.flatMap (·.text.toList) = digits

end ReaderState

namespace Reader
variable {s : ReaderState}

theorem runs_hexString (ends : s.finish.kind = .endOfFile) : hexString.Runs s
    (fun text t => ∃ digits close, ∃ u : ReaderState, s.TakesDigits u digits ∧ u.unread = close :: t.unread ∧
      close.kind = .closeBrace ∧ digits.length % 2 = 0 ∧ digits ≠ [] ∧ text = String.ofList (rawBytes digits))
    fun _ _ => True := by
  refine runs_bind.mpr (Runs.mono (runs_bind.mpr (runs_iterate
    (fun (digits : List Char) t (taken : s.TakesDigits t digits) => ?step) _ ⟨[], rfl, rfl, by simp, rfl⟩)) (fun digits t taken => ?done) fun _ _ _ => trivial)
  case step =>
    obtain ⟨body, unread, finish, each, whole⟩ := taken
    refine runs_bind.mpr ?_
    change Runs (if t.peek.kind = .closeBrace || t.peek.kind = .endOfFile then pure none else _) t _ _
    split
    · exact ⟨body, unread, finish, each, whole⟩
    · refine runs_pastAny (finish ▸ ends) (by simp) fun u kind next finish' => runs_unless fun hex => ?_
      refine ⟨body ++ [t.peek], ?_, finish'.trans finish, ?_, ?_⟩
      · rw [unread, next, List.append_assoc]
        rfl
      · refine List.forall_mem_append.mpr ⟨each, List.forall_mem_singleton.mpr ⟨by simpa using kind, ?_⟩⟩
        simpa using hex
      · rw [List.flatMap_append, whole, List.flatMap_singleton]
        rfl
  case done =>
    have ends' : t.finish.kind = .endOfFile := taken.choose_spec.2.1 ▸ ends
    refine runs_bind.mpr ?_
    change Runs (if t.peek.kind = .endOfFile then _ else _) t _ _
    refine runs_unless fun _ => runs_unless fun even => runs_unless fun some => ?_
    refine runs_pastAny ends' (by simp) fun u kind next finish' => ?_
    exact ⟨digits, t.peek, t, taken, next, List.mem_singleton.mp kind, by omega, by simpa using some, rfl⟩

theorem runs_hexPattern {brace : Token} (ends : s.finish.kind = .endOfFile) : (hexPattern brace).Runs s
    (fun defs t => ∃ digits bytes close, ∃ u : ReaderState, s.TakesDigits u digits ∧ u.unread = close :: t.unread ∧
      close.kind = .closeBrace ∧ Hex.Spells digits bytes ∧ bytes ≠ [] ∧ ∃ d, defs = [d] ∧ d.Denotes bytes)
    fun _ _ => True := by
  refine runs_bind.mpr ((runs_hexString ends).mono ?_ fun _ _ _ => trivial)
  rintro text t ⟨digits, close, u, taken, unread, kind, even, some, rfl⟩
  have hex : digits.all Hex.isDigit := by
    obtain ⟨body, -, -, each, rfl⟩ := taken
    exact List.all_flatMap.trans (List.all_eq_true.mpr fun x member => (each x member).digits)
  obtain ⟨bytes, spells⟩ := Hex.exists_spells digits even hex
  have full : bytes ≠ [] := by
    rintro rfl
    exact some (List.map_eq_nil_iff.mp spells)
  have denotes := denotes_rawBytes spells full
  dsimp only
  unfold checkCompiles
  rw [denotes.compile]
  exact ⟨digits, bytes, close, u, taken, unread, kind, spells, full, _, rfl, denotes⟩

theorem runs_braces {equal brace : Token} {rest : List Token} (unread : s.unread = equal :: brace :: rest)
    (opens : brace.kind = .openBrace) (ends : s.finish.kind = .endOfFile) : patternDefinition.Runs s
      (fun defs t => ∃ bytes body close, rest = body ++ close :: t.unread ∧ close.kind = .closeBrace ∧
        (∀ x ∈ body, x.word.HoldsDigits) ∧ Hex.Spells (body.flatMap (·.text.toList)) bytes ∧ bytes ≠ [] ∧
        ∃ d, defs = [d] ∧ d.Denotes bytes) fun _ _ => True := by
  refine runs_pastAny ends (by simp) fun t _ next finish => ?_
  obtain ⟨-, next⟩ := List.cons.inj (unread.symm.trans next)
  have peek : t.peek = brace := by rw [ReaderState.peek, ← next, List.headD_cons]
  have skip : t.skip.unread = rest ∧ t.skip.finish = t.finish := by rw [ReaderState.skip, ← next]; exact ⟨rfl, rfl⟩
  refine runs_ok ((run_accept? .string t).trans (if_neg (by simp [peek, opens]))) ?_
  refine runs_ok ((run_accept? .openBrace t).trans (if_pos (by simp [peek, opens]))) ?_
  refine (runs_hexPattern (skip.2.trans finish ▸ ends)).mono ?_ fun _ _ _ => trivial
  rintro defs u ⟨digits, bytes, close, v, ⟨body, split, -, each, rfl⟩, last, kind, spells, some, denotes⟩
  refine ⟨bytes, body, close, ?_, kind, each, spells, some, denotes⟩
  rw [← skip.1, split, last]

end Reader

/-! ## Texts -/

namespace Lexer

/-- Characters with the gaps in front of them. -/
def spread (cs : List (List Char × Char)) : List Char := cs.flatMap fun c => c.1 ++ [c.2]

theorem spread_cons (c : List Char × Char) (cs : List (List Char × Char)) :
    spread (c :: cs) = c.1 ++ c.2 :: spread cs := by
  simp [spread]

theorem spread_append (a b : List (List Char × Char)) : spread (a ++ b) = spread a ++ spread b := List.flatMap_append

theorem spread_close {cs : List (List Char × Char)} (close : ∀ c ∈ cs, c.1 = []) : spread cs = cs.map (·.2) := by
  rw [← List.flatMap_pure_eq_map]
  exact List.flatMap_congr fun c member => by rw [close c member]; rfl

theorem Filler.starts {gap : List Char} (filler : Filler isBlank gap) {c : Char} {rest : List Char}
    (same : gap = c :: rest) : isBlank c ∨ c = '/' := by
  cases filler with
  | nil => nomatch same
  | blank is _ => exact .inl ((List.cons.inj same).1 ▸ is)
  | line _ _ => exact .inr (List.cons.inj same).1.symm
  | block _ _ => exact .inr (List.cons.inj same).1.symm

/-- A word ends at a gap and at a character that its text may not have. -/
theorem clear_gap {w : Word} {gap : List Char} (filler : Filler isBlank gap) {c : Char}
    (other : gap = [] → w.extendedBy c = false) (rest : List Char) : Clear w.extendedBy (gap ++ c :: rest) := by
  cases gap with
  | nil => exact clear_cons.mpr (other rfl)
  | cons d gap => exact clear_cons.mpr (extendedBy_gap (filler.starts rfl) w)

theorem clear_spread {w : Word} {after : List Char} (clear : Clear w.extendedBy after) {cs : List (List Char × Char)}
    (fillers : ∀ c ∈ cs, Filler isBlank c.1)
    (other : ∀ c ∈ cs.head?, c.1 = [] → w.extendedBy c.2 = false) : Clear w.extendedBy (spread cs ++ after) := by
  cases cs with
  | nil => exact clear
  | cons c cs =>
    rw [spread_cons, List.append_assoc]
    exact clear_gap (fillers c List.mem_cons_self) (other c rfl) _

theorem digit_or_letter {c : Char} (hex : Hex.isDigit c) : isDigit c ∨ startsIdentifier c := by
  obtain ⟨v, digit⟩ := Option.isSome_iff_exists.mp hex
  have ranges := Pattern.digitValue?_ranges.mp digit
  rw [isDigit_iff, startsIdentifier_iff]
  omega

/-- No keyword is made of digits. -/
theorem spelled?_digits {text : List Char} (hex : text.all Hex.isDigit) :
    Keyword.spelled? (String.ofList text) = none := by
  have other (k : Keyword) : k.spelling.toList.all Hex.isDigit = false := by cases k <;> decide
  by_contra found
  obtain ⟨k, found⟩ := Option.ne_none_iff_exists'.mp found
  have none := other k
  rw [spelling_of_spelled? found, String.toList_ofList, hex] at none
  nomatch none

/-- The word that a digit starts. -/
def digitsWord (c : Char) (more : List Char) : Word :=
  ⟨if isDigit c then .number else .identifier, String.ofList (c :: more)⟩

section digits
variable {c : Char} {more : List Char}

theorem holdsDigits_digitsWord (hex : (c :: more).all Hex.isDigit) : (digitsWord c more).HoldsDigits := by
  refine ⟨?_, by simpa [digitsWord] using hex⟩
  unfold digitsWord
  dsimp only
  split
  · exact .inr rfl
  · exact .inl rfl

theorem spelled_digitsWord (hex : (c :: more).all Hex.isDigit) (run : more.all (digitsWord c []).extendedBy) :
    (digitsWord c more).Spelled .plain := by
  have first := digit_or_letter (List.all_eq_true.mp hex c List.mem_cons_self)
  unfold digitsWord at run ⊢
  split at run
  · rename_i digit
    rw [if_pos digit]
    refine ⟨by simp, ?_⟩
    rw [String.toList_ofList, List.all_cons, digit]
    exact run
  · rename_i letter
    have starts := first.resolve_left letter
    rw [if_neg letter]
    change Identifier (String.ofList (c :: more)).toList
    rw [String.toList_ofList]
    refine ⟨⟨c, more, rfl, starts⟩, ?_, spelled?_digits hex⟩
    rw [List.all_cons, continuesIdentifier_iff.mpr (.inl starts)]
    exact run

theorem source_digitsWord (c : Char) (more : List Char) : (digitsWord c more).piece.source = c :: more := by
  unfold digitsWord Word.piece
  dsimp only
  split <;> split <;> simp_all [Piece.source]

theorem extendedBy_digitsWord {d : Char} (other : continuesIdentifier d = false) (more : List Char) :
    (digitsWord c more).extendedBy d = false := by
  have both : startsIdentifier d = false ∧ isDigit d = false := by simpa [continuesIdentifier] using other
  unfold digitsWord
  split <;> simp [Word.extendedBy, both.2, other]

theorem fits_digitsWord {gap after : List Char} (filler : Filler isBlank gap) (hex : (c :: more).all Hex.isDigit)
    (run : more.all (digitsWord c []).extendedBy) (clear : Clear (digitsWord c more).extendedBy after) :
    Tile.Fits ⟨gap, digitsWord c more⟩ .plain after where
  gap := filler
  spelled := spelled_digitsWord hex run
  quotable := by
    unfold digitsWord
    dsimp only
    split <;> simp
  equal := by simp
  name := by simp
  clear := clear

theorem next_digitsWord (gap : List Char) : Tile.next .plain ⟨gap, digitsWord c more⟩ = .plain := by
  change Stretch.plain.after (digitsWord c more).kind = .plain
  unfold digitsWord
  dsimp only
  split <;> rfl

/-- What belongs to the word that a digit starts, and what is left. -/
theorem exists_run (c : Char) (cs : List (List Char × Char)) : ∃ run left, cs = run ++ left ∧
    (∀ d ∈ run, d.1 = [] ∧ (digitsWord c []).extendedBy d.2) ∧
    ∀ d ∈ left.head?, d.1 = [] → (digitsWord c []).extendedBy d.2 = false := by
  let keeps (d : List Char × Char) : Bool := d.1.isEmpty && (digitsWord c []).extendedBy d.2
  refine ⟨cs.takeWhile keeps, cs.dropWhile keeps, List.takeWhile_append_dropWhile.symm, fun d member => ?_,
    fun d first close => ?_⟩
  · have kept : keeps d := List.mem_takeWhile_imp member
    rw [Bool.and_eq_true] at kept
    exact ⟨List.isEmpty_iff.mp kept.1, kept.2⟩
  · have stops := List.head?_dropWhile_not keeps cs
    rw [Option.mem_def.mp first] at stops
    simpa [keeps, close] using stops

end digits

/-- However digits are spread over a text, they are cut into numbers and names. -/
theorem exists_tiles {after : List Char} (clear : Clear continuesIdentifier after) (cs : List (List Char × Char))
    (each : ∀ c ∈ cs, Filler isBlank c.1 ∧ Hex.isDigit c.2) : ∃ tiles : List Tile,
      paved tiles after = spread cs ++ after ∧ Laid .plain tiles after ∧ Stretch.plain.past tiles = .plain ∧
        (∀ t ∈ tiles, t.word.HoldsDigits) ∧ tiles.flatMap (·.word.text.toList) = cs.map (·.2) := by
  -- by the number of digits: the first word takes a run of them
  induction size : cs.length using Nat.strong_induction_on generalizing cs with
  | _ n ih =>
    cases cs with
    | nil => exact ⟨[], rfl, trivial, rfl, by simp, rfl⟩
    | cons first cs =>
      obtain ⟨gap, c⟩ := first
      obtain ⟨⟨filler, hex⟩, each⟩ := List.forall_mem_cons.mp each
      obtain ⟨run, left, rfl, kept, stops⟩ := exists_run c cs
      obtain ⟨inside, eachLeft⟩ := List.forall_mem_append.mp each
      have digits : (c :: run.map (·.2)).all Hex.isDigit := by
        rw [List.all_cons, hex, List.all_map]
        exact List.all_eq_true.mpr fun d member => (inside d member).2
      have extended : (run.map (·.2)).all (digitsWord c []).extendedBy := by
        rw [List.all_map]
        exact List.all_eq_true.mpr fun d member => (kept d member).2
      have shorter : left.length < n := by
        rw [← size, List.length_cons, List.length_append]
        omega
      obtain ⟨tiles, source, laid, past, holds, text⟩ := ih _ shorter left eachLeft rfl
      have ends : Clear (digitsWord c (run.map (·.2))).extendedBy (spread left ++ after) :=
        clear_spread (fun d first => extendedBy_digitsWord (clear d first) _) (fun d member => (eachLeft d member).1) stops
      have next : Tile.next .plain ⟨gap, digitsWord c (run.map (·.2))⟩ = .plain := next_digitsWord gap
      refine ⟨⟨gap, digitsWord c (run.map (·.2))⟩ :: tiles, ?_, ⟨?_, ?_⟩, ?_, ?_, ?_⟩
      · rw [paved_cons, source_digitsWord, source]
        simp [spread_cons, spread_append, spread_close fun d member => (kept d member).1]
      · exact fits_digitsWord filler digits extended (source ▸ ends)
      · rwa [next]
      · exact (congrArg (fun m => Stretch.past m tiles) next).trans past
      · exact List.forall_mem_cons.mpr ⟨holdsDigits_digitsWord digits, holds⟩
      · rw [List.flatMap_cons, text]
        simp [digitsWord]

/-- A sign that stands between words. -/
theorem laid_sign {kind : TokenKind} {gap after : List Char} {tiles : List Tile}
    (sign : kind = .equal ∨ kind = .openBrace ∨ kind = .closeBrace) (filler : Filler isBlank gap)
    (clear : Clear (Word.sign kind).extendedBy (paved tiles after)) (laid : Laid .plain tiles after) :
    Laid .plain (⟨gap, .sign kind⟩ :: tiles) after ∧
      Stretch.plain.past (⟨gap, .sign kind⟩ :: tiles) = Stretch.plain.past tiles ∧
      paved (⟨gap, .sign kind⟩ :: tiles) after = gap ++ (kind.literal.toList ++ paved tiles after) := by
  rw [paved_cons]
  rcases sign with rfl | rfl | rfl
  all_goals exact ⟨⟨⟨filler, rfl, by simp [Word.sign], by simp, by simp, clear⟩, laid⟩, rfl, by
    simp [Word.piece, Word.sign, Piece.source]⟩

/-- The words of a definition in braces, however its digits are spread. -/
theorem tokens_braces {cs : List (List Char × Char)} {digits last : List Char}
    (chars : cs.map (·.2) = '=' :: '\x7b' :: (digits ++ ['\x7d'])) (hex : digits.all Hex.isDigit)
    (fillers : ∀ c ∈ cs, Filler isBlank c.1) (finish : Finish isBlank last) :
    ∃ ds body stop, tokens (String.ofList (spread cs ++ last)) = .ok (body ++ [stop]) ∧ stop.kind = .endOfFile ∧
      (∀ w ∈ ds, w.HoldsDigits) ∧ ds.flatMap (·.text.toList) = digits ∧
      body.map Token.word = .sign .equal :: .sign .openBrace :: (ds ++ [.sign .closeBrace]) := by
  obtain ⟨⟨g₁, _⟩, cs, rfl, rfl, chars₁⟩ := List.map_eq_cons_iff.mp chars
  obtain ⟨⟨g₂, _⟩, cs, rfl, rfl, chars₂⟩ := List.map_eq_cons_iff.mp chars₁
  obtain ⟨cs, _, rfl, rfl, chars₃⟩ := List.map_eq_append_iff.mp chars₂
  obtain ⟨⟨g₃, _⟩, rfl, rfl⟩ := List.map_eq_singleton_iff.mp chars₃
  obtain ⟨filler₁, fillers⟩ := List.forall_mem_cons.mp fillers
  obtain ⟨filler₂, fillers⟩ := List.forall_mem_cons.mp fillers
  obtain ⟨fillers, filler₃⟩ := List.forall_mem_append.mp fillers
  have filler₃ := List.forall_mem_singleton.mp filler₃
  have never {kind : TokenKind} (brace : kind = .openBrace ∨ kind = .closeBrace) (text : List Char) :
      Clear (Word.sign kind).extendedBy text := fun c _ => by rcases brace with rfl | rfl <;> rfl
  obtain ⟨closing, past₃, source₃⟩ := @laid_sign .closeBrace g₃ last [] (.inr (.inr rfl)) filler₃
    (never (.inr rfl) _) trivial
  have stop : Clear continuesIdentifier (paved [⟨g₃, .sign .closeBrace⟩] last) :=
    source₃ ▸ clear_gap (w := .name "") filler₃ (fun _ => rfl) last
  obtain ⟨tiles, source, laid, past, holds, text⟩ := exists_tiles stop cs fun c member =>
    ⟨fillers c member, List.all_eq_true.mp hex _ (List.mem_map_of_mem member)⟩
  have digitsLaid : Laid .plain (tiles ++ [⟨g₃, .sign .closeBrace⟩]) last := laid.append (past.symm ▸ closing)
  obtain ⟨opened, past₂, source₂⟩ := laid_sign (.inr (.inl rfl)) filler₂ (never (.inl rfl) _) digitsLaid
  obtain ⟨whole, past₁, source₁⟩ := laid_sign (.inl rfl) filler₁
    (source₂ ▸ clear_gap filler₂ (fun _ => rfl) _) opened
  have ends : Stretch.plain.past (⟨g₁, .sign .equal⟩ :: ⟨g₂, .sign .openBrace⟩ :: (tiles ++ [⟨g₃, .sign .closeBrace⟩])) =
      .plain := by
    rw [past₁, past₂, Stretch.past, List.foldl_append]
    change (Stretch.plain.past tiles).past _ = _
    rw [past]
    exact past₃
  obtain ⟨body, stop, lexed, kind, words⟩ := tokens_paved whole finish (by simp [ends]) (by simp [ends])
  refine ⟨tiles.map Tile.word, body, stop, ?_, congrArg Word.kind kind, ?_, ?_, ?_⟩
  · rw [← lexed, source₁, source₂, paved_append, source, source₃]
    simp [spread, paved, TokenKind.literal]
  · intro w member
    obtain ⟨t, inside, rfl⟩ := List.mem_map.mp member
    exact holds t inside
  · rw [List.flatMap_map, text]
  · rw [words]
    simp

end Lexer
open Lexer

/-- Hexadecimal patterns denote their bytes. A text of digits in braces, in either case and with gaps anywhere
between them, is read as one definition of the bytes that the digits spell; and whatever is accepted in braces
are digits that spell bytes, and is read as a definition of these. -/
theorem patternDefinition_braces :
    (∀ (cs : List (List Char × Char)) (digits last : List Char) (bytes : List UInt8) (size : Nat),
      cs.map (·.2) = '=' :: '\x7b' :: (digits ++ ['\x7d']) → (∀ c ∈ cs, Filler isBlank c.1) →
      Finish isBlank last → Hex.Spells digits bytes → bytes ≠ [] →
      ∃ ts d s, tokens (String.ofList (spread cs ++ last)) = .ok ts ∧
        Reader.patternDefinition.run (.start size ts) = (.ok [d], s) ∧ s.unread = [] ∧ d.Denotes bytes) ∧
    ∀ (s t : ReaderState) (equal brace : Token) (rest : List Token) (defs : List PatternDef),
      s.unread = equal :: brace :: rest → brace.kind = .openBrace → s.finish.kind = .endOfFile →
      Reader.patternDefinition.run s = (.ok defs, t) →
      ∃ bytes body close, rest = body ++ close :: t.unread ∧ close.kind = .closeBrace ∧
        (∀ x ∈ body, x.word.HoldsDigits) ∧ Hex.Spells (body.flatMap (·.text.toList)) bytes ∧ bytes ≠ [] ∧
        ∃ d, defs = [d] ∧ d.Denotes bytes := by
  constructor
  · intro cs digits last bytes size chars fillers finish spells some
    obtain ⟨ds, body, stop, lexed, ends, holds, whole, words⟩ := tokens_braces chars spells.all_isDigit fillers finish
    have denotes := denotes_rawBytes spells some
    have full : digits ≠ [] := by
      rintro rfl
      have length := spells.length
      rw [List.length_nil] at length
      exact some (List.length_eq_zero_iff.mp (by omega))
    have reads : Reader.Reads True _ ⟨[], 0, _⟩ ⟨[], 0, []⟩ _ := Reader.reads_braces holds whole full
      (by rw [spells.length]; omega) ⟨_, denotes.compile⟩
    obtain ⟨read, -⟩ := reads { unread := body, finish := stop } ⟨rfl, rfl, words, ends⟩
    obtain ⟨_, s, ran, sees, rfl⟩ := read trivial
    refine ⟨_, _, s, lexed, ?_, List.map_eq_nil_iff.mp sees.words, denotes⟩
    rw [ReaderState.start_eq size ends, ran]
  · intro s t equal brace rest defs unread opens ends ran
    exact (Reader.runs_braces unread opens ends).of_ok ran

/-- The bytes `9f e5 41`, whose digits are cut into a number, two names and two numbers. -/
theorem patternDefinition_braces_spread : ∃ ts d s, tokens "= \x7b9f/*,*/E5 4 1\x7d" = .ok ts ∧
    Reader.patternDefinition.run (.start 17 ts) = (.ok [d], s) ∧ s.unread = [] ∧ d.Denotes [0x9f, 0xe5, 0x41] := by
  refine patternDefinition_braces.1 [([], '='), ([' '], '\x7b'), ([], '9'), ([], 'f'), ("/*,*/".toList, 'E'), ([], '5'),
    ([' '], '4'), ([' '], '1'), ([], '\x7d')] "9fE541".toList [] [0x9f, 0xe5, 0x41] 17 rfl ?_ (.inl .nil) (by decide)
    (by simp)
  have blank : Filler isBlank [' '] := .blank rfl .nil
  have comment : Filler isBlank "/*,*/".toList := @Filler.block isBlank [','] [] (by decide) .nil
  simp only [List.forall_mem_cons]
  exact ⟨.nil, blank, .nil, .nil, comment, .nil, blank, blank, .nil, by simp⟩

end Triage
