import Triage.Proofs.Token.Tiles

/-! What is read tiles the text: between the tokens stand gaps and nothing else, and each token has its
true place. -/

namespace Triage
open Lexer

/-! ## Places -/

/-- The place of the character behind a text, counted from the text alone. -/
def Position.behind (before : List Char) : Position :=
  ⟨1 + before.count '\n', 1 + (before.reverse.takeWhile (· ≠ '\n')).length⟩

theorem Position.behind_after (before : List Char) (c : Char) :
    (Position.behind before).after c = Position.behind (before ++ [c]) := by
  unfold Position.after Position.behind
  by_cases newline : c = '\n'
  · simp [newline, Nat.add_assoc]
  · simp [newline, Nat.add_comm]

theorem Position.behind_afterAll (before text : List Char) :
    (Position.behind before).afterAll text = Position.behind (before ++ text) := by
  induction text generalizing before with
  | nil => simp [Position.afterAll]
  | cons c text ih =>
    rw [Position.afterAll, List.foldl_cons, Position.behind_after]
    exact (ih _).trans (by simp)

/-- How much of a word's piece stands before its text. -/
def Word.quote (w : Word) : Nat := if w.kind = .string then 1 else 0

/-- The token of a word that stands behind a text. -/
def Word.standing (w : Word) (before : List Char) : Token :=
  ⟨w.kind, byteSize before + w.quote, byteSize before + w.quote + byteSize w.text.toList,
    Position.behind before, w.text⟩

/-- The tokens of tiles that stand behind a text. -/
def standing (before : List Char) : List Tile → List Token
  | [] => []
  | t :: ts => t.word.standing (before ++ t.gap) :: standing (before ++ t.source) ts

/-! ## Where rules start -/

/-- The numbers of the tokens that start a rule, the first token having number `i`. -/
def startsFrom (i : Nat) (ts : List Token) : List Nat :=
  (ts.zipIdx i).filterMap fun (t, i) => if t.kind = .keyword .rule then some i else none

theorem ruleStarts_eq (ts : List Token) : ruleStarts ts = startsFrom 0 ts := rfl

theorem startsFrom_cons (i : Nat) (t : Token) (ts : List Token) : startsFrom i (t :: ts) =
    if t.kind = .keyword .rule then i :: startsFrom (i + 1) ts else startsFrom (i + 1) ts := by
  rw [startsFrom, List.zipIdx_cons, List.filterMap_cons]
  by_cases starts : t.kind = .keyword .rule <;> simp [starts, startsFrom]

theorem startsFrom_append (i : Nat) {a : List Token} (b : List Token)
    (others : ∀ t ∈ a, t.kind ≠ .keyword .rule) :
    startsFrom i (a ++ b) = startsFrom (i + a.length) b := by
  induction a generalizing i with
  | nil => simp
  | cons t a ih =>
    obtain ⟨first, others⟩ := List.forall_mem_cons.mp others
    rw [List.cons_append, startsFrom_cons, if_neg first, ih _ others, List.length_cons]
    congr 1
    omega

theorem le_of_mem_startsFrom {i j : Nat} {ts : List Token} (member : j ∈ startsFrom i ts) : i ≤ j := by
  obtain ⟨⟨t, k⟩, member, starts⟩ := List.mem_filterMap.mp member
  have place := List.mem_zipIdx member
  split at starts
  simp_all

theorem mem_ruleStarts {ts : List Token} {i : Nat} :
    i ∈ ruleStarts ts ↔ ∃ t, ts[i]? = some t ∧ t.kind = .keyword .rule := by
  rw [ruleStarts, List.mem_filterMap]
  constructor
  · rintro ⟨⟨t, j⟩, member, starts⟩
    obtain ⟨kind, same⟩ := Option.ite_none_right_eq_some.mp starts
    obtain rfl := Option.some.inj same
    exact ⟨t, List.mk_mem_zipIdx_iff_getElem?.mp member, kind⟩
  · rintro ⟨t, there, kind⟩
    exact ⟨(t, i), List.mk_mem_zipIdx_iff_getElem?.mpr there, if_pos kind⟩

theorem pairwise_startsFrom (i : Nat) (ts : List Token) : (startsFrom i ts).Pairwise (· < ·) := by
  induction ts generalizing i with
  | nil => exact .nil
  | cons t ts ih =>
    rw [startsFrom_cons]
    split
    · exact .cons (fun j member => le_of_mem_startsFrom member) (ih _)
    · exact ih _

namespace Lexer

theorem byteSize_append (a b : List Char) : byteSize (a ++ b) = byteSize a + byteSize b := by
  induction a with
  | nil => simp [byteSize]
  | cons c a ih =>
    simp only [byteSize, List.cons_append, List.map_cons, List.foldr_cons] at ih ⊢
    omega

def Place.behind (before : List Char) : Place := ⟨byteSize before, Position.behind before⟩

theorem Place.behind_nil : Place.behind [] = {} := rfl

theorem Place.behind_afterAll (before text : List Char) :
    (Place.behind before).afterAll text = Place.behind (before ++ text) := by
  rw [Place.afterAll, Place.behind, Place.behind, Position.behind_afterAll, byteSize_append]

theorem tokenAt_behind (before : List Char) (w : Word) :
    tokenAt (Place.behind before) w.piece = some (w.standing before) := by
  obtain ⟨kind, text⟩ := w
  by_cases quoted : kind = .string
  · simp [Word.piece, quoted, tokenAt, Word.standing, Word.quote, Place.behind]
  · simp [Word.piece, quoted, tokenAt, Word.standing, Word.quote, Place.behind]

/-! ## From pieces to tiles -/

/-- The pieces behind a gap are these tiles, the first of which has the gap in front, and a last gap. -/
inductive Tiled : List Char → List Piece → List Tile → List Char → Prop
  | nil {gap : List Char} : Tiled gap [] [] gap
  | skip {gap last : List Char} {piece : Piece} {ps : List Piece} {ts : List Tile} :
      piece.word? = none → Tiled (gap ++ piece.source) ps ts last → Tiled gap (piece :: ps) ts last
  | word {gap last : List Char} {ps : List Piece} {ts : List Tile} (w : Word) :
      Tiled [] ps ts last → Tiled gap (w.piece :: ps) (⟨gap, w⟩ :: ts) last

section tiled
variable {gap white last : List Char} {ps : List Piece} {ts : List Tile}

theorem Tiled.blanks (tiled : Tiled (gap ++ white) ps ts last) : Tiled gap (blanks white ++ ps) ts last := by
  unfold Lexer.blanks
  split
  · rename_i empty
    rw [List.isEmpty_iff.mp empty, List.append_nil] at tiled
    exact tiled
  · exact .skip rfl tiled

theorem Tiled.locate (tiled : Tiled gap ps ts last) (before : List Char) :
    locate (Place.behind (before ++ gap)) ps = standing before ts ∧
      placeAfter (Place.behind (before ++ gap)) ps = Place.behind (before ++ paved ts last) := by
  induction tiled generalizing before with
  | nil => exact ⟨rfl, rfl⟩
  | @skip gap last piece ps ts none _ ih =>
    obtain ⟨located, place⟩ := ih before
    have noToken : tokenAt (Place.behind (before ++ gap)) piece = Option.none := by
      cases piece with
      | blank _ | comment _ => rfl
      | token _ _ | quoted _ => nomatch none
    rw [← List.append_assoc, ← Place.behind_afterAll] at located place
    exact ⟨by rw [Lexer.locate, noToken]; exact located, place⟩
  | @word gap last ps ts w _ ih =>
    obtain ⟨located, place⟩ := ih (before ++ gap ++ w.piece.source)
    rw [List.append_nil, ← Place.behind_afterAll] at located place
    rw [Lexer.locate, tokenAt_behind, located, standing, paved_cons]
    refine ⟨by simp [Tile.source], ?_⟩
    rw [placeAfter, List.foldl_cons, ← placeAfter, place]
    simp

theorem ruleIndices_piece (index : Nat) (w : Word) (ps : List Piece) : ruleIndices index (w.piece :: ps) =
    if w.kind = .keyword .rule then index :: ruleIndices (index + 1) ps else ruleIndices (index + 1) ps := by
  obtain ⟨kind, text⟩ := w
  cases kind with
  | keyword k => cases k <;> rfl
  | _ => rfl

theorem Tiled.ruleIndices (tiled : Tiled gap ps ts last) (before : List Char) (index : Nat) :
    ruleIndices index ps = startsFrom index (standing before ts) := by
  induction tiled generalizing before index with
  | nil => rfl
  | @skip gap last piece ps ts none _ ih =>
    cases piece with
    | blank _ | comment _ => exact ih before index
    | token _ _ | quoted _ => nomatch none
  | @word gap last ps ts w _ ih =>
    rw [Triage.standing, startsFrom_cons, ← ih]
    exact ruleIndices_piece index w ps

end tiled

/-! ## What reading makes of a text -/

/-- What may have been read since the last word: a gap, or one that ends in a comment up to the end of its
line. -/
def Pending (gap ahead : List Char) : Prop :=
  Filler isBlank gap ∨ ∃ before text, gap = before ++ '/' :: '/' :: text ∧ Filler isBlank before ∧
    '\n' ∉ text ∧ (ahead = [] ∨ ∃ more, ahead = '\n' :: more)

theorem Pending.filler {gap ahead : List Char} {c : Char} (pending : Pending gap (c :: ahead))
    (other : isBlank c = false) : Filler isBlank gap := by
  rcases pending with filler | ⟨_, _, _, _, _, ends | ⟨more, ends⟩⟩
  · exact filler
  · nomatch ends
  · obtain rfl : c = '\n' := (List.cons.inj ends).1
    nomatch other

theorem Pending.blank {gap ahead : List Char} {c : Char} (pending : Pending gap (c :: ahead))
    (blank : isBlank c) : Filler isBlank (gap ++ [c]) := by
  rcases pending with filler | ⟨before, text, rfl, filler, free, ends | ⟨more, ends⟩⟩
  · exact filler.append (.blank blank .nil)
  · nomatch ends
  · obtain rfl : c = '\n' := (List.cons.inj ends).1
    have line := filler.append (.line free .nil)
    simpa using line

theorem Pending.finish {gap : List Char} (pending : Pending gap []) : Finish isBlank gap := by
  rcases pending with filler | ⟨before, text, same, filler, free, _⟩
  · exact .inl filler
  · exact .inr ⟨before, text, same, filler, free⟩

/-- Where reading stands in a text: in a stretch, behind a gap since the last word. -/
structure Standing (m : Stretch) (mode : Mode) (gap ahead : List Char) : Prop where
  mode : mode = m.mode
  pending : Pending gap ahead
  listed : m = .equal ∨ m = .name → gap = []
  ended : m = .named → ∀ after, (gap ++ ahead).dropWhile Unicode.isWhiteSpace ≠ ',' :: after

theorem standing_start {m : Stretch} (plain : m ≠ .named) (text : List Char) : Standing m m.mode [] text :=
  ⟨rfl, .inl .nil, fun _ => rfl, fun same => absurd same plain⟩

/-- The pieces of a text are tiles that are laid out in it, with the rest behind the last gap. -/
structure Tiling (m : Stretch) (gap text : List Char) (ps : List Piece) (failure : Option Failure)
    (tiles : List Tile) (last rest : List Char) : Prop where
  tiled : Tiled gap ps tiles last
  source : gap ++ text = paved tiles (last ++ rest)
  laid : Laid m tiles (last ++ rest)
  ends : failure = none → rest = [] ∧ Finish isBlank last ∧ m.past tiles ≠ .equal ∧ m.past tiles ≠ .name
  stops : ∀ f, failure = some f → Filler Unicode.isWhiteSpace last

section tiling
variable {m : Stretch} {gap text last rest : List Char} {ps : List Piece} {failure : Option Failure}
  {tiles : List Tile}

theorem Tiling.skip (piece : Piece) (tiling : Tiling m (gap ++ piece.source) text ps failure tiles last rest)
    (none : piece.word? = none) :
    Tiling m gap (piece.source ++ text) (piece :: ps) failure tiles last rest :=
  { tiling with
    tiled := .skip none tiling.tiled
    source := by rw [← tiling.source, List.append_assoc] }

theorem Tiling.blanks (gap : List Char) {white : List Char} (tiling : Tiling m (gap ++ white) text ps failure tiles last rest) :
    Tiling m gap (white ++ text) (blanks white ++ ps) failure tiles last rest :=
  { tiling with
    tiled := tiling.tiled.blanks
    source := by rw [← tiling.source, List.append_assoc] }

theorem Tiling.word {w : Word} (fits : Tile.Fits ⟨gap, w⟩ m text)
    (tiling : Tiling (Tile.next m ⟨gap, w⟩) [] text ps failure tiles last rest) :
    Tiling m gap (w.piece.source ++ text) (w.piece :: ps) failure (⟨gap, w⟩ :: tiles) last rest := by
  have source : text = paved tiles (last ++ rest) := tiling.source
  exact
    { tiling with
      tiled := .word w tiling.tiled
      source := by rw [paved_cons, ← source]
      laid := ⟨source ▸ fits, tiling.laid⟩ }

theorem Tiling.finish (finish : Finish isBlank gap) (notEqual : m ≠ .equal) (notName : m ≠ .name) :
    Tiling m gap [] [] none [] gap [] where
  tiled := .nil
  source := rfl
  laid := trivial
  ends _ := ⟨rfl, finish, notEqual, notName⟩
  stops _ same := nomatch same

theorem Tiling.fault (filler : Filler Unicode.isWhiteSpace gap) (f : Failure) :
    Tiling m gap text [] (some f) [] gap text where
  tiled := .nil
  source := rfl
  laid := trivial
  ends same := nomatch same
  stops _ _ := filler

end tiling

theorem Filler.white {gap : List Char} (filler : Filler isBlank gap) : Filler Unicode.isWhiteSpace gap :=
  filler.mono fun _ => whiteSpace_of_isBlank

theorem Finish.white {gap : List Char} (finish : Finish isBlank gap) : Finish Unicode.isWhiteSpace gap := by
  rcases finish with filler | ⟨before, text, same, filler, free⟩
  · exact .inl filler.white
  · exact .inr ⟨before, text, same, filler.white, free⟩

theorem piece_ofList {kind : TokenKind} (text : List Char) (quoted : kind ≠ .string) :
    (Word.mk kind (String.ofList text)).piece = .token kind text := by
  simp [Word.piece, quoted]

/-- A word that is read on its own stands where it may. -/
theorem fits_word {m : Stretch} {gap rest : List Char} {w : Word} (filler : Filler isBlank gap)
    (plain : m = .plain ∨ m = .named) (spelled : w.Spelled .plain)
    (quotable : w.kind = .string → Quotable w.text.toList) (clear : Clear w.extendedBy rest)
    (ended : m = .named → ∀ after,
      (gap ++ (w.piece.source ++ rest)).dropWhile Unicode.isWhiteSpace ≠ ',' :: after) :
    Tile.Fits ⟨gap, w⟩ m rest ∧ Tile.next m ⟨gap, w⟩ = Stretch.plain.after w.kind := by
  have behind : m.behind gap = .plain ∨ m.behind gap = .named ∧ w.kind ≠ .comma := by
    rcases plain with rfl | rfl
    · exact .inl rfl
    by_cases white : gap.all Unicode.isWhiteSpace
    · refine .inr ⟨behind_white white _, fun comma => ?_⟩
      obtain ⟨kind, text⟩ := w
      obtain rfl : kind = .comma := comma
      obtain rfl : text = "," := spelled
      have clear : Clear Unicode.isWhiteSpace (',' :: rest) := clear_cons.mpr (by decide)
      exact ended rfl rest (takeWhile_clear white clear).2
    · exact .inl (by simp [Stretch.behind, white])
  have equal : m ≠ .equal ∧ m ≠ .name := by rcases plain with rfl | rfl <;> simp
  rcases behind with behind | ⟨behind, other⟩
  · refine ⟨⟨?_, ?_, quotable, fun same => absurd same equal.1, fun same => absurd same equal.2, ?_⟩, ?_⟩
    · rw [behind]
      exact filler
    · rw [behind]
      exact spelled
    · rw [behind]
      exact clear
    · rw [Tile.next, behind]
  · refine ⟨⟨?_, spelled_anywhere spelled _, quotable, fun same => absurd same equal.1,
      fun same => absurd same equal.2, ?_⟩, ?_⟩
    · rw [behind, if_neg (by simpa [Stretch.lists] using other)]
      exact filler
    · rw [behind]
      exact clear
    · rw [Tile.next, behind]
      exact after_named other

section lists
variable {gap name rest : List Char}

theorem fits_equal (rest : List Char) (white : gap.all Unicode.isWhiteSpace) :
    Tile.Fits ⟨gap, ⟨.equal, "="⟩⟩ .equal rest ∧ Tile.next .equal ⟨gap, ⟨.equal, "="⟩⟩ = .name := by
  have behind := behind_white white .equal
  refine ⟨⟨?_, by rw [behind]; exact rfl, by simp, fun _ => rfl, by simp, ?_⟩, by rw [Tile.next, behind]; rfl⟩
  · rw [behind]
    exact white
  · rw [behind]
    exact fun _ _ => rfl

theorem fits_name (white : gap.all Unicode.isWhiteSpace) (encoding : EncodingName name)
    (clear : Clear continuesEncoding rest) : Tile.Fits ⟨gap, ⟨.identifier, String.ofList name⟩⟩ .name rest ∧
      Tile.next .name ⟨gap, ⟨.identifier, String.ofList name⟩⟩ = .named := by
  have behind := behind_white white .name
  refine ⟨⟨?_, ?_, by simp, by simp, fun _ => rfl, ?_⟩, by rw [Tile.next, behind]; rfl⟩
  · rw [behind]
    exact white
  · rw [behind]
    simpa [Word.Spelled] using encoding
  · rw [behind]
    exact clear

theorem fits_comma (rest : List Char) (white : gap.all Unicode.isWhiteSpace) :
    Tile.Fits ⟨gap, ⟨.comma, ","⟩⟩ .named rest ∧ Tile.next .named ⟨gap, ⟨.comma, ","⟩⟩ = .name := by
  have behind := behind_white white .named
  refine ⟨⟨?_, by rw [behind]; exact rfl, by simp, by simp, by simp, ?_⟩, by rw [Tile.next, behind]; rfl⟩
  · rw [behind]
    exact white
  · rw [behind]
    exact fun _ _ => rfl

end lists

theorem Standing.plain {m : Stretch} {gap text : List Char} (standing : Standing m .plain gap text) :
    m = .plain ∨ m = .named := by
  have mode := standing.mode
  cases m with
  | plain => exact .inl rfl
  | named => exact .inr rfl
  | equal | name => nomatch mode

theorem Standing.list {m : Stretch} {mode : Mode} {gap text : List Char} (standing : Standing m mode gap text)
    (list : mode ≠ .plain) : gap = [] ∧ (mode = .encodingsEqual → m = .equal) ∧ (mode = .encodingName → m = .name) := by
  have mode := standing.mode
  have nothing := standing.listed
  cases m with
  | plain | named => exact absurd mode list
  | equal | name => simp_all [Stretch.mode]

/-- Text that is read past makes the gap longer. -/
theorem Standing.past {m : Stretch} {gap rest : List Char} (text : List Char) (standing : Standing m .plain gap (text ++ rest))
    (pending : Pending (gap ++ text) rest) : Standing m .plain (gap ++ text) rest where
  mode := standing.mode
  pending := pending
  listed list := by rcases standing.plain with rfl | rfl <;> simp at list
  ended named := by
    rw [List.append_assoc]
    exact standing.ended named

/-- Every text is tiled as far as it is read. -/
theorem exists_tiling (fuel : Nat) {m : Stretch} {mode : Mode} {gap text : List Char} {ps : List Piece}
    {failure : Option Failure} (enough : text.length < fuel) (standing : Standing m mode gap text)
    (cut : piecesFrom fuel mode text = (ps, failure)) :
    ∃ tiles last rest, Tiling m gap text ps failure tiles last rest := by
  induction fuel generalizing m mode gap text ps failure with
  | zero => nomatch enough
  | succ fuel ih =>
    rw [piecesFrom] at cut
    split at cut
    · rename_i stop
      obtain ⟨rfl, rfl⟩ := Prod.mk.inj cut
      obtain ⟨rfl, rfl⟩ : mode = .plain ∧ text = [] := by
        cases mode <;> cases text <;> simp_all [step?]
      have equal : m ≠ .equal ∧ m ≠ .name := by rcases standing.plain with rfl | rfl <;> simp
      exact ⟨[], gap, [], .finish standing.pending.finish equal.1 equal.2⟩
    · rename_i pieces rest next read
      rcases more : piecesFrom fuel next rest with ⟨found, failure'⟩
      simp only [more] at cut
      obtain ⟨rfl, rfl⟩ := Prod.mk.inj cut
      have reads := reads_step? read
      have shorter := reads.shorter
      replace ih {m : Stretch} {gap : List Char} (standing : Standing m next gap rest) :=
        ih (by omega) standing more
      cases reads with
      | @blank c rest blank =>
        have pending := standing.pending.blank blank
        obtain ⟨tiles, last, rest, tiling⟩ := ih (standing.past [c] (.inl pending))
        exact ⟨tiles, last, rest, tiling.skip (.blank [c]) rfl⟩
      | @line text rest free ends =>
        have filler := standing.pending.filler (by decide)
        have pending : Pending (gap ++ '/' :: '/' :: text) rest := .inr ⟨gap, text, rfl, filler, free, ends⟩
        obtain ⟨tiles, last, rest, tiling⟩ := ih (standing.past _ pending)
        exact ⟨tiles, last, rest, tiling.skip (.comment ('/' :: '/' :: text)) rfl⟩
      | @block text rest free =>
        have filler := standing.pending.filler (by decide)
        have pending := filler.append (.block free .nil)
        have split : '/' :: '*' :: (text ++ '*' :: '/' :: rest) =
          '/' :: '*' :: (text ++ ['*', '/']) ++ rest := by simp
        rw [split] at standing ⊢
        obtain ⟨tiles, last, rest, tiling⟩ := ih (standing.past _ (.inl pending))
        exact ⟨tiles, last, rest, tiling.skip (.comment ('/' :: '*' :: (text ++ ['*', '/']))) rfl⟩
      | @word w rest spelled quotable clear =>
        obtain ⟨c, more, source, noBlank, _⟩ := source_head spelled
        have filler : Filler isBlank gap := by
          have pending := standing.pending
          rw [source] at pending
          refine pending.filler ?_
          rw [Bool.eq_false_iff]
          exact fun blank => Bool.false_ne_true (noBlank.symm.trans (whiteSpace_of_isBlank blank))
        obtain ⟨fits, next⟩ := fits_word filler standing.plain spelled quotable clear standing.ended
        have start := standing_start (after_plain_ne_named w.kind) rest
        rw [mode_after_plain] at start
        obtain ⟨tiles, last, rest, tiling⟩ := ih start
        rw [← next] at tiling
        exact ⟨_, last, rest, tiling.word fits⟩
      | @equal white rest all =>
        obtain ⟨rfl, inEqual, -⟩ := standing.list (by simp)
        obtain rfl := inEqual rfl
        obtain ⟨fits, next⟩ := fits_equal rest all
        obtain ⟨tiles, last, rest, tiling⟩ := ih (standing_start (show Stretch.name ≠ .named by simp) rest)
        rw [List.append_assoc]
        exact ⟨_, last, rest, ((next ▸ tiling).word fits).blanks []⟩
      | @comma white name white' rest all encoding all' clear =>
        obtain ⟨rfl, -, inName⟩ := standing.list (by simp)
        obtain rfl := inName rfl
        obtain ⟨fits, next⟩ := fits_name all encoding clear
        obtain ⟨fits', next'⟩ := fits_comma rest all'
        obtain ⟨tiles, last, rest, tiling⟩ := ih (standing_start (show Stretch.name ≠ .named by simp) rest)
        rw [← next'] at tiling
        have comma := (tiling.word fits').blanks []
        rw [← next] at comma
        have both := (comma.word fits).blanks []
        rw [piece_ofList name (by simp)] at both
        simp only [List.append_assoc] at both ⊢
        exact ⟨_, last, rest, both⟩
      | @last white name rest all encoding clear ended =>
        obtain ⟨rfl, -, inName⟩ := standing.list (by simp)
        obtain rfl := inName rfl
        obtain ⟨fits, next⟩ := fits_name all encoding clear
        have standing : Standing .named .plain [] rest := ⟨rfl, .inl .nil, fun _ => rfl, fun _ => ended⟩
        obtain ⟨tiles, last, rest, tiling⟩ := ih standing
        rw [← next] at tiling
        have name := (tiling.word fits).blanks []
        rw [piece_ofList _ (by simp)] at name
        simp only [List.append_assoc] at name ⊢
        exact ⟨_, last, rest, name⟩
    · rename_i pieces rest f looked read
      obtain ⟨rfl, rfl⟩ := Prod.mk.inj cut
      cases reads_step? read with
      | fault other _ =>
        exact ⟨[], gap, _, .fault (standing.pending.filler other).white _⟩
      | @stuck _ white rest f other all =>
        obtain ⟨rfl, -⟩ := standing.list other
        have tiling : Tiling m white rest [] (some (f, [])) [] white rest := .fault (.of_all all) _
        exact ⟨[], white, rest, by simpa using tiling.blanks []⟩

/-- What may be said of a tile without its stretch. -/
theorem Laid.each {m : Stretch} {tiles : List Tile} {after : List Char} (laid : Laid m tiles after) :
    ∀ t ∈ tiles, Filler Unicode.isWhiteSpace t.gap ∧ t.word.kind ≠ .endOfFile := by
  induction tiles generalizing m with
  | nil => simp
  | cons t ts ih =>
    obtain ⟨fits, more⟩ := laid
    refine List.forall_mem_cons.mpr ⟨⟨?_, fun ends => ?_⟩, ih more⟩
    · have gap := fits.gap
      split at gap
      · exact .of_all gap
      · exact gap.white
    · have spelled := fits.spelled
      simp [Word.Spelled, ends] at spelled

end Lexer

/-! ## Where tokens stand -/

/-- A token stands in a text where its word is written: its bytes are those of its text, and its place is
where the word starts, which for a string is the opening quote. -/
def Token.StandsIn (t : Token) (text : List Char) : Prop :=
  ∃ before after, text = before ++ (t.word.piece.source ++ after) ∧ t = t.word.standing before

/-- The text that a scan has read, in tiles. -/
theorem scan_tiling (text : String) : ∃ tiles last rest closing, text.toList = paved tiles (last ++ rest) ∧
    Laid .plain tiles (last ++ rest) ∧ (scan text).tokens = standing [] tiles ++ closing ∧
    (scan text).ruleStarts = startsFrom 0 (standing [] tiles) ∧
    match (scan text).error with
    | none => closing = [Word.standing ⟨.endOfFile, ""⟩ text.toList] ∧ rest = [] ∧ Finish isBlank last ∧
        Stretch.plain.past tiles ≠ .equal ∧ Stretch.plain.past tiles ≠ .name
    | some e => closing = [] ∧ Filler Unicode.isWhiteSpace last ∧
        e.position = Position.behind (paved tiles last) := by
  rcases cut : pieces text.toList with ⟨ps, failure⟩
  obtain ⟨tiles, last, rest, tiling⟩ := exists_tiling _ (Nat.lt_succ_self _)
    (standing_start (m := .plain) (by simp) text.toList) cut
  have source : text.toList = paved tiles (last ++ rest) := tiling.source
  obtain ⟨located, place⟩ := tiling.tiled.locate []
  have starts := tiling.tiled.ruleIndices [] 0
  rw [List.append_nil, Place.behind_nil] at located place
  unfold scan
  rw [cut]
  cases failure with
  | none =>
    obtain ⟨rfl, finish, notEqual, notName⟩ := tiling.ends rfl
    refine ⟨tiles, last, [], _, source, tiling.laid, ?_, starts, rfl, rfl, finish, notEqual, notName⟩
    change locate {} ps ++ [endToken (placeAfter {} ps)] = _
    rw [List.append_nil] at source
    rw [located, place, source]
    rfl
  | some f =>
    refine ⟨tiles, last, rest, [], source, tiling.laid, ?_, starts, rfl, tiling.stops f rfl, ?_⟩
    · rw [List.append_nil]
      exact located
    · change (placeAfter {} ps).position = _
      rw [place]
      rfl

/-- A text that has tokens is tiled by them to its end. -/
theorem tokens_tiling {text : String} {ts : List Token} (lexed : tokens text = .ok ts) :
    ∃ tiles last, text.toList = paved tiles last ∧
      ts = standing [] tiles ++ [Word.standing ⟨.endOfFile, ""⟩ text.toList] ∧ Laid .plain tiles last ∧
      Finish isBlank last ∧ Stretch.plain.past tiles ≠ .equal ∧ Stretch.plain.past tiles ≠ .name := by
  obtain ⟨tiles, last, rest, closing, source, laid, body, -, ends⟩ := scan_tiling text
  unfold tokens at lexed
  dsimp only at lexed
  cases fault : (scan text).error with
  | some e => rw [fault] at lexed; nomatch lexed
  | none =>
    rw [fault] at lexed ends
    obtain rfl : (scan text).tokens = ts := Except.ok.inj lexed
    obtain ⟨rfl, rfl, finish, notEqual, notName⟩ := ends
    rw [List.append_nil] at source laid
    exact ⟨tiles, last, source, body, laid, finish, notEqual, notName⟩

end Triage
