import Triage.Proofs.Rule.Layout

/-! Two rule files make one. Behind a line break a text that starts with a rule is read as it is read alone,
and the text before it gives what it gives alone, however it ends. -/

namespace Triage
open Lexer

/-! ## Words -/

namespace Lexer

theorem extendedIn_newline (w : Word) (m : Stretch) : w.extendedIn m '\n' = false :=
  extendedIn_blank rfl w m

/-- A line break ends every word that the end of the text ends. -/
theorem Laid.newline {m : Stretch} {ts : List Tile} {after : List Char} (laid : Laid m ts after)
    (more : List Char) : Laid m ts (after ++ '\n' :: more) := by
  induction ts generalizing m with
  | nil => trivial
  | cons t ts ih =>
    obtain ⟨fits, laid⟩ := laid
    refine ⟨{ fits with clear := ?_ }, ih laid⟩
    have clear := fits.clear
    have longer : paved ts (after ++ '\n' :: more) = paved ts after ++ '\n' :: more := by simp [paved]
    rw [longer]
    cases ahead : paved ts after with
    | nil => exact clear_cons.mpr (extendedIn_newline _ _)
    | cons c rest =>
      rw [ahead] at clear
      exact clear_cons.mpr (clear_cons.mp clear)

/-- A line break ends the comment that a text may end in. -/
theorem Finish.newline {gap : List Char} (finish : Finish isBlank gap) : Filler isBlank (gap ++ ['\n']) := by
  rcases finish with filler | ⟨before, text, rfl, filler, free⟩
  · exact filler.append (.blank rfl .nil)
  · have line : Filler isBlank ('/' :: '/' :: (text ++ ['\n'])) := .line free .nil
    simpa using filler.append line

/-- Behind a line break a word other than a comma is read as at the start of a text. -/
theorem Tile.Fits.newline {t : Tile} {m : Stretch} {gap after : List Char} (fits : t.Fits .plain after)
    (other : t.word.kind ≠ .comma) (plain : m = .plain ∨ m = .named) (finish : Finish isBlank gap) :
    Tile.Fits ⟨gap ++ '\n' :: t.gap, t.word⟩ m after ∧
      Tile.next m ⟨gap ++ '\n' :: t.gap, t.word⟩ = t.next .plain := by
  have own : Filler isBlank t.gap := fits.gap
  have filler : Filler isBlank (gap ++ '\n' :: t.gap) := by
    simpa using finish.newline.append own
  refine fits_word filler plain fits.spelled fits.quotable fits.clear fun _ => filler.no_comma fun _ after => ?_
  obtain ⟨c, more, source, noBlank, isComma⟩ := source_head fits.spelled
  rw [source, List.cons_append, List.dropWhile_cons_of_neg (by simp [noBlank])]
  exact fun comma => other (isComma (List.cons.inj comma).1)

end Lexer

/-- The words of two texts with a line break between them are those of the one and those of the other. -/
theorem tokens_newline {a b : String} {ta tb : List Token} {t : Token} (lexed : tokens a = .ok ta)
    (lexed' : tokens b = .ok tb) (starts : tb.head? = some t) (noComma : t.kind ≠ .comma)
    (more : t.kind ≠ .endOfFile) :
    ∃ body finish body' finish' joined last, ta = body ++ [finish] ∧ finish.kind = .endOfFile ∧
      tb = body' ++ [finish'] ∧ finish'.kind = .endOfFile ∧ body'.head? = some t ∧
      tokens (a ++ "\n" ++ b) = .ok (joined ++ [last]) ∧ last.kind = .endOfFile ∧
      joined.map Token.word = body.map Token.word ++ body'.map Token.word := by
  obtain ⟨tiles, gap, source, rfl, laid, finish, notEqual, notName⟩ := tokens_tiling lexed
  obtain ⟨tiles', gap', source', rfl, laid', finish', notEqual', notName'⟩ := tokens_tiling lexed'
  cases tiles' with
  | nil =>
    obtain rfl := Option.some.inj starts
    exact absurd rfl more
  | cons u us =>
    obtain rfl := Option.some.inj starts
    have plain : Stretch.plain.past tiles = .plain ∨ Stretch.plain.past tiles = .named := by
      cases past : Stretch.plain.past tiles <;> simp_all
    obtain ⟨fits, next⟩ := laid'.1.newline noComma plain finish
    let both := tiles ++ ⟨gap ++ '\n' :: u.gap, u.word⟩ :: us
    have ahead : paved (⟨gap ++ '\n' :: u.gap, u.word⟩ :: us) gap' = gap ++ '\n' :: paved (u :: us) gap' := by
      simp [paved_cons]
    have laidBoth : Laid .plain both gap' :=
      Laid.append (ahead ▸ laid.newline _) ⟨fits, next ▸ laid'.2⟩
    have past : Stretch.plain.past both = Stretch.plain.past (u :: us) := by
      rw [Stretch.past, List.foldl_append, List.foldl_cons]
      exact congrArg (fun m => m.past us) next
    obtain ⟨joined, last, lexedBoth, ends, words⟩ :=
      tokens_paved laidBoth finish' (past ▸ notEqual') (past ▸ notName')
    have whole : String.ofList (paved both gap') = a ++ "\n" ++ b := by
      refine String.toList_inj.mp ?_
      rw [String.toList_ofList, paved_append, ahead, String.toList_append, String.toList_append, source, source']
      simp [paved]
    refine ⟨_, _, _, _, joined, last, rfl, rfl, rfl, rfl, rfl, whole ▸ lexedBoth, congrArg Word.kind ends, ?_⟩
    rw [words, map_word_standing, map_word_standing, List.map_append]
    rfl

/-! ## One declaration -/

/-- The rule where its text stands behind `n` more tokens. -/
def Rule.movedBy (n : Nat) (r : Rule) : Rule :=
  { r with firstToken := r.firstToken + n, lastToken := r.lastToken + n }

theorem movedBy_zero : Rule.movedBy 0 = id := rfl

namespace Reader

/-- Where the sections are read and a brace closes them a rule is read. -/
theorem run_declaration_of_sections {s t : ReaderState} {x : Sections} (start : ReaderState)
    (ran : sections.run s = (.ok x, t)) (closes : t.peek.kind = .closeBrace) :
    (declaration start).run s = (.ok
      ⟨x.name, ruleId ((start.unread.take (t.skip.index - start.index)).map (·.text)), x.info, x.hash,
        x.fileMetadata, x.signature, x.grep, start.index, t.skip.index⟩, t.skip) := by
  rw [declaration_eq, run_bind, ran]
  dsimp only
  rw [run_bind, run_discard (run_expect closes)]
  rfl

end Reader

namespace ReaderState
variable {body body' rest rest' : List Token} {finish finish' : Token} {s s' t : ReaderState}

theorem Inside.length (inside : s.Inside body finish) : s.unread.length + s.index = body.length := by
  rw [inside.unread, List.length_drop]
  exact Nat.sub_add_cancel inside.bound

theorem Alike.kind (alike : s.Alike rest rest' s') (left : rest.length < s.unread.length) :
    s'.peek.kind = s.peek.kind :=
  Token.kind_of_word (alike.peek left)

theorem Alike.texts (alike : s.Alike rest rest' s') {n : Nat} (within : n + rest.length ≤ s.unread.length) :
    (s'.unread.take n).map (·.text) = (s.unread.take n).map (·.text) := by
  obtain ⟨a, a', unread, unread', words⟩ := alike.words
  have texts := congrArg (fun ws : List Word => (ws.take n).map (·.text)) words
  have length := congrArg List.length words
  rw [List.length_map, List.length_map] at length
  rw [unread, List.length_append] at within
  rw [unread, unread', List.take_append_of_le_length (by omega), List.take_append_of_le_length (by omega)]
  simpa [List.map_take, Function.comp_def] using texts.symm

/-- A rule that is read from a state that is fresh is read behind its keyword. -/
theorem run_rule_of_fresh (fresh : s.declared = []) (starts : s.peek.kind = .keyword .rule) :
    Reader.rule.run s = (Reader.declaration s).run s.skip := by
  have same : { s with declared := [] } = s := by rw [← fresh]
  rw [Reader.run_rule starts, same]

/-- A rule that ends before `rest` is read the same wherever its words are ahead. -/
theorem Inside.run_moved {r : Rule} (inside : s.Inside body finish) (inside' : s'.Inside body' finish')
    (ends : finish.kind = .endOfFile) (ends' : finish'.kind = .endOfFile)
    (spelled : Reader.KeywordsSpelled body) (spelled' : Reader.KeywordsSpelled body')
    (fresh : s.declared = []) (fresh' : s'.declared = []) (alike : s.Alike rest rest' s')
    (starts : s.peek.kind = .keyword .rule) (ran : Reader.rule.run s = (.ok r, t))
    (left : rest.length ≤ t.unread.length) :
    ∃ t' n, Reader.rule.run s' = (.ok { r with firstToken := s'.index, lastToken := s'.index + n }, t') ∧
      r.firstToken = s.index ∧ r.lastToken = s.index + n := by
  obtain ⟨first, last, passes⟩ := (inside.runs_rule ends spelled starts).of_ok ran
  have stops := inside.skip.passes passes
  have shorter := passes.length
  rw [run_rule_of_fresh fresh starts] at ran
  obtain ⟨u, sections, closes, rfl⟩ := Reader.sections_of_declaration ran
  -- The closing brace is still ahead of `rest`, so all that is read before it is seen.
  have ended : u.finish.kind = .endOfFile := by rw [← u.skip_finish, stops.finish, ends]
  have seesBrace : rest.length < u.unread.length :=
    Nat.lt_of_le_of_lt left ((Reader.eats_skip ended).2.2 (by simp [closes]))
  have sees : rest.length < s.unread.length := by
    have eats := (Reader.eats_skip (by rw [inside.finish, ends])).2.2 (by simp [starts])
    omega
  obtain ⟨x, u', sections', rfl, alike'⟩ :=
    Reader.blind_sections.agrees _ _ _ _ (alike.skip sees) sections seesBrace
  have starts' : s'.peek.kind = .keyword .rule := (alike.kind sees).trans starts
  have ran' := Reader.run_declaration_of_sections s' sections' ((alike'.kind seesBrace).trans closes)
  rw [← run_rule_of_fresh fresh' starts'] at ran'
  obtain ⟨-, -, passes'⟩ := (inside'.runs_rule ends' spelled' starts').of_ok ran'
  have stops' := inside'.skip.passes passes'
  have count := inside.length
  have count' := inside'.length
  have countEnd := stops.length
  have countEnd' := stops'.length
  have both := alike.length
  have bothEnd := (alike'.skip seesBrace).length
  obtain ⟨n, stop, stop', within⟩ : ∃ n, u.skip.index = s.index + n ∧ u'.skip.index = s'.index + n ∧
      n + rest.length ≤ s.unread.length := by
    have skipped := (Reader.eats_skip (by rw [inside.finish, ends])).2.1
    have skipped' := (Reader.eats_skip (s := s') (by rw [inside'.finish, ends'])).2.1
    have shorter' := passes'.length
    exact ⟨u.skip.index - s.index, by omega, by omega, by omega⟩
  have id : r.id = _ := ((Reader.runs_declaration s s.skip).of_ok ran).2.2
  rw [stop, Nat.add_sub_cancel_left] at id
  refine ⟨u'.skip, n, ?_, first, last.trans stop⟩
  rw [ran', stop', Nat.add_sub_cancel_left, alike.texts within, ← id]
  rfl

end ReaderState

section outcomes
variable {body body' rest rest' : List Token} {finish finish' : Token} {size size' i i' : Nat}

theorem startAt_eq (size i : Nat) (body : List Token) (ends : finish.kind = .endOfFile) :
    ReaderState.startAt size (body ++ [finish]) i = { index := i, unread := body.drop i, finish } := by
  rw [ReaderState.startAt, ReaderState.start_eq _ ends]

/-- A rule that ends before `rest` is the same rule wherever its words stand. -/
theorem outcomeAt_moved {r : Rule} (size' : Nat) (ends : finish.kind = .endOfFile) (ends' : finish'.kind = .endOfFile)
    (spelled : Spelled .plain (body.map Token.word)) (spelled' : Spelled .plain (body'.map Token.word))
    (starts : i ∈ ruleStarts (body ++ [finish])) (starts' : i' ∈ ruleStarts (body' ++ [finish']))
    (words : ∃ a a', body.drop i = a ++ rest ∧ body'.drop i' = a' ++ rest' ∧
      a.map Token.word = a'.map Token.word)
    (outcome : outcomeAt size (body ++ [finish]) i = .ok r) (left : rest.length ≤ body.length - r.lastToken) :
    ∃ n, outcomeAt size' (body' ++ [finish']) i' = .ok { r with firstToken := i', lastToken := i' + n } ∧
      r.firstToken = i ∧ r.lastToken = i + n := by
  obtain ⟨inside, rule⟩ := ReaderState.startAt_inside size ends starts
  obtain ⟨inside', -⟩ := ReaderState.startAt_inside size' ends' starts'
  rw [startAt_eq _ _ _ ends] at inside rule
  rw [startAt_eq _ _ _ ends'] at inside'
  rw [outcomeAt, startAt_eq _ _ _ ends] at outcome
  rw [outcomeAt, startAt_eq _ _ _ ends']
  rcases ran : Reader.rule.run { index := i, unread := body.drop i, finish } with ⟨_ | r', t⟩ <;>
    rw [ran] at outcome
  · cases outcome
  · obtain rfl := Except.ok.inj outcome
    have known := keywordsSpelled_of_spelled spelled
    obtain ⟨-, last, passes⟩ := (inside.runs_rule ends known rule).of_ok ran
    have stops := inside.skip.passes passes
    rw [last, ← stops.length, Nat.add_sub_cancel] at left
    obtain ⟨t', n, ran', first, last⟩ := inside.run_moved inside' ends ends' known
      (keywordsSpelled_of_spelled spelled') rfl rfl ⟨words, rfl, rfl, ends⟩ rule ran left
    exact ⟨n, by rw [ran'], first, last⟩

theorem lastToken_le_length {r : Rule} (ends : finish.kind = .endOfFile)
    (spelled : Spelled .plain (body.map Token.word)) (starts : i ∈ ruleStarts (body ++ [finish]))
    (outcome : outcomeAt size (body ++ [finish]) i = .ok r) : r.lastToken ≤ body.length := by
  obtain ⟨inside, rule⟩ := ReaderState.startAt_inside size ends starts
  rcases ran : Reader.rule.run (.startAt size (body ++ [finish]) i) with ⟨_ | r', t⟩ <;>
    rw [outcomeAt, ran] at outcome
  · cases outcome
  · obtain rfl := Except.ok.inj outcome
    obtain ⟨-, last, passes⟩ := (inside.runs_rule ends (keywordsSpelled_of_spelled spelled) rule).of_ok ran
    exact last ▸ (inside.skip.passes passes).bound

/-- What is read is the same but for its place if each rule on one side tells what is on the other. -/
theorem toOption_moved {n : Nat} {o o' : Except ParseError Rule} (there : ∀ r, o = .ok r → o' = .ok (r.movedBy n))
    (back : ∀ r, o' = .ok r → ∃ q, o = .ok q) : o'.toOption = o.toOption.map (Rule.movedBy n) := by
  cases found : o with
  | ok r => rw [there r found]; rfl
  | error e =>
    cases found' : o' with
    | error e' => rfl
    | ok r =>
      obtain ⟨q, same⟩ := back r found'
      rw [found] at same
      nomatch same

theorem errorsAt_length {ts ts' : List Token} {n : Nat}
    (same : (outcomeAt size' ts' i').toOption = (outcomeAt size ts i).toOption.map (Rule.movedBy n))
    (strays : ∀ r, outcomeAt size ts i = .ok r →
      (strayAt ts' (r.lastToken + n)).length = (strayAt ts r.lastToken).length) :
    (errorsAt size' ts' i').length = (errorsAt size ts i).length := by
  unfold errorsAt
  rcases here : outcomeAt size ts i with e | r <;> rcases there : outcomeAt size' ts' i' with e' | r' <;>
    rw [here, there] at same
  · rfl
  · nomatch same
  · nomatch same
  · obtain rfl : r' = r.movedBy n := Option.some.inj same
    exact strays r here

theorem strayAt_length {ts ts' : List Token}
    (same : (ts'[i']?).map (·.kind) = (ts[i]?).map (·.kind)) : (strayAt ts' i').length = (strayAt ts i).length := by
  unfold strayAt
  cases here : ts[i]? <;> cases there : ts'[i']? <;> rw [here, there] at same
  · nomatch same
  · nomatch same
  · rename_i t t'
    have kind : t'.kind = t.kind := Option.some.inj same
    dsimp only
    rw [kind]
    split <;> rfl

end outcomes

/-! ## The rules of both -/

theorem startsFrom_concat (i : Nat) (a b : List Token) :
    startsFrom i (a ++ b) = startsFrom i a ++ startsFrom (i + a.length) b := by
  simp [startsFrom, List.zipIdx_append]

theorem startsFrom_add (i n : Nat) (ts : List Token) : startsFrom (i + n) ts = (startsFrom i ts).map (· + n) := by
  induction ts generalizing i with
  | nil => rfl
  | cons t ts ih =>
    have next := ih (i + 1)
    rw [Nat.add_right_comm] at next
    rw [startsFrom_cons, startsFrom_cons, next]
    split <;> rfl

theorem startsFrom_finish (i : Nat) {finish : Token} (ends : finish.kind = .endOfFile) (body : List Token) :
    startsFrom i (body ++ [finish]) = startsFrom i body := by
  rw [startsFrom_concat, startsFrom_cons, if_neg (by simp [ends])]
  simp [startsFrom]

theorem mem_ruleStarts_finish {finish : Token} {body : List Token} {i : Nat} (ends : finish.kind = .endOfFile) :
    i ∈ ruleStarts (body ++ [finish]) ↔ i ∈ ruleStarts body := by
  rw [ruleStarts_eq, startsFrom_finish 0 ends, ruleStarts_eq]

theorem lt_of_mem_ruleStarts {i : Nat} {ts : List Token} (member : i ∈ ruleStarts ts) : i < ts.length := by
  obtain ⟨t, there, -⟩ := mem_ruleStarts.mp member
  exact (List.getElem?_eq_some_iff.mp there).1

/-- The tokens of two texts, the second of which starts with a rule, and tokens `x` and `y` that have their words
in one text. -/
structure Joins (body body' x y : List Token) (finish finish' last : Token) : Prop where
  finish : finish.kind = .endOfFile
  finish' : finish'.kind = .endOfFile
  last : last.kind = .endOfFile
  spelled : Spelled .plain (body.map Token.word)
  spelled' : Spelled .plain (body'.map Token.word)
  both : Spelled .plain ((x ++ y).map Token.word)
  words : x.map Token.word = body.map Token.word
  words' : y.map Token.word = body'.map Token.word
  starts : ∃ t rest, y = t :: rest ∧ t.kind = .keyword .rule

namespace Joins
variable {body body' x y : List Token} {finish finish' last : Token} {size size' size'' i : Nat}

theorem length (joins : Joins body body' x y finish finish' last) : x.length = body.length := by
  simpa using congrArg List.length joins.words

theorem starts_eq (joins : Joins body body' x y finish finish' last) : ruleStarts (x ++ y ++ [last]) =
    ruleStarts (body ++ [finish]) ++ (ruleStarts (body' ++ [finish'])).map (· + body.length) := by
  rw [ruleStarts_eq, ruleStarts_eq, ruleStarts_eq, startsFrom_finish 0 joins.last, startsFrom_finish 0 joins.finish,
    startsFrom_finish 0 joins.finish', startsFrom_concat, startsFrom_add, startsFrom_rewritten joins.words,
    startsFrom_rewritten joins.words', joins.length]

theorem next (joins : Joins body body' x y finish finish' last) : body.length ∈ ruleStarts (x ++ y ++ [last]) := by
  obtain ⟨t, rest, rfl, rule⟩ := joins.starts
  exact mem_ruleStarts.mpr ⟨t, by simp [← joins.length], rule⟩

/-- Where the first text ends a rule starts, so nothing is stray there. -/
theorem strayAt_head (joins : Joins body body' x y finish finish' last) (within : i ≤ body.length) :
    (strayAt (x ++ y ++ [last]) i).length = (strayAt (body ++ [finish]) i).length := by
  rcases Nat.lt_or_eq_of_le within with before | rfl
  · refine strayAt_length ?_
    rw [List.append_assoc, List.getElem?_append_left (joins.length ▸ before), List.getElem?_append_left before]
    have kinds := congrArg (fun ws : List Word => (ws[i]?).map (·.kind)) joins.words
    simpa [Function.comp_def] using kinds
  · obtain ⟨t, rest, rfl, rule⟩ := joins.starts
    simp [strayAt, joins.finish, ← joins.length, rule]

/-- The tokens of the second text stand behind the first as they stand alone. -/
theorem strayAt_tail (joins : Joins body body' x y finish finish' last) (i : Nat) :
    (strayAt (x ++ y ++ [last]) (i + body.length)).length = (strayAt (body' ++ [finish']) i).length := by
  refine strayAt_length ?_
  have kinds : (y ++ [last]).map (·.kind) = (body' ++ [finish']).map (·.kind) := by
    have kinds := congrArg (List.map Word.kind) joins.words'
    simpa [joins.finish', joins.last, Function.comp_def] using kinds
  rw [List.append_assoc, ← joins.length, List.getElem?_append_right (Nat.le_add_left _ _), Nat.add_sub_cancel,
    ← List.getElem?_map, ← List.getElem?_map, kinds]

/-- The first text gives what it gives alone, as no rule is read past the next one. -/
theorem outcomeAt_head (joins : Joins body body' x y finish finish' last)
    (member : i ∈ ruleStarts (body ++ [finish])) : (outcomeAt size'' (x ++ y ++ [last]) i).toOption =
      (outcomeAt size (body ++ [finish]) i).toOption.map (Rule.movedBy 0) := by
  have before := lt_of_mem_ruleStarts ((mem_ruleStarts_finish joins.finish).mp member)
  have length := joins.length
  have starts : i ∈ ruleStarts (x ++ y ++ [last]) := joins.starts_eq ▸ List.mem_append_left _ member
  have ahead : (x ++ y).drop i = x.drop i ++ y := List.drop_append_of_le_length (by omega)
  have same : (x.drop i).map Token.word = (body.drop i).map Token.word := by
    rw [List.map_drop, List.map_drop, joins.words]
  refine toOption_moved (fun r outcome => ?_) fun r outcome => ?_
  · obtain ⟨n, outcome', rfl, stop⟩ := outcomeAt_moved size'' joins.finish joins.last joins.spelled joins.both
      member starts ⟨_, _, (List.append_nil _).symm, ahead, same.symm⟩ outcome (Nat.zero_le _)
    rw [outcome', ← stop]
    rfl
  · obtain ⟨inside, kind⟩ := ReaderState.startAt_inside size'' joins.last starts
    obtain ⟨-, -, spans⟩ := ReaderState.Inside.span size'' inside joins.last joins.both kind outcome
    have left := spans _ joins.next before
    obtain ⟨n, outcome', -, -⟩ := outcomeAt_moved size joins.last joins.finish joins.both
      joins.spelled starts member ⟨_, _, ahead, (List.append_nil _).symm, same⟩ outcome
      (by rw [List.length_append]; omega)
    exact ⟨_, outcome'⟩

/-- The second text gives what it gives alone, with the tokens of the first before it. -/
theorem outcomeAt_tail (joins : Joins body body' x y finish finish' last)
    (member : i ∈ ruleStarts (body' ++ [finish'])) :
    (outcomeAt size'' (x ++ y ++ [last]) (i + body.length)).toOption =
      (outcomeAt size' (body' ++ [finish']) i).toOption.map (Rule.movedBy body.length) := by
  have starts : i + body.length ∈ ruleStarts (x ++ y ++ [last]) :=
    joins.starts_eq ▸ List.mem_append_right _ (List.mem_map_of_mem member)
  have ahead : (x ++ y).drop (i + body.length) = y.drop i ++ [] := by
    rw [List.append_nil, Nat.add_comm, ← List.drop_drop, ← joins.length, List.drop_left]
  have same : (y.drop i).map Token.word = (body'.drop i).map Token.word := by
    rw [List.map_drop, List.map_drop, joins.words']
  refine toOption_moved (fun r outcome => ?_) fun r outcome => ?_
  · obtain ⟨n, outcome', rfl, stop⟩ := outcomeAt_moved size'' joins.finish' joins.last joins.spelled' joins.both member
      starts ⟨_, _, (List.append_nil _).symm, ahead, same.symm⟩ outcome (Nat.zero_le _)
    rw [outcome', Rule.movedBy, stop, Nat.add_right_comm]
  · obtain ⟨n, outcome', -, -⟩ := outcomeAt_moved size' joins.last joins.finish' joins.both
      joins.spelled' starts member ⟨_, _, ahead, (List.append_nil _).symm, same⟩ outcome (Nat.zero_le _)
    exact ⟨_, outcome'⟩

theorem errorsAt_head (joins : Joins body body' x y finish finish' last)
    (member : i ∈ ruleStarts (body ++ [finish])) :
    (errorsAt size'' (x ++ y ++ [last]) i).length = (errorsAt size (body ++ [finish]) i).length :=
  errorsAt_length (joins.outcomeAt_head member) fun _ outcome =>
    joins.strayAt_head (lastToken_le_length joins.finish joins.spelled member outcome)

theorem errorsAt_tail (joins : Joins body body' x y finish finish' last)
    (member : i ∈ ruleStarts (body' ++ [finish'])) :
    (errorsAt size'' (x ++ y ++ [last]) (i + body.length)).length =
      (errorsAt size' (body' ++ [finish']) i).length :=
  errorsAt_length (joins.outcomeAt_tail member) fun _ _ => joins.strayAt_tail _

/-- The rules of one text behind those of the other, and as many errors as both have. -/
theorem account (joins : Joins body body' x y finish finish' last) (size size' size'' : Nat) :
    let ts := body ++ [finish]
    let ts' := body' ++ [finish']
    let both := x ++ y ++ [last]
    let list := account size ts (strayAt ts 0) (ruleStarts ts)
    let list' := account size' ts' (strayAt ts' 0) (ruleStarts ts')
    let joined := account size'' both (strayAt both 0) (ruleStarts both)
    joined.rules = list.rules ++ list'.rules.map (Rule.movedBy body.length) ∧
      joined.errors.length = list.errors.length + list'.errors.length := by
  intro ts ts' both list list' joined
  have head (i : Nat) (member : i ∈ ruleStarts ts) :
      (outcomeAt size'' both i).toOption = (outcomeAt size ts i).toOption := by
    have same : (outcomeAt size'' both i).toOption = (outcomeAt size ts i).toOption.map (Rule.movedBy 0) :=
      joins.outcomeAt_head member
    rwa [movedBy_zero, Option.map_id] at same
  have tail (i : Nat) (member : i ∈ ruleStarts ts') : (outcomeAt size'' both (i + body.length)).toOption =
      (outcomeAt size' ts' i).toOption.map (Rule.movedBy body.length) := joins.outcomeAt_tail member
  constructor
  · calc joined.rules
      _ = (ruleStarts ts).filterMap (fun i => (outcomeAt size'' both i).toOption) ++
          (ruleStarts ts').filterMap (fun i => (outcomeAt size'' both (i + body.length)).toOption) := by
        simp only [joined, Triage.account]
        rw [joins.starts_eq, List.filterMap_append, List.filterMap_map]
        rfl
      _ = list.rules ++ list'.rules.map (Rule.movedBy body.length) := by
        rw [List.filterMap_congr head, List.filterMap_congr tail, ← List.map_filterMap]
        rfl
  · have heads : ((ruleStarts ts).map fun i => (errorsAt size'' both i).length) =
        (ruleStarts ts).map fun i => (errorsAt size ts i).length :=
      List.map_congr_left fun i member => joins.errorsAt_head member
    have tails : ((ruleStarts ts').map fun i => (errorsAt size'' both (i + body.length)).length) =
        (ruleStarts ts').map fun i => (errorsAt size' ts' i).length :=
      List.map_congr_left fun i member => joins.errorsAt_tail member
    have stray : (strayAt both 0).length = (strayAt ts 0).length := joins.strayAt_head (Nat.zero_le _)
    have none : (strayAt ts' 0).length = 0 := by
      rw [← joins.strayAt_tail 0, Nat.zero_add, joins.strayAt_head (Nat.le_refl _)]
      simp [strayAt, joins.finish]
    simp only [joined, list, list', Triage.account, both, joins.starts_eq, List.length_append, List.length_flatMap,
      List.map_append, List.map_map, List.sum_append, Function.comp_def]
    rw [heads, tails, stray, none]
    omega

end Joins

theorem spelled_of_tokens {text : String} {body : List Token} {finish : Token}
    (lexed : tokens text = .ok (body ++ [finish])) : Spelled .plain (body.map Token.word) := by
  obtain ⟨body', finish', same, -, spelled⟩ := tokens_spelled lexed
  rwa [(List.append_inj' same rfl).1]

/-- Rule files compose. A line break and a text that starts with a rule may follow any text that can be cut
into tokens: the rules of both are read, each as it is read alone but for the numbers of its tokens, and there
are as many errors as both have. -/
theorem parseRules_newline {a b : String} {ta tb : List Token} (lexed : tokens a = .ok ta)
    (lexed' : tokens b = .ok tb) (starts : tb.head?.map (·.kind) = some (.keyword .rule)) :
    ∃ list list' both, parseRules a = .ok list ∧ parseRules b = .ok list' ∧
      parseRules (a ++ "\n" ++ b) = .ok both ∧
      both.rules = list.rules ++ list'.rules.map (Rule.movedBy (ta.length - 1)) ∧
      both.errors.length = list.errors.length + list'.errors.length := by
  obtain ⟨t, first, rule⟩ := Option.map_eq_some_iff.mp starts
  obtain ⟨body, finish, body', finish', joined, last, rfl, ends, rfl, ends', head, lexedBoth, ended, words⟩ :=
    tokens_newline lexed lexed' first (by simp [rule]) (by simp [rule])
  obtain ⟨x, y, rfl, words, words'⟩ := List.map_eq_append_iff.mp words
  have starts : ∃ t rest, y = t :: rest ∧ t.kind = .keyword .rule := by
    obtain ⟨rest, rfl⟩ := List.head?_eq_some_iff.mp head
    obtain ⟨t', rest', rfl, same, -⟩ := List.map_eq_cons_iff.mp words'
    exact ⟨t', rest', rfl, (Token.kind_of_word same).trans rule⟩
  have joins : Joins body body' x y finish finish' last := ⟨ends, ends', ended, spelled_of_tokens lexed,
    spelled_of_tokens lexed', spelled_of_tokens lexedBoth, words, words', starts⟩
  obtain ⟨rules, errors⟩ := joins.account a.utf8ByteSize b.utf8ByteSize (a ++ "\n" ++ b).utf8ByteSize
  refine ⟨_, _, _, parseRules_eq_account lexed, parseRules_eq_account lexed', parseRules_eq_account lexedBoth, ?_,
    errors⟩
  rw [List.length_append, List.length_singleton, Nat.add_sub_cancel]
  exact rules

/-- A declaration that is left open in a list of encodings and behind it a comment keep nothing from the rule
on the next line. -/
theorem openDeclaration_composes : ∃ ta tb,
    tokens "rule A \x7b\x7d rule B \x7b grep: patterns: p = \"x\" encodings = ascii // ," = .ok ta ∧
    tokens "rule C \x7b\x7d" = .ok tb ∧ tb.head?.map (·.kind) = some (.keyword .rule) ∧ ∃ list list' both,
    parseRules "rule A \x7b\x7d rule B \x7b grep: patterns: p = \"x\" encodings = ascii // ," = .ok list ∧
    parseRules "rule C \x7b\x7d" = .ok list' ∧
    parseRules ("rule A \x7b\x7d rule B \x7b grep: patterns: p = \"x\" encodings = ascii // ," ++ "\n" ++
      "rule C \x7b\x7d") = .ok both ∧
    both.rules = list.rules ++ list'.rules.map (Rule.movedBy (ta.length - 1)) ∧
    both.errors.length = list.errors.length + list'.errors.length ∧
    list.rules.map (·.name) = ["A"] ∧ list.errors.length = 1 ∧ list'.rules.map (·.name) = ["C"] := by
  obtain ⟨ta, lexed⟩ : ∃ ta, tokens
    "rule A \x7b\x7d rule B \x7b grep: patterns: p = \"x\" encodings = ascii // ," = .ok ta := ⟨_, by rfl⟩
  obtain ⟨tb, lexed', starts⟩ : ∃ tb, tokens "rule C \x7b\x7d" = .ok tb ∧
    tb.head?.map (·.kind) = some (.keyword .rule) := ⟨_, by rfl, by rfl⟩
  obtain ⟨list, list', both, read, read', readBoth, rules, errors⟩ := parseRules_newline lexed lexed' starts
  refine ⟨ta, tb, lexed, lexed', starts, list, list', both, read, read', readBoth, rules, errors, ?_⟩
  have first : (parseRules "rule A \x7b\x7d rule B \x7b grep: patterns: p = \"x\" encodings = ascii // ,").map
      (fun l => (l.rules.map (·.name), l.errors.length)) = .ok (["A"], 1) := by rfl
  have second : (parseRules "rule C \x7b\x7d").map (fun l => l.rules.map (·.name)) = .ok ["C"] := by rfl
  rw [read] at first
  rw [read'] at second
  have first := Except.ok.inj first
  exact ⟨congrArg Prod.fst first, congrArg Prod.snd first, Except.ok.inj second⟩

end Triage
