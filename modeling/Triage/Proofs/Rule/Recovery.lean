import Triage.Proofs.Rule.Shape
import Triage.Proofs.Token.Tiling

/-! Reading on after errors. Every keyword that starts a rule gets what reading a declaration there
gives to a reader that has read nothing before, and every run of tokens that belong to no
declaration gets one error. -/

namespace Triage

/-- The state of a reader that stands at a token of a text and has read nothing before. -/
def ReaderState.startAt (size : Nat) (ts : List Token) (i : Nat) : ReaderState :=
  { ReaderState.start size ts with index := i, unread := (ReaderState.start size ts).unread.drop i }

/-- What reading a declaration at a token gives. -/
def outcomeAt (size : Nat) (ts : List Token) (i : Nat) : Except ParseError Rule :=
  (Reader.rule.run (.startAt size ts i)).1

/-- The error of the tokens before the next declaration, if there are any. -/
def strayAt (ts : List Token) (i : Nat) : List ParseError :=
  match ts[i]? with
  | none => []
  | some t =>
    if t.kind = .keyword .rule ∨ t.kind = .endOfFile then []
    else [⟨.expected "rule keyword", t.position⟩]

/-- The errors of a declaration and of the tokens behind it. Behind one that fails nothing is stray. -/
def errorsAt (size : Nat) (ts : List Token) (i : Nat) : List ParseError :=
  match outcomeAt size ts i with
  | .ok r => strayAt ts r.lastToken
  | .error e => [e]

/-- What reading gives where rules start at `starts`, the first of them behind the stray tokens. -/
def account (size : Nat) (ts : List Token) (stray : List ParseError) (starts : List Nat) : RuleList where
  rules := starts.filterMap fun i => (outcomeAt size ts i).toOption
  errors := stray ++ starts.flatMap (errorsAt size ts)

section account
variable {size : Nat} {ts : List Token} {i : Nat} {starts : List Nat}

theorem account_ok {r : Rule} (outcome : outcomeAt size ts i = .ok r) :
    account size ts [] (i :: starts) = (account size ts (strayAt ts r.lastToken) starts).addRule r := by
  simp [account, errorsAt, outcome, Except.toOption, RuleList.addRule]

theorem account_error {e : ParseError} (outcome : outcomeAt size ts i = .error e) :
    account size ts [] (i :: starts) = (account size ts [] starts).addError e := by
  simp [account, errorsAt, outcome, Except.toOption, RuleList.addError]

end account

/-! ## Where rules start -/

/-- Behind any words a word is spelled as its kind demands in one stretch or the other. -/
theorem spelled_of_mem {m : Lexer.Stretch} {ts : List Token} (spelled : Spelled m (ts.map Token.word)) :
    ∀ t ∈ ts, ∃ m, t.word.Spelled m := by
  induction ts generalizing m with
  | nil => simp
  | cons t ts ih => exact List.forall_mem_cons.mpr ⟨⟨m, spelled.1⟩, ih spelled.2⟩

theorem keywordsSpelled_of_spelled {m : Lexer.Stretch} {ts : List Token}
    (spelled : Spelled m (ts.map Token.word)) : Reader.KeywordsSpelled ts := by
  intro t member k kind
  obtain ⟨m, word⟩ := spelled_of_mem spelled t member
  simpa [Word.Spelled, kind, TokenKind.literal] using word

theorem not_endOfFile_of_spelled {m : Lexer.Stretch} {ts : List Token}
    (spelled : Spelled m (ts.map Token.word)) : ∀ t ∈ ts, t.kind ≠ .endOfFile := by
  intro t member kind
  obtain ⟨m, word⟩ := spelled_of_mem spelled t member
  simp [Word.Spelled, kind] at word

/-! ## One declaration -/

namespace ReaderState

/-- The state stands within a text whose tokens are `body` and its end `finish`, outside of all
parentheses. -/
structure Inside (body : List Token) (finish : Token) (s : ReaderState) : Prop where
  unread : s.unread = body.drop s.index
  bound : s.index ≤ body.length
  finish : s.finish = finish
  nesting : s.nesting = 0

variable {body : List Token} {finish : Token} {s t : ReaderState}

theorem start_eq (size : Nat) (ends : finish.kind = .endOfFile) :
    start size (body ++ [finish]) = { unread := body, finish } := by
  simp [start, ends]

/-- From `s` to `t` tokens were taken none of which starts a rule. -/
def Passes (s t : ReaderState) : Prop :=
  ∃ taken : List Token, s.unread = taken ++ t.unread ∧ t.index = s.index + taken.length ∧
    t.finish = s.finish ∧ t.nesting = s.nesting ∧ ∀ x ∈ taken, x.kind ≠ .keyword .rule

theorem Path.passes {p q : Place} (path : s.Path p t q) : s.Passes t := by
  obtain ⟨taken, unread, index, finish, nesting, walk⟩ := path
  refine ⟨taken, unread, index, finish, nesting, fun x member => ?_⟩
  exact not_rule_of_walk walk x.word (List.mem_map_of_mem member)

theorem Inside.of_taken {taken : List Token} (inside : s.Inside body finish)
    (unread : s.unread = taken ++ t.unread) (index : t.index = s.index + taken.length)
    (same : t.finish = s.finish) (nesting : t.nesting = s.nesting) : t.Inside body finish where
  unread := by
    rw [index, ← List.drop_drop, ← inside.unread, unread, List.drop_left]
  bound := by
    have length := congrArg List.length (inside.unread.symm.trans unread)
    have bound := inside.bound
    rw [List.length_drop, List.length_append] at length
    omega
  finish := same.trans inside.finish
  nesting := nesting.trans inside.nesting

theorem Inside.passes (inside : s.Inside body finish) (passes : s.Passes t) :
    t.Inside body finish := by
  obtain ⟨taken, unread, index, same, nesting, _⟩ := passes
  exact inside.of_taken unread index same nesting

theorem skip_of_cons {x : Token} {rest : List Token} (unread : s.unread = x :: rest) :
    s.skip = { s with index := s.index + 1, unread := rest } := by
  rw [skip, unread]

theorem peek_of_cons {x : Token} {rest : List Token} (unread : s.unread = x :: rest) : s.peek = x := by
  rw [peek, unread, List.headD_cons]

/-- The tokens that are left, of which only those behind a keyword that starts a rule are spoken of
in errors. -/
def reported (s : ReaderState) : List Token :=
  match s.unread with
  | [] => []
  | t :: rest => if t.kind = .keyword .rule then rest ++ [s.finish] else t :: rest ++ [s.finish]

theorem reported_sublist (s : ReaderState) : s.reported.Sublist (s.unread ++ [s.finish]) := by
  unfold reported
  split
  · exact List.nil_sublist _
  · rename_i unread
    rw [unread]
    split
    · exact List.sublist_cons_self _ _
    · exact .refl _

theorem toRule_unread (s : ReaderState) :
    s.toRule.unread = s.unread.dropWhile fun t => t.kind ≠ .keyword .rule := by
  let passed := s.unread.takeWhile fun t => t.kind ≠ .keyword .rule
  calc s.toRule.unread
      _ = (passed ++ s.unread.dropWhile fun t => t.kind ≠ .keyword .rule).drop passed.length := by
        rw [List.takeWhile_append_dropWhile]; rfl
      _ = s.unread.dropWhile fun t => t.kind ≠ .keyword .rule := List.drop_left

theorem unread_eq_passed (s : ReaderState) :
    s.unread = (s.unread.takeWhile fun t => t.kind ≠ .keyword .rule) ++ s.toRule.unread := by
  rw [toRule_unread, List.takeWhile_append_dropWhile]

theorem not_rule_of_mem_takeWhile (ts : List Token) :
    ∀ t ∈ ts.takeWhile fun t => t.kind ≠ .keyword .rule, t.kind ≠ .keyword .rule := fun t member => by
  simpa using List.all_eq_true.mp List.all_takeWhile t member

/-- After going on to the next rule nothing is left or a rule starts. -/
theorem toRule_cases (s : ReaderState) : s.toRule.unread = [] ∨
    ∃ t rest, s.toRule.unread = t :: rest ∧ t.kind = .keyword .rule := by
  have first := List.head?_dropWhile_not (fun t : Token => t.kind ≠ .keyword .rule) s.unread
  rw [← toRule_unread] at first
  cases found : s.toRule.unread with
  | nil => exact .inl rfl
  | cons t rest =>
    rw [found] at first
    exact .inr ⟨t, rest, rfl, by simpa using first⟩

theorem passes_toRule (s : ReaderState) : s.Passes s.toRule :=
  ⟨_, unread_eq_passed s, rfl, rfl, rfl, not_rule_of_mem_takeWhile _⟩

theorem Passes.startsFrom (passes : s.Passes t) :
    startsFrom s.index s.unread = startsFrom t.index t.unread := by
  obtain ⟨taken, unread, index, _, _, others⟩ := passes
  rw [unread, index, startsFrom_append _ _ others]

theorem ahead_append_reported (s : ReaderState) :
    (s.ahead ++ s.toRule.reported).Sublist (s.unread ++ [s.finish]) := by
  conv => rhs; rw [unread_eq_passed s]
  rw [ahead, List.append_assoc, List.append_assoc, List.append_sublist_append_left]
  rcases toRule_cases s with none | ⟨t, rest, found, starts⟩
  · rw [reported, none, peek, none]
    exact .refl _
  · rw [reported, found, peek, found]
    simp only [starts, if_pos]
    exact .refl _

theorem Inside.getElem? (inside : s.Inside body finish) :
    (body ++ [finish])[s.index]? = some s.peek := by
  have bound := inside.bound
  cases found : s.unread with
  | nil =>
    have length := congrArg List.length (inside.unread.symm.trans found)
    have index : s.index = body.length := by
      rw [List.length_drop, List.length_nil] at length
      omega
    rw [index, List.getElem?_concat_length, peek, found, List.headD_nil, inside.finish]
  | cons t rest =>
    have here := inside.unread.symm.trans found
    have first : body[s.index]? = some t := by
      rw [← List.head?_drop, here, List.head?_cons]
    rw [List.getElem?_append_left (List.getElem?_eq_some_iff.mp first).1, first, peek_of_cons found]

theorem Inside.strayAt (inside : s.Inside body finish) : strayAt (body ++ [finish]) s.index =
    if s.peek.kind = .keyword .rule ∨ s.peek.kind = .endOfFile then []
    else [⟨.expected "rule keyword", s.peek.position⟩] := by
  rw [Triage.strayAt, inside.getElem?]

theorem Inside.strayAt_toRule (inside : s.Inside body finish) (ends : finish.kind = .endOfFile) :
    Triage.strayAt (body ++ [finish]) s.toRule.index = [] := by
  rw [(inside.passes s.passes_toRule).strayAt, if_pos]
  rcases toRule_cases s with none | ⟨t, rest, found, starts⟩
  · exact .inr (by rw [peek, none, List.headD_nil, toRule, inside.finish, ends])
  · exact .inl (by rw [peek_of_cons found, starts])

theorem Inside.account_nil (size : Nat) (inside : s.Inside body finish) (ends : finish.kind = .endOfFile)
    (none : s.unread = []) : account size (body ++ [finish])
      (Triage.strayAt (body ++ [finish]) s.index) (startsFrom s.index s.unread) = {} := by
  rw [inside.strayAt, peek, none]
  simp [account, startsFrom, inside.finish, ends]

/-- Of a state only where it stands counts for a rule that is read there. -/
theorem Inside.outcomeAt (size : Nat) (inside : s.Inside body finish) (ends : finish.kind = .endOfFile) :
    outcomeAt size (body ++ [finish]) s.index = (Reader.rule.run s).1 := by
  have start : startAt size (body ++ [finish]) s.index = { s with declared := [] } := by
    obtain ⟨unread, _, finish, nesting⟩ := inside
    rw [startAt, start_eq _ ends]
    simp [← unread, ← finish, ← nesting]
  rw [Triage.outcomeAt, start]
  rfl

theorem Inside.within (inside : s.Inside body finish) (ends : finish.kind = .endOfFile) :
    s.Within s.ahead :=
  ⟨by rw [inside.finish, ends], fun _ member => member⟩

theorem Inside.mem_of_ahead (inside : s.Inside body finish) {x : Token} (member : x ∈ s.ahead) :
    x ∈ body ++ [finish] := by
  have place := (List.sublist_append_left _ _ |>.trans s.ahead_append_reported).subset member
  rw [inside.unread, inside.finish] at place
  exact (List.mem_append.mp place).elim
    (fun inBody => List.mem_append_left _ (List.mem_of_mem_drop inBody)) (List.mem_append_right _)

theorem Inside.keywordsSpelled (inside : s.Inside body finish) (ends : finish.kind = .endOfFile)
    (spelled : Reader.KeywordsSpelled body) : Reader.KeywordsSpelled s.ahead := by
  intro x member k kind
  rcases List.mem_append.mp (inside.mem_of_ahead member) with inBody | last
  · exact spelled x inBody k kind
  · rw [List.mem_singleton.mp last, ends] at kind
    nomatch kind

theorem Inside.skip (inside : s.Inside body finish) : s.skip.Inside body finish := by
  cases found : s.unread with
  | nil => rwa [ReaderState.skip, found]
  | cons t rest =>
    rw [skip_of_cons found]
    exact inside.of_taken (show s.unread = [t] ++ rest from found) rfl rfl rfl

/-- A rule takes its keyword and then tokens that start no rule. An error is one of a token behind
the keyword, up to the keyword of the next rule. -/
theorem Inside.runs_rule (inside : s.Inside body finish) (ends : finish.kind = .endOfFile)
    (spelled : Reader.KeywordsSpelled body) (starts : s.peek.kind = .keyword .rule) :
    Reader.rule.Runs s
      (fun r t => r.firstToken = s.index ∧ r.lastToken = t.index ∧ s.skip.Passes t)
      (fun e t => s.skip.Passes t ∧ ∃ x ∈ s.skip.ahead, e.position = x.position) := by
  let behind : ReaderState := { s with declared := [] }.skip
  have same : behind = { s.skip with declared := [] } := by
    simp only [behind, ReaderState.skip]
    split <;> rfl
  have known := inside.skip.keywordsSpelled ends spelled
  have within : behind.Within s.skip.ahead := by
    rw [same]
    exact ⟨(inside.skip.within ends).ends, fun _ member => member⟩
  have passes {t : ReaderState} (passes : behind.Passes t) : s.skip.Passes t := by
    rwa [same] at passes
  have runs := (Reader.takes_declaration known s behind within).and (Reader.runs_declaration s behind)
  unfold Reader.Runs
  rw [Reader.run_rule starts]
  refine runs.mono ?_ ?_
  · rintro r t ⟨⟨q, path, -⟩, first, last, -⟩
    exact ⟨first, last, passes path.passes⟩
  · rintro e t ⟨⟨⟨q, path⟩, seen⟩, -⟩
    exact ⟨passes path.passes, seen⟩

/-! ## All declarations -/

@[simp] theorem skip_finish (s : ReaderState) : s.skip.finish = s.finish := by
  unfold skip
  split <;> rfl

@[simp] theorem skip_nesting (s : ReaderState) : s.skip.nesting = s.nesting := by
  unfold skip
  split <;> rfl

theorem passes_recover {failed : ReaderState} (same : failed.finish = s.finish)
    (nesting : failed.nesting = s.nesting) : s.skip.Passes (s.recover failed) := by
  obtain ⟨taken, unread, index, _, _, others⟩ := s.skip.passes_toRule
  exact ⟨taken, unread, index, by simpa [recover] using same, by simpa [recover] using nesting, others⟩

theorem Passes.length (passes : s.Passes t) : t.unread.length ≤ s.unread.length := by
  obtain ⟨_, unread, _⟩ := passes
  rw [unread, List.length_append]
  exact Nat.le_add_left _ _

theorem readRules_eq_account (size : Nat) (ends : finish.kind = .endOfFile)
    (spelled : Spelled .plain (body.map Token.word)) (fuel : Nat) (inside : s.Inside body finish)
    (enough : s.unread.length ≤ fuel) :
    (readRules fuel s).1 = account size (body ++ [finish]) (Triage.strayAt (body ++ [finish]) s.index)
      (startsFrom s.index s.unread) := by
  induction fuel generalizing s with
  | zero =>
    have none : s.unread = [] := List.length_eq_zero_iff.mp (Nat.le_zero.mp enough)
    rw [readRules, inside.account_nil size ends none]
  | succ fuel ih =>
    cases found : s.unread with
    | nil =>
      have none := inside.account_nil size ends found
      rw [found] at none
      rw [readRules, if_pos (by simp [found]), none]
    | cons x rest =>
      have peeked := peek_of_cons found
      have skipped := skip_of_cons found
      rw [found, List.length_cons, Nat.succ_le_succ_iff] at enough
      have onward {t : ReaderState} (passes : s.skip.Passes t) : (readRules fuel t).1 =
          account size (body ++ [finish]) (Triage.strayAt (body ++ [finish]) t.index)
            (startsFrom (s.index + 1) rest) := by
        have shorter := passes.length
        have starts := passes.startsFrom
        rw [skipped] at shorter starts
        rw [ih (inside.skip.passes passes) (Nat.le_trans shorter enough), ← starts]
      -- Behind an error reading goes on at the next rule, where nothing is stray.
      have recovered {failed : ReaderState} (same : failed.finish = s.finish)
          (nesting : failed.nesting = s.nesting) : (readRules fuel (s.recover failed)).1 =
            account size (body ++ [finish]) [] (startsFrom (s.index + 1) rest) := by
        rw [onward (passes_recover same nesting), ← inside.skip.strayAt_toRule ends]
        rfl
      rw [readRules, if_neg (by simp [found]), inside.strayAt, peeked, startsFrom_cons]
      by_cases starts : x.kind = .keyword .rule
      · rw [if_neg (by simpa using starts), if_pos (.inl starts), if_pos starts]
        have runs := inside.runs_rule ends (keywordsSpelled_of_spelled spelled) (peeked ▸ starts)
        have outcome := inside.outcomeAt size ends
        rcases ran : Reader.rule.run s with ⟨e | r, next⟩
        · obtain ⟨⟨_, _, _, same, nesting, _⟩, _⟩ := runs.of_error ran
          simp only [skip_finish, skip_nesting] at same nesting
          rw [account_error (outcome.trans (by rw [ran])), ← recovered same nesting]
        · obtain ⟨_, last, passes⟩ := runs.of_ok ran
          rw [account_ok (outcome.trans (by rw [ran])), last, ← onward passes]
      · have inBody : x ∈ body := List.mem_of_mem_drop (i := s.index) (by simp [← inside.unread, found])
        have notEnd := not_endOfFile_of_spelled spelled x inBody
        rw [if_pos (by simpa using starts), if_neg starts, if_neg (not_or.mpr ⟨starts, notEnd⟩)]
        exact congrArg (RuleList.addError _) (recovered rfl rfl)

/-- Each error stands at a token of its own, in the order of the text. -/
theorem sublist_errors (ends : finish.kind = .endOfFile)
    (spelled : Spelled .plain (body.map Token.word)) (fuel : Nat) (inside : s.Inside body finish) :
    ((readRules fuel s).1.errors.map (·.position)).Sublist (s.reported.map (·.position)) := by
  induction fuel generalizing s with
  | zero => exact List.nil_sublist _
  | succ fuel ih =>
    cases found : s.unread with
    | nil =>
      rw [readRules, if_pos (by simp [found])]
      exact List.nil_sublist _
    | cons x rest =>
      have peeked := peek_of_cons found
      have skipped := skip_of_cons found
      have recovered {failed : ReaderState} (same : failed.finish = s.finish)
          (nesting : failed.nesting = s.nesting) :
          ((readRules fuel (s.recover failed)).1.errors.map (·.position)).Sublist
            (s.skip.toRule.reported.map (·.position)) := by
        have next := ih (inside.skip.passes (passes_recover same nesting))
        have left : (s.recover failed).reported = s.skip.toRule.reported := by
          simp [reported, recover, same, toRule]
        rwa [left] at next
      have rests : s.skip.unread ++ [s.skip.finish] = rest ++ [s.finish] := by rw [skipped]
      have ahead := rests ▸ s.skip.ahead_append_reported
      rw [readRules, if_neg (by simp [found]), peeked, reported, found]
      by_cases starts : x.kind = .keyword .rule
      · simp only [starts, if_pos, ne_eq, not_true_eq_false, if_false]
        have runs := inside.runs_rule ends (keywordsSpelled_of_spelled spelled) (peeked ▸ starts)
        rcases ran : Reader.rule.run s with ⟨e | r, next⟩
        · obtain ⟨⟨_, _, _, same, nesting, _⟩, y, seen, position⟩ := runs.of_error ran
          simp only [skip_finish, skip_nesting] at same nesting
          have own : [e.position].Sublist (s.skip.ahead.map (·.position)) :=
            List.singleton_sublist.mpr (position ▸ List.mem_map_of_mem seen)
          have both := own.append (recovered same nesting)
          rw [← List.map_append] at both
          exact both.trans (ahead.map _)
        · obtain ⟨_, _, passes⟩ := runs.of_ok ran
          have next := ih (inside.skip.passes passes)
          obtain ⟨taken, unread, _, same, _⟩ := passes
          refine next.trans ((reported_sublist _).trans ?_ |>.map _)
          rw [← rests, unread, same, List.append_assoc]
          exact List.sublist_append_right _ _
      · simp only [starts, if_neg, ne_eq, not_false_eq_true, if_true]
        exact ((recovered rfl rfl).trans (((List.sublist_append_right _ _).trans ahead).map _)).cons_cons _

/-- A rule that is read at a token ends before the next rule starts. -/
theorem Inside.span (size : Nat) (inside : s.Inside body finish) (ends : finish.kind = .endOfFile)
    (spelled : Spelled .plain (body.map Token.word)) (starts : s.peek.kind = .keyword .rule) {r : Rule}
    (outcome : Triage.outcomeAt size (body ++ [finish]) s.index = .ok r) :
    r.firstToken = s.index ∧ s.index < r.lastToken ∧
      ∀ j ∈ ruleStarts (body ++ [finish]), s.index < j → r.lastToken ≤ j := by
  have runs := inside.runs_rule ends (keywordsSpelled_of_spelled spelled) starts
  rw [inside.outcomeAt size ends] at outcome
  rcases ran : Reader.rule.run s with ⟨e | r', next⟩ <;> rw [ran] at outcome
  · cases outcome
  · obtain rfl := Except.ok.inj outcome
    obtain ⟨first, last, taken, unread, index, _, _, others⟩ := runs.of_ok ran
    have cons : ∃ x rest, s.unread = x :: rest := by
      refine List.exists_cons_of_ne_nil fun none => ?_
      rw [peek, none, List.headD_nil, inside.finish, ends] at starts
      cases starts
    obtain ⟨x, rest, found⟩ := cons
    have skipped := skip_of_cons found
    have behind : body.drop (s.index + 1) = taken ++ next.unread := by
      rw [← unread, inside.skip.unread, skipped]
    rw [skipped] at index
    dsimp only at index
    refine ⟨first, by omega, fun j member later => ?_⟩
    obtain ⟨t, there, kind⟩ := mem_ruleStarts.mp member
    -- A rule that started before the end would start within what was taken.
    refine Nat.le_of_not_lt fun before => others t ?_ kind
    have place : taken[j - (s.index + 1)]? = some t := by
      have inBody : j < body.length := by
        have length := congrArg List.length behind
        rw [List.length_drop, List.length_append] at length
        omega
      calc taken[j - (s.index + 1)]?
          _ = (taken ++ next.unread)[j - (s.index + 1)]? :=
            (List.getElem?_append_left (by omega)).symm
          _ = body[s.index + 1 + (j - (s.index + 1))]? := by rw [← behind, List.getElem?_drop]
          _ = (body ++ [finish])[j]? := by
            rw [Nat.add_sub_cancel' later, List.getElem?_append_left inBody]
          _ = some t := there
    exact List.mem_of_getElem? place

theorem start_inside (size : Nat) (ends : finish.kind = .endOfFile) :
    (start size (body ++ [finish])).Inside body finish := by
  rw [start_eq _ ends]
  exact ⟨rfl, Nat.zero_le _, rfl, rfl⟩

theorem startAt_inside (size : Nat) (ends : finish.kind = .endOfFile) {i : Nat}
    (starts : i ∈ ruleStarts (body ++ [finish])) :
    (startAt size (body ++ [finish]) i).Inside body finish ∧
      (startAt size (body ++ [finish]) i).peek.kind = .keyword .rule := by
  obtain ⟨t, there, kind⟩ := mem_ruleStarts.mp starts
  have bound : i ≤ body.length := by
    have bound := (List.getElem?_eq_some_iff.mp there).1
    rw [List.length_append, List.length_singleton] at bound
    omega
  have inside : (startAt size (body ++ [finish]) i).Inside body finish := by
    rw [startAt, start_eq _ ends]
    exact ⟨rfl, bound, rfl, rfl⟩
  have peeked : some t = some _ := there.symm.trans inside.getElem?
  exact ⟨inside, Option.some.inj peeked ▸ kind⟩

end ReaderState

theorem parseRules_eq_account {text : String} {ts : List Token} (lexed : tokens text = .ok ts) :
    parseRules text = .ok (account text.utf8ByteSize ts (strayAt ts 0) (ruleStarts ts)) := by
  obtain ⟨body, finish, rfl, ends, spelled⟩ := tokens_spelled lexed
  have read := ReaderState.readRules_eq_account text.utf8ByteSize ends spelled _
    (ReaderState.start_inside text.utf8ByteSize ends) (Nat.le_refl _)
  have starts : ruleStarts (body ++ [finish]) = startsFrom 0 body := by
    simp [ruleStarts_eq, startsFrom, List.zipIdx_append, ends]
  rw [parseRules, lexed]
  change Except.ok (ReaderState.rules _).1 = _
  rw [ReaderState.rules, read, ReaderState.start_eq _ ends, starts]

theorem sublist_account {text : String} {ts : List Token} (lexed : tokens text = .ok ts) :
    ((account text.utf8ByteSize ts (strayAt ts 0) (ruleStarts ts)).errors.map (·.position)).Sublist
      (ts.map (·.position)) := by
  have read := parseRules_eq_account lexed
  obtain ⟨body, finish, rfl, ends, spelled⟩ := tokens_spelled lexed
  let start := ReaderState.start text.utf8ByteSize (body ++ [finish])
  have errors := ReaderState.sublist_errors ends spelled start.unread.length
    (ReaderState.start_inside text.utf8ByteSize ends)
  rw [parseRules, lexed] at read
  have same : (start.readRules start.unread.length).1 = _ := Except.ok.inj read
  rw [same] at errors
  refine errors.trans ((ReaderState.reported_sublist start).map _ |>.trans ?_)
  have whole : start.unread ++ [start.finish] = body ++ [finish] :=
    congrArg (fun s => s.unread ++ [s.finish]) (ReaderState.start_eq _ ends)
  exact whole ▸ .refl _

theorem span_of_outcomeAt {text : String} {ts : List Token} (lexed : tokens text = .ok ts) {i : Nat}
    (starts : i ∈ ruleStarts ts) {r : Rule} (outcome : outcomeAt text.utf8ByteSize ts i = .ok r) :
    r.firstToken = i ∧ i < r.lastToken ∧ ∀ j ∈ ruleStarts ts, i < j → r.lastToken ≤ j := by
  obtain ⟨body, finish, rfl, ends, spelled⟩ := tokens_spelled lexed
  obtain ⟨inside, kind⟩ := ReaderState.startAt_inside text.utf8ByteSize ends starts
  exact inside.span _ ends spelled kind outcome

/-- Each rule of a text was read behind its keyword by a reader that had read nothing before. -/
theorem exists_declaration {text : String} {list : RuleList} (read : parseRules text = .ok list)
    {r : Rule} (member : r ∈ list.rules) :
    ∃ body finish s t, tokens text = .ok (body ++ [finish]) ∧ finish.kind = .endOfFile ∧
      Spelled .plain (body.map Token.word) ∧ s.Inside body finish ∧ s.declared = [] ∧
      s.peek.kind = .keyword .rule ∧ (Reader.declaration s).run s.skip = (.ok r, t) := by
  cases lexed : tokens text with
  | error e =>
    rw [parseRules, lexed] at read
    nomatch read
  | ok ts =>
    rw [parseRules_eq_account lexed] at read
    obtain rfl := Except.ok.inj read
    obtain ⟨i, starts, outcome⟩ := List.mem_filterMap.mp member
    obtain ⟨body, finish, rfl, ends, spelled⟩ := tokens_spelled lexed
    obtain ⟨inside, kind⟩ := ReaderState.startAt_inside text.utf8ByteSize ends starts
    have fresh : (ReaderState.startAt text.utf8ByteSize (body ++ [finish]) i).declared = [] := by
      rw [ReaderState.startAt, ReaderState.start_eq _ ends]
    unfold outcomeAt at outcome
    generalize ReaderState.startAt text.utf8ByteSize (body ++ [finish]) i = s at *
    rcases ran : Reader.rule.run s with ⟨e | r', t⟩ <;> rw [ran] at outcome
    · nomatch outcome
    · obtain rfl := Option.some.inj outcome
      have same : { s with declared := [] } = s := by rw [← fresh]
      refine ⟨body, finish, s, t, rfl, ends, spelled, inside, fresh, kind, ?_⟩
      rw [← ran, Reader.run_rule kind, same]

/-- Of a text that can be cut into tokens each keyword that starts a rule gives what a new reader
gets there, a rule or an error. The tokens before the first of them, and those between a rule that
was read and the next one, give one more error, if there are any. Rules and errors come in the order
of the text, and no rule is read past the next one. -/
theorem parseRules_accounts {text : String} {ts : List Token} (lexed : tokens text = .ok ts) :
    ∃ list, parseRules text = .ok list ∧
      list = account text.utf8ByteSize ts (strayAt ts 0) (ruleStarts ts) ∧
      (∀ i ∈ ruleStarts ts, ∀ r, outcomeAt text.utf8ByteSize ts i = .ok r →
        r.firstToken = i ∧ i < r.lastToken ∧ ∀ j ∈ ruleStarts ts, i < j → r.lastToken ≤ j) ∧
      list.rules.Pairwise (fun a b => a.lastToken ≤ b.firstToken) ∧
      (list.errors.map (·.position)).Sublist (ts.map (·.position)) := by
  have spans (i : Nat) (starts : i ∈ ruleStarts ts) (r : Rule) :=
    @span_of_outcomeAt text ts lexed i starts r
  refine ⟨_, parseRules_eq_account lexed, rfl, spans, ?_, sublist_account lexed⟩
  refine List.pairwise_filterMap.mpr ((pairwise_startsFrom 0 ts).imp_of_mem ?_)
  intro i j first second before a read b later
  have outcome {i : Nat} {r : Rule} (read : (outcomeAt text.utf8ByteSize ts i).toOption = some r) :
      outcomeAt text.utf8ByteSize ts i = .ok r := by
    cases found : outcomeAt text.utf8ByteSize ts i <;> simp_all [Except.toOption]
  obtain ⟨_, _, ended⟩ := spans i first a (outcome read)
  rw [(spans j second b (outcome later)).1]
  exact ended j second before

/-- A text with a broken rule between two that are not. -/
theorem brokenRule_accounted : ∃ ts, tokens "a rule A {} b rule C rule D {}" = .ok ts ∧
    ∃ list, parseRules "a rule A {} b rule C rule D {}" = .ok list ∧
      list.rules.map (fun r => (r.name, r.firstToken, r.lastToken)) = [("A", 1, 5), ("D", 8, 12)] ∧
      list.errors = [⟨.expected "rule keyword", ⟨1, 1⟩⟩, ⟨.expected "rule keyword", ⟨1, 13⟩⟩,
        ⟨.expected "open curly brace", ⟨1, 22⟩⟩] := by
  refine ⟨_, by rfl, ?_⟩
  obtain ⟨list, read, rfl, _⟩ := @parseRules_accounts "a rule A {} b rule C rule D {}" _ (by rfl)
  exact ⟨_, read, by rfl, by rfl⟩

end Triage
