import Triage.Proofs.Rule.Descent

/-! Any number of calls on one reader. Wherever the calls before have failed, the reader stands at a token of its
list, it never goes back, and each call leaves all parentheses closed. -/

namespace Triage

/-- The list that is read from: the tokens, with an end behind them if they have none. -/
def tokenList (size : Nat) (given : List Token) : List Token :=
  if given.getLast?.map (·.kind) = some .endOfFile then given
  else given ++ [⟨.endOfFile, size, size, (given.getLast?.map (·.position)).getD {}, ""⟩]

namespace ReaderState

theorem start_tokenList (size : Nat) (given : List Token) :
    (start size given).unread ++ [(start size given).finish] = tokenList size given := by
  unfold start tokenList
  cases found : given.getLast? with
  | none => rw [List.getLast?_eq_none_iff.mp found]; rfl
  | some last =>
    obtain ⟨front, rfl⟩ := List.getLast?_eq_some_iff.mp found
    by_cases ends : last.kind = .endOfFile <;> simp [ends]

theorem start_fresh (size : Nat) (given : List Token) :
    (start size given).index = 0 ∧ (start size given).nesting = 0 := by
  unfold start
  split
  · split <;> exact ⟨rfl, rfl⟩
  · exact ⟨rfl, rfl⟩

theorem start_inside_tokenList {size : Nat} {given body : List Token} {finish : Token}
    (list : tokenList size given = body ++ [finish]) : (start size given).Inside body finish := by
  obtain ⟨unread, last⟩ := List.append_inj' ((start_tokenList size given).trans list) rfl
  obtain ⟨index, nesting⟩ := start_fresh size given
  exact ⟨by rw [index]; exact unread, by rw [index]; exact Nat.zero_le _, List.singleton_inj.mp last, nesting⟩

/-- The state stands within the tokens, inside of as many parentheses as may be open. -/
structure Stands (body : List Token) (finish : Token) (s : ReaderState) : Prop where
  inside : ({ s with nesting := 0 } : ReaderState).Inside body finish
  nesting : s.nesting ≤ nestingLimit

section stands
variable {body : List Token} {finish : Token} {s t last : ReaderState} {visited : List ReaderState}

theorem Inside.stands (inside : s.Inside body finish) : s.Stands body finish :=
  ⟨⟨inside.unread, inside.bound, inside.finish, rfl⟩, inside.nesting ▸ Nat.zero_le _⟩

theorem Stands.inside_of_closed (stands : s.Stands body finish) (closed : s.nesting = 0) : s.Inside body finish :=
  ⟨stands.inside.unread, stands.inside.bound, stands.inside.finish, closed⟩

theorem Stands.getElem? (stands : s.Stands body finish) : (body ++ [finish])[s.index]? = some s.peek :=
  stands.inside.getElem?

/-- A change keeps the state within the tokens and does not take it back. -/
theorem Stands.move (stands : s.Stands body finish) (move : s.Move t) :
    t.Stands body finish ∧ s.index ≤ t.index := by
  obtain ⟨inside, level⟩ := stands
  cases move with
  | past passed unread index finish nesting =>
    refine ⟨⟨inside.of_taken unread index finish rfl, nesting ▸ level⟩, ?_⟩
    rw [index]
    exact Nat.le_add_right _ _
  | deeper room moved =>
    subst moved
    exact ⟨⟨inside, room⟩, Nat.le_refl _⟩
  | back opened moved =>
    subst moved
    exact ⟨⟨inside, Nat.le_trans (Nat.sub_le _ _) level⟩, Nat.le_refl _⟩

theorem Stands.walk (stands : s.Stands body finish) (walk : s.Walk visited last) :
    (∀ t ∈ s :: visited, t.Stands body finish) ∧ (s :: visited).Pairwise (fun t u => t.index ≤ u.index) ∧
      last.Stands body finish := by
  induction walk with
  | stay s => exact ⟨by simpa using stands, List.pairwise_singleton _ _, stands⟩
  | @move s t last visited first more ih =>
    obtain ⟨next, onward⟩ := stands.move first
    obtain ⟨each, ordered, ended⟩ := ih next
    refine ⟨List.forall_mem_cons.mpr ⟨stands, each⟩, List.pairwise_cons.mpr ⟨fun u member => ?_, ordered⟩, ended⟩
    rcases List.mem_cons.mp member with rfl | later
    · exact onward
    · exact Nat.le_trans onward ((List.pairwise_cons.mp ordered).1 u later)

/-! ## Rules -/

theorem Passes.finish_eq (passes : s.Passes t) : t.finish = s.finish := by
  obtain ⟨_, _, _, finish, _⟩ := passes
  exact finish

theorem Passes.nesting_eq (passes : s.Passes t) : t.nesting = s.nesting := by
  obtain ⟨_, _, _, _, nesting, _⟩ := passes
  exact nesting

/-- Behind a rule that fails reading goes on ahead. -/
theorem Passes.move_recover (passes : s.skip.Passes t) : t.Move (s.recover t) := by
  -- What was taken starts no rule, so the next one is the same from either state.
  obtain ⟨taken, unread, index, _, _, others⟩ := passes
  have passed : s.skip.unread.takeWhile (fun x => x.kind ≠ .keyword .rule) =
      taken ++ t.unread.takeWhile fun x => x.kind ≠ .keyword .rule := by
    rw [unread, List.takeWhile_append_of_pos fun x member => by simpa using others x member]
  refine .past (t.unread.takeWhile fun x => x.kind ≠ .keyword .rule) ?_ ?_ rfl rfl
  · have left : (s.recover t).unread = t.toRule.unread := by
      change s.skip.toRule.unread = _
      rw [toRule_unread, toRule_unread, unread, List.dropWhile_append_of_pos fun x member => by
        simpa using others x member]
    rw [left]
    exact unread_eq_passed t
  · change s.skip.index + (s.skip.unread.takeWhile _).length = _
    rw [passed, List.length_append, index, Nat.add_assoc]

/-- Tokens that belong to no rule are gone past. -/
theorem move_recover (s : ReaderState) : s.Move (s.recover s) := by
  have passes : s.skip.Passes (s.recover s) := passes_recover rfl rfl
  cases found : s.unread with
  | nil =>
    rw [skip, found] at passes
    exact passes.move
  | cons x rest =>
    rw [skip_of_cons found] at passes
    obtain ⟨taken, unread, index, finish, nesting, _⟩ := passes
    refine .past (x :: taken) (by rw [found]; exact congrArg (x :: ·) unread) ?_ finish nesting
    rw [index, List.length_cons, Nat.add_assoc, Nat.add_comm 1]

/-- The states that reading rules goes through: those of each rule, and the one to go on from behind an error. -/
inductive VisitsRules : ReaderState → List ReaderState → Prop
  | done {s : ReaderState} (none : s.unread = []) : VisitsRules s []
  | stray {s : ReaderState} {visited : List ReaderState} (some : s.unread ≠ [])
    (other : s.peek.kind ≠ .keyword .rule) (rest : VisitsRules (s.recover s) visited) :
    VisitsRules s (s.recover s :: visited)
  | rule {s t : ReaderState} {r : Rule} {visited others : List ReaderState} (starts : s.peek.kind = .keyword .rule)
    (first : Reader.rule.Visits s visited) (ran : Reader.rule.run s = (.ok r, t)) (rest : VisitsRules t others) :
    VisitsRules s (visited ++ others)
  | broken {s t : ReaderState} {e : ParseError} {visited others : List ReaderState}
    (starts : s.peek.kind = .keyword .rule) (first : Reader.rule.Visits s visited)
    (ran : Reader.rule.run s = (.error e, t)) (rest : VisitsRules (s.recover t) others) :
    VisitsRules s (visited ++ s.recover t :: others)

theorem readRules_goes (ends : finish.kind = .endOfFile) (spelled : Reader.KeywordsSpelled body) (fuel : Nat)
    (inside : s.Inside body finish) (enough : s.unread.length ≤ fuel) :
    ∃ visited, s.VisitsRules visited ∧ s.Walk visited (readRules fuel s).2 ∧ (readRules fuel s).2.nesting = 0 := by
  induction fuel generalizing s with
  | zero =>
    have none : s.unread = [] := List.length_eq_zero_iff.mp (Nat.le_zero.mp enough)
    exact ⟨[], .done none, .stay s, inside.nesting⟩
  | succ fuel ih =>
    cases found : s.unread with
    | nil =>
      rw [readRules, if_pos (by simp [found])]
      exact ⟨[], .done found, .stay s, inside.nesting⟩
    | cons x rest =>
      have shorter : s.skip.unread.length ≤ fuel := by
        rw [found] at enough
        rw [skip_of_cons found]
        exact Nat.succ_le_succ_iff.mp enough
      have onward {t : ReaderState} (passes : s.skip.Passes t) := ih (inside.skip.passes passes)
        (Nat.le_trans passes.length shorter)
      rw [readRules, if_neg (by simp [found])]
      by_cases starts : s.peek.kind = .keyword .rule
      · rw [if_neg (not_not.mpr starts)]
        have runs := inside.runs_rule ends spelled starts
        obtain ⟨visited, visits, walk, -⟩ := Reader.steady_rule s
        rcases ran : Reader.rule.run s with ⟨e | r, t⟩
        · obtain ⟨passes, -⟩ := runs.of_error ran
          have same : t.finish = s.finish := passes.finish_eq.trans (skip_finish s)
          have nesting : t.nesting = s.nesting := passes.nesting_eq.trans (skip_nesting s)
          obtain ⟨others, rests, last, closed⟩ := onward (passes_recover same nesting)
          rw [ran] at walk
          exact ⟨_, .broken starts visits ran rests, walk.append (.move passes.move_recover last), closed⟩
        · obtain ⟨-, -, passes⟩ := runs.of_ok ran
          obtain ⟨others, rests, last, closed⟩ := onward passes
          rw [ran] at walk
          exact ⟨_, .rule starts visits ran rests, walk.append last, closed⟩
      · rw [if_pos starts]
        obtain ⟨others, rests, last, closed⟩ := onward (passes_recover rfl rfl : s.skip.Passes (s.recover s))
        exact ⟨_, .stray (by simp [found]) starts rests, .move (move_recover s) last, closed⟩

end stands

end ReaderState

/-! ## Calls -/

/-- What a predicate is made of. -/
inductive LeafKind
  | properties (s : PropertySection)
  | functions

def LeafKind.reader : LeafKind → Reader Leaf
  | properties s => Reader.comparison s
  | functions => Reader.call

theorem LeafKind.steady (kind : LeafKind) : kind.reader.Steady := by
  cases kind with
  | properties s => exact Reader.steady_comparison s
  | functions => exact Reader.steady_call

inductive Production
  | rule
  | metaSection
  | hashSection
  | hashRecord
  | fileMetadataSection
  | signatureSection
  | grepSection
  | patternsSection
  | patternDefinition
  | hexString
  | encodings
  | predicate (kind : LeafKind)
  | leaf (kind : LeafKind)
  | operator
  | number

def Production.reader : Production → Reader Unit
  | rule => discard Reader.rule
  | metaSection => discard Reader.metaSection
  | hashSection => discard Reader.hashSection
  | hashRecord => discard Reader.hashRecord
  | fileMetadataSection => discard Reader.fileMetadataSection
  | signatureSection => discard Reader.signatureSection
  | grepSection => discard Reader.grepSection
  | patternsSection => discard Reader.patternsSection
  | patternDefinition => discard Reader.patternDefinition
  | hexString => discard Reader.hexString
  | encodings => discard Reader.encodings
  | predicate kind => discard (Reader.predicate kind.reader)
  | leaf kind => discard kind.reader
  | operator => discard Reader.operator
  | number => discard Reader.number

theorem Production.steady (p : Production) : p.reader.Steady := by
  cases p with
  | rule => exact Reader.steady_rule.discard
  | metaSection => exact Reader.steady_metaSection.discard
  | hashSection => exact Reader.steady_hashSection.discard
  | hashRecord => exact Reader.steady_hashRecord.discard
  | fileMetadataSection => exact Reader.steady_fileMetadataSection.discard
  | signatureSection => exact Reader.steady_signatureSection.discard
  | grepSection => exact Reader.steady_grepSection.discard
  | patternsSection => exact Reader.steady_patternsSection.discard
  | patternDefinition => exact Reader.steady_patternDefinition.discard
  | hexString => exact Reader.steady_hexString.discard
  | encodings => exact Reader.steady_encodings.discard
  | predicate kind => exact (Reader.steady_predicate kind.steady).discard
  | leaf kind => exact kind.steady.discard
  | operator => exact Reader.steady_operator.discard
  | number => exact Reader.steady_number.discard

/-- What is asked of a reader: all rules, or one production. -/
inductive ParserCall
  | rules
  | read (p : Production)

namespace ParserCall

/-- The state behind a call, whether or not it succeeds. -/
def after : ParserCall → ReaderState → ReaderState
  | rules, s => s.rules.2
  | read p, s => (p.reader.run s).2

def Visits : ParserCall → ReaderState → List ReaderState → Prop
  | rules, s, visited => s.VisitsRules visited
  | read p, s, visited => p.reader.Visits s visited

def afterAll (calls : List ParserCall) (s : ReaderState) : ReaderState := calls.foldl (fun s call => call.after s) s

inductive VisitsAll : List ParserCall → ReaderState → List ReaderState → Prop
  | done (s : ReaderState) : VisitsAll [] s []
  | call {call : ParserCall} {calls : List ParserCall} {s : ReaderState} {visited others : List ReaderState}
    (first : call.Visits s visited) (rest : VisitsAll calls (call.after s) others) :
    VisitsAll (call :: calls) s (visited ++ others)

variable {body : List Token} {finish : Token} {s : ReaderState}

/-- A call goes on within the tokens and leaves all parentheses closed. -/
theorem goes (ends : finish.kind = .endOfFile) (spelled : Reader.KeywordsSpelled body)
    (inside : s.Inside body finish) (call : ParserCall) :
    ∃ visited, call.Visits s visited ∧ s.Walk visited (call.after s) ∧ (call.after s).Inside body finish := by
  have went : ∃ visited, call.Visits s visited ∧ s.Walk visited (call.after s) ∧ (call.after s).nesting = 0 := by
    cases call with
    | rules => exact ReaderState.readRules_goes ends spelled _ inside (Nat.le_refl _)
    | read p =>
      obtain ⟨visited, visits, walk, nesting⟩ := p.steady s
      exact ⟨visited, visits, walk, nesting.trans inside.nesting⟩
  obtain ⟨visited, visits, walk, closed⟩ := went
  obtain ⟨-, -, stands⟩ := inside.stands.walk walk
  exact ⟨visited, visits, walk, stands.inside_of_closed closed⟩

theorem goes_all (ends : finish.kind = .endOfFile) (spelled : Reader.KeywordsSpelled body)
    (inside : s.Inside body finish) (calls : List ParserCall) :
    ∃ visited, VisitsAll calls s visited ∧ s.Walk visited (afterAll calls s) ∧
      (afterAll calls s).Inside body finish := by
  induction calls generalizing s with
  | nil => exact ⟨[], .done s, .stay s, inside⟩
  | cons call calls ih =>
    obtain ⟨visited, visits, walk, next⟩ := call.goes ends spelled inside
    obtain ⟨others, rests, more, last⟩ := ih next
    exact ⟨visited ++ others, .call visits rests, walk.append more, last⟩

end ParserCall

/-- The tokens of a text, or all but their end, are read as its words and an end. -/
theorem tokenList_spelled {text : String} {ts given : List Token} (lexed : tokens text = .ok ts)
    (dropped : given = ts ∨ given = ts.dropLast) (size : Nat) :
    ∃ body finish, tokenList size given = body ++ [finish] ∧ finish.kind = .endOfFile ∧
      Reader.KeywordsSpelled body := by
  obtain ⟨body, finish, rfl, ends, spelled⟩ := tokens_spelled lexed
  have words := keywordsSpelled_of_spelled spelled
  rcases dropped with rfl | rfl
  · exact ⟨body, finish, by simp [tokenList, ends], ends, words⟩
  · have endless : body.getLast?.map (·.kind) ≠ some .endOfFile := by
      cases found : body.getLast? with
      | none => simp
      | some last => simpa using not_endOfFile_of_spelled spelled last (List.mem_of_getLast? found)
    rw [List.dropLast_concat, tokenList, if_neg endless]
    exact ⟨body, _, rfl, rfl, words⟩

/-- The tokens of a text, with or without the one that ends them, are read by any number of calls, whichever of
them fail. In every state that the calls go through, going on behind errors included, the reader stands at a
token of its list, no further back than before, and inside of no more parentheses than are allowed; behind each
call all of them are closed. From each state the descent through a predicate ends, in one way only, which is the
one that the call gives. -/
theorem calls_stay {text : String} {ts given : List Token} (lexed : tokens text = .ok ts)
    (dropped : given = ts ∨ given = ts.dropLast) (calls : List ParserCall) :
    let start := ReaderState.start text.utf8ByteSize given
    let list := tokenList text.utf8ByteSize given
    ∃ visited, ParserCall.VisitsAll calls start visited ∧ start.Walk visited (ParserCall.afterAll calls start) ∧
      (start :: visited).Pairwise (fun s t => s.index ≤ t.index) ∧
      (∀ k, (ParserCall.afterAll (calls.take k) start).nesting = 0) ∧
      ∀ s ∈ start :: visited, list[s.index]? = some s.peek ∧ s.nesting ≤ nestingLimit ∧
        ∀ (kind : LeafKind) ending, Reader.Descends kind.reader (.list .or) s ending ↔
          ending = (Reader.predicate kind.reader).run s := by
  intro start list
  obtain ⟨body, finish, whole, ends, words⟩ := tokenList_spelled lexed dropped text.utf8ByteSize
  have inside : start.Inside body finish := ReaderState.start_inside_tokenList whole
  obtain ⟨visited, visits, walk, -⟩ := ParserCall.goes_all ends words inside calls
  obtain ⟨each, ordered, -⟩ := inside.stands.walk walk
  refine ⟨visited, visits, walk, ordered, fun k => ?_, fun s member => ?_⟩
  · obtain ⟨_, _, _, after⟩ := ParserCall.goes_all ends words inside (calls.take k)
    exact after.nesting
  · have stands := each s member
    refine ⟨?_, stands.nesting, fun kind ending => ?_⟩
    · rw [show list = body ++ [finish] from whole]
      exact stands.getElem?
    · exact Reader.descends_predicate_iff kind.steady (stands.inside.finish ▸ ends) ending

/-- A section that is not there, then rules the first of which fails within its parentheses, and a number behind
all of them. -/
def troubledCalls : List ParserCall := [.read .metaSection, .rules, .read .number]

theorem troubledCalls_stay : ∃ ts, tokens "rule A { signature: ((name)) } rule B {}" = .ok ts ∧
    (ParserCall.afterAll [.read .rule] (.start 40 ts.dropLast)).index = 8 ∧
    (ParserCall.afterAll troubledCalls (.start 40 ts.dropLast)).index = 15 ∧
    ∃ visited, ParserCall.VisitsAll troubledCalls (.start 40 ts.dropLast) visited ∧
      (ReaderState.start 40 ts.dropLast :: visited).Pairwise (fun s t => s.index ≤ t.index) ∧
      ∀ k, (ParserCall.afterAll (troubledCalls.take k) (.start 40 ts.dropLast)).nesting = 0 := by
  refine ⟨_, by rfl, by rfl, by rfl, ?_⟩
  obtain ⟨visited, visits, -, ordered, closed, -⟩ :=
    @calls_stay "rule A { signature: ((name)) } rule B {}" _ _ (by rfl) (.inr rfl) troubledCalls
  exact ⟨visited, visits, ordered, closed⟩

end Triage
