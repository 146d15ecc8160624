import Triage.Proofs.Rule.Likeness
import Triage.Proofs.Rule.Visits

/-! The recursive descent through predicates, as it goes when neither its levels nor its rounds are counted. It
comes to an end from every state: each round takes a token, and each level opens a parenthesis, of which only so
many may be open. -/

namespace Triage.Reader
open ReaderState

/-- The keywords that join predicates. -/
inductive Joint
  | or
  | and

/-- What is read of a predicate: items with a keyword between them, those behind what was read so far, or one
item. -/
inductive Phrase
  | list (j : Joint)
  | rest (j : Joint) (left : Predicate)
  | factor

namespace Joint

def keyword : Joint → Keyword
  | or => .or
  | and => .and

def join : Joint → Predicate → Predicate → Predicate
  | or => .or
  | and => .and

def item : Joint → Phrase
  | or => .list .and
  | and => .factor

end Joint

/-- What follows a predicate in parentheses. -/
def closing (p : Predicate) : Reader Predicate := do
  discard <| expect .closeParen "close parenthesis"
  return p

/-- How the reading of a predicate ends. -/
abbrev Ending := Except ParseError Predicate × ReaderState

/-- From a state the descent comes to an end. -/
inductive Descends (leaf : Reader Leaf) : Phrase → ReaderState → Ending → Prop
  | first {j : Joint} {s t : ReaderState} {p : Predicate} {ending : Ending}
    (item : Descends leaf j.item s (.ok p, t)) (others : Descends leaf (.rest j p) t ending) :
    Descends leaf (.list j) s ending
  | firstFails {j : Joint} {s t : ReaderState} {e : ParseError} (item : Descends leaf j.item s (.error e, t)) :
    Descends leaf (.list j) s (.error e, t)
  | last {j : Joint} {s : ReaderState} {left : Predicate} (apart : s.peek.kind ≠ .keyword j.keyword) :
    Descends leaf (.rest j left) s (.ok left, s)
  | next {j : Joint} {s t : ReaderState} {left p : Predicate} {ending : Ending}
    (joined : s.peek.kind = .keyword j.keyword) (item : Descends leaf j.item s.skip (.ok p, t))
    (others : Descends leaf (.rest j (j.join left p)) t ending) : Descends leaf (.rest j left) s ending
  | nextFails {j : Joint} {s t : ReaderState} {left : Predicate} {e : ParseError}
    (joined : s.peek.kind = .keyword j.keyword) (item : Descends leaf j.item s.skip (.error e, t)) :
    Descends leaf (.rest j left) s (.error e, t)
  | leaf {s : ReaderState} (apart : s.peek.kind ≠ .openParen) :
    Descends leaf .factor s ((Predicate.leaf <$> leaf).run s)
  | tooDeep {s : ReaderState} (paren : s.peek.kind = .openParen) (full : nestingLimit ≤ s.nesting) :
    Descends leaf .factor s (.error ⟨.nestedTooDeeply, s.peek.position⟩, s.skip)
  | inner {s t : ReaderState} {p : Predicate} (paren : s.peek.kind = .openParen) (room : s.nesting < nestingLimit)
    (inside : Descends leaf (.list .or) { s.skip with nesting := s.skip.nesting + 1 } (.ok p, t)) :
    Descends leaf .factor s ((closing p).run { t with nesting := t.nesting - 1 })
  | innerFails {s t : ReaderState} {e : ParseError} (paren : s.peek.kind = .openParen)
    (room : s.nesting < nestingLimit)
    (inside : Descends leaf (.list .or) { s.skip with nesting := s.skip.nesting + 1 } (.error e, t)) :
    Descends leaf .factor s (.error e, { t with nesting := t.nesting - 1 })

/-- A round of a list that goes on behind its keyword. -/
def joinStep (j : Joint) (item : Reader Predicate) (left : Predicate) : Reader (Option Predicate) := do
  if ← accept (.keyword j.keyword) then return some (j.join left (← item)) else return none

theorem run_joinStep (j : Joint) (item : Reader Predicate) (left : Predicate) (s : ReaderState) :
    (joinStep j item left).run s =
      if s.peek.kind = .keyword j.keyword then
        ((item.run s.skip).1.map fun p => some (j.join left p), (item.run s.skip).2)
      else (.ok none, s) := by
  have asked : (joinStep j item left).run s = Reader.run (accept? (.keyword j.keyword) >>= fun t =>
      if t.isSome then item >>= fun p => pure (some (j.join left p)) else pure none) s := by
    rw [joinStep, accept, bind_assoc]
    simp only [pure_bind]
  rw [asked, run_bind, run_accept?]
  by_cases more : s.peek.kind = .keyword j.keyword
  · simp only [if_pos more, Option.isSome_some, if_true]
    rw [run_bind]
    rcases item.run s.skip with ⟨result, t⟩
    cases result <;> rfl
  · simp only [if_neg more, Option.isSome_none, Bool.false_eq_true, if_false]
    rfl

section descent
variable {leaf : Reader Leaf} {inner item : Reader Predicate} {j : Joint} {s : ReaderState}

/-- Items are read wherever the list goes on. -/
def Items (leaf : Reader Leaf) (j : Joint) (item : Reader Predicate) (s : ReaderState) : Prop :=
  ∀ t : ReaderState, t.finish = s.finish → t.nesting = s.nesting → Descends leaf j.item t (item.run t)

theorem descends_rest (steady : item.Steady) (ends : s.finish.kind = .endOfFile) (items : Items leaf j item s)
    (fuel : Nat) (left : Predicate) (enough : s.unread.length < fuel) :
    Descends leaf (.rest j left) s ((iterate (joinStep j item) fuel left).run s) := by
  induction fuel generalizing s left with
  | zero => exact absurd enough (Nat.not_lt_zero _)
  | succ fuel ih =>
    rw [iterate, run_bind, run_joinStep]
    by_cases more : s.peek.kind = .keyword j.keyword
    · have shorter := (eats_skip ends).2.2 (by simp [more])
      have here := items s.skip (skip_finish s) (skip_nesting s)
      obtain ⟨_, _, walk, nesting⟩ := steady s.skip
      rw [if_pos more]
      rcases ran : item.run s.skip with ⟨result, t⟩
      rw [ran] at here walk nesting
      cases result with
      | error e => exact .nextFails more here
      | ok p =>
        -- The keyword was taken, and the item has put nothing back.
        have finish : t.finish = s.finish := walk.finish.trans (skip_finish s)
        have length : t.unread.length ≤ s.skip.unread.length := walk.length_le
        have level : t.nesting = s.nesting := nesting.trans (skip_nesting s)
        refine .next more here (ih (finish ▸ ends) ?_ _ (by omega))
        exact fun u same deep => items u (same.trans finish) (deep.trans level)
    · rw [if_neg more]
      exact .last more

theorem descends_joined (steady : item.Steady) (ends : s.finish.kind = .endOfFile) (items : Items leaf j item s) :
    Descends leaf (.list j) s ((joined j.keyword j.join item).run s) := by
  have here := items s rfl rfl
  obtain ⟨_, _, walk, nesting⟩ := steady s
  rw [joined, run_bind]
  rcases ran : item.run s with ⟨result, t⟩
  rw [ran] at here walk nesting
  cases result with
  | error e => exact .firstFails here
  | ok p =>
    have finish : t.finish = s.finish := walk.finish
    refine .first here ?_
    change Descends leaf _ t ((iterate (joinStep j item) (t.unread.length + 1) p).run t)
    refine descends_rest steady (finish ▸ ends) ?_ _ p (Nat.lt_succ_self _)
    exact fun u same level => items u (same.trans finish) (level.trans nesting)

theorem descends_factor (inners : s.nesting < nestingLimit → ∀ t : ReaderState, t.finish = s.finish →
      t.nesting = s.nesting + 1 → Descends leaf (.list .or) t (inner.run t)) :
    Descends leaf .factor s ((factor leaf inner).run s) := by
  rw [factor, run_bind, run_accept?]
  by_cases paren : s.peek.kind = .openParen
  · rw [if_pos paren]
    dsimp only
    rw [run_bind, run_get]
    dsimp only
    by_cases full : nestingLimit ≤ s.skip.nesting
    · rw [if_pos full]
      exact .tooDeep paren (skip_nesting s ▸ full)
    · have room : s.nesting < nestingLimit := skip_nesting s ▸ Nat.lt_of_not_le full
      let deep : ReaderState := { s.skip with nesting := s.skip.nesting + 1 }
      have inside := inners room deep (skip_finish s) (by simp [deep])
      rw [if_neg full, run_bind, run_nested]
      rcases ran : inner.run deep with ⟨result, t⟩
      rw [ran] at inside
      cases result with
      | error e => exact .innerFails paren room inside
      | ok p => exact .inner paren room inside
  · rw [if_neg paren]
    exact .leaf paren

theorem descends_within (leaves : leaf.Steady) (levels : Nat) (ends : s.finish.kind = .endOfFile)
    (enough : nestingLimit ≤ s.nesting + levels) :
    Descends leaf (.list .or) s ((predicateWithin leaf (levels + 1)).run s) := by
  -- Of the levels none is left only where no more parentheses may be opened.
  induction levels generalizing s with
  | zero =>
    have factors := steady_factor leaves (steady_predicateWithin leaves 0)
    refine descends_joined (j := .or) (steady_joined factors) ends fun t finish nesting => ?_
    refine descends_joined (j := .and) factors (finish ▸ ends) fun u finish' nesting' => ?_
    exact descends_factor fun room => absurd room (by omega)
  | succ levels ih =>
    have factors := steady_factor leaves (steady_predicateWithin leaves (levels + 1))
    refine descends_joined (j := .or) (steady_joined factors) ends fun t finish nesting => ?_
    refine descends_joined (j := .and) factors (finish ▸ ends) fun u finish' nesting' => ?_
    refine descends_factor fun _ deep same level => ih ?_ ?_
    · rw [same, finish', finish, ends]
    · omega

/-- From a state the descent ends in one way only. -/
theorem Descends.unique {phrase : Phrase} {ending other : Ending} (descends : Descends leaf phrase s ending)
    (again : Descends leaf phrase s other) : ending = other := by
  induction descends generalizing other with
  | first _ _ one rest =>
    cases again with
    | first one' rest' =>
      cases one one'
      exact rest rest'
    | firstFails one' => nomatch one one'
  | firstFails _ one =>
    cases again with
    | first one' _ => nomatch one one'
    | firstFails one' => exact one one'
  | last apart =>
    cases again with
    | last => rfl
    | next joined | nextFails joined => exact absurd joined apart
  | next joined _ _ one rest =>
    cases again with
    | last apart => exact absurd joined apart
    | next _ one' rest' =>
      cases one one'
      exact rest rest'
    | nextFails _ one' => nomatch one one'
  | nextFails joined _ one =>
    cases again with
    | last apart => exact absurd joined apart
    | next _ one' _ => nomatch one one'
    | nextFails _ one' => exact one one'
  | leaf apart =>
    cases again with
    | leaf => rfl
    | tooDeep paren | inner paren | innerFails paren => exact absurd paren apart
  | tooDeep paren full =>
    cases again with
    | leaf apart => exact absurd paren apart
    | tooDeep => rfl
    | inner _ room | innerFails _ room => exact absurd full (Nat.not_le_of_lt room)
  | inner paren room _ one =>
    cases again with
    | leaf apart => exact absurd paren apart
    | tooDeep _ full => exact absurd full (Nat.not_le_of_lt room)
    | inner _ _ one' =>
      cases one one'
      rfl
    | innerFails _ _ one' => nomatch one one'
  | innerFails paren room _ one =>
    cases again with
    | leaf apart => exact absurd paren apart
    | tooDeep _ full => exact absurd full (Nat.not_le_of_lt room)
    | inner _ _ one' => nomatch one one'
    | innerFails _ _ one' =>
      cases one one'
      rfl

/-- The descent ends, and it ends as the predicate does that is read with all its levels. -/
theorem descends_predicate_iff (leaves : leaf.Steady) (ends : s.finish.kind = .endOfFile) (ending : Ending) :
    Descends leaf (.list .or) s ending ↔ ending = (predicate leaf).run s := by
  have descends : Descends leaf (.list .or) s ((predicate leaf).run s) :=
    descends_within leaves nestingLimit ends (Nat.le_add_left _ _)
  constructor
  · exact fun other => other.unique descends
  · rintro rfl
    exact descends

end descent

end Triage.Reader
