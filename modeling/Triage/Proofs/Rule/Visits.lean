import Triage.Proofs.Rule.Recovery

/-! The states that readers go through. Each change of a state goes past tokens that are left, or into a
parenthesis that may still be opened or out of one that is; and readers leave as many parentheses open as there
were. -/

namespace Triage

namespace ReaderState

/-- One change of a state. -/
inductive Move (s t : ReaderState) : Prop
  | past (passed : List Token) (unread : s.unread = passed ++ t.unread)
    (index : t.index = s.index + passed.length) (finish : t.finish = s.finish) (nesting : t.nesting = s.nesting)
  | deeper (room : s.nesting < nestingLimit) (moved : t = { s with nesting := s.nesting + 1 })
  | back (opened : 0 < s.nesting) (moved : t = { s with nesting := s.nesting - 1 })

/-- The states after one change and another, and the last of them. -/
inductive Walk : ReaderState → List ReaderState → ReaderState → Prop
  | stay (s : ReaderState) : Walk s [] s
  | move {s t last : ReaderState} {visited : List ReaderState} (first : s.Move t) (more : Walk t visited last) :
    Walk s (t :: visited) last

variable {s t last : ReaderState} {visited others : List ReaderState}

theorem Walk.append (walk : s.Walk visited t) (more : t.Walk others last) : s.Walk (visited ++ others) last := by
  induction walk with
  | stay s => exact more
  | move first _ ih => exact .move first (ih more)

theorem move_skip (s : ReaderState) : s.Move s.skip := by
  cases found : s.unread with
  | nil => exact .past [] (by simp [skip, found]) (by simp [skip, found]) (skip_finish s) (skip_nesting s)
  | cons t rest =>
    exact .past [t] (by simp [skip, found]) (by simp [skip, found]) (skip_finish s) (skip_nesting s)

theorem Passes.move (passes : s.Passes t) : s.Move t := by
  obtain ⟨taken, unread, index, finish, nesting, _⟩ := passes
  exact .past taken unread index finish nesting

theorem Move.length_le (move : s.Move t) : t.unread.length ≤ s.unread.length := by
  cases move with
  | past passed unread =>
    rw [unread, List.length_append]
    exact Nat.le_add_left _ _
  | deeper _ moved => rw [moved]
  | back _ moved => rw [moved]

theorem Walk.length_le (walk : s.Walk visited last) : last.unread.length ≤ s.unread.length := by
  induction walk with
  | stay => exact Nat.le_refl _
  | move first _ ih => exact Nat.le_trans ih first.length_le

theorem Move.finish (move : s.Move t) : t.finish = s.finish := by
  cases move with
  | past _ _ _ finish => exact finish
  | deeper _ moved => rw [moved]
  | back _ moved => rw [moved]

theorem Walk.finish (walk : s.Walk visited last) : last.finish = s.finish := by
  induction walk with
  | stay => rfl
  | move first _ ih => exact ih.trans first.finish

end ReaderState

namespace Reader
open ReaderState

variable {α β σ : Type}

/-- The states that a reader goes through, by how it is put together: one for each time that the state is set. -/
inductive Visits : {α : Type} → Reader α → ReaderState → List ReaderState → Prop
  | pure {α : Type} (a : α) (s : ReaderState) : Visits (pure a : Reader α) s []
  | throw {α : Type} (e : ParseError) (s : ReaderState) : Visits (throw e : Reader α) s []
  | get (s : ReaderState) : Visits (get : Reader ReaderState) s []
  | set (s t : ReaderState) : Visits (set t : Reader PUnit) s [t]
  | modify (f : ReaderState → ReaderState) (s : ReaderState) : Visits (modify f : Reader PUnit) s [f s]
  | bind {α β : Type} {r : Reader α} {f : α → Reader β} {s t : ReaderState} {a : α}
    {visited others : List ReaderState} (first : Visits r s visited) (ran : r.run s = (.ok a, t))
    (next : Visits (f a) t others) : Visits (r >>= f) s (visited ++ others)
  | failed {α β : Type} {r : Reader α} {f : α → Reader β} {s t : ReaderState} {e : ParseError}
    {visited : List ReaderState} (first : Visits r s visited) (ran : r.run s = (.error e, t)) :
    Visits (r >>= f) s visited
  | nested {α : Type} {r : Reader α} {s : ReaderState} {visited : List ReaderState}
    (inner : Visits r { s with nesting := s.nesting + 1 } visited) :
    Visits (nested r) s ({ s with nesting := s.nesting + 1 } :: visited ++ [((nested r).run s).2])

/-- The states that a reader goes through from a state to its end, where as many parentheses are open. -/
structure Goes (r : Reader α) (s : ReaderState) (visited : List ReaderState) : Prop where
  visits : r.Visits s visited
  walk : s.Walk visited (r.run s).2
  nesting : (r.run s).2.nesting = s.nesting

def GoesFrom (r : Reader α) (s : ReaderState) : Prop := ∃ visited, r.Goes s visited

def Steady (r : Reader α) : Prop := ∀ s, r.GoesFrom s

variable {r : Reader α} {f : α → Reader β} {s : ReaderState}

theorem goesFrom_bind (first : r.GoesFrom s) (next : ∀ a t, r.run s = (.ok a, t) → (f a).GoesFrom t) :
    (r >>= f).GoesFrom s := by
  obtain ⟨visited, visits, walk, nesting⟩ := first
  have joined := run_bind r f s
  rcases ran : r.run s with ⟨result, t⟩
  rw [ran] at walk nesting joined
  cases result with
  | error e => exact ⟨visited, .failed visits ran, joined ▸ walk, joined ▸ nesting⟩
  | ok a =>
    obtain ⟨others, visits', walk', nesting'⟩ := next a t ran
    refine ⟨visited ++ others, .bind visits ran visits', ?_, ?_⟩
    · rw [joined]
      exact walk.append walk'
    · rw [joined]
      exact nesting'.trans nesting

/-- Where a parenthesis may be opened a reader goes on inside of it and comes out again. -/
theorem goesFrom_nested (steady : r.Steady) (room : s.nesting < nestingLimit) : (nested r).GoesFrom s := by
  let deep : ReaderState := { s with nesting := s.nesting + 1 }
  obtain ⟨visited, visits, walk, nesting⟩ := steady deep
  have opened : (r.run deep).2.nesting = s.nesting + 1 := nesting
  refine ⟨deep :: visited ++ [((nested r).run s).2], .nested visits, ?_, ?_⟩
  · refine .move (.deeper room rfl) (walk.append (.move (.back ?_ ?_) (.stay _)))
    · rw [opened]
      exact Nat.succ_pos _
    · rw [run_nested]
  · rw [run_nested]
    change (r.run deep).2.nesting - 1 = s.nesting
    rw [opened, Nat.add_sub_cancel]

theorem Steady.bind (first : r.Steady) (next : ∀ a, (f a).Steady) : (r >>= f).Steady :=
  fun s => goesFrom_bind (first s) fun a t _ => next a t

theorem steady_pure (a : α) : (pure a : Reader α).Steady := fun s => ⟨[], .pure a s, .stay s, rfl⟩

theorem steady_fail (fault : ParseFault) (position : Position) : (fail fault position : Reader α).Steady :=
  fun s => ⟨[], .throw _ s, .stay s, rfl⟩

theorem steady_get : (get : Reader ReaderState).Steady := fun s => ⟨[], .get s, .stay s, rfl⟩

theorem Steady.map (steady : r.Steady) (g : α → β) : (g <$> r).Steady := by
  rw [map_eq_pure_bind]
  exact steady.bind fun a => steady_pure (g a)

theorem Steady.discard (steady : r.Steady) : (discard r).Steady := steady.map _

theorem steady_peek : peek.Steady := steady_get.bind fun s => steady_pure s.peek

theorem steady_advance : advance.Steady := by
  intro s
  refine goesFrom_bind (steady_get s) fun _ _ ran => ?_
  obtain ⟨rfl, rfl⟩ := ran
  refine goesFrom_bind ⟨[s.skip], .set s s.skip, .move (move_skip s) (.stay _), skip_nesting s⟩ fun _ t _ => ?_
  exact steady_pure s.peek t

theorem steady_ite {c : Prop} [Decidable c] {r r' : Reader α} (yes : r.Steady) (no : r'.Steady) :
    (if c then r else r').Steady := by
  split
  · exact yes
  · exact no

theorem steady_unless {bad : Prop} [Decidable bad] {fault : ParseFault} {position : Position}
    {f : PUnit → Reader β} (next : (f ⟨⟩).Steady) :
    (if bad then fail fault position >>= f else f ⟨⟩).Steady :=
  steady_ite (fun s => goesFrom_bind (steady_fail _ _ s) fun _ _ ran => nomatch ran) next

/-! ## Tokens -/

theorem steady_isNext (kind : TokenKind) : (isNext kind).Steady := steady_peek.bind fun _ => steady_pure _

theorem steady_accept? (kind : TokenKind) : (accept? kind).Steady :=
  (steady_isNext kind).bind fun _ => steady_ite (steady_advance.map _) (steady_pure _)

theorem steady_accept (kind : TokenKind) : (accept kind).Steady := (steady_accept? kind).bind fun _ => steady_pure _

theorem steady_expectAny (kinds : List TokenKind) (what : String) : (expectAny kinds what).Steady :=
  steady_peek.bind fun _ => steady_ite steady_advance (steady_fail _ _)

theorem steady_expect (kind : TokenKind) (what : String) : (expect kind what).Steady := steady_expectAny _ _

theorem steady_heading (k : Keyword) : (heading k).Steady :=
  (steady_expect _ _).discard.bind fun _ => (steady_expect _ _).discard

theorem steady_quotedText : quotedText.Steady := (steady_expect _ _).bind fun _ => steady_pure _

/-! ## Repetition -/

theorem steady_iterate {step : σ → Reader (Option σ)} (each : ∀ a, (step a).Steady) (fuel : Nat) (a : σ) :
    (iterate step fuel a).Steady := by
  induction fuel generalizing a with
  | zero => exact steady_pure a
  | succ fuel ih =>
    refine (each a).bind fun next => ?_
    cases next with
    | none => exact steady_pure a
    | some b => exact ih b

theorem steady_repeatStep {step : σ → Reader (Option σ)} (each : ∀ a, (step a).Steady) (a : σ) :
    (repeatStep step a).Steady :=
  steady_get.bind fun _ => steady_iterate each _ a

theorem steady_commaSeparated {item : σ → Reader σ} (each : ∀ a, (item a).Steady) (a : σ) :
    (commaSeparated item a).Steady :=
  (each a).bind fun b => steady_repeatStep
    (fun c => (steady_accept .comma).bind fun _ => steady_ite ((each c).map _) (steady_pure _)) b

/-! ## Sections -/

theorem steady_section? {k : Keyword} (steady : r.Steady) : (section? k r).Steady :=
  (steady_isNext _).bind fun _ => steady_ite (steady.map _) (steady_pure _)

theorem steady_metaSection : metaSection.Steady := by
  refine (steady_heading _).bind fun _ => steady_repeatStep (fun fields => ?_) _
  refine (steady_accept? _).bind fun key => ?_
  cases key with
  | none => exact steady_pure none
  | some key => exact (steady_expect _ _).discard.bind fun _ => steady_quotedText.bind fun _ => steady_pure _

theorem steady_hashRecord : hashRecord.Steady := by
  refine steady_commaSeparated (fun record => ?_) _
  refine steady_peek.bind fun t => ?_
  cases HashAlgorithm.ofToken? t.kind with
  | none => exact steady_fail _ _
  | some a =>
    refine steady_advance.discard.bind fun _ => (steady_expect _ _).discard.bind fun _ => ?_
    exact steady_quotedText.bind fun _ => steady_unless (steady_pure _)

theorem steady_hashSection : hashSection.Steady := by
  refine (steady_heading _).bind fun _ => Steady.bind (steady_repeatStep (fun records => ?_) _) fun records => ?_
  · exact steady_peek.bind fun _ => steady_ite (steady_hashRecord.bind fun _ => steady_pure _) (steady_pure _)
  · exact steady_ite (steady_peek.bind fun _ => (steady_fail _ _).bind fun _ => steady_pure _) (steady_pure _)

/-! ## Patterns -/

theorem steady_checkCompiles (position : Position) (d : PatternDef) : (checkCompiles position d).Steady := by
  unfold checkCompiles
  split
  · exact steady_pure _
  · exact steady_fail _ _

theorem steady_forM {f : σ → Reader PUnit} (each : ∀ a, (f a).Steady) (as : List σ) : (as.forM f).Steady := by
  induction as with
  | nil => exact steady_pure _
  | cons a as ih => exact (each a).bind fun _ => ih

theorem steady_encodings : encodings.Steady := by
  refine (steady_expect _ _).discard.bind fun _ => steady_commaSeparated (fun names => ?_) _
  exact (steady_expect _ _).bind fun t => steady_unless (steady_pure _)

theorem steady_modifiers : modifiers.Steady := by
  refine steady_repeatStep (fun m => ?_) _
  refine (steady_accept _).bind fun _ => steady_ite (steady_pure _) ?_
  refine (steady_accept _).bind fun _ => steady_ite (steady_pure _) ?_
  exact (steady_accept _).bind fun _ => steady_ite (steady_encodings.bind fun _ => steady_pure _) (steady_pure _)

theorem steady_textPattern (text : Token) : (textPattern text).Steady :=
  steady_modifiers.bind fun _ => (steady_forM (steady_checkCompiles _) _).bind fun _ => steady_pure _

theorem steady_hexString : hexString.Steady := by
  refine Steady.bind (steady_repeatStep (fun digits => ?_) _) fun digits => ?_
  · refine steady_peek.bind fun _ => steady_ite (steady_pure _) ?_
    exact (steady_expectAny _ _).discard.bind fun _ => steady_unless (steady_pure _)
  · refine steady_peek.bind fun _ => steady_unless (steady_unless (steady_unless ?_))
    exact (steady_expect _ _).discard.bind fun _ => steady_pure _

theorem steady_hexPattern (brace : Token) : (hexPattern brace).Steady :=
  steady_hexString.bind fun _ => (steady_checkCompiles _ _).bind fun _ => steady_pure _

theorem steady_patternDefinition : patternDefinition.Steady := by
  refine (steady_expect _ _).discard.bind fun _ => (steady_accept? _).bind fun text => ?_
  cases text with
  | some text => exact steady_textPattern text
  | none =>
    refine (steady_accept? _).bind fun brace => ?_
    cases brace with
    | some brace => exact steady_hexPattern brace
    | none => exact steady_peek.bind fun _ => steady_fail _ _

theorem steady_declare (name : String) : (declare name).Steady :=
  fun s => ⟨_, .modify _ s, .move (.past [] rfl rfl rfl rfl) (.stay _), rfl⟩

theorem steady_patternsSection : patternsSection.Steady := by
  refine (steady_heading _).bind fun _ => Steady.bind (steady_repeatStep (fun patterns => ?_) _) fun patterns => ?_
  · refine (steady_accept? _).bind fun name => ?_
    cases name with
    | none => exact steady_pure none
    | some name =>
      refine steady_patternDefinition.bind fun _ => steady_unless ?_
      exact (steady_declare _).bind fun _ => steady_pure _
  · exact steady_ite (steady_peek.bind fun _ => (steady_fail _ _).bind fun _ => steady_pure _) (steady_pure _)

/-! ## Predicates -/

theorem steady_operator : operator.Steady := by
  refine steady_peek.bind fun t => ?_
  split
  · exact steady_advance.discard.bind fun _ => steady_pure _
  · exact steady_fail _ _

theorem steady_numberOf (t : Token) : (numberOf t).Steady := by
  unfold numberOf
  split
  · exact steady_pure _
  · exact steady_fail _ _

theorem steady_number : number.Steady := (steady_expect _ _).bind fun t => steady_numberOf t

theorem steady_comparison (s : PropertySection) : (comparison s).Steady := by
  refine steady_peek.bind fun name => ?_
  dsimp only
  split
  · refine steady_advance.discard.bind fun _ => steady_peek.bind fun _ => steady_operator.bind fun _ => ?_
    refine steady_unless ?_
    split
    · exact (steady_expect _ _).bind fun _ => steady_pure _
    · exact steady_number.bind fun _ => steady_pure _
  · exact steady_fail _ _

theorem steady_arguments : arguments.Steady :=
  (steady_isNext _).bind fun _ => steady_ite (steady_pure _)
    (steady_commaSeparated (fun _ => (steady_expectAny _ _).bind fun _ => steady_pure _) _)

theorem steady_readArguments (f : HitFunction) (declared : List String) (i : Nat) (ts : List Token) :
    (readArguments f declared i ts).Steady := by
  induction ts generalizing i with
  | nil => exact steady_pure _
  | cons t rest ih =>
    rw [readArguments]
    split
    · exact steady_unless ((steady_numberOf t).bind fun _ => (ih (i + 1)).bind fun _ => steady_pure _)
    · exact steady_unless (steady_unless ((ih (i + 1)).bind fun _ => steady_pure _))

theorem steady_shapedCall (f : HitFunction) (t : Token) (ts : List Token) (compared : Option (CompareOp × Nat)) :
    (shapedCall f t ts compared).Steady := by
  have named : (namedCall f ts compared).Steady :=
    steady_get.bind fun _ => (steady_readArguments f _ 0 ts).bind fun _ => steady_pure _
  unfold shapedCall
  refine steady_unless ?_
  dsimp only
  split
  · exact steady_peek.bind fun _ => (steady_fail _ _).bind fun _ => steady_unless named
  · exact steady_unless named

theorem steady_call : call.Steady := by
  refine steady_peek.bind fun name => ?_
  dsimp only
  cases HitFunction.ofToken? name.kind with
  | none => exact steady_fail _ _
  | some f =>
    refine steady_advance.discard.bind fun _ => (steady_expect _ _).discard.bind fun _ => ?_
    refine steady_arguments.bind fun ts => (steady_expect _ _).discard.bind fun _ => steady_peek.bind fun _ => ?_
    split
    · exact steady_operator.bind fun op => steady_number.bind fun n => steady_shapedCall f name ts (some (op, n))
    · exact steady_shapedCall f name ts none

theorem steady_joined {k : Keyword} {join : Predicate → Predicate → Predicate} {item : Reader Predicate}
    (steady : item.Steady) : (joined k join item).Steady :=
  steady.bind fun _ => steady_repeatStep
    (fun _ => (steady_accept _).bind fun _ => steady_ite (steady.bind fun _ => steady_pure _) (steady_pure _)) _

/-- A parenthesis is opened only where there is room for it. -/
theorem steady_factor {leaf : Reader Leaf} {inner : Reader Predicate} (leaves : leaf.Steady)
    (steady : inner.Steady) : (factor leaf inner).Steady := by
  refine (steady_accept? _).bind fun paren => ?_
  cases paren with
  | none => exact leaves.map _
  | some paren =>
    intro s
    refine goesFrom_bind (steady_get s) fun _ _ ran => ?_
    obtain ⟨rfl, rfl⟩ := ran
    dsimp only
    split
    · exact goesFrom_bind (steady_fail _ _ s) fun _ _ ran => nomatch ran
    · rename_i room
      refine goesFrom_bind (goesFrom_nested steady (Nat.lt_of_not_le room)) fun _ t _ => ?_
      exact (steady_expect _ _).discard.bind (fun _ => steady_pure _) t

theorem steady_predicateWithin {leaf : Reader Leaf} (leaves : leaf.Steady) (levels : Nat) :
    (predicateWithin leaf levels).Steady := by
  induction levels with
  | zero => exact steady_peek.bind fun _ => steady_fail _ _
  | succ levels ih => exact steady_joined (steady_joined (steady_factor leaves ih))

theorem steady_predicate {leaf : Reader Leaf} (leaves : leaf.Steady) : (predicate leaf).Steady :=
  steady_predicateWithin leaves _

theorem steady_fileMetadataSection : fileMetadataSection.Steady :=
  (steady_heading _).bind fun _ => steady_predicate (steady_comparison _)

theorem steady_signatureSection : signatureSection.Steady :=
  (steady_heading _).bind fun _ => steady_predicate (steady_comparison _)

theorem steady_grepSection : grepSection.Steady :=
  (steady_heading _).bind fun _ => steady_patternsSection.bind fun _ => (steady_heading _).bind fun _ =>
    (steady_predicate steady_call).bind fun _ => steady_pure _

theorem steady_declaration (start : ReaderState) : (declaration start).Steady :=
  (steady_expect _ _).bind fun _ => (steady_expect _ _).discard.bind fun _ =>
    (steady_section? steady_metaSection).bind fun _ => (steady_section? steady_hashSection).bind fun _ =>
    (steady_section? steady_fileMetadataSection).bind fun _ =>
    (steady_section? steady_signatureSection).bind fun _ =>
    (steady_section? steady_grepSection).bind fun _ => (steady_expect _ _).discard.bind fun _ =>
    steady_get.bind fun _ => steady_pure _

theorem steady_rule : rule.Steady := by
  intro s
  refine goesFrom_bind (steady_get s) fun _ _ ran => ?_
  obtain ⟨rfl, rfl⟩ := ran
  have forgets : (set { s with declared := [] } : Reader PUnit).GoesFrom s :=
    ⟨_, .set s _, .move (.past [] rfl rfl rfl rfl) (.stay _), rfl⟩
  refine goesFrom_bind forgets fun _ t _ => ?_
  exact ((steady_expect _ _).discard.bind fun _ => steady_declaration s) t

end Reader

end Triage
