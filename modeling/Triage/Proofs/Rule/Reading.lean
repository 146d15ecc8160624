import Triage.Proofs.Token.Steps
import Triage.Rule.Parser

/-! What readers do. A run ends in a value or in an error and leaves a state either way; what holds of
it is put together from what holds of the parts. -/

namespace Triage.Reader
variable {α β σ : Type}

theorem run_bind (r : Reader α) (f : α → Reader β) (s : ReaderState) :
    (r >>= f).run s = match r.run s with
      | (.ok a, next) => (f a).run next
      | (.error e, failed) => (.error e, failed) := by
  unfold run ExceptT.run StateT.run
  simp only [bind, ExceptT.bind, ExceptT.mk, StateT.bind, ExceptT.bindCont]
  rcases r s with ⟨result, next⟩
  cases result <;> rfl

theorem run_peek (s : ReaderState) : peek.run s = (.ok s.peek, s) := rfl

theorem run_get (s : ReaderState) : Reader.run get s = (.ok s, s) := rfl

theorem run_expect {kind : TokenKind} {what : String} {s : ReaderState} (fits : s.peek.kind = kind) :
    (expect kind what).run s = (.ok s.peek, s.skip) := by
  rw [expect, expectAny, run_bind, run_peek]
  simp only [fits, List.contains_cons, BEq.rfl, Bool.true_or, ↓reduceIte]
  rfl

theorem run_discard {r : Reader α} {a : α} {s t : ReaderState} (ran : r.run s = (.ok a, t)) :
    (discard r).run s = (.ok ⟨⟩, t) := by
  change (r >>= fun _ => pure ⟨⟩ : Reader PUnit).run s = _
  rw [run_bind, ran]
  rfl

/-- A run from `s` ends with a value and a state as `post` says, or with an error and a state as
`fault` says. -/
def Runs (r : Reader α) (s : ReaderState) (post : α → ReaderState → Prop)
    (fault : ParseError → ReaderState → Prop) : Prop :=
  match r.run s with
  | (.ok a, t) => post a t
  | (.error e, t) => fault e t

section Runs
variable {r : Reader α} {f : α → Reader β} {s : ReaderState} {fault : ParseError → ReaderState → Prop}

theorem runs_bind {post : β → ReaderState → Prop} :
    (r >>= f).Runs s post fault ↔ r.Runs s (fun a t => (f a).Runs t post fault) fault := by
  unfold Runs
  rw [run_bind]
  rcases r.run s with ⟨result, t⟩
  cases result <;> rfl

theorem Runs.mono {post stronger : α → ReaderState → Prop} {sharper : ParseError → ReaderState → Prop}
    (runs : r.Runs s stronger sharper) (value : ∀ a t, stronger a t → post a t)
    (error : ∀ e t, sharper e t → fault e t) : r.Runs s post fault := by
  unfold Runs at *
  split
  · rename_i a t ran
    rw [ran] at runs
    exact value a t runs
  · rename_i e t ran
    rw [ran] at runs
    exact error e t runs

theorem Runs.of_ok {post : α → ReaderState → Prop} {a : α} {t : ReaderState} (runs : r.Runs s post fault)
    (ran : r.run s = (.ok a, t)) : post a t := by
  unfold Runs at runs
  rwa [ran] at runs

theorem Runs.of_error {post : α → ReaderState → Prop} {e : ParseError} {t : ReaderState}
    (runs : r.Runs s post fault) (ran : r.run s = (.error e, t)) : fault e t := by
  unfold Runs at runs
  rwa [ran] at runs

theorem Runs.and {post post' : α → ReaderState → Prop} {fault' : ParseError → ReaderState → Prop}
    (first : r.Runs s post fault) (second : r.Runs s post' fault') :
    r.Runs s (fun a t => post a t ∧ post' a t) (fun e t => fault e t ∧ fault' e t) := by
  unfold Runs at *
  split <;> rename_i ran <;> rw [ran] at first second
  · exact ⟨first, second⟩
  · exact ⟨first, second⟩

/-- What holds however the first part ends. -/
theorem Runs.of_rest {post : β → ReaderState → Prop} (rest : ∀ a t, (f a).Runs t post fault)
    (error : ∀ e t, fault e t) : (r >>= f).Runs s post fault := by
  refine runs_bind.mpr ?_
  unfold Runs
  split
  · exact rest _ _
  · exact error _ _

theorem run_nested (r : Reader α) (s : ReaderState) : (nested r).run s =
    ((r.run { s with nesting := s.nesting + 1 }).1,
      { (r.run { s with nesting := s.nesting + 1 }).2 with
        nesting := (r.run { s with nesting := s.nesting + 1 }).2.nesting - 1 }) := rfl

theorem runs_nested {post : α → ReaderState → Prop} :
    (nested r).Runs s post fault ↔ r.Runs { s with nesting := s.nesting + 1 }
      (fun a t => post a { t with nesting := t.nesting - 1 })
      (fun e t => fault e { t with nesting := t.nesting - 1 }) := by
  unfold Runs
  rw [run_nested]
  rcases r.run { s with nesting := s.nesting + 1 } with ⟨result, t⟩
  cases result <;> rfl

theorem runs_ok {post : β → ReaderState → Prop} {a : α} {t : ReaderState}
    (ran : r.run s = (.ok a, t)) (next : (f a).Runs t post fault) : (r >>= f).Runs s post fault := by
  refine runs_bind.mpr ?_
  unfold Runs
  rw [ran]
  exact next

theorem runs_iterate {step : σ → Reader (Option σ)} {holds : σ → ReaderState → Prop}
    (keeps : ∀ a t, holds a t → (step a).Runs t (fun next u => holds (next.getD a) u) fun _ _ => True)
    (fuel : Nat) {a : σ} (start : holds a s) : (iterate step fuel a).Runs s holds fun _ _ => True := by
  induction fuel generalizing a s with
  | zero => exact start
  | succ fuel ih =>
    refine runs_bind.mpr ((keeps a s start).mono (fun next u kept => ?_) fun _ _ _ => trivial)
    cases next with
    | none => exact kept
    | some b => exact ih kept

theorem runs_unless {bad : Prop} [Decidable bad] {f : ParseFault} {position : Position} {next : PUnit → Reader α}
    {post : α → ReaderState → Prop} (runs : ¬bad → (next ⟨⟩).Runs s post fun _ _ => True) :
    (if bad then fail f position >>= next else next ⟨⟩).Runs s post fun _ _ => True := by
  split
  · trivial
  · rename_i good
    exact runs good

/-- Where the next token is of one of the kinds it is taken. -/
theorem runs_pastAny {kinds : List TokenKind} {what : String} {f : PUnit → Reader α}
    {post : α → ReaderState → Prop} (ends : s.finish.kind = .endOfFile) (more : .endOfFile ∉ kinds)
    (next : ∀ t : ReaderState, s.peek.kind ∈ kinds → s.unread = s.peek :: t.unread → t.finish = s.finish →
      (f ⟨⟩).Runs t post fun _ _ => True) :
    (discard (expectAny kinds what) >>= f).Runs s post fun _ _ => True := by
  rw [discard, map_const, Function.comp_apply, bind_map_left, expectAny, bind_assoc]
  refine runs_bind.mpr ?_
  change Runs ((if kinds.contains s.peek.kind then advance else fail (.expected what) s.peek.position) >>= _) s _ _
  split
  · rename_i fits
    have kind := List.contains_iff_mem.mp fits
    refine next s.skip kind ?_ ?_
    all_goals
      rcases s with ⟨index, unread, finish, nesting, declared⟩
      cases unread with
      | nil => exact absurd (ends ▸ kind : TokenKind.endOfFile ∈ kinds) more
      | cons x rest => rfl
  · trivial

end Runs

/-! ## What readers give -/

/-- Whatever the reader gives has the property. -/
def Gives (r : Reader α) (P : α → Prop) : Prop := ∀ s a, (r.run s).1 = .ok a → P a

variable {P : α → Prop} {Q : β → Prop}

theorem gives_true (r : Reader α) : r.Gives fun _ => True := fun _ _ _ => trivial

theorem gives_pure {a : α} (holds : P a) : (pure a : Reader α).Gives P := by
  intro s b given
  exact Except.ok.inj given ▸ holds

theorem gives_fail (fault : ParseFault) (position : Position) :
    (fail fault position : Reader α).Gives P := by
  intro s a given
  nomatch given

theorem Gives.bind {r : Reader α} {f : α → Reader β} (first : r.Gives P)
    (next : ∀ a, P a → (f a).Gives Q) : (r >>= f).Gives Q := by
  intro s b given
  rw [run_bind] at given
  rcases ran : r.run s with ⟨result, state⟩
  rw [ran] at given
  cases result with
  | ok a => exact next a (first s a (by rw [ran])) state b given
  | error e => nomatch given

theorem gives_bind {r : Reader α} {f : α → Reader β} (next : ∀ a, (f a).Gives Q) :
    (r >>= f).Gives Q :=
  (gives_true r).bind fun a _ => next a

theorem gives_iterate {step : σ → Reader (Option σ)} {P : σ → Prop}
    (keeps : ∀ s, P s → (step s).Gives fun next => ∀ t, next = some t → P t) (fuel : Nat) {s : σ}
    (start : P s) : (iterate step fuel s).Gives P := by
  induction fuel generalizing s with
  | zero => exact gives_pure start
  | succ fuel ih =>
    refine (keeps s start).bind fun next holds => ?_
    cases next with
    | none => exact gives_pure start
    | some t => exact ih (holds t rfl)

theorem gives_repeatStep {step : σ → Reader (Option σ)} {P : σ → Prop}
    (keeps : ∀ s, P s → (step s).Gives fun next => ∀ t, next = some t → P t) {s : σ}
    (start : P s) : (repeatStep step s).Gives P :=
  gives_bind fun _ => gives_iterate keeps _ start

/-! ### Calls -/

/-- A call whose words are read and whose shape is checked. -/
def namedCall (f : HitFunction) (ts : List Token) (compared : Option (CompareOp × Nat)) : Reader Leaf := do
  let (patterns, hitIndex) ← readArguments f (← get).declared 0 ts
  return .call ⟨f, patterns, hitIndex, compared⟩

/-- A call whose words are read: its function, which stands at `t`, its arguments and its comparison. -/
def shapedCall (f : HitFunction) (t : Token) (ts : List Token) (compared : Option (CompareOp × Nat)) : Reader Leaf := do
  if !f.takes ts.length then fail (.argumentCount f) t.position
  if f.isCompared && compared.isNone then fail (.comparisonMissing f) (← peek).position
  if !f.isCompared && compared.isSome then fail (.comparisonUnexpected f) t.position
  namedCall f ts compared

end Triage.Reader
