import Triage.Proofs.Rule.Likeness

/-! What readers take from the words ahead. The words that are left, the names declared and the open
parentheses decide what a reader gives, and whether it refuses for too many parentheses. -/

namespace Triage

/-- What readers see of a state. -/
structure View where
  declared : List String
  nesting : Nat
  words : List Word

structure ReaderState.Sees (s : ReaderState) (v : View) : Prop where
  declared : s.declared = v.declared
  nesting : s.nesting = v.nesting
  words : s.unread.map Token.word = v.words
  ends : s.finish.kind = .endOfFile

def nextKind (ws : List Word) : TokenKind := (ws.head?.map Word.kind).getD .endOfFile

theorem ReaderState.Sees.peek_kind {s : ReaderState} {v : View} (sees : s.Sees v) :
    s.peek.kind = nextKind v.words := by
  rw [← sees.words, nextKind, ReaderState.peek]
  cases s.unread with
  | nil => exact sees.ends
  | cons t rest => rfl

theorem ReaderState.Sees.cons {s : ReaderState} {names : List String} {depth : Nat} {w : Word}
    {ws : List Word} (sees : s.Sees ⟨names, depth, w :: ws⟩) :
    s.peek.word = w ∧ s.skip.Sees ⟨names, depth, ws⟩ := by
  obtain ⟨declared, nesting, words, ends⟩ := sees
  obtain ⟨t, rest, unread, rfl, rfl⟩ := List.map_eq_cons_iff.mp words
  rw [peek_of_cons unread, skip_of_cons unread]
  exact ⟨rfl, declared, nesting, rfl, ends⟩

namespace Reader
variable {α β σ ι : Type}

/-- From the view `v` the reader gets to the view `w` with a value of which `P` holds, if `ok` holds;
otherwise it finds parentheses nested too deeply. -/
def Reads (ok : Prop) (r : Reader α) (v w : View) (P : α → Prop) : Prop :=
  ∀ s : ReaderState, s.Sees v → (ok → ∃ a t, r.run s = (.ok a, t) ∧ t.Sees w ∧ P a) ∧
    (¬ok → ∃ e t, r.run s = (.error e, t) ∧ e.fault = .nestedTooDeeply)

section Reads
variable {ok more : Prop} {r : Reader α} {f : α → Reader β} {u v w : View} {P : α → Prop} {Q : β → Prop}

theorem reads_pure {a : α} (holds : P a) : Reads True (pure a) v v P :=
  fun s sees => ⟨fun _ => ⟨a, s, rfl, sees, holds⟩, fun no => absurd trivial no⟩

theorem Reads.bind (first : Reads ok r u v P) (next : ∀ a, P a → Reads more (f a) v w Q) :
    Reads (ok ∧ more) (r >>= f) u w Q := by
  intro s sees
  obtain ⟨gives, fails⟩ := first s sees
  by_cases shallow : ok
  · obtain ⟨a, t, ran, sees, holds⟩ := gives shallow
    obtain ⟨gives, fails⟩ := next a holds t sees
    rw [run_bind, ran]
    exact ⟨fun both => gives both.2, fun no => fails fun more => no ⟨shallow, more⟩⟩
  · obtain ⟨e, t, ran, fault⟩ := fails shallow
    rw [run_bind, ran]
    exact ⟨fun both => absurd both.1 shallow, fun _ => ⟨e, t, rfl, fault⟩⟩

theorem Reads.mono {P' : α → Prop} (reads : Reads ok r v w P) (same : more ↔ ok)
    (weaken : ∀ a, P a → P' a) : Reads more r v w P' := by
  intro s sees
  rw [same]
  obtain ⟨gives, fails⟩ := reads s sees
  refine ⟨fun shallow => ?_, fails⟩
  obtain ⟨a, t, ran, sees, holds⟩ := gives shallow
  exact ⟨a, t, ran, sees, weaken a holds⟩

/-- A reader that needs no parentheses comes first. -/
theorem Reads.then (first : Reads True r u v P) (next : ∀ a, P a → Reads ok (f a) v w Q) :
    Reads ok (r >>= f) u w Q :=
  (first.bind next).mono (by simp) fun _ holds => holds

theorem Reads.last (first : Reads ok r u v P) (next : ∀ a, P a → Reads True (f a) v w Q) :
    Reads ok (r >>= f) u w Q :=
  (first.bind next).mono (by simp) fun _ holds => holds

theorem Reads.map {g : α → β} (reads : Reads ok r v w P) (holds : ∀ a, P a → Q (g a)) :
    Reads ok (g <$> r) v w Q := by
  rw [map_eq_pure_bind]
  exact reads.last fun a given => reads_pure (holds a given)

theorem reads_get_bind {f : ReaderState → Reader β} (next : ∀ s, s.Sees v → Reads ok (f s) v w Q) :
    Reads ok (get >>= f) v w Q :=
  fun s sees => next s sees s sees

theorem reads_peek_bind {f : Token → Reader β}
    (next : ∀ t, t.kind = nextKind v.words → Reads ok (f t) v w Q) : Reads ok (peek >>= f) v w Q :=
  fun s sees => next s.peek sees.peek_kind s sees

end Reads

section words
variable {names : List String} {depth : Nat} {w : Word} {ws : List Word} {kind : TokenKind} {ok : Prop}
  {v : View} {Q : β → Prop}

theorem reads_word_bind {f : Token → Reader β}
    (next : ∀ t, t.word = w → Reads ok (f t) ⟨names, depth, w :: ws⟩ v Q) :
    Reads ok (peek >>= f) ⟨names, depth, w :: ws⟩ v Q :=
  fun s sees => next s.peek sees.cons.1 s sees

theorem reads_advance {f : PUnit → Reader β} (next : Reads ok (f ⟨⟩) ⟨names, depth, ws⟩ v Q) :
    Reads ok (discard advance >>= f) ⟨names, depth, w :: ws⟩ v Q :=
  fun s sees => next s.skip sees.cons.2

theorem reads_isNext : Reads True (isNext kind) ⟨names, depth, ws⟩ ⟨names, depth, ws⟩
    (· = decide (nextKind ws = kind)) :=
  reads_peek_bind fun _ same => reads_pure (by rw [same])

theorem reads_accept?_yes {f : Option Token → Reader β} (fits : w.kind = kind)
    (next : ∀ t, t.word = w → Reads ok (f (some t)) ⟨names, depth, ws⟩ v Q) :
    Reads ok (accept? kind >>= f) ⟨names, depth, w :: ws⟩ v Q := by
  rw [accept?, bind_assoc]
  refine reads_isNext.then fun isNext same => ?_
  obtain rfl : isNext = true := by simpa [nextKind, fits] using same
  exact fun s sees => next s.peek sees.cons.1 s.skip sees.cons.2

theorem reads_accept?_no {f : Option Token → Reader β} (other : nextKind ws ≠ kind)
    (next : Reads ok (f none) ⟨names, depth, ws⟩ v Q) :
    Reads ok (accept? kind >>= f) ⟨names, depth, ws⟩ v Q := by
  rw [accept?, bind_assoc]
  refine reads_isNext.then fun isNext same => ?_
  obtain rfl : isNext = false := by simpa [other] using same
  exact next

theorem reads_accept_yes {f : Bool → Reader β} (fits : w.kind = kind)
    (next : Reads ok (f true) ⟨names, depth, ws⟩ v Q) :
    Reads ok (accept kind >>= f) ⟨names, depth, w :: ws⟩ v Q := by
  rw [accept, bind_assoc]
  exact reads_accept?_yes fits fun t _ => next

theorem reads_accept_no {f : Bool → Reader β} (other : nextKind ws ≠ kind)
    (next : Reads ok (f false) ⟨names, depth, ws⟩ v Q) :
    Reads ok (accept kind >>= f) ⟨names, depth, ws⟩ v Q := by
  rw [accept, bind_assoc]
  exact reads_accept?_no other next

theorem reads_expectAny {kinds : List TokenKind} {what : String} {f : Token → Reader β}
    (fits : w.kind ∈ kinds) (next : ∀ t, t.word = w → Reads ok (f t) ⟨names, depth, ws⟩ v Q) :
    Reads ok (expectAny kinds what >>= f) ⟨names, depth, w :: ws⟩ v Q := by
  rw [expectAny, bind_assoc]
  refine reads_word_bind fun t word => ?_
  have kind : kinds.contains t.kind := by
    rw [← Token.word_kind, word]
    exact List.contains_iff_mem.mpr fits
  rw [if_pos kind]
  exact fun s sees => next s.peek sees.cons.1 s.skip sees.cons.2

theorem reads_expect {what : String} {f : Token → Reader β} (fits : w.kind = kind)
    (next : ∀ t, t.word = w → Reads ok (f t) ⟨names, depth, ws⟩ v Q) :
    Reads ok (expect kind what >>= f) ⟨names, depth, w :: ws⟩ v Q :=
  reads_expectAny (List.mem_singleton.mpr fits) next

theorem reads_pastAny {kinds : List TokenKind} {what : String} {f : PUnit → Reader β}
    (fits : w.kind ∈ kinds) (next : Reads ok (f ⟨⟩) ⟨names, depth, ws⟩ v Q) :
    Reads ok (discard (expectAny kinds what) >>= f) ⟨names, depth, w :: ws⟩ v Q := by
  rw [discard, map_const, Function.comp_apply, bind_map_left]
  exact reads_expectAny fits fun _ _ => next

theorem reads_past {what : String} {f : PUnit → Reader β} (fits : w.kind = kind)
    (next : Reads ok (f ⟨⟩) ⟨names, depth, ws⟩ v Q) :
    Reads ok (discard (expect kind what) >>= f) ⟨names, depth, w :: ws⟩ v Q :=
  reads_pastAny (List.mem_singleton.mpr fits) next

end words

/-! ## Loops -/

/-- A loop that takes items one after another. -/
theorem reads_repeatStep {step : σ → Reader (Option σ)} {V : List ι → View} {ok : ι → Prop}
    (holds : List ι → σ → Prop)
    (more : ∀ i is a, holds (i :: is) a → Reads (ok i) (step a) (V (i :: is)) (V is)
      fun next => ∃ b, next = some b ∧ holds is b)
    (shorter : ∀ i is a, holds (i :: is) a → (V is).words.length < (V (i :: is)).words.length)
    (done : ∀ a, holds [] a → Reads True (step a) (V []) (V []) (· = none))
    {is : List ι} {a : σ} (start : holds is a) :
    Reads (∀ i ∈ is, ok i) (repeatStep step a) (V is) (V []) (holds []) := by
  have loop (fuel : Nat) : ∀ is a, holds is a → (V is).words.length < fuel →
      Reads (∀ i ∈ is, ok i) (iterate step fuel a) (V is) (V []) (holds []) := by
    induction fuel with
    | zero => exact fun is a _ none => absurd none (Nat.not_lt_zero _)
    | succ fuel ih =>
      intro is a holding enough
      cases is with
      | nil =>
        have stop : Reads True (iterate step (fuel + 1) a) (V []) (V []) (holds []) := by
          refine (done a holding).then fun next none => ?_
          subst none
          exact reads_pure holding
        exact stop.mono (by simp) fun _ given => given
      | cons i is =>
        refine ((more i is a holding).bind fun next some => ?_).mono List.forall_mem_cons fun _ given => given
        obtain ⟨b, rfl, later⟩ := some
        have less := shorter i is a holding
        exact ih is b later (by omega)
  intro s sees
  refine loop (s.unread.length + 1) is a start ?_ s sees
  rw [← sees.words, List.length_map]
  exact Nat.lt_succ_self _

variable {names : List String} {depth : Nat}

/-- A loop whose steps need no parentheses. -/
theorem reads_loop {step : σ → Reader (Option σ)} {V : List ι → View} (holds : List ι → σ → Prop)
    (more : ∀ i is a, holds (i :: is) a → Reads True (step a) (V (i :: is)) (V is)
      fun next => ∃ b, next = some b ∧ holds is b)
    (shorter : ∀ i is a, holds (i :: is) a → (V is).words.length < (V (i :: is)).words.length)
    (done : ∀ a, holds [] a → Reads True (step a) (V []) (V []) (· = none))
    {is : List ι} {a : σ} (start : holds is a) :
    Reads True (repeatStep step a) (V is) (V []) (holds []) :=
  (reads_repeatStep holds more shorter done start).mono (by simp) fun _ given => given

/-- What is left where items are still to come, each behind a separator. -/
def behind (sep : Word) (W : ι → List Word) (rest : List Word) (is : List ι) : List Word :=
  is.flatMap (sep :: W ·) ++ rest

theorem nextKind_behind (sep : Word) (W : ι → List Word) (rest : List Word) (is : List ι) :
    nextKind (behind sep W rest is) = sep.kind ∨ nextKind (behind sep W rest is) = nextKind rest := by
  cases is with
  | nil => exact .inr rfl
  | cons i is => exact .inl rfl

section separated
variable {item : σ → Reader σ} {W : ι → List Word} {rest : List Word} {ok : ι → Prop}

theorem reads_separated (sep : Word) (holds : List ι → σ → Prop) (noSep : nextKind rest ≠ sep.kind)
    (each : ∀ i is a, holds (i :: is) a → Reads (ok i) (item a)
      ⟨names, depth, W i ++ behind sep W rest is⟩ ⟨names, depth, behind sep W rest is⟩ (holds is))
    {is : List ι} {a : σ} (start : holds is a) :
    Reads (∀ i ∈ is, ok i)
      (repeatStep (fun s => do if ← accept sep.kind then some <$> item s else return none) a)
      ⟨names, depth, behind sep W rest is⟩ ⟨names, depth, rest⟩ (holds []) := by
  have cons (i : ι) (is : List ι) :
      behind sep W rest (i :: is) = sep :: (W i ++ behind sep W rest is) := by
    simp [behind]
  refine reads_repeatStep (V := fun is => ⟨names, depth, behind sep W rest is⟩) holds ?_ ?_ ?_ start
  · intro i is a holding
    rw [cons]
    refine reads_accept_yes rfl ?_
    exact (each i is a holding).map fun b holding => ⟨b, rfl, holding⟩
  · intro i is _ _
    dsimp only
    rw [cons, List.length_cons, List.length_append]
    omega
  · intro a _
    exact reads_accept_no noSep (reads_pure rfl)

theorem reads_commaSeparated (holds : List ι → σ → Prop) (noComma : nextKind rest ≠ .comma)
    (each : ∀ i is a, holds (i :: is) a → Reads True (item a)
      ⟨names, depth, W i ++ behind ⟨.comma, ","⟩ W rest is⟩ ⟨names, depth, behind ⟨.comma, ","⟩ W rest is⟩
      (holds is))
    {i : ι} {is : List ι} {a : σ} (start : holds (i :: is) a) :
    Reads True (commaSeparated item a) ⟨names, depth, W i ++ behind ⟨.comma, ","⟩ W rest is⟩
      ⟨names, depth, rest⟩ (holds []) := by
  refine (each i is a start).then fun b holding => ?_
  exact (reads_separated ⟨.comma, ","⟩ holds noComma each holding).mono (by simp) fun _ given => given

end separated

end Reader
end Triage
