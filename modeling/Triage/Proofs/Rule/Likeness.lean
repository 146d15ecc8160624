import Triage.Proofs.Rule.Recovery

/-! Readers see words only. Where the words ahead are the same, what they give is the same, wherever the
tokens stand and whatever comes behind the last word that they look at; and where they fail, they fail with
the same fault. -/

namespace Triage

theorem Token.kind_of_word {t t' : Token} (same : t'.word = t.word) : t'.kind = t.kind :=
  congrArg Word.kind same

theorem Token.text_of_word {t t' : Token} (same : t'.word = t.word) : t'.text = t.text :=
  congrArg Word.text same

/-- Up to the tokens `rest` and `rest'` the words ahead are the same. -/
structure ReaderState.Alike (rest rest' : List Token) (s s' : ReaderState) : Prop where
  words : ∃ a a', s.unread = a ++ rest ∧ s'.unread = a' ++ rest' ∧ a.map Token.word = a'.map Token.word
  nesting : s'.nesting = s.nesting
  declared : s'.declared = s.declared
  ends : s.finish.kind = .endOfFile

namespace ReaderState
variable {rest rest' : List Token} {s s' : ReaderState}

/-- Where a word is left before `rest` the next words are the same. -/
theorem Alike.peek (alike : s.Alike rest rest' s') (left : rest.length < s.unread.length) :
    s'.peek.word = s.peek.word := by
  obtain ⟨a, a', unread, unread', words⟩ := alike.words
  cases a with
  | nil => rw [unread] at left; exact absurd left (Nat.lt_irrefl _)
  | cons x a =>
    cases a' with
    | nil => nomatch words
    | cons x' a' =>
      rw [peek_of_cons unread, peek_of_cons unread']
      exact (List.cons.inj words).1.symm

theorem Alike.skip (alike : s.Alike rest rest' s') (left : rest.length < s.unread.length) :
    s.skip.Alike rest rest' s'.skip := by
  obtain ⟨a, a', unread, unread', words⟩ := alike.words
  cases a with
  | nil => rw [unread] at left; exact absurd left (Nat.lt_irrefl _)
  | cons x a =>
    cases a' with
    | nil => nomatch words
    | cons x' a' =>
      rw [skip_of_cons unread, skip_of_cons unread']
      exact ⟨⟨a, a', rfl, rfl, (List.cons.inj words).2⟩, alike.nesting, alike.declared, alike.ends⟩

/-- What is ahead on one side tells how much is ahead on the other. -/
theorem Alike.length (alike : s.Alike rest rest' s') :
    s.unread.length + rest'.length = s'.unread.length + rest.length := by
  obtain ⟨a, a', unread, unread', words⟩ := alike.words
  have length := congrArg List.length words
  rw [List.length_map, List.length_map] at length
  rw [unread, unread', List.length_append, List.length_append, length]
  omega

end ReaderState

/-- From tokens that are all ahead: the words are the same up to the end, and as many are behind. -/
structure ReaderState.Same (s s' : ReaderState) : Prop where
  words : s.unread.map Token.word = s'.unread.map Token.word
  finish : s'.finish.word = s.finish.word
  index : s'.index = s.index
  nesting : s'.nesting = s.nesting
  declared : s'.declared = s.declared
  ends : s.finish.kind = .endOfFile

namespace ReaderState
variable {s s' : ReaderState}

theorem Same.length (same : s.Same s') : s'.unread.length = s.unread.length := by
  have length := congrArg List.length same.words
  rw [List.length_map, List.length_map] at length
  exact length.symm

theorem Same.peek (same : s.Same s') : s'.peek.word = s.peek.word := by
  have words := same.words
  unfold ReaderState.peek
  cases left : s.unread with
  | nil =>
    rw [left] at words
    rw [List.map_eq_nil_iff.mp words.symm]
    exact same.finish
  | cons x rest =>
    cases left' : s'.unread with
    | nil => rw [left, left'] at words; nomatch words
    | cons x' rest' =>
      rw [left, left'] at words
      exact (List.cons.inj words).1.symm

theorem Same.skip (same : s.Same s') : s.skip.Same s'.skip := by
  have words := same.words
  cases left : s.unread with
  | nil =>
    have none : s'.unread = [] := List.map_eq_nil_iff.mp (by rw [← words, left]; rfl)
    rw [ReaderState.skip, ReaderState.skip, left, none]
    exact same
  | cons x rest =>
    cases left' : s'.unread with
    | nil => rw [left, left'] at words; cases words
    | cons x' rest' =>
      rw [left, left'] at words
      rw [skip_of_cons left, skip_of_cons left']
      exact ⟨(List.cons.inj words).2, same.finish, congrArg (· + 1) same.index, same.nesting, same.declared,
        same.ends⟩

end ReaderState

/-- What two readers see alike: which states are alike, and in which of them the word ahead is seen. -/
structure Sight where
  Alike : ReaderState → ReaderState → Prop
  Sees : ReaderState → Prop
  ends {s s' : ReaderState} : Alike s s' → s.finish.kind = .endOfFile
  earlier {s t : ReaderState} : t.unread.length ≤ s.unread.length → Sees t → Sees s
  peek {s s' : ReaderState} : Alike s s' → Sees s → s'.peek.word = s.peek.word
  skip {s s' : ReaderState} : Alike s s' → Sees s → Alike s.skip s'.skip
  length {s s' t t' : ReaderState} : Alike s s' → Alike t t' →
    s.unread.length + t'.unread.length = s'.unread.length + t.unread.length
  nesting {s s' : ReaderState} : Alike s s' → s'.nesting = s.nesting
  declared {s s' : ReaderState} : Alike s s' → s'.declared = s.declared
  frame {s s' : ReaderState} (f : Nat → Nat) (g : List String → List String) : Alike s s' →
    Alike { s with nesting := f s.nesting, declared := g s.declared }
      { s' with nesting := f s'.nesting, declared := g s'.declared }

namespace Sight

/-- Only the words before `rest` and `rest'` are seen. -/
@[reducible] def upTo (rest rest' : List Token) : Sight where
  Alike s s' := s.Alike rest rest' s'
  Sees s := rest.length < s.unread.length
  ends alike := alike.ends
  earlier more sees := Nat.lt_of_lt_of_le sees more
  peek alike sees := alike.peek sees
  skip alike sees := alike.skip sees
  length first second := by
    have one := first.length
    have two := second.length
    omega
  nesting alike := alike.nesting
  declared alike := alike.declared
  frame f g alike := ⟨alike.words, congrArg f alike.nesting, congrArg g alike.declared, alike.ends⟩

/-- All words are seen, and the end of the file. -/
@[reducible] def whole : Sight where
  Alike s s' := s.Same s'
  Sees _ := True
  ends same := same.ends
  earlier _ sees := sees
  peek same _ := same.peek
  skip same _ := same.skip
  length first second := by rw [first.length, second.length, Nat.add_comm]
  nesting same := same.nesting
  declared same := same.declared
  frame f g same := ⟨same.words, same.finish, same.index, congrArg f same.nesting,
    congrArg g same.declared, same.ends⟩

end Sight

namespace Reader
variable {α β γ δ σ : Type} {sight : Sight}

/-- Values that `look` takes to be the same, or errors with the same fault. -/
def Outcomes (look : α → γ) : Except ParseError α → Except ParseError α → Prop
  | .ok a, .ok a' => look a' = look a
  | .error e, .error e' => e'.fault = e.fault
  | _, _ => False

/-- Both readers take the same words, to values that `look` takes to be the same or to errors with the same
fault. One token at least is taken to a value of which `takes` holds. -/
structure Agree (sight : Sight) (look : α → γ) (takes : α → Prop) (r r' : Reader α) : Prop where
  eats : ∀ s, s.finish.kind = .endOfFile → r.Runs s (fun a t => t.finish = s.finish ∧
    t.unread.length ≤ s.unread.length ∧ (takes a → t.unread.length < s.unread.length))
    fun _ t => t.unread.length ≤ s.unread.length
  follows : ∀ s s', sight.Alike s s' → sight.Sees (r.run s).2 →
    Outcomes look (r.run s).1 (r'.run s').1 ∧ sight.Alike (r.run s).2 (r'.run s').2

/-- No value tells that a token was taken, or each does. -/
abbrev idle (_ : α) : Prop := False

abbrev always (_ : α) : Prop := True

/-- Both readers take the same words to the same value. -/
abbrev Likewise (sight : Sight) (takes : α → Prop) (r r' : Reader α) : Prop :=
  r.Agree sight id takes r'

/-- A reader that gives the same wherever the same words are ahead. -/
abbrev Blind (sight : Sight) (takes : α → Prop) (r : Reader α) : Prop :=
  r.Likewise sight takes r

section Agree
variable {look : α → γ} {view : β → δ} {P : α → Prop} {Q : β → Prop} {r r' : Reader α}
  {f f' : α → Reader β}

theorem Agree.agrees (agree : r.Agree sight look P r') (s s' : ReaderState) (a : α) (t : ReaderState)
    (alike : sight.Alike s s') (ran : r.run s = (.ok a, t)) (sees : sight.Sees t) :
    ∃ a' t', r'.run s' = (.ok a', t') ∧ look a' = look a ∧ sight.Alike t t' := by
  have follows := agree.follows s s' alike (by rwa [ran])
  rw [ran] at follows
  rcases ran' : r'.run s' with ⟨_ | a', t'⟩ <;> rw [ran'] at follows
  · exact follows.1.elim
  · exact ⟨a', t', rfl, follows⟩

theorem Agree.fails (agree : r.Agree sight look P r') (s s' : ReaderState) (e : ParseError) (t : ReaderState)
    (alike : sight.Alike s s') (ran : r.run s = (.error e, t)) (sees : sight.Sees t) :
    ∃ e' t', r'.run s' = (.error e', t') ∧ e'.fault = e.fault ∧ sight.Alike t t' := by
  have follows := agree.follows s s' alike (by rwa [ran])
  rw [ran] at follows
  rcases ran' : r'.run s' with ⟨e' | _, t'⟩ <;> rw [ran'] at follows
  · exact ⟨e', t', rfl, follows⟩
  · exact follows.1.elim

/-- However it ends, a reader leaves no more than there was. -/
theorem Agree.shorter (agree : r.Agree sight look P r') {s : ReaderState} (ends : s.finish.kind = .endOfFile) :
    (r.run s).2.unread.length ≤ s.unread.length := by
  have eats := agree.eats s ends
  rcases ran : r.run s with ⟨e | a, t⟩
  · exact eats.of_error ran
  · exact (eats.of_ok ran).2.1

theorem agree_pure {a a' : α} (same : look a' = look a) (none : ¬P a) :
    (pure a : Reader α).Agree sight look P (pure a') where
  eats _ _ := ⟨rfl, Nat.le_refl _, fun holds => absurd holds none⟩
  follows _ _ alike _ := ⟨same, alike⟩

theorem agree_fail (fault : ParseFault) (position : Position) {position' : Position} :
    (fail fault position : Reader α).Agree sight look P (fail fault position') where
  eats _ _ := Nat.le_refl _
  follows _ _ alike _ := ⟨rfl, alike⟩

theorem agree_fail_bind (fault : ParseFault) (position : Position) {position' : Position} :
    (fail fault position >>= f).Agree sight view Q (fail fault position' >>= f') where
  eats _ _ := Nat.le_refl _
  follows _ _ alike _ := ⟨rfl, alike⟩

theorem Agree.bind (first : r.Agree sight look P r')
    (next : ∀ a a', look a' = look a → (f a).Agree sight view (fun b => Q b ∧ ¬P a) (f' a')) :
    (r >>= f).Agree sight view Q (r' >>= f') where
  eats s ends := by
    refine runs_bind.mpr ((first.eats s ends).mono ?_ fun _ _ fewer => fewer)
    rintro a t ⟨same, shorter, strictly⟩
    refine ((next a a rfl).eats t (same ▸ ends)).mono ?_ fun _ _ fewer => Nat.le_trans fewer shorter
    rintro b u ⟨same', shorter', strictly'⟩
    refine ⟨same'.trans same, Nat.le_trans shorter' shorter, fun holds => ?_⟩
    by_cases taken : P a
    · exact Nat.lt_of_le_of_lt shorter' (strictly taken)
    · exact Nat.lt_of_lt_of_le (strictly' ⟨holds, taken⟩) shorter
  follows s s' alike sees := by
    rw [run_bind] at sees ⊢
    rw [run_bind]
    rcases one : r.run s with ⟨e | a, u⟩ <;> rw [one] at sees
    · obtain ⟨e', u', one', same, alike⟩ := first.fails s s' e u alike one sees
      rw [one']
      exact ⟨same, alike⟩
    · obtain ⟨same, _⟩ := (first.eats s (sight.ends alike)).of_ok one
      have shorter := (next a a rfl).shorter (s := u) (same ▸ sight.ends alike)
      obtain ⟨a', u', one', like, alike⟩ := first.agrees s s' a u alike one (sight.earlier shorter sees)
      rw [one']
      exact (next a a' like).follows u u' alike sees

theorem Agree.mono {fewer : α → Prop} (agree : r.Agree sight look P r') (less : ∀ a, fewer a → P a) :
    r.Agree sight look fewer r' where
  eats s ends := by
    refine (agree.eats s ends).mono ?_ fun _ _ shorter => shorter
    exact fun a t eaten => ⟨eaten.1, eaten.2.1, fun holds => eaten.2.2 (less a holds)⟩
  follows := agree.follows

/-- What comes behind a token that was taken need not take one. -/
theorem Agree.into (first : r.Agree sight look always r')
    (next : ∀ a a', look a' = look a → (f a).Agree sight view idle (f' a')) :
    (r >>= f).Agree sight view Q (r' >>= f') :=
  first.bind fun a a' same => (next a a' same).mono fun _ holds => holds.2 trivial

theorem Agree.then (first : r.Agree sight look P r')
    (next : ∀ a a', look a' = look a → (f a).Agree sight view Q (f' a')) :
    (r >>= f).Agree sight view Q (r' >>= f') :=
  first.bind fun a a' same => (next a a' same).mono fun _ holds => holds.1

theorem Likewise.bind (first : r.Likewise sight P r')
    (next : ∀ a, (f a).Agree sight view (fun b => Q b ∧ ¬P a) (f' a)) :
    (r >>= f).Agree sight view Q (r' >>= f') :=
  Agree.bind first fun a a' same => (show a' = a from same) ▸ next a

theorem Likewise.into (first : r.Likewise sight always r')
    (next : ∀ a, (f a).Agree sight view idle (f' a)) :
    (r >>= f).Agree sight view Q (r' >>= f') :=
  Agree.into first fun a a' same => (show a' = a from same) ▸ next a

theorem Likewise.then (first : r.Likewise sight P r')
    (next : ∀ a, (f a).Agree sight view Q (f' a)) :
    (r >>= f).Agree sight view Q (r' >>= f') :=
  Agree.then first fun a a' same => (show a' = a from same) ▸ next a

theorem Agree.map {g : α → β} (agree : r.Agree sight look P r')
    (same : ∀ a a', look a' = look a → view (g a') = view (g a)) (takes : ∀ a, Q (g a) → P a) :
    (g <$> r).Agree sight view Q (g <$> r') := by
  rw [map_eq_pure_bind, map_eq_pure_bind]
  exact agree.bind fun a a' like => agree_pure (same a a' like) fun holds => holds.2 (takes a holds.1)

theorem Agree.discard (agree : r.Agree sight look always r) :
    (discard r).Blind sight always :=
  agree.map (fun _ _ _ => rfl) fun _ _ => trivial

theorem Agree.drop (agree : r.Agree sight look P r) :
    (Functor.discard r).Blind sight idle :=
  agree.map (fun _ _ _ => rfl) fun _ => False.elim

theorem agree_get_bind {f f' : ReaderState → Reader β}
    (next : ∀ s s' : ReaderState, s'.nesting = s.nesting → s'.declared = s.declared →
      (f s).Agree sight view Q (f' s')) :
    (get >>= f).Agree sight view Q (get >>= f') where
  eats s ends := runs_bind.mpr ((next s s rfl rfl).eats s ends)
  follows s s' alike sees := by
    rw [run_bind, run_get] at sees ⊢
    exact (next s s' (sight.nesting alike) (sight.declared alike)).follows s s' alike sees

theorem agree_if {c c' : Prop} [Decidable c] [Decidable c'] {a b a' b' : Reader α} (same : c' ↔ c)
    (yes : c → a.Agree sight look P a') (no : ¬c → b.Agree sight look P b') :
    (if c then a else b).Agree sight look P (if c' then a' else b') := by
  by_cases holds : c
  · rw [if_pos holds, if_pos (same.mpr holds)]
    exact yes holds
  · rw [if_neg holds, if_neg (mt same.mp holds)]
    exact no holds

/-! ### Tokens -/

theorem agree_peek : peek.Agree sight Token.word idle peek where
  eats _ _ := ⟨rfl, Nat.le_refl _, False.elim⟩
  follows _ _ alike sees := ⟨sight.peek alike sees, alike⟩

/-- What is known of a token that is taken. -/
theorem eats_skip {s : ReaderState} (ends : s.finish.kind = .endOfFile) :
    s.skip.finish = s.finish ∧ s.skip.unread.length ≤ s.unread.length ∧
      (s.peek.kind ≠ .endOfFile → s.skip.unread.length < s.unread.length) := by
  refine ⟨ReaderState.skip_finish s, ?_⟩
  cases found : s.unread with
  | nil =>
    have stays : s.skip = s := by rw [ReaderState.skip, found]
    rw [stays, found, ReaderState.peek, found]
    exact ⟨Nat.le_refl _, fun other => absurd ends other⟩
  | cons x unread =>
    rw [ReaderState.skip_of_cons found]
    exact ⟨Nat.le_succ _, fun _ => Nat.lt_succ_self _⟩

theorem sees_of_skip {s : ReaderState} (ends : s.finish.kind = .endOfFile) (sees : sight.Sees s.skip) :
    sight.Sees s :=
  sight.earlier (eats_skip ends).2.1 sees

theorem agree_advance : advance.Agree sight Token.word (·.kind ≠ .endOfFile) advance where
  eats _ ends := eats_skip ends
  follows _ _ alike sees := by
    have before := sees_of_skip (sight.ends alike) sees
    exact ⟨sight.peek alike before, sight.skip alike before⟩

theorem blind_isNext (kind : TokenKind) : (isNext kind).Blind sight idle := by
  refine agree_peek.then fun t t' same => agree_pure ?_ False.elim
  rw [Token.kind_of_word same]

theorem run_accept? (kind : TokenKind) (s : ReaderState) : (accept? kind).run s =
    if s.peek.kind = kind then (.ok (some s.peek), s.skip) else (.ok none, s) := by
  rw [accept?, isNext, bind_assoc, run_bind, run_peek]
  simp only [pure_bind]
  split <;> simp_all <;> rfl

theorem agree_accept? {kind : TokenKind} (other : kind ≠ .endOfFile) :
    (accept? kind).Agree sight (Option.map Token.word) (·.isSome) (accept? kind) where
  eats s ends := by
    unfold Runs
    rw [run_accept?]
    by_cases fits : s.peek.kind = kind
    · obtain ⟨same, shorter, strictly⟩ := eats_skip ends
      rw [if_pos fits]
      exact ⟨same, shorter, fun _ => strictly (fits ▸ other)⟩
    · rw [if_neg fits]
      exact ⟨rfl, Nat.le_refl _, fun holds => nomatch holds⟩
  follows s s' alike sees := by
    rw [run_accept?] at sees ⊢
    rw [run_accept?]
    by_cases fits : s.peek.kind = kind
    · rw [if_pos fits] at sees ⊢
      have before := sees_of_skip (sight.ends alike) sees
      have same := sight.peek alike before
      rw [if_pos ((Token.kind_of_word same).trans fits)]
      exact ⟨congrArg some same, sight.skip alike before⟩
    · rw [if_neg fits] at sees ⊢
      have fits' : ¬s'.peek.kind = kind := by
        rwa [Token.kind_of_word (sight.peek alike sees)]
      rw [if_neg fits']
      exact ⟨rfl, alike⟩

theorem blind_accept {kind : TokenKind} (other : kind ≠ .endOfFile) :
    (accept kind).Blind sight (· = true) := by
  refine (agree_accept? other).bind fun t t' same => agree_pure ?_ (fun holds => holds.2 holds.1)
  cases t <;> cases t' <;> first | rfl | nomatch same

/-- A token that may come is taken on both sides or on none. -/
theorem agree_accept?_bind {kind : TokenKind} {f f' : Option Token → Reader β} (other : kind ≠ .endOfFile)
    (taken : ∀ t t' : Token, t'.word = t.word → (f (some t)).Agree sight view idle (f' (some t')))
    (left : (f none).Agree sight view Q (f' none)) :
    (accept? kind >>= f).Agree sight view Q (accept? kind >>= f') := by
  refine (agree_accept? other).bind fun t t' same => ?_
  cases t with
  | none =>
    obtain rfl := Option.map_eq_none_iff.mp same
    exact left.mono fun _ holds => holds.1
  | some t =>
    obtain ⟨t', rfl, like⟩ := Option.map_eq_some_iff.mp same
    exact (taken t t' like).mono fun _ holds => holds.2 rfl

theorem blind_accept_bind {kind : TokenKind} {f f' : Bool → Reader β} (other : kind ≠ .endOfFile)
    (taken : (f true).Agree sight view idle (f' true))
    (left : (f false).Agree sight view Q (f' false)) :
    (accept kind >>= f).Agree sight view Q (accept kind >>= f') := by
  refine (blind_accept other).bind fun found => ?_
  cases found with
  | false => exact left.mono fun _ holds => holds.1
  | true => exact taken.mono fun _ holds => holds.2 rfl

theorem run_expectAny (kinds : List TokenKind) (what : String) (s : ReaderState) :
    (expectAny kinds what).run s = if kinds.contains s.peek.kind then (.ok s.peek, s.skip)
      else (.error ⟨.expected what, s.peek.position⟩, s) := by
  rw [expectAny, run_bind, run_peek]
  dsimp only
  split <;> rfl

theorem agree_expectAny {kinds : List TokenKind} {what : String} (other : .endOfFile ∉ kinds) :
    (expectAny kinds what).Agree sight Token.word always (expectAny kinds what) where
  eats s ends := by
    unfold Runs
    rw [run_expectAny]
    by_cases fits : kinds.contains s.peek.kind
    · obtain ⟨same, shorter, strictly⟩ := eats_skip ends
      rw [if_pos fits]
      exact ⟨same, shorter, fun _ => strictly fun ended => other (ended ▸ List.contains_iff_mem.mp fits)⟩
    · rw [if_neg fits]
  follows s s' alike sees := by
    rw [run_expectAny] at sees ⊢
    rw [run_expectAny]
    by_cases fits : kinds.contains s.peek.kind
    · rw [if_pos fits] at sees ⊢
      have before := sees_of_skip (sight.ends alike) sees
      have same := sight.peek alike before
      rw [Token.kind_of_word same, if_pos fits]
      exact ⟨same, sight.skip alike before⟩
    · rw [if_neg fits] at sees ⊢
      rw [Token.kind_of_word (sight.peek alike sees), if_neg fits]
      exact ⟨rfl, alike⟩

theorem agree_expect {kind : TokenKind} {what : String} (other : kind ≠ .endOfFile) :
    (expect kind what).Agree sight Token.word always (expect kind what) :=
  agree_expectAny fun member => other (List.mem_singleton.mp member).symm

theorem blind_heading (k : Keyword) : (heading k).Blind sight always :=
  (agree_expect (by simp)).discard.into fun _ => (agree_expect (by simp)).discard.mono fun _ => False.elim

/-! ### Loops -/

section loops
variable {step step' : σ → Reader (Option σ)} {look : σ → γ}

theorem eats_iterate (steps : ∀ a a', look a' = look a →
      (step a).Agree sight (Option.map look) (·.isSome) (step' a')) (fuel : Nat) (a : σ)
    {s : ReaderState} (ends : s.finish.kind = .endOfFile) :
    (iterate step fuel a).Runs s (fun _ t => t.finish = s.finish ∧
      t.unread.length ≤ s.unread.length) fun _ t => t.unread.length ≤ s.unread.length := by
  induction fuel generalizing a s with
  | zero => exact ⟨rfl, Nat.le_refl _⟩
  | succ fuel ih =>
    refine runs_bind.mpr (((steps a a rfl).eats s ends).mono ?_ fun _ _ shorter => shorter)
    rintro next t ⟨same, shorter, _⟩
    cases next with
    | none => exact ⟨same, shorter⟩
    | some b =>
      refine (ih b (same ▸ ends)).mono ?_ fun _ _ fewer => Nat.le_trans fewer shorter
      exact fun _ u eaten => ⟨eaten.1.trans same, Nat.le_trans eaten.2 shorter⟩

/-- Both loops go on as long as there is enough fuel for the tokens that are left. -/
theorem follows_iterate (steps : ∀ a a', look a' = look a →
      (step a).Agree sight (Option.map look) (·.isSome) (step' a'))
    {fuel fuel' : Nat} {a a' : σ} {s s' : ReaderState} (same : look a' = look a)
    (alike : sight.Alike s s') (enough : s.unread.length < fuel) (enough' : s'.unread.length < fuel')
    (sees : sight.Sees ((iterate step fuel a).run s).2) :
    Outcomes look ((iterate step fuel a).run s).1 ((iterate step' fuel' a').run s').1 ∧
      sight.Alike ((iterate step fuel a).run s).2 ((iterate step' fuel' a').run s').2 := by
  induction fuel generalizing fuel' a a' s s' with
  | zero => exact absurd enough (Nat.not_lt_zero _)
  | succ fuel ih =>
    cases fuel' with
    | zero => exact absurd enough' (Nat.not_lt_zero _)
    | succ fuel' =>
      have agree := steps a a' same
      rw [iterate, run_bind] at sees ⊢
      rw [iterate, run_bind]
      rcases one : (step a).run s with ⟨e | next, u⟩ <;> rw [one] at sees
      · obtain ⟨e', u', one', fault, alike⟩ := agree.fails s s' e u alike one sees
        rw [one']
        exact ⟨fault, alike⟩
      · obtain ⟨finish, shorter, strictly⟩ := (agree.eats s (sight.ends alike)).of_ok one
        cases next with
        | none =>
          obtain ⟨next', u', one', like, alike⟩ := agree.agrees s s' none u alike one sees
          obtain rfl := Option.map_eq_none_iff.mp like
          rw [one']
          exact ⟨same, alike⟩
        | some c =>
          have eaten : ((iterate step fuel c).run u).2.unread.length ≤ u.unread.length := by
            have eats := eats_iterate steps fuel c (finish ▸ sight.ends alike)
            rcases ran : (iterate step fuel c).run u with ⟨e | b, t⟩
            · exact eats.of_error ran
            · exact (eats.of_ok ran).2
          obtain ⟨next', u', one', found, later⟩ :=
            agree.agrees s s' _ u alike one (sight.earlier eaten sees)
          have length := sight.length alike later
          have fewer := strictly rfl
          obtain ⟨c', rfl, like⟩ := Option.map_eq_some_iff.mp found
          rw [one']
          exact ih like later (by omega) (by omega) sees

theorem agree_repeatStep (steps : ∀ a a', look a' = look a →
      (step a).Agree sight (Option.map look) (·.isSome) (step' a'))
    {a a' : σ} (same : look a' = look a) :
    (repeatStep step a).Agree sight look idle (repeatStep step' a') where
  eats s ends := by
    refine runs_bind.mpr ((eats_iterate steps _ a ends).mono ?_ fun _ _ shorter => shorter)
    exact fun _ t eaten => ⟨eaten.1, eaten.2, False.elim⟩
  follows s s' alike sees := by
    rw [repeatStep, run_bind, run_get] at sees ⊢
    exact follows_iterate steps same alike (Nat.lt_succ_self _) (Nat.lt_succ_self _) sees

theorem blind_repeatStep {step : σ → Reader (Option σ)}
    (steps : ∀ a, (step a).Blind sight (·.isSome)) (a : σ) :
    (repeatStep step a).Blind sight idle := by
  have same (b b' : σ) (same : id b' = id b) :
      (step b).Agree sight (Option.map id) (·.isSome) (step b') := by
    obtain rfl : b' = b := same
    rw [Option.map_id]
    exact steps b'
  exact agree_repeatStep same rfl

theorem agree_commaSeparated {item item' : σ → Reader σ}
    (items : ∀ a a', look a' = look a → (item a).Agree sight look always (item' a'))
    {a a' : σ} (same : look a' = look a) :
    (commaSeparated item a).Agree sight look always (commaSeparated item' a') := by
  refine (items a a' same).into fun b b' same => agree_repeatStep (fun c c' same => ?_) same
  refine blind_accept_bind (by simp) ?_ (agree_pure rfl (by simp))
  exact (items c c' same).map (fun d d' same => congrArg some same) fun _ => False.elim

theorem blind_commaSeparated {item : σ → Reader σ} (items : ∀ a, (item a).Blind sight always)
    (a : σ) : (commaSeparated item a).Blind sight always :=
  agree_commaSeparated (fun b _ same => (show _ = b from same) ▸ items b) rfl

end loops

theorem Agree.nested (agree : r.Agree sight look P r') :
    (nested r).Agree sight look P (nested r') where
  eats s ends := runs_nested.mpr (agree.eats { s with nesting := s.nesting + 1 } ends)
  follows s s' alike sees := by
    rw [run_nested] at sees ⊢
    rw [run_nested]
    have deeper := sight.frame (· + 1) id alike
    have ahead : sight.Sees (r.run { s with nesting := s.nesting + 1 }).2 :=
      sight.earlier (by exact Nat.le_refl _) sees
    obtain ⟨outcomes, later⟩ := agree.follows _ _ deeper ahead
    exact ⟨outcomes, sight.frame (· - 1) id later⟩

end Agree

/-! ## The readers of declarations -/

theorem blind_quotedText : quotedText.Blind sight always :=
  (agree_expect (by simp)).into fun t t' same => agree_pure (Token.text_of_word same) False.elim

theorem blind_metaSection : metaSection.Blind sight idle := by
  refine (blind_heading _).then fun _ => blind_repeatStep (fun fields => ?_) _
  refine agree_accept?_bind (by simp) (fun t t' same => ?_) (agree_pure rfl (by simp))
  refine (agree_expect (by simp)).discard.then fun _ => blind_quotedText.then fun text => ?_
  exact agree_pure (by rw [Token.text_of_word same]) False.elim

theorem blind_hashRecord : hashRecord.Blind sight always := by
  refine blind_commaSeparated (fun r => ?_) _
  refine agree_peek.then fun t t' same => ?_
  rw [Token.kind_of_word same]
  cases HashAlgorithm.ofToken? t.kind with
  | none => exact agree_fail _ _
  | some a =>
    refine agree_advance.drop.then fun _ => (agree_expect (by simp)).discard.into fun _ => ?_
    refine blind_quotedText.then fun digest => agree_if Iff.rfl (fun _ => agree_fail_bind _ _) fun _ => ?_
    exact agree_pure rfl False.elim

theorem blind_hashSection : hashSection.Blind sight idle := by
  refine (blind_heading _).then fun _ => (blind_repeatStep (fun records => ?_) _).then fun records => ?_
  · refine agree_peek.then fun t t' same => ?_
    rw [Token.kind_of_word same]
    refine agree_if Iff.rfl (fun _ => ?_) fun _ => agree_pure rfl (by simp)
    exact blind_hashRecord.into fun r => agree_pure rfl False.elim
  · refine agree_if Iff.rfl (fun _ => ?_) fun _ => agree_pure rfl False.elim
    exact agree_peek.then fun t t' same => agree_fail_bind _ _

theorem agree_numberOf {t t' : Token} (same : t'.word = t.word) :
    (numberOf t).Likewise sight idle (numberOf t') := by
  unfold numberOf
  rw [Token.text_of_word same]
  cases number? t.text with
  | none => exact agree_fail _ _
  | some n => exact agree_pure rfl False.elim

theorem blind_operator : operator.Blind sight idle := by
  refine agree_peek.then fun t t' same => ?_
  rw [Token.kind_of_word same]
  cases CompareOp.ofToken? t.kind with
  | none => exact agree_fail _ _
  | some op => exact agree_advance.drop.then fun _ => agree_pure rfl False.elim

theorem blind_number : number.Blind sight idle :=
  (agree_expect (by simp)).then fun t t' same => agree_numberOf same

theorem blind_comparison (s : PropertySection) : (comparison s).Blind sight idle := by
  refine agree_peek.then fun t t' same => ?_
  dsimp only
  rw [Token.kind_of_word same, Token.text_of_word same]
  cases if decide (t.kind = .identifier) || t.kind.isKeyword then s.named? t.text else none with
  | none => exact agree_fail _ _
  | some property =>
    refine agree_advance.drop.then fun _ => agree_peek.then fun sign sign' _ => ?_
    refine blind_operator.then fun op => agree_if Iff.rfl (fun _ => agree_fail_bind _ _) fun _ => ?_
    cases property.valueKind with
    | text =>
      exact (agree_expect (by simp)).then fun v v' same => agree_pure (by rw [Token.text_of_word same]) False.elim
    | number => exact blind_number.then fun n => agree_pure rfl False.elim

theorem agree_arguments : arguments.Agree sight (List.map Token.word) idle arguments := by
  refine (blind_isNext _).then fun none => agree_if Iff.rfl (fun _ => agree_pure rfl False.elim) fun _ => ?_
  refine (agree_commaSeparated (fun ts ts' same => ?_) rfl).mono fun _ => False.elim
  refine (agree_expectAny (by simp)).into fun t t' like => agree_pure ?_ False.elim
  rw [List.map_append, List.map_append, same, List.map_singleton, List.map_singleton, like]

theorem agree_readArguments (f : HitFunction) (declared : List String) (i : Nat) {ts ts' : List Token}
    (same : ts'.map Token.word = ts.map Token.word) :
    (readArguments f declared i ts).Likewise sight idle (readArguments f declared i ts') := by
  induction ts generalizing i ts' with
  | nil =>
    obtain rfl := List.map_eq_nil_iff.mp same
    exact agree_pure rfl False.elim
  | cons t ts ih =>
    cases ts' with
    | nil => nomatch same
    | cons t' ts' =>
      obtain ⟨like, others⟩ := List.cons.inj same
      rw [readArguments, readArguments, Token.kind_of_word like, Token.text_of_word like]
      refine agree_if Iff.rfl (fun _ => ?_) fun _ => ?_
      · refine agree_if Iff.rfl (fun _ => agree_fail_bind _ _) fun _ => ?_
        exact (agree_numberOf like).then fun n => (ih (i + 1) others).then fun read =>
          agree_pure rfl False.elim
      · refine agree_if Iff.rfl (fun _ => agree_fail_bind _ _) fun _ => ?_
        refine agree_if Iff.rfl (fun _ => agree_fail_bind _ _) fun _ => ?_
        exact (ih (i + 1) others).then fun read => agree_pure rfl False.elim

theorem blind_call : call.Blind sight idle := by
  refine agree_peek.then fun t t' same => ?_
  dsimp only
  rw [Token.kind_of_word same]
  cases HitFunction.ofToken? t.kind with
  | none => exact agree_fail _ _
  | some f =>
    refine agree_advance.drop.then fun _ => (agree_expect (by simp)).discard.then fun _ => ?_
    refine agree_arguments.then fun ts ts' like => (agree_expect (by simp)).discard.then fun _ => ?_
    have count : ts'.length = ts.length := by simpa using congrArg List.length like
    have checked (compared : Option (CompareOp × Nat)) : Likewise sight idle
        (shapedCall f t ts compared) (shapedCall f t' ts' compared) := by
      unfold shapedCall
      rw [count]
      refine agree_if Iff.rfl (fun _ => agree_fail_bind _ _) fun _ => ?_
      refine agree_if Iff.rfl (fun _ => agree_peek.then fun _ _ _ => agree_fail_bind _ _) fun _ => ?_
      refine agree_if Iff.rfl (fun _ => agree_fail_bind _ _) fun _ => ?_
      refine agree_get_bind fun s s' _ declared => ?_
      rw [declared]
      exact (agree_readArguments f _ 0 like).then fun read => agree_pure rfl False.elim
    refine agree_peek.then fun sign sign' same => ?_
    rw [Token.kind_of_word same]
    refine agree_if Iff.rfl (fun _ => ?_) fun _ => checked none
    exact blind_operator.then fun op => blind_number.then fun n => checked (some (op, n))

section predicates
variable {leaf : Reader Leaf} {item inner : Reader Predicate}

theorem blind_joined (items : item.Blind sight idle) (k : Keyword)
    (join : Predicate → Predicate → Predicate) : (joined k join item).Blind sight idle := by
  refine items.then fun first => blind_repeatStep (fun left => ?_) first
  exact blind_accept_bind (by simp) (items.then fun right => agree_pure rfl False.elim) (agree_pure rfl (by simp))

theorem blind_factor (leaves : leaf.Blind sight idle) (inners : inner.Blind sight idle) :
    (factor leaf inner).Blind sight idle := by
  refine agree_accept?_bind (by simp) (fun t t' same => ?_) (leaves.map (fun _ _ same => ?_) fun _ => False.elim)
  · refine agree_get_bind fun s s' nesting _ => agree_if (by rw [nesting]) (fun _ => agree_fail_bind _ _) fun _ => ?_
    refine Likewise.then inners.nested fun p => (agree_expect (by simp)).discard.then fun _ => ?_
    exact agree_pure rfl False.elim
  · exact congrArg Predicate.leaf same

theorem blind_predicate (leaves : leaf.Blind sight idle) : (predicate leaf).Blind sight idle := by
  have within (levels : Nat) : (predicateWithin leaf levels).Blind sight idle := by
    induction levels with
    | zero => exact agree_peek.then fun t t' _ => agree_fail _ _
    | succ levels ih => exact blind_joined (blind_joined (blind_factor leaves ih) _ _) _ _
  exact within _

end predicates

/-! ### Patterns -/

theorem agree_checkCompiles (position position' : Position) (d : PatternDef) :
    (checkCompiles position d).Likewise sight idle (checkCompiles position' d) := by
  unfold checkCompiles
  cases d.compile with
  | ok c => exact agree_pure rfl False.elim
  | error e => exact agree_fail _ _

theorem agree_forM {f f' : σ → Reader PUnit} (each : ∀ a, (f a).Likewise sight idle (f' a))
    (as : List σ) : (as.forM f).Likewise sight idle (as.forM f') := by
  induction as with
  | nil => exact agree_pure rfl False.elim
  | cons a as ih => exact (each a).then fun _ => ih

theorem blind_encodings : encodings.Blind sight always := by
  refine (agree_expect (by simp)).discard.into fun _ => ?_
  refine (blind_commaSeparated (fun names => ?_) _).mono fun _ => False.elim
  refine (agree_expect (by simp)).into fun t t' same => ?_
  rw [Token.text_of_word same]
  exact agree_if Iff.rfl (fun _ => agree_fail_bind _ _) fun _ => agree_pure rfl False.elim

theorem blind_modifiers : modifiers.Blind sight idle := by
  refine blind_repeatStep (fun m => ?_) _
  refine blind_accept_bind (by simp) (agree_pure rfl False.elim) ?_
  refine blind_accept_bind (by simp) (agree_pure rfl False.elim) ?_
  exact blind_accept_bind (by simp) (blind_encodings.into fun names => agree_pure rfl False.elim)
    (agree_pure rfl (by simp))

theorem agree_textPattern {t t' : Token} (same : t'.word = t.word) :
    (textPattern t).Likewise sight idle (textPattern t') := by
  refine blind_modifiers.then fun m => ?_
  rw [Token.text_of_word same]
  exact (agree_forM (fun d => agree_checkCompiles _ _ d) _).then fun _ => agree_pure rfl False.elim

theorem blind_hexString : hexString.Blind sight idle := by
  refine (blind_repeatStep (fun digits => ?_) _).then fun digits => ?_
  · refine agree_peek.then fun t t' same => ?_
    rw [Token.kind_of_word same, Token.text_of_word same]
    refine agree_if Iff.rfl (fun _ => agree_pure rfl (by simp)) fun _ => ?_
    refine (agree_expectAny (by simp)).discard.into fun _ => ?_
    exact agree_if Iff.rfl (fun _ => agree_fail_bind _ _) fun _ => agree_pure rfl False.elim
  · refine agree_peek.then fun t t' same => ?_
    rw [Token.kind_of_word same]
    refine agree_if Iff.rfl (fun _ => agree_fail_bind _ _) fun _ => ?_
    refine agree_if Iff.rfl (fun _ => agree_fail_bind _ _) fun _ => ?_
    refine agree_if Iff.rfl (fun _ => agree_fail_bind _ _) fun _ => ?_
    exact (agree_expect (by simp)).discard.then fun _ => agree_pure rfl False.elim

theorem agree_hexPattern (t t' : Token) : (hexPattern t).Likewise sight idle (hexPattern t') :=
  blind_hexString.then fun _ => (agree_checkCompiles _ _ _).then fun _ => agree_pure rfl False.elim

theorem blind_patternDefinition : patternDefinition.Blind sight idle := by
  refine (agree_expect (by simp)).discard.then fun _ => ?_
  refine agree_accept?_bind (by simp) (fun t t' same => agree_textPattern same) ?_
  refine agree_accept?_bind (by simp) (fun t t' _ => agree_hexPattern t t') ?_
  exact agree_peek.then fun t t' _ => agree_fail _ _

theorem blind_declare (name : String) : (declare name).Blind sight idle where
  eats _ _ := ⟨rfl, Nat.le_refl _, False.elim⟩
  follows _ _ alike _ := ⟨rfl, sight.frame id (fun names => if names.contains name then names else name :: names) alike⟩

theorem blind_patternsSection : patternsSection.Blind sight idle := by
  refine (blind_heading _).then fun _ => (blind_repeatStep (fun patterns => ?_) _).then fun patterns => ?_
  · refine agree_accept?_bind (by simp) (fun t t' same => ?_) (agree_pure rfl (by simp))
    refine blind_patternDefinition.then fun defs => ?_
    rw [Token.text_of_word same]
    refine agree_if Iff.rfl (fun _ => agree_fail_bind _ _) fun _ => ?_
    exact (blind_declare _).then fun _ => agree_pure rfl False.elim
  · refine agree_if Iff.rfl (fun _ => ?_) fun _ => agree_pure rfl False.elim
    exact agree_peek.then fun t t' same => agree_fail_bind _ _

theorem blind_fileMetadataSection : fileMetadataSection.Blind sight idle :=
  (blind_heading _).then fun _ => blind_predicate (blind_comparison _)

theorem blind_signatureSection : signatureSection.Blind sight idle :=
  (blind_heading _).then fun _ => blind_predicate (blind_comparison _)

theorem blind_grepSection : grepSection.Blind sight idle :=
  (blind_heading _).then fun _ => blind_patternsSection.then fun _ =>
    (blind_heading _).then fun _ => (blind_predicate blind_call).then fun _ =>
      agree_pure rfl False.elim

theorem blind_section? {r : Reader α} (reads : r.Blind sight idle) (k : Keyword) :
    (section? k r).Blind sight idle := by
  refine (blind_isNext _).then fun next => agree_if Iff.rfl (fun _ => ?_) fun _ => agree_pure rfl False.elim
  exact reads.map (fun _ _ same => congrArg some same) fun _ => False.elim

end Reader
end Triage
