import Triage.Proofs.Rule.Reading

/-! The shape of declarations. What may come next in a declaration is told by a place, which the words
read so far lead to. Readers take words along the places, and no place lets a declaration start: so
reading a declaration never goes past the next one. -/

namespace Triage

/-- What a declaration lets come next. -/
inductive Place
  /-- Anything but a string. A comparison that comes next is to a number when `compared` says so. -/
  | free (compared : Bool)
  /-- The text that something is compared to. -/
  | text
  /-- The number that something is compared to. -/
  | number
  /-- What an equal sign assigns: a string, or digits in braces. -/
  | assigned
  /-- What follows a string that was assigned: a name, which an equal sign follows, or a keyword, or
  the end of the declaration. -/
  | defined
  | naming
  | digits
  | moreDigits
  /-- A list of encodings: its equal sign, a name, and what follows a name. -/
  | listSign
  | listName
  | listed
deriving DecidableEq, Repr

namespace Place

/-- Whether a comparison of what the word ends is to a number. -/
def numbered (w : Word) : Bool := w.kind = .closeParen || w.text = "filesize"

def freeStep (compared : Bool) (w : Word) : Option Place :=
  match w.kind with
  | .string | .endOfFile | .keyword .rule => none
  | .keyword .encodings => some listSign
  | .equal => some assigned
  | kind =>
    if kind.isComparison then some (if compared then number else text) else some (free (numbered w))

/-- The place that a word leads to, if it may come. -/
def step (p : Place) (w : Word) : Option Place :=
  match p with
  | free compared => freeStep compared w
  | text => if w.kind = .string then some (free false) else none
  | number => if w.kind = .number then some (free false) else none
  | assigned =>
    if w.kind = .string then some defined else if w.kind = .openBrace then some digits else none
  | defined =>
    if w.kind = .identifier then some naming
    else if w.kind.isKeyword ∨ w.kind = .closeBrace then freeStep false w
    else none
  | naming => if w.kind = .equal then some assigned else none
  | digits => if w.kind = .identifier ∨ w.kind = .number then some moreDigits else none
  | moreDigits =>
    if w.kind = .identifier ∨ w.kind = .number then some moreDigits
    else if w.kind = .closeBrace then some (free false)
    else none
  | listSign => if w.kind = .equal then some listName else none
  | listName => if w.kind = .identifier then some listed else none
  | listed => if w.kind = .comma then some listName else freeStep false w

/-- The place that words lead to. -/
def walk (p : Place) (ws : List Word) : Option Place := ws.foldlM step p

theorem walk_append {p q : Place} {a b : List Word} (first : p.walk a = some q) :
    p.walk (a ++ b) = q.walk b := by
  rw [walk, List.foldlM_append]
  exact congrArg (· >>= fun q => q.walk b) first

/-- A place where what was read may end. -/
def Resting : Place → Prop
  | free _ | defined | listed => True
  | _ => False

def Free (p : Place) : Prop := ∃ compared, p = free compared

theorem Free.resting {p : Place} (isFree : p.Free) : p.Resting := by
  obtain ⟨_, rfl⟩ := isFree
  trivial

theorem step_rule (p : Place) {w : Word} (starts : w.kind = .keyword .rule) : p.step w = none := by
  cases p <;> simp [step, freeStep, starts]

theorem step_endOfFile (p : Place) {w : Word} (ends : w.kind = .endOfFile) : p.step w = none := by
  cases p <;> simp [step, freeStep, ends, TokenKind.isKeyword]

/-- The words that say neither what comes behind them nor that nothing may come. -/
def Neutral (kind : TokenKind) : Bool :=
  match kind with
  | .string | .endOfFile | .keyword .rule | .keyword .encodings | .equal => false
  | kind => !kind.isComparison

theorem freeStep_neutral {compared : Bool} {w : Word} (neutral : Neutral w.kind) :
    freeStep compared w = some (free (numbered w)) := by
  unfold freeStep
  unfold Neutral at neutral
  split <;> simp_all

theorem step_free {p : Place} (isFree : p.Free) {w : Word} (neutral : Neutral w.kind) :
    ∃ q, p.step w = some q ∧ q.Free := by
  obtain ⟨_, rfl⟩ := isFree
  exact ⟨_, freeStep_neutral neutral, _, rfl⟩

theorem step_keyword {p : Place} (resting : p.Resting) {w : Word} {k : Keyword}
    (kind : w.kind = .keyword k) (notRule : k ≠ .rule) (notList : k ≠ .encodings) :
    p.step w = some (free (numbered w)) := by
  have next (compared : Bool) : freeStep compared w = some (free (numbered w)) := by
    rw [freeStep, kind]
    cases k <;> simp_all [TokenKind.isComparison]
  cases p <;> simp only [Resting] at resting <;> simp [step, kind, next, TokenKind.isKeyword]

theorem step_encodings {p : Place} (resting : p.Resting) {w : Word}
    (kind : w.kind = .keyword .encodings) : p.step w = some listSign := by
  cases p <;> simp_all [Resting, step, freeStep, TokenKind.isKeyword]

theorem step_closeBrace {p : Place} (resting : p.Resting) {w : Word} (kind : w.kind = .closeBrace) :
    p.step w = some (free (numbered w)) := by
  cases p <;> simp_all [Resting, step, freeStep, TokenKind.isComparison]

/-- A place behind a name, to which an equal sign assigns something. -/
def Named (p : Place) : Prop := ∀ w : Word, w.kind = .equal → p.step w = some assigned

theorem step_identifier {p : Place} (resting : p.Resting) {w : Word} (kind : w.kind = .identifier) :
    ∃ q, p.step w = some q ∧ q.Named := by
  have next (compared : Bool) : freeStep compared w = some (free (numbered w)) := by
    simp [freeStep, kind, TokenKind.isComparison]
  have assigns (compared : Bool) {v : Word} (equal : v.kind = .equal) :
      freeStep compared v = some assigned := by
    simp [freeStep, equal]
  cases p with
  | free compared => exact ⟨_, next compared, fun v equal => assigns _ equal⟩
  | defined => exact ⟨naming, by simp [step, kind], fun v equal => by simp [step, equal]⟩
  | listed =>
    exact ⟨free (numbered w), by simp [step, kind, next], fun v equal => assigns _ equal⟩
  | _ => nomatch resting

end Place

/-! ## What readers take -/

namespace ReaderState

/-- The tokens that come before the next declaration, and the one behind them. -/
def ahead (s : ReaderState) : List Token :=
  s.unread.takeWhile (fun t => t.kind ≠ .keyword .rule) ++ [s.toRule.peek]

/-- From `s` to `t` tokens were taken whose words lead from `p` to `q`. -/
def Path (s : ReaderState) (p : Place) (t : ReaderState) (q : Place) : Prop :=
  ∃ taken : List Token, s.unread = taken ++ t.unread ∧ t.index = s.index + taken.length ∧
    t.finish = s.finish ∧ t.nesting = s.nesting ∧ p.walk (taken.map Token.word) = some q

theorem Path.refl (s : ReaderState) (p : Place) : s.Path p s p := ⟨[], by simp, by simp, rfl, rfl, rfl⟩

theorem Path.trans {s t u : ReaderState} {p q r : Place} (first : s.Path p t q)
    (second : t.Path q u r) : s.Path p u r := by
  obtain ⟨a, unread, index, finish, nesting, walk⟩ := first
  obtain ⟨b, unread', index', finish', nesting', walk'⟩ := second
  refine ⟨a ++ b, ?_, ?_, finish'.trans finish, nesting'.trans nesting, ?_⟩
  · rw [unread, unread', List.append_assoc]
  · rw [index', index, List.length_append, Nat.add_assoc]
  · rw [List.map_append, Place.walk_append walk, walk']

/-- No place lets a rule start. -/
theorem not_rule_of_walk {p q : Place} {ws : List Word} (walk : p.walk ws = some q) :
    ∀ w ∈ ws, w.kind ≠ .keyword .rule := by
  induction ws generalizing p with
  | nil => simp
  | cons w ws ih =>
    rw [Place.walk, List.foldlM_cons] at walk
    obtain ⟨next, stepped, walk⟩ := Option.bind_eq_some_iff.mp walk
    refine List.forall_mem_cons.mpr ⟨fun starts => ?_, ih walk⟩
    rw [Place.step_rule p starts] at stepped
    nomatch stepped

theorem ahead_append {s t : ReaderState} {taken : List Token} (unread : s.unread = taken ++ t.unread)
    (finish : t.finish = s.finish) (others : ∀ x ∈ taken, x.kind ≠ .keyword .rule) :
    s.ahead = taken ++ t.ahead := by
  have passed : s.unread.takeWhile (fun x => x.kind ≠ .keyword .rule) =
      taken ++ t.unread.takeWhile (fun x => x.kind ≠ .keyword .rule) := by
    rw [unread, List.takeWhile_append_of_pos fun x member => by simpa using others x member]
  rw [ahead, ahead, toRule, toRule, passed]
  simp [peek, unread, finish]

theorem Path.ahead {s t : ReaderState} {p q : Place} (path : s.Path p t q) :
    ∀ x ∈ t.ahead, x ∈ s.ahead := by
  obtain ⟨taken, unread, _, finish, _, walk⟩ := path
  rw [ahead_append unread finish fun x member =>
    not_rule_of_walk walk x.word (List.mem_map_of_mem member)]
  exact fun x member => List.mem_append_right _ member

theorem peek_mem_ahead (s : ReaderState) : s.peek ∈ s.ahead := by
  rcases s with ⟨index, unread, finish, nesting, declared⟩
  cases unread with
  | nil => simp [ReaderState.ahead, toRule, ReaderState.peek]
  | cons t rest =>
    by_cases starts : t.kind = .keyword .rule <;>
      simp [ReaderState.ahead, toRule, ReaderState.peek, starts]

/-- Nothing but tokens of `L` can be seen from the state. -/
structure Within (s : ReaderState) (L : List Token) : Prop where
  ends : s.finish.kind = .endOfFile
  ahead : ∀ x ∈ s.ahead, x ∈ L

theorem Within.peek {s : ReaderState} {L : List Token} (within : s.Within L) : s.peek ∈ L :=
  within.ahead _ s.peek_mem_ahead

theorem Within.path {s t : ReaderState} {L : List Token} {p q : Place} (within : s.Within L)
    (path : s.Path p t q) : t.Within L where
  ends := by
    obtain ⟨_, _, _, finish, _⟩ := path
    rw [finish, within.ends]
  ahead x member := within.ahead x (path.ahead x member)

theorem path_skip {s : ReaderState} {L : List Token} {p q : Place} (within : s.Within L)
    (step : p.step s.peek.word = some q) : s.Path p s.skip q := by
  rcases s with ⟨index, unread, finish, nesting, declared⟩
  cases unread with
  | nil =>
    rw [ReaderState.peek, List.headD_nil, Place.step_endOfFile p within.ends] at step
    nomatch step
  | cons t rest =>
    change p.step t.word = some q at step
    exact ⟨[t], rfl, rfl, rfl, rfl, by simpa [Place.walk] using step⟩

end ReaderState

namespace Reader
variable {α β σ : Type} {L : List Token} {p : Place}

/-- From place `p` the reader takes tokens along places, to one as `post` says if it gives something.
If it fails, it says so of a token it has seen. -/
def Takes (L : List Token) (p : Place) (r : Reader α) (post : α → Place → Prop) : Prop :=
  ∀ s : ReaderState, s.Within L → r.Runs s (fun a t => ∃ q, s.Path p t q ∧ post a q)
    (fun e t => (∃ q, s.Path p t q) ∧ ∃ x ∈ L, e.position = x.position)

section Takes
variable {r : Reader α} {f : α → Reader β} {post : β → Place → Prop}

theorem takes_pure {post : α → Place → Prop} {a : α} (holds : post a p) :
    (pure a : Reader α).Takes L p post :=
  fun s _ => ⟨p, .refl s p, holds⟩

theorem takes_fail {post : α → Place → Prop} {x : Token} (seen : x ∈ L) (fault : ParseFault) :
    (fail fault x.position : Reader α).Takes L p post :=
  fun s _ => ⟨⟨p, .refl s p⟩, x, seen, rfl⟩

theorem Takes.bind {m : α → Place → Prop} (first : r.Takes L p m)
    (next : ∀ a q, m a q → (f a).Takes L q post) : (r >>= f).Takes L p post := by
  intro s within
  refine runs_bind.mpr ((first s within).mono ?_ fun e t failed => failed)
  rintro a t ⟨q, path, holds⟩
  refine (next a q holds t (within.path path)).mono ?_ ?_
  · rintro b u ⟨r, more, holds⟩
    exact ⟨r, path.trans more, holds⟩
  · rintro e u ⟨⟨r, more⟩, seen⟩
    exact ⟨⟨r, path.trans more⟩, seen⟩

theorem Takes.mono {weaker stronger : α → Place → Prop} (takes : r.Takes L p stronger)
    (weaken : ∀ a q, stronger a q → weaker a q) : r.Takes L p weaker := by
  intro s within
  refine (takes s within).mono ?_ fun e t failed => failed
  rintro a t ⟨q, path, holds⟩
  exact ⟨q, path, weaken a q holds⟩

theorem Takes.map {g : α → β} (takes : r.Takes L p fun a q => post (g a) q) :
    (g <$> r).Takes L p post := by
  rw [map_eq_pure_bind]
  exact takes.bind fun a q holds => takes_pure holds

theorem Takes.discard {post : Place → Prop} (takes : r.Takes L p fun _ q => post q) :
    (discard r).Takes L p fun _ q => post q :=
  takes.map

theorem takes_peek_bind {f : Token → Reader β} (next : ∀ x ∈ L, (f x).Takes L p post) :
    (peek >>= f).Takes L p post :=
  fun s within => runs_bind.mpr (next _ within.peek s within)

theorem takes_get_bind {f : ReaderState → Reader β} (next : ∀ s, (f s).Takes L p post) :
    (get >>= f).Takes L p post :=
  fun s within => runs_bind.mpr (next s s within)

/-- What a reader takes behind the next token. -/
theorem Takes.skip {q : Place} {s : ReaderState} {post' : α → Place → Prop} (takes : r.Takes L q post')
    (within : s.Within L) (step : p.step s.peek.word = some q) :
    r.Runs s.skip (fun a t => ∃ q, s.Path p t q ∧ post' a q)
      (fun e t => (∃ q, s.Path p t q) ∧ ∃ x ∈ L, e.position = x.position) := by
  have path := ReaderState.path_skip within step
  refine (takes s.skip (within.path path)).mono ?_ ?_
  · rintro a t ⟨r, more, holds⟩
    exact ⟨r, path.trans more, holds⟩
  · rintro e t ⟨⟨r, more⟩, seen⟩
    exact ⟨⟨r, path.trans more⟩, seen⟩

/-- A reader that looks at the next token and either takes it or leaves it. -/
theorem takes_choice {f : Token → Reader β} (each : ∀ x ∈ L, (f x).Takes L p post ∨
      ∃ q g, p.step x.word = some q ∧ f x = (discard advance >>= fun _ => g) ∧ g.Takes L q post) :
    (peek >>= f).Takes L p post := by
  intro s within
  refine runs_bind.mpr ?_
  change (f s.peek).Runs s _ _
  rcases each _ within.peek with left | ⟨q, g, step, taken, takes⟩
  · exact left s within
  · rw [taken]
    exact runs_bind.mpr (takes.skip within step)

theorem takes_expectAny {kinds : List TokenKind} {what : String} {post : Token → Place → Prop}
    (next : ∀ x ∈ L, x.kind ∈ kinds → ∃ q, p.step x.word = some q ∧ post x q) :
    (expectAny kinds what).Takes L p post := by
  intro s within
  refine runs_bind.mpr ?_
  change Runs (if kinds.contains s.peek.kind then advance
    else fail (.expected what) s.peek.position) s _ _
  split
  · rename_i fits
    obtain ⟨q, step, holds⟩ := next _ within.peek (List.contains_iff_mem.mp fits)
    exact ⟨q, ReaderState.path_skip within step, holds⟩
  · exact takes_fail within.peek _ s within

theorem takes_expect {kind : TokenKind} {what : String} {post : Token → Place → Prop}
    (next : ∀ x ∈ L, x.kind = kind → ∃ q, p.step x.word = some q ∧ post x q) :
    (expect kind what).Takes L p post :=
  takes_expectAny fun x seen fits => next x seen (List.mem_singleton.mp fits)

/-- Taking the next token when it is of a kind. -/
theorem takes_accept? {kind : TokenKind} {post : Option Token → Place → Prop}
    (next : ∀ x ∈ L, x.kind = kind → ∃ q, p.step x.word = some q ∧ post (some x) q)
    (other : post none p) : (accept? kind).Takes L p post := by
  intro s within
  refine runs_bind.mpr ?_
  change Runs (if decide (s.peek.kind = kind) then some <$> advance else pure none) s _ _
  split
  · rename_i fits
    obtain ⟨q, step, holds⟩ := next _ within.peek (of_decide_eq_true fits)
    exact ⟨q, ReaderState.path_skip within step, holds⟩
  · exact takes_pure other s within

theorem takes_accept {kind : TokenKind} {post : Bool → Place → Prop}
    (next : ∀ x ∈ L, x.kind = kind → ∃ q, p.step x.word = some q ∧ post true q)
    (other : post false p) : (accept kind).Takes L p post := by
  have taken : (accept? kind).Takes L p fun t q => post t.isSome q := takes_accept? next other
  exact taken.bind fun t q holds => takes_pure holds

theorem takes_isNext_bind {kind : TokenKind} {f : Bool → Reader β}
    (next : ∀ b, (f b).Takes L p post) : (isNext kind >>= f).Takes L p post := by
  intro s within
  exact runs_bind.mpr (next _ s within)

theorem takes_fail_bind {x : Token} {f : α → Reader β} (seen : x ∈ L) (fault : ParseFault) :
    (fail fault x.position >>= f).Takes L p post :=
  fun s _ => ⟨⟨p, .refl s p⟩, x, seen, rfl⟩

theorem takes_unless {fault : ParseFault} {x : Token} {bad : Prop} [Decidable bad]
    {f : PUnit → Reader β} (seen : x ∈ L) (next : (f ⟨⟩).Takes L p post) :
    (if bad then fail fault x.position >>= f else f ⟨⟩).Takes L p post := by
  split
  · exact takes_fail_bind seen fault
  · exact next

theorem takes_iterate {step : σ → Reader (Option σ)} {holds : σ → Place → Prop}
    (keeps : ∀ a q, holds a q → (step a).Takes L q fun next r =>
      match next with
      | some b => holds b r
      | none => holds a r)
    (fuel : Nat) {a : σ} (start : holds a p) : (iterate step fuel a).Takes L p holds := by
  induction fuel generalizing a p with
  | zero => exact takes_pure start
  | succ fuel ih =>
    refine (keeps a p start).bind fun next q kept => ?_
    cases next with
    | none => exact takes_pure kept
    | some b => exact ih kept

/-- A property of what was put together so far and of the place is kept by each step. -/
theorem takes_repeatStep {step : σ → Reader (Option σ)} (holds : σ → Place → Prop)
    (keeps : ∀ a q, holds a q → (step a).Takes L q fun next r =>
      match next with
      | some b => holds b r
      | none => holds a r)
    {a : σ} (start : holds a p) : (repeatStep step a).Takes L p holds :=
  takes_get_bind fun _ => takes_iterate keeps _ start

/-- One item, and another one behind each comma. -/
theorem takes_commaSeparated {item : σ → Reader σ} (before holds : σ → Place → Prop)
    (each : ∀ a q, before a q → (item a).Takes L q holds)
    (comma : ∀ x ∈ L, x.kind = .comma → ∀ a q, holds a q →
      ∃ r, q.step x.word = some r ∧ before a r)
    {a : σ} (start : before a p) : (commaSeparated item a).Takes L p holds := by
  refine (each a p start).bind fun b q done => takes_repeatStep holds (fun c r kept => ?_) done
  have goes : (accept .comma).Takes L r fun t q => if t then before c q else holds c q :=
    takes_accept (fun x seen kind => comma x seen kind c r kept) kept
  refine goes.bind fun t q next => ?_
  cases t with
  | true => exact Takes.map (g := some) (each c q next)
  | false => exact takes_pure next

theorem Takes.nested {post : α → Place → Prop} (takes : r.Takes L p post) :
    (nested r).Takes L p post := by
  intro s within
  have deeper : ReaderState.Within { s with nesting := s.nesting + 1 } L := ⟨within.ends, within.ahead⟩
  have back {t : ReaderState} {q : Place}
      (path : ReaderState.Path { s with nesting := s.nesting + 1 } p t q) :
      s.Path p { t with nesting := t.nesting - 1 } q := by
    obtain ⟨taken, unread, index, finish, nesting, walk⟩ := path
    exact ⟨taken, unread, index, finish, by simp [nesting], walk⟩
  refine runs_nested.mpr ((takes _ deeper).mono ?_ ?_)
  · rintro a t ⟨q, path, holds⟩
    exact ⟨q, back path, holds⟩
  · rintro e t ⟨⟨q, path⟩, seen⟩
    exact ⟨⟨q, back path⟩, seen⟩

end Takes

/-! ## The readers of declarations -/

theorem takes_heading {k : Keyword} (notRule : k ≠ .rule) (notList : k ≠ .encodings)
    (resting : p.Resting) : (heading k).Takes L p fun _ q => q.Free := by
  have keyword : (expectKeyword k).Takes L p fun _ q => q.Free := takes_expect fun x _ kind =>
    ⟨_, Place.step_keyword resting kind notRule notList, _, rfl⟩
  refine keyword.discard.bind fun _ q free => Takes.discard (takes_expect fun x _ kind => ?_)
  exact Place.step_free (w := x.word) free (by simp [kind, Place.Neutral, TokenKind.isComparison])

theorem takes_section? {k : Keyword} {r : Reader α} {P : α → Prop} (resting : p.Resting)
    (takes : r.Takes L p fun a q => P a ∧ q.Resting) :
    (section? k r).Takes L p fun found q => (∀ a, found = some a → P a) ∧ q.Resting := by
  refine takes_isNext_bind fun next => ?_
  split
  · refine Takes.map (takes.mono fun a q read => ⟨?_, read.2⟩)
    rintro _ ⟨⟩
    exact read.1
  · exact takes_pure ⟨by simp, resting⟩

theorem takes_quotedText {q : Place} (text : ∀ w : Word, w.kind = .string → p.step w = some q) :
    quotedText.Takes L p fun _ r => r = q := by
  have string : (expect .string "double quoted string").Takes L p fun _ r => r = q :=
    takes_expect fun x _ kind => ⟨q, text x.word kind, rfl⟩
  exact string.bind fun _ _ same => takes_pure same

theorem takes_name (resting : p.Resting) :
    (accept? .identifier).Takes L p fun t q =>
      match t with
      | some x => x ∈ L ∧ q.Named
      | none => q.Resting := by
  refine takes_accept? (fun x seen kind => ?_) resting
  obtain ⟨q, step, named⟩ := Place.step_identifier (w := x.word) resting kind
  exact ⟨q, step, seen, named⟩

theorem takes_equal {what : String} (named : p.Named) :
    (expect .equal what).Takes L p fun _ q => q = .assigned :=
  takes_expect fun x _ kind => ⟨_, named x.word kind, rfl⟩

theorem takes_metaSection (resting : p.Resting) : metaSection.Takes L p fun _ q => q.Resting := by
  refine (takes_heading (by simp) (by simp) resting).bind fun _ q free => ?_
  refine takes_repeatStep (fun _ q => q.Resting) (fun fields q resting => ?_) free.resting
  refine (takes_name resting).bind fun name q next => ?_
  cases name with
  | none => exact takes_pure next
  | some x =>
    refine (takes_equal next.2).discard.bind fun _ r same => ?_
    subst same
    have text : quotedText.Takes L .assigned fun _ q => q = .defined :=
      takes_quotedText fun w kind => by simp [Place.step, kind]
    exact text.bind fun _ r same => takes_pure (same ▸ trivial)

/-! ### Digests -/

/-- Keywords are spelled as they should be. -/
def KeywordsSpelled (L : List Token) : Prop := ∀ x ∈ L, ∀ k, x.kind = .keyword k → x.text = k.spelling

theorem takes_hashRecord (spelled : KeywordsSpelled L) (resting : p.Resting) :
    hashRecord.Takes L p fun _ q => q.Free := by
  refine takes_commaSeparated (fun _ q => q.Resting) _ ?item ?comma resting
  case item =>
    intro record q resting
    refine takes_choice fun x seen => ?_
    cases algorithm : HashAlgorithm.ofToken? x.kind with
    | none => exact .inl (takes_fail seen _)
    | some a =>
      have keyword : ∃ k, x.kind = .keyword k ∧ k ≠ .rule ∧ k ≠ .encodings ∧
          k.spelling ≠ "filesize" := by
        unfold HashAlgorithm.ofToken? at algorithm
        split at algorithm <;> simp_all [Keyword.spelling]
      obtain ⟨k, kind, notRule, notList, notSize⟩ := keyword
      have compared : Place.numbered x.word = false := by
        simp [Place.numbered, kind, spelled x seen k kind, notSize]
      have sign : (expect .equalEqual "equal sign").Takes L (.free false) fun _ q => q = .text :=
        takes_expect fun y _ kind =>
          ⟨_, by simp [Place.step, Place.freeStep, kind, TokenKind.isComparison], rfl⟩
      have text : quotedText.Takes L .text fun _ q => q = .free false :=
        takes_quotedText fun w kind => by simp [Place.step, kind]
      refine .inr ⟨_, _, Place.step_keyword resting kind notRule notList, rfl, ?_⟩
      rw [compared]
      refine sign.discard.bind fun _ r same => ?_
      subst same
      refine text.bind fun digest r same => ?_
      subst same
      exact takes_unless seen (takes_pure ⟨_, rfl⟩)
  case comma =>
    intro x _ kind record q free
    obtain ⟨r, step, free⟩ := Place.step_free (w := x.word) free
      (by simp [kind, Place.Neutral, TokenKind.isComparison])
    exact ⟨r, step, free.resting⟩

theorem takes_hashSection (spelled : KeywordsSpelled L) (resting : p.Resting) :
    hashSection.Takes L p fun _ q => q.Resting := by
  refine (takes_heading (by simp) (by simp) resting).bind fun _ q free => ?_
  refine (takes_repeatStep (fun _ q => q.Free) (fun records q free => ?_) free).bind
    fun records q free => ?_
  · refine takes_peek_bind fun x _ => ?_
    split
    · exact (takes_hashRecord spelled free.resting).bind fun record q free => takes_pure free
    · exact takes_pure free
  · dsimp only
    split
    · exact takes_peek_bind fun x seen => takes_fail_bind seen _
    · exact takes_pure free.resting

/-! ### Patterns -/

theorem takes_checkCompiles {x : Token} (seen : x ∈ L) (d : PatternDef) :
    (checkCompiles x.position d).Takes L p fun _ q => q = p := by
  unfold checkCompiles
  split
  · exact takes_pure rfl
  · exact takes_fail seen _

theorem takes_forM {f : σ → Reader PUnit} (each : ∀ a, (f a).Takes L p fun _ q => q = p)
    (as : List σ) : (as.forM f).Takes L p fun _ q => q = p := by
  induction as with
  | nil => exact takes_pure rfl
  | cons a as ih => exact (each a).bind fun _ q same => same ▸ ih

theorem takes_encodings : encodings.Takes L .listSign fun _ q => q = .listed := by
  have sign : (expect .equal "equal sign after encodings keyword").Takes L .listSign
      fun _ q => q = .listName :=
    takes_expect fun x _ kind => ⟨_, by simp [Place.step, kind], rfl⟩
  refine sign.discard.bind fun _ q same => ?_
  subst same
  refine takes_commaSeparated (fun _ q => q = .listName) _ ?item ?comma rfl
  case item =>
    rintro names _ rfl
    have name : (expect .identifier "encoding").Takes L .listName fun x q => x ∈ L ∧ q = .listed :=
      takes_expect fun x seen kind => ⟨_, by simp [Place.step, kind], seen, rfl⟩
    refine name.bind fun x q read => ?_
    obtain ⟨seen, rfl⟩ := read
    exact takes_unless seen (takes_pure rfl)
  case comma =>
    rintro x _ kind names _ rfl
    exact ⟨_, by simp [Place.step, kind], rfl⟩

theorem takes_modifiers (resting : p.Resting) : modifiers.Takes L p fun _ q => q.Resting := by
  have keyword {k : Keyword} {q : Place} (notRule : k ≠ .rule) (notList : k ≠ .encodings)
      (resting : q.Resting) : (accept (.keyword k)).Takes L q fun _ r => r.Resting :=
    takes_accept (fun x _ kind => ⟨_, Place.step_keyword resting kind notRule notList, trivial⟩)
      resting
  refine takes_repeatStep _ (fun m q resting => ?_) resting
  refine (keyword (by simp) (by simp) resting).bind fun nocase q resting => ?_
  split
  · exact takes_pure resting
  refine (keyword (by simp) (by simp) resting).bind fun fixed q resting => ?_
  split
  · exact takes_pure resting
  have list : (accept (.keyword .encodings)).Takes L q fun b r =>
      if b then r = .listSign else r.Resting :=
    takes_accept (fun x _ kind => ⟨_, Place.step_encodings resting kind, rfl⟩) resting
  refine list.bind fun b q next => ?_
  cases b with
  | false => exact takes_pure next
  | true =>
    obtain rfl : q = .listSign := next
    exact takes_encodings.bind fun names q same => takes_pure (same ▸ trivial)

theorem takes_textPattern {x : Token} (seen : x ∈ L) (resting : p.Resting) :
    (textPattern x).Takes L p fun _ q => q.Resting := by
  refine (takes_modifiers resting).bind fun m q resting => ?_
  refine (takes_forM (fun d => takes_checkCompiles seen d) _).bind fun _ r same => ?_
  exact takes_pure (same ▸ resting)

theorem takes_hexString : hexString.Takes L .digits fun _ q => q.Free := by
  have digit {q : Place} (inside : q = .digits ∨ q = .moreDigits) :
      (expectAny [.identifier, .number] "hex digit").Takes L q fun _ r => r = .moreDigits := by
    refine takes_expectAny fun x _ kind => ⟨.moreDigits, ?_, rfl⟩
    rcases inside with rfl | rfl <;> simp_all [Place.step]
  refine (takes_repeatStep (fun digits q => digits = [] ∧ q = .digits ∨ q = .moreDigits) ?step
    (.inl ⟨rfl, rfl⟩)).bind fun digits q read => ?rest
  case step =>
    intro digits q read
    refine takes_peek_bind fun x seen => ?_
    split
    · exact takes_pure read
    · refine (digit (read.imp_left And.right)).discard.bind fun _ r same => ?_
      exact takes_unless seen (takes_pure (.inr same))
  case rest =>
    refine takes_peek_bind fun x seen => takes_unless seen (takes_unless seen ?_)
    dsimp only
    split
    · exact takes_fail_bind seen _
    · rename_i some
      have inside : q = .moreDigits := read.resolve_left fun none => some (by simp [none.1])
      subst inside
      have brace : (expect .closeBrace "close brace").Takes L .moreDigits fun _ q => q.Free :=
        takes_expect fun x _ kind => ⟨.free false, by simp [Place.step, kind], _, rfl⟩
      exact brace.discard.bind fun _ q free => takes_pure free

theorem takes_hexPattern {x : Token} (seen : x ∈ L) :
    (hexPattern x).Takes L .digits fun _ q => q.Resting := by
  refine takes_hexString.bind fun text q free => ?_
  exact (takes_checkCompiles seen _).bind fun _ r same => takes_pure (same ▸ free.resting)

theorem takes_patternDefinition (named : p.Named) :
    patternDefinition.Takes L p fun _ q => q.Resting := by
  refine (takes_equal named).discard.bind fun _ q same => ?_
  subst same
  have string : (accept? .string).Takes L .assigned fun t q =>
      match t with
      | some x => x ∈ L ∧ q = .defined
      | none => q = .assigned :=
    takes_accept? (fun x seen kind => ⟨_, by simp [Place.step, kind], seen, rfl⟩) rfl
  refine string.bind fun text q next => ?_
  cases text with
  | some x =>
    obtain ⟨seen, rfl⟩ := next
    exact takes_textPattern seen trivial
  | none =>
    obtain rfl : q = .assigned := next
    have brace : (accept? .openBrace).Takes L .assigned fun t q =>
        match t with
        | some x => x ∈ L ∧ q = .digits
        | none => True :=
      takes_accept? (fun x seen kind => ⟨_, by simp [Place.step, kind], seen, rfl⟩) trivial
    refine brace.bind fun brace q next => ?_
    cases brace with
    | some x =>
      obtain ⟨seen, rfl⟩ := next
      exact takes_hexPattern seen
    | none => exact takes_peek_bind fun x seen => takes_fail seen _

theorem takes_declare (name : String) : (declare name).Takes L p fun _ q => q = p := by
  intro s within
  exact ⟨p, ⟨[], rfl, rfl, rfl, rfl, rfl⟩, rfl⟩

theorem takes_patternsSection (resting : p.Resting) :
    patternsSection.Takes L p fun _ q => q.Resting := by
  refine (takes_heading (by simp) (by simp) resting).bind fun _ q free => ?_
  refine (takes_repeatStep (fun _ q => q.Resting) ?step free.resting).bind
    fun patterns q resting => ?rest
  case step =>
    intro patterns q resting
    refine (takes_name resting).bind fun name q next => ?_
    cases name with
    | none => exact takes_pure next
    | some x =>
      refine (takes_patternDefinition next.2).bind fun defs r resting => ?_
      exact takes_unless next.1
        ((takes_declare x.text).bind fun _ u same => takes_pure (same ▸ resting))
  case rest =>
    dsimp only
    split
    · exact takes_peek_bind fun x seen => takes_fail_bind seen _
    · exact takes_pure resting

/-! ### Predicates -/

theorem isComparison_of_ofToken? {kind : TokenKind} {op : CompareOp}
    (sign : CompareOp.ofToken? kind = some op) : kind.isComparison := by
  unfold CompareOp.ofToken? at sign
  split at sign <;> simp_all [TokenKind.isComparison]

theorem takes_operator {compared : Bool} : operator.Takes L (.free compared) fun _ q =>
    q = if compared then .number else .text := by
  refine takes_choice fun x seen => ?_
  cases sign : CompareOp.ofToken? x.kind with
  | none => exact .inl (takes_fail seen _)
  | some op =>
    refine .inr ⟨_, _, ?_, rfl, takes_pure rfl⟩
    have comparison := isComparison_of_ofToken? sign
    simp only [Place.step, Place.freeStep, Token.word_kind]
    split <;> simp_all [TokenKind.isComparison]

theorem takes_number : number.Takes L .number fun _ q => q.Free := by
  have digits : (expect .number "number").Takes L .number fun x q => x ∈ L ∧ q = .free false :=
    takes_expect fun x seen kind => ⟨_, by simp [Place.step, kind], seen, rfl⟩
  refine digits.bind fun x q read => ?_
  obtain ⟨seen, rfl⟩ := read
  unfold numberOf
  split
  · exact takes_pure ⟨_, rfl⟩
  · exact takes_fail seen _

theorem mem_properties {s : PropertySection} {name : String} {property : Property}
    (found : s.named? name = some property) : (name, property) ∈ s.properties := by
  obtain ⟨before, after, split, _⟩ := List.lookup_eq_some_iff.mp found
  rw [split]
  simp

/-- Numbers are the values of one property only. -/
theorem valueKind_named? {s : PropertySection} {name : String} {property : Property}
    (found : s.named? name = some property) :
    property.valueKind = if name = "filesize" then .number else .text := by
  have member := mem_properties found
  cases s <;> simp [PropertySection.properties] at member
  · rcases member with ⟨rfl, rfl⟩ | ⟨rfl, rfl⟩ | ⟨rfl, rfl⟩ | ⟨rfl, rfl⟩ | ⟨rfl, rfl⟩ <;> decide
  · rcases member with ⟨rfl, rfl⟩ | ⟨rfl, rfl⟩ <;> decide

theorem named?_rule (s : PropertySection) : s.named? "rule" = none := by
  cases s <;> decide

theorem named?_encodings (s : PropertySection) : s.named? "encodings" = none := by
  cases s <;> decide

/-- The name of a property leads on to a comparison with what its values are. -/
theorem step_property (spelled : KeywordsSpelled L) {s : PropertySection} {x : Token} (seen : x ∈ L)
    (isName : (decide (x.kind = .identifier) || x.kind.isKeyword) = true) {property : Property}
    (found : s.named? x.text = some property) (isFree : p.Free) :
    p.step x.word = some (.free (x.text == "filesize")) := by
  have neutral : Place.Neutral x.word.kind ∧ x.kind ≠ .closeParen := by
    rw [Token.word_kind]
    cases kind : x.kind with
    | identifier => exact ⟨rfl, by simp⟩
    | keyword k =>
      have text := spelled x seen k kind
      refine ⟨?_, by simp⟩
      cases k with
      | rule => simp [text, Keyword.spelling, named?_rule] at found
      | encodings => simp [text, Keyword.spelling, named?_encodings] at found
      | _ => rfl
    | _ => simp [kind, TokenKind.isKeyword] at isName
  obtain ⟨compared, rfl⟩ := isFree
  have compares : Place.numbered x.word = (x.text == "filesize") := by
    rw [Bool.eq_iff_iff, Place.numbered, Bool.or_eq_true, decide_eq_true_iff, decide_eq_true_iff,
      beq_iff_eq]
    exact or_iff_right neutral.2
  exact compares ▸ Place.freeStep_neutral neutral.1

/-- A text that the leaf compares to is that of a string among the tokens. -/
def QuotedIn (L : List Token) : Leaf → Prop
  | .property c => ∀ text, c.value = .text text → ∃ x ∈ L, x.kind = .string ∧ x.text = text
  | .call _ => True

theorem takes_comparison (spelled : KeywordsSpelled L) (s : PropertySection) (isFree : p.Free) :
    (comparison s).Takes L p fun l q => QuotedIn L l ∧ q.Free := by
  refine takes_choice fun x seen => ?_
  dsimp only
  cases found : if decide (x.kind = .identifier) || x.kind.isKeyword then s.named? x.text else none with
  | none => exact .inl (takes_fail seen _)
  | some property =>
    obtain ⟨isName, found⟩ := Option.ite_none_right_eq_some.mp found
    refine .inr ⟨_, _, step_property spelled seen isName found isFree, rfl, ?_⟩
    refine takes_peek_bind fun y sign => takes_operator.bind fun op q same => ?_
    subst same
    refine takes_unless sign ?_
    rw [valueKind_named? found]
    by_cases size : x.text = "filesize"
    · simp only [size, BEq.rfl, ↓reduceIte]
      exact takes_number.bind fun n q free => takes_pure ⟨by simp [QuotedIn], free⟩
    · simp only [beq_eq_false_iff_ne.mpr size, size, Bool.false_eq_true, ↓reduceIte]
      have text : (expect .string "double quoted string").Takes L .text
          fun y q => (y ∈ L ∧ y.kind = .string) ∧ q.Free :=
        takes_expect fun y seen kind => ⟨.free false, by simp [Place.step, kind], ⟨seen, kind⟩, _, rfl⟩
      refine text.bind fun y q read => takes_pure ⟨?_, read.2⟩
      rintro _ ⟨⟩
      exact ⟨y, read.1.1, read.1.2, rfl⟩

theorem takes_arguments (isFree : p.Free) : arguments.Takes L p fun ts q =>
    (∀ x ∈ ts, x ∈ L) ∧ q.Free := by
  refine takes_isNext_bind fun none => ?_
  split
  · exact takes_pure ⟨by simp, isFree⟩
  · refine takes_commaSeparated (fun ts q => (∀ x ∈ ts, x ∈ L) ∧ q.Free) _ ?item ?comma
      ⟨by simp, isFree⟩
    case item =>
      rintro ts q ⟨seen, free⟩
      have argument : (expectAny [.identifier, .number] "identifier or number").Takes L q
          fun x r => x ∈ L ∧ r.Free := by
        refine takes_expectAny fun x member kind => ?_
        obtain ⟨r, step, free⟩ := Place.step_free (w := x.word) free (by
          rcases List.mem_cons.mp kind with kind | kind
          · simp [kind, Place.Neutral, TokenKind.isComparison]
          · simp [List.mem_singleton.mp kind, Place.Neutral, TokenKind.isComparison])
        exact ⟨r, step, member, free⟩
      refine argument.bind fun x r read => takes_pure ⟨?_, read.2⟩
      exact List.forall_mem_append.mpr ⟨seen, by simpa using read.1⟩
    case comma =>
      rintro x _ kind ts q ⟨seen, free⟩
      obtain ⟨r, step, free⟩ := Place.step_free (w := x.word) free
        (by simp [kind, Place.Neutral, TokenKind.isComparison])
      exact ⟨r, step, seen, free⟩

theorem takes_numberOf {x : Token} (seen : x ∈ L) : (numberOf x).Takes L p fun _ q => q = p := by
  unfold numberOf
  split
  · exact takes_pure rfl
  · exact takes_fail seen _

theorem takes_readArguments (f : HitFunction) (declared : List String) (i : Nat) {ts : List Token}
    (seen : ∀ x ∈ ts, x ∈ L) : (readArguments f declared i ts).Takes L p fun _ q => q = p := by
  induction ts generalizing i with
  | nil => exact takes_pure rfl
  | cons x rest ih =>
    obtain ⟨first, others⟩ := List.forall_mem_cons.mp seen
    rw [readArguments]
    split
    · refine takes_unless first ((takes_numberOf first).bind fun n q same => ?_)
      subst same
      exact (ih (i + 1) others).bind fun names q same => takes_pure same
    · refine takes_unless first (takes_unless first ?_)
      exact (ih (i + 1) others).bind fun names q same => takes_pure same

theorem takes_call (isFree : p.Free) : call.Takes L p fun _ q => q.Free := by
  refine takes_choice fun x seen => ?_
  dsimp only
  cases function : HitFunction.ofToken? x.kind with
  | none => exact .inl (takes_fail seen _)
  | some f =>
    have neutral : Place.Neutral x.word.kind := by
      rw [Token.word_kind]
      unfold HitFunction.ofToken? at function
      split at function <;> simp_all [Place.Neutral, TokenKind.isComparison]
    obtain ⟨q, step, free⟩ := Place.step_free isFree neutral
    refine .inr ⟨q, _, step, rfl, ?_⟩
    have opening : (expect .openParen "open parenthesis").Takes L q fun _ r => r.Free :=
      takes_expect fun y _ kind => Place.step_free (w := y.word) free
        (by simp [kind, Place.Neutral, TokenKind.isComparison])
    refine opening.discard.bind fun _ q free => (takes_arguments free).bind fun ts q read => ?_
    have closing : (expect .closeParen "close parenthesis").Takes L q fun _ r => r = .free true :=
      takes_expect fun y _ kind => by
        obtain ⟨compared, rfl⟩ := read.2
        exact ⟨_, Place.freeStep_neutral (by simp [kind, Place.Neutral, TokenKind.isComparison]),
          by simp [Place.numbered, kind]⟩
    refine closing.discard.bind fun _ r same => takes_peek_bind fun sign _ => ?_
    subst same
    have rest (compared : Option (CompareOp × Nat)) {r : Place} (free : r.Free) :
        (shapedCall f x ts compared).Takes L r fun _ q => q.Free := by
      have read : (namedCall f ts compared).Takes L r fun _ q => q.Free :=
        takes_get_bind fun s => (takes_readArguments f s.declared 0 read.1).bind fun _ q same =>
          takes_pure (same ▸ free)
      unfold shapedCall
      refine takes_unless seen ?_
      dsimp only
      split
      · exact takes_peek_bind fun y seen => takes_fail_bind seen _
      · exact takes_unless seen read
    split
    · refine takes_operator.bind fun op r same => ?_
      subst same
      exact takes_number.bind fun n r free => rest (some (op, n)) free
    · exact rest none ⟨_, rfl⟩

section Predicates
variable {leaf : Reader Leaf} {inner item : Reader Predicate} {P : Leaf → Prop}

/-- A predicate with such leaves, behind which something else may come. -/
def Asks (P : Leaf → Prop) (f : Predicate) (q : Place) : Prop := (∀ l ∈ f.leaves, P l) ∧ q.Free

theorem takes_joined {k : Keyword} (notRule : k ≠ .rule) (notList : k ≠ .encodings)
    {join : Predicate → Predicate → Predicate} (leaves : ∀ l r, (join l r).leaves = l.leaves ++ r.leaves)
    (takes : ∀ p : Place, p.Free → item.Takes L p (Asks P)) (isFree : p.Free) :
    (joined k join item).Takes L p (Asks P) := by
  refine (takes p isFree).bind fun first q asks => ?_
  refine takes_repeatStep (Asks P) (fun left q asks => ?_) asks
  have word : (accept (.keyword k)).Takes L q fun _ q => q.Free :=
    takes_accept (fun x _ kind => ⟨_, Place.step_keyword asks.2.resting kind notRule notList, _, rfl⟩)
      asks.2
  refine word.bind fun more q free => ?_
  split
  · refine (takes q free).bind fun right q more => takes_pure ⟨?_, more.2⟩
    rw [leaves]
    exact List.forall_mem_append.mpr ⟨asks.1, more.1⟩
  · exact takes_pure ⟨asks.1, free⟩

theorem takes_factor (leaves : ∀ p : Place, p.Free → leaf.Takes L p fun l q => P l ∧ q.Free)
    (inners : ∀ p : Place, p.Free → inner.Takes L p (Asks P)) (isFree : p.Free) :
    (factor leaf inner).Takes L p (Asks P) := by
  have opening : (accept? .openParen).Takes L p fun t q =>
      match t with
      | some x => x ∈ L ∧ q.Free
      | none => q.Free := by
    refine takes_accept? (fun x seen kind => ?_) isFree
    obtain ⟨q, step, free⟩ := Place.step_free (w := x.word) isFree
      (by simp [kind, Place.Neutral, TokenKind.isComparison])
    exact ⟨q, step, seen, free⟩
  refine opening.bind fun paren q next => ?_
  cases paren with
  | none =>
    refine Takes.map ((leaves q next).mono fun l q read => ⟨?_, read.2⟩)
    exact List.forall_mem_singleton.mpr read.1
  | some x =>
    refine takes_get_bind fun s => takes_unless next.1 ?_
    refine (inners q next.2).nested.bind fun p q asks => ?_
    have closing : (expect .closeParen "close parenthesis").Takes L q fun _ q => q.Free :=
      takes_expect fun y _ kind => Place.step_free (w := y.word) asks.2
        (by simp [kind, Place.Neutral, TokenKind.isComparison])
    exact closing.discard.bind fun _ q free => takes_pure ⟨asks.1, free⟩

theorem takes_predicate (leaves : ∀ p : Place, p.Free → leaf.Takes L p fun l q => P l ∧ q.Free)
    (isFree : p.Free) : (predicate leaf).Takes L p (Asks P) := by
  have within (levels : Nat) : ∀ p : Place, p.Free →
      (predicateWithin leaf levels).Takes L p (Asks P) := by
    induction levels with
    | zero => exact fun p _ => takes_peek_bind fun x seen => takes_fail seen _
    | succ levels ih =>
      intro p isFree
      exact takes_joined (by simp) (by simp) (fun _ _ => rfl) (fun p isFree => takes_joined (by simp)
        (by simp) (fun _ _ => rfl) (fun p isFree => takes_factor leaves ih isFree) isFree) isFree
  exact within _ p isFree

end Predicates

/-! ### Rules -/

/-- The sections that compare properties. -/
theorem takes_properties (spelled : KeywordsSpelled L) {k : Keyword} (notRule : k ≠ .rule)
    (notList : k ≠ .encodings) (s : PropertySection) (resting : p.Resting) :
    (heading k >>= fun _ => predicate (comparison s)).Takes L p fun f q =>
      (∀ l ∈ f.leaves, QuotedIn L l) ∧ q.Resting := by
  refine (takes_heading notRule notList resting).bind fun _ q free => ?_
  exact (takes_predicate (fun p free => takes_comparison spelled _ free) free).mono
    fun _ q asks => ⟨asks.1, asks.2.resting⟩

theorem takes_fileMetadataSection (spelled : KeywordsSpelled L) (resting : p.Resting) :
    fileMetadataSection.Takes L p fun f q => (∀ l ∈ f.leaves, QuotedIn L l) ∧ q.Resting :=
  takes_properties spelled (by simp) (by simp) _ resting

theorem takes_signatureSection (spelled : KeywordsSpelled L) (resting : p.Resting) :
    signatureSection.Takes L p fun f q => (∀ l ∈ f.leaves, QuotedIn L l) ∧ q.Resting :=
  takes_properties spelled (by simp) (by simp) _ resting

theorem takes_grepSection (resting : p.Resting) : grepSection.Takes L p fun _ q => q.Resting := by
  refine (takes_heading (by simp) (by simp) resting).bind fun _ q free => ?_
  refine (takes_patternsSection free.resting).bind fun patterns q resting => ?_
  refine (takes_heading (by simp) (by simp) resting).bind fun _ q free => ?_
  refine (takes_predicate (P := fun _ => True) (fun p free => ?_) free).bind fun condition q asks =>
    takes_pure asks.2.resting
  exact (takes_call free).mono fun _ q free => ⟨trivial, free⟩

/-- What a rule is read with behind its keyword. -/
def declaration (start : ReaderState) : Reader Rule := do
  let name ← expect .identifier "rule name"
  discard <| expect .openBrace "open curly brace"
  let info ← section? .metaSection metaSection
  let hash ← section? .hash hashSection
  let fileMetadata ← section? .fileMetadata fileMetadataSection
  let signature ← section? .signature signatureSection
  let grep ← section? .grep grepSection
  discard <| expect .closeBrace "close curly brace"
  let stop ← get
  let taken := start.unread.take (stop.index - start.index)
  return {
    name := name.text, id := ruleId (taken.map (·.text)), info := info.getD SortedMap.empty,
    hash, fileMetadata, signature, grep, firstToken := start.index, lastToken := stop.index }

/-- At its keyword a rule is read from the tokens behind it, whatever was declared before. -/
theorem run_rule {s : ReaderState} (starts : s.peek.kind = .keyword .rule) :
    rule.run s = (declaration s).run { s with declared := [] }.skip := by
  have taken : (discard (expectKeyword .rule)).run { s with declared := [] } =
      (.ok ⟨⟩, { s with declared := [] }.skip) := run_discard (run_expect starts)
  change Reader.run (discard (expectKeyword .rule) >>= fun _ => declaration s)
    { s with declared := [] } = _
  rw [run_bind, taken]

/-- What the properties of the rule are compared to stands among the tokens. -/
def Quoting (L : List Token) (r : Rule) : Prop :=
  ∀ f, r.fileMetadata = some f ∨ r.signature = some f → ∀ l ∈ f.leaves, QuotedIn L l

theorem takes_declaration (spelled : KeywordsSpelled L) (start : ReaderState) :
    (declaration start).Takes L (.free false) fun r q => Quoting L r ∧ q.Free := by
  have name : (expect .identifier "rule name").Takes L (.free false) fun _ q => q.Free :=
    takes_expect fun x _ kind => Place.step_free (w := x.word) ⟨_, rfl⟩
      (by simp [kind, Place.Neutral, TokenKind.isComparison])
  refine name.bind fun _ q free => ?_
  have opening : (expect .openBrace "open curly brace").Takes L q fun _ q => q.Free :=
    takes_expect fun x _ kind => Place.step_free (w := x.word) free
      (by simp [kind, Place.Neutral, TokenKind.isComparison])
  refine opening.discard.bind fun _ q free => ?_
  have plain {α : Type} {k : Keyword} {r : Reader α} {p : Place} (resting : p.Resting)
      (takes : r.Takes L p fun _ q => q.Resting) : (section? k r).Takes L p fun _ q => q.Resting :=
    (takes_section? (P := fun _ => True) resting (takes.mono fun _ q rests => ⟨trivial, rests⟩)).mono
      fun _ q read => read.2
  refine (plain free.resting (takes_metaSection free.resting)).bind fun _ q resting => ?_
  refine (plain resting (takes_hashSection spelled resting)).bind fun _ q resting => ?_
  refine (takes_section? resting (takes_fileMetadataSection spelled resting)).bind fun _ q file => ?_
  refine (takes_section? file.2 (takes_signatureSection spelled file.2)).bind fun _ q signature => ?_
  refine (plain signature.2 (takes_grepSection signature.2)).bind fun _ q resting => ?_
  have closing : (expect .closeBrace "close curly brace").Takes L q fun _ q => q.Free :=
    takes_expect fun x _ kind => ⟨_, Place.step_closeBrace (w := x.word) resting kind, _, rfl⟩
  refine closing.discard.bind fun _ q free => takes_get_bind fun stop => takes_pure ⟨?_, free⟩
  exact fun f read => read.elim (file.1 f) (signature.1 f)

/-- A rule says which tokens it was read from. -/
theorem runs_declaration (start s : ReaderState) : (declaration start).Runs s
    (fun r t => r.firstToken = start.index ∧ r.lastToken = t.index ∧
      r.id = ruleId ((start.unread.take (t.index - start.index)).map (·.text)))
    fun _ _ => True := by
  iterate 8 refine Runs.of_rest (fun _ t => ?_) fun _ _ => trivial
  exact ⟨rfl, rfl, rfl⟩

end Reader
end Triage
