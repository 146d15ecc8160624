import Triage.Proofs.Rule.Shape

/-! The kinds of a declaration's words. A word's text tells its kind but for strings and names of
encodings, and the words before these tell that one of them comes. So the texts alone tell the words. -/

namespace Triage
open Lexer

/-- The kinds whose words all have the same text. -/
def TokenKind.literals : List TokenKind :=
  [.openBrace, .closeBrace, .openParen, .closeParen, .comma, .colon, .equal, .equalEqual, .notEqual,
    .less, .lessEqual, .greater, .greaterEqual] ++ Keyword.every.map .keyword

/-- The kind that a text has where neither a string nor the name of an encoding comes. -/
def plainKind (text : String) : TokenKind :=
  match TokenKind.literals.find? (·.literal == text) with
  | some kind => kind
  | none => if text.toList.all isDigit then .number else .identifier

theorem plainKind_literal {kind : TokenKind} (literal : kind ∈ TokenKind.literals) :
    plainKind kind.literal = kind := by
  revert kind
  decide

theorem head_literal {kind : TokenKind} (literal : kind ∈ TokenKind.literals) :
    (kind.literal.toList.head?.all fun c => !isDigit c) ∧
      (kind.isKeyword ∨ kind.literal.toList.head?.all fun c => !startsIdentifier c) := by
  revert kind
  decide

theorem plainKind_number {text : String} (some : text.toList ≠ []) (digits : text.toList.all isDigit) :
    plainKind text = .number := by
  have none : TokenKind.literals.find? (·.literal == text) = none := by
    refine List.find?_eq_none.mpr fun kind member same => ?_
    obtain ⟨c, rest, split⟩ := List.exists_cons_of_ne_nil some
    have head := (head_literal member).1
    rw [beq_iff_eq.mp same, split] at head
    rw [split] at digits
    simp_all
  rw [plainKind, none]
  simp [digits]

theorem plainKind_identifier {text : String} (identifier : Identifier text.toList) :
    plainKind text = .identifier := by
  obtain ⟨c, rest, split, starts⟩ := identifier.starts
  have none : TokenKind.literals.find? (·.literal == text) = none := by
    refine List.find?_eq_none.mpr fun kind member same => ?_
    obtain rfl := beq_iff_eq.mp same
    rcases (head_literal member).2 with keyword | other
    · cases kind with
      | keyword k =>
        have free := identifier.free
        rw [String.ofList_toList] at free
        exact List.find?_eq_none.mp free k (by cases k <;> decide) (beq_self_eq_true _)
      | _ => simp [TokenKind.isKeyword] at keyword
    · rw [split] at other
      simp_all
  have notDigit : isDigit c = false := by
    rw [Bool.eq_false_iff]
    rw [startsIdentifier_iff] at starts
    intro digit
    rw [isDigit_iff] at digit
    omega
  rw [plainKind, none]
  simp [split, notDigit]

theorem plainKind_of_spelled {w : Word} {m : Stretch} (spelled : w.Spelled m) (plain : m ≠ .name)
    (other : w.kind ≠ .string) : plainKind w.text = w.kind := by
  obtain ⟨kind, text⟩ := w
  cases kind with
  | identifier => exact plainKind_identifier (by simpa [Word.Spelled, plain] using spelled)
  | number => exact plainKind_number spelled.1 spelled.2
  | string => exact absurd rfl other
  | endOfFile => exact spelled.elim
  | keyword k =>
    have literal : text = TokenKind.literal (.keyword k) := spelled
    exact (congrArg plainKind literal).trans (plainKind_literal (by cases k <;> decide))
  | _ =>
    have literal : text = TokenKind.literal _ := spelled
    exact (congrArg plainKind literal).trans (plainKind_literal (by simp [TokenKind.literals]))

namespace Place

/-- The stretch that the words before a place lead to. -/
def stretch : Place → Stretch
  | listSign => .equal
  | listName => .name
  | listed => .named
  | _ => .plain

theorem stretch_freeStep {compared : Bool} {q : Place} {w : Word} (step : freeStep compared w = some q) :
    Stretch.plain.after w.kind = q.stretch := by
  rw [after_plain]
  unfold freeStep at step
  split at step
  · nomatch step
  · nomatch step
  · nomatch step
  · rename_i encodings
    obtain rfl := Option.some.inj step
    rw [if_pos encodings]
    rfl
  · rename_i equal
    obtain rfl := Option.some.inj step
    rw [if_neg (by simp [equal])]
    rfl
  · rename_i other _
    rw [if_neg other]
    split at step <;> obtain rfl := Option.some.inj step
    · cases compared <;> rfl
    · rfl

theorem stretch_step {p q : Place} {w : Word} (step : p.step w = some q) :
    p.stretch.after w.kind = q.stretch := by
  cases p with
  | free compared => exact stretch_freeStep step
  | defined =>
    simp only [Place.step] at step
    split at step
    · rename_i identifier
      obtain rfl := Option.some.inj step
      rw [identifier]
      rfl
    · exact stretch_freeStep (Option.ite_none_right_eq_some.mp step).2
  | listed =>
    simp only [Place.step] at step
    split at step
    · rename_i comma
      obtain rfl := Option.some.inj step
      rw [comma]
      rfl
    · rename_i other
      exact (after_named other).trans (stretch_freeStep step)
  | _ => grind [Place.step, stretch, Stretch.after]

theorem eq_of_kind {w v : Word} (kind : w.kind = v.kind) (text : w.text = v.text) : w = v := by
  cases w
  cases v
  simp_all

/-- Where neither a string nor the name of an encoding comes, the text tells the word. -/
theorem eq_of_plain {w v : Word} {m : Stretch} (plain : m ≠ .name) (first : w.Spelled m) (second : v.Spelled m)
    (notString : w.kind ≠ .string) (notString' : v.kind ≠ .string) (text : w.text = v.text) : w = v := by
  refine eq_of_kind ?_ text
  rw [← plainKind_of_spelled first plain notString, text, plainKind_of_spelled second plain notString']

theorem step_eq {p q q' : Place} (other : p ≠ .assigned) {w v : Word} (first : p.step w = some q)
    (second : p.step v = some q') (spelled : w.Spelled p.stretch) (spelled' : v.Spelled p.stretch)
    (text : w.text = v.text) : w = v := by
  cases p with
  | assigned => exact absurd rfl other
  | text | number | naming | listSign | listName => exact eq_of_kind (by grind [Place.step]) text
  | _ =>
    have plain (notString : w.kind ≠ .string) (notString' : v.kind ≠ .string) : w = v :=
      eq_of_plain (by simp [stretch]) spelled spelled' notString notString' text
    refine plain ?_ ?_ <;> grind [Place.step, freeStep]

theorem walk_cons {p q : Place} {w : Word} {ws : List Word} (walk : p.walk (w :: ws) = some q) :
    ∃ r, p.step w = some r ∧ r.walk ws = some q := by
  rw [Place.walk, List.foldlM_cons] at walk
  exact Option.bind_eq_some_iff.mp walk

/-- Where more has to come it does. -/
theorem exists_cons_of_walk {p q : Place} {ws : List Word} (walk : p.walk ws = some q) (ended : q.Free)
    (open_ : ¬p.Free) : ∃ w rest r, ws = w :: rest ∧ p.step w = some r ∧ r.walk rest = some q := by
  cases ws with
  | nil =>
    obtain rfl := Option.some.inj walk
    exact absurd ended open_
  | cons w rest =>
    obtain ⟨r, step, walk⟩ := walk_cons walk
    exact ⟨w, rest, r, rfl, step, walk⟩

/-- What follows a string tells it from a brace. Behind a string a name is followed by an equal sign,
and behind a brace digits are followed by digits or another brace. -/
theorem string_ne_brace {q q' : Place} {ws vs : List Word} (first : defined.walk ws = some q)
    (second : digits.walk vs = some q') (ended : q.Free) (ended' : q'.Free) (spelled : Spelled .plain ws)
    (spelled' : Spelled .plain vs) (texts : ws.map Word.text = vs.map Word.text) : False := by
  obtain ⟨v, vs, r', rfl, digit, second⟩ := exists_cons_of_walk second ended' (by simp [Free])
  cases ws with
  | nil => nomatch texts
  | cons w ws =>
    obtain ⟨r, step, first⟩ := walk_cons first
    obtain ⟨text, others⟩ := List.cons.inj texts
    obtain rfl : w = v := by
      refine eq_of_plain (m := .plain) (by simp) spelled.1 spelled'.1 ?_ ?_ text <;>
        grind [Place.step, freeStep]
    obtain ⟨kind, rfl, rfl⟩ : w.kind = .identifier ∧ r = naming ∧ r' = moreDigits := by
      grind [Place.step, TokenKind.isKeyword]
    have after : Stretch.plain.after w.kind = .plain := by rw [kind]; rfl
    obtain ⟨e, _, _, rfl, sign, _⟩ := exists_cons_of_walk first ended (by simp [Free])
    obtain ⟨d, _, _, rfl, more, _⟩ := exists_cons_of_walk second ended' (by simp [Free])
    have spelledSign := (after ▸ spelled.2).1
    have spelledMore := (after ▸ spelled'.2).1
    obtain rfl : e = d := by
      refine eq_of_plain (m := .plain) (by simp) spelledSign spelledMore ?_ ?_ (List.cons.inj others).1 <;>
        grind [Place.step]
    grind [Place.step]

/-- The texts of a declaration's words tell the words. -/
theorem words_eq {p q q' : Place} {ws vs : List Word} (first : p.walk ws = some q)
    (second : p.walk vs = some q') (ended : q.Free) (ended' : q'.Free) (spelled : Spelled p.stretch ws)
    (spelled' : Spelled p.stretch vs) (texts : ws.map Word.text = vs.map Word.text) : ws = vs := by
  induction ws generalizing p vs with
  | nil => exact (List.map_eq_nil_iff.mp texts.symm).symm
  | cons w ws ih =>
    cases vs with
    | nil => nomatch texts
    | cons v vs =>
      obtain ⟨r, step, first⟩ := walk_cons first
      obtain ⟨r', step', second⟩ := walk_cons second
      obtain ⟨text, others⟩ := List.cons.inj texts
      have same : w = v := by
        by_cases assigned : p = .assigned
        · subst assigned
          have kinds : w.kind = .string ∧ r = defined ∨ w.kind = .openBrace ∧ r = digits := by
            grind [Place.step]
          have kinds' : v.kind = .string ∧ r' = defined ∨ v.kind = .openBrace ∧ r' = digits := by
            grind [Place.step]
          have rests := spelled.2
          have rests' := spelled'.2
          rw [stretch_step step] at rests
          rw [stretch_step step'] at rests'
          rcases kinds with ⟨kind, rfl⟩ | ⟨kind, rfl⟩ <;> rcases kinds' with ⟨kind', rfl⟩ | ⟨kind', rfl⟩
          · exact eq_of_kind (kind.trans kind'.symm) text
          · exact (string_ne_brace first second ended ended' rests rests' others).elim
          · exact (string_ne_brace second first ended' ended rests' rests others.symm).elim
          · exact eq_of_kind (kind.trans kind'.symm) text
        · exact step_eq assigned step step' spelled.1 spelled'.1 text
      subst same
      obtain rfl : r = r' := Option.some.inj (step.symm.trans step')
      have rests := spelled.2
      have rests' := spelled'.2
      rw [stretch_step step] at rests rests'
      rw [ih first second rests rests' others]

end Place
end Triage
