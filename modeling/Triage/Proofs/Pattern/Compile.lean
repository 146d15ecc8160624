import Triage.Pattern.Compile
import Triage.Proofs.Regex.NormalForm

/-! What a pattern that compiles is sure of. A literal has bytes. An expression reads at least one byte
wherever it matches, no more than its longest length, and asks for nothing of its position but where
words begin and end. -/

namespace Triage
open Regex

/-- What the search relies on. -/
structure RegexPattern.Sound (r : RegexPattern) : Prop where
  consumes : [] ∉ r.expr.language
  bounded : ∀ n ∈ r.longest, ShortAs n r.expr.language
  words : ∀ l ∈ r.expr.looks, l.isAnchor = false

def CompiledPattern.Sound : CompiledPattern → Prop
  | .literal l => l.bytes ≠ []
  | .regex r => r.Sound

/-- Whether the expressions of an encoding are read in Unicode mode, and which code units they are widened to. -/
def Encoding.mode? : Encoding → Option (Bool × Option Utf16.Order)
  | .ascii => some (false, none)
  | .utf8 => some (true, none)
  | .utf16 order => some (true, some order)
  | .other _ => none

namespace Pattern

theorem formed_expressionOf? {unicode nocase : Bool} {text : List Char} {e : Expr}
    (read : expressionOf? unicode nocase text = some e) : e.Formed fun _ => True := by
  simp only [expressionOf?, Option.bind_eq_bind, Option.bind_eq_some_iff, Option.pure_def,
    Prod.exists, Option.some.injEq] at read
  obtain ⟨tree, _, e, after, elaborated, rfl⟩ := read
  exact formed_elaborate? elaborated

theorem looks_of_lookFault? {wide : Bool} {e : Expr} (fine : lookFault? wide e = none) :
    ∀ l ∈ e.looks, l.isAnchor = false := by
  unfold lookFault? at fine
  split at fine
  · simp at fine
  · rename_i none
    simpa using none

theorem mapError_eq_ok {ε ε' α : Type} {f : ε → ε'} {x : Except ε α} {a : α} :
    x.mapError f = .ok a ↔ x = .ok a := by
  cases x <;> simp [Except.mapError]

theorem map_eq_ok {ε α β : Type} {f : α → β} {x : Except ε α} {b : β} :
    x.map f = .ok b ↔ ∃ a, x = .ok a ∧ f a = b := by
  cases x <;> simp [Except.map]

theorem formed_widenIn {allowed : Look → Prop} {order : Option Utf16.Order} {e wide : Expr}
    (formed : e.Formed allowed) (widened : widenIn order e = .ok wide) : wide.Formed allowed := by
  cases order with
  | none =>
    obtain rfl := Except.ok.inj widened
    exact formed
  | some order =>
    cases narrow : e.widen order with
    | error fault => simp [widenIn, narrow, Except.mapError] at widened
    | ok found =>
      simp only [widenIn, narrow, Except.mapError, Except.ok.injEq] at widened
      exact widened ▸ each_widen (wellMade_widens _) formed narrow

/-- What is searched for spells no other words and has no other kinds of conditions. -/
theorem searched?_spec {unicode : Bool} {e found : Expr}
    (formed : e.Formed (·.isAnchor = false)) (searched : searched? unicode e = some found) :
    found.language ≤ e.language ∧ ∀ l ∈ found.looks, l.isAnchor = false := by
  unfold searched? at searched
  split at searched
  · have again := formed_respelled formed
    split at searched
    · obtain rfl := Option.some.inj searched
      exact ⟨language_respelled formed, ((formed_iff_looks _).mp again).2⟩
    · refine ⟨(language_inAscii? searched).trans_le (language_respelled formed), ?_⟩
      exact ((formed_iff_looks _).mp (formed_inAscii? again searched fun _ _ _ => rfl)).2
  · simp at searched

/-- The pattern searches for the expression and knows its lengths. -/
structure Searches (r : RegexPattern) (unicode : Bool) (e : Expr) : Prop where
  searched : searched? unicode e = some r.expr
  shortest : r.shortest = e.shortest?.getD 0
  longest : r.longest = e.longest?

/-- All that is checked of an expression that compiles. -/
theorem exists_of_compileExpression {d : PatternDef} {unicode : Bool} {order : Option Utf16.Order} {r : RegexPattern}
    (compiled : compileExpression d unicode order = .ok r) :
    ∃ text e wide, spellEscapes order.isSome d.text.toList = .ok text ∧
      expressionOf? unicode d.nocase text = some e ∧ lookFault? order.isSome e = none ∧ widenIn order e = .ok wide ∧
      wide.shortest?.getD 0 ≠ 0 ∧ Searches r unicode wide := by
  unfold compileExpression at compiled
  obtain ⟨text, spelled, compiled⟩ := bind_eq_ok.mp compiled
  split at compiled
  case h_2 => nomatch compiled
  rename_i e read
  split at compiled
  case h_1 => nomatch compiled
  rename_i fine
  obtain ⟨wide, widened, compiled⟩ := bind_eq_ok.mp compiled
  simp only at compiled
  split at compiled
  case isTrue => nomatch compiled
  rename_i consuming
  split at compiled
  case h_2 => nomatch compiled
  rename_i found searched
  split at compiled
  case isTrue => nomatch compiled
  obtain rfl := Except.ok.inj compiled
  exact ⟨text, e, wide, mapError_eq_ok.mp spelled, read, Option.eq_none_iff_forall_ne_some.mpr fun fault => fine fault,
    mapError_eq_ok.mp widened, consuming, searched, rfl, rfl⟩

/-- What is left to check of an expression that is widened. -/
theorem compileExpression_of_widened {d : PatternDef} {unicode : Bool} {order : Option Utf16.Order} {text : List Char}
    {e wide : Expr} (spelled : spellEscapes order.isSome d.text.toList = .ok text)
    (read : expressionOf? unicode d.nocase text = some e) (fine : lookFault? order.isSome e = none)
    (widened : widenIn order e = .ok wide) : compileExpression d unicode order = do
      if wide.shortest?.getD 0 = 0 then throw (.emptyMatch d.text)
      let some found := searched? unicode wide
        | throw (.regex d.text .notAnExpression)
      if !found.fits then throw (.regex d.text .tooLarge)
      return ⟨found, wide.shortest?.getD 0, wide.longest?⟩ := by
  have ok {ε ε' α : Type} (f : ε → ε') (a : α) : (Except.ok a).mapError f = .ok a := rfl
  have next {ε α β : Type} (a : α) (f : α → Except ε β) : (Except.ok a >>= f) = f a := rfl
  unfold compileExpression
  simp only [spelled, ok, next, read, fine, widened]
  all_goals rfl

/-- An expression of which all that holds compiles. -/
theorem compileExpression_eq {d : PatternDef} {unicode : Bool} {order : Option Utf16.Order} {text : List Char}
    {e wide found : Expr} (spelled : spellEscapes order.isSome d.text.toList = .ok text)
    (read : expressionOf? unicode d.nocase text = some e) (fine : lookFault? order.isSome e = none)
    (widened : widenIn order e = .ok wide) (consumes : wide.shortest?.getD 0 ≠ 0)
    (searched : searched? unicode wide = some found) (fits : found.fits) :
    compileExpression d unicode order = .ok ⟨found, wide.shortest?.getD 0, wide.longest?⟩ := by
  rw [compileExpression_of_widened spelled read fine widened, if_neg consumes]
  simp only [searched, fits]
  rfl

/-- Matches are no shorter than the shortest length, which is not zero. -/
theorem compileExpression_shortest {d : PatternDef} {unicode : Bool} {order : Option Utf16.Order}
    {r : RegexPattern} (compiled : compileExpression d unicode order = .ok r) :
    0 < r.shortest ∧ LongAs r.shortest r.expr.language := by
  obtain ⟨_, e, wide, -, read, fine, widened, consuming, searches⟩ := exists_of_compileExpression compiled
  have formed : wide.Formed (·.isAnchor = false) := formed_widenIn
    ((formed_iff_looks e).mpr ⟨formed_expressionOf? read, looks_of_lookFault? fine⟩) widened
  rw [searches.shortest]
  cases shortest : wide.shortest? with
  | none => simp [shortest] at consuming
  | some least =>
    rw [shortest] at consuming
    refine ⟨Nat.pos_of_ne_zero consuming, fun w member => ?_⟩
    exact longAs_shortest? shortest w ((searched?_spec formed searches.searched).1 member)

theorem compileExpression_sound {d : PatternDef} {unicode : Bool} {order : Option Utf16.Order}
    {r : RegexPattern} (compiled : compileExpression d unicode order = .ok r) : r.Sound := by
  obtain ⟨some, long⟩ := compileExpression_shortest compiled
  obtain ⟨_, e, wide, -, read, fine, widened, -, searches⟩ := exists_of_compileExpression compiled
  have looks : ∀ l ∈ e.looks, l.isAnchor = false := looks_of_lookFault? fine
  have formed : wide.Formed (·.isAnchor = false) :=
    formed_widenIn ((formed_iff_looks e).mpr ⟨formed_expressionOf? read, looks⟩) widened
  obtain ⟨words, conditions⟩ := searched?_spec formed searches.searched
  refine ⟨fun empty => Nat.not_lt_zero _ (some.trans_le (long [] empty)), fun n longest => ?_, conditions⟩
  rw [searches.longest] at longest
  exact fun w member => shortAs_longest? formed longest w (words member)

theorem compileRegex_of_mode {d : PatternDef} {encoding : Encoding} {unicode : Bool} {order : Option Utf16.Order}
    (mode : encoding.mode? = some (unicode, order)) (encodable : encoding = .ascii → d.text.toList.all Charset.isAscii) :
    compileRegex d encoding = compileExpression d unicode order := by
  cases encoding with
  | other set => nomatch mode
  | ascii =>
    obtain ⟨rfl, rfl⟩ := Prod.mk.inj (Option.some.inj mode)
    exact if_pos (encodable rfl)
  | utf8 | utf16 order =>
    obtain ⟨rfl, rfl⟩ := Prod.mk.inj (Option.some.inj mode)
    rfl

theorem encodable_of_compileRegex {d : PatternDef} {encoding : Encoding} {r : RegexPattern}
    (compiled : compileRegex d encoding = .ok r) : encoding = .ascii → d.text.toList.all Charset.isAscii := by
  rintro rfl
  rw [compileRegex] at compiled
  split at compiled
  case isTrue ascii => exact ascii
  case isFalse => cases compiled

theorem exists_compileExpression {d : PatternDef} {encoding : Encoding} {r : RegexPattern}
    (compiled : compileRegex d encoding = .ok r) : ∃ unicode order, compileExpression d unicode order = .ok r := by
  cases mode : encoding.mode? with
  | none =>
    cases encoding with
    | other set => nomatch compiled
    | _ => nomatch mode
  | some found =>
    rw [compileRegex_of_mode mode (encodable_of_compileRegex compiled)] at compiled
    exact ⟨_, _, compiled⟩

theorem compileRegex_sound {d : PatternDef} {encoding : Encoding} {r : RegexPattern}
    (compiled : compileRegex d encoding = .ok r) : r.Sound := by
  obtain ⟨_, _, compiled⟩ := exists_compileExpression compiled
  exact compileExpression_sound compiled

theorem compileLiteral_bytes {d : PatternDef} {encoding : Encoding} {l : LiteralPattern}
    (compiled : compileLiteral d encoding = .ok l) : l.bytes ≠ [] := by
  unfold compileLiteral at compiled
  obtain ⟨pieces, _, compiled⟩ := bind_eq_ok.mp compiled
  obtain ⟨bytes, _, compiled⟩ := bind_eq_ok.mp compiled
  split at compiled
  · nomatch compiled
  · rename_i some
    obtain rfl := Except.ok.inj compiled
    exact fun none => some (List.isEmpty_iff.mpr none)

theorem compileLiteral_eq {d : PatternDef} {encoding : Encoding} {ps : List Piece} {bytes : List UInt8}
    (read : pieces d.fixed d.text.toList = .ok ps) (encoded : encodePieces encoding [] ps = .ok bytes)
    (full : bytes ≠ []) : compileLiteral d encoding = .ok ⟨bytes, d.nocase⟩ := by
  have some : bytes.isEmpty = false := by simpa using full
  unfold compileLiteral
  rw [read]
  change (encodePieces encoding [] ps >>= _) = _
  rw [encoded]
  change (if bytes.isEmpty then _ else _) = _
  rw [some]
  rfl

end Pattern

theorem compile_of_compileLiteral {d : PatternDef} {encoding : Encoding} {l : LiteralPattern}
    (known : Encoding.labelled? d.encoding = some encoding) (written : d.text.toList ≠ []) (escaped : d.fixed = false)
    (literal : Pattern.isExpression d.text.toList = false) (compiled : Pattern.compileLiteral d encoding = .ok l) :
    d.compile = .ok (.literal l) := by
  have some : d.text.isEmpty = false := by
    rwa [← Bool.not_eq_true, String.isEmpty_iff, ← String.toList_eq_nil_iff]
  unfold PatternDef.compile
  rw [known]
  change (if d.text.isEmpty then _ else if !d.fixed && Pattern.isExpression d.text.toList then _ else
    (Pattern.compileLiteral d encoding).map CompiledPattern.literal) = _
  rw [some, escaped, literal, compiled]
  rfl

/-- A compiled pattern is the literal or the expression of its text. -/
theorem compile_eq_ok {d : PatternDef} {c : CompiledPattern} (compiled : d.compile = .ok c) :
    ∃ encoding, Encoding.labelled? d.encoding = some encoding ∧
      ((∃ r, Pattern.compileRegex d encoding = .ok r ∧ c = .regex r) ∨
        ∃ l, Pattern.compileLiteral d encoding = .ok l ∧ c = .literal l) := by
  unfold PatternDef.compile at compiled
  split at compiled
  · nomatch compiled
  · rename_i encoding known
    refine ⟨encoding, known, ?_⟩
    split at compiled
    · nomatch compiled
    · split at compiled
      · obtain ⟨r, inner, rfl⟩ := Pattern.map_eq_ok.mp compiled
        exact .inl ⟨r, inner, rfl⟩
      · obtain ⟨l, inner, rfl⟩ := Pattern.map_eq_ok.mp compiled
        exact .inr ⟨l, inner, rfl⟩

theorem sound_of_compile {d : PatternDef} {c : CompiledPattern} (compiled : d.compile = .ok c) :
    c.Sound := by
  obtain ⟨_, -, ⟨r, inner, rfl⟩ | ⟨l, inner, rfl⟩⟩ := compile_eq_ok compiled
  · exact Pattern.compileRegex_sound inner
  · exact Pattern.compileLiteral_bytes inner

theorem shortest_of_compile {d : PatternDef} {r : RegexPattern} (compiled : d.compile = .ok (.regex r)) :
    0 < r.shortest ∧ LongAs r.shortest r.expr.language := by
  obtain ⟨_, -, ⟨r', inner, same⟩ | ⟨l, -, same⟩⟩ := compile_eq_ok compiled
  · obtain rfl := CompiledPattern.regex.inj same
    obtain ⟨_, _, inner⟩ := Pattern.exists_compileExpression inner
    exact Pattern.compileExpression_shortest inner
  · nomatch same

end Triage
