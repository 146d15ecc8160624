import Mathlib.Data.List.DropRight
import Triage.Proofs.Pattern.Signs

/-! Literals are told from expressions by one scan of a text and read by another, and only the second takes the
digits of an escape along. They never fall out of step. A text that passes for a literal has no escape that
literals lack; a text that can be read passes for one exactly where a backslash stands before each operator; and
every text can be escaped so that it is read as its own characters. -/

namespace Triage

namespace Pattern

/-! ## What backslashes escape -/

/-- Whether the next character is escaped: of the backslashes right before it every other one is escaped itself,
and the last is not. -/
def Escaped (before : List Char) : Prop := (before.rtakeWhile (· == '\\')).length % 2 = 1

/-- Each operator is itself the character that a backslash escapes. -/
def Guarded (text : List Char) : Prop :=
  ∀ before c after, text = before ++ c :: after → isOperator c → Escaped before

section escaped
variable {c : Char} {first rest : List Char}

theorem not_escaped_nil : ¬Escaped [] := by
  simp [Escaped]

theorem escaped_concat (before : List Char) (c : Char) : Escaped (before ++ [c]) ↔ c = '\\' ∧ ¬Escaped before := by
  by_cases backslash : c = '\\'
  · subst backslash
    rw [Escaped, List.rtakeWhile_concat_pos _ _ _ (by rfl), List.length_append, List.length_singleton, Escaped]
    simp only [true_and]
    omega
  · rw [Escaped, List.rtakeWhile_concat_neg _ _ _ (by simpa using backslash)]
    simp [backslash]

/-- What stands before a text that ends without an open escape changes nothing behind it. -/
theorem escaped_append (closed : ¬Escaped first) (rest : List Char) : Escaped (first ++ rest) ↔ Escaped rest := by
  induction rest using List.reverseRecOn with
  | nil => simp [closed, not_escaped_nil]
  | append_singleton rest c ih => rw [← List.append_assoc, escaped_concat, escaped_concat, ih]

theorem guarded_append (closed : ¬Escaped first) (rest : List Char) :
    Guarded (first ++ rest) ↔ Guarded first ∧ Guarded rest := by
  constructor
  · intro guarded
    constructor
    · intro before c after same operator
      exact guarded before c (after ++ rest) (by simp [same]) operator
    · intro before c after same operator
      exact (escaped_append closed before).mp (guarded (first ++ before) c after (by simp [same]) operator)
  · rintro ⟨inFirst, inRest⟩ before c after same operator
    rcases List.append_eq_append_iff.mp same with ⟨more, rfl, cut⟩ | ⟨more, rfl, cut⟩
    · exact (escaped_append closed more).mpr (inRest more c after cut operator)
    · cases more with
      | nil => exact absurd (inRest [] c after cut.symm operator) not_escaped_nil
      | cons d more =>
        obtain ⟨rfl, rfl⟩ := List.cons.inj cut
        exact inFirst before c more rfl operator

theorem Ordinary.closed (ordinary : Ordinary first) : ¬Escaped first := by
  induction first using List.reverseRecOn with
  | nil => exact not_escaped_nil
  | append_singleton first c _ =>
    rw [escaped_concat]
    exact fun escaped => (ordinary c (by simp)).1 escaped.1

theorem Ordinary.guarded (ordinary : Ordinary first) : Guarded first := by
  intro before c after same operator
  have plain := (ordinary c (by simp [same])).2
  simp [plain] at operator

theorem closed_pair (c : Char) : ¬Escaped ['\\', c] := by
  have open_ : Escaped ['\\'] := (escaped_concat [] '\\').mpr ⟨rfl, not_escaped_nil⟩
  exact fun escaped => ((escaped_concat ['\\'] c).mp escaped).2 open_

theorem guarded_pair (c : Char) : Guarded ['\\', c] := by
  intro before d after same operator
  match before, same with
  | [], same =>
    obtain ⟨rfl, -⟩ := List.cons.inj same
    nomatch operator
  | [b], same =>
    obtain ⟨rfl, -⟩ := List.cons.inj same
    exact (escaped_concat [] '\\').mpr ⟨rfl, not_escaped_nil⟩
  | _ :: _ :: _, same => simp at same

/-- Behind an escape, with the digits that belong to it, operators are escaped or not as at the start. -/
theorem guarded_escape (c : Char) (ordinary : Ordinary first) :
    Guarded ('\\' :: c :: (first ++ rest)) ↔ Guarded rest := by
  have pair := guarded_append (closed_pair c) (first ++ rest)
  have digits := guarded_append ordinary.closed rest
  exact pair.trans (by simp [guarded_pair, digits, ordinary.guarded])

theorem guarded_operator (operator : isOperator c) : ¬Guarded (c :: rest) :=
  fun guarded => not_escaped_nil (guarded [] c rest rfl operator)

end escaped

/-! ## What is taken at once -/

namespace Sign

variable {s : Sign} {rest : List Char}

theorem text_ne_nil (s : Sign) : s.text ≠ [] := by
  cases s <;> exact List.cons_ne_nil _ _

theorem closed (fits : s.Fits) : ¬Escaped s.text := by
  rcases text_eq fits with ordinary | ⟨c, digits, same, -, ordinary⟩
  · exact ordinary.closed
  · rw [same]
    exact fun escaped => ordinary.closed ((escaped_append (closed_pair c) digits).mp escaped)

theorem guarded_iff (fits : s.Fits) : Guarded (s.text ++ rest) ↔ Guarded rest := by
  rcases text_eq fits with ordinary | ⟨c, digits, same, -, ordinary⟩
  · rw [guarded_append ordinary.closed, and_iff_right ordinary.guarded]
  · rw [same]
    exact guarded_escape c ordinary

end Sign

/-! ## The two scans -/

/-- The fault is one of an escape of the text. -/
def StandsIn (fault : EscapeFault) (text : List Char) : Prop :=
  ∃ before rest, text = before ++ rest ∧ ¬Escaped before ∧ Begins fault rest

section scans
variable {text first rest : List Char} {fault : EscapeFault} {ps : List Piece}

theorem StandsIn.behind (stands : StandsIn fault rest) (closed : ¬Escaped first) : StandsIn fault (first ++ rest) := by
  obtain ⟨before, behind, rfl, open_, begins⟩ := stands
  refine ⟨first ++ before, behind, (List.append_assoc ..).symm, ?_, begins⟩
  rwa [escaped_append closed]

theorem error_of_cons {p : Piece} (failed : (do return p :: (← escapedPieces rest)) = Except.error fault) :
    escapedPieces rest = .error fault := by
  cases read : escapedPieces rest with
  | ok ps => rw [read] at failed; nomatch failed
  | error other => rw [read] at failed; exact failed

/-- Reading a text fails for a fault that it has, and an unknown escape is one that makes it an expression. -/
theorem standsIn_of_error (failed : escapedPieces text = .error fault) :
    StandsIn fault text ∧ (isExpression text = false → fault = .trailingBackslash ∨ fault = .hexDigits) := by
  induction reading text with
  | done => nomatch failed
  | @operator c rest operator _ ih =>
    rw [escapedPieces_cons (ne_backslash_of_isOperator operator)] at failed
    obtain ⟨stands, -⟩ := ih (error_of_cons failed)
    have closed : ¬Escaped [c] :=
      fun escaped => ne_backslash_of_isOperator operator ((escaped_concat [] c).mp escaped).1
    refine ⟨stands.behind closed, fun literal => ?_⟩
    rw [isExpression_operator operator] at literal
    nomatch literal
  | sign fits _ ih =>
    rw [Sign.escapedPieces_eq fits] at failed
    obtain ⟨stands, kinds⟩ := ih (error_of_cons failed)
    exact ⟨stands.behind (Sign.closed fits), fun literal => kinds (Sign.isExpression_eq fits ▸ literal)⟩
  | @fault found text begins =>
    obtain rfl : found = fault := Except.error.inj ((escapedPieces_of_begins begins).symm.trans failed)
    refine ⟨⟨[], text, rfl, not_escaped_nil, begins⟩, fun literal => ?_⟩
    cases found with
    | trailingBackslash => exact .inl rfl
    | hexDigits => exact .inr rfl
    | unknown c =>
      obtain ⟨rest, rfl, unknown⟩ := begins
      change (!isLiteralEscape c || isExpression rest) = false at literal
      rw [unknown] at literal
      nomatch literal
    | rawByteInWide | rawByteInClass => exact begins.elim

/-- A text that can be read has no unknown escapes, so that nothing but its operators makes it an expression. -/
theorem isExpression_iff_guarded (read : escapedPieces text = .ok ps) :
    isExpression text = false ↔ Guarded text := by
  induction reading text generalizing ps with
  | done => exact ⟨fun _ => Ordinary.guarded (by simp [Ordinary]), fun _ => rfl⟩
  | operator operator _ _ =>
    rw [isExpression_operator operator]
    exact ⟨(absurd · (by decide)), fun guarded => absurd guarded (guarded_operator operator)⟩
  | sign fits _ ih =>
    rw [Sign.escapedPieces_eq fits] at read
    obtain ⟨more, tail, -⟩ := escaped_ok read
    rw [Sign.isExpression_eq fits, Sign.guarded_iff fits]
    exact ih tail
  | fault _ begins =>
    rw [escapedPieces_of_begins begins] at read
    cases read

end scans

/-! ## Any text as a literal -/

/-- The sign for a character that stands for itself. -/
def signOf (c : Char) : Sign := if c = '"' then .quote else if c = '\\' ∨ isOperator c then .itself c else .plain c

/-- The text with a backslash before each operator, backslash and quote. -/
def escape (text : List Char) : List Char :=
  text.flatMap fun c => if isOperator c ∨ c = '\\' ∨ c = '"' then ['\\', c] else [c]

section escape

theorem fits_signOf (c : Char) : (signOf c).Fits := by
  unfold signOf
  split_ifs with quote itself
  · trivial
  · exact itself
  · simpa [Sign.Fits] using itself

theorem piece_signOf (c : Char) : (signOf c).piece = .char c := by
  unfold signOf
  split_ifs with quote <;> simp [Sign.piece, quote]

theorem escape_cons (c : Char) (text : List Char) : escape (c :: text) = (signOf c).text ++ escape text := by
  rw [escape, List.flatMap_cons, ← escape]
  congr 1
  unfold signOf
  split_ifs <;> simp_all [Sign.text]

theorem isExpression_escape (text : List Char) : isExpression (escape text) = false := by
  induction text with
  | nil => rfl
  | cons c text ih => rw [escape_cons, Sign.isExpression_eq (fits_signOf c), ih]

theorem escapedPieces_escape (text : List Char) : escapedPieces (escape text) = .ok (text.map .char) := by
  induction text with
  | nil => rfl
  | cons c text ih =>
    rw [escape_cons, Sign.escapedPieces_eq (fits_signOf c), ih, piece_signOf]
    rfl

theorem encodePieces_chars (encoding : Encoding) (run text : List Char) :
    encodePieces encoding run (text.map .char) = encodePieces.encodeRun encoding (text.reverse ++ run) := by
  induction text generalizing run with
  | nil => rfl
  | cons c text ih =>
    rw [List.map_cons, encodePieces, ih, List.reverse_cons, List.append_assoc, List.singleton_append]

theorem escape_ne_nil {text : List Char} (written : text ≠ []) : escape text ≠ [] := by
  obtain ⟨c, rest, rfl⟩ := List.exists_cons_of_ne_nil written
  rw [escape_cons]
  exact List.append_ne_nil_of_left_ne_nil (Sign.text_ne_nil _) _

/-- Escaped, any text is searched for as the bytes that its encoding gives it. -/
theorem compile_escape {d : PatternDef} {text : List Char} {encoding : Encoding} {bytes : List UInt8}
    (escaped : d.text.toList = escape text) (plain : d.fixed = false)
    (known : Encoding.labelled? d.encoding = some encoding) (encoded : encoding.encode? text = some bytes)
    (written : text ≠ []) (full : bytes ≠ []) : d.compile = .ok (.literal ⟨bytes, d.nocase⟩) := by
  have read : pieces d.fixed d.text.toList = .ok (text.map .char) := by
    rw [plain, escaped]
    exact escapedPieces_escape text
  have run : encodePieces encoding [] (text.map .char) = .ok bytes := by
    rw [encodePieces_chars, List.append_nil, encodePieces.encodeRun]
    simp [written, encoded]
  apply compile_of_compileLiteral known
  · exact escaped ▸ escape_ne_nil written
  · exact plain
  · exact escaped ▸ isExpression_escape text
  · exact compileLiteral_eq read run full

end escape

/-- Whether a text is a literal and how it is read as one agree. A literal is read, or it fails for a backslash at
its end or for digits that are none, and has this fault; what is read is a literal just where its operators are
guarded; and escaped, a text is a literal that is read as its characters. -/
theorem scans_agree (text : List Char) :
    (isExpression text = false → (∃ ps, pieces false text = .ok ps) ∨
      ∃ fault, pieces false text = .error fault ∧ StandsIn fault text ∧
        (fault = .trailingBackslash ∨ fault = .hexDigits)) ∧
    (∀ ps, pieces false text = .ok ps → (isExpression text = false ↔ Guarded text)) ∧
    isExpression (escape text) = false ∧ pieces false (escape text) = .ok (text.map .char) := by
  refine ⟨fun literal => ?_, fun ps read => isExpression_iff_guarded read, isExpression_escape text,
    escapedPieces_escape text⟩
  cases read : pieces false text with
  | ok ps => exact .inl ⟨ps, rfl⟩
  | error fault =>
    obtain ⟨stands, kinds⟩ := standsIn_of_error read
    exact .inr ⟨fault, rfl, stands, kinds literal⟩

/-- Behind an escape of two digits: a backslash where a digit should be, and one that is escaped itself. -/
theorem adjacentEscapes_agree :
    (isExpression "\\z4\\".toList = false ∧
      ∃ fault, pieces false "\\z4\\".toList = .error fault ∧ StandsIn fault "\\z4\\".toList) ∧
    pieces false "\\z5c\\\\\\.".toList = .ok [.byte 0x5c, .char '\\', .char '.'] ∧
      Guarded "\\z5c\\\\\\.".toList := by
  have failed : pieces false "\\z4\\".toList = .error .hexDigits := rfl
  have read : pieces false "\\z5c\\\\\\.".toList = .ok [.byte 0x5c, .char '\\', .char '.'] := rfl
  refine ⟨⟨rfl, ?_⟩, read, ((scans_agree _).2.1 _ read).mp rfl⟩
  rcases (scans_agree "\\z4\\".toList).1 rfl with ⟨ps, read⟩ | ⟨fault, found, stands, -⟩
  · nomatch failed.symm.trans read
  · exact ⟨fault, found, stands⟩

end Pattern
end Triage
