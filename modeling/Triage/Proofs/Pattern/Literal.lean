import Triage.Proofs.Pattern.Signs
import Triage.Proofs.Regex.Complete

/-! A text means the same whether it is searched for as a literal or read as an expression. -/

namespace Triage.Pattern
open Regex

/-! ## What is encoded -/

/-- What an encoding makes of a text, character by character, and the characters that it has. -/
def Encodes (encoding : Encoding) (code : Coding) (has : Char → Prop) : Prop :=
  ∀ text bytes, encoding.encode? text = some bytes → bytes = text.flatMap code ∧ ∀ c ∈ text, has c

theorem encodes_ascii : Encodes .ascii utf8 (·.toNat < 128) := by
  intro text bytes encoded
  simp only [Encoding.encode?, Option.ite_none_right_eq_some, Option.some.injEq, List.all_eq_true] at encoded
  obtain ⟨ascii, rfl⟩ := encoded
  have each : ∀ c ∈ text, c.toNat < 128 := fun c member => by simpa [Charset.isAscii] using ascii c member
  refine ⟨?_, each⟩
  rw [← List.flatMap_pure_eq_map]
  exact List.flatMap_congr fun c member => (utf8_of_ascii (each c member)).symm

theorem encodes_utf8 : Encodes .utf8 utf8 fun _ => True :=
  fun _ _ encoded => ⟨(Option.some.inj encoded).symm, fun _ _ => trivial⟩

theorem encodes_utf16 (order : Utf16.Order) : Encodes (.utf16 order) (utf16 order) fun _ => True :=
  fun _ _ encoded => ⟨(Option.some.inj encoded).symm, fun _ _ => trivial⟩

section encoded
variable {encoding : Encoding} {code : Coding} {has : Char → Prop} {run : List Char} {ps : List Piece}
  {bytes : List UInt8}

theorem encodeRun_spec (encodes : Encodes encoding code has)
    (encoded : encodePieces.encodeRun encoding run = .ok bytes) :
    bytes = run.reverse.flatMap code ∧ ∀ c ∈ run, has c := by
  unfold encodePieces.encodeRun at encoded
  split at encoded
  · rename_i empty
    obtain rfl := List.isEmpty_iff.mp empty
    obtain rfl := Except.ok.inj encoded
    exact ⟨rfl, by simp⟩
  · split at encoded
    · rename_i found
      obtain rfl := Except.ok.inj encoded
      obtain ⟨same, each⟩ := encodes _ _ found
      exact ⟨same, fun c member => each c (List.mem_reverse.mpr member)⟩
    · nomatch encoded

/-- Pieces are encoded one by one, though characters between raw bytes are encoded together. -/
theorem encodePieces_spec (encodes : Encodes encoding code has)
    (encoded : encodePieces encoding run ps = .ok bytes) :
    bytes = run.reverse.flatMap code ++ ps.flatMap (Piece.bytes code) ∧
      (∀ c ∈ run, has c) ∧ ∀ c, .char c ∈ ps → has c := by
  induction ps generalizing run bytes with
  | nil =>
    obtain ⟨same, each⟩ := encodeRun_spec encodes encoded
    exact ⟨by rw [same, List.flatMap_nil, List.append_nil], each, by simp⟩
  | cons p ps ih =>
    cases p with
    | char c =>
      obtain ⟨same, each, later⟩ := ih encoded
      obtain ⟨here, before⟩ := List.forall_mem_cons.mp each
      refine ⟨?_, before, fun d member => ?_⟩
      · simpa [Piece.bytes] using same
      · rcases List.mem_cons.mp member with same | member
        · exact Piece.char.inj same ▸ here
        · exact later d member
    | byte b =>
      obtain ⟨start, first, encoded⟩ := bind_eq_ok.mp encoded
      obtain ⟨behind, second, encoded⟩ := bind_eq_ok.mp encoded
      obtain rfl := Except.ok.inj encoded
      obtain ⟨rfl, each⟩ := encodeRun_spec encodes first
      obtain ⟨rfl, -, later⟩ := ih second
      exact ⟨by simp [Piece.bytes], each, fun c member => later c (by simpa using member)⟩

/-- The bytes of a literal are those of its signs. -/
theorem exists_signs_of_compileLiteral {d : PatternDef} {l : LiteralPattern} (encodes : Encodes encoding code has)
    (escaped : d.fixed = false) (literal : isExpression d.text.toList = false)
    (compiled : compileLiteral d encoding = .ok l) :
    ∃ signs ps, Spells signs d.text.toList ps ∧ escapedPieces d.text.toList = .ok ps ∧
      l.bytes = ps.flatMap (Piece.bytes code) ∧ l.bytes ≠ [] ∧ ∀ c, .char c ∈ ps → has c := by
  have some := compileLiteral_bytes compiled
  unfold compileLiteral at compiled
  obtain ⟨ps, read, compiled⟩ := bind_eq_ok.mp compiled
  obtain ⟨bytes, encoded, compiled⟩ := bind_eq_ok.mp compiled
  split at compiled
  · nomatch compiled
  · obtain rfl := Except.ok.inj compiled
    have read : escapedPieces d.text.toList = .ok ps := by
      simpa [pieces, escaped] using mapError_eq_ok.mp read
    obtain ⟨signs, spells⟩ := exists_signs read literal
    obtain ⟨same, -, each⟩ := encodePieces_spec encodes encoded
    exact ⟨signs, ps, spells, read, same, some, each⟩

end encoded

/-! ## Literals as expressions -/

section literals
variable {bytes : List UInt8}

theorem fits_depth (bytes : List UInt8) : (Expr.literal bytes).spelledDepth ≤ Syntax.depthLimit := by
  have depth : (Expr.literal bytes).spelledDepth = Expr.literalDepth bytes := rfl
  rw [depth, Expr.literalDepth]
  split <;> split <;> decide

theorem searched?_literal (unicode : Bool) (bytes : List UInt8) :
    searched? unicode (.literal bytes) = some (.literal bytes) := by
  have again : (Expr.literal bytes).respelled = .literal bytes := rfl
  rw [searched?, if_pos (fits_depth bytes), again]
  cases unicode <;> rfl

theorem widen_literal (order : Utf16.Order) {text : List Char} (some : Utf16.encode order text ≠ []) :
    widenIn (.some order) (.literal (Utf8.encode text)) = .ok (.literal (Utf16.encode order text)) := by
  have parts : Expr.widenParts order (.literal (Utf8.encode text)) = .ok [.literal (Utf16.encode order text)] := by
    rw [Expr.widenParts, Utf8.decode?_encode]
  have single : Expr.concat ([Utf16.encode order text].map .literal) = _ := concat_literals (by simpa using some)
  rw [List.map_singleton, List.flatten_singleton] at single
  rw [widenIn, Expr.widen, parts]
  change Except.ok (Expr.concat [.literal (Utf16.encode order text)]) = _
  rw [single]

theorem compileExpression_literal {d : PatternDef} {unicode : Bool} {order : Option Utf16.Order} {text : List Char}
    {narrow : List UInt8} (spelled : spellEscapes order.isSome d.text.toList = .ok text)
    (read : expressionOf? unicode d.nocase text = some (.literal narrow))
    (wide : widenIn order (.literal narrow) = .ok (.literal bytes)) (some : bytes ≠ [])
    (fits : (Expr.literal bytes).fits) :
    compileExpression d unicode order = .ok ⟨.literal bytes, bytes.length, .some bytes.length⟩ := by
  have bare : lookFault? order.isSome (.literal narrow) = none := by
    simp [lookFault?, Expr.looks]
  have length : (Expr.literal bytes).shortest?.getD 0 ≠ 0 := by simpa [Expr.shortest?] using some
  exact compileExpression_eq spelled read bare wide length (searched?_literal unicode bytes) fits

/-- A literal matches its bytes wherever they stand, and nothing else. -/
theorem endAt?_literal {text : List UInt8} {pos stop : Nat} (inside : pos ≤ text.length) :
    (Expr.literal bytes).endAt? text pos = some stop ↔ stop = pos + bytes.length ∧ bytes <+: text.drop pos := by
  have plain : (Expr.literal bytes).looks = [] := by simp [Expr.looks]
  have ends {stop : Nat} (found : (Expr.literal bytes).endAt? text pos = some stop) :
      stop = pos + bytes.length ∧ bytes <+: text.drop pos := by
    obtain ⟨_, fits, word⟩ := endAt?_spec found
    have word : (text.drop pos).take (stop - pos) = bytes := word
    have length := congrArg List.length word
    rw [List.length_take, List.length_drop, Nat.min_eq_left (by omega)] at length
    exact ⟨by omega, word ▸ List.take_prefix _ _⟩
  refine ⟨ends, ?_⟩
  rintro ⟨rfl, starts⟩
  have fits := starts.length_le
  rw [List.length_drop] at fits
  have found := (isSome_endAt?_iff plain inside).mpr ⟨bytes.length, fits, (List.prefix_iff_eq_take.mp starts).symm⟩
  obtain ⟨stop, found⟩ := Option.isSome_iff_exists.mp found
  rw [found, (ends found).1]

end literals

section grouped
variable {d : PatternDef} {l : LiteralPattern}

/-- A text in which no escape stands for a raw byte. -/
def RawFree (text : List Char) : Prop :=
  ∀ ps, escapedPieces text = .ok ps → ∀ b, Piece.byte b ∉ ps

/-- The same pattern in a group that changes nothing. -/
def grouped (d : PatternDef) : PatternDef := { d with text := "(?:" ++ d.text ++ ")" }

theorem toList_grouped (d : PatternDef) :
    (grouped d).text.toList = '(' :: '?' :: ':' :: (d.text.toList ++ [')']) := by
  simp [grouped, String.toList_append]

theorem isExpression_grouped (d : PatternDef) : isExpression (grouped d).text.toList = true := by
  rw [toList_grouped, isExpression_cons (by decide)]
  rfl

/-- Signs in a group are spelled out one by one. -/
theorem spellEscapes_grouped {wide : Bool} {signs : List Sign} (fits : ∀ s ∈ signs, s.Fits)
    (narrow : wide → ∀ s ∈ signs, s.isByte = false) (written : d.text.toList = signs.flatMap Sign.text) :
    spellEscapes wide (grouped d).text.toList =
      .ok ('(' :: '?' :: ':' :: (signs.flatMap Sign.respelled ++ [')'])) := by
  have close : spellEscapesFrom wide 0 [')'] = .ok [')'] :=
    spell_plain (by decide) (by decide) (by decide) (by rw [spellEscapesFrom])
  have inner := spell_signs fits narrow close
  rw [toList_grouped, written]
  refine spell_plain (by decide) (by decide) (by decide) ?_
  refine spell_plain (by decide) (by decide) (by decide) ?_
  exact spell_plain (by decide) (by decide) (by decide) inner

/-- A sign for an ASCII character is written in ASCII. -/
theorem Sign.ascii {s : Sign} (fits : s.Fits) (char : ∀ c, s.piece = .char c → c.toNat < 128) :
    ∀ c ∈ s.text, c.toNat < 128 := by
  have digits {high low : Char} (pair : (hexPair? high low).isSome) : high.toNat < 128 ∧ low.toNat < 128 := by
    obtain ⟨n, pair⟩ := Option.isSome_iff_exists.mp pair
    obtain ⟨a, b, first, second, -⟩ := digits_of_hexPair? pair
    exact ⟨first.ascii, second.ascii⟩
  cases s with
  | plain c | itself c => simpa [Sign.text] using char c rfl
  | byte high low | code high low => simpa [Sign.text] using digits fits
  | control letter c =>
    simp only [Sign.Fits, Sign.controls, List.mem_cons, Prod.mk.injEq, List.not_mem_nil, or_false] at fits
    rcases fits with ⟨rfl, rfl⟩ | ⟨rfl, rfl⟩ | ⟨rfl, rfl⟩ <;> simp [Sign.text]
  | null | quote => simp [Sign.text]

theorem isAscii_grouped {signs : List Sign} (fits : ∀ s ∈ signs, s.Fits)
    (written : d.text.toList = signs.flatMap Sign.text) (char : ∀ c, .char c ∈ signs.map Sign.piece → c.toNat < 128) :
    (grouped d).text.toList.all Charset.isAscii := by
  have each : ∀ c ∈ d.text.toList, c.toNat < 128 := by
    rw [written]
    intro c member
    obtain ⟨s, inside, member⟩ := List.mem_flatMap.mp member
    exact Sign.ascii (fits s inside) (fun c same => char c (List.mem_map.mpr ⟨s, inside, same⟩)) c member
  rw [toList_grouped]
  simpa [Charset.isAscii] using each

/-- Without raw bytes all signs are characters. -/
theorem RawFree.chars {signs : List Sign} {text : List Char} (free : RawFree text)
    (read : escapedPieces text = .ok (signs.map Sign.piece)) :
    (∀ s ∈ signs, s.isByte = false) ∧ signs.map Sign.piece = (signs.map (·.literal.char)).map .char := by
  have each : ∀ s ∈ signs, s.isByte = false := by
    intro s member
    refine Bool.eq_false_iff.mpr fun byte => ?_
    obtain ⟨b, same⟩ := Sign.piece_byte byte
    exact free _ read b (List.mem_map.mpr ⟨s, member, same⟩)
  refine ⟨each, ?_⟩
  rw [List.map_map]
  exact List.map_congr_left fun s member => Sign.piece_char (each s member)

/-- The group compiles to the literal's bytes, in each encoding that expressions have. -/
theorem compileRegex_grouped {encoding : Encoding} (own : ∀ set, encoding ≠ .other set) (cased : d.nocase = false)
    (escaped : d.fixed = false) (literal : isExpression d.text.toList = false)
    (narrow : ∀ order, encoding = .utf16 order → RawFree d.text.toList) (compiled : compileLiteral d encoding = .ok l)
    (fits : (Expr.literal l.bytes).fits) :
    compileRegex (grouped d) encoding = .ok ⟨.literal l.bytes, l.bytes.length, some l.bytes.length⟩ := by
  have cased : (grouped d).nocase = false := cased
  cases encoding with
  | ascii =>
    obtain ⟨signs, _, ⟨each, written, rfl⟩, -, same, some, char⟩ :=
      exists_signs_of_compileLiteral encodes_ascii escaped literal compiled
    have spelled : spellEscapes false _ = _ := spellEscapes_grouped each nofun written
    have read : expressionOf? false false _ = _ := expressionOf?_signs each (.inr char) (same ▸ some)
    rw [compileRegex, if_pos (isAscii_grouped each written char)]
    rw [← same] at read
    exact compileExpression_literal spelled (cased ▸ read) rfl some fits
  | utf8 =>
    obtain ⟨signs, _, ⟨each, written, rfl⟩, -, same, some, -⟩ :=
      exists_signs_of_compileLiteral encodes_utf8 escaped literal compiled
    have spelled : spellEscapes false _ = _ := spellEscapes_grouped each nofun written
    have read := expressionOf?_signs each (.inl rfl) (same ▸ some)
    rw [← same] at read
    exact compileExpression_literal spelled (cased ▸ read) rfl some fits
  | utf16 order =>
    obtain ⟨signs, _, ⟨each, written, rfl⟩, pieces, same, some, -⟩ :=
      exists_signs_of_compileLiteral (encodes_utf16 order) escaped literal compiled
    obtain ⟨noBytes, all⟩ := (narrow order rfl).chars pieces
    generalize signs.map (·.literal.char) = chars at all
    have bytes (code : Coding) : (signs.map Sign.piece).flatMap (Piece.bytes code) = chars.flatMap code := by
      rw [all, List.flatMap_map]
      rfl
    have same : l.bytes = Utf16.encode order chars := same.trans (bytes (utf16 order))
    have someUtf8 : (signs.map Sign.piece).flatMap (Piece.bytes utf8) ≠ [] := by
      rw [bytes]
      cases chars with
      | nil => exact absurd same some
      | cons c chars => simp [utf8]
    have spelled : spellEscapes true _ = _ := spellEscapes_grouped each (fun _ => noBytes) written
    have read := expressionOf?_signs each (.inl rfl) someUtf8
    have wide := widen_literal order (same ▸ some)
    rw [bytes] at read
    rw [← same] at wide
    exact compileExpression_literal spelled (cased ▸ read) wide some fits
  | other set => exact absurd rfl (own set)

end grouped

/-- Wherever a pattern is a literal, the same text in a group compiles to an expression that matches the
literal's bytes and nothing else. -/
theorem grouped_matches_literal {d : PatternDef} {encoding : Encoding} {l : LiteralPattern}
    (label : Encoding.labelled? d.encoding = some encoding) (own : ∀ set, encoding ≠ .other set)
    (cased : d.nocase = false) (escaped : d.fixed = false)
    (narrow : ∀ order, encoding = .utf16 order → RawFree d.text.toList) (compiled : d.compile = .ok (.literal l))
    (fits : (Expr.literal l.bytes).fits) :
    ∃ r, (grouped d).compile = .ok (.regex r) ∧ r.shortest = l.bytes.length ∧ r.longest = some l.bytes.length ∧
      (∀ w, w ∈ r.expr.language ↔ w = l.bytes) ∧
      ∀ text pos stop, pos ≤ text.length →
        (r.expr.endAt? text pos = some stop ↔ stop = pos + l.bytes.length ∧ l.bytes <+: text.drop pos) := by
  have label' : Encoding.labelled? (grouped d).encoding = some encoding := label
  have plain : (grouped d).fixed = false := escaped
  have some : (grouped d).text.isEmpty = false := by
    rw [← Bool.not_eq_true, String.isEmpty_iff, ← String.toList_eq_nil_iff, toList_grouped]
    simp
  simp only [PatternDef.compile, label] at compiled
  split at compiled
  · nomatch compiled
  split at compiled
  · obtain ⟨_, -, same⟩ := map_eq_ok.mp compiled
    nomatch same
  rename_i literal
  obtain ⟨l, accepted, same⟩ := map_eq_ok.mp compiled
  obtain rfl := CompiledPattern.literal.inj same
  have literal : isExpression d.text.toList = false := by simpa [escaped] using literal
  have group := compileRegex_grouped own cased escaped literal narrow accepted fits
  refine ⟨⟨.literal l.bytes, l.bytes.length, .some l.bytes.length⟩, ?_, rfl, rfl, fun w => Iff.rfl,
    fun _ _ _ => endAt?_literal⟩
  simp only [PatternDef.compile, label', some, plain, isExpression_grouped, group]
  rfl

/-- A text with a raw byte in UTF-8, and one of which UTF-16 takes a pair of units for the last character. -/
theorem escapes_grouped :
    (∃ r, (grouped ⟨"é\\zff\\n\\.", false, false, "UTF-8"⟩).compile = .ok (.regex r) ∧
      (∀ w, w ∈ r.expr.language ↔ w = [0xc3, 0xa9, 0xff, 0x0a, 0x2e]) ∧
      r.expr.endAt? [0x20, 0xc3, 0xa9, 0xff, 0x0a, 0x2e, 0x20] 1 = some 6) ∧
    ∃ r, (grouped ⟨"\\x41\\0😀", false, false, "UTF-16LE"⟩).compile = .ok (.regex r) ∧
      (∀ w, w ∈ r.expr.language ↔ w = [0x41, 0, 0, 0, 0x3d, 0xd8, 0x00, 0xde]) ∧ r.longest = some 8 := by
  constructor
  · obtain ⟨r, compiled, -, -, words, search⟩ := grouped_matches_literal
      (d := ⟨"é\\zff\\n\\.", false, false, "UTF-8"⟩) (l := ⟨[0xc3, 0xa9, 0xff, 0x0a, 0x2e], false⟩)
      (show _ = some .utf8 from rfl) nofun rfl rfl nofun rfl (by decide)
    exact ⟨r, compiled, words, (search _ _ _ (by decide)).mpr (by decide)⟩
  · have read : escapedPieces "\\x41\\0😀".toList = .ok [.char 'A', .char '\x00', .char '😀'] := rfl
    have free : RawFree "\\x41\\0😀".toList := by
      intro ps same b
      obtain rfl := Except.ok.inj (read.symm.trans same)
      simp
    obtain ⟨r, compiled, -, longest, words, -⟩ := grouped_matches_literal
      (d := ⟨"\\x41\\0😀", false, false, "UTF-16LE"⟩) (l := ⟨[0x41, 0, 0, 0, 0x3d, 0xd8, 0x00, 0xde], false⟩)
      (show _ = some (.utf16 .little) from rfl) nofun rfl rfl (fun _ _ => free) rfl (by decide)
    exact ⟨r, compiled, words, longest⟩

end Triage.Pattern
