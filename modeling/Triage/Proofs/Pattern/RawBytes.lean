import Triage.Proofs.Pattern.Escapes

/-! Raw bytes in expressions. An escape for a raw byte is spelled as a group; it is read as an atom for the byte, at
the place where another character is read in its stead. -/

namespace Triage.Pattern
open Regex

/-! ## Fillings -/

/-- Characters that stand for themselves wherever one may stand in an expression. -/
def marks : List Char := ['"', '%', '/', ';', '@']

/-- Each gap holds a character. -/
def markFilling (mark : Nat → Char) (known : ∀ n, mark n ∈ marks) : Filling where
  text n := [mark n]
  atom n := .literal ⟨mark n, false⟩
  opens n := ⟨mark n, List.mem_cons_of_mem _ (known n), [], rfl⟩
  repeats _ _ := rfl
  reads n fuel branches parts r rest plain _ := by
    have ordinary : ∀ c ∈ marks, c ≠ '\\' ∧ isOperator c = false := List.all_iff_forall_prop.mp (by decide)
    obtain ⟨backslash, literal⟩ := ordinary _ (known n)
    obtain ⟨_, skipBlanks, names, groups⟩ := r
    obtain rfl : skipBlanks = false := plain
    refine (readBranches_primitive literal).trans ?_
    rw [run_readPrimitive_plain backslash literal]
    rfl

/-- The raw byte of one of the gaps. -/
def rawSign (digits : List (Char × Char)) (n : Nat) : Sign :=
  .byte (digits.getD n ('0', '0')).1 (digits.getD n ('0', '0')).2

theorem fits_rawSign {digits : List (Char × Char)} (pairs : ∀ d ∈ digits, (hexPair? d.1 d.2).isSome) (n : Nat) :
    (rawSign digits n).Fits := by
  rw [rawSign, Sign.Fits, List.getD_eq_getElem?_getD]
  cases found : digits[n]? with
  | none => decide
  | some d => exact pairs d (List.mem_of_getElem? found)

/-- Each gap holds a raw byte in a group. -/
def rawFilling (digits : List (Char × Char)) (pairs : ∀ d ∈ digits, (hexPair? d.1 d.2).isSome) : Filling where
  text n := (rawSign digits n).respelled
  atom n := (rawSign digits n).tree
  opens n := ⟨'(', List.mem_cons_self, _, rfl⟩
  repeats _ _ := rfl
  reads n fuel branches parts r rest plain room := by
    obtain ⟨spare, rfl⟩ : ∃ spare, fuel = spare + 2 := ⟨fuel - 2, by
      have long : 10 ≤ fuel + 1 := room
      omega⟩
    obtain ⟨_, skipBlanks, names, groups⟩ := r
    obtain rfl : skipBlanks = false := plain
    exact readBranches_sign (fits_rawSign pairs n)

section spelling
variable {n depth : Nat} {es : List Element}

theorem spell_mark (mark : Nat → Char) (known : ∀ n, mark n ∈ marks) (fit : Fit depth es) (k : Nat) :
    spellEscapesFrom false k (marked mark n es) = .ok ((markFilling mark known).spell (glyphsFrom n es)) := by
  induction es generalizing depth n k with
  | nil => rfl
  | cons t es ih =>
    cases t with
    | raw high low =>
      have plain : ∀ c ∈ marks, c ≠ '\\' ∧ ∀ k, deepened k c = k := by
        simp only [marks, List.forall_mem_cons, deepened]
        simp
      obtain ⟨backslash, same⟩ := plain _ (known n)
      rw [marked, spellEscapesFrom_char backslash, same, ih fit.2.2]
      rfl
    | escape c =>
      have text : marked mark n (.escape c :: es) = '\\' :: c :: marked mark n es := rfl
      have glyphs : glyphsFrom n (.escape c :: es) = (Element.escape c).spelled.map .char ++ glyphsFrom n es := rfl
      rw [text, spellEscapesFrom_escape fit.1, ih fit.2, glyphs, spell_chars]
      rfl
    | char c =>
      have text : marked mark n (.char c :: es) = c :: marked mark n es := rfl
      rw [text, spellEscapesFrom_char fit.1, ih fit.2]
      rfl

theorem spell_raw {digits : List (Char × Char)} (pairs : ∀ d ∈ digits, (hexPair? d.1 d.2).isSome)
    (left : digits.drop n = rawDigits es) :
    (rawFilling digits pairs).spell (glyphsFrom n es) = es.flatMap Element.spelled := by
  induction es generalizing n with
  | nil => rfl
  | cons t es ih =>
    cases t with
    | raw high low =>
      have here : digits[n]? = some (high, low) := by
        rw [← List.head?_drop, left]
        rfl
      have behind : digits.drop (n + 1) = rawDigits es := by
        rw [← List.tail_drop, left]
        rfl
      have sign : (rawSign digits n).respelled = (Element.raw high low).spelled := by
        rw [rawSign, List.getD_eq_getElem?_getD, here]
        rfl
      rw [glyphsFrom, Filling.spell, ih behind, List.flatMap_cons, ← sign]
      rfl
    | escape c =>
      have glyphs : glyphsFrom n (.escape c :: es) = (Element.escape c).spelled.map .char ++ glyphsFrom n es := rfl
      rw [glyphs, spell_chars, ih left]
      rfl
    | char c =>
      have glyphs : glyphsFrom n (.char c :: es) = .char c :: glyphsFrom n es := rfl
      rw [glyphs, Filling.spell, ih left]
      rfl

theorem pairs_of_fit (fit : Fit depth es) : ∀ d ∈ rawDigits es, (hexPair? d.1 d.2).isSome := by
  induction es generalizing depth with
  | nil => exact List.forall_mem_nil _
  | cons t es ih =>
    cases t with
    | raw high low => exact List.forall_mem_cons.mpr ⟨fit.2.1, ih fit.2.2⟩
    | escape c => exact ih fit.2
    | char c => exact ih fit.2

end spelling

/-! ## Meaning -/

/-- The written expression reads as the byte whatever flags are in force. -/
def IsByteAtom (b : UInt8) (s : Syntax) : Prop := ∀ flags : Flags, s.elaborate? flags = some (.literal [b], flags)

/-- An atom for a byte: the byte's escape with neither Unicode nor other cases. -/
def byteAtom (b : UInt8) : Syntax :=
  .group (.plain [(.unicode, false), (.ignoreCase, false)]) (.literal ⟨Char.ofNat b.toNat, true⟩)

theorem isByteAtom_byteAtom (b : UInt8) : IsByteAtom b (byteAtom b) := by
  intro flags
  have valid : (Char.ofNat b.toNat).toNat = b.toNat := by
    have small := b.toNat_lt
    exact Utf8.toNat_ofNat_of_valid (.inl (by omega))
  let inner := flags.update [(.unicode, false), (.ignoreCase, false)]
  have read : inner.literal ⟨Char.ofNat b.toNat, true⟩ = .literal [b.toNat.toUInt8] := literal_byte rfl rfl valid
  rw [byteAtom, Syntax.elaborate?]
  simp only [Syntax.elaborate?]
  rw [read]
  simp

/-- The bytes that a text has escapes for. -/
def rawBytes (es : List Element) : List UInt8 := (rawDigits es).map fun d => (Sign.number d.1 d.2).toUInt8

section meaning
variable {es : List Element}

theorem keeps_of_calm {frame : Frame} (calm : frame.Calm) :
    ∀ change ∈ frame.changes, ∀ flags : Flags, flags.ignoreCase = false → (flags.update change).ignoreCase = false := by
  intro change member flags sharp
  change (change.value? .ignoreCase).getD flags.ignoreCase = false
  cases value : change.value? .ignoreCase with
  | none => exact sharp
  | some on =>
    cases on with
    | false => rfl
    | true => exact absurd (mem_of_value? value) (calm change member).1

/-- Where case is not ignored, a raw byte in a group is an atom for the byte. -/
theorem meanSame_raw {atoms : Nat → Syntax} (pairs : ∀ d ∈ rawDigits es, (hexPair? d.1 d.2).isSome)
    (exact_ : ∀ n, IsByteAtom ((rawBytes es).getD n 0) (atoms n)) :
    Frame.MeanSame (fun flags => flags.ignoreCase = false) atoms (rawFilling (rawDigits es) pairs).atom := by
  intro n flags sharp
  have byte : (rawBytes es).getD n 0 =
      (Sign.number ((rawDigits es).getD n ('0', '0')).1 ((rawDigits es).getD n ('0', '0')).2).toUInt8 := by
    rw [rawBytes, List.getD_eq_getElem?_getD, List.getElem?_map, List.getD_eq_getElem?_getD]
    cases (rawDigits es)[n]? <;> rfl
  have raw : (rawFilling (rawDigits es) pairs).atom n = (rawSign (rawDigits es) n).tree := rfl
  have read := elaborate?_sign (fits_rawSign pairs n) sharp (.inr nofun)
  rw [raw, read, exact_ n flags, byte]
  refine ⟨rfl, fun e after same => ?_⟩
  obtain ⟨-, rfl⟩ := Prod.mk.inj (Option.some.inj same)
  exact sharp

end meaning

/-! ## Expressions that compile -/

/-- The tree that is read where the raw bytes of the text are replaced by characters. -/
def markedTree? (mark : Nat → Char) (text : List Char) : Option Syntax :=
  (spellEscapes false (marked mark 0 (elements text))).toOption.bind parse?

/-- The flags that a text without regard to case is read under. -/
def sharpFlags (unicode : Bool) : Flags := { unicode, ignoreCase := false }

section compiling
variable {text : List Char} {unicode : Bool}

/-- What is spelled is a text with gaps, filled with raw bytes in groups. -/
theorem filling_of_spelled {out : List Char} (spelled : spellEscapes false text = .ok out)
    (straight : isStraight (elements text)) :
    ClearWithin 0 (glyphsFrom 0 (elements text)) ∧
      (∃ pairs, out = (rawFilling (rawDigits (elements text)) pairs).spell (glyphsFrom 0 (elements text))) ∧
      ∀ mark known, markedTree? mark text = parse? ((markFilling mark known).spell (glyphsFrom 0 (elements text))) := by
  obtain ⟨fit, rfl⟩ := spelled_elements spelled
  refine ⟨⟨0, Nat.le_refl 0, clear_elements fit straight⟩, ⟨pairs_of_fit fit, ?_⟩, fun mark known => ?_⟩
  · exact (spell_raw (pairs_of_fit fit) List.drop_zero).symm
  · rw [markedTree?, spellEscapes, spell_mark mark known fit]
    rfl

/-- The tree of an expression with raw bytes is that of the text with characters in their places. -/
theorem exists_frame {out : List Char} {e : Expr} (straight : isStraight (elements text))
    (spelled : spellEscapes false text = .ok out) (read : expressionOf? unicode false out = some e) :
    ∃ frame : Frame,
      (∀ mark, (∀ n, mark n ∈ marks) → markedTree? mark text = some (frame.fill fun n => .literal ⟨mark n, false⟩)) ∧
      ∀ atoms, (∀ n, IsByteAtom ((rawBytes (elements text)).getD n 0) (atoms n)) →
        ∃ flags, (frame.fill atoms).elaborate? (sharpFlags unicode) = some (e, flags) := by
  obtain ⟨within, ⟨pairs, rfl⟩, marked⟩ := filling_of_spelled spelled straight
  obtain ⟨tree, parsed, read⟩ := Option.bind_eq_some_iff.mp read
  obtain ⟨⟨_, flags⟩, elaborated, same⟩ := Option.bind_eq_some_iff.mp read
  obtain rfl := Option.some.inj same
  obtain ⟨frame, calm, rfl, each⟩ := parse?_spell within parsed (plain_of_elaborate? elaborated)
  refine ⟨frame, fun mark known => ?_, fun atoms bytes => ⟨flags, ?_⟩⟩
  · rw [marked mark known, each]
    have shallow (n : Nat) : ((markFilling mark known).atom n).depth ≤ ((rawFilling _ pairs).atom n).depth := Nat.zero_le _
    have limit : (frame.fill (rawFilling _ pairs).atom).depth ≤ Syntax.depthLimit := by
      simpa [Option.guard] using (each _).symm.trans parsed
    rw [Option.guard, if_pos (decide_eq_true ((Frame.depth_fill_le shallow frame).trans limit))]
    rfl
  · exact (Frame.elaborate?_fill (meanSame_raw pairs bytes) rfl frame (keeps_of_calm calm)).1.trans elaborated

/-- Where raw bytes are spelled at all, what stands in their places shows in no class. -/
theorem classes_of_spelled {out : List Char} (straight : isStraight (elements text))
    (spelled : spellEscapes false text = .ok out) {mark mark' : Nat → Char} (known : ∀ n, mark n ∈ marks) (known' : ∀ n, mark' n ∈ marks) {tree tree' : Syntax}
    (first : markedTree? mark text = some tree) (second : markedTree? mark' text = some tree')
    (means : (tree.elaborate? (sharpFlags unicode)).isSome) : tree.classes = tree'.classes := by
  obtain ⟨within, -, marked⟩ := filling_of_spelled spelled straight
  obtain ⟨⟨e, flags⟩, elaborated⟩ := Option.isSome_iff_exists.mp means
  rw [marked mark known] at first
  rw [marked mark' known'] at second
  obtain ⟨frame, -, rfl, each⟩ := parse?_spell within first (plain_of_elaborate? elaborated)
  obtain rfl : frame.fill (markFilling mark' known').atom = tree' := by
    have same := (each (markFilling mark' known')).symm.trans second
    simp only [Option.guard] at same
    split at same
    case isTrue => exact Option.some.inj same
    case isFalse => nomatch same
  refine Frame.classes_fill (fun n => ?_) frame
  rfl

end compiling

section compiling
variable {d : PatternDef} {encoding : Encoding} {p : RegexPattern}

theorem compileRegex_narrow (narrow : encoding = .ascii ∨ encoding = .utf8)
    (encodable : encoding = .ascii → d.text.toList.all Charset.isAscii) :
    compileRegex d encoding = compileExpression d (encoding == .utf8) none := by
  rcases narrow with rfl | rfl <;> exact compileRegex_of_mode rfl encodable

/-- Where classes start with no closing bracket and parentheses open well, an expression that compiles is the one
whose raw bytes are atoms for the bytes, and a raw byte in a class is an invalid escape. The places of the raw bytes
are those of characters that are put there. -/
theorem compileRegex_rawBytes (narrow : encoding = .ascii ∨ encoding = .utf8) (sharp : d.nocase = false)
    (straight : isStraight (elements d.text.toList)) :
    (∀ p, compileRegex d encoding = .ok p → ∃ frame : Frame,
      (∀ mark, (∀ n, mark n ∈ marks) →
        markedTree? mark d.text.toList = some (frame.fill fun n => .literal ⟨mark n, false⟩)) ∧
      ∀ atoms, (∀ n, IsByteAtom ((rawBytes (elements d.text.toList)).getD n 0) (atoms n)) →
        ∃ e flags, (frame.fill atoms).elaborate? (sharpFlags (encoding == .utf8)) = some (e, flags) ∧
          Searches p (encoding == .utf8) e) ∧
    ∀ mark mark' tree tree', (∀ n, mark n ∈ marks) → (∀ n, mark' n ∈ marks) →
      markedTree? mark d.text.toList = some tree → markedTree? mark' d.text.toList = some tree' →
      (tree.elaborate? (sharpFlags (encoding == .utf8))).isSome → tree.classes ≠ tree'.classes →
      (encoding = .ascii → d.text.toList.all Charset.isAscii) →
      ∃ fault, compileRegex d encoding = .error (.invalidEscape d.text fault) := by
  constructor
  · intro p compiled
    rw [compileRegex_narrow narrow (encodable_of_compileRegex compiled)] at compiled
    obtain ⟨out, e, wide, spelled, read, -, widened, -, searches⟩ := exists_of_compileExpression compiled
    obtain rfl := Except.ok.inj widened
    rw [sharp] at read
    obtain ⟨frame, places, bytes⟩ := exists_frame straight spelled read
    refine ⟨frame, places, fun atoms exact_ => ?_⟩
    obtain ⟨flags, means⟩ := bytes atoms exact_
    exact ⟨e, flags, means, searches⟩
  · intro mark mark' tree tree' known known' first second means shows encodable
    rw [compileRegex_narrow narrow encodable, compileExpression]
    cases spelled : spellEscapes false d.text.toList with
    | error fault => 
      refine ⟨fault, ?_⟩
      simp only [Option.isSome_none, spelled]
      rfl
    | ok out => exact absurd (classes_of_spelled straight spelled known known' first second means) shows

theorem exists_ok {ε α : Type} {x : Except ε α} (found : x.toOption.isSome) : ∃ a, x = .ok a := by
  cases x with
  | error e => nomatch found
  | ok a => exact ⟨a, rfl⟩

theorem rawByte_atom :
    (∃ (p : RegexPattern) (frame : Frame), compileRegex { text := "x+\\z41" } .ascii = .ok p ∧
      markedTree? (fun _ => '%') "x+\\z41".toList = some (frame.fill fun _ => .literal ⟨'%', false⟩) ∧
      ∃ e flags, (frame.fill fun n => byteAtom ((rawBytes (elements "x+\\z41".toList)).getD n 0)).elaborate?
        (sharpFlags false) = some (e, flags) ∧ Searches p false e) ∧
    ∃ fault, compileRegex { text := "[a\\z41]" } .ascii = .error (.invalidEscape "[a\\z41]" fault) := by
  constructor
  · obtain ⟨p, compiled⟩ : ∃ p, compileRegex { text := "x+\\z41" } .ascii = .ok p := exists_ok (by decide +kernel)
    obtain ⟨frame, places, bytes⟩ := (compileRegex_rawBytes (.inl rfl) rfl (by decide)).1 p compiled
    exact ⟨p, frame, compiled, places _ fun _ => by decide, bytes _ fun n => isByteAtom_byteAtom _⟩
  · refine (compileRegex_rawBytes (.inl rfl) rfl (by decide)).2 (fun _ => '%') (fun _ => ';') _ _ (fun _ => by decide)
      (fun _ => by decide) rfl rfl rfl ?_ fun _ => by decide
    intro same
    nomatch same

/-- A closing bracket that stands for itself is taken for the end of the class: the raw byte behind it compiles,
though it stands in the class. -/
theorem closingBracket_first :
    (∃ p, compileRegex { text := "[]\\z41]" } .ascii = .ok p) ∧
      markedTree? (fun _ => '%') "[]\\z41]".toList =
        some (.bracket false (.union [.literal ⟨']', false⟩, .literal ⟨'%', false⟩])) := by
  refine ⟨?_, rfl⟩
  let read : RangeSet := ⟨[(40, 41), (58, 58), (63, 117)], by decide, by decide⟩
  have range : RangeSet.ofList [(63, 117)] = ⟨[(63, 117)], by decide, by decide⟩ := RangeSet.ofList_eq (by cbv) rfl
  have paren : (RangeSet.singleton 41).union .empty = .singleton 41 := RangeSet.ofList_eq (by cbv) rfl
  have letter : (RangeSet.singleton 65).union (.singleton 41) = ⟨[(41, 41), (65, 65)], by decide, by decide⟩ :=
    RangeSet.ofList_eq (by cbv) rfl
  have colon : (RangeSet.singleton 58).union ⟨[(41, 41), (65, 65)], by decide, by decide⟩ =
      ⟨[(41, 41), (58, 58), (65, 65)], by decide, by decide⟩ := RangeSet.ofList_eq (by cbv) rfl
  have signs : RangeSet.union ⟨[(63, 117)], by decide, by decide⟩ ⟨[(41, 41), (58, 58), (65, 65)], by decide, by decide⟩ =
      ⟨[(41, 41), (58, 58), (63, 117)], by decide, by decide⟩ := RangeSet.ofList_eq (by cbv) rfl
  have opening : (RangeSet.singleton 40).union ⟨[(41, 41), (58, 58), (63, 117)], by decide, by decide⟩ = read :=
    RangeSet.ofList_eq (by cbv) rfl
  have closing : (RangeSet.singleton 93).union read = read := RangeSet.ofList_eq (by cbv) rfl
  have set : (sharpFlags false).classSet? (.union [.literal ⟨']', false⟩, .literal ⟨'(', false⟩,
      .range ⟨'?', false⟩ ⟨'u', false⟩, .literal ⟨':', false⟩, .literal ⟨'A', true⟩, .literal ⟨')', false⟩]) =
      some read := by
    change some ((RangeSet.singleton 93).union ((RangeSet.singleton 40).union ((RangeSet.ofList [(63, 117)]).union
      ((RangeSet.singleton 58).union ((RangeSet.singleton 65).union ((RangeSet.singleton 41).union .empty)))))) = _
    rw [paren, letter, colon, range, signs, opening, closing]
  have parsed : parse? "[](?-u:\\x41)]".toList = some (.bracket false (.union [.literal ⟨']', false⟩, .literal ⟨'(', false⟩,
      .range ⟨'?', false⟩ ⟨'u', false⟩, .literal ⟨':', false⟩, .literal ⟨'A', true⟩, .literal ⟨')', false⟩])) := rfl
  have expression : expressionOf? false false "[](?-u:\\x41)]".toList = some (.byteClass read) := by
    rw [expressionOf?, parsed, Option.bind_eq_bind, Option.bind_some, Syntax.elaborate?]
    change Option.bind (((sharpFlags false).classSet? _).map _) _ = _
    rw [set]
    rfl
  have spelled : spellEscapes false "[]\\z41]".toList = .ok "[](?-u:\\x41)]".toList := rfl
  have compiled : compileExpression { text := "[]\\z41]" } false none = .ok ⟨.byteClass read, 1, some 1⟩ :=
    @compileExpression_eq { text := "[]\\z41]" } false none _ _ _ _ spelled expression rfl rfl Nat.one_ne_zero rfl rfl
  exact ⟨_, (compileRegex_narrow (.inl rfl) fun _ => by decide).trans compiled⟩

end compiling

end Triage.Pattern
