import Mathlib.Data.Bool.AllAny
import Triage.Proofs.Pattern.Literal
import Triage.Proofs.Regex.Units
import Triage.Proofs.Search.Transfer

/-! The case of letters. A literal that ignores case is compared byte by byte, and each byte that is the code
of an ASCII letter stands for both cases. So the text is found in any case; nothing else is found with it just
if no byte looks like a letter without being the code of one. -/

namespace Triage
open Regex Search Pattern

/-! ## Letters -/

def isLetterByte (b : UInt8) : Bool := (65 ≤ b && b ≤ 90) || (97 ≤ b && b ≤ 122)

def otherCase (b : UInt8) : UInt8 := if 97 ≤ b then b - 32 else b + 32

section bytes
variable {a b : UInt8}

theorem toNat_foldCase (b : UInt8) :
    (foldCase b).toNat = if 65 ≤ b.toNat ∧ b.toNat ≤ 90 then b.toNat + 32 else b.toNat := by
  have bounds : (65 ≤ b && b ≤ 90) = decide (65 ≤ b.toNat ∧ b.toNat ≤ 90) := by
    simp [UInt8.le_iff_toNat_le]
  have gap : (32 : UInt8).toNat = 32 := rfl
  rw [foldCase, bounds]
  by_cases upper : 65 ≤ b.toNat ∧ b.toNat ≤ 90
  · rw [if_pos (decide_eq_true upper), if_pos upper, UInt8.toNat_add]
    omega
  · rw [if_neg (by simpa using upper), if_neg upper]

theorem isLetterByte_iff : isLetterByte b ↔ 65 ≤ b.toNat ∧ b.toNat ≤ 90 ∨ 97 ≤ b.toNat ∧ b.toNat ≤ 122 := by
  simp [isLetterByte, UInt8.le_iff_toNat_le]

theorem toNat_otherCase (letter : isLetterByte b) :
    (otherCase b).toNat = if 97 ≤ b.toNat then b.toNat - 32 else b.toNat + 32 := by
  have gap : (32 : UInt8).toNat = 32 := rfl
  have low : (97 : UInt8).toNat = 97 := rfl
  rw [isLetterByte_iff] at letter
  simp only [otherCase, UInt8.le_iff_toNat_le]
  split
  · rw [if_pos (by omega), UInt8.toNat_sub]
    omega
  · rw [if_neg (by omega), UInt8.toNat_add]
    omega

/-- Bytes are taken for the same one if they are, or if they are the two cases of a letter. -/
theorem foldCase_eq_iff : foldCase a = foldCase b ↔ a = b ∨ isLetterByte b ∧ a = otherCase b := by
  rw [← UInt8.toNat_inj, ← UInt8.toNat_inj (a := a) (b := b), toNat_foldCase, toNat_foldCase]
  by_cases letter : isLetterByte b
  · have other := toNat_otherCase letter
    rw [← UInt8.toNat_inj (a := a) (b := otherCase b), other, isLetterByte_iff]
    rw [isLetterByte_iff] at letter
    split <;> split <;> split <;> omega
  · rw [isLetterByte_iff] at letter ⊢
    split <;> split <;> omega

theorem otherCase_ne (letter : isLetterByte b) : otherCase b ≠ b := by
  have other := toNat_otherCase letter
  rw [ne_eq, ← UInt8.toNat_inj, other]
  rw [isLetterByte_iff] at letter
  split <;> omega

end bytes

/-- The character in the same case or in the other one. Only ASCII letters have two. -/
def Recased (c c' : Char) : Prop := c' = c ∨ c' = c.toLower ∨ c' = c.toUpper

section letters
variable {c c' : Char}

theorem ascii_of_isAlpha (letter : c.isAlpha) : c.toNat < 128 := by
  unfold Char.isAlpha Char.isUpper Char.isLower at letter
  simp only [Bool.or_eq_true, Bool.and_eq_true, decide_eq_true_eq,
    ge_iff_le, UInt32.le_iff_toNat_le] at letter
  change c.val.toNat < 128
  have upper : ('Z' : Char).val.toNat = 90 := rfl
  have lower : ('z' : Char).val.toNat = 122 := rfl
  omega

theorem eq_of_recased (other : c.isAlpha = false) (recased : Recased c c') : c' = c := by
  unfold Char.isAlpha at other
  rw [Bool.or_eq_false_iff] at other
  have lower : c.toLower = c := by
    refine dif_neg fun upper => ?_
    have isUpper : c.isUpper := by
      unfold Char.isUpper
      simpa using upper
    rw [isUpper] at other
    cases other.1
  have upper : c.toUpper = c := by
    refine dif_neg fun lower => ?_
    have isLower : c.isLower := by
      unfold Char.isLower
      simpa using lower
    rw [isLower] at other
    cases other.2
  rcases recased with rfl | rfl | rfl
  · rfl
  · exact lower
  · exact upper

theorem forall_ascii {P : Char → Prop} (each : ∀ n : Fin 128, P (Char.ofNat n)) (ascii : c.toNat < 128) : P c := by
  have here := each ⟨c.toNat, ascii⟩
  rwa [Char.ofNat_toNat] at here

theorem fold_of_recased (letter : c.isAlpha) (recased : Recased c c') :
    c'.toNat < 128 ∧ foldCase c'.toNat.toUInt8 = foldCase c.toNat.toUInt8 := by
  have both : ∀ n : Fin 128, (Char.ofNat n).isAlpha → [(Char.ofNat n).toLower, (Char.ofNat n).toUpper].all fun c' =>
      c'.toNat < 128 ∧ foldCase c'.toNat.toUInt8 = foldCase (Char.ofNat n).toNat.toUInt8 := by decide
  have ascii := ascii_of_isAlpha letter
  have cases := List.all_iff_forall_prop.mp <| forall_ascii (P := fun c => c.isAlpha → [c.toLower, c.toUpper].all fun c' =>
    c'.toNat < 128 ∧ foldCase c'.toNat.toUInt8 = foldCase c.toNat.toUInt8) both ascii letter
  rcases recased with rfl | rfl | rfl
  · exact ⟨ascii, rfl⟩
  · exact cases _ (by simp)
  · exact cases _ (by simp)

/-- Each byte that is taken for that of a letter is that of one of its cases. -/
theorem recased_of_fold (letter : c.isAlpha) {a : UInt8} (same : foldCase a = foldCase c.toNat.toUInt8) :
    ∃ c', Recased c c' ∧ a = c'.toNat.toUInt8 := by
  have other : ∀ n : Fin 128, (Char.ofNat n).isAlpha →
      otherCase (Char.ofNat n).toNat.toUInt8 = (Char.ofNat n).toLower.toNat.toUInt8 ∨
      otherCase (Char.ofNat n).toNat.toUInt8 = (Char.ofNat n).toUpper.toNat.toUInt8 := by decide
  rcases foldCase_eq_iff.mp same with rfl | ⟨-, rfl⟩
  · exact ⟨c, .inl rfl, rfl⟩
  · rcases forall_ascii (P := fun c => c.isAlpha → otherCase c.toNat.toUInt8 = c.toLower.toNat.toUInt8 ∨
      otherCase c.toNat.toUInt8 = c.toUpper.toNat.toUInt8) other (ascii_of_isAlpha letter) letter with lower | upper
    · exact ⟨_, .inr (.inl rfl), lower⟩
    · exact ⟨_, .inr (.inr rfl), upper⟩

end letters

/-! ## Pieces -/

/-- A piece in the same case or in the other one. Raw bytes have no case. -/
def Pattern.Piece.Recased : Piece → Piece → Prop
  | .char c, .char c' => Triage.Recased c c'
  | .byte b, .byte b' => b' = b
  | _, _ => False

/-- ASCII has the same bytes in a code as ever, with others around them that are no letters. -/
structure Surrounds (code : Coding) (before after : List UInt8) : Prop where
  ascii : ∀ c : Char, c.toNat < 128 → code c = before ++ c.toNat.toUInt8 :: after
  plain : ∀ b ∈ before ++ after, isLetterByte b = false

theorem surrounds_utf8 : Surrounds utf8 [] [] where
  ascii _ ascii := utf8_of_ascii ascii
  plain := by simp

theorem surrounds_utf16 (order : Utf16.Order) : ∃ before after, Surrounds (utf16 order) before after := by
  have unit {c : Char} (ascii : c.toNat < 128) : utf16 order c = Utf16.unitBytes order c.toNat :=
    utf16_of_basic (Nat.lt_trans ascii (by decide)) order
  have low {c : Char} (ascii : c.toNat < 128) : c.toNat % 256 = c.toNat ∧ c.toNat / 256 = 0 := by omega
  cases order with
  | little =>
    refine ⟨[], [0], fun c ascii => ?_, List.forall_mem_singleton.mpr rfl⟩
    rw [unit ascii, Utf16.unitBytes, (low ascii).1, (low ascii).2]
    rfl
  | big =>
    refine ⟨[0], [], fun c ascii => ?_, List.forall_mem_singleton.mpr rfl⟩
    rw [unit ascii, Utf16.unitBytes, (low ascii).1, (low ascii).2]
    rfl

/-- A letter, or a piece without bytes that look like letters. -/
def Pattern.Piece.Caseless (code : Coding) (piece : Piece) : Prop :=
  (∃ c, piece = .char c ∧ c.isAlpha) ∨ ∀ b ∈ piece.bytes code, isLetterByte b = false

section pieces
variable {code : Coding} {before after word : List UInt8} {piece piece' : Piece}

theorem map_foldCase_plain {bytes : List UInt8} (plain : ∀ b ∈ bytes, isLetterByte b = false)
    (same : word.map foldCase = bytes.map foldCase) : word = bytes := by
  induction bytes generalizing word with
  | nil => simpa using same
  | cons b bytes ih =>
    obtain ⟨first, others⟩ := List.forall_mem_cons.mp plain
    obtain ⟨a, word, rfl, head, tail⟩ := List.map_eq_cons_iff.mp same
    rw [ih others tail]
    rcases foldCase_eq_iff.mp head with rfl | ⟨letter, -⟩
    · rfl
    · rw [first] at letter
      nomatch letter

theorem fold_of_recasedPiece (around : Surrounds code before after) (recased : piece.Recased piece') :
    (piece'.bytes code).map foldCase = (piece.bytes code).map foldCase := by
  match piece, piece', recased with
  | .byte b, .byte _, rfl => rfl
  | .char c, .char c', recased =>
    cases letter : c.isAlpha with
    | false => rw [eq_of_recased letter recased]
    | true =>
      obtain ⟨ascii, same⟩ := fold_of_recased letter recased
      change (code c').map foldCase = (code c).map foldCase
      rw [around.ascii c' ascii, around.ascii c (ascii_of_isAlpha letter)]
      simp [same]

/-- What is taken for a piece is the piece in some case, if it has no bytes that look like letters only. -/
theorem recasedPiece_of_fold (around : Surrounds code before after) (caseless : piece.Caseless code)
    (same : word.map foldCase = (piece.bytes code).map foldCase) :
    ∃ piece', piece.Recased piece' ∧ word = piece'.bytes code := by
  have kept : piece.Recased piece := by
    cases piece with
    | char c => exact .inl rfl
    | byte b => exact rfl
  rcases caseless with ⟨c, rfl, letter⟩ | plain
  · change word.map foldCase = (code c).map foldCase at same
    rw [around.ascii c (ascii_of_isAlpha letter), List.map_append, List.map_cons] at same
    obtain ⟨front, rest, rfl, first, behind⟩ := List.map_eq_append_iff.mp same
    obtain ⟨a, back, rfl, middle, last⟩ := List.map_eq_cons_iff.mp behind
    obtain ⟨c', recased, rfl⟩ := recased_of_fold letter middle
    refine ⟨.char c', recased, ?_⟩
    change _ = code c'
    rw [around.ascii c' (fold_of_recased letter recased).1,
      map_foldCase_plain (fun b member => around.plain b (List.mem_append_left _ member)) first,
      map_foldCase_plain (fun b member => around.plain b (List.mem_append_right _ member)) last]
  · exact ⟨piece, kept, map_foldCase_plain plain same⟩

theorem fold_of_recasedPieces (around : Surrounds code before after) {ps ps' : List Piece}
    (recased : List.Forall₂ Piece.Recased ps ps') :
    (ps'.flatMap (Piece.bytes code)).map foldCase = (ps.flatMap (Piece.bytes code)).map foldCase := by
  induction recased with
  | nil => rfl
  | cons first _ ih =>
    rw [List.flatMap_cons, List.flatMap_cons, List.map_append, List.map_append, ih,
      fold_of_recasedPiece around first]

theorem recasedPieces_of_fold (around : Surrounds code before after) {ps : List Piece}
    (caseless : ∀ piece ∈ ps, piece.Caseless code)
    (same : word.map foldCase = (ps.flatMap (Piece.bytes code)).map foldCase) :
    ∃ ps', List.Forall₂ Piece.Recased ps ps' ∧ word = ps'.flatMap (Piece.bytes code) := by
  induction ps generalizing word with
  | nil => exact ⟨[], .nil, by simpa using same⟩
  | cons piece ps ih =>
    obtain ⟨first, others⟩ := List.forall_mem_cons.mp caseless
    rw [List.flatMap_cons, List.map_append] at same
    obtain ⟨front, rest, rfl, here, behind⟩ := List.map_eq_append_iff.mp same
    obtain ⟨piece', recased, rfl⟩ := recasedPiece_of_fold around first here
    obtain ⟨ps', more, rfl⟩ := ih others behind
    exact ⟨piece' :: ps', .cons recased more, rfl⟩

theorem eq_of_recasedPiece (other : ∀ c, piece = .char c → c.isAlpha = false) (recased : piece.Recased piece') :
    piece' = piece := by
  match piece, piece', recased with
  | .byte b, .byte _, rfl => rfl
  | .char c, .char c', recased => rw [eq_of_recased (other c rfl) recased]

/-- Where a byte only looks like a letter, the other case of it is no case of the text. -/
theorem exists_confused (around : Surrounds code before after) {ps : List Piece} (member : piece ∈ ps)
    (confused : ¬piece.Caseless code) : ∃ word, word.map foldCase = (ps.flatMap (Piece.bytes code)).map foldCase ∧
      ∀ ps', List.Forall₂ Piece.Recased ps ps' → word ≠ ps'.flatMap (Piece.bytes code) := by
  induction ps with
  | nil => nomatch member
  | cons q ps ih =>
    rcases List.mem_cons.mp member with rfl | member
    · obtain ⟨noLetter, someLetter⟩ := not_or.mp confused
      push Not at noLetter someLetter
      obtain ⟨b, inside, letter⟩ := someLetter
      obtain ⟨front, back, bytes⟩ := List.append_of_mem inside
      have letter : isLetterByte b := by simpa using letter
      have other : ∀ c, piece = .char c → c.isAlpha = false := fun c same => by simpa using noLetter c same
      have folded : foldCase (otherCase b) = foldCase b := foldCase_eq_iff.mpr (.inr ⟨letter, rfl⟩)
      refine ⟨front ++ otherCase b :: back ++ ps.flatMap (Piece.bytes code), ?_, ?_⟩
      · rw [List.flatMap_cons, bytes]
        simp [folded]
      · rintro _ (_ | ⟨first, more⟩) same
        rw [eq_of_recasedPiece other first, List.flatMap_cons, bytes] at same
        have here := (List.append_inj same (by simp)).1
        exact otherCase_ne letter (List.cons.inj (List.append_cancel_left here)).1
    · obtain ⟨word, folded, apart⟩ := ih member
      refine ⟨q.bytes code ++ word, ?_, ?_⟩
      · rw [List.flatMap_cons, List.map_append, List.map_append, folded]
      · rintro _ (_ | ⟨first, more⟩) same
        have length := congrArg List.length (fold_of_recasedPiece around first)
        rw [List.length_map, List.length_map] at length
        exact apart _ more (List.append_inj same length.symm).2

end pieces

/-! ## Encodings -/

/-- An encoding that encodes characters one by one, those it has, which it has in both cases. -/
structure Encoder (encoding : Encoding) (code : Coding) (has : Char → Prop) : Prop where
  encodes : Encodes encoding code has
  complete : ∀ text, (∀ c ∈ text, has c) → encoding.encode? text = some (text.flatMap code)
  recased : ∀ c c', has c → Recased c c' → has c'
  around : ∃ before after, Surrounds code before after

theorem exists_encoder {encoding : Encoding} (unicode : ∀ set, encoding ≠ .other set) :
    ∃ code has, Encoder encoding code has := by
  cases encoding with
  | other set => exact absurd rfl (unicode set)
  | utf8 => exact ⟨_, _, encodes_utf8, fun _ _ => rfl, fun _ _ _ _ => trivial, _, _, surrounds_utf8⟩
  | utf16 order =>
    exact ⟨_, _, encodes_utf16 order, fun _ _ => rfl, fun _ _ _ _ => trivial, surrounds_utf16 order⟩
  | ascii =>
    refine ⟨_, _, encodes_ascii, fun text ascii => ?_, fun c c' ascii recased => ?_, _, _, surrounds_utf8⟩
    · have each : text.all Charset.isAscii := List.all_eq_true.mpr fun c member => by
        simpa [Charset.isAscii] using ascii c member
      have bytes : text.flatMap utf8 = text.map fun c => c.toNat.toUInt8 := by
        rw [← List.flatMap_pure_eq_map]
        exact List.flatMap_congr fun c member => utf8_of_ascii (ascii c member)
      rw [Encoding.encode?, if_pos each, bytes]
    · cases letter : c.isAlpha with
      | true => exact (fold_of_recased letter recased).1
      | false => rwa [eq_of_recased letter recased]

section encoded
variable {encoding : Encoding} {code : Coding} {has : Char → Prop}

theorem Encoder.run_encoded (encoder : Encoder encoding code has) {run : List Char} (each : ∀ c ∈ run, has c) :
    encodePieces.encodeRun encoding run = .ok (run.reverse.flatMap code) := by
  unfold encodePieces.encodeRun
  split
  · rename_i empty
    rw [List.isEmpty_iff.mp empty]
    rfl
  · rw [encoder.complete run.reverse fun c member => each c (List.mem_reverse.mp member)]

theorem Encoder.pieces_encoded (encoder : Encoder encoding code has) {run : List Char} {ps : List Piece}
    (each : ∀ c ∈ run, has c) (later : ∀ c, .char c ∈ ps → has c) :
    encodePieces encoding run ps = .ok (run.reverse.flatMap code ++ ps.flatMap (Piece.bytes code)) := by
  induction ps generalizing run with
  | nil =>
    rw [encodePieces, encoder.run_encoded each, List.flatMap_nil, List.append_nil]
  | cons piece ps ih =>
    have others : ∀ c, .char c ∈ ps → has c := fun c member => later c (List.mem_cons_of_mem _ member)
    cases piece with
    | char c =>
      rw [encodePieces, ih (List.forall_mem_cons.mpr ⟨later c List.mem_cons_self, each⟩) others]
      simp [Piece.bytes]
    | byte b =>
      rw [encodePieces, encoder.run_encoded each, ih (by simp) others]
      rfl

theorem Encoder.recasedPieces (encoder : Encoder encoding code has) {ps ps' : List Piece}
    (each : ∀ c, .char c ∈ ps → has c) (recased : List.Forall₂ Piece.Recased ps ps') :
    ∀ c, .char c ∈ ps' → has c := by
  induction recased with
  | nil => simp
  | @cons piece piece' ps ps' first _ ih =>
    intro c' member
    rcases List.mem_cons.mp member with rfl | member
    · match piece, first with
      | .char c, first => exact encoder.recased c c' (each c List.mem_cons_self) first
    · exact ih (fun c inside => each c (List.mem_cons_of_mem _ inside)) c' member

end encoded

/-! ## Hits -/

/-- The bytes of the pieces in some case. -/
def Variant (encoding : Encoding) (ps : List Piece) (word : List UInt8) : Prop :=
  ∃ ps', List.Forall₂ Piece.Recased ps ps' ∧ encodePieces encoding [] ps' = .ok word

/-- Of the pieces' bytes those of letters alone look like letters. -/
def Caseless (encoding : Encoding) (ps : List Piece) : Prop :=
  ∀ piece ∈ ps, (∃ c, piece = .char c ∧ c.isAlpha) ∨
    ∀ bytes, encodePieces encoding [] [piece] = .ok bytes → ∀ b ∈ bytes, isLetterByte b = false

section variants
variable {encoding : Encoding} {code : Coding} {has : Char → Prop} {ps : List Piece}

theorem Encoder.variant_iff (encoder : Encoder encoding code has) (each : ∀ c, .char c ∈ ps → has c)
    {word : List UInt8} : Variant encoding ps word ↔
      ∃ ps', List.Forall₂ Piece.Recased ps ps' ∧ word = ps'.flatMap (Piece.bytes code) := by
  refine exists_congr fun ps' => and_congr_right fun recased => ?_
  rw [encoder.pieces_encoded (by simp) (encoder.recasedPieces each recased)]
  exact ⟨fun same => (Except.ok.inj same).symm, fun same => congrArg _ same.symm⟩

theorem Encoder.caseless_iff (encoder : Encoder encoding code has) (each : ∀ c, .char c ∈ ps → has c) :
    Caseless encoding ps ↔ ∀ piece ∈ ps, piece.Caseless code := by
  refine forall₂_congr fun piece member => or_congr_right ?_
  have alone : encodePieces encoding [] [piece] = .ok (piece.bytes code) := by
    have only : ∀ c, .char c ∈ [piece] → has c := fun c same => each c (List.mem_singleton.mp same ▸ member)
    simpa using encoder.pieces_encoded (List.forall_mem_nil has) only
  rw [alone]
  exact ⟨fun plain => plain _ rfl, fun plain bytes same => Except.ok.inj same ▸ plain⟩

/-- All variants fold as the text does, and nothing else does just if the text is caseless. -/
theorem Encoder.folds (encoder : Encoder encoding code has) (each : ∀ c, .char c ∈ ps → has c) :
    (∀ word, Variant encoding ps word → word.map foldCase = (ps.flatMap (Piece.bytes code)).map foldCase) ∧
      ((∀ word : List UInt8, word.map foldCase = (ps.flatMap (Piece.bytes code)).map foldCase →
        Variant encoding ps word) ↔ Caseless encoding ps) := by
  obtain ⟨before, after, around⟩ := encoder.around
  refine ⟨fun word variant => ?_, fun only => ?_, fun caseless word same => ?_⟩
  · obtain ⟨ps', recased, rfl⟩ := (encoder.variant_iff each).mp variant
    exact fold_of_recasedPieces around recased
  · refine (encoder.caseless_iff each).mpr fun piece member => ?_
    by_contra confused
    obtain ⟨word, folded, apart⟩ := exists_confused around member confused
    obtain ⟨ps', recased, same⟩ := (encoder.variant_iff each).mp (only word folded)
    exact apart ps' recased same
  · exact (encoder.variant_iff each).mpr (recasedPieces_of_fold around ((encoder.caseless_iff each).mp caseless) same)

end variants

theorem literal_of_compile {d : PatternDef} {l : LiteralPattern} {encoding : Encoding}
    (compiled : d.compile = .ok (.literal l)) (labelled : Encoding.labelled? d.encoding = some encoding) :
    ∃ ps bytes, pieces d.fixed d.text.toList = .ok ps ∧ encodePieces encoding [] ps = .ok bytes ∧
      l = ⟨bytes, d.nocase⟩ := by
  obtain ⟨known, same, ⟨r, -, wrong⟩ | ⟨found, made, literal⟩⟩ := compile_eq_ok compiled
  · nomatch wrong
  · obtain rfl : encoding = known := Option.some.inj (labelled.symm.trans same)
    obtain rfl := CompiledPattern.literal.inj literal
    unfold compileLiteral at made
    obtain ⟨ps, read, made⟩ := bind_eq_ok.mp made
    obtain ⟨bytes, encoded, made⟩ := bind_eq_ok.mp made
    split at made
    · nomatch made
    · exact ⟨ps, bytes, mapError_eq_ok.mp read, encoded, (Except.ok.inj made).symm⟩

/-- A literal that ignores case is found wherever its text stands in some case, however the stream is cut;
and nothing else is found with it, in all streams, if and only if of its bytes those of letters alone look
like letters. -/
theorem recased_streamed {p : Program} (built : p.Built) {index : Nat} {d : PatternDef} {l : LiteralPattern}
    (has : p.Has index (.literal l)) (compiled : d.compile = .ok (.literal l)) (nocase : d.nocase)
    {encoding : Encoding} (labelled : Encoding.labelled? d.encoding = some encoding)
    (unicode : ∀ set, encoding ≠ .other set) :
    ∃ ps, pieces d.fixed d.text.toList = .ok ps ∧
      (∀ chunks start stop, start ≤ stop → stop ≤ chunks.flatten.length →
        Variant encoding ps (chunks.flatten.extract start stop) → (start, stop) ∈ spansOf index (streamed p chunks)) ∧
      ((∀ chunks, ∀ span ∈ spansOf index (streamed p chunks),
        Variant encoding ps (chunks.flatten.extract span.1 span.2)) ↔ Caseless encoding ps) := by
  obtain ⟨code, hasChar, encoder⟩ := exists_encoder unicode
  obtain ⟨ps, bytes, read, encoded, rfl⟩ := literal_of_compile compiled labelled
  obtain ⟨same, -, each⟩ := encodePieces_spec encoder.encodes encoded
  rw [List.reverse_nil, List.flatMap_nil, List.nil_append] at same
  obtain ⟨variants, only⟩ := encoder.folds each
  rw [← same] at variants only
  have reported (chunks : List (List UInt8)) (start stop : Nat) :
      (start, stop) ∈ spansOf index (streamed p chunks) ↔ start ≤ stop ∧ stop ≤ chunks.flatten.length ∧
        (chunks.flatten.extract start stop).map foldCase = bytes.map foldCase := by
    rw [(spansOf_literal built has chunks).2, LiteralPattern.Spells, if_pos nocase]
  refine ⟨ps, read, fun chunks start stop ordered within variant => ?_, ?_⟩
  · exact (reported chunks start stop).mpr ⟨ordered, within, variants _ variant⟩
  · rw [← only]
    constructor
    · intro all word folded
      -- The word alone is a stream.
      have whole : (0, word.length) ∈ spansOf index (streamed p [word]) :=
        (reported [word] 0 word.length).mpr ⟨Nat.zero_le _, by simp, by simpa using folded⟩
      simpa using all [word] _ whole
    · intro all chunks span found
      exact all _ ((reported chunks span.1 span.2).mp found).2.2

/-- A raw byte and a letter. -/
def nullB : PatternDef := ⟨"\\z00B", true, false, "ASCII"⟩

def nullBProgram : Program where
  entries := [⟨⟨0, "\\z00B", "ASCII", 2⟩, .literal ⟨[0, 66], true⟩⟩]

theorem nullB_recased : (1, 3) ∈ spansOf 0 (streamed nullBProgram [[7, 0], [98]]) ∧
    ∀ chunks, ∀ span ∈ spansOf 0 (streamed nullBProgram chunks),
      Variant .ascii [.byte 0, .char 'B'] (chunks.flatten.extract span.1 span.2) := by
  have built : nullBProgram.Built := .addAll [nullB] .empty (Program.eq_ok_of_toOption (by decide +kernel))
  have has : nullBProgram.Has 0 (.literal ⟨[0, 66], true⟩) := ⟨_, rfl, rfl⟩
  obtain ⟨ps, read, found, only⟩ := recased_streamed built has (d := nullB) (by rfl) rfl (by rfl)
    (fun _ => by simp)
  obtain rfl : [.byte 0, .char 'B'] = ps := Except.ok.inj read
  refine ⟨found [[7, 0], [98]] 1 3 (by decide) (by decide) ⟨[.byte 0, .char 'b'], ?_, by rfl⟩, only.mpr ?_⟩
  · exact .cons rfl (.cons (.inr (.inl rfl)) .nil)
  · refine List.forall_mem_cons.mpr ⟨.inr ?_, List.forall_mem_singleton.mpr (.inl ⟨'B', rfl, by decide⟩)⟩
    rintro _ ⟨⟩
    exact List.forall_mem_singleton.mpr rfl

/-- A raw byte and a character of two bytes, which have the code of a letter in them. -/
def lookalikes : Program where
  entries := [⟨⟨0, "\\z41", "ASCII", 1⟩, .literal ⟨[65], true⟩⟩, ⟨⟨1, "Ł", "UTF-16LE", 2⟩, .literal ⟨[65, 1], true⟩⟩]

/-- Found are another byte and another character. -/
theorem lookalikes_confused : lookalikes.Built ∧ lookalikes.Has 0 (.literal ⟨[65], true⟩) ∧
    lookalikes.Has 1 (.literal ⟨[65, 1], true⟩) ∧
    spansOf 0 (streamed lookalikes [[97, 1]]) = [(0, 1)] ∧ ¬Variant .ascii [.byte 65] [97] ∧
    spansOf 1 (streamed lookalikes [[97, 1]]) = [(0, 2)] ∧ ¬Variant (.utf16 .little) [.char 'Ł'] [97, 1] := by
  have built : lookalikes.Built := .addAll [⟨"\\z41", true, false, "ASCII"⟩, ⟨"Ł", true, false, "UTF-16LE"⟩] .empty
    (Program.eq_ok_of_toOption (by decide +kernel))
  refine ⟨built, ⟨_, rfl, rfl⟩, ⟨_, rfl, rfl⟩, by cbv, ?_, by cbv, ?_⟩
  · rintro ⟨_, _ | ⟨first, _ | _⟩, encoded⟩
    rename_i piece
    cases piece with
    | byte b =>
      obtain rfl := first
      exact absurd encoded (by decide)
    | char c => exact first.elim
  · rintro ⟨_, _ | ⟨first, _ | _⟩, encoded⟩
    rename_i piece
    cases piece with
    | byte b => exact first.elim
    | char c =>
      obtain rfl := eq_of_recased (by decide) first
      exact absurd encoded (by decide)

end Triage
