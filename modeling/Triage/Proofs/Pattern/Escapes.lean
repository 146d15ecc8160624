import Triage.Proofs.Pattern.Signs
import Triage.Proofs.Regex.Branches

/-! The texts of expressions, element by element. Escapes are spelled out as a text with gaps, one for each raw byte;
where classes and parentheses start so that brackets are counted as they are read, no gap stands in a class. -/

namespace Triage.Pattern
open Regex

/-! ## Texts of expressions -/

/-- What the text of an expression is made of. -/
inductive Element
  | raw (high low : Char)
  | escape (c : Char)
  | char (c : Char)

namespace Element

/-- The two escapes that expressions lack are spelled in another way. -/
def spelledEscape : Char → List Char
  | '"' => ['"']
  | '0' => ['\\', 'x', '0', '0']
  | c => ['\\', c]

def text : Element → List Char
  | raw high low => ['\\', 'z', high, low]
  | escape c => ['\\', c]
  | char c => [c]

/-- The same in the syntax of expressions. -/
def spelled : Element → List Char
  | raw high low => ['(', '?', '-', 'u', ':', '\\', 'x', high, low, ')']
  | escape c => spelledEscape c
  | char c => [c]

theorem spelledEscape_cases (c : Char) :
    spelledEscape c = ['"'] ∨ spelledEscape c = ['\\', 'x', '0', '0'] ∨ spelledEscape c = ['\\', c] := by
  unfold spelledEscape
  split
  · exact .inl rfl
  · exact .inr (.inl rfl)
  · exact .inr (.inr rfl)

end Element

def elements : List Char → List Element
  | '\\' :: 'z' :: high :: low :: rest => .raw high low :: elements rest
  | '\\' :: c :: rest => .escape c :: elements rest
  | c :: rest => .char c :: elements rest
  | [] => []

/-- The digits of the raw bytes. -/
def rawDigits (es : List Element) : List (Char × Char) :=
  es.filterMap fun
    | .raw high low => some (high, low)
    | _ => none

/-- The text with its raw bytes replaced by numbered characters. -/
def marked (mark : Nat → Char) : Nat → List Element → List Char
  | _, [] => []
  | n, .raw _ _ :: es => mark n :: marked mark (n + 1) es
  | n, t :: es => t.text ++ marked mark n es

/-- The characters before the first escape. -/
def leading : List Element → List Char
  | .char c :: es => c :: leading es
  | _ => []

/-- No class starts with a closing bracket, and parentheses open well. -/
def isStraight : List Element → Bool
  | [] => true
  | .char '[' :: es => !startsClosing (leading es) && isStraight es
  | .char '(' :: es => opensWell (leading es) && isStraight es
  | _ :: es => isStraight es

/-- The brackets that are open behind a character. -/
def deepened (depth : Nat) (c : Char) : Nat := if c = '[' then depth + 1 else if c = ']' then depth - 1 else depth

/-- Raw bytes stand where no brackets are open, of which there are as many as `depth` before. -/
def Fit : Nat → List Element → Prop
  | _, [] => True
  | depth, .raw high low :: es => depth = 0 ∧ (hexPair? high low).isSome ∧ Fit depth es
  | depth, .escape c :: es => c ≠ 'z' ∧ Fit depth es
  | depth, .char c :: es => c ≠ '\\' ∧ Fit (deepened depth c) es

def glyphsFrom : Nat → List Element → List Glyph
  | _, [] => []
  | n, .raw _ _ :: es => .gap n :: glyphsFrom (n + 1) es
  | n, t :: es => t.spelled.map .char ++ glyphsFrom n es

theorem outside_of_rawByteFault? {depth : Nat} (none : rawByteFault? false depth = none) : depth = 0 := by
  unfold rawByteFault? at none
  split at none
  case isTrue same => nomatch same
  split at none
  case isTrue => nomatch none
  case isFalse outside => omega

section spelling
variable {wide : Bool} {depth : Nat} {c : Char} {rest out : List Char}

theorem spellEscapesFrom_escape (byte : c ≠ 'z') : spellEscapesFrom wide depth ('\\' :: c :: rest) =
    (do return (Element.escape c).spelled ++ (← spellEscapesFrom wide depth rest)) := by
  by_cases quote : c = '"'
  · subst quote
    rfl
  by_cases null : c = '0'
  · subst null
    rfl
  have same : (Element.escape c).spelled = ['\\', c] := by
    unfold Element.spelled Element.spelledEscape
    split <;> simp_all
  rw [spellEscapesFrom, same]
  · rfl
  all_goals simp_all

theorem spellEscapesFrom_char (plain : c ≠ '\\') : spellEscapesFrom wide depth (c :: rest) =
    (do return c :: (← spellEscapesFrom wide (deepened depth c) rest)) := by
  unfold deepened
  split
  case isTrue opening =>
    subst opening
    rfl
  split
  case isTrue closing =>
    subst closing
    rfl
  rw [spellEscapesFrom]
  all_goals simp_all

/-- Escapes are spelled element by element. -/
theorem spelled_elements {text : List Char} (spelled : spellEscapesFrom false depth text = .ok out) :
    Fit depth (elements text) ∧ out = (elements text).flatMap Element.spelled := by
  induction text using elements.induct generalizing depth out with
  | case1 high low rest ih =>
    rw [spellEscapesFrom] at spelled
    split at spelled
    case h_1 => cases spelled
    case h_2 none =>
      split at spelled
      case isTrue pair =>
        obtain ⟨more, read, same⟩ := bind_eq_ok.mp spelled
        obtain rfl := Except.ok.inj same
        obtain ⟨fit, rfl⟩ := ih read
        exact ⟨⟨outside_of_rawByteFault? none, pair, fit⟩, rfl⟩
      case isFalse => cases spelled
  | case2 c rest other ih =>
    rw [elements]
    case x_1 => exact other
    by_cases byte : c = 'z'
    · subst byte
      rw [spellEscapesFrom] at spelled
      split at spelled
      case h_1 => cases spelled
      case h_2 => cases spelled
      case x_2 => exact fun high low behind => other high low behind rfl
    · rw [spellEscapesFrom_escape byte] at spelled
      obtain ⟨more, read, same⟩ := bind_eq_ok.mp spelled
      obtain rfl := Except.ok.inj same
      obtain ⟨fit, rfl⟩ := ih read
      exact ⟨⟨byte, fit⟩, rfl⟩
  | case3 c rest other other' ih =>
    have plain : c ≠ '\\' := by
      rintro rfl
      cases rest with
      | nil => cases spelled
      | cons d rest => exact other' d rest rfl rfl
    rw [spellEscapesFrom_char plain] at spelled
    obtain ⟨more, read, same⟩ := bind_eq_ok.mp spelled
    obtain rfl := Except.ok.inj same
    obtain ⟨fit, rfl⟩ := ih read
    rw [elements]
    case x_1 => exact other
    case x_2 => exact other'
    exact ⟨⟨plain, fit⟩, rfl⟩
  | case4 =>
    obtain rfl := Except.ok.inj spelled
    exact ⟨trivial, rfl⟩

end spelling

/-! ## Texts with gaps for raw bytes -/

section gaps
variable {depth n : Nat} {es : List Element}

/-- What stands behind the characters before the first escape, if anything does. -/
theorem initial_glyphsFrom (n : Nat) (es : List Element) : ∃ more, initial (glyphsFrom n es) = leading es ++ more ∧
    ∀ c ∈ more.head?, c = '"' ∨ c = '\\' := by
  induction es generalizing n with
  | nil => exact ⟨[], rfl, nofun⟩
  | cons t es ih =>
    cases t with
    | raw high low => exact ⟨[], rfl, nofun⟩
    | escape c =>
      refine ⟨_, (List.nil_append _).symm, ?_⟩
      rw [glyphsFrom]
      case x_2 => nofun
      rcases Element.spelledEscape_cases c with same | same | same <;> rw [Element.spelled, same] <;> rintro d ⟨⟩
      · exact .inl rfl
      · exact .inr rfl
      · exact .inr rfl
    | char c =>
      obtain ⟨more, same, known⟩ := ih n
      exact ⟨more, congrArg (c :: ·) same, known⟩

section append
variable {cs more : List Char} (escape : ∀ c ∈ more.head?, c = '"' ∨ c = '\\')
include escape

/-- A text that starts with none of these signs goes on as before. -/
theorem isPrefixOf_append {sign : List Char} (quote : '"' ∉ sign) (backslash : '\\' ∉ sign) :
    sign.isPrefixOf (cs ++ more) = sign.isPrefixOf cs := by
  induction sign generalizing cs with
  | nil => rfl
  | cons d sign ih =>
    rw [List.mem_cons, not_or] at quote backslash
    cases cs with
    | nil =>
      cases more with
      | nil => rfl
      | cons c more =>
        have other : (d == c) = false := by
          rcases escape c rfl with rfl | rfl
          · exact beq_eq_false_iff_ne.mpr (Ne.symm quote.1)
          · exact beq_eq_false_iff_ne.mpr (Ne.symm backslash.1)
        rw [List.nil_append, List.isPrefixOf_cons_cons, other]
        rfl
    | cons c cs =>
      rw [List.cons_append, List.isPrefixOf_cons_cons, List.isPrefixOf_cons_cons, ih quote.2 backslash.2]

theorem startsClosing_append : startsClosing (cs ++ more) = startsClosing cs := by
  rw [startsClosing, startsClosing, isPrefixOf_append escape (by decide) (by decide),
    isPrefixOf_append escape (by decide) (by decide)]

theorem namesGroup_append : namesGroup (cs ++ more) = namesGroup cs := by
  rw [namesGroup, namesGroup, isPrefixOf_append escape (by decide) (by decide),
    isPrefixOf_append escape (by decide) (by decide)]

theorem takeWhile_isAlpha_append : (cs ++ more).takeWhile Char.isAlpha = cs.takeWhile Char.isAlpha := by
  have none : more.takeWhile Char.isAlpha = [] := by
    cases more with
    | nil => rfl
    | cons c more =>
      refine List.takeWhile_cons_of_neg ?_
      rcases escape c rfl with rfl | rfl <;> decide
  rw [List.takeWhile_append]
  split
  case isTrue whole =>
    rw [none, List.append_nil]
    exact ((List.takeWhile_prefix _).eq_of_length whole).symm
  case isFalse => rfl

theorem opensWell_append (opens : opensWell cs) : opensWell (cs ++ more) := by
  match cs with
  | [] =>
    cases more with
    | nil => rfl
    | cons c more => rcases escape c rfl with rfl | rfl <;> rfl
  | c :: cs =>
    by_cases question : c = '?'
    · subst question
      obtain ⟨flags, name⟩ := Bool.and_eq_true_iff.mp opens
      rw [List.cons_append, opensWell, takeWhile_isAlpha_append escape, namesGroup_append escape, flags, Bool.true_and]
      cases named : namesGroup cs with
      | false => rfl
      | true =>
        rw [named, Bool.not_true, Bool.false_or, List.contains_iff_mem] at name
        rw [Bool.not_true, Bool.false_or, List.contains_iff_mem, List.takeWhile_append]
        split
        case isTrue => exact List.mem_append_left _ ((List.takeWhile_prefix _).mem name)
        case isFalse => exact name
    · unfold opensWell
      split
      case h_1 same => exact absurd (List.cons.inj same).1 question
      case h_2 => rfl

end append

theorem clear_plain {c : Char} {glyphs : List Glyph} (plain : c ∉ ['\\', '[', ']', '(']) (clear : Clear depth glyphs) :
    Clear depth (.char c :: glyphs) := by
  simp only [List.mem_cons, List.not_mem_nil, or_false, not_or] at plain
  obtain ⟨backslash, opening, closing, paren⟩ := plain
  rw [clear_char, if_neg backslash, if_neg opening, if_neg closing]
  exact ⟨fun same => absurd same paren, clear⟩

theorem clear_elements (fit : Fit depth es) (straight : isStraight es) : Clear depth (glyphsFrom n es) := by
  induction es generalizing depth n with
  | nil => trivial
  | cons t es ih =>
    cases t with
    | raw high low => exact ⟨fit.1, ih fit.2.2 straight⟩
    | escape c =>
      have behind : Clear depth (glyphsFrom n es) := ih fit.2 straight
      rw [glyphsFrom]
      case x_2 => nofun
      rcases Element.spelledEscape_cases c with same | same | same <;> rw [Element.spelled, same]
      · exact clear_plain (by decide) behind
      · have zeros : Clear depth (.char '0' :: .char '0' :: glyphsFrom n es) :=
          clear_plain (by decide) (clear_plain (by decide) behind)
        exact zeros
      · exact behind
    | char c =>
      obtain ⟨backslash, fit⟩ := fit
      obtain ⟨more, ahead, escape⟩ := initial_glyphsFrom n es
      change Clear depth (.char c :: glyphsFrom n es)
      rw [clear_char, if_neg backslash, ahead]
      by_cases opening : c = '['
      · subst opening
        obtain ⟨starts, straight⟩ := Bool.and_eq_true_iff.mp straight
        rw [if_pos rfl, startsClosing_append escape]
        exact ⟨(Bool.not_eq_true' _).mp starts, ih fit straight⟩
      by_cases closing : c = ']'
      · subst closing
        rw [if_neg opening, if_pos rfl]
        exact ih fit straight
      rw [if_neg opening, if_neg closing]
      have fit : Fit depth es := by
        rwa [deepened, if_neg opening, if_neg closing] at fit
      by_cases paren : c = '('
      · subst paren
        obtain ⟨opens, straight⟩ := Bool.and_eq_true_iff.mp straight
        exact ⟨fun _ => opensWell_append escape opens, ih fit straight⟩
      · refine ⟨fun same => absurd same paren, ih fit ?_⟩
        rw [isStraight] at straight
        · exact straight
        · exact fun same => opening (Element.char.inj same)
        · exact fun same => paren (Element.char.inj same)

end gaps

end Triage.Pattern
