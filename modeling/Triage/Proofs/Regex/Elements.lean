import Mathlib.Data.List.TakeDrop
import Triage.Proofs.Regex.Gaps

/-! Tokens and classes of a text with gaps. -/

namespace Triage.Regex
open Read

section tokens
variable {f : Filling} {least : Nat} {c : Char} {whole glyphs : List Glyph}

theorem ordinary_of_isHexDigit (hex : isHexDigit c) : c ≠ '\\' ∧ c ≠ ']' := by
  constructor <;> rintro rfl <;> exact absurd hex (by decide)

theorem reads_hexDigits (n : Nat) (ahead : Ahead least whole glyphs) :
    Reads f glyphs (readHexDigits n) anything fun _ left => Ahead least whole left := by
  induction n generalizing glyphs with
  | zero => exact reads_pure fun _ => ahead
  | succ n ih =>
    rw [readHexDigits]
    match glyphs with
    | [] => exact tracks_current_end
    | .gap i :: glyphs =>
      have none : ∀ c ∈ fronts, ¬isHexDigit c := forall_fronts (by decide)
      exact tracks_current_gap fun front known => tracks_guard_no (none _ (known f))
    | .char c :: glyphs =>
      refine tracks_current (tracks_guard fun hex => tracks_step ?_)
      obtain ⟨backslash, closing⟩ := ordinary_of_isHexDigit hex
      exact (ih (ahead.char backslash closing)).then fun _ _ ahead => reads_pure fun _ => ahead

theorem reads_hexEscape (ahead : Ahead least whole glyphs) :
    Reads f (.char c :: glyphs) readHexEscape anything fun _ left => Ahead least whole left := by
  have digits {n : Nat} {fixed : Bool} {left : List Glyph} (ahead : Ahead least whole left) :
      Reads f left (do return ⟨← charOfCode? (hexValue (← readHexDigits n)), fixed⟩ : Read Literal) anything
        fun _ left => Ahead least whole left :=
    (reads_hexDigits n ahead).then fun _ _ ahead =>
      (reads_lift fun _ _ => ahead).then fun _ _ ahead => reads_pure fun _ => ahead
  unfold readHexEscape
  refine tracks_current (tracks_step ?_)
  match glyphs with
  | [] => exact tracks_current_end
  | .gap i :: glyphs =>
    have none : ∀ c ∈ fronts, (c == '\x7b') = false := forall_fronts (by decide)
    refine tracks_current_gap fun front known => ?_
    simp only [fun g => none _ (known g), Bool.false_eq_true, if_false]
    exact digits ahead
  | .char d :: glyphs =>
    refine tracks_current ?_
    split
    · rename_i brace
      obtain rfl := beq_iff_eq.mp brace
      refine tracks_step (tracks_collect moves_step (forall_fronts (by decide)) fun cs left text all => ?_)
      refine tracks_expect (by decide) fun behind same => ?_
      subst text same
      have ahead := (ahead.char (by decide) (by decide)).chars fun c member => ordinary_of_isHexDigit (all c member)
      have ahead := ahead.char (by decide) (by decide)
      exact tracks_step (tracks_guard fun _ => (reads_lift fun _ _ => ahead).then fun _ _ ahead => reads_pure fun _ => ahead)
    · exact digits ahead

/-! ### Properties -/

theorem eq_of_cutAt {mark text before behind : List Char} (cut : cutAt mark text = some (before, behind)) :
    text = before ++ mark ++ behind := by
  have go (text seen : List Char) (cut : cutAt.go mark seen text = some (before, behind)) :
      seen.reverse ++ text = before ++ mark ++ behind := by
    induction text generalizing seen with
    | nil => nomatch cut
    | cons c text ih =>
      rw [cutAt.go] at cut
      split at cut
      · rename_i starts
        obtain ⟨rest, same⟩ := List.isPrefixOf_iff_prefix.mp starts
        obtain ⟨rfl, rfl⟩ := Prod.mk.inj (Option.some.inj cut)
        rw [← same, List.drop_left, List.append_assoc]
      · rw [← ih (c :: seen) cut]
        simp
  exact go text [] cut

/-- The characters between the braces of a known property. -/
def isPropertyChar (c : Char) : Bool := Unicode.isNameChar c || ['!', '=', ':'].contains c

theorem isPropertyChar_of_cutAt {mark text before behind : List Char} (cut : cutAt mark text = some (before, behind))
    (signs : mark.all isPropertyChar) (plain : (Property.valued before behind).Plain) :
    ∀ c ∈ text, isPropertyChar c := by
  rw [eq_of_cutAt cut, List.append_assoc, List.forall_mem_append, List.forall_mem_append]
  obtain ⟨first, second⟩ := List.forall_mem_append.mp plain
  refine ⟨fun c member => ?_, List.all_eq_true.mp signs, fun c member => ?_⟩
  · rw [isPropertyChar, first c member, Bool.true_or]
  · rw [isPropertyChar, second c member, Bool.true_or]

/-- What a name in braces stands for. -/
def bracedProperty (negated : Bool) (name : List Char) : Bool × Property :=
  match cutAt ['!', '='] name with
  | some (property, value) => (!negated, .valued property value)
  | none =>
    match cutAt [':'] name <|> cutAt ['='] name with
    | some (property, value) => (negated, .valued property value)
    | none => (negated, .named name)

theorem isPropertyChar_of_plain {negated : Bool} {name : List Char} (plain : (bracedProperty negated name).2.Plain) :
    ∀ c ∈ name, isPropertyChar c := by
  unfold bracedProperty at plain
  split at plain
  · rename_i cut
    exact isPropertyChar_of_cutAt cut (by decide) plain
  split at plain
  · rename_i cut
    rcases (Option.orElse_eq_some _ _ _).mp cut with cut | ⟨-, cut⟩
    · exact isPropertyChar_of_cutAt cut (by decide) plain
    · exact isPropertyChar_of_cutAt cut (by decide) plain
  · intro c member
    rw [isPropertyChar, plain c member, Bool.true_or]

theorem readProperty_eq : readProperty = (do
    let negated := (← current) == 'P'
    step
    let c ← current
    if c == '\x7b' then
      step
      let name ← collect (· != '\x7d') step
      expect '\x7d'
      bump
      return bracedProperty negated name
    else
      guard (c != '\\')
      step
      return (negated, .letter c)) := by
  refine bind_congr fun sign => bind_congr fun _ => bind_congr fun c => ?_
  split
  · refine bind_congr fun _ => bind_congr fun name => bind_congr fun _ => bind_congr fun _ => ?_
    unfold bracedProperty
    cases cutAt ['!', '='] name with
    | some parts => rfl
    | none => cases cutAt [':'] name <|> cutAt ['='] name <;> rfl
  · rfl

theorem reads_property (ahead : Ahead least whole glyphs) :
    Reads f (.char c :: glyphs) readProperty (fun x => x.2.Plain) fun _ left => Ahead least whole left := by
  rw [readProperty_eq]
  refine tracks_current (tracks_step ?_)
  match glyphs with
  | [] => exact tracks_current_end
  | .gap i :: glyphs =>
    have none : ∀ c ∈ fronts, (c == '\x7b') = false ∧ Unicode.isNameChar c = false := forall_fronts (by decide)
    refine tracks_current_gap fun front known => ?_
    simp only [fun g => (none _ (known g)).1, Bool.false_eq_true, if_false]
    refine Tracks.excluded fun r a after run plain => ?_
    obtain ⟨_, _, -, run⟩ := run_bind_eq_some.mp run
    obtain ⟨_, _, -, run⟩ := run_bind_eq_some.mp run
    obtain ⟨rfl, -⟩ := run_pure_eq_some.mp run
    have named := plain _ List.mem_cons_self
    rw [(none _ (known f)).2] at named
    nomatch named
  | .char d :: glyphs =>
    refine tracks_current ?_
    split
    · rename_i brace
      obtain rfl := beq_iff_eq.mp brace
      refine tracks_step (tracks_collect_known moves_step (forall_fronts (by decide)) ?_ fun cs left text all => ?_)
      · intro cs r a after run plain c front member
        have none : ∀ c ∈ fronts, isPropertyChar c = false := forall_fronts (by decide)
        obtain ⟨_, _, -, run⟩ := run_bind_eq_some.mp run
        obtain ⟨_, _, -, run⟩ := run_bind_eq_some.mp run
        obtain ⟨rfl, -⟩ := run_pure_eq_some.mp run
        exact absurd (isPropertyChar_of_plain plain c member) (Bool.eq_false_iff.mp (none c front))
      · refine tracks_expect (by decide) fun behind same => ?_
        subst text same
        refine tracks_bump (reads_pure fun plain => ?_)
        have ordinary : ∀ c ∈ cs, c ≠ '\\' ∧ c ≠ ']' := by
          intro c member
          constructor <;> rintro rfl <;> exact absurd (isPropertyChar_of_plain plain _ member) (by decide)
        exact ((ahead.char (by decide) (by decide)).chars ordinary).char (by decide) (by decide)
    · refine tracks_guard fun _ => tracks_step (reads_pure fun plain => ?_)
      have known := plain d List.mem_cons_self
      refine ahead.char ?_ ?_ <;> rintro rfl <;> exact absurd known (by decide)

/-! ### Escapes -/

/-- A name in braces, from its first letter on. -/
def readNamedEdge : Read WordEdge := do
  let name ← collect isEdgeNameChar step
  expect '\x7d'
  bump
  match String.ofList name with
  | "start" => return .start
  | "end" => return .finish
  | "start-half" => return .startHalf
  | "end-half" => return .finishHalf
  | _ => failure

section edges
variable {r : Reader} {text : List Char}

theorem run_readEdgeName_other (other : text.head? ≠ some '\x7b') :
    readEdgeName.run (r.facing text) = some (.boundary, r.facing text) := by
  change (if text.head? != some '\x7b' then pure .boundary else _ : Read WordEdge).run (r.facing text) = _
  rw [if_pos (by simpa using other)]
  rfl

theorem run_readEdgeName_open (plain : r.skipBlanks = false) :
    readEdgeName.run (r.facing ('\x7b' :: c :: text)) =
      if isEdgeNameChar c then readNamedEdge.run (r.facing (c :: text))
      else some (.boundary, r.facing ('\x7b' :: c :: text)) := by
  change (step >>= fun _ => current >>= fun d => if isEdgeNameChar d then readNamedEdge else
    set (r.facing ('\x7b' :: c :: text)) >>= fun _ => pure .boundary : Read WordEdge).run _ = _
  rw [StateT.run_bind, run_step_facing plain, Option.bind_eq_bind, Option.bind_some, StateT.run_bind, List.drop_succ_cons,
    List.drop_zero, run_current_facing, Option.bind_eq_bind, Option.bind_some]
  split <;> rfl

end edges

theorem reads_namedEdge (ahead : Ahead least whole glyphs) :
    Reads f glyphs readNamedEdge anything fun _ left => Ahead least whole left := by
  refine tracks_collect moves_step (forall_fronts (by decide)) fun cs left text all => ?_
  refine tracks_expect (by decide) fun behind same => ?_
  subst text same
  have ordinary : ∀ c ∈ cs, c ≠ '\\' ∧ c ≠ ']' := by
    intro c member
    constructor <;> rintro rfl <;> exact absurd (all _ member) (by decide)
  have behind := (ahead.chars ordinary).char (by decide) (by decide)
  refine tracks_bump ?_
  dsimp only
  split
  case h_5 => exact Tracks.fails fun _ _ => rfl
  all_goals exact reads_pure fun _ => behind

theorem reads_edgeName (ahead : Ahead least whole glyphs) :
    Reads f glyphs readEdgeName anything fun _ left => Ahead least whole left := by
  have boundary (none : ∀ (g : Filling) (r : Reader), r.skipBlanks = false →
      readEdgeName.run (r.facing (g.spell glyphs)) = some (.boundary, r.facing (g.spell glyphs))) :
      Reads f glyphs readEdgeName anything fun _ left => Ahead least whole left :=
    Tracks.of_run (n := fun _ => pure .boundary) none (reads_pure fun _ => ahead)
  match glyphs with
  | [] => exact boundary fun g r _ => rfl
  | .gap i :: glyphs =>
    have none : ∀ c ∈ fronts, c ≠ '\x7b' := forall_fronts (by decide)
    refine boundary fun g r _ => run_readEdgeName_other ?_
    obtain ⟨c, front, more, text⟩ := g.opens i
    rw [Filling.spell, text, List.cons_append, List.head?_cons, ne_eq, Option.some.injEq]
    exact none c front
  | .char c :: glyphs =>
    by_cases brace : c = '\x7b'
    · subst brace
      cases glyphs with
      | nil =>
        refine Tracks.fails fun r plain => ?_
        change (step >>= fun _ => current >>= fun d => if isEdgeNameChar d then readNamedEdge else
          set (r.facing ['\x7b']) >>= fun _ => pure .boundary : Read WordEdge).run _ = _
        rw [StateT.run_bind, Filling.spell, run_step_facing plain]
        rfl
      | cons glyph glyphs =>
        cases glyph with
        | gap i =>
          have none : ∀ c ∈ fronts, ¬isEdgeNameChar c := forall_fronts (by decide)
          refine boundary fun g r plain => ?_
          obtain ⟨c, front, more, text⟩ := g.opens i
          rw [Filling.spell, Filling.spell, text, List.cons_append, run_readEdgeName_open plain, if_neg (none c front)]
        | char d =>
          by_cases named : isEdgeNameChar d
          · have name := reads_namedEdge (f := f) (ahead.char (by decide) (by decide))
            exact Tracks.of_run (fun g r plain => (run_readEdgeName_open plain).trans (if_pos named)) name
          · exact boundary fun g r plain => (run_readEdgeName_open plain).trans (if_neg named)
    · exact boundary fun g r _ => run_readEdgeName_other (by simpa [Filling.spell] using brace)

/-- What is read mentions properties only that may be known. -/
def Primitive.Plain (p : Primitive) : Prop := ∀ q ∈ p.toSyntax.properties, q.Plain

theorem reads_escape (within : ClearWithin least (.char '\\' :: glyphs)) :
    Reads f (.char '\\' :: glyphs) readEscape Primitive.Plain fun _ left => Ahead least glyphs left := by
  unfold readEscape
  obtain ⟨c, rest, rfl, within⟩ := within.escape
  have behind : Ahead least (.char c :: rest) rest := ⟨within, List.suffix_cons _ _⟩
  refine tracks_bump (tracks_current ?_)
  dsimp only
  split
  case h_1 | h_2 | h_3 => exact (reads_hexEscape behind).then fun _ _ ahead => reads_pure fun _ => ahead
  case h_4 | h_5 =>
    refine (reads_property behind).bind (fun x r p after run plain => ?_) fun _ _ ahead => reads_pure fun _ => ahead
    obtain ⟨rfl, -⟩ := run_pure_eq_some.mp run
    exact plain x.2 List.mem_cons_self
  case h_12 =>
    refine tracks_bump ?_
    split
    · exact reads_pure fun _ => behind
    · split
      case h_9 => exact (reads_edgeName behind).then fun _ _ ahead => reads_pure fun _ => ahead
      case h_13 => exact Tracks.fails fun _ _ => rfl
      all_goals exact reads_pure fun _ => behind
  all_goals exact tracks_bump (reads_pure fun _ => behind)

/-- Outside classes all other characters stand for themselves, if they have no other meaning. -/
theorem reads_primitive (within : ClearWithin 0 (.char c :: glyphs)) :
    Reads f (.char c :: glyphs) readPrimitive Primitive.Plain fun _ left => Ahead 0 glyphs left := by
  unfold readPrimitive
  refine tracks_current ?_
  dsimp only
  split
  case h_1 => exact reads_escape within
  all_goals
    rename_i backslash
    refine tracks_bump (reads_pure fun _ => (within.outside ?_).ahead)
    first | decide | assumption

theorem reads_classPrimitive (within : ClearWithin least (.char c :: glyphs)) (closing : c ≠ ']') :
    Reads f (.char c :: glyphs) readClassPrimitive Primitive.Plain fun _ left => Ahead least glyphs left := by
  unfold readClassPrimitive
  refine tracks_current ?_
  split
  · rename_i backslash
    obtain rfl := beq_iff_eq.mp backslash
    exact reads_escape within
  · rename_i other
    refine tracks_bump (reads_pure fun _ => (within.char ?_ closing).ahead)
    simpa using other

end tokens

/-! ## Classes -/

/-- The class mentions properties only that may be known. -/
def ClassSet.Plain (set : ClassSet) : Prop := ∀ p ∈ set.properties, p.Plain

theorem ClassSet.mem_propertiesOfList {p : Property} {items : List ClassSet} :
    p ∈ ClassSet.propertiesOfList items ↔ ∃ item ∈ items, p ∈ item.properties := by
  induction items with
  | nil => simp [ClassSet.propertiesOfList]
  | cons item items ih => simp [ClassSet.propertiesOfList, ih]

theorem plain_ofItems {items : List ClassSet} : (ClassSet.ofItems items).Plain ↔ ∀ item ∈ items, item.Plain := by
  have union : (ClassSet.union items).Plain ↔ ∀ item ∈ items, item.Plain := by
    constructor
    · exact fun plain item member p mentioned => plain p (ClassSet.mem_propertiesOfList.mpr ⟨item, member, mentioned⟩)
    · intro plain p mentioned
      obtain ⟨item, member, mentioned⟩ := ClassSet.mem_propertiesOfList.mp mentioned
      exact plain item member p mentioned
  unfold ClassSet.ofItems
  split
  · rw [List.forall_mem_singleton]
  · exact union

theorem plain_withPending {pending : Option (SetOp × ClassSet)} {items : List ClassSet} :
    (withPending pending items).Plain ↔ (∀ x ∈ pending, x.2.Plain) ∧ ∀ item ∈ items, item.Plain := by
  have members : (ClassSet.ofItems items.reverse).Plain ↔ ∀ item ∈ items, item.Plain := by
    rw [plain_ofItems]
    simp only [List.mem_reverse]
  cases pending with
  | none => exact members.trans (by simp)
  | some x =>
    rw [← members]
    refine Iff.trans List.forall_mem_append (and_congr_left' ?_)
    simp [ClassSet.Plain]

section classes
variable {f : Filling} {least : Nat} {c : Char} {whole glyphs : List Glyph}

theorem plain_of_toClassSet? {p : Primitive} {set : ClassSet} (same : p.toClassSet? = some set) (plain : set.Plain) :
    p.Plain := by
  cases p with
  | literal l => exact List.forall_mem_nil _
  | property negated p =>
    obtain rfl := Option.some.inj same
    exact plain
  | shorthand negated s => exact List.forall_mem_nil _
  | dot | assertion a => nomatch same

theorem plain_of_toLiteral? {p : Primitive} {l : Literal} (same : p.toLiteral? = some l) : p.Plain := by
  cases p with
  | literal l => exact List.forall_mem_nil _
  | _ => nomatch same

theorem run_lift_eq_some {α : Type} {x : Option α} {r after : Reader} {a : α}
    (run : (liftM x : Read α).run r = some (a, after)) : x = some a := by
  cases x with
  | none => nomatch run
  | some b =>
    obtain ⟨rfl, -⟩ := run_pure_eq_some.mp run
    rfl

theorem plain_of_rest_of_range {first : Primitive} {r after : Reader} {set : ClassSet}
    (run : (do
      blanks
      let c ← current
      let after ← peek
      if c != '-' || after == some ']' || after == some '-' then first.toClassSet?
      else
        step
        let last ← readClassPrimitive
        let first ← first.toLiteral?
        let last ← last.toLiteral?
        guard (first.char ≤ last.char)
        return .range first last : Read ClassSet).run r = some (set, after)) (plain : set.Plain) : first.Plain := by
  obtain ⟨_, _, -, run⟩ := run_bind_eq_some.mp run
  obtain ⟨c, _, -, run⟩ := run_bind_eq_some.mp run
  obtain ⟨next, _, -, run⟩ := run_bind_eq_some.mp run
  split at run
  · exact plain_of_toClassSet? (run_lift_eq_some run) plain
  · obtain ⟨_, _, -, run⟩ := run_bind_eq_some.mp run
    obtain ⟨_, _, -, run⟩ := run_bind_eq_some.mp run
    obtain ⟨_, _, literal, -⟩ := run_bind_eq_some.mp run
    exact plain_of_toLiteral? (run_lift_eq_some literal)

theorem reads_classRange (within : ClearWithin (least + 1) (.char c :: glyphs)) (closing : c ≠ ']') :
    Reads f (.char c :: glyphs) readClassRange ClassSet.Plain fun _ left => Ahead (least + 1) glyphs left := by
  unfold readClassRange
  refine (reads_classPrimitive within closing).bind (fun _ _ _ _ => plain_of_rest_of_range) fun first left ahead => ?_
  refine tracks_blanks ?_
  match left with
  | [] => exact tracks_current_end
  | .gap i :: left => exact absurd ahead.within.gap.1 (Nat.succ_ne_zero least)
  | .char d :: left =>
    refine tracks_current (tracks_peek ?_)
    have single : Reads f (.char d :: left) (liftM first.toClassSet?) ClassSet.Plain
        fun _ left => Ahead (least + 1) glyphs left := reads_lift fun _ _ => ahead
    by_cases hyphen : d = '-'
    · subst hyphen
      have ahead := ahead.char (by decide) (by decide)
      match left with
      | [] => exact tracks_step (Tracks.fails fun _ _ => rfl)
      | .gap i :: left => exact absurd ahead.within.gap.1 (Nat.succ_ne_zero least)
      | .char e :: left =>
        simp only [Filling.spell, List.head?_cons, bne_self_eq_false, Bool.false_or, Option.some_beq_some]
        by_cases stops : (e == ']' || e == '-') = true
        · simp only [stops, if_true]
          exact single
        · simp only [stops]
          rw [Bool.or_eq_true, beq_iff_eq, not_or] at stops
          refine tracks_step ((reads_classPrimitive ahead.within stops.1).bind ?_ fun last behind after => ?_)
          · intro last r set _ run _
            obtain ⟨_, _, -, run⟩ := run_bind_eq_some.mp run
            obtain ⟨_, _, literal, -⟩ := run_bind_eq_some.mp run
            exact plain_of_toLiteral? (run_lift_eq_some literal)
          · have after := after.trans ((List.suffix_cons _ _).trans ahead.suffix)
            refine (reads_lift fun _ _ => after).then fun _ _ after => ?_
            refine (reads_lift fun _ _ => after).then fun _ _ after => ?_
            exact tracks_guard fun _ => reads_pure fun _ => after
    · have other : (d != '-') = true := bne_iff_ne.mpr hyphen
      simp only [other, Bool.true_or, if_true]
      exact single

/-! ### Named classes -/

theorem isAlpha_of_named? {name : List Char} {c : PosixClass} (known : PosixClass.named? name = some c) :
    ∀ d ∈ name, d.isAlpha := by
  have same {text : String} (same : String.ofList name = text) (letters : ∀ d ∈ text.toList, d.isAlpha) :
      ∀ d ∈ name, d.isAlpha := by
    rw [← same, String.toList_ofList] at letters
    exact letters
  unfold PosixClass.named? at known
  split at known
  case h_15 => nomatch known
  all_goals
    rename_i text
    exact same text (List.all_eq_true.mp (by decide))

theorem dropStart?_eq_some {mark text rest : List Char} :
    posixClass?.dropStart? mark text = some rest ↔ text = mark ++ rest := by
  unfold posixClass?.dropStart?
  split
  · rename_i starts
    obtain ⟨behind, rfl⟩ := List.isPrefixOf_iff_prefix.mp starts
    rw [Option.some.injEq, List.drop_left, List.append_cancel_left_eq]
  · rename_i other
    refine iff_of_false (fun same => nomatch same) fun same => other (List.isPrefixOf_iff_prefix.mpr ⟨rest, same.symm⟩)

/-- A named class, from its name on. -/
def posixName? (negated : Bool) (text : List Char) : Option (ClassSet × List Char) := do
  let (name, rest) := text.span (· != ':')
  let rest ← posixClass?.dropStart? [':', ']'] rest
  return (.posix negated (← PosixClass.named? name), rest)

theorem posixName?_eq_some {negated : Bool} {text after : List Char} {item : ClassSet} :
    posixName? negated text = some (item, after) ↔ ∃ name c, PosixClass.named? name = some c ∧
      text = name ++ ':' :: ']' :: after ∧ item = .posix negated c := by
  rw [posixName?, List.span_eq_takeWhile_dropWhile]
  simp only [Option.bind_eq_bind, Option.bind_eq_some_iff, dropStart?_eq_some, Option.pure_def, Option.some.injEq,
    Prod.mk.injEq]
  constructor
  · rintro ⟨rest, behind, c, known, rfl, rfl⟩
    have whole := List.takeWhile_append_dropWhile (p := (· != ':')) (l := text)
    rw [behind] at whole
    exact ⟨_, c, known, whole.symm, rfl⟩
  · rintro ⟨name, c, known, rfl, rfl⟩
    have letters : ∀ d ∈ name, (d != ':') = true := by
      intro d member
      refine bne_iff_ne.mpr ?_
      rintro rfl
      exact absurd (isAlpha_of_named? known _ member) (by decide)
    refine ⟨after, ?_, c, ?_, rfl, rfl⟩
    · rw [List.dropWhile_append_of_pos letters]
      rfl
    · rw [List.takeWhile_append_of_pos letters, List.takeWhile_cons_of_neg (by decide), List.append_nil]
      exact known

/-- Whether a named class is negated, and the text from its name on. -/
def posixSign (text : List Char) : Bool × List Char :=
  match text with
  | '^' :: rest => (true, rest)
  | _ => (false, text)

theorem posixClass?_eq_some {text after : List Char} {item : ClassSet} :
    posixClass? text = some (item, after) ↔ ∃ (sign name : List Char) (c : PosixClass), (sign = [] ∨ sign = ['^']) ∧
      PosixClass.named? name = some c ∧ text = '[' :: ':' :: (sign ++ (name ++ ':' :: ']' :: after)) ∧
        item = .posix (!sign.isEmpty) c := by
  have opened : posixClass? text = some (item, after) ↔ ∃ rest, text = '[' :: ':' :: rest ∧
      posixName? (posixSign rest).1 (posixSign rest).2 = some (item, after) := by
    unfold posixClass?
    rw [Option.bind_eq_bind, Option.bind_eq_some_iff]
    exact exists_congr fun rest => and_congr dropStart?_eq_some Iff.rfl
  rw [opened]
  constructor
  · rintro ⟨rest, rfl, found⟩
    unfold posixSign at found
    split at found
    · obtain ⟨name, c, known, rfl, rfl⟩ := posixName?_eq_some.mp found
      exact ⟨['^'], name, c, .inr rfl, known, rfl, rfl⟩
    · obtain ⟨name, c, known, rfl, rfl⟩ := posixName?_eq_some.mp found
      exact ⟨[], name, c, .inl rfl, known, rfl, rfl⟩
  · rintro ⟨sign, name, c, rfl | rfl, known, rfl, rfl⟩
    · have unsigned : posixSign (name ++ ':' :: ']' :: after) = (false, name ++ ':' :: ']' :: after) := by
        match name with
        | [] => rfl
        | d :: name =>
          have letter := isAlpha_of_named? known d List.mem_cons_self
          unfold posixSign
          split
          · rename_i same
            rw [(List.cons.inj same).1] at letter
            exact absurd letter (by decide)
          · rfl
      refine ⟨_, rfl, ?_⟩
      rw [List.nil_append, unsigned]
      exact posixName?_eq_some.mpr ⟨name, c, known, rfl, rfl⟩
    · exact ⟨_, rfl, posixName?_eq_some.mpr ⟨name, c, known, rfl, rfl⟩⟩

/-- A named class is the same for all fillings. -/
theorem posixClass?_spell {after : List Char} {item : ClassSet}
    (found : posixClass? ('[' :: f.spell glyphs) = some (item, after)) (within : ClearWithin least (.char '[' :: glyphs)) :
    item.Plain ∧ ∃ left, Ahead least glyphs left ∧
      ∀ g : Filling, posixClass? ('[' :: g.spell glyphs) = some (item, g.spell left) := by
  obtain ⟨sign, name, c, signs, known, text, rfl⟩ := posixClass?_eq_some.mp found
  have letters := isAlpha_of_named? known
  have inside : ∀ d ∈ sign ++ name, d ∉ fronts ∧ d ≠ '\\' ∧ d ≠ ']' := by
    intro d member
    rcases List.mem_append.mp member with member | member
    · rcases signs with rfl | rfl
      · nomatch member
      · obtain rfl := List.mem_singleton.mp member
        decide
    · have letter := letters d member
      have none : ∀ d ∈ fronts, d.isAlpha = false := forall_fronts (by decide)
      refine ⟨fun front => ?_, ?_, ?_⟩
      · rw [none d front] at letter
        nomatch letter
      · rintro rfl
        exact absurd letter (by decide)
      · rintro rfl
        exact absurd letter (by decide)
  have text : f.spell glyphs = (':' :: (sign ++ name) ++ [':', ']']) ++ after := by
    rw [(List.cons.inj text).2]
    simp
  obtain ⟨left, rfl, rfl⟩ := exists_left text fun d member => by
    simp only [List.cons_append, List.mem_cons, List.mem_append, List.not_mem_nil, or_false] at member
    rcases member with rfl | member | rfl | rfl
    · decide
    · exact (inside d (List.mem_append.mpr member)).1
    · decide
    · decide
  refine ⟨List.forall_mem_nil _, left, ?_, fun g => posixClass?_eq_some.mpr ⟨sign, name, c, signs, known, ?_, rfl⟩⟩
  · rw [List.map_append, List.append_assoc, List.map_cons, List.cons_append] at within ⊢
    have ahead := (within.opening.2.ahead.char (by decide) (by decide)).chars fun d member => (inside d member).2
    have ahead := ahead.char (by decide) (by decide)
    exact ahead.behind ahead.within.closing
  · rw [spell_chars]
    simp

/-! ### Brackets -/

theorem tracks_leading {fuel : Filling → Nat} (room : ∀ g, (g.spell glyphs).length ≤ fuel g)
    (ahead : Ahead (least + 1) whole glyphs) (other : ∀ rest, glyphs ≠ .char ']' :: rest) :
    Tracks f glyphs (fun g => readLeading (fuel g)) anything fun b left =>
      ∃ leading, b = (fun _ => leading) ∧ Ahead (least + 1) whole left := by
  unfold readLeading
  refine tracks_collectUpTo moves_step (forall_fronts (by decide)) room fun cs left text all => ?_
  have ordinary : ∀ c ∈ cs, c ≠ '\\' ∧ c ≠ ']' := by
    intro c member
    rw [beq_iff_eq.mp (all c member)]
    decide
  rw [text] at ahead
  have behind := ahead.chars ordinary
  match left with
  | [] => exact tracks_current_end
  | .gap i :: left => exact absurd behind.within.gap.1 (Nat.succ_ne_zero least)
  | .char d :: left =>
    have none : (cs.isEmpty && d == ']') = false := by
      cases cs with
      | nil =>
        refine beq_eq_false_iff_ne.mpr ?_
        rintro rfl
        exact other left text
      | cons c cs => rfl
    refine tracks_current ?_
    simp only [none]
    exact reads_pure fun _ => behind

/-- What follows the opening bracket and its sign. -/
theorem reads_firstMembers {negated : Bool} (ahead : Ahead (least + 1) whole glyphs)
    (other : ∀ rest, glyphs ≠ .char ']' :: rest) :
    Reads f glyphs (do
      let _ ← current
      let leading ← readLeading (← get).rest.length
      return (negated, leading) : Read (Bool × List ClassSet)) anything fun _ left => Ahead (least + 1) whole left := by
  match glyphs with
  | [] => exact tracks_current_end
  | .gap i :: glyphs => exact absurd ahead.within.gap.1 (Nat.succ_ne_zero least)
  | .char c :: glyphs =>
    have leading := tracks_leading (f := f) (fun g => Nat.le_refl (g.spell (.char c :: glyphs)).length) ahead other
    have members : Tracks f (.char c :: glyphs)
        (fun g => readLeading (g.spell (.char c :: glyphs)).length >>= fun leading => pure (negated, leading)) anything
        fun b left => ∃ a, b = (fun _ => a) ∧ Ahead (least + 1) whole left := by
      refine leading.bind (fun _ _ _ _ _ _ => trivial) ?_
      rintro _ left ⟨leading, rfl, ahead⟩
      exact reads_pure fun _ => ahead
    exact tracks_current (Tracks.of_run (fun _ _ _ => rfl) members)

theorem reads_bracketOpening (within : ClearWithin least (.char '[' :: glyphs)) :
    Reads f (.char '[' :: glyphs) readBracketOpening anything fun _ left => Ahead (least + 1) glyphs left := by
  unfold readBracketOpening
  obtain ⟨plain, within⟩ := within.opening
  refine tracks_step ?_
  match glyphs with
  | [] => exact tracks_current_end
  | .gap i :: glyphs => exact absurd within.gap.1 (Nat.succ_ne_zero least)
  | .char c :: glyphs =>
    refine tracks_current ?_
    dsimp only
    split
    · rename_i sign
      obtain rfl := beq_iff_eq.mp sign
      refine tracks_step (reads_firstMembers (within.ahead.char (by decide) (by decide)) ?_)
      rintro rest rfl
      nomatch plain
    · refine reads_firstMembers within.ahead ?_
      rintro rest same
      obtain ⟨same, -⟩ := List.cons.inj same
      obtain rfl := Glyph.char.inj same
      nomatch plain

section run
variable {r : Reader} {text : List Char} {fuel : Nat} {pending : Option (SetOp × ClassSet)} {items : List ClassSet}

theorem run_bracketBody_end (plain : r.skipBlanks = false) :
    (readBracketBody (fuel + 1) pending items).run (r.facing []) = none := by
  change (blanks >>= _ : Read ClassSet).run _ = _
  rw [StateT.run_bind, run_blanks_facing plain]
  rfl

theorem run_bracketBody_close (plain : r.skipBlanks = false) :
    (readBracketBody (fuel + 1) pending items).run (r.facing (']' :: text)) =
      some (withPending pending items, r.facing text) := by
  change (blanks >>= _ : Read ClassSet).run _ = _
  rw [StateT.run_bind, run_blanks_facing plain]
  rfl

theorem run_bracketBody_posix {item : ClassSet} {after : List Char} (plain : r.skipBlanks = false)
    (found : posixClass? ('[' :: text) = some (item, after)) :
    (readBracketBody (fuel + 1) pending items).run (r.facing ('[' :: text)) =
      (readBracketBody fuel pending (item :: items)).run (r.facing after) := by
  change (blanks >>= _ : Read ClassSet).run _ = _
  rw [StateT.run_bind, run_blanks_facing plain]
  simp only [Option.bind_eq_bind, Option.bind_some, StateT.run_bind, run_rest_facing, found]
  rfl

theorem run_bracketBody_nested (plain : r.skipBlanks = false) (none : posixClass? ('[' :: text) = none) :
    (readBracketBody (fuel + 1) pending items).run (r.facing ('[' :: text)) = (do
      let (negated, leading) ← readBracketOpening
      let set ← readBracketBody fuel .none leading.reverse
      readBracketBody fuel pending (.bracket negated set :: items) : Read ClassSet).run (r.facing ('[' :: text)) := by
  change (blanks >>= _ : Read ClassSet).run _ = _
  rw [StateT.run_bind, run_blanks_facing plain]
  simp only [Option.bind_eq_bind, Option.bind_some, StateT.run_bind, run_rest_facing, none]

/-- The operators that are written by a character twice. -/
def setOp? : Char → Option SetOp
  | '&' => some .inter
  | '-' => some .diff
  | '~' => some .symmDiff
  | _ => none

theorem run_bracketBody_op {c : Char} {op : SetOp} (plain : r.skipBlanks = false) (sign : setOp? c = some op) :
    (readBracketBody (fuel + 1) pending items).run (r.facing (c :: c :: text)) =
      (readBracketBody fuel (some (op, withPending pending items)) []).run (r.facing text) := by
  change (blanks >>= _ : Read ClassSet).run _ = _
  rw [StateT.run_bind, run_blanks_facing plain]
  unfold setOp? at sign
  split at sign
  case h_4 => nomatch sign
  all_goals
    obtain rfl := Option.some.inj sign
    rfl

theorem run_bracketBody_member {c : Char} (plain : r.skipBlanks = false) (closing : c ≠ ']') (opening : c ≠ '[')
    (single : (setOp? c).isSome → text.head? ≠ some c) :
    (readBracketBody (fuel + 1) pending items).run (r.facing (c :: text)) = (do
      let item ← readClassRange
      readBracketBody fuel pending (item :: items) : Read ClassSet).run (r.facing (c :: text)) := by
  change (blanks >>= _ : Read ClassSet).run _ = _
  rw [StateT.run_bind, run_blanks_facing plain]
  simp only [Option.bind_eq_bind, Option.bind_some, StateT.run_bind, run_rest_facing]
  split
  case h_7 => rfl
  case h_1 same => nomatch same
  case h_2 same => exact absurd (List.cons.inj same).1 closing
  case h_3 same => exact absurd (List.cons.inj same).1 opening
  all_goals
    rename_i same
    obtain ⟨rfl, rfl⟩ := List.cons.inj same
    exact absurd rfl (single rfl)

end run

/-- What a class has mentioned so far it mentions in the end. -/
theorem plain_of_bracketBody {fuel : Nat} {pending : Option (SetOp × ClassSet)} {items : List ClassSet}
    {r after : Reader} {set : ClassSet} (run : (readBracketBody fuel pending items).run r = some (set, after))
    (plain : set.Plain) : (∀ x ∈ pending, x.2.Plain) ∧ ∀ item ∈ items, item.Plain := by
  induction fuel generalizing pending items r with
  | zero => nomatch run
  | succ fuel ih =>
    have op {kind : SetOp} {r : Reader}
        (run : (readBracketBody fuel (some (kind, withPending pending items)) []).run r = some (set, after)) :
        (∀ x ∈ pending, x.2.Plain) ∧ ∀ item ∈ items, item.Plain :=
      plain_withPending.mp ((ih run).1 _ rfl)
    have more {item : ClassSet} {r : Reader}
        (run : (readBracketBody fuel pending (item :: items)).run r = some (set, after)) :
        (∀ x ∈ pending, x.2.Plain) ∧ ∀ item ∈ items, item.Plain :=
      (ih run).imp_right fun all => (List.forall_mem_cons.mp all).2
    rw [readBracketBody] at run
    obtain ⟨_, _, -, run⟩ := run_bind_eq_some.mp run
    obtain ⟨text, _, -, run⟩ := run_bind_eq_some.mp run
    split at run
    case h_1 => nomatch run
    case h_2 =>
      obtain ⟨_, _, -, run⟩ := run_bind_eq_some.mp run
      obtain ⟨rfl, -⟩ := run_pure_eq_some.mp run
      exact plain_withPending.mp plain
    case h_3 =>
      split at run
      · obtain ⟨_, _, -, run⟩ := run_bind_eq_some.mp run
        exact more run
      · obtain ⟨_, _, -, run⟩ := run_bind_eq_some.mp run
        obtain ⟨_, _, -, run⟩ := run_bind_eq_some.mp run
        exact more run
    case h_4 | h_5 | h_6 =>
      obtain ⟨_, _, -, run⟩ := run_bind_eq_some.mp run
      obtain ⟨_, _, -, run⟩ := run_bind_eq_some.mp run
      exact op run
    case h_7 =>
      obtain ⟨_, _, -, run⟩ := run_bind_eq_some.mp run
      exact more run

/-- The inside of a class is the same for all fillings, as no gap stands there. -/
theorem tracks_bracketBody {pending : Option (SetOp × ClassSet)} {items : List ClassSet} {fuel : Filling → Nat}
    (room : ∀ g, (g.spell glyphs).length < fuel g) (ahead : Ahead (least + 1) whole glyphs) :
    Tracks f glyphs (fun g => readBracketBody (fuel g) pending items) ClassSet.Plain fun b left =>
      ∃ set, b = (fun _ => set) ∧ Ahead least whole left := by
  induction size : glyphs.length using Nat.strong_induction_on generalizing whole glyphs least pending items fuel with
  | _ n ih =>
  subst size
  obtain ⟨fuel, rfl⟩ : ∃ spare : Filling → Nat, fuel = fun g => spare g + 1 :=
    ⟨fun g => fuel g - 1, funext fun g => (Nat.sub_add_cancel (Nat.one_le_of_lt (room g))).symm⟩
  match glyphs with
  | [] => exact Tracks.fails fun r plain => run_bracketBody_end plain
  | .gap i :: glyphs => exact absurd ahead.within.gap.1 (Nat.succ_ne_zero least)
  | .char c :: glyphs =>
    have next {least : Nat} {pending : Option (SetOp × ClassSet)} {items : List ClassSet} {whole left : List Glyph}
        (behind : left <:+ glyphs) (ahead : Ahead (least + 1) whole left) :
        Tracks f left (fun g => readBracketBody (fuel g) pending items) ClassSet.Plain fun b left =>
          ∃ set, b = (fun _ => set) ∧ Ahead least whole left := by
      refine ih left.length (Nat.lt_succ_of_le behind.length_le) (fun g => ?_) ahead rfl
      exact Nat.lt_of_le_of_lt (length_spell_suffix g behind) (Nat.lt_of_succ_lt_succ (room g))
    have inside : glyphs <:+ whole := (List.suffix_cons _ _).trans ahead.suffix
    by_cases closing : c = ']'
    · subst closing
      have set : Reads f glyphs (pure (withPending pending items)) ClassSet.Plain fun _ left => Ahead least whole left :=
        reads_pure fun _ => ahead.behind ahead.within.closing
      exact Tracks.of_run (fun g r plain => run_bracketBody_close plain) set
    by_cases opening : c = '['
    · subst opening
      cases named : posixClass? ('[' :: f.spell glyphs) with
      | some found =>
        obtain ⟨-, left, after, each⟩ := posixClass?_spell named ahead.within
        exact Tracks.of_run (fun g r plain => run_bracketBody_posix plain (each g)) (next after.suffix (after.trans inside))
      | none =>
        have none (g : Filling) : posixClass? ('[' :: g.spell glyphs) = none := by
          cases other : posixClass? ('[' :: g.spell glyphs) with
          | none => rfl
          | some found =>
            obtain ⟨-, left, -, each⟩ := posixClass?_spell other ahead.within
            rw [each f] at named
            nomatch named
        have nested : Tracks f (.char '[' :: glyphs) (fun g => do
            let (negated, leading) ← readBracketOpening
            let set ← readBracketBody (fuel g) .none leading.reverse
            readBracketBody (fuel g) pending (.bracket negated set :: items)) ClassSet.Plain
            fun b left => ∃ set, b = (fun _ => set) ∧ Ahead least whole left := by
          refine (reads_bracketOpening ahead.within).then fun opened left after => ?_
          refine (next after.suffix after).bind (fun set r _ _ run plain => ?_) ?_
          · exact (List.forall_mem_cons.mp (plain_of_bracketBody run plain).2).1
          · rintro _ left ⟨set, rfl, after⟩
            exact next after.suffix (after.trans inside)
        exact Tracks.of_run (fun g r plain => run_bracketBody_nested plain (none g)) nested
    by_cases double : (setOp? c).isSome ∧ ∃ left, glyphs = .char c :: left
    · obtain ⟨sign, left, rfl⟩ := double
      obtain ⟨op, sign⟩ := Option.isSome_iff_exists.mp sign
      have backslash : c ≠ '\\' := by
        rintro rfl
        nomatch sign
      have left := (ahead.char backslash closing).char backslash closing
      exact Tracks.of_run (fun g r plain => run_bracketBody_op plain sign) (next (List.suffix_cons _ _) left)
    · have single (sign : (setOp? c).isSome) (g : Filling) : (g.spell glyphs).head? ≠ some c := by
        match glyphs with
        | [] => exact fun same => nomatch same
        | .gap i :: glyphs =>
          have backslash : c ≠ '\\' := by
            rintro rfl
            nomatch sign
          exact absurd (ahead.within.char backslash closing).gap.1 (Nat.succ_ne_zero least)
        | .char d :: glyphs =>
          intro same
          obtain rfl := Option.some.inj same
          exact double ⟨sign, glyphs, rfl⟩
      have member : Tracks f (.char c :: glyphs) (fun g => do
          let item ← readClassRange
          readBracketBody (fuel g) pending (item :: items)) ClassSet.Plain
          fun b left => ∃ set, b = (fun _ => set) ∧ Ahead least whole left := by
        refine (reads_classRange ahead.within closing).bind (fun item r _ _ run plain => ?_) fun item left after => ?_
        · exact (List.forall_mem_cons.mp (plain_of_bracketBody run plain).2).1
        · exact next after.suffix (after.trans inside)
      exact Tracks.of_run (fun g r plain => run_bracketBody_member plain closing opening fun sign => single sign g) member

theorem reads_bracket (within : ClearWithin least (.char '[' :: glyphs)) :
    Reads f (.char '[' :: glyphs) readBracket (fun tree => ∀ p ∈ tree.properties, p.Plain)
      fun tree left => tree.changes = [] ∧ Ahead least glyphs left := by
  unfold readBracket
  refine (reads_bracketOpening within).then fun opened left after => ?_
  have body : Tracks f left (fun g => readBracketBody ((g.spell left).length + 1) none opened.2.reverse) ClassSet.Plain
      fun b left => ∃ set, b = (fun _ => set) ∧ Ahead least glyphs left :=
    tracks_bracketBody (fun g => Nat.lt_succ_self (g.spell left).length) after
  have whole : Tracks f left (fun g => do
      let set ← readBracketBody ((g.spell left).length + 1) none opened.2.reverse
      return .bracket opened.1 set) (fun tree : Syntax => ∀ p ∈ tree.properties, p.Plain)
      fun b left => ∃ tree, b = (fun _ => tree) ∧ tree.changes = [] ∧ Ahead least glyphs left := by
    refine body.bind (fun set r tree _ run plain => ?_) ?_
    · obtain ⟨rfl, -⟩ := run_pure_eq_some.mp run
      exact plain
    · rintro _ left ⟨set, rfl, after⟩
      exact reads_pure fun _ => ⟨rfl, after⟩
  exact Tracks.of_run (fun _ _ _ => rfl) whole

end classes

end Triage.Regex
