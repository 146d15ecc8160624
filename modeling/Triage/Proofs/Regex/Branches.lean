import Triage.Proofs.Regex.Groups

/-! Branches of a text with gaps. A text of which one filling is read has a frame, and each filling of the text is
read as the frame with the same filling. -/

namespace Triage.Regex
open Read

/-! ## Branches -/

/-- A change of flags or a group, where its opening has been read. -/
def readInside (fuel : Nat) : GroupOpening → Read Syntax
  | .flags change => do
    applySpaceFlag change
    return .flags change
  | .group kind => do
    let outside := (← get).skipBlanks
    if let .plain change := kind then applySpaceFlag change
    let body ← readBranches fuel [] []
    expect ')'
    modify fun r => { r with skipBlanks := outside }
    bump
    return .group kind body

theorem ordered_optional : ∀ m ∈ some 1, 0 ≤ m := by simp

theorem ordered_any : ∀ m ∈ (none : Option Nat), 0 ≤ m := by simp

theorem ordered_some : ∀ m ∈ (none : Option Nat), 1 ≤ m := by simp

/-- The signs of repetitions without counts. -/
def uncounted? : Char → Option Counts
  | '?' => some ⟨0, some 1, ordered_optional⟩
  | '*' => some ⟨0, none, ordered_any⟩
  | '+' => some ⟨1, none, ordered_some⟩
  | _ => none

/-- The parts of a branch with the one that starts with the character, or with the last part repeated. -/
def readNext (fuel : Nat) (parts : List Syntax) (c : Char) : Read (List Syntax) :=
  if c = '(' then do
    let opening ← readGroupOpening
    let part ← readInside fuel opening
    return part :: parts
  else if c = '[' then do
    let bracket ← readBracket
    return bracket :: parts
  else if c = '\x7b' then do
    let (part, parts) ← repeatable? parts
    let (least, most) ← readBounds
    let isLazy ← readLazy
    if ordered : ∀ m ∈ most, least ≤ m then
      return Syntax.repetition ⟨least, most, ordered⟩ (!isLazy) part :: parts
    else failure
  else
    match uncounted? c with
    | some counts => do
      let (part, parts) ← repeatable? parts
      bump
      let isLazy ← readLazy
      return Syntax.repetition counts (!isLazy) part :: parts
    | none => do
      let part ← readPrimitive
      return part.toSyntax :: parts

section branches
variable {r : Reader} {c : Char} {text : List Char} {fuel : Nat} {branches parts : List Syntax}

theorem run_branches_end (plain : r.skipBlanks = false) (ends : text = [] ∨ ∃ rest, text = ')' :: rest) :
    (readBranches (fuel + 1) branches parts).run (r.facing text) =
      some (Syntax.ofBranches (Syntax.ofParts parts.reverse :: branches).reverse, r.facing text) := by
  change (blanks >>= _ : Read Syntax).run _ = _
  rw [StateT.run_bind, run_blanks_facing plain]
  rcases ends with rfl | ⟨rest, rfl⟩ <;> rfl

theorem run_branches_bar (plain : r.skipBlanks = false) :
    (readBranches (fuel + 1) branches parts).run (r.facing ('|' :: text)) =
      (readBranches fuel (Syntax.ofParts parts.reverse :: branches) []).run (r.facing text) := by
  change (blanks >>= _ : Read Syntax).run _ = _
  rw [StateT.run_bind, run_blanks_facing plain]
  rfl

theorem run_branches_next (plain : r.skipBlanks = false) (closing : c ≠ ')') (bar : c ≠ '|') :
    (readBranches (fuel + 1) branches parts).run (r.facing (c :: text)) = (do
      let parts ← readNext fuel parts c
      readBranches fuel branches parts : Read Syntax).run (r.facing (c :: text)) := by
  change (blanks >>= _ : Read Syntax).run _ = _
  rw [StateT.run_bind, run_blanks_facing plain]
  simp only [Option.bind_eq_bind, Option.bind_some, StateT.run_bind, run_rest_facing]
  split
  case h_1 same => nomatch same
  case h_2 same => exact absurd (List.cons.inj same).1 closing
  case h_3 same => exact absurd (List.cons.inj same).1 bar
  case h_4 same =>
    obtain rfl := (List.cons.inj same).1
    change _ = (readNext fuel parts '(' >>= fun parts => readBranches fuel branches parts).run _
    simp only [readNext, if_true, bind_assoc, pure_bind]
    congr 2
    funext opening
    cases opening with
    | flags change => simp only [readInside, bind_assoc, pure_bind]
    | group kind => cases kind <;> simp only [readInside, bind_assoc, pure_bind]
  case h_5 same =>
    obtain rfl := (List.cons.inj same).1
    change _ = (readNext fuel parts '[' >>= fun parts => readBranches fuel branches parts).run _
    simp only [readNext, Char.reduceEq, if_false, if_true, bind_assoc, pure_bind]
  case h_6 same | h_7 same | h_8 same =>
    obtain rfl := (List.cons.inj same).1
    change _ = (readNext fuel parts _ >>= fun parts => readBranches fuel branches parts).run _
    simp only [readNext, uncounted?, Char.reduceEq, if_false, bind_assoc, pure_bind]
  case h_9 same =>
    obtain rfl := (List.cons.inj same).1
    change _ = (readNext fuel parts _ >>= fun parts => readBranches fuel branches parts).run _
    simp only [readNext, Char.reduceEq, if_false, if_true, bind_assoc]
    congr 2
    funext last
    congr 1
    funext range
    congr 1
    funext isLazy
    split
    · rfl
    · rfl
  case h_10 paren bracket question star plus brace =>
    have other : uncounted? c = none := by
      unfold uncounted?
      split
      case h_4 => rfl
      all_goals simp at question star plus
    change _ = (readNext fuel parts c >>= fun parts => readBranches fuel branches parts).run _
    have same {d : Char} (equal : c = d) : c :: text = d :: text := congrArg (· :: text) equal
    rw [readNext, if_neg fun equal => paren text (same equal), if_neg fun equal => bracket text (same equal),
      if_neg fun equal => brace text (same equal), other]
    simp only [bind_assoc, pure_bind]

end branches

/-! ### Properties of what is read -/

/-- The expression mentions properties only that may be known. -/
def Syntax.Plain (s : Syntax) : Prop := ∀ p ∈ s.properties, p.Plain

theorem Syntax.mem_propertiesOfList {p : Property} {parts : List Syntax} :
    p ∈ Syntax.propertiesOfList parts ↔ ∃ part ∈ parts, p ∈ part.properties := by
  induction parts with
  | nil => simp [Syntax.propertiesOfList]
  | cons part parts ih => simp [Syntax.propertiesOfList, ih]

theorem plain_propertiesOfList {parts : List Syntax} :
    (∀ p ∈ Syntax.propertiesOfList parts, p.Plain) ↔ ∀ part ∈ parts, part.Plain := by
  constructor
  · exact fun plain part member p mentioned => plain p (Syntax.mem_propertiesOfList.mpr ⟨part, member, mentioned⟩)
  · intro plain p mentioned
    obtain ⟨part, member, mentioned⟩ := Syntax.mem_propertiesOfList.mp mentioned
    exact plain part member p mentioned

theorem plain_ofParts {parts : List Syntax} : (Syntax.ofParts parts).Plain ↔ ∀ part ∈ parts, part.Plain := by
  unfold Syntax.ofParts
  split
  · exact iff_of_true (List.forall_mem_nil _) (List.forall_mem_nil _)
  · rw [List.forall_mem_singleton]
  · exact plain_propertiesOfList

theorem plain_ofBranches {branches : List Syntax} :
    (Syntax.ofBranches branches).Plain ↔ ∀ branch ∈ branches, branch.Plain := by
  unfold Syntax.ofBranches
  split
  · rw [List.forall_mem_singleton]
  · exact plain_propertiesOfList

theorem eq_cons_of_repeatable? {part : Syntax} {parts others : List Syntax}
    (last : repeatable? parts = some (part, others)) :
    parts = part :: others := by
  unfold repeatable? at last
  split at last
  case h_4 =>
    obtain ⟨rfl, rfl⟩ := Prod.mk.inj (Option.some.inj last)
    rfl
  all_goals nomatch last

/-- What an expression has mentioned so far it mentions in the end. -/
theorem plain_of_branches {fuel : Nat} {branches parts : List Syntax} {r after : Reader} {tree : Syntax}
    (run : (readBranches fuel branches parts).run r = some (tree, after)) (plain : tree.Plain) :
    (∀ branch ∈ branches, branch.Plain) ∧ ∀ part ∈ parts, part.Plain := by
  induction fuel generalizing branches parts r with
  | zero => nomatch run
  | succ fuel ih =>
    have more {part : Syntax} {r : Reader} (run : (readBranches fuel branches (part :: parts)).run r = some (tree, after)) :
        (∀ branch ∈ branches, branch.Plain) ∧ ∀ part ∈ parts, part.Plain :=
      (ih run).imp_right fun all => (List.forall_mem_cons.mp all).2
    have again {counts : Counts} {greedy : Bool} {part : Syntax} {others : List Syntax} {r : Reader}
        (last : repeatable? parts = some (part, others))
        (run : (readBranches fuel branches (.repetition counts greedy part :: others)).run r = some (tree, after)) :
        (∀ branch ∈ branches, branch.Plain) ∧ ∀ part ∈ parts, part.Plain := by
      obtain ⟨finished, all⟩ := ih run
      obtain ⟨here, behind⟩ := List.forall_mem_cons.mp all
      rw [eq_cons_of_repeatable? last]
      exact ⟨finished, List.forall_mem_cons.mpr ⟨here, behind⟩⟩
    rw [readBranches] at run
    obtain ⟨_, _, -, run⟩ := run_bind_eq_some.mp run
    obtain ⟨text, _, -, run⟩ := run_bind_eq_some.mp run
    split at run
    case h_1 | h_2 =>
      obtain ⟨rfl, -⟩ := run_pure_eq_some.mp run
      have all := plain_ofBranches.mp plain
      rw [List.reverse_cons, List.forall_mem_append, List.forall_mem_singleton] at all
      refine ⟨fun branch member => all.1 branch (List.mem_reverse.mpr member), fun part member => ?_⟩
      exact plain_ofParts.mp all.2 part (List.mem_reverse.mpr member)
    case h_3 =>
      obtain ⟨_, _, -, run⟩ := run_bind_eq_some.mp run
      obtain ⟨last, finished⟩ := List.forall_mem_cons.mp (ih run).1
      exact ⟨finished, fun part member => plain_ofParts.mp last part (List.mem_reverse.mpr member)⟩
    case h_4 =>
      obtain ⟨opening, _, -, run⟩ := run_bind_eq_some.mp run
      cases opening with
      | flags change =>
        obtain ⟨_, _, -, run⟩ := run_bind_eq_some.mp run
        exact more run
      | group kind =>
        obtain ⟨_, _, -, run⟩ := run_bind_eq_some.mp run
        cases kind
        case' plain => obtain ⟨_, _, -, run⟩ := run_bind_eq_some.mp run
        all_goals
          obtain ⟨_, _, -, run⟩ := run_bind_eq_some.mp run
          obtain ⟨_, _, -, run⟩ := run_bind_eq_some.mp run
          obtain ⟨_, _, -, run⟩ := run_bind_eq_some.mp run
          obtain ⟨_, _, -, run⟩ := run_bind_eq_some.mp run
          exact more run
    case h_6 | h_7 | h_8 =>
      obtain ⟨_, _, last, run⟩ := run_bind_eq_some.mp run
      obtain ⟨_, _, -, run⟩ := run_bind_eq_some.mp run
      obtain ⟨_, _, -, run⟩ := run_bind_eq_some.mp run
      exact again (run_lift_eq_some last) run
    case h_9 =>
      obtain ⟨_, _, last, run⟩ := run_bind_eq_some.mp run
      obtain ⟨_, _, -, run⟩ := run_bind_eq_some.mp run
      obtain ⟨_, _, -, run⟩ := run_bind_eq_some.mp run
      split at run
      · exact again (run_lift_eq_some last) run
      · nomatch run
    case h_5 | h_10 =>
      obtain ⟨_, _, -, run⟩ := run_bind_eq_some.mp run
      exact more run

/-! ### Frames of what is read -/

/-- No change of flags in the frame turns on what follows to be read in another way. -/
def Frame.Calm (frame : Frame) : Prop := ∀ change ∈ frame.changes, change.Calm

/-- A value for each filling that is a frame with the filling, and what is left. -/
def Framed (whole : List Glyph) (b : Filling → Syntax) (left : List Glyph) : Prop :=
  ∃ frame : Frame, b = (fun g => frame.fill g.atom) ∧ frame.Calm ∧ Ahead 0 whole left

/-- The same for the parts of a branch. -/
def FramedAll (whole : List Glyph) (b : Filling → List Syntax) (left : List Glyph) : Prop :=
  ∃ frames : List Frame, b = (fun g => frames.map (Frame.fill g.atom)) ∧ (∀ frame ∈ frames, frame.Calm) ∧ Ahead 0 whole left

section framed
variable {β : Type} {f : Filling} {c : Char} {whole glyphs : List Glyph} {R : β → Prop}
  {S : (Filling → β) → List Glyph → Prop}

theorem Frame.calm_whole {tree : Syntax} (none : tree.changes = []) : (Frame.whole tree).Calm := by
  intro change member
  rw [Frame.changes, none] at member
  nomatch member

theorem Frame.calm_group {kind : GroupKind} {frame : Frame} (opening : (GroupOpening.group kind).Calm) (calm : frame.Calm) :
    (Frame.group kind frame).Calm := by
  cases kind with
  | capture index => exact calm
  | plain change => exact List.forall_mem_cons.mpr ⟨opening, calm⟩

theorem tracks_frame (frame : Frame) (calm : frame.Calm) (ahead : Ahead 0 whole glyphs) :
    Tracks f glyphs (fun g => pure (frame.fill g.atom)) Syntax.Plain (Framed whole) :=
  tracks_pure fun _ => ⟨frame, rfl, calm, ahead⟩

theorem tracks_frames (frame : Frame) {parts : List Frame} (calm : frame.Calm) (others : ∀ part ∈ parts, part.Calm)
    (ahead : Ahead 0 whole glyphs) :
    Tracks f glyphs (fun g => pure (frame.fill g.atom :: parts.map (Frame.fill g.atom)))
      (fun parts => ∀ part ∈ parts, part.Plain) (FramedAll whole) :=
  tracks_pure fun _ => ⟨frame :: parts, rfl, List.forall_mem_cons.mpr ⟨calm, others⟩, ahead⟩

/-- The end of a group, behind its body. -/
def readGroupEnd (kind : GroupKind) (outside : Bool) (body : Syntax) : Read Syntax := do
  expect ')'
  modify fun r => { r with skipBlanks := outside }
  bump
  return .group kind body

theorem tracks_groupEnd {kind : GroupKind} {body : Filling → Syntax} (opening : (GroupOpening.group kind).Calm)
    (framed : Framed whole body glyphs) :
    Tracks f glyphs (fun g => readGroupEnd kind false (body g)) Syntax.Plain (Framed whole) := by
  obtain ⟨frame, rfl, calm, ahead⟩ := framed
  refine tracks_expect (by decide) fun left same => ?_
  subst same
  have closed : Tracks f left (fun g => pure (.group kind (frame.fill g.atom))) Syntax.Plain (Framed whole) :=
    tracks_frame (.group kind frame) (Frame.calm_group opening calm) (ahead.outside (by decide))
  refine Tracks.of_run (fun g r plain => ?_) closed
  obtain ⟨rest, skipBlanks, names, groups⟩ := r
  obtain rfl : skipBlanks = false := plain
  rfl

theorem tracks_inside {opening : GroupOpening} {fuel : Filling → Nat} (calm : opening.Calm) (ahead : Ahead 0 whole glyphs)
    (nested : Tracks f glyphs (fun g => readBranches (fuel g) [] []) Syntax.Plain (Framed whole)) :
    Tracks f glyphs (fun g => readInside (fuel g) opening) Syntax.Plain (Framed whole) := by
  cases opening with
  | flags change =>
    have changed : Tracks f glyphs (fun _ => pure (.flags change)) Syntax.Plain (Framed whole) := by
      refine tracks_frame (.whole (.flags change)) (fun other member => ?_) ahead
      obtain rfl := List.mem_singleton.mp member
      exact calm
    refine Tracks.of_run (fun g r plain => ?_) changed
    rw [readInside, StateT.run_bind, run_applySpaceFlag (r := r.facing (g.spell glyphs)) calm plain]
    rfl
  | group kind =>
    have group : Tracks f glyphs (fun g => readBranches (fuel g) [] [] >>= readGroupEnd kind false) Syntax.Plain
        (Framed whole) := by
      refine nested.bind (fun body r tree after run plain => ?_) fun body left framed => tracks_groupEnd calm framed
      obtain ⟨_, _, -, run⟩ := run_bind_eq_some.mp run
      obtain ⟨_, _, -, run⟩ := run_bind_eq_some.mp run
      obtain ⟨_, _, -, run⟩ := run_bind_eq_some.mp run
      obtain ⟨rfl, -⟩ := run_pure_eq_some.mp run
      exact plain
    refine Tracks.of_run (fun g r plain => ?_) group
    have outside : (get : Read Reader).run (r.facing (g.spell glyphs)) =
        some (r.facing (g.spell glyphs), r.facing (g.spell glyphs)) := rfl
    rw [readInside, StateT.run_bind, outside]
    simp only [Option.bind_eq_bind, Option.bind_some, skipBlanks_facing, plain]
    cases kind with
    | capture index => rfl
    | plain change =>
      rw [StateT.run_bind, run_applySpaceFlag (r := r.facing (g.spell glyphs)) calm plain]
      rfl

theorem tracks_repeatable {parts : List Frame} {k : Filling → Syntax × List Syntax → Read β}
    (next : ∀ part others, parts = part :: others →
      Tracks f glyphs (fun g => k g (part.fill g.atom, others.map (Frame.fill g.atom))) R S) :
    Tracks f glyphs (fun g => liftM (repeatable? (parts.map (Frame.fill g.atom))) >>= k g) R S := by
  cases last : Frame.repeatable? parts with
  | none =>
    refine Tracks.fails fun r _ => ?_
    rw [Frame.repeatable?_map f.repeats, last]
    rfl
  | some found =>
    obtain ⟨part, others⟩ := found
    refine Tracks.of_run (fun g r _ => ?_) (next part others (Frame.eq_cons_of_repeatable? last))
    rw [Frame.repeatable?_map g.repeats, last]
    rfl

theorem Primitive.changes_toSyntax (p : Primitive) : p.toSyntax.changes = [] := by cases p <;> rfl

theorem tracks_next {parts : List Frame} {fuel : Filling → Nat} (within : ClearWithin 0 (.char c :: glyphs))
    (calm : ∀ part ∈ parts, part.Calm)
    (nested : ∀ left, Ahead 0 glyphs left →
      Tracks f left (fun g => readBranches (fuel g) [] []) Syntax.Plain (Framed glyphs)) :
    Tracks f (.char c :: glyphs) (fun g => readNext (fuel g) (parts.map (Frame.fill g.atom)) c)
      (fun parts => ∀ part ∈ parts, part.Plain) (FramedAll glyphs) := by
  unfold readNext
  split
  case isTrue paren =>
    subst paren
    refine (reads_groupOpening within).then fun opening left ⟨calm', after⟩ => ?_
    refine (tracks_inside calm' after (nested left after)).bind (fun part r _ _ run plain => ?_) ?_
    · obtain ⟨rfl, -⟩ := run_pure_eq_some.mp run
      exact (List.forall_mem_cons.mp plain).1
    · rintro _ left ⟨frame, rfl, calm', after⟩
      exact tracks_frames frame calm' calm after
  split
  case isTrue bracket =>
    subst bracket
    refine (reads_bracket within).bind (fun tree r _ _ run plain => ?_) fun tree left ⟨unchanged, after⟩ => ?_
    · obtain ⟨rfl, -⟩ := run_pure_eq_some.mp run
      exact (List.forall_mem_cons.mp plain).1
    · exact tracks_frames (.whole tree) (Frame.calm_whole unchanged) calm after
  split
  case isTrue brace =>
    subst brace
    refine tracks_repeatable fun part others same => ?_
    subst same
    obtain ⟨here, behind⟩ := List.forall_mem_cons.mp calm
    refine (reads_bounds (within.outside (by decide)).ahead).then fun (least, most) left after => ?_
    refine (reads_lazy after).then fun isLazy left after => ?_
    split
    case isTrue ordered => exact tracks_frames (.repetition ⟨least, most, ordered⟩ (!isLazy) part) here behind after
    case isFalse => exact Tracks.fails fun _ _ => rfl
  split
  case h_1 counts sign =>
    have plain : c ≠ '\\' := by
      rintro rfl
      nomatch sign
    refine tracks_repeatable fun part others same => ?_
    subst same
    obtain ⟨here, behind⟩ := List.forall_mem_cons.mp calm
    refine tracks_bump ((reads_lazy (within.outside plain).ahead).then fun isLazy left after => ?_)
    exact tracks_frames (.repetition counts (!isLazy) part) here behind after
  case h_2 =>
    refine (reads_primitive within).bind (fun part r _ _ run plain => ?_) fun part left after => ?_
    · obtain ⟨rfl, -⟩ := run_pure_eq_some.mp run
      exact (List.forall_mem_cons.mp plain).1
    · exact tracks_frames (.whole part.toSyntax) (Frame.calm_whole part.changes_toSyntax) calm after

end framed

/-! ### Runs -/

theorem Frame.calm_ofParts {parts : List Frame} (calm : ∀ part ∈ parts, part.Calm) : (Frame.ofParts parts).Calm := by
  intro change member
  obtain ⟨part, inside, member⟩ := Frame.mem_changes_ofParts member
  exact calm part inside change member

theorem Frame.calm_ofBranches {branches : List Frame} (calm : ∀ branch ∈ branches, branch.Calm) :
    (Frame.ofBranches branches).Calm := by
  intro change member
  obtain ⟨branch, inside, member⟩ := Frame.mem_changes_ofBranches member
  exact calm branch inside change member

section run
variable {f : Filling} {whole glyphs : List Glyph}

theorem spell_eq_nil (nil : f.spell glyphs = []) : glyphs = [] := by
  match glyphs with
  | [] => rfl
  | .gap n :: glyphs =>
    obtain ⟨c, -, more, text⟩ := f.opens n
    rw [Filling.spell, text] at nil
    exact absurd nil (List.cons_ne_nil _ _)

/-- All fillings of a text are read to one frame with the filling, where one of them is read at all. -/
theorem tracks_branches {branches parts : List Frame} {fuel : Filling → Nat} (room : ∀ g, (g.spell glyphs).length < fuel g)
    (finished : ∀ branch ∈ branches, branch.Calm) (calm : ∀ part ∈ parts, part.Calm) (ahead : Ahead 0 whole glyphs) :
    Tracks f glyphs
      (fun g => readBranches (fuel g) (branches.map (Frame.fill g.atom)) (parts.map (Frame.fill g.atom)))
      Syntax.Plain (Framed whole) := by
  induction size : glyphs.length using Nat.strong_induction_on generalizing whole glyphs branches parts fuel with
  | _ n ih =>
  subst size
  obtain ⟨fuel, rfl⟩ : ∃ spare : Filling → Nat, fuel = fun g => spare g + 1 :=
    ⟨fun g => fuel g - 1, funext fun g => (Nat.sub_add_cancel (Nat.one_le_of_lt (room g))).symm⟩
  have branch : (Frame.ofParts parts.reverse).Calm :=
    Frame.calm_ofParts fun part member => calm part (List.mem_reverse.mp member)
  have ends (same : ∀ g : Filling, g.spell glyphs = [] ∨ ∃ rest, g.spell glyphs = ')' :: rest) :
      Tracks f glyphs
        (fun g => readBranches (fuel g + 1) (branches.map (Frame.fill g.atom)) (parts.map (Frame.fill g.atom)))
        Syntax.Plain (Framed whole) := by
    refine Tracks.of_run (fun g r plain => ?_)
      (tracks_frame (.ofBranches (.ofParts parts.reverse :: branches).reverse) ?_ ahead)
    · rw [run_branches_end plain (same g), Frame.fill_ofBranches, List.map_reverse, List.map_cons, Frame.fill_ofParts,
        List.map_reverse]
      rfl
    · refine Frame.calm_ofBranches fun other member => ?_
      rcases List.mem_cons.mp (List.mem_reverse.mp member) with rfl | member
      · exact branch
      · exact finished other member
  match glyphs with
  | [] => exact ends fun g => .inl rfl
  | .gap n :: glyphs =>
    have more : Tracks f glyphs
        (fun g => readBranches (fuel g) (branches.map (Frame.fill g.atom)) ((Frame.gap n :: parts).map (Frame.fill g.atom)))
        Syntax.Plain (Framed whole) := by
      refine ih glyphs.length (Nat.lt_succ_self _) (fun g => ?_) finished ?_ ?_ rfl
      · obtain ⟨c, -, text, same⟩ := g.opens n
        have room : _ < fuel g + 1 := room g
        rw [Filling.spell, same, List.length_append, List.length_cons] at room
        omega
      · exact List.forall_mem_cons.mpr ⟨List.forall_mem_nil _, calm⟩
      · exact ⟨ahead.within.gap.2, (List.suffix_cons _ _).trans ahead.suffix⟩
    refine Tracks.of_run (fun g r plain => ?_) more
    refine g.reads n (g.spell glyphs) plain ?_
    have room : _ < fuel g + 1 := room g
    rw [Filling.spell, List.length_append] at room
    omega
  | .char c :: glyphs =>
    have next {whole left : List Glyph} {branches parts : List Frame} (behind : left <:+ glyphs)
        (finished : ∀ branch ∈ branches, branch.Calm) (calm : ∀ part ∈ parts, part.Calm) (ahead : Ahead 0 whole left) :
        Tracks f left
          (fun g => readBranches (fuel g) (branches.map (Frame.fill g.atom)) (parts.map (Frame.fill g.atom)))
          Syntax.Plain (Framed whole) := by
      refine ih left.length (Nat.lt_succ_of_le behind.length_le) (fun g => ?_) finished calm ahead rfl
      exact Nat.lt_of_le_of_lt (length_spell_suffix g behind) (Nat.lt_of_succ_lt_succ (room g))
    have inside : glyphs <:+ whole := (List.suffix_cons _ _).trans ahead.suffix
    by_cases closing : c = ')'
    · subst closing
      exact ends fun g => .inr ⟨g.spell glyphs, rfl⟩
    by_cases bar : c = '|'
    · subst bar
      have more := next  List.suffix_rfl
        (List.forall_mem_cons.mpr ⟨branch, finished⟩) (List.forall_mem_nil _) (ahead.outside (by decide))
      refine Tracks.of_run (fun g r plain => ?_) more
      rw [List.map_cons, Frame.fill_ofParts, List.map_reverse]
      exact run_branches_bar plain
    · have part : Tracks f (.char c :: glyphs) (fun g => do
          let parts ← readNext (fuel g) (parts.map (Frame.fill g.atom)) c
          readBranches (fuel g) (branches.map (Frame.fill g.atom)) parts) Syntax.Plain (Framed whole) := by
        refine (tracks_next ahead.within calm fun left after => ?_).bind (fun parts r _ _ run plain => ?_) ?_
        · exact next after.suffix (List.forall_mem_nil _) (List.forall_mem_nil _) after
        · exact (plain_of_branches run plain).2
        · rintro _ left ⟨frames, rfl, calm, after⟩
          exact next after.suffix finished calm (after.trans inside)
      exact Tracks.of_run (fun g r plain => run_branches_next plain closing bar) part

/-- A text of which a filling is read spells one frame: each filling spells the frame with the filling, if that
is not nested too deeply. -/
theorem parse?_spell {tree : Syntax} (within : ClearWithin 0 glyphs) (parsed : parse? (f.spell glyphs) = some tree)
    (plain : tree.Plain) : ∃ frame : Frame, frame.Calm ∧ tree = frame.fill f.atom ∧
      ∀ g : Filling, parse? (g.spell glyphs) =
        Option.guard (fun tree => tree.depth ≤ Syntax.depthLimit) (frame.fill g.atom) := by
  obtain ⟨⟨tree, after⟩, read, rest⟩ := Option.bind_eq_some_iff.mp parsed
  obtain ⟨_, empty, rest⟩ := Option.bind_eq_some_iff.mp rest
  obtain ⟨_, -, same⟩ := Option.bind_eq_some_iff.mp rest
  obtain rfl := Option.some.inj same
  have tracks : Tracks f glyphs (fun g => readBranches ((g.spell glyphs).length + 1) [] []) Syntax.Plain (Framed glyphs) :=
    tracks_branches (fun g => Nat.lt_succ_self _) (List.forall_mem_nil _)
      (List.forall_mem_nil _) within.ahead
  obtain ⟨_, left, ⟨frame, rfl, calm, -⟩, -, each⟩ := tracks { rest := [] } tree after rfl read plain
  obtain ⟨rfl, whole⟩ := Prod.mk.inj (Option.some.inj (read.symm.trans (each f)))
  obtain rfl : left = [] := by
    refine spell_eq_nil (f := f) ?_
    have rest : after.rest = f.spell left := congrArg Reader.rest whole
    rw [← rest]
    cases text : after.rest with
    | nil => rfl
    | cons c text =>
      rw [text] at empty
      nomatch empty
  refine ⟨frame, calm, rfl, fun g => ?_⟩
  have read : (readBranches ((g.spell glyphs).length + 1) [] []).run { rest := g.spell glyphs } =
      some (frame.fill g.atom, after.facing []) := each g
  rw [parse?, read]
  by_cases deep : (frame.fill g.atom).depth ≤ Syntax.depthLimit
  · simp [Option.guard, deep]
  · simp [Option.guard, deep]

end run

end Triage.Regex
