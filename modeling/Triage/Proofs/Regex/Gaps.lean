import Mathlib.Data.Bool.AllAny
import Triage.Proofs.Regex.Frame

/-! Texts with gaps. A reader that reads one filling of a text reads the others just so, as long as it does not
look into the gaps; so what it gives is a frame for all of them. -/

namespace Triage.Regex
open Read

/-! ## Texts -/

/-- A character of a text or a numbered gap. -/
inductive Glyph
  | char (c : Char)
  | gap (n : Nat)

/-- What the text in a gap may begin with. No token but a literal character goes on or begins with these. -/
def fronts : List Char := ['(', '"', '%', '/', ';', '@']

theorem forall_fronts {P : Char → Prop} [DecidablePred P] (all : fronts.all fun c => decide (P c)) : ∀ c ∈ fronts, P c :=
  List.all_iff_forall_prop.mp all

def Reader.facing (r : Reader) (text : List Char) : Reader := { r with rest := text }

@[simp] theorem rest_facing (r : Reader) (text : List Char) : (r.facing text).rest = text := rfl

@[simp] theorem skipBlanks_facing (r : Reader) (text : List Char) : (r.facing text).skipBlanks = r.skipBlanks := rfl

@[simp] theorem facing_facing (r : Reader) (text other : List Char) : (r.facing text).facing other = r.facing other := rfl

/-- What stands in the gaps: texts that are read as one part each. -/
structure Filling where
  text : Nat → List Char
  atom : Nat → Syntax
  opens (n : Nat) : ∃ c ∈ fronts, ∃ more, text n = c :: more
  repeats (n : Nat) (parts : List Syntax) : repeatable? (atom n :: parts) = some (atom n, parts)
  reads (n : Nat) {fuel : Nat} {branches parts : List Syntax} {r : Reader} (rest : List Char) :
    r.skipBlanks = false → (text n).length ≤ fuel + 1 →
      (readBranches (fuel + 1) branches parts).run (r.facing (text n ++ rest)) =
        (readBranches fuel branches (atom n :: parts)).run (r.facing rest)

def Filling.spell (f : Filling) : List Glyph → List Char
  | [] => []
  | .char c :: glyphs => c :: f.spell glyphs
  | .gap n :: glyphs => f.text n ++ f.spell glyphs

/-- The characters before the first gap. -/
def initial : List Glyph → List Char
  | .char c :: glyphs => c :: initial glyphs
  | _ => []

/-- Whether a class that goes on so starts with a closing bracket that stands for itself. -/
def startsClosing (text : List Char) : Bool := [']'].isPrefixOf text || ['^', ']'].isPrefixOf text

/-- Whether a group is named after a question mark. -/
def namesGroup (text : List Char) : Bool := ['<'].isPrefixOf text || ['P', '<'].isPrefixOf text

/-- Whether a parenthesis that goes on so turns on neither that case is ignored nor that blanks and comments are,
and the name of its group ends before a backslash, which no name has. -/
def opensWell : List Char → Bool
  | '?' :: text => (text.takeWhile Char.isAlpha).all (fun c => c != 'i' && c != 'x') &&
    (!namesGroup text || (text.takeWhile (· != '\\')).contains '>')
  | _ => true

/-- No gap stands where brackets are open; `depth` counts them as they come, but for those behind a backslash.
No class starts with a closing bracket, and parentheses open well. -/
def Clear : Nat → List Glyph → Prop
  | _, [] => True
  | depth, .gap _ :: glyphs => depth = 0 ∧ Clear depth glyphs
  | depth, .char c :: glyphs =>
    if c = '\\' then
      match glyphs with
      | .char _ :: glyphs => Clear depth glyphs
      | _ => False
    else if c = '[' then startsClosing (initial glyphs) = false ∧ Clear (depth + 1) glyphs
    else if c = ']' then Clear (depth - 1) glyphs
    else (c = '(' → opensWell (initial glyphs)) ∧ Clear depth glyphs

/-- The same where at least `least` brackets are open. -/
def ClearWithin (least : Nat) (glyphs : List Glyph) : Prop := ∃ depth, least ≤ depth ∧ Clear depth glyphs

section within
variable {least : Nat} {c : Char} {glyphs : List Glyph}

theorem clear_char {depth : Nat} : Clear depth (.char c :: glyphs) =
    if c = '\\' then ∃ d rest, glyphs = .char d :: rest ∧ Clear depth rest
    else if c = '[' then startsClosing (initial glyphs) = false ∧ Clear (depth + 1) glyphs
    else if c = ']' then Clear (depth - 1) glyphs
    else (c = '(' → opensWell (initial glyphs)) ∧ Clear depth glyphs := by
  cases glyphs with
  | nil => simp [Clear]
  | cons glyph glyphs => cases glyph <;> simp [Clear, and_assoc]

theorem ClearWithin.zero (within : ClearWithin least glyphs) : ClearWithin 0 glyphs :=
  within.imp fun _ clear => ⟨Nat.zero_le _, clear.2⟩

theorem ClearWithin.escape (within : ClearWithin least (.char '\\' :: glyphs)) :
    ∃ c rest, glyphs = .char c :: rest ∧ ClearWithin least rest := by
  obtain ⟨depth, open_, clear⟩ := within
  rw [clear_char, if_pos rfl] at clear
  obtain ⟨d, rest, rfl, clear⟩ := clear
  exact ⟨d, rest, rfl, depth, open_, clear⟩

theorem ClearWithin.opening (within : ClearWithin least (.char '[' :: glyphs)) :
    startsClosing (initial glyphs) = false ∧ ClearWithin (least + 1) glyphs := by
  obtain ⟨depth, open_, clear⟩ := within
  rw [clear_char, if_neg (by decide), if_pos rfl] at clear
  exact ⟨clear.1, depth + 1, Nat.succ_le_succ open_, clear.2⟩

theorem ClearWithin.closing (within : ClearWithin (least + 1) (.char ']' :: glyphs)) : ClearWithin least glyphs := by
  obtain ⟨depth, open_, clear⟩ := within
  rw [clear_char, if_neg (by decide), if_neg (by decide), if_pos rfl] at clear
  exact ⟨depth - 1, by omega, clear⟩

/-- Other characters than a closing bracket close none. -/
theorem ClearWithin.char (within : ClearWithin least (.char c :: glyphs)) (backslash : c ≠ '\\') (closing : c ≠ ']') :
    ClearWithin least glyphs := by
  by_cases opening : c = '['
  · subst opening
    obtain ⟨-, depth, open_, clear⟩ := within.opening
    exact ⟨depth, by omega, clear⟩
  · obtain ⟨depth, open_, clear⟩ := within
    rw [clear_char, if_neg backslash, if_neg opening, if_neg closing] at clear
    exact ⟨depth, open_, clear.2⟩

theorem ClearWithin.outside (within : ClearWithin 0 (.char c :: glyphs)) (backslash : c ≠ '\\') : ClearWithin 0 glyphs := by
  by_cases closing : c = ']'
  · subst closing
    obtain ⟨depth, -, clear⟩ := within
    rw [clear_char, if_neg (by decide), if_neg (by decide), if_pos rfl] at clear
    exact ⟨depth - 1, Nat.zero_le _, clear⟩
  · exact within.char backslash closing

theorem ClearWithin.opensWell (within : ClearWithin least (.char '(' :: glyphs)) : opensWell (initial glyphs) := by
  obtain ⟨depth, -, clear⟩ := within
  rw [clear_char, if_neg (by decide), if_neg (by decide), if_neg (by decide)] at clear
  exact clear.1 rfl

theorem ClearWithin.gap {n : Nat} (within : ClearWithin least (.gap n :: glyphs)) : least = 0 ∧ ClearWithin 0 glyphs := by
  obtain ⟨depth, open_, none, clear⟩ := within
  exact ⟨by omega, depth, Nat.zero_le _, clear⟩

end within

/-- What is left of a text. -/
structure Ahead (least : Nat) (whole left : List Glyph) : Prop where
  within : ClearWithin least left
  suffix : left <:+ whole

section ahead
variable {least : Nat} {c : Char} {whole glyphs : List Glyph}

theorem ClearWithin.ahead (within : ClearWithin least glyphs) : Ahead least glyphs glyphs := ⟨within, List.suffix_rfl⟩

theorem Ahead.behind {other : Nat} (ahead : Ahead least whole (.char c :: glyphs)) (within : ClearWithin other glyphs) :
    Ahead other whole glyphs :=
  ⟨within, (List.suffix_cons _ _).trans ahead.suffix⟩

theorem Ahead.trans {other : Nat} {left : List Glyph} (ahead : Ahead other glyphs left) (suffix : glyphs <:+ whole) :
    Ahead other whole left :=
  ⟨ahead.within, ahead.suffix.trans suffix⟩

theorem Ahead.char (ahead : Ahead least whole (.char c :: glyphs)) (backslash : c ≠ '\\') (closing : c ≠ ']') :
    Ahead least whole glyphs :=
  ahead.behind (ahead.within.char backslash closing)

theorem Ahead.chars {cs : List Char} (ahead : Ahead least whole (cs.map .char ++ glyphs))
    (ordinary : ∀ c ∈ cs, c ≠ '\\' ∧ c ≠ ']') : Ahead least whole glyphs := by
  induction cs with
  | nil => exact ahead
  | cons c cs ih =>
    obtain ⟨⟨backslash, closing⟩, others⟩ := List.forall_mem_cons.mp ordinary
    exact ih (ahead.char backslash closing) others

end ahead

/-! ## Steps of a reader -/

section run
variable {r : Reader} {c : Char} {text : List Char}

theorem run_bind_eq_some {α β : Type} {m : Read α} {k : α → Read β} {b : β} {after : Reader} :
    (m >>= k).run r = some (b, after) ↔ ∃ a between, m.run r = some (a, between) ∧ (k a).run between = some (b, after) := by
  rw [StateT.run_bind, Option.bind_eq_bind, Option.bind_eq_some_iff, Prod.exists]

theorem run_pure_eq_some {α : Type} {a b : α} {after : Reader} :
    (pure a : Read α).run r = some (b, after) ↔ a = b ∧ r = after := by
  rw [StateT.run_pure, Option.pure_def, Option.some.injEq, Prod.mk.injEq]

theorem run_current?_facing : current?.run (r.facing text) = some (text.head?, r.facing text) := rfl

theorem run_rest_facing : Read.rest.run (r.facing text) = some (text, r.facing text) := rfl

theorem run_current_facing : current.run (r.facing (c :: text)) = some (c, r.facing (c :: text)) := rfl

theorem run_bump_facing : bump.run (r.facing text) = some ((), r.facing (text.drop 1)) := rfl

theorem run_blanks_facing (plain : r.skipBlanks = false) : blanks.run (r.facing text) = some ((), r.facing text) := by
  change some ((), if r.skipBlanks then _ else _) = _
  rw [plain]
  rfl

theorem run_step_facing (plain : r.skipBlanks = false) : step.run (r.facing text) = some ((), r.facing (text.drop 1)) :=
  run_blanks_facing plain

theorem run_peek_facing (plain : r.skipBlanks = false) :
    peek.run (r.facing text) = some ((text.drop 1).head?, r.facing text) := by
  change some (if r.skipBlanks then _ else _, _) = _
  rw [plain]
  rfl

theorem run_expect_facing {sign : Char} : (expect sign).run (r.facing (c :: text)) =
    if c = sign then some ((), r.facing (c :: text)) else none := by
  change (guard ((c == sign) = true) : Read Unit).run _ = _
  by_cases same : c = sign
  · rw [guard, if_pos (by simpa using same), if_pos same]
    rfl
  · rw [guard, if_neg (by simpa using same), if_neg same]
    rfl

/-- A way to move past one character. -/
def Moves (advance : Read Unit) : Prop :=
  ∀ (r : Reader) (text : List Char), r.skipBlanks = false → advance.run (r.facing text) = some ((), r.facing (text.drop 1))

theorem moves_step : Moves step := fun _ _ plain => run_step_facing plain

theorem moves_bump : Moves bump := fun _ _ _ => rfl

theorem run_collectUpTo {keep : Char → Bool} {advance : Read Unit} (moves : Moves advance) {fuel : Nat}
    (plain : r.skipBlanks = false) (room : (text.takeWhile keep).length ≤ fuel) :
    (collectUpTo keep advance fuel).run (r.facing text) = some (text.takeWhile keep, r.facing (text.dropWhile keep)) := by
  induction fuel generalizing text with
  | zero =>
    cases text with
    | nil => rfl
    | cons c text =>
      cases kept : keep c with
      | true => simp [kept] at room
      | false => simp [collectUpTo, kept]
  | succ fuel ih =>
    cases text with
    | nil => rfl
    | cons c text =>
      rw [collectUpTo, StateT.run_bind, run_current?_facing]
      cases kept : keep c with
      | true =>
        rw [List.takeWhile_cons_of_pos kept, List.length_cons] at room
        have rest := ih (Nat.le_of_succ_le_succ room)
        simp only [Option.bind_eq_bind, Option.bind_some, List.head?_cons, kept, if_true, StateT.run_bind,
          moves r (c :: text) plain, List.drop_succ_cons, List.drop_zero, rest, StateT.run_pure,
          List.takeWhile_cons_of_pos kept, List.dropWhile_cons_of_pos kept]
        rfl
      | false =>
        rw [List.takeWhile_cons_of_neg (by simp [kept]), List.dropWhile_cons_of_neg (by simp [kept])]
        simp only [Option.bind_eq_bind, Option.bind_some, List.head?_cons, kept]
        rfl

theorem run_collect {keep : Char → Bool} {advance : Read Unit} (moves : Moves advance) (plain : r.skipBlanks = false) :
    (collect keep advance).run (r.facing text) = some (text.takeWhile keep, r.facing (text.dropWhile keep)) :=
  run_collectUpTo moves plain (List.takeWhile_prefix keep).length_le

end run

/-! ## Reading fillings alike -/

section tracks
variable {α β : Type} {f : Filling} {glyphs rest : List Glyph} {P : α → Prop} {R : β → Prop}
  {Q : (Filling → α) → List Glyph → Prop} {S : (Filling → β) → List Glyph → Prop} {m n : Filling → Read α}
  {k : Filling → α → Read β}

/-- Where the filling `f` is read to a value with the property `P`, all fillings are read in the same way, up
to glyphs behind: `Q` tells of the values and of what is left. -/
def Tracks (f : Filling) (glyphs : List Glyph) (m : Filling → Read α) (P : α → Prop)
    (Q : (Filling → α) → List Glyph → Prop) : Prop :=
  ∀ (r : Reader) (a : α) (after : Reader), r.skipBlanks = false → (m f).run (r.facing (f.spell glyphs)) = some (a, after) →
    P a → ∃ (b : Filling → α) (left : List Glyph), Q b left ∧ after.skipBlanks = false ∧
      ∀ g, (m g).run (r.facing (g.spell glyphs)) = some (b g, after.facing (g.spell left))

/-- The same where the value does not depend on the filling. -/
abbrev Reads (f : Filling) (glyphs : List Glyph) (m : Read α) (P : α → Prop) (Q : α → List Glyph → Prop) : Prop :=
  Tracks f glyphs (fun _ => m) P fun b left => ∃ a, b = (fun _ => a) ∧ Q a left

theorem Tracks.fails (none : ∀ r : Reader, r.skipBlanks = false → (m f).run (r.facing (f.spell glyphs)) = none) :
    Tracks f glyphs m P Q := by
  intro r a after plain run
  rw [none r plain] at run
  nomatch run

/-- Steps that are the same for all fillings come first. -/
theorem Tracks.of_run {other : List Glyph} (same : ∀ (g : Filling) (r : Reader), r.skipBlanks = false →
      (m g).run (r.facing (g.spell glyphs)) = (n g).run (r.facing (g.spell other)))
    (behind : Tracks f other n P Q) : Tracks f glyphs m P Q := by
  intro r a after plain run counts
  rw [same f r plain] at run
  obtain ⟨b, left, holds, plain', each⟩ := behind r a after plain run counts
  exact ⟨b, left, holds, plain', fun g => (same g r plain).trans (each g)⟩

theorem Tracks.mono {Q' : (Filling → α) → List Glyph → Prop} (tracks : Tracks f glyphs m P Q)
    (implies : ∀ b left, Q b left → Q' b left) : Tracks f glyphs m P Q' := by
  intro r a after plain run counts
  obtain ⟨b, left, holds, rest⟩ := tracks r a after plain run counts
  exact ⟨b, left, implies b left holds, rest⟩

theorem Tracks.bind (first : Tracks f glyphs m P Q)
    (back : ∀ a r c after, (k f a).run r = some (c, after) → R c → P a)
    (next : ∀ b left, Q b left → Tracks f left (fun g => k g (b g)) R S) :
    Tracks f glyphs (fun g => m g >>= k g) R S := by
  intro r c after plain run counts
  obtain ⟨a, between, here, there⟩ := run_bind_eq_some.mp run
  obtain ⟨b, left, holds, plain', each⟩ := first r a between plain here (back a between c after there counts)
  obtain ⟨rfl, same⟩ := Prod.mk.inj (Option.some.inj (here.symm.trans (each f)))
  have there : (k f (b f)).run (between.facing (f.spell left)) = some (c, after) := same ▸ there
  obtain ⟨d, left', holds', plain'', each'⟩ := next b left holds between c after plain' there counts
  refine ⟨d, left', holds', plain'', fun g => ?_⟩
  rw [StateT.run_bind, each g, Option.bind_eq_bind, Option.bind_some]
  exact each' g

theorem Reads.bind {m : Read α} {T : α → List Glyph → Prop} (first : Reads f glyphs m P T)
    (back : ∀ a r c after, (k f a).run r = some (c, after) → R c → P a)
    (next : ∀ a left, T a left → Tracks f left (fun g => k g a) R S) : Tracks f glyphs (fun g => m >>= k g) R S := by
  refine Tracks.bind first back fun b left holds => ?_
  obtain ⟨a, rfl, holds⟩ := holds
  exact next a left holds

/-- What is told of every value. -/
abbrev anything (_ : α) : Prop := True

theorem Reads.then {m : Read α} {T : α → List Glyph → Prop} (first : Reads f glyphs m anything T)
    (next : ∀ a left, T a left → Tracks f left (fun g => k g a) R S) : Tracks f glyphs (fun g => m >>= k g) R S :=
  Reads.bind first (fun _ _ _ _ _ _ => trivial) next

theorem Tracks.excluded (never : ∀ r a after, (m f).run r = some (a, after) → ¬P a) : Tracks f glyphs m P Q :=
  fun _ a after _ run counts => absurd counts (never _ a after run)

theorem Reads.mono {m : Read α} {T T' : α → List Glyph → Prop} (reads : Reads f glyphs m P T)
    (implies : ∀ a left, T a left → T' a left) : Reads f glyphs m P T' :=
  Tracks.mono reads fun _ left ⟨a, same, holds⟩ => ⟨a, same, implies a left holds⟩

theorem tracks_pure {b : Filling → α} (holds : P (b f) → Q b glyphs) : Tracks f glyphs (fun g => pure (b g)) P Q := by
  intro r a after plain run counts
  obtain ⟨rfl, rfl⟩ := run_pure_eq_some.mp run
  exact ⟨b, glyphs, holds counts, plain, fun g => rfl⟩

theorem reads_pure {a : α} {T : α → List Glyph → Prop} (holds : P a → T a glyphs) : Reads f glyphs (pure a) P T :=
  tracks_pure fun counts => ⟨a, rfl, holds counts⟩

theorem reads_lift {x : Option α} {T : α → List Glyph → Prop} (holds : ∀ a, x = some a → T a glyphs) :
    Reads f glyphs (liftM x) P T := by
  cases found : x with
  | none => exact Tracks.fails fun _ _ => rfl
  | some a => exact reads_pure fun _ => holds a found

theorem tracks_guard {p : Prop} [Decidable p] {m : Filling → Read β} (next : p → Tracks f glyphs m R S) :
    Tracks f glyphs (fun g => guard p >>= fun _ => m g) R S := by
  by_cases holds : p
  · refine Tracks.of_run (fun g r _ => ?_) (next holds)
    rw [guard, if_pos holds]
    rfl
  · refine Tracks.fails fun r _ => ?_
    rw [guard, if_neg holds]
    rfl

/-- What does not hold of the filling that is read is not asked of others. -/
theorem tracks_guard_no {p : Filling → Prop} [∀ g, Decidable (p g)] {m : Filling → Read β} (no : ¬p f) :
    Tracks f glyphs (fun g => guard (p g) >>= fun _ => m g) R S := by
  refine Tracks.fails fun r _ => ?_
  rw [guard, if_neg no]
  rfl

section steps
variable {c : Char} {j : Filling → Read β} {l : Filling → Char → Read β}

theorem tracks_current (next : Tracks f (.char c :: glyphs) (fun g => l g c) R S) :
    Tracks f (.char c :: glyphs) (fun g => current >>= l g) R S :=
  Tracks.of_run (fun _ _ _ => rfl) next

theorem tracks_current_end : Tracks f [] (fun g => current >>= l g) R S :=
  Tracks.fails fun _ _ => rfl

theorem tracks_current_gap {n : Nat} (next : ∀ front : Filling → Char, (∀ g, front g ∈ fronts) →
      Tracks f (.gap n :: glyphs) (fun g => l g (front g)) R S) :
    Tracks f (.gap n :: glyphs) (fun g => current >>= l g) R S := by
  refine Tracks.of_run (fun g r _ => ?_) (next (fun g => (g.text n).headD '(') fun g => ?_) <;>
    obtain ⟨c, known, more, text⟩ := g.opens n
  · rw [Filling.spell, text]
    rfl
  · rw [text]
    exact known

theorem tracks_step (next : Tracks f glyphs j R S) : Tracks f (.char c :: glyphs) (fun g => step >>= fun _ => j g) R S := by
  refine Tracks.of_run (fun g r plain => ?_) next
  rw [StateT.run_bind, run_step_facing plain]
  rfl

theorem tracks_bump (next : Tracks f glyphs j R S) : Tracks f (.char c :: glyphs) (fun g => bump >>= fun _ => j g) R S :=
  Tracks.of_run (fun _ _ _ => rfl) next

theorem tracks_blanks (next : Tracks f glyphs j R S) : Tracks f glyphs (fun g => blanks >>= fun _ => j g) R S := by
  refine Tracks.of_run (fun g r plain => ?_) next
  rw [StateT.run_bind, run_blanks_facing plain]
  rfl

theorem tracks_rest {l : Filling → List Char → Read β} (next : Tracks f glyphs (fun g => l g (g.spell glyphs)) R S) :
    Tracks f glyphs (fun g => Read.rest >>= l g) R S :=
  Tracks.of_run (fun _ _ _ => rfl) next

theorem tracks_peek {l : Filling → Option Char → Read β}
    (next : Tracks f (.char c :: glyphs) (fun g => l g (g.spell glyphs).head?) R S) :
    Tracks f (.char c :: glyphs) (fun g => peek >>= l g) R S := by
  refine Tracks.of_run (fun g r plain => ?_) next
  rw [StateT.run_bind, run_peek_facing plain]
  rfl

theorem exists_chars (keep : Char → Bool) (glyphs : List Glyph) :
    ∃ (cs : List Char) (left : List Glyph), glyphs = cs.map .char ++ left ∧
    (∀ c ∈ cs, keep c) ∧ ∀ c rest, left = .char c :: rest → keep c = false := by
  induction glyphs with
  | nil => exact ⟨[], [], rfl, by simp, by simp⟩
  | cons glyph glyphs ih =>
    cases glyph with
    | gap n => exact ⟨[], _, rfl, by simp, by simp⟩
    | char c =>
      cases kept : keep c with
      | false => exact ⟨[], _, rfl, by simp, by simp [kept]⟩
      | true =>
        obtain ⟨cs, left, rfl, all, stops⟩ := ih
        exact ⟨c :: cs, left, rfl, List.forall_mem_cons.mpr ⟨kept, all⟩, stops⟩

theorem spell_chars (g : Filling) (cs : List Char) (glyphs : List Glyph) :
    g.spell (cs.map .char ++ glyphs) = cs ++ g.spell glyphs := by
  induction cs with
  | nil => rfl
  | cons c cs ih => exact congrArg (c :: ·) ih

theorem spell_append (g : Filling) (first second : List Glyph) :
    g.spell (first ++ second) = g.spell first ++ g.spell second := by
  induction first with
  | nil => rfl
  | cons glyph first ih => cases glyph <;> simp [Filling.spell, ih]

theorem length_spell_suffix (g : Filling) {left : List Glyph} (suffix : left <:+ glyphs) :
    (g.spell left).length ≤ (g.spell glyphs).length := by
  obtain ⟨before, rfl⟩ := suffix
  rw [spell_append, List.length_append]
  exact Nat.le_add_left _ _

/-- What is no beginning of a gap is written out. -/
theorem exists_left {cs text : List Char} (spelled : f.spell glyphs = cs ++ text) (outside : ∀ c ∈ cs, c ∉ fronts) :
    ∃ left, glyphs = cs.map .char ++ left ∧ text = f.spell left := by
  induction cs generalizing glyphs with
  | nil => exact ⟨glyphs, rfl, spelled.symm⟩
  | cons c cs ih =>
    obtain ⟨here, others⟩ := List.forall_mem_cons.mp outside
    match glyphs with
    | [] => nomatch spelled
    | .gap n :: glyphs =>
      obtain ⟨d, front, more, same⟩ := f.opens n
      rw [Filling.spell, same] at spelled
      exact absurd ((List.cons.inj spelled).1 ▸ front) here
    | .char d :: glyphs =>
      obtain ⟨rfl, rest⟩ := List.cons.inj spelled
      obtain ⟨left, rfl, behind⟩ := ih rest others
      exact ⟨left, rfl, behind⟩

theorem takeWhile_spell {keep : Char → Bool} {cs : List Char} (all : ∀ c ∈ cs, keep c) {g : Filling}
    (stops : ∀ c text, g.spell glyphs = c :: text → keep c = false) :
    (g.spell (cs.map .char ++ glyphs)).takeWhile keep = cs ∧
      (g.spell (cs.map .char ++ glyphs)).dropWhile keep = g.spell glyphs := by
  have none : (g.spell glyphs).takeWhile keep = [] ∧ (g.spell glyphs).dropWhile keep = g.spell glyphs := by
    cases text : g.spell glyphs with
    | nil => exact ⟨rfl, rfl⟩
    | cons c text => simp [stops c _ text]
  rw [spell_chars, List.takeWhile_append_of_pos all, List.dropWhile_append_of_pos all, none.1, none.2, List.append_nil]
  exact ⟨rfl, rfl⟩

theorem tracks_collectUpTo {keep : Char → Bool} {advance : Read Unit} (moves : Moves advance) {fuel : Filling → Nat}
    {l : Filling → List Char → Read β} (outside : ∀ c ∈ fronts, keep c = false)
    (room : ∀ g, (g.spell glyphs).length ≤ fuel g)
    (next : ∀ cs left, glyphs = cs.map .char ++ left → (∀ c ∈ cs, keep c) → Tracks f left (fun g => l g cs) R S) :
    Tracks f glyphs (fun g => collectUpTo keep advance (fuel g) >>= l g) R S := by
  obtain ⟨cs, left, rfl, all, stops⟩ := exists_chars keep glyphs
  refine Tracks.of_run (fun g r plain => ?_) (next cs left rfl all)
  have stops : ∀ c text, g.spell left = c :: text → keep c = false := by
    intro c text same
    match left with
    | .char d :: left => exact (List.cons.inj same).1 ▸ stops d left rfl
    | .gap n :: left =>
      obtain ⟨d, known, more, front⟩ := g.opens n
      rw [Filling.spell, front] at same
      exact (List.cons.inj same).1 ▸ outside d known
  obtain ⟨taken, dropped⟩ := takeWhile_spell all stops
  rw [StateT.run_bind, run_collectUpTo moves plain ((List.takeWhile_prefix keep).length_le.trans (room g)), taken, dropped]
  rfl

theorem tracks_collect {keep : Char → Bool} {advance : Read Unit} (moves : Moves advance)
    {l : Filling → List Char → Read β} (outside : ∀ c ∈ fronts, keep c = false)
    (next : ∀ cs left, glyphs = cs.map .char ++ left → (∀ c ∈ cs, keep c) → Tracks f left (fun g => l g cs) R S) :
    Tracks f glyphs (fun g => collect keep advance >>= l g) R S :=
  Tracks.of_run (fun _ _ _ => rfl) (tracks_collectUpTo moves outside (fun g => Nat.le_refl (g.spell glyphs).length) next)

/-- A run that may go on in a gap, where what is read must not have what a gap begins with. -/
theorem tracks_collect_known {keep : Char → Bool} {advance : Read Unit} (moves : Moves advance)
    {l : Filling → List Char → Read β} (inside : ∀ c ∈ fronts, keep c)
    (known : ∀ cs r b after, (l f cs).run r = some (b, after) → R b → ∀ c ∈ fronts, c ∉ cs)
    (next : ∀ cs left, glyphs = cs.map .char ++ left → (∀ c ∈ cs, keep c) → Tracks f left (fun g => l g cs) R S) :
    Tracks f glyphs (fun g => collect keep advance >>= l g) R S := by
  obtain ⟨cs, left, rfl, all, stops⟩ := exists_chars keep glyphs
  match left with
  | .gap n :: left =>
    intro r b after plain run counts
    rw [StateT.run_bind, run_collect moves plain] at run
    obtain ⟨c, front, more, text⟩ := f.opens n
    refine absurd ?_ (known _ _ b after run counts c front)
    rw [spell_chars, Filling.spell, text, List.takeWhile_append_of_pos all, List.cons_append,
      List.takeWhile_cons_of_pos (inside c front)]
    exact List.mem_append_right _ List.mem_cons_self
  | [] =>
    refine Tracks.of_run (fun g r plain => ?_) (next cs [] rfl all)
    have stops : ∀ c text, g.spell [] = c :: text → keep c = false :=
      fun c text same => absurd same.symm (List.cons_ne_nil c text)
    obtain ⟨taken, dropped⟩ := takeWhile_spell all stops
    rw [StateT.run_bind, run_collect moves plain, taken, dropped]
    rfl
  | .char d :: left =>
    refine Tracks.of_run (fun g r plain => ?_) (next cs _ rfl all)
    have stops : ∀ c text, g.spell (.char d :: left) = c :: text → keep c = false := by
      intro c text same
      rw [Filling.spell] at same
      exact (List.cons.inj same).1 ▸ stops d left rfl
    obtain ⟨taken, dropped⟩ := takeWhile_spell all stops
    rw [StateT.run_bind, run_collect moves plain, taken, dropped]
    rfl

/-- A sign that is expected is there. -/
theorem tracks_expect {sign : Char} (outside : sign ∉ fronts)
    (next : ∀ left, glyphs = .char sign :: left → Tracks f glyphs j R S) :
    Tracks f glyphs (fun g => expect sign >>= fun _ => j g) R S := by
  cases glyphs with
  | nil => exact Tracks.fails fun _ _ => rfl
  | cons glyph glyphs =>
    cases glyph with
    | char c =>
      by_cases same : c = sign
      · subst same
        refine Tracks.of_run (fun g r _ => ?_) (next glyphs rfl)
        rw [StateT.run_bind, Filling.spell, run_expect_facing, if_pos rfl]
        rfl
      · refine Tracks.fails fun r _ => ?_
        rw [StateT.run_bind, Filling.spell, run_expect_facing, if_neg same]
        rfl
    | gap n =>
      obtain ⟨c, known, more, text⟩ := f.opens n
      have other : c ≠ sign := fun same => outside (same ▸ known)
      refine Tracks.fails fun r _ => ?_
      rw [StateT.run_bind, Filling.spell, text, List.cons_append, run_expect_facing, if_neg other]
      rfl

end steps

end tracks

end Triage.Regex
