import Triage.Proofs.Regex.Elements

/-! Openings of groups, and repetition signs, of a text with gaps. -/

namespace Triage.Regex
open Read

/-! ## Groups -/

/-- The change turns on neither of the flags under which what follows is read in another way. -/
def FlagChange.Calm (change : FlagChange) : Prop := (Flag.ignoreCase, true) ∉ change ∧ (Flag.ignoreSpace, true) ∉ change

theorem mem_of_value? {change : FlagChange} {flag : Flag} {on : Bool} (value : change.value? flag = some on) :
    (flag, on) ∈ change := by
  obtain ⟨⟨other, _⟩, found, rfl⟩ := Option.map_eq_some_iff.mp value
  have same := List.find?_some found
  obtain rfl := beq_iff_eq.mp same
  exact List.mem_of_find?_eq_some found

theorem run_guard {p : Prop} [Decidable p] {r : Reader} :
    (guard p : Read Unit).run r = if p then some ((), r) else none := by
  unfold guard
  split <;> rfl

section groups
variable {f : Filling} {c : Char} {whole glyphs : List Glyph}

theorem ordinary_of_flagNamed? {flag : Flag} (named : flagNamed? c = some flag) : c ≠ '\\' ∧ c ≠ ']' ∧ c.isAlpha := by
  unfold flagNamed? at named
  split at named
  case h_8 => nomatch named
  all_goals decide

theorem Ahead.outside (ahead : Ahead 0 whole (.char c :: glyphs)) (backslash : c ≠ '\\') : Ahead 0 whole glyphs :=
  ahead.behind (ahead.within.outside backslash)

theorem Ahead.allOutside {cs : List Char} (ahead : Ahead 0 whole (cs.map .char ++ glyphs)) (plain : ∀ c ∈ cs, c ≠ '\\') :
    Ahead 0 whole glyphs := by
  induction cs with
  | nil => exact ahead
  | cons c cs ih =>
    obtain ⟨backslash, others⟩ := List.forall_mem_cons.mp plain
    exact ih (ahead.outside backslash) others

/-- Flags are the same for all fillings; those that are turned on are named before the hyphen. -/
theorem readFlags_spell {seen change : FlagChange} {on dangling : Bool} {stop : Char} {after : List Char}
    (read : readFlags seen on dangling (f.spell glyphs) = some (change, stop, after)) (ahead : Ahead 0 whole glyphs) :
    (∃ left, Ahead 0 whole left ∧
      ∀ g : Filling, readFlags seen on dangling (g.spell glyphs) = some (change, stop, g.spell left)) ∧
      ∀ flag, (flag, true) ∈ change → (flag, true) ∈ seen ∨
        on ∧ ∃ c ∈ (initial glyphs).takeWhile Char.isAlpha, flagNamed? c = some flag := by
  induction glyphs generalizing seen on dangling with
  | nil => cases read
  | cons glyph glyphs ih =>
    cases glyph with
    | gap n =>
      have none : ∀ c ∈ fronts, (c == ':' || c == ')') = false ∧ (c == '-') = false ∧ flagNamed? c = none := forall_fronts (by decide)
      obtain ⟨c, front, more, text⟩ := f.opens n
      obtain ⟨stops, hyphen, flag⟩ := none c front
      rw [Filling.spell, text, List.cons_append, readFlags] at read
      simp [stops, hyphen, flag] at read
    | char c =>
      rw [Filling.spell, readFlags] at read
      simp only [Filling.spell, readFlags]
      by_cases stops : (c == ':' || c == ')') = true
      · rw [if_pos stops] at read
        cases dangling with
        | true => cases read
        | false =>
          obtain ⟨rfl, rfl, rfl⟩ := Option.some.inj read
          refine ⟨⟨glyphs, ahead.outside ?_, fun g => if_pos stops⟩, fun flag member => .inl (List.mem_reverse.mp member)⟩
          rintro rfl
          exact absurd stops Bool.false_ne_true
      rw [if_neg stops] at read
      simp only [if_neg stops]
      by_cases hyphen : (c == '-') = true
      · rw [if_pos hyphen] at read
        simp only [if_pos hyphen]
        obtain rfl := beq_iff_eq.mp hyphen
        cases on with
        | false => cases read
        | true =>
          obtain ⟨same, flags⟩ := ih read (ahead.outside (by decide))
          exact ⟨same, fun flag member => (flags flag member).imp_right fun off => absurd off.1 Bool.false_ne_true⟩
      rw [if_neg hyphen] at read
      simp only [if_neg hyphen]
      cases named : flagNamed? c with
      | none =>
        rw [named] at read
        cases read
      | some flag =>
        rw [named] at read
        dsimp only at read ⊢
        obtain ⟨backslash, -, letter⟩ := ordinary_of_flagNamed? named
        split at read
        · cases read
        · rename_i fresh
          obtain ⟨⟨left, after, each⟩, flags⟩ := ih read (ahead.outside backslash)
          refine ⟨⟨left, after, fun g => (if_neg fresh).trans (each g)⟩, fun other member => ?_⟩
          rw [initial, List.takeWhile_cons_of_pos letter]
          rcases flags other member with member | ⟨on, d, inside, same⟩
          · rcases List.mem_cons.mp member with same | member
            · obtain ⟨rfl, rfl⟩ := Prod.mk.inj same
              exact .inr ⟨rfl, c, List.mem_cons_self, named⟩
            · exact .inl member
          · exact .inr ⟨on, d, List.mem_cons_of_mem _ inside, same⟩

theorem calm_of_readFlags {change : FlagChange} {stop : Char} {after : List Char}
    (read : readFlags [] true false (f.spell glyphs) = some (change, stop, after)) (ahead : Ahead 0 whole glyphs)
    (off : ∀ c ∈ (initial glyphs).takeWhile Char.isAlpha, c ≠ 'i' ∧ c ≠ 'x') : change.Calm := by
  have named {flag : Flag} {sign : Char} (only : ∀ c, flagNamed? c = some flag → c = sign)
      (other : ∀ c ∈ (initial glyphs).takeWhile Char.isAlpha, c ≠ sign) : (flag, true) ∉ change := by
    intro member
    rcases (readFlags_spell read ahead).2 flag member with none | ⟨-, c, inside, same⟩
    · nomatch none
    · exact other c inside (only c same)
  have letter {flag : Flag} {c : Char} (same : flagNamed? c = some flag) :
      (flag = .ignoreCase → c = 'i') ∧ (flag = .ignoreSpace → c = 'x') := by
    unfold flagNamed? at same
    split at same
    case h_8 => nomatch same
    all_goals
      obtain rfl := Option.some.inj same
      exact ⟨by simp, by simp⟩
  exact ⟨named (fun c same => (letter same).1 rfl) fun c inside => (off c inside).1,
    named (fun c same => (letter same).2 rfl) fun c inside => (off c inside).2⟩

theorem run_applySpaceFlag {change : FlagChange} (calm : change.Calm) {r : Reader} (plain : r.skipBlanks = false) :
    (applySpaceFlag change).run r = some ((), r) := by
  have same : (change.value? .ignoreSpace).getD r.skipBlanks = r.skipBlanks := by
    cases value : change.value? .ignoreSpace with
    | none => rfl
    | some on =>
      cases on with
      | false => exact plain.symm
      | true => exact absurd (mem_of_value? value) calm.2
  change some ((), { r with skipBlanks := (change.value? .ignoreSpace).getD r.skipBlanks }) = _
  rw [same]

/-! ### Names -/

/-- The name of a group that ends before a backslash. -/
theorem exists_name (closes : ((initial glyphs).takeWhile (· != '\\')).contains '>') :
    ∃ (name : List Char) (left : List Glyph), glyphs = name.map .char ++ .char '>' :: left ∧
      ∀ c ∈ name, c ≠ '>' ∧ c ≠ '\\' := by
  induction glyphs with
  | nil => nomatch closes
  | cons glyph glyphs ih =>
    cases glyph with
    | gap n => nomatch closes
    | char c =>
      by_cases closing : c = '>'
      · subst closing
        exact ⟨[], glyphs, rfl, List.forall_mem_nil _⟩
      by_cases backslash : c = '\\'
      · subst backslash
        nomatch closes
      rw [initial, List.takeWhile_cons_of_pos (p := (· != '\\')) (bne_iff_ne.mpr backslash), List.contains_cons,
        beq_false_of_ne (Ne.symm closing), Bool.false_or] at closes
      obtain ⟨name, left, rfl, each⟩ := ih closes
      exact ⟨c :: name, left, rfl, List.forall_mem_cons.mpr ⟨⟨closing, backslash⟩, each⟩⟩

theorem run_readGroupName {name text : List Char} {r : Reader} (inside : ∀ c ∈ name, c ≠ '>') :
    readGroupName.run (r.facing (name ++ '>' :: text)) =
      if !name.isEmpty && (name.zipIdx.all fun (c, i) => isGroupNameChar (i == 0) c) && !r.names.contains name then
        some ((), { r with rest := text, names := name :: r.names })
      else none := by
  have kept : ∀ c ∈ name, (c != '>') = true := fun c member => bne_iff_ne.mpr (inside c member)
  have split : (name ++ '>' :: text).span (· != '>') = (name, '>' :: text) := by
    rw [List.span_eq_takeWhile_dropWhile, List.takeWhile_append_of_pos kept, List.dropWhile_append_of_pos kept]
    simp
  rw [readGroupName]
  simp only [StateT.run_bind, run_rest_facing, Option.bind_eq_bind, Option.bind_some, split, run_guard]
  have names : (r.facing (name ++ '>' :: text)).names = r.names := rfl
  cases name.isEmpty <;> cases name.zipIdx.all fun x => isGroupNameChar (x.snd == 0) x.fst <;>
    cases met : r.names.contains name <;>
    simp only [List.isEmpty_cons, Bool.not_false, Bool.not_true, Bool.and_true, Bool.and_false,
      Bool.false_eq_true, if_true, if_false, StateT.run_get, Option.pure_def, Option.bind_some, Option.bind_none, names, met]
  rfl

theorem reads_groupName (ahead : Ahead 0 whole glyphs) (closes : ((initial glyphs).takeWhile (· != '\\')).contains '>') :
    Reads f glyphs readGroupName anything fun _ left => Ahead 0 whole left := by
  obtain ⟨name, left, rfl, each⟩ := exists_name closes
  intro r _ after plain run _
  rw [spell_chars, Filling.spell, run_readGroupName fun c member => (each c member).1] at run
  split at run
  · rename_i fine
    obtain ⟨-, rfl⟩ := Prod.mk.inj (Option.some.inj run)
    refine ⟨fun _ => (), left, ⟨(), rfl, ?_⟩, plain, fun g => ?_⟩
    · exact (ahead.allOutside fun c member => (each c member).2).outside (by decide)
    · rw [spell_chars, Filling.spell, run_readGroupName (fun c member => (each c member).1), if_pos fine]
      rfl
  · cases run

/-! ### Openings -/

/-- No flag is turned on under which what follows is read in another way. -/
def GroupOpening.Calm : GroupOpening → Prop
  | .flags change | .group (.plain change) => change.Calm
  | .group (.capture _) => True

/-- What follows a parenthesis with a question mark that opens no named group. -/
def readFlagsOpening (text : List Char) : Read GroupOpening := do
  let (change, stop, after) ← readFlags [] true false text
  modify fun r => { r with rest := after }
  if stop == ')' then
    guard !change.isEmpty
    return .flags change
  else return .group (.plain change)

/-- Whether a group with a name follows, or a look around. -/
def startsName : List Char → Bool
  | [] => false
  | c :: rest => ['=', '!', '<'].contains c || c == 'P' && rest.head? == some '<'

section run
variable {r : Reader} {text : List Char}

theorem run_opening_capture (plain : r.skipBlanks = false) (other : text.head? ≠ some '?') :
    readGroupOpening.run (r.facing ('(' :: text)) =
      (nextCapture >>= fun kind => pure (.group kind) : Read GroupOpening).run (r.facing text) := by
  rw [readGroupOpening, StateT.run_bind, run_step_facing plain]
  simp only [Option.bind_eq_bind, Option.bind_some, List.drop_succ_cons, List.drop_zero, StateT.run_bind, run_rest_facing]
  split
  case h_8 => rfl
  all_goals exact absurd rfl other

theorem run_opening_look {sign : List Char} (plain : r.skipBlanks = false)
    (look : sign ∈ [['?', '='], ['?', '!'], ['?', '<', '='], ['?', '<', '!']]) :
    readGroupOpening.run (r.facing ('(' :: (sign ++ text))) = none := by
  rw [readGroupOpening, StateT.run_bind, run_step_facing plain]
  simp only [List.mem_cons, List.not_mem_nil, or_false] at look
  rcases look with rfl | rfl | rfl | rfl <;> rfl

theorem run_opening_name {sign : List Char} (plain : r.skipBlanks = false)
    (named : sign = ['?', 'P', '<'] ∨ sign = ['?', '<'] ∧ text.head? ≠ some '=' ∧ text.head? ≠ some '!') :
    readGroupOpening.run (r.facing ('(' :: (sign ++ text))) = (do
      let kind ← nextCapture
      readGroupName
      return .group kind : Read GroupOpening).run (r.facing text) := by
  rw [readGroupOpening, StateT.run_bind, run_step_facing plain]
  rcases named with rfl | ⟨rfl, equal, mark⟩
  · rfl
  · simp only [Option.bind_eq_bind, Option.bind_some, List.cons_append, List.nil_append, List.drop_succ_cons, List.drop_zero,
      StateT.run_bind, run_rest_facing]
    split
    case h_6 same =>
      obtain rfl := (List.cons.inj (List.cons.inj same).2).2
      rfl
    case h_7 _ _ _ _ _ other same => exact absurd (List.cons.inj same).2.symm (other text)
    case h_8 other => exact absurd rfl (other ('<' :: text))
    all_goals
      rename_i same
      have same := (List.cons.inj same).2
      first
      | exact absurd (List.cons.inj same).1 (by decide)
      | rw [(List.cons.inj same).2] at equal
        exact absurd rfl equal
      | rw [(List.cons.inj same).2] at mark
        exact absurd rfl mark

theorem run_opening_flags (plain : r.skipBlanks = false) (other : startsName text = false) :
    readGroupOpening.run (r.facing ('(' :: '?' :: text)) = (readFlagsOpening text).run (r.facing ('?' :: text)) := by
  rw [readGroupOpening, StateT.run_bind, run_step_facing plain]
  simp only [Option.bind_eq_bind, Option.bind_some, List.drop_succ_cons, List.drop_zero, StateT.run_bind, run_rest_facing]
  split
  case h_7 same =>
    obtain rfl := (List.cons.inj same).2
    rfl
  case h_8 none => exact absurd rfl (none text)
  all_goals
    rename_i same
    rw [(List.cons.inj same).2] at other
    exact absurd other (by simp [startsName])

end run

theorem initial_eq_cons {cs : List Char} (starts : initial glyphs = c :: cs) :
    ∃ rest, glyphs = .char c :: rest ∧ cs = initial rest := by
  match glyphs with
  | .char d :: rest =>
    obtain ⟨rfl, rfl⟩ := List.cons.inj starts
    exact ⟨rest, rfl, rfl⟩

theorem head?_spell {sign : Char} (outside : sign ∉ fronts) (g : Filling) (glyphs : List Glyph) :
    ((g.spell glyphs).head? == some sign) = ((initial glyphs).head? == some sign) := by
  match glyphs with
  | [] => rfl
  | .char c :: glyphs => rfl
  | .gap n :: glyphs =>
    obtain ⟨c, front, more, text⟩ := g.opens n
    rw [Filling.spell, text]
    exact beq_false_of_ne fun same => outside (Option.some.inj same ▸ front)

theorem startsName_spell (g : Filling) (glyphs : List Glyph) :
    startsName (g.spell glyphs) = startsName (initial glyphs) := by
  match glyphs with
  | [] => rfl
  | .char c :: glyphs => rw [Filling.spell, initial, startsName, startsName, head?_spell (by decide)]
  | .gap n :: glyphs =>
    have none : ∀ c ∈ fronts, ['=', '!', '<'].contains c = false ∧ (c == 'P') = false := forall_fronts (by decide)
    obtain ⟨c, front, more, text⟩ := g.opens n
    rw [Filling.spell, text, List.cons_append, startsName, (none c front).1, (none c front).2]
    rfl

theorem reads_nextCapture :
    Reads f glyphs nextCapture anything fun kind left => left = glyphs ∧ ∃ n, kind = .capture n := by
  intro r kind after plain run _
  obtain ⟨rfl, rfl⟩ := Prod.mk.inj (Option.some.inj run)
  exact ⟨fun _ => .capture (r.groups + 1), glyphs, ⟨_, rfl, rfl, _, rfl⟩, plain, fun g => rfl⟩

theorem calmFlags_of_opensWell {text : List Char} (opens : opensWell ('?' :: text)) :
    ∀ c ∈ text.takeWhile Char.isAlpha, c ≠ 'i' ∧ c ≠ 'x' := by
  intro c member
  simpa using List.all_eq_true.mp (Bool.and_eq_true_iff.mp opens).1 c member

/-- The name of a group ends before a backslash. -/
theorem closes_of_opensWell {text : List Char} (opens : opensWell ('?' :: text)) (named : namesGroup text) :
    (text.takeWhile (· != '\\')).contains '>' := by
  have closes := (Bool.and_eq_true_iff.mp opens).2
  rwa [named, Bool.not_true, Bool.false_or] at closes

theorem reads_groupOpening (within : ClearWithin 0 (.char '(' :: glyphs)) :
    Reads f (.char '(' :: glyphs) readGroupOpening anything fun opening left => opening.Calm ∧ Ahead 0 glyphs left := by
  have opens := within.opensWell
  have within := within.outside (by decide)
  by_cases question : (initial glyphs).head? = some '?'
  case neg =>
    have capture : Reads f glyphs (nextCapture >>= fun kind => pure (GroupOpening.group kind)) anything
        fun opening left => opening.Calm ∧ Ahead 0 glyphs left := by
      refine reads_nextCapture.then fun kind left ⟨same, n, captures⟩ => reads_pure fun _ => ?_
      subst same captures
      exact ⟨trivial, within.ahead⟩
    refine Tracks.of_run (fun g r plain => run_opening_capture plain ?_) capture
    refine beq_eq_false_iff_ne.mp ((head?_spell (by decide) g glyphs).trans ?_)
    exact beq_eq_false_iff_ne.mpr question
  obtain ⟨tail, starts⟩ := List.head?_eq_some_iff.mp question
  obtain ⟨rest, rfl, -⟩ := initial_eq_cons starts
  have named (sign : List Char) (left : List Glyph) (text : .char '?' :: rest = sign.map .char ++ left)
      (plain : ∀ c ∈ sign, c ≠ '\\') (closes : ((initial left).takeWhile (· != '\\')).contains '>')
      (name : ∀ g : Filling, sign = ['?', 'P', '<'] ∨
        sign = ['?', '<'] ∧ (g.spell left).head? ≠ some '=' ∧ (g.spell left).head? ≠ some '!') :
      Reads f (.char '(' :: .char '?' :: rest) readGroupOpening anything
        fun opening left => opening.Calm ∧ Ahead 0 (.char '?' :: rest) left := by
    have ahead : Ahead 0 (.char '?' :: rest) (sign.map .char ++ left) := text ▸ within.ahead
    have behind := ahead.allOutside plain
    have group : Reads f left (do
        let kind ← nextCapture
        readGroupName
        return .group kind : Read GroupOpening) anything
        fun opening left => opening.Calm ∧ Ahead 0 (.char '?' :: rest) left := by
      refine reads_nextCapture.then fun kind left ⟨same, n, captures⟩ => ?_
      subst same captures
      exact (reads_groupName behind closes).then fun _ left behind => reads_pure fun _ => ⟨trivial, behind⟩
    refine Tracks.of_run (fun g r plain => ?_) group
    rw [Filling.spell, text, spell_chars]
    exact run_opening_name plain (name g)
  by_cases name : startsName (initial rest) = true
  · have look (sign : List Char) (left : List Glyph) (text : .char '?' :: rest = sign.map .char ++ left)
        (look : sign ∈ [['?', '='], ['?', '!'], ['?', '<', '='], ['?', '<', '!']]) :
        Reads f (.char '(' :: .char '?' :: rest) readGroupOpening anything
          fun opening left => opening.Calm ∧ Ahead 0 (.char '?' :: rest) left := by
      refine Tracks.fails fun r plain => ?_
      rw [Filling.spell, text, spell_chars]
      exact run_opening_look plain look
    cases ahead : initial rest with
    | nil =>
      rw [ahead] at name
      exact absurd name Bool.false_ne_true
    | cons c cs =>
      obtain ⟨rest, rfl, rfl⟩ := initial_eq_cons ahead
      rw [ahead, startsName, Bool.or_eq_true, Bool.and_eq_true, List.contains_iff_mem] at name
      rcases name with sign | ⟨letter, sign⟩
      · simp only [List.mem_cons, List.not_mem_nil, or_false] at sign
        rcases sign with rfl | rfl | rfl
        · exact look ['?', '='] _ rfl (by decide)
        · exact look ['?', '!'] _ rfl (by decide)
        by_cases behind : (initial rest).head? = some '=' ∨ (initial rest).head? = some '!'
        · rcases behind with behind | behind <;>
          · obtain ⟨_, starts⟩ := List.head?_eq_some_iff.mp behind
            obtain ⟨rest, rfl, -⟩ := initial_eq_cons starts
            exact look ['?', '<', _] rest rfl (by decide)
        · have other {sign : Char} (outside : sign ∉ fronts) (none : (initial rest).head? ≠ some sign) (g : Filling) :
              (g.spell rest).head? ≠ some sign :=
            beq_eq_false_iff_ne.mp ((head?_spell outside g rest).trans (beq_eq_false_iff_ne.mpr none))
          obtain ⟨equal, mark⟩ := not_or.mp behind
          have closes : (('<' :: initial rest).takeWhile (· != '\\')).contains '>' := closes_of_opensWell opens rfl
          exact named ['?', '<'] rest rfl (List.all_iff_forall_prop.mp (by decide)) closes fun g =>
            .inr ⟨rfl, other (by decide) equal g, other (by decide) mark g⟩
      · obtain rfl := beq_iff_eq.mp letter
        obtain ⟨_, starts⟩ := List.head?_eq_some_iff.mp (beq_iff_eq.mp sign)
        obtain ⟨rest, rfl, -⟩ := initial_eq_cons starts
        have closes : (('P' :: '<' :: initial rest).takeWhile (· != '\\')).contains '>' := closes_of_opensWell opens rfl
        exact named ['?', 'P', '<'] rest rfl (List.all_iff_forall_prop.mp (by decide)) closes fun g => .inl rfl
  · rw [Bool.not_eq_true] at name
    have flags : Tracks f (.char '?' :: rest) (fun g => readFlagsOpening (g.spell rest)) anything
        fun b left => ∃ opening, b = (fun _ => opening) ∧ opening.Calm ∧ Ahead 0 (.char '?' :: rest) left := by
      have behind := within.ahead.outside (by decide)
      cases read : readFlags [] true false (f.spell rest) with
      | none =>
        refine Tracks.fails fun r _ => ?_
        rw [readFlagsOpening, read]
        rfl
      | some found =>
        obtain ⟨change, stop, after⟩ := found
        obtain ⟨⟨left, after, each⟩, -⟩ := readFlags_spell read behind
        have calm : change.Calm := by
          exact calm_of_readFlags read behind (calmFlags_of_opensWell opens)
        have change : Reads f left (if stop == ')' then do
            guard !change.isEmpty
            return .flags change
          else return .group (.plain change) : Read GroupOpening) anything
            fun opening left => opening.Calm ∧ Ahead 0 (.char '?' :: rest) left := by
          split
          · exact tracks_guard fun _ => reads_pure fun _ => ⟨calm, after⟩
          · exact reads_pure fun _ => ⟨calm, after⟩
        refine Tracks.of_run (fun g r plain => ?_) change
        rw [readFlagsOpening, each g]
        rfl
    refine Tracks.of_run (fun g r plain => ?_) flags
    exact run_opening_flags plain ((startsName_spell g rest).trans name)

end groups

/-! ## Repetitions -/

section repetitions
variable {f : Filling} {c : Char} {whole glyphs : List Glyph}

theorem reads_lazy (ahead : Ahead 0 whole glyphs) :
    Reads f glyphs readLazy anything fun _ left => Ahead 0 whole left := by
  have sign (g : Filling) : ((g.spell glyphs).head? == some '?') = ((initial glyphs).head? == some '?') :=
    head?_spell (by decide) g glyphs
  have run (g : Filling) (r : Reader) : readLazy.run (r.facing (g.spell glyphs)) =
      (if (g.spell glyphs).head? == some '?' then bump >>= fun _ => pure true else pure false : Read Bool).run
        (r.facing (g.spell glyphs)) := rfl
  simp only [sign] at run
  by_cases question : (initial glyphs).head? = some '?'
  · obtain ⟨_, starts⟩ := List.head?_eq_some_iff.mp question
    obtain ⟨rest, rfl, -⟩ := initial_eq_cons starts
    have moves : Reads f (.char '?' :: rest) (bump >>= fun _ => pure true) anything fun _ left => Ahead 0 whole left :=
      tracks_bump (reads_pure fun _ => ahead.outside (by decide))
    exact Tracks.of_run (fun g r _ => run g r) moves
  · have question := beq_eq_false_iff_ne.mpr question
    simp only [question] at run
    have stays : Reads f glyphs (pure false) anything fun _ left => Ahead 0 whole left := reads_pure fun _ => ahead
    exact Tracks.of_run (fun g r _ => run g r) stays

theorem reads_count (ahead : Ahead 0 whole glyphs) :
    Reads f glyphs readCount? anything fun _ left => Ahead 0 whole left := by
  have plain {keep : Char → Bool} (other : keep '\\' = false) {cs : List Char} (all : ∀ c ∈ cs, keep c) :
      ∀ c ∈ cs, c ≠ '\\' := by
    rintro c member rfl
    rw [all _ member] at other
    nomatch other
  unfold readCount?
  refine tracks_collect (fun _ _ _ => rfl) (forall_fronts (by decide)) fun before left text blank => ?_
  subst text
  have ahead := ahead.allOutside (plain (by decide) blank)
  refine tracks_collect moves_step (forall_fronts (by decide)) fun digits left text digit => ?_
  subst text
  have ahead := ahead.allOutside (plain (by decide) digit)
  refine tracks_collect moves_step (forall_fronts (by decide)) fun after left text blank => ?_
  subst text
  have ahead := ahead.allOutside (plain (by decide) blank)
  dsimp only
  split
  · exact reads_pure fun _ => ahead
  · exact tracks_guard fun _ => reads_pure fun _ => ahead

/-- What stands between the braces of a counted repetition, where its first count is read. -/
def readRange (least? : Option Nat) : Read (Nat × Option Nat) := do
  if (← current) == ',' then
    step
    let least ← least?
    if (← current) == '\x7d' then return (least, none)
    let most ← (← readCount?)
    return (least, some most)
  else
    let least ← least?
    return (least, some least)

theorem reads_range {least? : Option Nat} (ahead : Ahead 0 whole glyphs) :
    Reads f glyphs (readRange least?) anything fun _ left => Ahead 0 whole left := by
  unfold readRange
  have single {left : List Glyph} (ahead : Ahead 0 whole left) :
      Reads f left (do let least ← least?; return (least, some least) : Read (Nat × Option Nat)) anything
        fun _ left => Ahead 0 whole left :=
    (reads_lift fun _ _ => ahead).then fun _ _ ahead => reads_pure fun _ => ahead
  have most {left : List Glyph} {least : Nat} (ahead : Ahead 0 whole left) :
      Reads f left (do let most ← (← readCount?); return (least, some most) : Read (Nat × Option Nat)) anything
        fun _ left => Ahead 0 whole left :=
    (reads_count ahead).then fun _ _ ahead => (reads_lift fun _ _ => ahead).then fun _ _ ahead => reads_pure fun _ => ahead
  match glyphs with
  | [] => exact tracks_current_end
  | .gap i :: glyphs =>
    have none : ∀ c ∈ fronts, (c == ',') = false := forall_fronts (by decide)
    refine tracks_current_gap fun front known => ?_
    simp only [fun g => none _ (known g)]
    exact single ahead
  | .char c :: glyphs =>
    refine tracks_current ?_
    split
    · rename_i comma
      obtain rfl := beq_iff_eq.mp comma
      refine tracks_step ((reads_lift fun _ _ => ahead.outside (by decide)).then fun least left ahead => ?_)
      match left with
      | [] => exact tracks_current_end
      | .gap i :: glyphs =>
        have none : ∀ c ∈ fronts, (c == '\x7d') = false := forall_fronts (by decide)
        refine tracks_current_gap fun front known => ?_
        simp only [fun g => none _ (known g)]
        exact most ahead
      | .char d :: left =>
        refine tracks_current ?_
        split
        · exact reads_pure fun _ => ahead
        · exact most ahead
    · exact single ahead

theorem reads_bounds (ahead : Ahead 0 whole glyphs) :
    Reads f (.char '\x7b' :: glyphs) readBounds anything fun _ left => Ahead 0 whole left := by
  have counts : Reads f glyphs (do
      let least? ← readCount?
      let range ← readRange least?
      expect '\x7d'
      step
      return range : Read (Nat × Option Nat)) anything fun _ left => Ahead 0 whole left := by
    refine (reads_count ahead).then fun least? left ahead => (reads_range ahead).then fun range left ahead => ?_
    refine tracks_expect (by decide) fun behind same => ?_
    subst same
    exact tracks_step (reads_pure fun _ => ahead.outside (by decide))
  change Reads f _ (do
      step
      let _ ← current
      let least? ← readCount?
      let range ← readRange least?
      expect '\x7d'
      step
      return range) anything _
  refine tracks_step ?_
  match glyphs with
  | [] => exact tracks_current_end
  | .gap i :: glyphs => exact tracks_current_gap fun _ _ => counts
  | .char c :: glyphs => exact tracks_current counts

end repetitions

end Triage.Regex
