import Triage.Proofs.Regex.Each
import Triage.Proofs.Unicode.Names
import Triage.Regex.Parser

/-! Written expressions with gaps, which stand outside classes. What is read does not depend on what stands in
the gaps but for its meaning, and classes do not depend on it at all. -/

namespace Triage.Regex

/-- A written expression with numbered gaps. -/
inductive Frame
  | whole (tree : Syntax)
  | gap (n : Nat)
  | repetition (counts : Counts) (greedy : Bool) (body : Frame)
  | group (kind : GroupKind) (body : Frame)
  | concat (parts : List Frame)
  | alternation (branches : List Frame)

namespace Frame
variable {atoms others : Nat → Syntax}

mutual

/-- What is written when the gaps are filled. -/
def fill (atoms : Nat → Syntax) : Frame → Syntax
  | whole tree => tree
  | gap n => atoms n
  | repetition counts greedy body => .repetition counts greedy (body.fill atoms)
  | group kind body => .group kind (body.fill atoms)
  | concat parts => .concat (fillAll atoms parts)
  | alternation branches => .alternation (fillAll atoms branches)

def fillAll (atoms : Nat → Syntax) : List Frame → List Syntax
  | [] => []
  | part :: parts => part.fill atoms :: fillAll atoms parts

end

mutual

/-- The changes of flags outside the gaps. -/
def changes : Frame → List FlagChange
  | whole tree => tree.changes
  | gap _ => []
  | repetition _ _ body | group (.capture _) body => body.changes
  | group (.plain change) body => change :: body.changes
  | concat parts | alternation parts => changesOfAll parts

def changesOfAll : List Frame → List FlagChange
  | [] => []
  | part :: parts => part.changes ++ changesOfAll parts

end

@[simp] theorem fillAll_eq_map (parts : List Frame) : fillAll atoms parts = parts.map (fill atoms) := by
  induction parts with
  | nil => rfl
  | cons part parts ih => rw [fillAll, ih, List.map_cons]

theorem mem_changesOfAll {change : FlagChange} {parts : List Frame} :
    change ∈ changesOfAll parts ↔ ∃ part ∈ parts, change ∈ part.changes := by
  induction parts with
  | nil => simp [changesOfAll]
  | cons part parts ih => simp [changesOfAll, ih]

/-! ## Building -/

def ofParts : List Frame → Frame
  | [] => whole .empty
  | [part] => part
  | parts => concat parts

def ofBranches : List Frame → Frame
  | [branch] => branch
  | branches => alternation branches

theorem fill_ofParts (parts : List Frame) : (ofParts parts).fill atoms = Syntax.ofParts (parts.map (fill atoms)) := by
  match parts with
  | [] => rfl
  | [part] => rfl
  | part :: next :: parts => exact congrArg Syntax.concat (fillAll_eq_map _)

theorem fill_ofBranches (branches : List Frame) :
    (ofBranches branches).fill atoms = Syntax.ofBranches (branches.map (fill atoms)) := by
  match branches with
  | [] => rfl
  | [branch] => rfl
  | branch :: next :: branches => exact congrArg Syntax.alternation (fillAll_eq_map _)

theorem mem_changes_ofParts {change : FlagChange} {parts : List Frame} (member : change ∈ (ofParts parts).changes) :
    ∃ part ∈ parts, change ∈ part.changes := by
  match parts with
  | [] => nomatch member
  | [part] => exact ⟨part, List.mem_singleton_self part, member⟩
  | part :: next :: parts => exact mem_changesOfAll.mp member

theorem mem_changes_ofBranches {change : FlagChange} {branches : List Frame}
    (member : change ∈ (ofBranches branches).changes) : ∃ branch ∈ branches, change ∈ branch.changes := by
  match branches with
  | [] => nomatch member
  | [branch] => exact ⟨branch, List.mem_singleton_self branch, member⟩
  | branch :: next :: branches => exact mem_changesOfAll.mp member

/-- The last part, where a repetition sign applies to it. -/
def repeatable? : List Frame → Option (Frame × List Frame)
  | [] | whole .empty :: _ | whole (.flags _) :: _ => none
  | part :: parts => some (part, parts)

theorem repeatable?_map (repeats : ∀ n parts, Regex.repeatable? (atoms n :: parts) = some (atoms n, parts))
    (parts : List Frame) : Regex.repeatable? (parts.map (fill atoms)) =
      (repeatable? parts).map fun (part, parts) => (part.fill atoms, parts.map (fill atoms)) := by
  cases parts with
  | nil => rfl
  | cons part parts =>
    cases part with
    | gap n => exact repeats n _
    | whole tree => cases tree <;> rfl
    | _ => rfl

theorem eq_cons_of_repeatable? {part : Frame} {parts others : List Frame} (last : repeatable? parts = some (part, others)) :
    parts = part :: others := by
  unfold repeatable? at last
  split at last
  case h_4 =>
    obtain ⟨rfl, rfl⟩ := Prod.mk.inj (Option.some.inj last)
    rfl
  all_goals nomatch last

end Frame

/-! ## Classes -/

mutual

/-- The classes in brackets. -/
def Syntax.classes : Syntax → List ClassSet
  | .bracket _ set => [set]
  | .repetition _ _ body | .group _ body => body.classes
  | .concat parts | .alternation parts => Syntax.classesOfList parts
  | _ => []

def Syntax.classesOfList : List Syntax → List ClassSet
  | [] => []
  | part :: parts => part.classes ++ Syntax.classesOfList parts

end

namespace Frame
variable {atoms others : Nat → Syntax}

mutual

/-- Classes do not depend on what stands in the gaps. -/
theorem classes_fill (same : ∀ n, (atoms n).classes = (others n).classes) (frame : Frame) :
    (frame.fill atoms).classes = (frame.fill others).classes := by
  cases frame with
  | whole tree => rfl
  | gap n => exact same n
  | repetition counts greedy body => exact classes_fill same body
  | group kind body => exact classes_fill same body
  | concat parts => exact classesOfList_fillAll same parts
  | alternation branches => exact classesOfList_fillAll same branches

theorem classesOfList_fillAll (same : ∀ n, (atoms n).classes = (others n).classes) (parts : List Frame) :
    Syntax.classesOfList (fillAll atoms parts) = Syntax.classesOfList (fillAll others parts) := by
  cases parts with
  | nil => rfl
  | cons part parts =>
    rw [fillAll, fillAll, Syntax.classesOfList, Syntax.classesOfList, classes_fill same part,
      classesOfList_fillAll same parts]

end

/-! ## Nesting -/

mutual

/-- Where shallower parts stand in the gaps, the whole is nested no deeper. -/
theorem depth_fill_le (shallow : ∀ n, (atoms n).depth ≤ (others n).depth) (frame : Frame) :
    (frame.fill atoms).depth ≤ (frame.fill others).depth := by
  cases frame with
  | whole tree => exact Nat.le_refl _
  | gap n => exact shallow n
  | repetition counts greedy body => exact Nat.succ_le_succ (depth_fill_le shallow body)
  | group kind body => exact Nat.succ_le_succ (depth_fill_le shallow body)
  | concat parts => exact Nat.succ_le_succ (depthOfList_fillAll_le shallow parts)
  | alternation branches => exact Nat.succ_le_succ (depthOfList_fillAll_le shallow branches)

theorem depthOfList_fillAll_le (shallow : ∀ n, (atoms n).depth ≤ (others n).depth) (parts : List Frame) :
    Syntax.depthOfList (fillAll atoms parts) ≤ Syntax.depthOfList (fillAll others parts) := by
  cases parts with
  | nil => exact Nat.le_refl _
  | cons part parts =>
    have here := depth_fill_le shallow part
    have behind := depthOfList_fillAll_le shallow parts
    rw [fillAll, fillAll, Syntax.depthOfList, Syntax.depthOfList]
    omega

end

/-! ## Meaning -/

theorem each_any (e : Expr) : e.Each fun _ => True := by
  induction e with
  | seq a b iha ihb | alt a b iha ihb => exact ⟨iha, ihb⟩
  | group index body ih => exact ih
  | repetition least most greedy body ih => exact ⟨trivial, ih⟩
  | _ => trivial

theorem readsAs_any (mode : Flags → Prop) : ReadsAs (fun _ => True) mode where
  closed := {
    empty := trivial
    fail := trivial
    blank := trivial
    join := fun _ _ => trivial
    merge := fun _ _ => each_any _
    once := fun _ => trivial }
  literal _ _ := each_any _
  ofClass _ _ := each_any _
  look _ := trivial
  counts _ _ _ := trivial

/-- Two ways to fill the gaps that mean the same under flags of a kind, and leave flags of the kind. -/
def MeanSame (mode : Flags → Prop) (atoms others : Nat → Syntax) : Prop :=
  ∀ n flags, mode flags → (atoms n).elaborate? flags = (others n).elaborate? flags ∧
    ∀ e after, (atoms n).elaborate? flags = some (e, after) → mode after

section meaning
variable {mode : Flags → Prop}

mutual

theorem elaborate?_fill (same : MeanSame mode atoms others) {flags : Flags} (start : mode flags) (frame : Frame)
    (keeps : ∀ change ∈ frame.changes, ∀ flags, mode flags → mode (flags.update change)) :
    (frame.fill atoms).elaborate? flags = (frame.fill others).elaborate? flags ∧
      ∀ e after, (frame.fill atoms).elaborate? flags = some (e, after) → mode after := by
  cases frame with
  | whole tree => exact ⟨rfl, fun _ _ read => (each_elaborate? (readsAs_any mode) start keeps read).2⟩
  | gap n => exact same n flags start
  | repetition counts greedy body =>
    rw [changes] at keeps
    obtain ⟨equal, kept⟩ := elaborate?_fill same start body keeps
    rw [fill, fill, Syntax.elaborate?, Syntax.elaborate?, equal]
    refine ⟨rfl, fun e after read => ?_⟩
    obtain ⟨⟨inner, between⟩, found, last⟩ := Option.bind_eq_some_iff.mp read
    obtain ⟨-, rfl⟩ := Prod.mk.inj (Option.some.inj last)
    exact kept inner between (equal.trans found)
  | group kind body =>
    cases kind with
    | capture index =>
      rw [changes] at keeps
      obtain ⟨equal, -⟩ := elaborate?_fill same start body keeps
      rw [fill, fill, Syntax.elaborate?, Syntax.elaborate?, equal]
      refine ⟨rfl, fun e after read => ?_⟩
      obtain ⟨_, -, last⟩ := Option.bind_eq_some_iff.mp read
      obtain ⟨-, rfl⟩ := Prod.mk.inj (Option.some.inj last)
      exact start
    | plain change =>
      rw [changes] at keeps
      obtain ⟨here, inside⟩ := List.forall_mem_cons.mp keeps
      obtain ⟨equal, -⟩ := elaborate?_fill same (here flags start) body inside
      rw [fill, fill, Syntax.elaborate?, Syntax.elaborate?, equal]
      refine ⟨rfl, fun e after read => ?_⟩
      obtain ⟨_, -, last⟩ := Option.bind_eq_some_iff.mp read
      obtain ⟨-, rfl⟩ := Prod.mk.inj (Option.some.inj last)
      exact start
  | concat parts | alternation parts =>
    rw [changes] at keeps
    obtain ⟨equal, kept⟩ := elaborateList?_fillAll same start parts keeps
    rw [fill, fill, Syntax.elaborate?, Syntax.elaborate?, equal]
    refine ⟨rfl, fun e after read => ?_⟩
    obtain ⟨⟨inner, between⟩, found, last⟩ := Option.bind_eq_some_iff.mp read
    obtain ⟨-, rfl⟩ := Prod.mk.inj (Option.some.inj last)
    exact kept inner between (equal.trans found)

theorem elaborateList?_fillAll (same : MeanSame mode atoms others) {flags : Flags} (start : mode flags)
    (parts : List Frame) (keeps : ∀ change ∈ changesOfAll parts, ∀ flags, mode flags → mode (flags.update change)) :
    Syntax.elaborateList? flags (fillAll atoms parts) = Syntax.elaborateList? flags (fillAll others parts) ∧
      ∀ es after, Syntax.elaborateList? flags (fillAll atoms parts) = some (es, after) → mode after := by
  cases parts with
  | nil =>
    refine ⟨rfl, fun es after read => ?_⟩
    obtain ⟨-, rfl⟩ := Prod.mk.inj (Option.some.inj read)
    exact start
  | cons part parts =>
    rw [changesOfAll] at keeps
    obtain ⟨here, behind⟩ := List.forall_mem_append.mp keeps
    obtain ⟨equal, kept⟩ := elaborate?_fill same start part here
    rw [fillAll, fillAll, Syntax.elaborateList?, Syntax.elaborateList?, equal]
    cases found : (part.fill others).elaborate? flags with
    | none => exact ⟨rfl, fun _ _ read => nomatch read⟩
    | some first =>
      obtain ⟨e, between⟩ := first
      obtain ⟨equal', kept'⟩ := elaborateList?_fillAll same (kept e between (equal.trans found)) parts behind
      simp only [Option.bind_eq_bind, Option.bind_some, equal', true_and]
      intro es after read
      obtain ⟨⟨inner, last⟩, found, same⟩ := Option.bind_eq_some_iff.mp read
      obtain ⟨-, rfl⟩ := Prod.mk.inj (Option.some.inj same)
      exact kept' inner last (equal'.trans found)

end

end meaning

end Frame

/-! ## Properties -/

def Property.name : Property → List Char
  | .letter c => [c]
  | .named name => name
  | .valued property value => property ++ value

/-- The name has only characters that known names have. -/
def Property.Plain (p : Property) : Prop := ∀ c ∈ p.name, Unicode.isNameChar c

theorem plain_of_property? {flags : Flags} {negated : Bool} {p : Property} {set : RangeSet}
    (known : flags.property? negated p = some set) : p.Plain := by
  obtain ⟨_, -, known⟩ := Option.bind_eq_some_iff.mp known
  cases p with
  | letter c | named name =>
    obtain ⟨_, found, -⟩ := Option.bind_eq_some_iff.mp known
    exact Unicode.isNameChar_of_named? found
  | valued property value =>
    obtain ⟨_, found, -⟩ := Option.bind_eq_some_iff.mp known
    exact Unicode.isNameChar_of_withValue? found

mutual

/-- All properties that a class mentions. -/
def ClassSet.properties : ClassSet → List Property
  | .property _ p => [p]
  | .bracket _ set => set.properties
  | .union items => ClassSet.propertiesOfList items
  | .op _ left right => left.properties ++ right.properties
  | .literal _ | .range _ _ | .posix _ _ | .shorthand _ _ => []

def ClassSet.propertiesOfList : List ClassSet → List Property
  | [] => []
  | item :: items => item.properties ++ ClassSet.propertiesOfList items

end

mutual

/-- All properties that a written expression mentions. -/
def Syntax.properties : Syntax → List Property
  | .property _ p => [p]
  | .bracket _ set => set.properties
  | .repetition _ _ body | .group _ body => body.properties
  | .concat parts | .alternation parts => Syntax.propertiesOfList parts
  | .empty | .flags _ | .literal _ | .dot | .assertion _ | .shorthand _ _ => []

def Syntax.propertiesOfList : List Syntax → List Property
  | [] => []
  | part :: parts => part.properties ++ Syntax.propertiesOfList parts

end

mutual

theorem plain_of_classSet? {flags : Flags} {set : ClassSet} {found : RangeSet}
    (known : flags.classSet? set = some found) : ∀ p ∈ set.properties, p.Plain := by
  cases set with
  | property negated p =>
    intro q member
    obtain rfl := List.mem_singleton.mp member
    exact plain_of_property? known
  | bracket negated set =>
    obtain ⟨_, inner, -⟩ := Option.bind_eq_some_iff.mp known
    have plain := plain_of_classSet? inner
    exact plain
  | union items => exact plain_of_classUnion? known
  | op kind left right =>
    obtain ⟨_, first, known⟩ := Option.bind_eq_some_iff.mp known
    obtain ⟨_, second, -⟩ := Option.bind_eq_some_iff.mp known
    exact List.forall_mem_append.mpr ⟨plain_of_classSet? first, plain_of_classSet? second⟩
  | _ => exact List.forall_mem_nil _

theorem plain_of_classUnion? {flags : Flags} {items : List ClassSet} {found : RangeSet}
    (known : flags.classUnion? items = some found) : ∀ p ∈ ClassSet.propertiesOfList items, p.Plain := by
  cases items with
  | nil => exact List.forall_mem_nil _
  | cons item items =>
    obtain ⟨_, first, known⟩ := Option.bind_eq_some_iff.mp known
    obtain ⟨_, others, -⟩ := Option.bind_eq_some_iff.mp known
    exact List.forall_mem_append.mpr ⟨plain_of_classSet? first, plain_of_classUnion? others⟩

end

mutual

/-- What has a meaning mentions known properties only. -/
theorem plain_of_elaborate? {flags after : Flags} {s : Syntax} {e : Expr}
    (read : s.elaborate? flags = some (e, after)) : ∀ p ∈ s.properties, p.Plain := by
  cases s with
  | property negated p =>
    obtain ⟨_, known, -⟩ := Option.map_eq_some_iff.mp read
    intro q member
    obtain rfl := List.mem_singleton.mp member
    exact plain_of_property? known
  | bracket negated set =>
    obtain ⟨_, known, -⟩ := Option.map_eq_some_iff.mp read
    exact plain_of_classSet? known
  | repetition counts greedy body =>
    obtain ⟨_, inner, -⟩ := Option.bind_eq_some_iff.mp read
    have plain := plain_of_elaborate? inner
    exact plain
  | group kind body =>
    cases kind <;>
    · obtain ⟨_, inner, -⟩ := Option.bind_eq_some_iff.mp read
      have plain := plain_of_elaborate? inner
      exact plain
  | concat parts | alternation parts =>
    obtain ⟨_, inner, -⟩ := Option.bind_eq_some_iff.mp read
    exact plain_of_elaborateList? inner
  | _ => exact List.forall_mem_nil _

theorem plain_of_elaborateList? {flags after : Flags} {parts : List Syntax} {es : List Expr}
    (read : Syntax.elaborateList? flags parts = some (es, after)) : ∀ p ∈ Syntax.propertiesOfList parts, p.Plain := by
  cases parts with
  | nil => exact List.forall_mem_nil _
  | cons part parts =>
    obtain ⟨_, first, read⟩ := Option.bind_eq_some_iff.mp read
    obtain ⟨_, others, -⟩ := Option.bind_eq_some_iff.mp read
    exact List.forall_mem_append.mpr ⟨plain_of_elaborate? first, plain_of_elaborateList? others⟩

end

end Triage.Regex
