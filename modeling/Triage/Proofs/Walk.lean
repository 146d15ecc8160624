import Mathlib.Tactic.SplitIfs
import Triage.Walk

/-! What a walk delivers. Its readable entries are numbered in their order and cut into batches, of which only
the last may be short. They are given away one after another, up to the first that is refused. -/

namespace Triage

namespace Walk

/-! ## What is delivered -/

/-- What a readable item is an entry of. -/
def readable? : WalkItem → Option (String × String × FileNode)
  | .entry path name node => some (path, name, node)
  | .unreadable _ | .withoutMetadata _ => none

/-- The readable entries in the order of the walk, numbered from `next`. -/
def entriesFrom (next : Nat) (items : List WalkItem) : List FileEntry :=
  ((items.filterMap readable?).zipIdx next).map fun ((path, name, node), address) => fileEntry address path name node

def entries (items : List WalkItem) : List FileEntry := entriesFrom 1 items

/-- A list in parts of a size: there is something in each, and only the last may be smaller. -/
structure Cut {α : Type} (size : Nat) (whole : List α) (parts : List (List α)) : Prop where
  joined : parts.flatten = whole
  written : ∀ part ∈ parts, part ≠ []
  fits : ∀ part ∈ parts, part.length ≤ size
  full : ∀ part ∈ parts.dropLast, part.length = size

/-- Cuts a list into parts; `held` is what waits for more, last first. -/
def cutFrom {α : Type} (size : Nat) (held : List α) : List α → List (List α)
  | [] => if held.isEmpty then [] else [held.reverse]
  | x :: rest =>
    if size ≤ (x :: held).length then (x :: held).reverse :: cutFrom size [] rest
    else cutFrom size (x :: held) rest

def batchesOf (size : Nat) (items : List WalkItem) : List (List FileEntry) := cutFrom (max size 1) [] (entries items)

section entries
variable {next : Nat} {items : List WalkItem}

theorem entriesFrom_entry (next : Nat) (path name : String) (node : FileNode) (items : List WalkItem) :
    entriesFrom next (.entry path name node :: items) =
      fileEntry next path name node :: entriesFrom (next + 1) items := rfl

theorem entriesFrom_skip {item : WalkItem} (skipped : readable? item = none) :
    entriesFrom next (item :: items) = entriesFrom next items := by
  rw [entriesFrom, List.filterMap_cons_none skipped, entriesFrom]

theorem length_entries : (entries items).length = (items.filterMap readable?).length := by
  simp [entries, entriesFrom]

/-- No number is left out for what cannot be read. -/
theorem addresses_entries : (entries items).map (·.dirent.address) = List.range' 1 (entries items).length := by
  rw [length_entries, ← List.zipIdx_map_snd, entries, entriesFrom, List.map_map]
  rfl

theorem inode_address {entry : FileEntry} (member : entry ∈ entries items) :
    entry.inode.address = entry.dirent.address := by
  obtain ⟨found, -, rfl⟩ := List.mem_map.mp member
  rfl

end entries

section cut
variable {α : Type} {size : Nat} {whole part held : List α} {parts : List (List α)}

theorem Cut.cons (cut : Cut size whole parts) (full : part.length = size) (some : part ≠ []) :
    Cut size (part ++ whole) (part :: parts) where
  joined := by rw [List.flatten_cons, cut.joined]
  written := List.forall_mem_cons.mpr ⟨some, cut.written⟩
  fits := List.forall_mem_cons.mpr ⟨Nat.le_of_eq full, cut.fits⟩
  full := by
    cases parts with
    | nil => simp
    | cons next parts => exact List.forall_mem_cons.mpr ⟨full, cut.full⟩

theorem cut_cutFrom (room : held.length < size) (rest : List α) :
    Cut size (held.reverse ++ rest) (cutFrom size held rest) := by
  induction rest generalizing held with
  | nil =>
    rw [cutFrom, List.append_nil]
    split_ifs with empty
    · obtain rfl := List.isEmpty_iff.mp empty
      exact ⟨rfl, by simp, by simp, by simp⟩
    · exact ⟨by simp, by simpa using empty, by simpa using Nat.le_of_lt room, by simp⟩
  | cons x rest ih =>
    have joined : held.reverse ++ x :: rest = (x :: held).reverse ++ rest := by simp
    rw [cutFrom, joined]
    split_ifs with full
    · have length : (x :: held).reverse.length = size := by
        rw [List.length_reverse]
        exact Nat.le_antisymm room full
      have room : ([] : List α).length < size := Nat.lt_of_le_of_lt (Nat.zero_le _) room
      exact (ih room).cons length (by simp)
    · exact ih (Nat.lt_of_not_le full)

theorem cut_batchesOf (size : Nat) (items : List WalkItem) :
    Cut (max size 1) (entries items) (batchesOf size items) := by
  have room : ([] : List FileEntry).length < max size 1 := Nat.lt_of_lt_of_le Nat.one_pos (Nat.le_max_right size 1)
  exact cut_cutFrom room (entries items)

end cut

/-! ## How it is delivered -/

variable {β ε : Type}

/-- A callback that writes down each batch it is called with and then does what `deliver` does. What it has
written is seen even where it fails. -/
def recorded (deliver : β → List FileEntry → Except ε β) :
    β × List (List FileEntry) → List FileEntry →
      Except (ε × List (List FileEntry)) (β × List (List FileEntry))
  | (b, given), batch =>
    match deliver b batch with
    | .ok b => .ok (b, given ++ [batch])
    | .error e => .error (e, given ++ [batch])

/-- The callback takes the batches before one, and then refuses that one. -/
def Refuses (deliver : β → List FileEntry → Except ε β) (b : β) (batches before : List (List FileEntry))
    (batch : List FileEntry) (e : ε) : Prop :=
  (∃ after, batches = before ++ batch :: after) ∧ ∃ b', before.foldlM deliver b = .ok b' ∧ deliver b' batch = .error e

section deliver
variable {deliver : β → List FileEntry → Except ε β} {b b' : β} {size : Nat} {given parts before : List (List FileEntry)}
  {batch : List FileEntry} {e : ε}

/-- The walk gives away the batches in turn. -/
theorem batchesFrom_eq (size next : Nat) (deliver : β → List FileEntry → Except ε β) (held : List FileEntry) (b : β)
    (items : List WalkItem) : batchesFrom size deliver (next + 1) held b items = do
      let b ← (cutFrom size held (entriesFrom (next + 1) items)).foldlM deliver b
      return (b, next + (entriesFrom (next + 1) items).length) := by
  induction items generalizing next held b with
  | nil =>
    have none : entriesFrom (next + 1) [] = [] := rfl
    rw [batchesFrom, none, cutFrom]
    split_ifs with empty
    · rfl
    · cases given : deliver b held.reverse <;> simp [given]
  | cons item items ih =>
    cases item with
    | unreadable f =>
      rw [batchesFrom, ih, entriesFrom_skip rfl]
    | withoutMetadata path =>
      rw [batchesFrom, ih, entriesFrom_skip rfl]
    | entry path name node =>
      have count (n : Nat) : next + 1 + n = next + (n + 1) := by omega
      rw [batchesFrom, entriesFrom_entry, cutFrom]
      split_ifs with full
      · simp only [List.foldlM_cons, bind_assoc, ih, List.length_cons, count]
      · simp only [ih, List.length_cons, count]

theorem batches_eq (size : Nat) (deliver : β → List FileEntry → Except ε β) (b : β) (items : List WalkItem) :
    batches size deliver b items = do
      let b ← (batchesOf size items).foldlM deliver b
      return (b, (entries items).length) := by
  rw [batches, batchesFrom_eq, Nat.zero_add, Nat.zero_add]
  rfl

theorem recorded_ok (taken : deliver b batch = .ok b') :
    recorded deliver (b, given) batch = .ok (b', given ++ [batch]) := by
  simp only [recorded, taken]

theorem recorded_error (refused : deliver b batch = .error e) :
    recorded deliver (b, given) batch = .error (e, given ++ [batch]) := by
  simp only [recorded, refused]

theorem foldlM_recorded (taken : parts.foldlM deliver b = .ok b') (given : List (List FileEntry)) :
    parts.foldlM (recorded deliver) (b, given) = .ok (b', given ++ parts) := by
  induction parts generalizing b given with
  | nil =>
    obtain rfl := Except.ok.inj taken
    rw [List.append_nil]
    rfl
  | cons batch parts ih =>
    rw [List.foldlM_cons] at taken ⊢
    cases first : deliver b batch with
    | error e => rw [first] at taken; nomatch taken
    | ok c =>
      rw [first] at taken
      rw [recorded_ok first]
      refine (ih (b := c) taken (given ++ [batch])).trans ?_
      rw [List.append_assoc, List.singleton_append]

theorem foldlM_refused (refuses : Refuses deliver b parts before batch e) :
    parts.foldlM deliver b = .error e ∧ parts.foldlM (recorded deliver) (b, []) = .error (e, before ++ [batch]) := by
  obtain ⟨⟨after, rfl⟩, b', taken, refused⟩ := refuses
  have record := foldlM_recorded taken []
  rw [List.nil_append] at record
  rw [List.foldlM_append, List.foldlM_append, taken, record]
  change (List.foldlM deliver b' (batch :: after) = _) ∧ List.foldlM (recorded deliver) (b', before) (batch :: after) = _
  rw [List.foldlM_cons, List.foldlM_cons, refused, recorded_error refused]
  exact ⟨rfl, rfl⟩

theorem exists_refuses (failed : parts.foldlM deliver b = .error e) :
    ∃ before batch, Refuses deliver b parts before batch e := by
  induction parts generalizing b with
  | nil => nomatch failed
  | cons batch parts ih =>
    rw [List.foldlM_cons] at failed
    cases first : deliver b batch with
    | error other =>
      rw [first] at failed
      obtain rfl := Except.error.inj failed
      exact ⟨[], batch, ⟨parts, rfl⟩, b, rfl, first⟩
    | ok c =>
      rw [first] at failed
      obtain ⟨before, refused, ⟨after, rfl⟩, b', taken, stop⟩ := ih (b := c) failed
      refine ⟨batch :: before, refused, ⟨after, rfl⟩, b', ?_, stop⟩
      rw [List.foldlM_cons, first]
      exact taken

end deliver

/-- A walk loses nothing on its way to a callback. Its batches are the readable entries, numbered from 1; all of
them are delivered if none is refused, and else those up to the first refused one, whose error the walk ends with. -/
theorem batches_delivered (size : Nat) (deliver : β → List FileEntry → Except ε β) (b : β) (items : List WalkItem) :
    Cut (max size 1) (entries items) (batchesOf size items) ∧
    (entries items).map (·.dirent.address) = List.range' 1 (entries items).length ∧
    (∀ entry ∈ entries items, entry.inode.address = entry.dirent.address) ∧
    ((∀ before batch e, ¬Refuses deliver b (batchesOf size items) before batch e) →
      ∃ b', batches size deliver b items = .ok (b', (entries items).length) ∧
        batches size (recorded deliver) (b, []) items = .ok ((b', batchesOf size items), (entries items).length)) ∧
    ∀ before batch e, Refuses deliver b (batchesOf size items) before batch e →
      batches size deliver b items = .error e ∧
        batches size (recorded deliver) (b, []) items = .error (e, before ++ [batch]) := by
  refine ⟨cut_batchesOf size items, addresses_entries, fun entry => inode_address, ?_, ?_⟩
  · intro open_
    cases ran : (batchesOf size items).foldlM deliver b with
    | error e =>
      obtain ⟨before, batch, refuses⟩ := exists_refuses ran
      exact absurd refuses (open_ before batch e)
    | ok b' =>
      have record := foldlM_recorded ran []
      rw [batches_eq, batches_eq, ran, record]
      exact ⟨b', rfl, rfl⟩
  · intro before batch e refuses
    obtain ⟨ran, record⟩ := foldlM_refused refuses
    rw [batches_eq, batches_eq, ran, record]
    exact ⟨rfl, rfl⟩

/-- Items of each kind. -/
def mixedItems : List WalkItem :=
  [.unreadable .notFound, .entry "r" "r" (.directory [] {}), .withoutMetadata "r/a",
    .entry "r/b" "b" (.file (.bytes [7]) {}), .entry "r/c" "c" (.special {}), .unreadable .tooManyLinks]

def counted (n : Nat) (batch : List FileEntry) : Except String Nat := .ok (n + batch.length)

def countedToTwo (n : Nat) (batch : List FileEntry) : Except String Nat :=
  if n + batch.length ≤ 2 then .ok (n + batch.length) else .error "full"

/-- Three entries come in two batches. One callback takes both, another has no room for the second. -/
theorem mixedItems_delivered :
    (∃ n, batches 2 counted 0 mixedItems = .ok (n, 3)) ∧
      batches 2 (recorded countedToTwo) (0, []) mixedItems = .error ("full", batchesOf 2 mixedItems) := by
  constructor
  · obtain ⟨-, -, -, all, -⟩ := batches_delivered 2 counted 0 mixedItems
    have taken : ∀ before batch e, ¬Refuses counted 0 (batchesOf 2 mixedItems) before batch e := by
      rintro _ _ _ ⟨-, _, -, refused⟩
      nomatch refused
    obtain ⟨n, ended, -⟩ := all taken
    exact ⟨n, ended⟩
  · obtain ⟨-, -, -, -, upTo⟩ := batches_delivered 2 countedToTwo 0 mixedItems
    exact (upTo [_] _ "full" ⟨⟨[], rfl⟩, 2, rfl, rfl⟩).2

end Walk
open Walk

/-- A callback that cannot fail, as that of a scan, makes a fold over the batches of the tree. -/
theorem FileTree.walkBatches_eq_foldl {β : Type} {t : FileTree} {path : String} (found : t.has path) (size : Nat)
    (f : β → List FileEntry → β) (b : β) : t.walkBatches path size (fun b batch => .ok (f b batch)) b =
      .ok ((batchesOf size (t.walk path)).foldl f b, (entries (t.walk path)).length) := by
  have fold := List.foldlM_pure (m := Except ScanError) (f := f) (b := b) (l := batchesOf size (t.walk path))
  rw [walkBatches, if_pos found, batches_eq]
  exact congrArg (· >>= fun b => Except.ok (b, (entries (t.walk path)).length)) fold

end Triage
