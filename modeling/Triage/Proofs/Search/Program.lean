import Mathlib.Data.List.Nodup
import Triage.Proofs.Pattern.Compile
import Triage.Search.Program

/-! Programs as a caller can build them. Every pattern of such a program was compiled, so it is sound,
and its index tells it apart from all others. -/

namespace Triage.Search

/-- Patterns are added one at a time, and the window may be changed between them. -/
inductive Program.Built : Program → Prop
  | empty : Built {}
  | resize {p : Program} (window : Nat) (built : Built p) : Built (p.resize window)
  | add {p q : Program} {tag : Nat} {d : PatternDef} (built : Built p)
      (added : p.add tag d = .ok q) : Built q

def Entry.Of (e : Entry) (d : PatternDef) : Prop :=
  d.compile = .ok e.compiled ∧ e.info.text = d.text

namespace Program

theorem entries_add {p q : Program} {tag : Nat} {d : PatternDef} (added : p.add tag d = .ok q) :
    ∃ c info, d.compile = .ok c ∧ info.text = d.text ∧
      q = { p with entries := p.entries ++ [⟨info, c⟩] } := by
  obtain ⟨c, compiled, added⟩ := Regex.bind_eq_ok.mp added
  exact ⟨c, _, compiled, rfl, (Except.ok.inj added).symm⟩

theorem Built.sound {p : Program} (built : p.Built) : ∀ e ∈ p.entries, e.compiled.Sound := by
  induction built with
  | empty => simp
  | resize window _ ih => exact ih
  | add _ added ih =>
    obtain ⟨c, info, compiled, _, rfl⟩ := entries_add added
    refine List.forall_mem_append.mpr ⟨ih, ?_⟩
    simpa using sound_of_compile compiled

/-- Adding a list of patterns, each under the number of those before it. -/
theorem Built.addAll (ds : List PatternDef) {p q : Program} (built : p.Built)
    (added : ds.foldlM (fun p d => p.add p.size d) p = .ok q) : q.Built := by
  induction ds generalizing p with
  | nil => exact Except.ok.inj added ▸ built
  | cons d ds ih =>
    rw [List.foldlM_cons] at added
    obtain ⟨next, first, others⟩ := Regex.bind_eq_ok.mp added
    exact ih (built.add first) others

/-- Each pattern of a list stands behind those before it. -/
theorem entries_addAll {ds : List PatternDef} {p q : Program}
    (added : ds.foldlM (fun p d => p.add p.size d) p = .ok q) :
    q.window = p.window ∧ ∃ entries, q.entries = p.entries ++ entries ∧
      List.Forall₂ Entry.Of entries ds := by
  induction ds generalizing p with
  | nil =>
    obtain rfl := Except.ok.inj added
    exact ⟨rfl, [], (List.append_nil _).symm, .nil⟩
  | cons d ds ih =>
    rw [List.foldlM_cons] at added
    obtain ⟨next, first, others⟩ := Regex.bind_eq_ok.mp added
    obtain ⟨c, info, compiled, text, rfl⟩ := entries_add first
    obtain ⟨window, entries, split, each⟩ := ih others
    refine ⟨window, ⟨info, c⟩ :: entries, ?_, .cons ⟨compiled, text⟩ each⟩
    rw [split, List.append_assoc, List.singleton_append]

theorem eq_ok_of_toOption {ε α : Type} {x : Except ε α} {a : α} (found : x.toOption = some a) :
    x = .ok a := by
  cases x with
  | error e => simp [Except.toOption] at found
  | ok b => rw [Option.some.inj found]

def Has (p : Program) (index : Nat) (c : CompiledPattern) : Prop :=
  ∃ e, p.entries[index]? = some e ∧ e.compiled = c

theorem Has.unique {p : Program} {index : Nat} {c d : CompiledPattern} (one : p.Has index c)
    (other : p.Has index d) : c = d := by
  obtain ⟨e, found, rfl⟩ := one
  obtain ⟨f, again, rfl⟩ := other
  rw [Option.some.inj (found.symm.trans again)]

theorem Built.sound_of_has {p : Program} (built : p.Built) {index : Nat} {c : CompiledPattern}
    (has : p.Has index c) : c.Sound := by
  obtain ⟨e, found, rfl⟩ := has
  exact built.sound e (List.mem_of_getElem? found)

theorem mem_literals {p : Program} {l : LiteralPattern} {index : Nat} :
    (l, index) ∈ p.literals ↔ p.Has index (.literal l) := by
  rw [literals, List.mem_filterMap]
  constructor
  · intro found
    obtain ⟨⟨e, i⟩, member, kind⟩ := found
    have place := List.mem_zipIdx_iff_getElem?.mp member
    cases compiled : e.compiled with
    | literal l' =>
      simp only [compiled, Option.some.injEq, Prod.mk.injEq] at kind
      obtain ⟨rfl, rfl⟩ := kind
      exact ⟨e, place, compiled⟩
    | regex r => simp [compiled] at kind
  · intro found
    obtain ⟨e, place, compiled⟩ := found
    exact ⟨(e, index), List.mem_zipIdx_iff_getElem?.mpr place, by simp [compiled]⟩

theorem mem_regexes {p : Program} {r : RegexPattern} {index : Nat} :
    (r, index) ∈ p.regexes ↔ p.Has index (.regex r) := by
  rw [regexes, List.mem_filterMap]
  constructor
  · intro found
    obtain ⟨⟨e, i⟩, member, kind⟩ := found
    have place := List.mem_zipIdx_iff_getElem?.mp member
    cases compiled : e.compiled with
    | literal l => simp [compiled] at kind
    | regex r' =>
      simp only [compiled, Option.some.injEq, Prod.mk.injEq] at kind
      obtain ⟨rfl, rfl⟩ := kind
      exact ⟨e, place, compiled⟩
  · intro found
    obtain ⟨e, place, compiled⟩ := found
    exact ⟨(e, index), List.mem_zipIdx_iff_getElem?.mpr place, by simp [compiled]⟩

private theorem pairwise_zipIdx (entries : List Entry) :
    entries.zipIdx.Pairwise fun a b => a.2 < b.2 := by
  have indices : (entries.zipIdx.map Prod.snd).Pairwise (· < ·) := by
    rw [List.zipIdx_map_snd]
    exact List.pairwise_lt_range'
  exact List.pairwise_map.mp indices

theorem pairwise_literals (p : Program) : p.literals.Pairwise fun a b => a.2 < b.2 := by
  apply (pairwise_zipIdx p.entries).filterMap
  intro a b less x first y second
  grind

theorem pairwise_regexes (p : Program) : p.regexes.Pairwise fun a b => a.2 < b.2 := by
  apply (pairwise_zipIdx p.entries).filterMap
  intro a b less x first y second
  grind

private theorem le_foldl_max (ns : List Nat) (start : Nat) :
    start ≤ ns.foldl max start ∧ ∀ n ∈ ns, n ≤ ns.foldl max start := by
  induction ns generalizing start with
  | nil => simp
  | cons n ns ih =>
    obtain ⟨least, each⟩ := ih (max start n)
    rw [List.foldl_cons]
    exact ⟨(Nat.le_max_left _ _).trans least,
      List.forall_mem_cons.mpr ⟨(Nat.le_max_right _ _).trans least, each⟩⟩

theorem le_literalLength {p : Program} {l : LiteralPattern} {index : Nat}
    (member : (l, index) ∈ p.literals) : l.bytes.length ≤ p.literalLength :=
  (le_foldl_max _ 0).2 _ (List.mem_map_of_mem (f := fun l => l.1.bytes.length) member)

theorem le_overlap {p : Program} {r : RegexPattern} {index : Nat}
    (member : (r, index) ∈ p.regexes) : waitFor p.window r.longest ≤ p.overlap :=
  (le_foldl_max _ 0).2 _ (List.mem_map_of_mem (f := fun r => waitFor p.window r.1.longest) member)

end Program

end Triage.Search
