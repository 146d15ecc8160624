import Mathlib.Data.List.Basic
import Mathlib.Data.Nat.Init
import Triage.Digest.Fuzzy

/-! The similarity digest of a stream in pieces. A context may be given up once the total is too long
for it, and the total counts all bytes of the piece that is being taken; so a stream in one piece gives
contexts up earlier than the same stream in many. The digest does not show it: what was given up is too
fine for the whole length, and the context after it is half full. -/

namespace Triage.Digest.Fuzzy

theorem pieceLength_succ (i : Nat) : pieceLength (i + 1) = 2 * pieceLength i := by
  simp only [pieceLength, Nat.shiftLeft_eq, Nat.pow_succ]
  omega

theorem lt_pieceLength (i : Nat) : i < pieceLength i := by
  induction i with
  | zero => decide
  | succ i ih => rw [pieceLength_succ]; omega

theorem pieceLength_dvd {i j : Nat} (le : i ≤ j) : pieceLength i ∣ pieceLength j := by
  simp only [pieceLength, Nat.shiftLeft_eq]
  exact Nat.mul_dvd_mul_left 3 (Nat.pow_dvd_pow 2 le)

/-- A sum that ends a piece of a context ends one of each finer context. -/
theorem ends_finer {sum i j : Nat} (le : i ≤ j) (ends : sum % pieceLength j = pieceLength j - 1) :
    sum % pieceLength i = pieceLength i - 1 := by
  have positive := lt_pieceLength i
  obtain ⟨k, cut⟩ := pieceLength_dvd le
  have factor : 0 < k := by
    refine Nat.pos_of_ne_zero fun zero => ?_
    have := lt_pieceLength j
    rw [cut, zero] at this
    omega
  have split : pieceLength j - 1 = pieceLength i * (k - 1) + (pieceLength i - 1) := by
    rw [cut, Nat.mul_sub, Nat.mul_one]
    have := Nat.mul_le_mul_left (pieceLength i) factor
    omega
  rw [← Nat.mod_mod_of_dvd sum (pieceLength_dvd le), ends, split, Nat.mul_add_mod,
    Nat.mod_eq_of_lt (by omega)]

theorem Context.length_push (c : Context) (x : UInt8) : (c.push x).length = c.length := by
  rw [push]

namespace State

theorem context_of_size_le {s : State} {i : Nat} (outside : s.contexts.size ≤ i) :
    s.context i = {} := by
  simp [context, Array.getD, Nat.not_lt.mpr outside]

theorem context_modify {s : State} {i : Nat} (inside : i < s.contexts.size) (f : Context → Context)
    (j : Nat) : (s.modify i f).context j = if j = i then f (s.context i) else s.context j := by
  simp only [context, modify, Array.getD_eq_getD_getElem?, Array.getElem?_modify]
  by_cases same : j = i
  · subst same
    simp [inside]
  · simp [same, Ne.symm same]

/-! ## The end of a piece -/

/-- Whether the end of a piece adds a context. -/
def Forks (s : State) (i : Nat) : Prop := (s.context i).length = 0 ∧ s.contexts.size < contextLimit

instance (s : State) (i : Nat) : Decidable (s.Forks i) := inferInstanceAs (Decidable (_ ∧ _))

theorem fork_of_not {s : State} {i : Nat} (no : ¬s.Forks i) : s.fork i = s := if_neg no

/-- The context that is added: it goes on from the last one. -/
def added (s : State) : Context :=
  { hash := (s.context (s.contexts.size - 1)).hash, half := (s.context (s.contexts.size - 1)).half }

theorem fork_of {s : State} {i : Nat} (forks : s.Forks i) :
    s.fork i = { s with contexts := s.contexts.push s.added } :=
  if_pos forks

theorem size_fork (s : State) (i : Nat) :
    (s.fork i).contexts.size = if s.Forks i then s.contexts.size + 1 else s.contexts.size := by
  split
  · rename_i forks
    rw [fork_of forks]
    exact Array.size_push _
  · rename_i no
    rw [fork_of_not no]

theorem le_size_fork (s : State) (i : Nat) : s.contexts.size ≤ (s.fork i).contexts.size := by
  rw [size_fork]
  split <;> omega

theorem context_fork (s : State) (i j : Nat) :
    (s.fork i).context j =
      if s.Forks i ∧ j = s.contexts.size then s.added else s.context j := by
  by_cases forks : s.Forks i
  · rw [fork_of forks]
    simp only [context, Array.getD_eq_getD_getElem?, Array.getElem?_push, forks, true_and]
    split <;> rfl
  · rw [fork_of_not forks, if_neg (fun both => forks both.1)]

end State

def Context.ended (c : Context) : Context :=
  if c.length < digestLength - 1 then c.mark.keep else c.mark

theorem Context.length_ended (c : Context) :
    c.ended.length = if c.length < digestLength - 1 then c.length + 1 else c.length := by
  unfold ended
  split
  · unfold keep
    split <;> rfl
  · rfl

namespace State

/-- Whether the end of a piece gives up the first context. -/
def GivesUp (s : State) (i : Nat) : Prop :=
  digestLength - 1 ≤ (s.context i).length ∧ s.first + 2 ≤ s.contexts.size ∧
    pieceLength s.first * digestLength < s.total ∧
    digestLength / 2 ≤ (s.context (s.first + 1)).length

instance (s : State) (i : Nat) : Decidable (s.GivesUp i) := inferInstanceAs (Decidable (_ ∧ _))

structure Ends (s : State) (i : Nat) (next : State) : Prop where
  rolling : next.rolling = s.rolling
  total : next.total = s.total
  size : next.contexts.size = if s.Forks i then s.contexts.size + 1 else s.contexts.size
  context : ∀ j, next.context j = if j = i then (s.context i).ended else (s.fork i).context j
  first : next.first = if s.GivesUp i then s.first + 1 else s.first

theorem endPiece_ends {s : State} {i : Nat} (inside : i < s.contexts.size) :
    s.Ends i (s.endPiece i) := by
  have within := Nat.lt_of_lt_of_le inside (le_size_fork s i)
  have own : (s.fork i).context i = s.context i := by
    rw [context_fork, if_neg (by omega)]
  have marked (j : Nat) : ((s.fork i).modify i Context.mark).context j =
      if j = i then (s.context i).mark else (s.fork i).context j := by
    rw [context_modify within, own]
  have length : (((s.fork i).modify i Context.mark).context i).length = (s.context i).length := by
    rw [marked, if_pos rfl]
    rfl
  have size : ((s.fork i).modify i Context.mark).contexts.size = (s.fork i).contexts.size :=
    Array.size_modify
  rw [endPiece, length]
  by_cases short : (s.context i).length < digestLength - 1
  · rw [if_pos short]
    have stays : ¬s.GivesUp i := fun gives => by have := gives.1; omega
    have rest : (s.fork i).rolling = s.rolling ∧ (s.fork i).total = s.total ∧
        (s.fork i).first = s.first := by
      rw [fork]
      split <;> exact ⟨rfl, rfl, rfl⟩
    refine ⟨rest.1, rest.2.1, ?_, fun j => ?_, by rw [if_neg stays]; exact rest.2.2⟩
    · exact (Array.size_modify.trans size).trans (size_fork s i)
    · rw [context_modify (size ▸ within), marked, marked, if_pos rfl]
      split
      · rw [Context.ended, if_pos short]
      · rfl
  · rw [if_neg short]
    have whole : ¬s.Forks i := fun forks => short (forks.1 ▸ by decide)
    rw [fork_of_not whole] at marked size ⊢
    have next : ((s.modify i Context.mark).context (s.first + 1)).length =
        (s.context (s.first + 1)).length := by
      rw [marked]
      split
      · rename_i same
        rw [same]
        rfl
      · rfl
    have gives : ((s.modify i Context.mark).contexts.size - (s.modify i Context.mark).first ≥ 2 ∧
        pieceLength (s.modify i Context.mark).first * digestLength < (s.modify i Context.mark).total ∧
        ((s.modify i Context.mark).context ((s.modify i Context.mark).first + 1)).length ≥
          digestLength / 2) ↔ s.GivesUp i := by
      change (_ - s.first ≥ 2 ∧ pieceLength s.first * digestLength < s.total ∧
        ((s.modify i Context.mark).context (s.first + 1)).length ≥ _) ↔ _
      rw [size, next, GivesUp]
      omega
    have context (j : Nat) : (s.modify i Context.mark).context j =
        if j = i then (s.context i).ended else (s.fork i).context j := by
      rw [marked, Context.ended, if_neg short, fork_of_not whole]
    have counted : (s.modify i Context.mark).contexts.size =
        if s.Forks i then s.contexts.size + 1 else s.contexts.size := by
      rw [size, if_neg whole]
    by_cases up : s.GivesUp i
    · rw [if_pos (gives.mpr up)]
      exact ⟨rfl, rfl, counted, context, (if_pos up).symm⟩
    · rw [if_neg (fun all => up (gives.mp all))]
      exact ⟨rfl, rfl, counted, context, (if_neg up).symm⟩

/-! ## Two ways to take a stream -/

/-- All contexts but the last one have ended a piece, and there are not too many. -/
structure Begun (s : State) : Prop where
  begun : ∀ i, i + 1 < s.contexts.size → 0 < (s.context i).length
  limit : s.contexts.size ≤ contextLimit

/-- The first state has given up what the second one has, and maybe more: contexts that are too fine for
the whole length. All others are the same. -/
structure Ahead (whole : Nat) (a b : State) : Prop where
  rolling : a.rolling = b.rolling
  size : a.contexts.size = b.contexts.size
  first : b.first ≤ a.first
  inside : a.first < a.contexts.size
  same : ∀ i, a.first ≤ i → a.context i = b.context i
  fine : ∀ i < a.first, pieceLength i * digestLength < whole
  half : 0 < a.first → digestLength / 2 ≤ (a.context a.first).length
  total : a.total = whole
  seen : b.total ≤ whole

variable {whole i : Nat} {a b next later : State}

theorem Ends.length (ends : a.Ends i next) (inside : i < a.contexts.size) (j : Nat) :
    (next.context j).length =
      if j = i ∧ (a.context i).length < digestLength - 1 then (a.context j).length + 1
      else (a.context j).length := by
  rw [ends.context]
  by_cases own : j = i
  · subst own
    rw [if_pos rfl, Context.length_ended]
    simp
  · rw [if_neg own, if_neg (fun both => own both.1), context_fork]
    split
    · rename_i new
      rw [new.2, context_of_size_le (Nat.le_refl _)]
      rfl
    · rfl

theorem Ends.le_length (ends : a.Ends i next) (inside : i < a.contexts.size) (j : Nat) :
    (a.context j).length ≤ (next.context j).length := by
  rw [ends.length inside]
  split <;> omega

theorem Begun.endPiece (begun : a.Begun) (inside : i < a.contexts.size) (ends : a.Ends i next) :
    next.Begun := by
  refine ⟨fun j within => ?_, ?_⟩
  · rw [ends.length inside]
    rw [ends.size] at within
    by_cases forks : a.Forks i
    · rw [if_pos forks] at within
      have last : ¬i + 1 < a.contexts.size := fun before => by
        have := begun.begun i before
        rw [forks.1] at this
        omega
      by_cases own : j = i
      · rw [if_pos ⟨own, forks.1 ▸ by decide⟩]
        omega
      · rw [if_neg (fun both => own both.1)]
        exact begun.begun j (by omega)
    · rw [if_neg forks] at within
      have := begun.begun j within
      split <;> omega
  · rw [ends.size]
    have limit := begun.limit
    split
    · rename_i forks
      exact forks.2
    · exact limit

theorem Ahead.forks_iff (ahead : Ahead whole a b) (used : a.first ≤ i) : a.Forks i ↔ b.Forks i := by
  rw [Forks, Forks, ahead.same i used, ahead.size]

/-- The first state knows the larger length, so it gives up its context whenever the second one does. -/
theorem Ahead.givesUp (ahead : Ahead whole a b) (used : a.first ≤ i) (level : b.first = a.first)
    (gives : b.GivesUp i) : a.GivesUp i := by
  obtain ⟨full, two, long, half⟩ := gives
  refine ⟨ahead.same i used ▸ full, ahead.size ▸ level ▸ two, ?_, ?_⟩
  · rw [ahead.total, ← level]
    exact Nat.lt_of_lt_of_le long ahead.seen
  · rw [ahead.same _ (Nat.le_succ _), ← level]
    exact half

theorem Ahead.both (ahead : Ahead whole a b) (used : a.first ≤ i) (inside : i < a.contexts.size)
    (one : a.Ends i next) (other : b.Ends i later) : Ahead whole next later := by
  have own := ahead.same i used
  have forks := ahead.forks_iff used
  have size : next.contexts.size = later.contexts.size := by
    rw [one.size, other.size, ahead.size]
    simp only [forks]
  have same (j : Nat) (after : a.first ≤ j) : next.context j = later.context j := by
    rw [one.context, other.context, own, context_fork, context_fork, ahead.same j after, ahead.size]
    have last : a.added = b.added := by
      rw [added, added, ahead.same _ (by have := ahead.inside; omega), ahead.size]
    simp only [forks, last]
  have larger : a.contexts.size ≤ next.contexts.size := by
    rw [one.size]
    split <;> omega
  have length := one.le_length inside
  have bound := ahead.inside
  have low := ahead.first
  have rolling : next.rolling = later.rolling := by rw [one.rolling, other.rolling, ahead.rolling]
  have total : next.total = whole := one.total.trans ahead.total
  have seen : later.total ≤ whole := other.total ▸ ahead.seen
  by_cases up : a.GivesUp i
  · have first : next.first = a.first + 1 := by rw [one.first, if_pos up]
    obtain ⟨_, two, long, half⟩ := up
    refine ⟨rolling, size, ?_, by omega, fun j after => same j (by omega), fun j before => ?_,
      fun _ => ?_, total, seen⟩
    · rw [first, other.first]
      split <;> omega
    · rcases Nat.lt_succ_iff_lt_or_eq.mp (first ▸ before) with earlier | rfl
      · exact ahead.fine j earlier
      · exact ahead.total ▸ long
    · rw [first]
      exact Nat.le_trans half (length _)
  · have first : next.first = a.first := by rw [one.first, if_neg up]
    refine ⟨rolling, size, ?_, by omega, fun j after => same j (by omega), fun j before => ?_,
      fun positive => ?_, total, seen⟩
    · rw [first, other.first]
      split
      · rename_i gives
        have : b.first ≠ a.first := fun level => up (ahead.givesUp used level gives)
        omega
      · exact low
    · exact ahead.fine j (first ▸ before)
    · rw [first] at positive ⊢
      exact Nat.le_trans (ahead.half positive) (length _)

theorem Ahead.behind (ahead : Ahead whole a b) (begun : b.Begun) (used : b.first ≤ i)
    (before : i < a.first) (other : b.Ends i later) : Ahead whole a later := by
  have inside := ahead.inside
  have size := ahead.size
  have old : ¬b.Forks i := fun forks => by
    have := begun.begun i (by omega)
    rw [forks.1] at this
    omega
  refine ⟨ahead.rolling.trans other.rolling.symm, ?_, ?_, inside, fun j after => ?_, ahead.fine,
    ahead.half, ahead.total, other.total ▸ ahead.seen⟩
  · rw [other.size, if_neg old, size]
  · rw [other.first]
    split <;> omega
  · rw [other.context, if_neg (by omega), fork_of_not old]
    exact ahead.same j after

/-! ## The ends of pieces -/

def Cut (sum i : Nat) (s : State) : Prop :=
  i < s.contexts.size ∧ sum % pieceLength i = pieceLength i - 1

theorem endPieces_of_cut {sum fuel : Nat} (cut : Cut sum i a) :
    endPieces sum (fuel + 1) i a = endPieces sum fuel (i + 1) (a.endPiece i) :=
  if_pos cut

theorem endPieces_of_not {sum fuel : Nat} (no : ¬Cut sum i a) : endPieces sum fuel i a = a := by
  cases fuel with
  | zero => rfl
  | succ fuel => exact if_neg no

theorem Begun.endPieces {sum fuel : Nat} (begun : a.Begun) : (endPieces sum fuel i a).Begun := by
  induction fuel generalizing i a with
  | zero => exact begun
  | succ fuel ih =>
    by_cases cut : Cut sum i a
    · rw [endPieces_of_cut cut]
      exact ih (begun.endPiece cut.1 (endPiece_ends cut.1))
    · rw [endPieces_of_not cut]
      exact begun

theorem Ahead.together {sum fuel more : Nat} (ahead : Ahead whole a b) (begun : b.Begun)
    (used : a.first ≤ i) (enough : contextLimit ≤ i + fuel) (other : contextLimit ≤ i + more) :
    Ahead whole (endPieces sum fuel i a) (endPieces sum more i b) := by
  induction fuel generalizing i more a b with
  | zero =>
    have limit := begun.limit
    have size := ahead.size
    rw [endPieces_of_not (fun cut => by have := cut.1; omega),
      endPieces_of_not (fun cut => by have := cut.1; omega)]
    exact ahead
  | succ fuel ih =>
    have limit := begun.limit
    have size := ahead.size
    by_cases cut : Cut sum i a
    · have same : Cut sum i b := ⟨size ▸ cut.1, cut.2⟩
      have within := same.1
      obtain ⟨more, rfl⟩ : ∃ n, more = n + 1 := ⟨more - 1, by omega⟩
      have one := endPiece_ends cut.1
      have two := endPiece_ends same.1
      rw [endPieces_of_cut cut, endPieces_of_cut same]
      refine ih (ahead.both used cut.1 one two) (begun.endPiece same.1 two) ?_ (by omega) (by omega)
      rw [one.first]
      split <;> omega
    · rw [endPieces_of_not cut, endPieces_of_not (fun other => cut ⟨size ▸ other.1, other.2⟩)]
      exact ahead

/-- The second state comes up to the first one. Where it stops before, the first one ends no piece. -/
theorem Ahead.endPieces {sum fuel more : Nat} (ahead : Ahead whole a b) (begun : b.Begun)
    (used : b.first ≤ i) (before : i ≤ a.first) (enough : contextLimit ≤ a.first + fuel)
    (other : contextLimit ≤ i + more) :
    Ahead whole (endPieces sum fuel a.first a) (endPieces sum more i b) := by
  have inside := ahead.inside
  have size := ahead.size
  have limit := begun.limit
  induction more generalizing i b with
  | zero => omega
  | succ more ih =>
    rcases Nat.eq_or_lt_of_le before with rfl | less
    · exact ahead.together begun (Nat.le_refl _) enough other
    · -- Only the second state still uses this context.
      by_cases cut : Cut sum i b
      · have ends := endPiece_ends cut.1
        have next := ahead.behind begun used less ends
        have started := begun.endPiece cut.1 ends
        rw [endPieces_of_cut cut]
        refine ih next started ?_ less (by omega) next.size started.limit
        rw [ends.first]
        split <;> omega
      · have none : ¬Cut sum a.first a := fun last =>
          cut ⟨by omega, ends_finer before last.2⟩
        rw [endPieces_of_not cut, endPieces_of_not none]
        exact ahead

/-! ## Bytes -/

def spread (s : State) (x : UInt8) : State :=
  { s with
    rolling := s.rolling.push x
    contexts := s.contexts.mapIdx fun i c => if s.first ≤ i then c.push x else c }

theorem push_eq (s : State) (x : UInt8) :
    s.push x = endPieces (s.rolling.push x).value.toNat contextLimit s.first (s.spread x) := rfl

theorem getD_mapIdx {α : Type} (xs : Array α) (f : Nat → α → α) (d : α) {j : Nat}
    (inside : j < xs.size) : (xs.mapIdx f).getD j d = f j (xs.getD j d) := by
  simp [Array.getD_eq_getD_getElem?, inside]

theorem context_spread (s : State) (x : UInt8) {j : Nat} (inside : j < s.contexts.size) :
    (s.spread x).context j = if s.first ≤ j then (s.context j).push x else s.context j :=
  getD_mapIdx s.contexts _ _ inside

theorem size_spread (s : State) (x : UInt8) : (s.spread x).contexts.size = s.contexts.size :=
  Array.size_mapIdx

theorem length_spread (s : State) (x : UInt8) (j : Nat) :
    ((s.spread x).context j).length = (s.context j).length := by
  by_cases inside : j < s.contexts.size
  · rw [context_spread s x inside]
    split
    · exact Context.length_push _ x
    · rfl
  · have outside := Nat.le_of_not_lt inside
    rw [context_of_size_le outside, context_of_size_le (size_spread s x ▸ outside)]

theorem Begun.spread (begun : a.Begun) (x : UInt8) : (a.spread x).Begun where
  begun i within := by
    rw [length_spread]
    exact begun.begun i (size_spread a x ▸ within)
  limit := size_spread a x ▸ begun.limit

theorem Begun.push (begun : a.Begun) (x : UInt8) : (a.push x).Begun :=
  (begun.spread x).endPieces

theorem Ahead.spread (ahead : Ahead whole a b) (x : UInt8) : Ahead whole (a.spread x) (b.spread x) where
  rolling := congrArg (·.push x) ahead.rolling
  size := by rw [size_spread, size_spread, ahead.size]
  first := ahead.first
  inside := size_spread a x ▸ ahead.inside
  same i after := by
    change a.first ≤ i at after
    by_cases inside : i < a.contexts.size
    · rw [context_spread a x inside, context_spread b x (ahead.size ▸ inside), if_pos after,
        if_pos (Nat.le_trans ahead.first after), ahead.same i after]
    · have outside := Nat.le_of_not_lt inside
      rw [context_of_size_le (size_spread a x ▸ outside),
        context_of_size_le (size_spread b x ▸ ahead.size ▸ outside)]
  fine := ahead.fine
  half positive := by
    rw [length_spread]
    exact ahead.half positive
  total := ahead.total
  seen := ahead.seen

theorem Ahead.push (ahead : Ahead whole a b) (begun : b.Begun) (x : UInt8) :
    Ahead whole (a.push x) (b.push x) := by
  rw [push_eq, push_eq, ahead.rolling]
  exact (ahead.spread x).endPieces (begun.spread x) (Nat.le_refl _) ahead.first (Nat.le_add_left _ _)
    (Nat.le_add_left _ _)

theorem total_endPieces (sum fuel i : Nat) (s : State) : (endPieces sum fuel i s).total = s.total := by
  induction fuel generalizing i s with
  | zero => rfl
  | succ fuel ih =>
    by_cases cut : Cut sum i s
    · rw [endPieces_of_cut cut, ih, (endPiece_ends cut.1).total]
    · rw [endPieces_of_not cut]

theorem total_push (s : State) (x : UInt8) : (s.push x).total = s.total :=
  total_endPieces _ _ _ _

theorem total_foldl (bytes : List UInt8) (s : State) : (bytes.foldl push s).total = s.total := by
  induction bytes generalizing s with
  | nil => rfl
  | cons x bytes ih => rw [List.foldl_cons, ih, total_push]

theorem Ahead.foldl (ahead : Ahead whole a b) (begun : b.Begun) (bytes : List UInt8) :
    Ahead whole (bytes.foldl State.push a) (bytes.foldl State.push b) ∧
      (bytes.foldl State.push b).Begun := by
  induction bytes generalizing a b with
  | nil => exact ⟨ahead, begun⟩
  | cons x bytes ih => exact ih (ahead.push begun x) (begun.push x)

/-- Whoever knows the whole length from the start stays ahead of whoever takes piece after piece. -/
theorem Ahead.absorb (ahead : Ahead whole a b) (begun : b.Begun) (pieces : List (List UInt8))
    (counted : b.total + pieces.flatten.length = whole) :
    Ahead whole (pieces.flatten.foldl State.push a) (pieces.foldl State.absorb b) ∧
      (pieces.foldl State.absorb b).total = whole := by
  induction pieces generalizing a b with
  | nil => exact ⟨ahead, counted⟩
  | cons piece pieces ih =>
    rw [List.flatten_cons, List.length_append] at counted
    have told : Ahead whole a { b with total := b.total + piece.length } :=
      ⟨ahead.rolling, ahead.size, ahead.first, ahead.inside, ahead.same, ahead.fine, ahead.half,
        ahead.total, by dsimp only; omega⟩
    obtain ⟨next, started⟩ := told.foldl ⟨begun.begun, begun.limit⟩ piece
    rw [List.flatten_cons, List.foldl_append, List.foldl_cons]
    refine ih next started ?_
    rw [State.absorb, total_foldl]
    dsimp only
    omega

/-! ## What is written -/

theorem fitting_spec (total fuel i : Nat) (enough : total ≤ pieceLength (i + fuel) * digestLength) :
    i ≤ fitting total fuel i ∧ total ≤ pieceLength (fitting total fuel i) * digestLength ∧
      ∀ k, i ≤ k → k < fitting total fuel i → pieceLength k * digestLength < total := by
  induction fuel generalizing i with
  | zero => exact ⟨Nat.le_refl _, enough, fun k low high => absurd high (Nat.not_lt.mpr low)⟩
  | succ fuel ih =>
    rw [fitting]
    split
    · rename_i small
      obtain ⟨after, fits, below⟩ := ih (i + 1) (by rwa [Nat.add_assoc, Nat.add_comm 1])
      refine ⟨by omega, fits, fun k low high => ?_⟩
      rcases Nat.eq_or_lt_of_le low with rfl | later
      · exact small
      · exact below k later high
    · rename_i fits
      exact ⟨Nat.le_refl _, Nat.le_of_not_lt fits, fun k low high => absurd high (Nat.not_lt.mpr low)⟩

theorem Ahead.fitting (ahead : Ahead whole a b) :
    fitting whole whole a.first = fitting whole whole b.first := by
  have enough (i : Nat) : whole ≤ pieceLength (i + whole) * digestLength := by
    have := lt_pieceLength (i + whole)
    simp only [digestLength]
    omega
  obtain ⟨low, fits, below⟩ := fitting_spec whole whole a.first (enough _)
  obtain ⟨low', fits', below'⟩ := fitting_spec whole whole b.first (enough _)
  have first := ahead.first
  apply Nat.le_antisymm
  · apply Nat.le_of_not_lt
    intro less
    rcases Nat.lt_or_ge (State.fitting whole whole b.first) a.first with before | after
    · exact absurd (ahead.fine _ before) (Nat.not_lt.mpr fits')
    · exact absurd (below _ after less) (Nat.not_lt.mpr fits')
  · apply Nat.le_of_not_lt
    intro less
    exact absurd (below' _ (by omega) less) (Nat.not_lt.mpr fits)

theorem Ahead.halfFull (ahead : Ahead whole a b) {n : Nat} (used : a.first ≤ n) :
    a.halfFull n = b.halfFull n ∧ a.first ≤ a.halfFull n := by
  induction n with
  | zero => exact ⟨rfl, used⟩
  | succ n ih =>
    have first := ahead.first
    have same := ahead.same (n + 1) used
    rw [State.halfFull, State.halfFull, same]
    by_cases short : (b.context (n + 1)).length < digestLength / 2
    · rcases Nat.eq_or_lt_of_le used with least | later
      · have := ahead.half (by omega)
        rw [least, same] at this
        omega
      · rw [if_pos ⟨later, short⟩, if_pos ⟨by omega, short⟩]
        exact ih (by omega)
    · rw [if_neg (fun both => short both.2), if_neg (fun both => short both.2)]
      exact ⟨rfl, used⟩

theorem Ahead.render (ahead : Ahead whole a b) (counted : b.total = whole) : a.render = b.render := by
  have inside := ahead.inside
  have start : min (State.fitting a.total a.total a.first) (a.contexts.size - 1) =
      min (State.fitting b.total b.total b.first) (b.contexts.size - 1) := by
    rw [ahead.total, counted, ahead.fitting, ahead.size]
  have used : a.first ≤ min (State.fitting a.total a.total a.first) (a.contexts.size - 1) := by
    have low := (fitting_spec a.total a.total a.first (by
      have := lt_pieceLength (a.first + a.total)
      simp only [digestLength]
      omega)).1
    omega
  obtain ⟨same, low⟩ := ahead.halfFull used
  have chosen : a.chosen = b.chosen := by rw [State.chosen, State.chosen, same, start]
  change a.first ≤ a.chosen at low
  rw [chosen] at low
  have here := ahead.same _ low
  have next := ahead.same _ (Nat.le_succ_of_le low)
  have ending : a.ending = b.ending := by
    funext hash last
    rw [State.ending, State.ending, ahead.rolling]
  simp only [State.render, chosen, here, next, ending, ahead.size]

end State

/-- The digest of a stream depends on its bytes only, not on the pieces in which they came. -/
theorem render_pieces (pieces : List (List UInt8)) :
    (pieces.foldl State.absorb {}).render = (State.absorb {} pieces.flatten).render := by
  have start : State.Ahead pieces.flatten.length
      ({ total := 0 + pieces.flatten.length } : State) ({} : State) :=
    ⟨rfl, rfl, Nat.le_refl _, Nat.one_pos, fun _ _ => rfl, fun i before => absurd before (Nat.not_lt_zero i),
      fun positive => absurd positive (Nat.lt_irrefl 0), Nat.zero_add _, Nat.zero_le _⟩
  have begun : ({} : State).Begun := ⟨fun i within => absurd within (by simp), by decide⟩
  obtain ⟨ahead, counted⟩ := start.absorb begun pieces (Nat.zero_add _)
  exact (ahead.render counted).symm

end Triage.Digest.Fuzzy
