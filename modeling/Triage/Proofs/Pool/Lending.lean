import Mathlib.Data.List.Induction
import Mathlib.Data.List.Nodup
import Mathlib.Data.List.Perm.Basic
import Mathlib.Order.Bounds.Basic
import Mathlib.Order.MinMax
import Triage.Pool.Lending

/-! What a pool keeps while its members are lent out. Each member is idle or on one loan, however those who
ask for members and give them back come to take turns. -/

namespace Triage

namespace Lending
variable {α : Type}

/-- What is asked of a pool. A checkout that finds all members out waits: it changes nothing, and is made
again once a loan has ended. A job that fails has used its member as far as it got. -/
inductive Action (α : Type)
  | checkout
  | tryCheckout
  | use (loan : Nat) (f : α → α)
  | drop (loan : Nat)

def act (l : Lending α) : Action α → Lending α
  | .checkout | .tryCheckout => (l.lend?.map (·.2)).getD l
  | .use loan f => ((l.use? loan fun a => ((), f a)).map (·.2)).getD l
  | .drop loan => (l.endLoan? loan).getD l

/-- The actions of all who ask, in the order in which their turns come. -/
def play (l : Lending α) (history : List (Action α)) : Lending α := history.foldl act l

def create (member : α) (size : Nat) : Lending α := { pool := Pool.create member size }

/-! ## One action -/

/-- The next idle member goes out under the next number. -/
def lent (l : Lending α) (a : α) (rest : List α) : Lending α where
  pool := { l.pool with
    idle := rest, inUse := l.pool.inUse + 1, peak := max l.pool.peak (l.pool.inUse + 1) }
  loans := (l.next, a) :: l.loans
  next := l.next + 1

def used (l : Lending α) (loan : Nat) (a : α) : Lending α :=
  { l with loans := l.loans.map fun held => if held.1 = loan then (loan, a) else held }

def ended (l : Lending α) (loan : Nat) (a : α) : Lending α :=
  { l with pool := l.pool.put a, loans := l.loans.filter (·.1 != loan) }

theorem lend?_of_idle {l : Lending α} {a : α} {rest : List α} (idle : l.pool.idle = a :: rest) :
    l.lend? = some (l.next, l.lent a rest) := by
  simp [lend?, Pool.take?, idle, lent]

theorem lend?_eq_none_iff {l : Lending α} : l.lend? = none ↔ l.pool.idle = [] := by
  cases idle : l.pool.idle with
  | nil => simp [lend?, Pool.take?, idle]
  | cons a rest => simp [lend?_of_idle idle]

theorem use?_of_lookup {l : Lending α} {loan : Nat} {a : α} (held : l.loans.lookup loan = some a)
    (f : α → α) : (l.use? loan fun a => ((), f a)) = some ((), l.used loan (f a)) := by
  simp [use?, held, used]

theorem endLoan?_of_lookup {l : Lending α} {loan : Nat} {a : α} (held : l.loans.lookup loan = some a) :
    l.endLoan? loan = some (l.ended loan a) := by
  simp [endLoan?, held, ended]

/-- An action lends a member that is idle, uses or ends a loan that runs, or changes nothing. -/
theorem act_cases (l : Lending α) (action : Action α) :
    (∃ a rest, l.pool.idle = a :: rest ∧ l.act action = l.lent a rest) ∨
      (∃ loan a f, action = .use loan f ∧ l.loans.lookup loan = some a ∧
        l.act action = l.used loan (f a)) ∨
      (∃ loan a, l.loans.lookup loan = some a ∧ l.act action = l.ended loan a) ∨
      l.act action = l := by
  have lending : (∃ a rest, l.pool.idle = a :: rest ∧ (l.lend?.map (·.2)).getD l = l.lent a rest) ∨
      (l.lend?.map (·.2)).getD l = l := by
    cases idle : l.pool.idle with
    | nil => exact .inr (by simp [lend?_eq_none_iff.mpr idle])
    | cons a rest => exact .inl ⟨a, rest, rfl, by simp [lend?_of_idle idle]⟩
  cases action with
  | checkout | tryCheckout =>
    rcases lending with taken | still
    · exact .inl taken
    · exact .inr (.inr (.inr still))
  | use loan f =>
    cases held : l.loans.lookup loan with
    | none => exact .inr (.inr (.inr (by simp [act, use?, held])))
    | some a => exact .inr (.inl ⟨loan, a, f, rfl, held, by simp [act, use?_of_lookup held]⟩)
  | drop loan =>
    cases held : l.loans.lookup loan with
    | none => exact .inr (.inr (.inr (by simp [act, endLoan?, held])))
    | some a => exact .inr (.inr (.inl ⟨loan, a, held, by simp [act, endLoan?_of_lookup held]⟩))

/-! ## Loans by number -/

theorem mem_of_lookup {loans : List (Nat × α)} {loan : Nat} {a : α}
    (held : loans.lookup loan = some a) : (loan, a) ∈ loans := by
  obtain ⟨before, after, rfl, _⟩ := List.lookup_eq_some_iff.mp held
  simp

/-- Numbers tell loans apart, so ending one takes one loan away. -/
theorem perm_of_lookup {loans : List (Nat × α)} (distinct : (loans.map (·.1)).Nodup) {loan : Nat} {a : α}
    (held : loans.lookup loan = some a) : loans.Perm ((loan, a) :: loans.filter (·.1 != loan)) := by
  obtain ⟨before, after, rfl, absent⟩ := List.lookup_eq_some_iff.mp held
  have middle : (before ++ (loan, a) :: after).Perm ((loan, a) :: (before ++ after)) := List.perm_middle
  have apart := (middle.map (·.1)).nodup_iff.mp distinct
  have others (x : Nat × α) (member : x ∈ before ++ after) : x.1 ≠ loan := by
    rintro rfl
    exact (List.nodup_cons.mp apart).1 (List.mem_map_of_mem (f := (·.1)) member)
  have kept : (before ++ (loan, a) :: after).filter (·.1 != loan) = before ++ after := by
    rw [List.filter_append, List.filter_cons_of_neg (by simp), ← List.filter_append,
      List.filter_eq_self.mpr fun x member => by simpa using others x member]
  rw [kept]
  exact middle

/-! ## Members by number -/

/-- The same pool with its members numbered, so that they can be told apart. -/
def numbered (member : α) (size : Nat) : Lending (Nat × α) where
  pool := { size := max size 1, idle := (List.range (max size 1)).map (·, member) }

/-- The same action where members are numbered: it leaves their numbers alone. -/
def Action.numbered : Action α → Action (Nat × α)
  | checkout => checkout
  | tryCheckout => tryCheckout
  | use loan f => use loan (Prod.map id f)
  | drop loan => drop loan

/-- The numbers of the members, those that are idle before those on loan. -/
def places (l : Lending (Nat × α)) : List Nat := (l.pool.idle ++ l.loans.map (·.2)).map (·.1)

def plain (l : Lending (Nat × α)) : Lending α where
  pool := { l.pool with idle := l.pool.idle.map (·.2) }
  loans := l.loans.map (Prod.map id (·.2))
  next := l.next

theorem lookup_plain (loans : List (Nat × Nat × α)) (loan : Nat) :
    (loans.map (Prod.map id (·.2))).lookup loan = (loans.lookup loan).map (·.2) := by
  induction loans with
  | nil => rfl
  | cons held loans ih =>
    obtain ⟨number, a⟩ := held
    simp only [List.map_cons, Prod.map_apply, id_eq, List.lookup_cons, ih]
    cases loan == number <;> rfl

theorem plain_act (l : Lending (Nat × α)) (action : Action α) :
    (l.act action.numbered).plain = l.plain.act action := by
  have lending : ((l.lend?.map (·.2)).getD l).plain = (l.plain.lend?.map (·.2)).getD l.plain := by
    cases idle : l.pool.idle with
    | nil => simp [lend?, Pool.take?, idle, plain]
    | cons a rest => simp [lend?, Pool.take?, idle, plain]
  cases action with
  | checkout | tryCheckout => exact lending
  | use loan f =>
    cases held : l.loans.lookup loan with
    | none => simp [act, Action.numbered, use?, plain, lookup_plain, held]
    | some a =>
      simp only [act, Action.numbered, use?, plain, lookup_plain, held, Option.map_some, Option.getD_some,
        List.map_map]
      congr 1
      refine List.map_congr_left fun x _ => ?_
      by_cases same : x.1 = loan <;> simp [same, Prod.map]
  | drop loan =>
    cases held : l.loans.lookup loan with
    | none => simp [act, Action.numbered, endLoan?, plain, lookup_plain, held]
    | some a =>
      simp only [act, Action.numbered, endLoan?, plain, lookup_plain, held, Option.map_some, Option.getD_some,
        List.filter_map]
      rfl

theorem plain_play (l : Lending (Nat × α)) (history : List (Action α)) :
    (l.play (history.map Action.numbered)).plain = l.plain.play history := by
  induction history generalizing l with
  | nil => rfl
  | cons action history ih =>
    rw [List.map_cons, play, List.foldl_cons, ← play, ih, plain_act]
    rfl

theorem plain_numbered (member : α) (size : Nat) : (numbered member size).plain = create member size := by
  simp only [numbered, plain, create, Pool.create, List.map_map, List.map_nil, Function.comp_def,
    List.map_const', List.length_range]

/-! ## What is kept -/

/-- Every member is in one place, and the loans that run are counted. -/
structure Kept (size : Nat) (l : Lending (Nat × α)) : Prop where
  places : l.places.Perm (List.range size)
  size : l.pool.size = size
  inUse : l.pool.inUse = l.loans.length
  peak : l.pool.inUse ≤ l.pool.peak
  numbers : (l.loans.map (·.1)).Nodup
  next : ∀ held ∈ l.loans, held.1 < l.next

variable {size : Nat} {l : Lending (Nat × α)}

theorem kept_numbered (member : α) (size : Nat) : Kept (max size 1) (numbered member size) where
  size := rfl
  places := by simp [places, numbered, Function.comp_def]
  inUse := rfl
  peak := Nat.le_refl _
  numbers := List.nodup_nil
  next := by simp [numbered]

theorem Kept.lent (kept : l.Kept size) {a : Nat × α} {rest : List (Nat × α)}
    (idle : l.pool.idle = a :: rest) : (l.lent a rest).Kept size where
  size := kept.size
  places := by
    refine List.Perm.trans ?_ kept.places
    rw [Lending.places, Lending.places, idle]
    exact List.perm_middle.map _
  inUse := congrArg (· + 1) kept.inUse
  peak := Nat.le_max_right _ _
  numbers := by
    refine List.nodup_cons.mpr ⟨fun again => ?_, kept.numbers⟩
    obtain ⟨held, member, same⟩ := List.mem_map.mp again
    exact Nat.lt_irrefl _ (same ▸ kept.next held member)
  next := by
    refine List.forall_mem_cons.mpr ⟨Nat.lt_succ_self _, fun held member => ?_⟩
    exact Nat.lt_succ_of_lt (kept.next held member)

theorem Kept.ended (kept : l.Kept size) {loan : Nat} {a : Nat × α}
    (held : l.loans.lookup loan = some a) : (l.ended loan a).Kept size where
  size := kept.size
  places := by
    have loans := (perm_of_lookup kept.numbers held).map (·.2)
    refine List.Perm.trans ?_ kept.places
    refine List.Perm.map _ ((List.perm_middle.symm).trans ?_)
    exact loans.symm.append_left _
  inUse := by
    have loans := (perm_of_lookup kept.numbers held).length_eq
    rw [List.length_cons] at loans
    change l.pool.inUse - 1 = _
    rw [kept.inUse, loans]
    rfl
  peak := (Nat.sub_le _ _).trans kept.peak
  numbers := kept.numbers.sublist (List.filter_sublist.map _)
  next held member := kept.next held (List.mem_of_mem_filter member)

theorem Kept.used (kept : l.Kept size) {loan : Nat} {a b : Nat × α}
    (held : l.loans.lookup loan = some a) (same : b.1 = a.1) : (l.used loan b).Kept size := by
  -- Numbers tell loans apart, so the only loan that changes is the one of `a`.
  have own (x : Nat × Nat × α) (member : x ∈ l.loans) (number : x.1 = loan) : x.2 = a := by
    have there := mem_of_lookup held
    have equal := List.inj_on_of_nodup_map kept.numbers member there number
    rw [equal]
  have numbers : (l.used loan b).loans.map (·.1) = l.loans.map (·.1) := by
    rw [Lending.used, List.map_map]
    refine List.map_congr_left fun x _ => ?_
    by_cases number : x.1 = loan <;> simp [number]
  have members : (l.used loan b).loans.map (·.2.1) = l.loans.map (·.2.1) := by
    rw [Lending.used, List.map_map]
    refine List.map_congr_left fun x member => ?_
    by_cases number : x.1 = loan
    · simp [number, same, own x member number]
    · simp [number]
  refine ⟨?_, kept.size, ?_, kept.peak, numbers ▸ kept.numbers, fun x member => ?_⟩
  · have same : (l.used loan b).places = l.places := by
      simp only [Lending.places, List.map_append, List.map_map, Function.comp_def, members]
      rfl
    rw [same]
    exact kept.places
  · refine kept.inUse.trans ?_
    exact List.length_map _ |>.symm
  · have inside : x.1 ∈ l.loans.map (·.1) := numbers ▸ List.mem_map_of_mem member
    obtain ⟨y, before, number⟩ := List.mem_map.mp inside
    exact number ▸ kept.next y before

theorem Kept.act (kept : l.Kept size) (action : Action α) : (l.act action.numbered).Kept size := by
  rcases l.act_cases action.numbered with ⟨a, rest, idle, lent⟩ | ⟨loan, a, f, asked, held, used⟩ |
    ⟨loan, a, held, ended⟩ | still
  · exact lent ▸ kept.lent idle
  · refine used ▸ kept.used held ?_
    cases action with
    | use =>
      obtain ⟨rfl, rfl⟩ := Action.use.inj asked
      rfl
    | _ => nomatch asked
  · exact ended ▸ kept.ended held
  · exact still.symm ▸ kept

theorem Kept.play (kept : l.Kept size) (history : List (Action α)) :
    (l.play (history.map Action.numbered)).Kept size := by
  induction history generalizing l with
  | nil => exact kept
  | cons action history ih => exact ih (kept.act action)

theorem Kept.peak_act (kept : l.Kept size) (action : Action α) :
    (l.act action.numbered).pool.peak = max l.pool.peak (l.act action.numbered).pool.inUse := by
  have below := kept.peak
  rcases l.act_cases action.numbered with ⟨a, rest, idle, lent⟩ | ⟨loan, a, f, asked, held, used⟩ |
    ⟨loan, a, held, ended⟩ | still
  · rw [lent]
    rfl
  · rw [used]
    exact (Nat.max_eq_left below).symm
  · rw [ended]
    exact (Nat.max_eq_left ((Nat.sub_le _ _).trans below)).symm
  · rw [still]
    exact (Nat.max_eq_left below).symm

/-- Of all that were in use at some time the peak is the most. -/
theorem Kept.greatest (kept : l.Kept size) (start : l.pool.peak = l.pool.inUse) (history : List (Action α)) :
    IsGreatest
      {n | ∃ before, before <+: history ∧ n = (l.play (before.map Action.numbered)).pool.inUse}
      (l.play (history.map Action.numbered)).pool.peak := by
  induction history using List.reverseRecOn with
  | nil =>
    refine ⟨⟨[], List.prefix_rfl, start⟩, ?_⟩
    rintro n ⟨before, within, rfl⟩
    obtain rfl := List.prefix_nil.mp within
    exact start.ge
  | append_singleton history action ih =>
    have next : l.play ((history ++ [action]).map Action.numbered) =
        (l.play (history.map Action.numbered)).act action.numbered := by
      simp [Lending.play]
    have peak := (kept.play history).peak_act action
    obtain ⟨⟨before, within, most⟩, bound⟩ := ih
    rw [next, peak]
    constructor
    · rcases max_choice (l.play (history.map Action.numbered)).pool.peak
        ((l.play (history.map Action.numbered)).act action.numbered).pool.inUse with old | new
      · exact ⟨before, within.trans (List.prefix_append _ _), old.trans most⟩
      · exact ⟨history ++ [action], List.prefix_rfl, by rw [new, next]⟩
    · rintro n ⟨before, within, rfl⟩
      rcases List.prefix_concat_iff.mp within with rfl | earlier
      · exact next ▸ le_max_right _ _
      · exact (bound ⟨before, earlier, rfl⟩).trans (le_max_left _ _)

theorem Kept.idle (kept : l.Kept size) : l.pool.idle.length + l.pool.inUse = size := by
  have count := kept.places.length_eq
  rwa [Lending.places, List.length_map, List.length_append, List.length_map, List.length_range, ← kept.inUse] at count

/-- A loan that can be ended is one of those counted. -/
theorem inUse_endLoan? {l next : Lending α} (counted : l.pool.inUse = l.loans.length) {loan : Nat}
    (ended : l.endLoan? loan = some next) : next.pool.inUse + 1 = l.pool.inUse := by
  obtain ⟨a, held, rfl⟩ := Option.map_eq_some_iff.mp ended
  have some := List.length_pos_of_mem (mem_of_lookup held)
  exact Nat.sub_add_cancel (counted ▸ some)

/-- However those who take members out and give them back come to take turns, each member is idle or on one
loan, and those in use are as many as the loans that run, so that a loan that ends was counted. The peak is the
most that were in use at one time, and an attempt to take a member fails just when all are on loan. -/
theorem members_conserved (member : α) (size : Nat) (history : List (Action α)) :
    let l := (create member size).play history
    let told := (numbered member size).play (history.map Action.numbered)
    l.pool.size = max size 1 ∧ l.pool.idle.length + l.pool.inUse = l.pool.size ∧
      (l.pool.inUse = l.loans.length ∧ (l.loans.map (·.1)).Nodup) ∧
      (∀ loan next, l.endLoan? loan = some next → next.pool.inUse + 1 = l.pool.inUse) ∧
      (told.plain = l ∧ told.places.Perm (List.range l.pool.size)) ∧
      IsGreatest {n | ∃ before, before <+: history ∧ n = ((create member size).play before).pool.inUse}
        l.pool.peak ∧
      l.pool.peak ≤ l.pool.size ∧ (l.lend? = none ↔ l.loans.length = l.pool.size) := by
  intro l told
  have same (history : List (Action α)) : (create member size).play history =
      ((numbered member size).play (history.map Action.numbered)).plain := by
    rw [plain_play, plain_numbered]
  have plain : told.plain = l := (same history).symm
  have start := kept_numbered member size
  have kept (history : List (Action α)) := start.play history
  have greatest := start.greatest rfl history
  have bound {n : Nat} (reached : ∃ before : List (Action α), n =
      ((numbered member size).play (before.map Action.numbered)).pool.inUse) : n ≤ max size 1 := by
    obtain ⟨before, rfl⟩ := reached
    have idle := (kept before).idle
    omega
  have idle : told.pool.idle.length + told.pool.inUse = max size 1 := (kept history).idle
  have counted : told.pool.inUse = told.loans.length := (kept history).inUse
  have total : l.pool.size = max size 1 := plain ▸ (kept history).size
  have inUse : l.pool.inUse = told.pool.inUse := plain ▸ rfl
  have idles : l.pool.idle.length = told.pool.idle.length := by
    rw [← plain]
    exact List.length_map _
  have loans : l.loans.length = told.loans.length := by
    rw [← plain]
    exact List.length_map _
  have numbers : l.loans.map (·.1) = told.loans.map (·.1) := by
    rw [← plain]
    exact List.map_map
  refine ⟨total, by omega, ⟨by omega, numbers ▸ (kept history).numbers⟩, fun loan next ended => ?_,
    ⟨plain, total ▸ (kept history).places⟩, ?_, ?_, ?_⟩
  · exact inUse_endLoan? (by omega) ended
  · simp only [same]
    exact plain ▸ greatest
  · obtain ⟨before, _, most⟩ := greatest.1
    rw [total, ← plain]
    exact bound ⟨before, most⟩
  · rw [lend?_eq_none_iff, ← List.length_eq_zero_iff]
    omega

/-- Two members for three who ask. -/
def rivals : List (Action Nat) :=
  [.checkout, .tryCheckout, .tryCheckout, .use 1 (· + 1), .drop 0, .checkout, .drop 1]

theorem rivals_conserved :
    let l := (create 0 2).play rivals
    let told := (numbered 0 2).play (rivals.map Action.numbered)
    (l.pool.idle = [1] ∧ l.loans = [(2, 0)] ∧ told.places = [1, 0]) ∧
      l.pool.idle.length + l.pool.inUse = l.pool.size ∧ told.places.Perm (List.range 2) ∧
      (l.ended 2 0).pool.inUse + 1 = l.pool.inUse ∧ l.pool.peak ≤ l.pool.size := by
  obtain ⟨-, count, -, ends, ⟨-, places⟩, -, peak, -⟩ := members_conserved 0 2 rivals
  exact ⟨by decide, count, places, ends 2 _ rfl, peak⟩

end Lending
end Triage
