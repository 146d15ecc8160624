import Triage.Pool

/-!
A pool whose members are lent out under numbers. A member is idle or on loan, and goes back when its
loan ends.
-/

namespace Triage

/-- `loans` holds the members that are out, and `next` is the number of the next loan. -/
structure Lending (α : Type) where
  pool : Pool α
  loans : List (Nat × α) := []
  next : Nat := 0
deriving DecidableEq, Repr

namespace Lending

variable {α β : Type}

/-- Lends a member, unless all are out. -/
def lend? (l : Lending α) : Option (Nat × Lending α) :=
  l.pool.take?.map fun (a, pool) => (l.next, ⟨pool, (l.next, a) :: l.loans, l.next + 1⟩)

/-- Ends a loan, if it is one that runs. -/
def endLoan? (l : Lending α) (loan : Nat) : Option (Lending α) :=
  (l.loans.lookup loan).map fun a =>
    { l with pool := l.pool.put a, loans := l.loans.filter (·.1 != loan) }

/-- Has a member on loan do something. -/
def use? (l : Lending α) (loan : Nat) (f : α → β × α) : Option (β × Lending α) :=
  (l.loans.lookup loan).map fun a =>
    let (b, a) := f a
    (b, { l with loans := l.loans.map fun held => if held.1 = loan then (loan, a) else held })

end Lending

end Triage
