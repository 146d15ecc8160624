/-!
Pools of a fixed size: members are taken out for use and come back after it.
-/

namespace Triage

/-- The members that are idle, the next one to be taken first. `inUse` counts the members taken and
`peak` is the largest number that was in use at once. -/
structure Pool (α : Type) where
  size : Nat
  idle : List α
  inUse : Nat := 0
  peak : Nat := 0
deriving DecidableEq, Repr

namespace Pool

variable {α : Type}

/-- A pool of as many equal members, but at least one. -/
def create (member : α) (size : Nat) : Pool α :=
  { size := max size 1, idle := List.replicate (max size 1) member }

/-- Takes a member out, unless all are in use. -/
def take? (p : Pool α) : Option (α × Pool α) :=
  match p.idle with
  | [] => none
  | a :: rest =>
    some (a, { p with idle := rest, inUse := p.inUse + 1, peak := max p.peak (p.inUse + 1) })

/-- Puts a member back. It is the next one to be taken. -/
def put (p : Pool α) (a : α) : Pool α := { p with idle := a :: p.idle, inUse := p.inUse - 1 }

end Pool

end Triage
