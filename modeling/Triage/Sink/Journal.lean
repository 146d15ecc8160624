import Triage.Sink

/-!
A sink that records its calls and refuses those it was told to refuse. A refused call leaves nothing
behind but its record.
-/

namespace Triage

inductive SinkCall
  | write (rows : Rows)
  | flush
deriving Repr

/-- The table that a call writes to, none for a flush. -/
def SinkCall.table? : SinkCall → Option Table
  | write rows => some rows.table
  | flush => none

structure JournalEntry where
  call : SinkCall
  accepted : Bool
deriving Repr

/-- `refused` holds the numbers of the calls on each table that fail, counted from zero, and `entries`
the calls so far, the latest first. -/
structure Journal where
  refused : List (Option Table × Nat) := []
  reason : String := "disk full"
  entries : List JournalEntry := []
deriving Repr

namespace Journal

def callsOn (j : Journal) (table : Option Table) : Nat :=
  (j.entries.filter (·.call.table? = table)).length

def call (c : SinkCall) (j : Journal) : Except SinkError Unit × Journal :=
  let accepted := !j.refused.contains (c.table?, j.callsOn c.table?)
  (if accepted then .ok () else .error (.io j.reason),
    { j with entries := ⟨c, accepted⟩ :: j.entries })

end Journal

instance : Sink Journal where
  write rows := Journal.call (.write rows)
  flush := Journal.call .flush

end Triage
