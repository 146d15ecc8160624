/-!
Finite maps as association lists in increasing order of their keys.
-/

namespace Triage

structure SortedMap (κ : Type) (α : Type) where
  entries : List (κ × α) := []
deriving DecidableEq, Repr

namespace SortedMap

variable {κ α β : Type}

def empty : SortedMap κ α := ⟨[]⟩

def isEmpty (m : SortedMap κ α) : Bool := m.entries.isEmpty

def keys (m : SortedMap κ α) : List κ := m.entries.map (·.1)

def values (m : SortedMap κ α) : List α := m.entries.map (·.2)

def find? [BEq κ] (m : SortedMap κ α) (key : κ) : Option α := m.entries.lookup key

def contains [BEq κ] (m : SortedMap κ α) (key : κ) : Bool := (m.find? key).isSome

def insertEntry [LT κ] [DecidableLT κ] (key : κ) (value : α) : List (κ × α) → List (κ × α)
  | [] => [(key, value)]
  | entry :: rest =>
    if key < entry.1 then (key, value) :: entry :: rest
    else if entry.1 < key then entry :: insertEntry key value rest
    else (key, value) :: rest

/-- Adds a value, in place of the one the key had. -/
def insert [LT κ] [DecidableLT κ] (m : SortedMap κ α) (key : κ) (value : α) : SortedMap κ α :=
  ⟨insertEntry key value m.entries⟩

end SortedMap

end Triage
