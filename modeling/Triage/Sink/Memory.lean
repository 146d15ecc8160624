import Triage.Sink

/-!
A sink that keeps all rows.
-/

namespace Triage

/-- The tables of a scan in the order in which their rows came. Of the statements the last ones are
kept. -/
structure MemoryTables where
  dirents : List Dirent := []
  inodes : List Inode := []
  hashes : List HashRow := []
  searchHits : List HitRow := []
  ruleMatches : List MatchRow := []
  rules : List RuleRow := []
  statements : RuleStatements := ⟨[], none, none⟩
  flushes : Nat := 0
deriving Repr, Inhabited

namespace MemoryTables

def add (t : MemoryTables) : Rows → MemoryTables
  | .dirents rows => { t with dirents := t.dirents ++ rows }
  | .inodes rows => { t with inodes := t.inodes ++ rows }
  | .hashes rows => { t with hashes := t.hashes ++ rows }
  | .searchHits rows => { t with searchHits := t.searchHits ++ rows }
  | .ruleMatches rows => { t with ruleMatches := t.ruleMatches ++ rows }
  | .rules rows s => { t with rules := t.rules ++ rows, statements := s }

end MemoryTables

instance : Sink MemoryTables where
  write rows t := (.ok (), t.add rows)
  flush t := (.ok (), { t with flushes := t.flushes + 1 })

end Triage
