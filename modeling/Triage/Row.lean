import Triage.Digest
import Triage.Entry
import Triage.Sql

/-!
The rows that a scan gives out, table by table.
-/

namespace Triage

structure HashRow where
  address : Nat
  hashes : FileHashes
deriving Repr

structure HitRow where
  pattern : String
  start : Nat
  stop : Nat
  ruleId : String
  fileHash : String
  length : Nat
deriving DecidableEq, Repr

structure MatchRow where
  id : String
  path : String
  name : String
  address : Nat
deriving DecidableEq, Repr

structure RuleRow where
  id : String
  name : String
deriving DecidableEq, Repr

inductive Table
  | dirents | inodes | hashes | searchHits | ruleMatches | rules
deriving DecidableEq, Repr

/-- Rows of one table. Rules come with the statements that put them into a database. -/
inductive Rows
  | dirents (rows : List Dirent)
  | inodes (rows : List Inode)
  | hashes (rows : List HashRow)
  | searchHits (rows : List HitRow)
  | ruleMatches (rows : List MatchRow)
  | rules (rows : List RuleRow) (statements : RuleStatements)
deriving Repr

def Rows.table : Rows → Table
  | dirents _ => .dirents
  | inodes _ => .inodes
  | hashes _ => .hashes
  | searchHits _ => .searchHits
  | ruleMatches _ => .ruleMatches
  | rules _ _ => .rules

end Triage
