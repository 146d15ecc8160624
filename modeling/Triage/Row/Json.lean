import Triage.Row
import Triage.Text.Json

/-!
Rows as JSON objects.
-/

namespace Triage

def optional {α : Type} (f : α → JsonValue) : Option α → JsonValue
  | none => .null
  | some a => f a

def Dirent.json (d : Dirent) : JsonValue :=
  .object [("path", .text d.path), ("name", .text d.name), ("meta_addr", .number d.address),
    ("kind", .text d.kind.name)]

def FileSignature.json (s : FileSignature) : JsonValue :=
  .object [("name", .text s.name), ("id", .text s.id)]

def Timestamp.json (t : Timestamp) : JsonValue := .text t.rowText

/-- A signature is left out when there is none. -/
def Inode.json (n : Inode) : JsonValue :=
  .object ([("addr", .number n.address), ("filesize", .number n.size),
    ("created", optional Timestamp.json n.created),
    ("modified", optional Timestamp.json n.modified)] ++
    n.signature.toList.map fun s => ("signature", s.json))

def HashRow.json (r : HashRow) : JsonValue :=
  .object [("MetaAddr", .number r.address), ("MD5", .text r.hashes.md5),
    ("SHA1", .text r.hashes.sha1), ("SHA256", .text r.hashes.sha256),
    ("Blake3", .text r.hashes.blake3), ("Ssdeep", .text r.hashes.fuzzy),
    ("Entropy", .real (Binary.ofBits r.hashes.entropy.toBits))]

def HitRow.json (r : HitRow) : JsonValue :=
  .object [("pattern", .text r.pattern), ("start_offset", .number r.start),
    ("end_offset", .number r.stop), ("rule_id", .text r.ruleId), ("file_hash", .text r.fileHash),
    ("length", .number r.length)]

def MatchRow.json (r : MatchRow) : JsonValue :=
  .object [("id", .text r.id), ("path", .text r.path), ("name", .text r.name),
    ("addr", .number r.address)]

def RuleRow.json (r : RuleRow) : JsonValue :=
  .object [("id", .text r.id), ("name", .text r.name)]

def RuleStatements.json (s : RuleStatements) : JsonValue :=
  .object [("create_tables", .list (s.createTables.map .text)),
    ("insert_rules", optional .text s.insertRules),
    ("insert_rule_matches", optional .text s.insertRuleMatches)]

/-- The rows under the names of their tables. Statements are a table of their own. -/
def Rows.tagged : Rows → List (String × JsonValue)
  | .dirents rows => rows.map fun r => ("dirent", r.json)
  | .inodes rows => rows.map fun r => ("inode", r.json)
  | .hashes rows => rows.map fun r => ("hash", r.json)
  | .searchHits rows => rows.map fun r => ("search_hits", r.json)
  | .ruleMatches rows => rows.map fun r => ("rule_matches", r.json)
  | .rules rows s => (rows.map fun r => ("rules", r.json)) ++ [("rule_sql", s.json)]

/-- Each row as an object that names its table. -/
def Rows.lines (rows : Rows) : List JsonValue :=
  rows.tagged.map fun (table, row) => .object [("table", .text table), ("row", row)]

end Triage
