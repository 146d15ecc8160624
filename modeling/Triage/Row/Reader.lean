import Triage.Row.Json

/-!
Rows read back from the JSON objects that are written for them. Fields may come in any order.
-/

namespace Triage

namespace JsonValue

/-- A field of an object; one that is missing counts as null. -/
def field (v : JsonValue) (name : String) : JsonValue :=
  match v with
  | object fields => (fields.lookup name).getD null
  | _ => null

def text? : JsonValue → Option String
  | text s => some s
  | _ => none

def number? : JsonValue → Option Nat
  | number n => some n
  | _ => none

def real? : JsonValue → Option Binary
  | real b => some b
  | number n => some ⟨false, n, 0⟩
  | _ => none

def list? : JsonValue → Option (List JsonValue)
  | list items => some items
  | _ => none

/-- Reads a value that may be null. -/
def optional? {α : Type} (read : JsonValue → Option α) : JsonValue → Option (Option α)
  | null => some none
  | v => some <$> read v

end JsonValue

def EntryKind.named? (name : String) : Option EntryKind :=
  [file, directory, symlink, other].find? (·.name == name)

def Dirent.ofJson? (v : JsonValue) : Option Dirent := do
  return ⟨← (v.field "path").text?, ← (v.field "name").text?, ← (v.field "meta_addr").number?,
    ← EntryKind.named? (← (v.field "kind").text?)⟩

def FileSignature.ofJson? (v : JsonValue) : Option FileSignature := do
  return ⟨← (v.field "name").text?, ← (v.field "id").text?⟩

def Timestamp.ofJson? (v : JsonValue) : Option Timestamp := do ofRowText? (← v.text?)

def Inode.ofJson? (v : JsonValue) : Option Inode := do
  return ⟨← (v.field "addr").number?, ← (v.field "filesize").number?,
    ← (v.field "created").optional? Timestamp.ofJson?,
    ← (v.field "modified").optional? Timestamp.ofJson?,
    ← (v.field "signature").optional? FileSignature.ofJson?⟩

def HashRow.ofJson? (v : JsonValue) : Option HashRow := do
  let hashes : FileHashes :=
    { md5 := ← (v.field "MD5").text?, sha1 := ← (v.field "SHA1").text?
      sha256 := ← (v.field "SHA256").text?, blake3 := ← (v.field "Blake3").text?
      fuzzy := ← (v.field "Ssdeep").text?, entropy := (← (v.field "Entropy").real?).toFloat }
  return ⟨← (v.field "MetaAddr").number?, hashes⟩

def HitRow.ofJson? (v : JsonValue) : Option HitRow := do
  return ⟨← (v.field "pattern").text?, ← (v.field "start_offset").number?,
    ← (v.field "end_offset").number?, ← (v.field "rule_id").text?, ← (v.field "file_hash").text?,
    ← (v.field "length").number?⟩

def MatchRow.ofJson? (v : JsonValue) : Option MatchRow := do
  return ⟨← (v.field "id").text?, ← (v.field "path").text?, ← (v.field "name").text?,
    ← (v.field "addr").number?⟩

def RuleRow.ofJson? (v : JsonValue) : Option RuleRow := do
  return ⟨← (v.field "id").text?, ← (v.field "name").text?⟩

def RuleStatements.ofJson? (v : JsonValue) : Option RuleStatements := do
  let created ← (v.field "create_tables").optional? JsonValue.list?
  return ⟨← (created.getD []).mapM (·.text?), ← (v.field "insert_rules").optional? (·.text?),
    ← (v.field "insert_rule_matches").optional? (·.text?)⟩

/-- Rows of one table. The statements belong to the rows of rules only. -/
def Rows.ofJson? (table : Table) (rows : List JsonValue) (statements : JsonValue) : Option Rows :=
  match table with
  | .dirents => .dirents <$> rows.mapM Dirent.ofJson?
  | .inodes => .inodes <$> rows.mapM Inode.ofJson?
  | .hashes => .hashes <$> rows.mapM HashRow.ofJson?
  | .searchHits => .searchHits <$> rows.mapM HitRow.ofJson?
  | .ruleMatches => .ruleMatches <$> rows.mapM MatchRow.ofJson?
  | .rules => do return .rules (← rows.mapM RuleRow.ofJson?) (← RuleStatements.ofJson? statements)

end Triage
