import Triage.Rule

/-!
Rules as SQL. A predicate on properties becomes a condition on the columns that hold them; hit
functions have no such form.
-/

namespace Triage

def Property.column : Property → String
  | .created => "Created"
  | .modified => "Modified"
  | .filesize => "Filesize"
  | .filename => "Name"
  | .filepath => "Path"
  | .signatureName => "signature.Name"
  | .signatureId => "signature.Id"

namespace Sql

/-- A quote inside a text is written twice. -/
def doubleQuotes : List Char → List Char
  | [] => []
  | c :: rest => if c = '\'' then '\'' :: '\'' :: doubleQuotes rest else c :: doubleQuotes rest

def literal : Value → String
  | .text s => "'" ++ String.ofList (doubleQuotes s.toList) ++ "'"
  | .number n => toString n

def comparison (c : Comparison) : String :=
  c.property.column ++ " " ++ c.op.spelling ++ " " ++ literal c.value

/-- A predicate as a condition, with parentheses around every `AND` and `OR`. -/
def clause? : Predicate → Option String
  | .and l r => return "(" ++ (← clause? l) ++ " AND " ++ (← clause? r) ++ ")"
  | .or l r => return "(" ++ (← clause? l) ++ " OR " ++ (← clause? r) ++ ")"
  | .leaf (.property c) => some (comparison c)
  | .leaf (.call _) => none

def createRules : String := "CREATE TABLE rules (id VARCHAR, name VARCHAR);"

def createRuleMatches : String :=
  "CREATE TABLE rule_matches (id VARCHAR, path VARCHAR, name VARCHAR, addr UBIGINT);"

/-- Conditions to be added to a query, each after `AND`. -/
def conditions? : List Predicate → Option String
  | [] => some ""
  | p :: rest => return " AND " ++ (← clause? p) ++ (← conditions? rest)

/-- The query for the files whose properties fit a rule. -/
def query? (r : Rule) : Option String := do
  let conditions ← conditions? (r.fileMetadata.toList ++ r.signature.toList)
  let (table, link) :=
    if r.signature.isSome then (", signature", " AND signature.MetaAddr == inode.Addr") else ("", "")
  return "SELECT '" ++ r.id ++ "', Path, Name, Addr FROM dirent, inode" ++ table ++
    " WHERE dirent.Metaaddr == inode.Addr" ++ link ++ conditions

def insertRules? (rules : List Rule) : Option String :=
  if rules.isEmpty then none
  else
    let rows := rules.map fun r => "('" ++ r.id ++ "', '" ++ r.name ++ "')"
    some ("INSERT INTO rules VALUES " ++ ",".intercalate rows ++ ";")

/-- One query for all rules, unless a rule has none. -/
def insertRuleMatches? (rules : List Rule) : Option String := do
  if rules.isEmpty then failure
  let queries ← rules.mapM query?
  return "INSERT INTO rule_matches " ++
    " UNION ".intercalate (queries.map fun q => "(" ++ q ++ ")") ++ ";"

end Sql

/-- The statements that make and fill the tables of rules and of their matches. -/
structure RuleStatements where
  createTables : List String
  insertRules : Option String
  insertRuleMatches : Option String
deriving DecidableEq, Repr

def RuleStatements.ofRules (rules : List Rule) : RuleStatements where
  createTables := [Sql.createRules, Sql.createRuleMatches]
  insertRules := Sql.insertRules? rules
  insertRuleMatches := Sql.insertRuleMatches? rules

end Triage
