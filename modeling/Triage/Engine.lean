import Triage.Digest
import Triage.Entry
import Triage.Predicate.Vocabulary
import Triage.Search.Stream
import Triage.Sql

/-!
The engine of a scan: all rules with one program for all their patterns. Hits are not kept. A
summary counts them by rule and pattern name, and keeps the first few where a condition asks where a
hit lies.
-/

namespace Triage

/-- The patterns of one name in one rule. `keep` is the number of hits that conditions may ask for. -/
structure HitGroup where
  rule : Nat
  ruleId : String
  name : String
  definitions : List PatternDef
  keep : Nat
deriving DecidableEq, Repr

namespace GrepSection

/-- The pattern names that a call is about. -/
def namesOf (g : GrepSection) (c : HitCall) : List String :=
  if c.patterns.isEmpty then g.patterns.keys else c.patterns

/-- How many hits of the first pattern a call asks for. -/
def keepFor (g : GrepSection) (name : String) : Leaf → Nat
  | .call c =>
    if c.function.takesHitIndex && (g.namesOf c).head? == some name then c.hitIndex.getD 0 + 1 else 0
  | .property _ => 0

def keep (g : GrepSection) (name : String) : Nat :=
  (g.condition.leaves.map (g.keepFor name)).foldl max 0

end GrepSection

structure Engine where
  rules : List Rule
  groups : List HitGroup
  owners : List Nat
  program : Search.Program

namespace Engine

def groupsOf (rule : Nat) (r : Rule) : List HitGroup :=
  match r.grep with
  | none => []
  | some g => g.patterns.entries.map fun (name, defs) => ⟨rule, r.id, name, defs, g.keep name⟩

def hitGroups (rules : List Rule) : List HitGroup :=
  rules.zipIdx.flatMap fun (r, i) => groupsOf i r

/-- The group of each pattern, in the order of the program. -/
def ownersOf (groups : List HitGroup) : List Nat :=
  groups.zipIdx.flatMap fun (g, i) => g.definitions.map fun _ => i

def addPattern (p : Search.Program) (d : PatternDef) : Except PatternError Search.Program :=
  p.add p.size d

/-- The engine of a list of rules, unless one of their patterns does not compile. -/
def ofRules (rules : List Rule) : Except PatternError Engine := do
  let groups := hitGroups rules
  let program ← (groups.flatMap (·.definitions)).foldlM addPattern {}
  return ⟨rules, groups, ownersOf groups, program⟩

/-- The group that a pattern of the program belongs to. -/
def owner? (e : Engine) (pattern : Nat) : Option HitGroup := do
  let i ← e.owners[pattern]?
  e.groups[i]?

def statements (e : Engine) : RuleStatements := .ofRules e.rules

end Engine

/-- The hits of one group: how many there are, and the first ones by start and stop. -/
structure HitTally where
  count : Nat := 0
  kept : List Search.Hit := []
deriving DecidableEq, Repr

namespace HitTally

def notAfter (a b : Search.Hit) : Bool :=
  a.start < b.start || (a.start == b.start && a.stop ≤ b.stop)

/-- Puts a hit behind those that do not come after it. -/
def place (h : Search.Hit) : List Search.Hit → List Search.Hit
  | [] => [h]
  | k :: rest => if notAfter k h then k :: place h rest else h :: k :: rest

def add (keep : Nat) (h : Search.Hit) (t : HitTally) : HitTally :=
  ⟨t.count + 1, (place h t.kept).take keep⟩

end HitTally

/-- A file's hits, group by group. -/
structure HitSummary where
  tallies : List HitTally := []
deriving DecidableEq, Repr, Inhabited

namespace HitSummary

def empty (e : Engine) : HitSummary := ⟨e.groups.map fun _ => {}⟩

def total (s : HitSummary) : Nat := (s.tallies.map (·.count)).foldr (· + ·) 0

def retained (s : HitSummary) : Nat := (s.tallies.map (·.kept.length)).foldr (· + ·) 0

def record (e : Engine) (s : HitSummary) (h : Search.Hit) : HitSummary :=
  match e.owners[h.pattern]? with
  | none => s
  | some i =>
    match e.groups[i]? with
    | none => s
    | some g => ⟨s.tallies.modify i (HitTally.add g.keep h)⟩

def ofHits (e : Engine) (hits : List Search.Hit) : HitSummary := hits.foldl (record e) (empty e)

/-- The tally of a pattern name in a rule. -/
def find? (e : Engine) (s : HitSummary) (rule : Nat) (name : String) : Option HitTally := do
  let i ← e.groups.findIdx? fun g => g.rule == rule && g.name == name
  s.tallies[i]?

end HitSummary

/-- What is known of a file when rules are evaluated. A file without content has neither digests nor
hits. -/
structure FileFacts where
  dirent : Dirent
  inode : Inode
  hashes : Option FileHashes := none
  hits : Option HitSummary := none

namespace FileFacts

/-- The text of a property that is compared as text, if the file has it. -/
def text? (d : Dirent) (n : Inode) : Property → Option String
  | .created => n.created.map Timestamp.text
  | .modified => n.modified.map Timestamp.text
  | .filename => some d.name
  | .filepath => some d.path
  | .signatureName => n.signature.map (·.name)
  | .signatureId => n.signature.map (·.id)
  | .filesize => none

/-- Whether a comparison holds. One with a missing property, or with a value of the wrong kind, does
not. -/
def comparisonHolds (d : Dirent) (n : Inode) (c : Comparison) : Bool :=
  match c.property, c.value with
  | .filesize, .number expected => c.op.compare n.size expected
  | .filesize, .text _ => false
  | p, .text expected => (text? d n p).any fun actual => c.op.compare actual expected
  | _, .number _ => false

def propertiesHold (d : Dirent) (n : Inode) (p : Predicate) : Bool :=
  p.eval fun
    | .property c => comparisonHolds d n c
    | .call _ => false

end FileFacts

/-- What the functions of a condition are computed from: the number of hits of a name, and its hits
in order as far as they are kept. -/
structure HitView where
  count : String → Nat
  nth? : String → Nat → Option Search.Hit

namespace HitView

def callHolds (v : HitView) (names : List String) (c : HitCall) : Bool :=
  let compare (n : Nat) : Bool := c.comparison.any fun (op, expected) => op.compare n expected
  let nth? : Option Search.Hit := names.head?.bind fun name => v.nth? name (c.hitIndex.getD 0)
  match c.function with
  | .all => names.all fun n => v.count n > 0
  | .any => names.any fun n => v.count n > 0
  | .count => compare ((names.map v.count).foldr (· + ·) 0)
  | .countHasHits => compare (names.filter fun n => v.count n > 0).length
  | .offset => nth?.any fun h => compare h.start
  | .length => nth?.any fun h => compare h.length

def conditionHolds (v : HitView) (g : GrepSection) : Bool :=
  g.condition.eval fun
    | .call c => v.callHolds (g.namesOf c) c
    | .property _ => false

end HitView

/-- A summary as seen by the condition of a rule. -/
def HitSummary.view (e : Engine) (s : HitSummary) (rule : Nat) : HitView where
  count name := ((s.find? e rule name).map (·.count)).getD 0
  nth? name n := (s.find? e rule name).bind fun t => t.kept[n]?

namespace Engine

/-- Whether every section of a rule holds. -/
def ruleHolds (e : Engine) (facts : FileFacts) (rule : Nat) (r : Rule) : Bool :=
  r.hash.all (fun h => facts.hashes.any h.fits) &&
    r.fileMetadata.all (FileFacts.propertiesHold facts.dirent facts.inode) &&
    r.signature.all (FileFacts.propertiesHold facts.dirent facts.inode) &&
    r.grep.all fun g => facts.hits.any fun s => (s.view e rule).conditionHolds g

/-- The rules that a file matches, in their order. -/
def matching (e : Engine) (facts : FileFacts) : List Rule :=
  (e.rules.zipIdx.filter fun (r, i) => e.ruleHolds facts i r).map (·.1)

end Engine

end Triage
