import Triage.Pattern.Definition
import Triage.Predicate
import Triage.SortedMap

/-!
Rules: what a file has to be for a rule to match it.
-/

namespace Triage

inductive HashAlgorithm
  | md5 | sha1 | sha256 | blake3
deriving DecidableEq, Repr

namespace HashAlgorithm

def every : List HashAlgorithm := [md5, sha1, sha256, blake3]

def name : HashAlgorithm → String
  | md5 => "md5"
  | sha1 => "sha1"
  | sha256 => "sha256"
  | blake3 => "blake3"

end HashAlgorithm

/-- Digests that a file has to have together. -/
structure HashRecord where
  md5 : Option String := none
  sha1 : Option String := none
  sha256 : Option String := none
  blake3 : Option String := none
deriving DecidableEq, Repr

namespace HashRecord

def get? (r : HashRecord) : HashAlgorithm → Option String
  | .md5 => r.md5
  | .sha1 => r.sha1
  | .sha256 => r.sha256
  | .blake3 => r.blake3

def set (r : HashRecord) (digest : String) : HashAlgorithm → HashRecord
  | .md5 => { r with md5 := some digest }
  | .sha1 => { r with sha1 := some digest }
  | .sha256 => { r with sha256 := some digest }
  | .blake3 => { r with blake3 := some digest }

def algorithms (r : HashRecord) : List HashAlgorithm :=
  HashAlgorithm.every.filter fun a => (r.get? a).isSome

end HashRecord

/-- Records of which a file has to fit one. -/
structure HashSection where
  records : List HashRecord
deriving DecidableEq, Repr

def HashSection.algorithms (s : HashSection) : List HashAlgorithm :=
  HashAlgorithm.every.filter fun a => s.records.any fun r => (r.get? a).isSome

/-- Named patterns, each with one definition per encoding, and what their hits have to fulfil. -/
structure GrepSection where
  patterns : SortedMap String (List PatternDef)
  condition : Predicate
deriving DecidableEq, Repr

/-- A rule. It was read from the tokens from `firstToken` up to `lastToken`, exclusive. -/
structure Rule where
  name : String
  id : String
  info : SortedMap String String
  hash : Option HashSection
  fileMetadata : Option Predicate
  signature : Option Predicate
  grep : Option GrepSection
  firstToken : Nat
  lastToken : Nat
deriving DecidableEq, Repr

namespace Rule

/-- Whether the rule matches every file. -/
def isUnconditional (r : Rule) : Bool :=
  r.hash.isNone && r.fileMetadata.isNone && r.signature.isNone && r.grep.isNone

def patternCount (r : Rule) : Nat :=
  match r.grep with
  | none => 0
  | some g => (g.patterns.values.map List.length).foldr (· + ·) 0

end Rule

end Triage
