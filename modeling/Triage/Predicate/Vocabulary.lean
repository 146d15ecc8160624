import Triage.Predicate

/-!
What each property may be compared to and how, and how each hit function is called.
-/

namespace Triage

inductive ValueKind
  | text
  | number
deriving DecidableEq, Repr

def Value.kind : Value → ValueKind
  | .text _ => .text
  | .number _ => .number

namespace Property

def valueKind : Property → ValueKind
  | .filesize => .number
  | _ => .text

/-- Names are equal or not; times and sizes are ordered. -/
def operators : Property → List CompareOp
  | .created | .modified | .filesize => CompareOp.every
  | .filename | .filepath | .signatureName | .signatureId => [.eq, .ne]

def allows (p : Property) (op : CompareOp) : Bool := p.operators.contains op

end Property

namespace PropertySection

/-- The properties of a section under the names that rules use. -/
def properties : PropertySection → List (String × Property)
  | .fileMetadata =>
    [("created", .created), ("modified", .modified), ("filesize", .filesize),
      ("filename", .filename), ("filepath", .filepath)]
  | .signature => [("name", .signatureName), ("id", .signatureId)]

def named? (s : PropertySection) (name : String) : Option Property := s.properties.lookup name

end PropertySection

/-- Whether a comparison is one that rules may make in a section. -/
def Comparison.allowedIn (s : PropertySection) (c : Comparison) : Bool :=
  c.property.home = s && c.property.allows c.op && c.value.kind = c.property.valueKind

namespace HitFunction

def leastArguments : HitFunction → Nat
  | .all | .any | .countHasHits => 0
  | .count | .offset | .length => 1

def mostArguments? : HitFunction → Option Nat
  | .all | .any | .countHasHits => none
  | .count | .offset | .length => some 2

def takes (f : HitFunction) (n : Nat) : Bool :=
  f.leastArguments ≤ n && f.mostArguments?.all (n ≤ ·)

/-- Whether a call yields a number, which then has to be compared. -/
def isCompared : HitFunction → Bool
  | .all | .any => false
  | .offset | .length | .count | .countHasHits => true

/-- Whether the second argument is the index of a hit. -/
def takesHitIndex : HitFunction → Bool
  | .offset | .length => true
  | .all | .any | .count | .countHasHits => false

end HitFunction

end Triage
