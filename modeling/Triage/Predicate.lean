/-!
Predicates of rules: trees of comparisons of a file's properties, or of functions of its hits,
joined by `and` and `or`.
-/

namespace Triage

inductive CompareOp
  | eq | ne | lt | le | gt | ge
deriving DecidableEq, Repr

namespace CompareOp

def every : List CompareOp := [eq, ne, lt, le, gt, ge]

def spelling : CompareOp → String
  | eq => "=="
  | ne => "!="
  | lt => "<"
  | le => "<="
  | gt => ">"
  | ge => ">="

def holds : CompareOp → Ordering → Bool
  | eq, o => o == .eq
  | ne, o => o != .eq
  | lt, o => o == .lt
  | le, o => o != .gt
  | gt, o => o == .gt
  | ge, o => o != .lt

def compare {α : Type} [Ord α] (op : CompareOp) (a b : α) : Bool := op.holds (Ord.compare a b)

end CompareOp

inductive Value
  | text (s : String)
  | number (n : Nat)
deriving DecidableEq, Repr

/-- The sections of a rule that compare properties. -/
inductive PropertySection
  | fileMetadata
  | signature
deriving DecidableEq, Repr

inductive Property
  | created | modified | filesize | filename | filepath | signatureName | signatureId
deriving DecidableEq, Repr

def Property.home : Property → PropertySection
  | signatureName | signatureId => .signature
  | _ => .fileMetadata

structure Comparison where
  property : Property
  op : CompareOp
  value : Value
deriving DecidableEq, Repr

/-- What a condition may ask about a file's hits. -/
inductive HitFunction
  | all | any | offset | count | countHasHits | length
deriving DecidableEq, Repr

def HitFunction.name : HitFunction → String
  | all => "all"
  | any => "any"
  | offset => "offset"
  | count => "count"
  | countHasHits => "count_has_hits"
  | length => "length"

/-- A function of the hits of the named patterns, or of all patterns when none is named, with the
number it is compared to. -/
structure HitCall where
  function : HitFunction
  patterns : List String
  hitIndex : Option Nat
  comparison : Option (CompareOp × Nat)
deriving DecidableEq, Repr

inductive Leaf
  | call (c : HitCall)
  | property (c : Comparison)
deriving DecidableEq, Repr

inductive Predicate
  | and (left right : Predicate)
  | or (left right : Predicate)
  | leaf (l : Leaf)
deriving DecidableEq, Repr

namespace Predicate

def eval (holds : Leaf → Bool) : Predicate → Bool
  | and l r => l.eval holds && r.eval holds
  | or l r => l.eval holds || r.eval holds
  | leaf l => holds l

/-- The leaves from left to right. -/
def leaves : Predicate → List Leaf
  | and l r | or l r => l.leaves ++ r.leaves
  | leaf l => [l]

/-- The leaves that decide the value, in order: the right side counts only when the left one leaves
the value open. -/
def asked (holds : Leaf → Bool) : Predicate → List Leaf
  | and l r => l.asked holds ++ if l.eval holds then r.asked holds else []
  | or l r => l.asked holds ++ if l.eval holds then [] else r.asked holds
  | leaf l => [l]

def depth : Predicate → Nat
  | and l r | or l r => 1 + max l.depth r.depth
  | leaf _ => 1

end Predicate

end Triage
