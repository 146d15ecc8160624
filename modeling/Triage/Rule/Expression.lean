import Triage.Predicate.Vocabulary
import Triage.Rule.Reader

/-!
Reading predicates. `and` binds closer than `or`, both lean to the left, and parentheses may be
nested up to a limit.
-/

namespace Triage

/-- How deep parentheses may be nested. -/
def nestingLimit : Nat := 50

/-- Numbers are below this bound. -/
def numberBound : Nat := 0x10000000000000000

def CompareOp.ofToken? : TokenKind → Option CompareOp
  | .equalEqual => some .eq
  | .notEqual => some .ne
  | .less => some .lt
  | .lessEqual => some .le
  | .greater => some .gt
  | .greaterEqual => some .ge
  | _ => none

def HitFunction.ofToken? : TokenKind → Option HitFunction
  | .keyword .all => some .all
  | .keyword .any => some .any
  | .keyword .offset => some .offset
  | .keyword .count => some .count
  | .keyword .countHasHits => some .countHasHits
  | .keyword .length => some .length
  | _ => none

/-- The number that digits spell, if it is in range. -/
def number? (text : String) : Option Nat :=
  let n := text.toList.foldl (fun n c => 10 * n + (c.toNat - 48)) 0
  if n < numberBound then some n else none

namespace Reader

def operator : Reader CompareOp := do
  let t ← peek
  match CompareOp.ofToken? t.kind with
  | some op => do
    discard advance
    return op
  | none => fail (.expected "operator") t.position

def numberOf (t : Token) : Reader Nat :=
  match number? t.text with
  | some n => return n
  | none => fail .numberOutOfRange t.position

def number : Reader Nat := do numberOf (← expect .number "number")

def PropertySection.expectation : PropertySection → String
  | .fileMetadata => "created, modified, filesize, filename, or filepath"
  | .signature => "name or id"

/-- A property, an operator that it allows and a value of its kind. -/
def comparison (s : PropertySection) : Reader Leaf := do
  let name ← peek
  let isName := name.kind = .identifier || name.kind.isKeyword
  let some property := if isName then s.named? name.text else none
    | fail (.expected (PropertySection.expectation s)) name.position
  discard advance
  let position := (← peek).position
  let op ← operator
  if !property.allows op then fail (.operator op name.text) position
  let value ←
    match property.valueKind with
    | .text => do pure (.text (← expect .string "double quoted string").text)
    | .number => do pure (.number (← number))
  return .property ⟨property, op, value⟩

def arguments : Reader (List Token) := do
  if ← isNext .closeParen then return []
  commaSeparated
    (fun ts => do return ts ++ [← expectAny [.identifier, .number] "identifier or number"]) []

/-- The pattern names and the hit index that the arguments of a function give. -/
def readArguments (f : HitFunction) (declared : List String) :
    Nat → List Token → Reader (List String × Option Nat)
  | _, [] => return ([], none)
  | i, t :: rest => do
    if f.takesHitIndex && i == 1 then
      if t.kind ≠ .number then fail .hitIndex t.position
      let index ← numberOf t
      let (names, _) ← readArguments f declared (i + 1) rest
      return (names, some index)
    else
      if t.kind ≠ .identifier then fail .patternName t.position
      if !declared.contains t.text then fail (.unknownPattern t.text) t.position
      let (names, index) ← readArguments f declared (i + 1) rest
      return (t.text :: names, index)

/-- A call of a hit function. What is wrong with it as a whole comes before what is wrong with its
arguments. -/
def call : Reader Leaf := do
  let name ← peek
  let some f := HitFunction.ofToken? name.kind
    | fail (.expected "function name") name.position
  discard advance
  discard <| expect .openParen "open parenthesis"
  let args ← arguments
  discard <| expect .closeParen "close parenthesis"
  let comparison ←
    if (← peek).kind.isComparison then do pure (some (← operator, ← number)) else pure none
  if !f.takes args.length then fail (.argumentCount f) name.position
  if f.isCompared && comparison.isNone then fail (.comparisonMissing f) (← peek).position
  if !f.isCompared && comparison.isSome then fail (.comparisonUnexpected f) name.position
  let (patterns, hitIndex) ← readArguments f (← get).declared 0 args
  return .call ⟨f, patterns, hitIndex, comparison⟩

/-- Items joined by a keyword, from the left. -/
def joined (k : Keyword) (join : Predicate → Predicate → Predicate) (item : Reader Predicate) :
    Reader Predicate := do
  repeatStep
    (fun left => do if ← accept (.keyword k) then return some (join left (← item)) else return none)
    (← item)

/-- Runs a reader one level deeper, and comes back up also when it fails. -/
def nested {α : Type} (r : Reader α) : Reader α := fun s =>
  let (result, s) := r.run { s with nesting := s.nesting + 1 }
  (result, { s with nesting := s.nesting - 1 })

def factor (leaf : Reader Leaf) (inner : Reader Predicate) : Reader Predicate := do
  match ← accept? .openParen with
  | some paren => do
    if nestingLimit ≤ (← get).nesting then fail .nestedTooDeeply paren.position
    let p ← nested inner
    discard <| expect .closeParen "close parenthesis"
    return p
  | none => .leaf <$> leaf

/-- A predicate with as many levels of parentheses as are left. -/
def predicateWithin (leaf : Reader Leaf) : Nat → Reader Predicate
  | 0 => do fail .nestedTooDeeply (← peek).position
  | levels + 1 =>
    joined .or .or (joined .and .and (factor leaf (predicateWithin leaf levels)))

def predicate (leaf : Reader Leaf) : Reader Predicate := predicateWithin leaf (nestingLimit + 1)

end Reader

end Triage
