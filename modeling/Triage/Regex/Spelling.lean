import Triage.Regex.Expr

/-!
The text of an expression, read back: an expression is searched for as its text spells it. The text
sets groups around concatenations, alternations and captures, but not around what a repetition
repeats, so the signs of nested repetitions stand in a row, innermost first. A question mark that
follows a sign belongs to it and makes it lazy; only where none is left to mark is it a sign itself.
-/

namespace Triage.Regex

/-- A sign behind an expression: a question mark, or any other count. -/
inductive RepeatSign
  | question
  | count (least : Nat) (most : Option Nat)
deriving DecidableEq, Repr

structure Repeat where
  least : Nat
  most : Option Nat
  greedy : Bool
deriving DecidableEq, Repr

namespace Repeat

/-- An exact count has no lazy form, so it is written alone. -/
def signs (r : Repeat) : List RepeatSign :=
  let sign := if r.least = 0 ∧ r.most = some 1 then .question else .count r.least r.most
  if r.greedy ∨ r.most = some r.least then [sign] else [sign, .question]

/-- The repetitions that a row of signs spells. -/
def ofSigns : List RepeatSign → List Repeat
  | .question :: .question :: rest => ⟨0, some 1, false⟩ :: ofSigns rest
  | .question :: rest => ⟨0, some 1, true⟩ :: ofSigns rest
  | .count least most :: .question :: rest => ⟨least, most, false⟩ :: ofSigns rest
  | .count least most :: rest => ⟨least, most, true⟩ :: ofSigns rest
  | [] => []

def apply (body : Expr) (r : Repeat) : Expr := Expr.repeated r.least r.most r.greedy body

end Repeat

namespace Expr

/-- The branches of the expression as it is read back with the signs behind it. An expression with
signs behind it is a single branch. -/
def respelledBranches (signs : List RepeatSign) : Expr → List Expr
  | .repetition least most greedy body =>
    body.respelledBranches ((Repeat.mk least most greedy).signs ++ signs)
  | .group index body => close [.group index (alternation (body.respelledBranches []))]
  | .seq a b =>
    close [concat [alternation (a.respelledBranches []), alternation (b.respelledBranches [])]]
  | .alt a b => close (a.respelledBranches [] ++ b.respelledBranches [])
  | e => close [e]
where
  close (branches : List Expr) : List Expr :=
    if signs.isEmpty then branches
    else [(Repeat.ofSigns signs).foldl Repeat.apply (alternation branches)]

/-- The expression that the text of an expression spells. -/
def respelled (e : Expr) : Expr := alternation (e.respelledBranches [])

/-- Levels of nesting in the text of a literal. Bytes that are not UTF-8 stand in groups. -/
def literalDepth (bytes : List UInt8) : Nat :=
  match Utf8.decode? bytes with
  | some text => if text.length ≤ 1 then 0 else 2
  | none => if bytes.length ≤ 1 then 1 else 3

/-- How many members a class is written with: neighbours are written singly, without a hyphen. -/
def memberCount (set : RangeSet) : Nat :=
  (set.ranges.map fun (first, last) => if last = first + 1 then 2 else 1).foldr (· + ·) 0

def classDepth (set : RangeSet) : Nat := if memberCount set = 1 then 1 else 2

/-- Levels of nesting in the text of the expression with signs behind it. All parts of a
concatenation, or of an alternation, stand in one group. -/
def depthBefore (signs : List RepeatSign) : Expr → Nat
  | .empty => close 1
  | .literal bytes => close (literalDepth bytes)
  | .byteClass set => close (if set.isEmpty then 2 else classDepth set + 1)
  | .charClass set => close (classDepth set)
  | .look (.word false _) => close 1
  | .look _ => close 0
  | .repetition least most greedy body =>
    body.depthBefore ((Repeat.mk least most greedy).signs ++ signs)
  | .group _ body => close (body.depthBefore [] + 1)
  | .seq a b =>
    let rest := b.depthBefore []
    close (max (a.depthBefore [] + 2) (match b with | .seq _ _ => rest | _ => rest + 2))
  | .alt a b =>
    let rest := b.depthBefore []
    close (max (a.depthBefore [] + 2) (match b with | .alt _ _ => rest | _ => rest + 2))
where
  close (depth : Nat) : Nat := depth + (Repeat.ofSigns signs).length

/-- Levels of nesting in the text of the expression. -/
def spelledDepth (e : Expr) : Nat := e.depthBefore []

end Expr

end Triage.Regex
