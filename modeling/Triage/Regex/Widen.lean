import Triage.Regex.Expr
import Triage.Text.Utf16

/-!
Expressions over UTF-16: every character becomes its code units in one byte order. Classes keep
their members in the basic plane only.
-/

namespace Triage.Regex

inductive WidenError
  | rawBytes
deriving DecidableEq, Repr

/-- The ranges cut at multiples of 256, so that one high byte serves each. -/
def rows (last : Nat) : Nat → Nat → List (Nat × Nat)
  | 0, _ => []
  | fuel + 1, first =>
    if last < first then []
    else
      let stop := min last (first / 256 * 256 + 255)
      (first, stop) :: rows last fuel (stop + 1)

/-- A row of code units: a class over the low byte beside the high byte. -/
def rowExpr (order : Utf16.Order) (row : Nat × Nat) : Expr :=
  let low := Expr.ofByteSet (RangeSet.ofList [(row.1 % 256, row.2 % 256)])
  let high := Expr.literal [(row.1 / 256).toUInt8]
  match order with
  | .little => Expr.concat [low, high]
  | .big => Expr.concat [high, low]

def widenSet (order : Utf16.Order) (set : RangeSet) : Expr :=
  let basic := CharSet.inter set (CharSet.span 0 0xFFFF)
  Expr.alternation ((basic.ranges.flatMap fun r => rows r.2 256 r.1).map (rowExpr order))

namespace Expr

/-- The widened branches of an expression that is not a concatenation, or its widened factors. -/
def widenParts (order : Utf16.Order) : Expr → Except WidenError (List Expr)
  | .empty => .ok [.empty]
  | .literal bytes =>
    match Utf8.decode? bytes with
    | some text => .ok [.literal (Utf16.encode order text)]
    | none => .error .rawBytes
  | .byteClass set => .ok [widenSet order set]
  | .charClass set => .ok [widenSet order set]
  | .look l => .ok [.look l]
  | .repetition least most greedy body => do
    return [repeated least most greedy (gather body (← body.widenParts order))]
  | .group _ body => do
    return [gather body (← body.widenParts order)]
  | .seq a b => do
    let a' := gather a (← a.widenParts order)
    match b with
    | .seq _ _ => return a' :: (← b.widenParts order)
    | _ => return [a', gather b (← b.widenParts order)]
  | .alt a b => do
    let a' := gather a (← a.widenParts order)
    match b with
    | .alt _ _ => return a' :: (← b.widenParts order)
    | _ => return [a', gather b (← b.widenParts order)]
where
  /-- The expression whose parts have been widened. -/
  gather (e : Expr) (parts : List Expr) : Expr :=
    match e with
    | .seq _ _ => concat parts
    | .alt _ _ => alternation parts
    | _ => concat parts

/-- The expression over UTF-16 code units. -/
def widen (order : Utf16.Order) (e : Expr) : Except WidenError Expr := do
  return widenParts.gather e (← e.widenParts order)

end Expr

end Triage.Regex
