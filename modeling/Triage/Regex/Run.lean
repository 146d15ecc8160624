import Std.Data.HashSet
import Triage.Regex.Match

/-!
Searching a text for an expression in one run. All threads read the text together, in order of
preference: those of an earlier start before those of a later one. Threads come together, and what
the same thread leads to counts only where it comes first, so each is kept once.
-/

namespace Triage.Regex

/-- A number that tells expressions apart by their outermost parts. -/
def Expr.fingerprint : Nat → Expr → UInt64
  | 0, _ => 0
  | _, .empty => 1
  | _, .literal bytes => hash bytes.length
  | _, .byteClass set | _, .charClass set => hash set.ranges.head?
  | _, .look l => hash l
  | depth + 1, .repetition least most _ body =>
    mixHash (mixHash (hash least) (hash most)) (body.fingerprint depth)
  | depth + 1, .group _ body => body.fingerprint depth
  | depth + 1, .seq a b | depth + 1, .alt a b => mixHash (a.fingerprint depth) (b.fingerprint depth)

def Item.fingerprint : Item → UInt64
  | .expr e => e.fingerprint 3
  | .again body _ => body.fingerprint 3
  | .charRest seen _ => hash seen

/-- Counters of nested repetitions stand in front, so a few items tell most threads apart. -/
instance : Hashable Thread where
  hash t := (t.take 4).foldl (fun h item => mixHash h item.fingerprint) (hash t.length)

/-- The steps of threads in order of preference, each with the start of its thread. -/
def nextsOf (holds : Look → Bool) (threads : List (Nat × Thread)) : List (Nat × Next) :=
  threads.flatMap fun t => (t.2.nexts holds).map ((t.1, ·))

/-- The threads after a byte that are not among those before. -/
def movedFrom (b : UInt8) (seen : Std.HashSet Thread) : List (Nat × Next) → List (Nat × Thread)
  | [] => []
  | (start, next) :: nexts =>
    match next.advance? b with
    | some t =>
      if seen.contains t then movedFrom b seen nexts
      else (start, t) :: movedFrom b (seen.insert t) nexts
    | none => movedFrom b seen nexts

/-- The preferred match among the threads and among those that start from the position on, as long as
there is no match and `starts` have not been tried. `best` is the best match that finished before. -/
def Expr.run (e : Expr) (starts : Nat) (threads : List (Nat × Thread)) (best : Option (Nat × Nat))
    (pos : Nat) (behind : List UInt8) : List UInt8 → Option (Nat × Nat)
  | [] =>
    let threads := threads ++ fresh
    match (nextsOf (Look.holds behind []) threads).find? (·.2.isFinished) with
    | some (start, _) => some (start, pos)
    | none => best
  | b :: ahead =>
    let threads := threads ++ fresh
    let nexts := nextsOf (Look.holds behind (b :: ahead)) threads
    let before := nexts.takeWhile (!·.2.isFinished)
    let best :=
      match nexts.drop before.length with
      | (start, _) :: _ => some (start, pos)
      | [] => best
    let moved := movedFrom b {} before
    if moved.isEmpty && (best.isSome || starts ≤ 1) then best
    else e.run (starts - 1) moved best (pos + 1) (b :: behind) ahead
where
  fresh : List (Nat × Thread) :=
    if best.isNone && starts ≠ 0 then [(pos, [.expr e])] else []

/-- The first match that starts at or after `pos` and before `limit` in a text. -/
def Expr.findBetween? (e : Expr) (text : List UInt8) (pos limit : Nat) : Option (Nat × Nat) :=
  e.run (limit - pos) [] none pos (text.take pos).reverse (text.drop pos)

/-- The first match at or after `pos` in a text. -/
def Expr.findAt? (e : Expr) (text : List UInt8) (pos : Nat) : Option (Nat × Nat) :=
  e.findBetween? text pos (text.length + 1)

def spansFrom (e : Expr) (text : List UInt8) : Nat → Nat → List (Nat × Nat)
  | 0, _ => []
  | fuel + 1, pos =>
    match e.findAt? text pos with
    | some (start, stop) => (start, stop) :: spansFrom e text fuel stop
    | none => []

/-- The matches of one pass over a text, each search starting where the last match ended. -/
def Expr.spans (e : Expr) (text : List UInt8) : List (Nat × Nat) :=
  spansFrom e text text.length 0

end Triage.Regex
