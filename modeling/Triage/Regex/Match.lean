import Triage.Regex.Expr

/-!
Leftmost-first matching. A match starts as far left as any does; among those with one start the
preferred one wins: earlier branches before later ones, more repetitions before fewer when greedy.
The subject is read one byte at a time. What remains to be matched is a thread, and the steps that a
thread can take are in order of preference: the first that leads to a finish tells where the match
ends.
-/

namespace Triage.Regex

def isWordByte (b : UInt8) : Bool :=
  (48 ≤ b && b ≤ 57) || (65 ≤ b && b ≤ 90) || b == 95 || (97 ≤ b && b ≤ 122)

def WordEdge.holds (edge : WordEdge) (before after : Bool) : Bool :=
  match edge with
  | .boundary => before != after
  | .inside => before == after
  | .start => !before && after
  | .finish => before && !after
  | .startHalf => !before
  | .finishHalf => !after

/-- Edges that also ask for readable text where they look, so that they never split a character. -/
def WordEdge.readable (edge : WordEdge) (before after : Bool) : Bool :=
  match edge with
  | .inside => before && after
  | .startHalf => before
  | .finishHalf => after
  | _ => true

/-- Whether a condition holds between the bytes behind, last first, and the bytes ahead. -/
def Look.holds (behind ahead : List UInt8) : Look → Bool
  | .textStart => behind.isEmpty
  | .textEnd => ahead.isEmpty
  | .lineStart false => behind.head?.all (· == 10)
  | .lineEnd false => ahead.head?.all (· == 10)
  | .lineStart true =>
    behind.head?.all fun b => b == 10 || (b == 13 && ahead.head? != some 10)
  | .lineEnd true =>
    ahead.head?.all fun b => b == 13 || (b == 10 && behind.head? != some 13)
  | .word false edge => edge.holds (behind.head?.any isWordByte) (ahead.head?.any isWordByte)
  | .word true edge =>
    let before := Utf8.last? behind
    let after := (Utf8.first? ahead).map (·.1)
    edge.readable (behind.isEmpty || before.isSome) (ahead.isEmpty || after.isSome) &&
      edge.holds (before.any Unicode.word.contains) (after.any Unicode.word.contains)

/-- What the next byte has to be. -/
inductive Demand
  | byte (set : RangeSet)
  | char (set : CharSet)
  | charRest (seen : Utf8.Partial) (set : CharSet)
deriving DecidableEq, Repr

/-- A part of what remains to be matched. `again` stands behind one round of a repetition and tries
further rounds, which have to consume something. -/
inductive Item
  | expr (e : Expr)
  | again (body : Expr) (greedy : Bool)
  | charRest (seen : Utf8.Partial) (set : CharSet)
deriving DecidableEq, Repr

abbrev Thread := List Item

/-- What a thread can do without reading: finish, or read a byte and continue. -/
inductive Next
  | finished
  | take (demand : Demand) (rest : Thread)
deriving DecidableEq, Repr

def Utf8.Progress.within (set : CharSet) : Utf8.Progress → Option Thread
  | .refused => none
  | .more p => some [.charRest p set]
  | .complete code => if set.contains code then some [] else none

/-- What is left of a demand after a byte, if the byte meets it. -/
def Demand.meet? (b : UInt8) : Demand → Option Thread
  | .byte set => if set.contains b.toNat then some [] else none
  | .char set => Utf8.Progress.within set (Utf8.opening b)
  | .charRest seen set => Utf8.Progress.within set (seen.next b)

namespace Next

/-- Continues past the finish with `more`, and past every byte with `rest`. -/
def andThen (nexts : List Next) (more : Unit → List Next) (rest : Thread) : List Next :=
  nexts.flatMap fun
    | .finished => more ()
    | .take demand own => [.take demand (own ++ rest)]

/-- The steps in order of preference with stopping added: last when greedy, first when lazy. -/
def orStop (greedy : Bool) (nexts : List Next) : List Next :=
  if greedy then nexts ++ [.finished] else .finished :: nexts

end Next

/-- The item that an expression is where it has not begun. A loop that consumes something in each
round begins where it begins again. -/
def Item.ofExpr : Expr → Item
  | .repetition 0 none greedy body =>
    if body.shortest?.any (0 < ·) then .again body greedy
    else .expr (.repetition 0 none greedy body)
  | e => .expr e

/-! ## Rounds

A further round of a loop starts at a place where the round before may still have items open, which
have finished without consuming but are not used up. A way through the new round that comes to one of
them adds nothing, as its steps are taken in their turn. The open items are given from the one next
to the loop on. -/

/-- Whether the item is the next that is open. -/
def Item.isOpen (item : Item) (opened : Thread) : Bool := opened.head? = some item

/-- What is open in front of the item. -/
def Item.openIn (item : Item) (opened : Thread) : Thread :=
  if item.isOpen opened then opened.drop 1 else []

namespace Next

/-- The steps into a round that is followed by an item, and those behind it. -/
def round (body : Thread → List Next) (opened : Thread) (item : Item) (behind : Unit → List Next) :
    List Next :=
  andThen (body (item.openIn opened)) (fun _ => if item.isOpen opened then [] else behind ()) [item]

end Next

/-- A repetition whose rounds `round` gives, each by the item that follows and the steps behind it. -/
structure Rounds where
  round : Item → (Unit → List Next) → List Next
  body : Expr
  greedy : Bool

namespace Rounds

/-- One round or more. A round that consumed nothing is the last. -/
def oneOrMore (r : Rounds) : List Next := r.round (.again r.body r.greedy) fun _ => [.finished]

def atLeast (r : Rounds) : Nat → List Next
  | 0 => Next.orStop r.greedy r.oneOrMore
  | 1 => r.oneOrMore
  | n + 2 =>
    r.round (.expr (.repetition (n + 1) none r.greedy r.body)) fun _ => r.atLeast (n + 1)

def atMost (r : Rounds) : Nat → List Next
  | 0 => [.finished]
  | m + 1 =>
    Next.orStop r.greedy
      (r.round (.expr (.repetition 0 (some m) r.greedy r.body)) fun _ => r.atMost m)

def between (r : Rounds) (most : Nat) : Nat → List Next
  | 0 => r.atMost most
  | n + 1 =>
    r.round (.expr (.repetition n (some (most - 1)) r.greedy r.body)) fun _ =>
      r.between (most - 1) n

end Rounds

/-- The steps open to an expression where `holds` tells which conditions hold. -/
def Expr.nexts (holds : Look → Bool) (opened : Thread) (e : Expr) : List Next :=
  if (Item.ofExpr e).isOpen opened then []
  else
    match e with
    | .empty => [.finished]
    | .literal [] => [.finished]
    | .literal [b] => [.take (.byte (RangeSet.singleton b.toNat)) []]
    | .literal (b :: bytes) =>
      [.take (.byte (RangeSet.singleton b.toNat)) [.expr (.literal bytes)]]
    | .byteClass set => [.take (.byte set) []]
    | .charClass set => [.take (.char set) []]
    | .look l => if holds l then [.finished] else []
    | .repetition least most greedy body =>
      let rounds : Rounds := ⟨Next.round (body.nexts holds) opened, body, greedy⟩
      match most with
      | none => rounds.atLeast least
      | some most => rounds.between most least
    | .group _ body => body.nexts holds opened
    | .seq a b =>
      let item := Item.ofExpr b
      Next.andThen (a.nexts holds (item.openIn opened)) (fun _ => b.nexts holds opened) [item]
    | .alt a b => a.nexts holds opened ++ b.nexts holds opened

/-- The steps of an item; `opened` are the items before it, last first. -/
def Item.nexts (holds : Look → Bool) (opened : Thread) : Item → List Next
  | .expr e => e.nexts holds []
  | .again body greedy =>
    Next.orStop greedy
      (Next.andThen (body.nexts holds opened) (fun _ => []) [.again body greedy])
  | .charRest seen set => [.take (.charRest seen set) []]

def Thread.nextsFrom (holds : Look → Bool) (opened : Thread) : Thread → List Next
  | [] => [.finished]
  | item :: items =>
    Next.andThen (item.nexts holds opened)
      (fun _ => Thread.nextsFrom holds (item :: opened) items) items

def Thread.nexts (holds : Look → Bool) (t : Thread) : List Next := Thread.nextsFrom holds [] t

def Next.isFinished : Next → Bool
  | .finished => true
  | .take _ _ => false

/-- The thread after a byte, unless it ends there. -/
def Next.advance? (b : UInt8) : Next → Option Thread
  | .finished => none
  | .take demand rest => (demand.meet? b).map (· ++ rest)

/-- Where the preferred match ends that a thread leads to. -/
def Thread.stop? (t : Thread) (pos : Nat) (behind : List UInt8) : List UInt8 → Option Nat
  | [] => if (t.nexts (Look.holds behind [])).any Next.isFinished then some pos else none
  | b :: ahead =>
    (t.nexts (Look.holds behind (b :: ahead))).findSome? fun next =>
      if next.isFinished then some pos
      else
        match next.advance? b with
        | some moved => moved.stop? (pos + 1) (b :: behind) ahead
        | none => none

/-- The end of the match that starts at the position, if one does. -/
def Expr.matchEnd? (e : Expr) (pos : Nat) (behind ahead : List UInt8) : Option Nat :=
  Thread.stop? [.expr e] pos behind ahead

/-- The first match that starts at the position or at one of those after it, of which `starts` are
tried in all. -/
def Expr.firstMatch? (e : Expr) : Nat → Nat → List UInt8 → List UInt8 → Option (Nat × Nat)
  | 0, _, _, _ => none
  | starts + 1, pos, behind, ahead =>
    match e.matchEnd? pos behind ahead, ahead with
    | some stop, _ => some (pos, stop)
    | none, [] => none
    | none, b :: ahead => e.firstMatch? starts (pos + 1) (b :: behind) ahead

end Triage.Regex
