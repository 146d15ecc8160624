import Triage.Regex.Expr

/-!
How large the automaton of an expression is. There are two of them, one that reads forward and
marks where groups begin and end, and one that reads backward and marks nothing. A node takes 32
bytes, a labelled edge 8 bytes and an unlabelled branch 4 bytes; a repetition holds a copy of its
body for each round it counts.
-/

namespace Triage.Regex

inductive Direction
  | forward
  | backward
deriving DecidableEq, Repr

/-- Byte ranges, one for each byte of some characters' encodings. -/
abbrev ByteRow := List (Nat × Nat)

/-- The rows for the numbers from `first` to `last` written as a byte above `mark` and `tail`
continuation bytes. -/
def rowsOf (mark : Nat) : Nat → Nat → Nat → List ByteRow
  | 0, first, last => [[(mark + first, mark + last)]]
  | tail + 1, first, last =>
    let unit := Nat.pow 64 (tail + 1)
    let low := first / unit
    let high := last / unit
    let under := fun lead first last =>
      (rowsOf 0x80 tail first last).map ((mark + lead, mark + lead) :: ·)
    if low = high then under low (first % unit) (last % unit)
    else
      let opening := if first % unit = 0 then [] else under low (first % unit) (unit - 1)
      let closing := if last % unit = unit - 1 then [] else under high 0 (last % unit)
      let low := if opening.isEmpty then low else low + 1
      let high := if closing.isEmpty then high else high - 1
      let middle :=
        if low ≤ high then
          [(mark + low, mark + high) :: List.replicate (tail + 1) (0x80, 0xBF)]
        else []
      opening ++ middle ++ closing

/-- The code points that take one to four bytes, with the mark of the first of them. -/
def widths : List (Nat × Nat × Nat × Nat) :=
  [(0, 0, 0, 0x7F), (0xC0, 1, 0x80, 0x7FF), (0xE0, 2, 0x800, 0xFFFF), (0xF0, 3, 0x10000, 0x10FFFF)]

/-- The rows for the UTF-8 forms of a set's members. -/
def utf8Rows (set : CharSet) : List ByteRow :=
  set.ranges.flatMap fun (first, last) =>
    widths.flatMap fun (mark, tail, low, high) =>
      if max first low ≤ min last high then rowsOf mark tail (max first low) (min last high) else []

/-- Rows by their first range, which is left out. -/
def branchRows (rows : List ByteRow) : List (List ByteRow) :=
  (rows.splitBy fun a b => a.head? == b.head?).map (·.map (·.drop 1))

/-- What is left of the rows at every node of the tree they make, as deep as `depth`. -/
def rowNodes : Nat → List ByteRow → List (List ByteRow)
  | 0, _ => []
  | depth + 1, rows =>
    if rows.all (·.isEmpty) then [] else rows :: (branchRows rows).flatMap (rowNodes depth)

/-- A class read forward shares equal nodes; read backward it is a tree. -/
def charClassBytes (direction : Direction) (set : CharSet) : Nat :=
  if Expr.isAsciiSet set then 64 + 8 * set.ranges.length
  else
    let rows := utf8Rows set
    let nodes := rowNodes 5 rows
    match direction with
    | .forward =>
      32 + (nodes.eraseDups.map fun node => 32 + 8 * (branchRows node).length).foldr (· + ·) 0
    | .backward =>
      64 + 4 * rows.length + (nodes.map fun node => 32 * (branchRows node).length).foldr (· + ·) 0

/-- The words between those that are empty. -/
def splitAtEmpty : List (List UInt8) → List (List (List UInt8))
  | [] => [[]]
  | [] :: words => [] :: splitAtEmpty words
  | word :: words =>
    match splitAtEmpty words with
    | [] => [[word]]
    | first :: others => (word :: first) :: others

def tailsAfter (b : UInt8) (words : List (List UInt8)) : List (List UInt8) :=
  words.filterMap fun word => if word.head? = some b then some (word.drop 1) else none

/-- The size of the tree of words below a node. A word that ends there parts the words before it
from those after it. -/
def wordTreeBytes : Nat → List (List UInt8) → Nat
  | 0, _ => 0
  | depth + 1, words =>
    if words.all (·.isEmpty) then 0
    else
      let chunks := splitAtEmpty words
      let pieces := (chunks.filter (!·.isEmpty)).length + (chunks.length - 1)
      (chunks.map fun chunk =>
        let leads := (chunk.filterMap List.head?).eraseDups
        (leads.map fun b => wordTreeBytes depth (tailsAfter b chunk)).foldr (· + ·) 0 +
          (if leads.isEmpty then 0 else if leads.length = 1 then 32
            else 32 + 8 * leads.length)).foldr (· + ·) 0 +
        (if pieces ≤ 1 then 0 else 32 + 4 * pieces)

namespace Expr

def word? : Expr → Option (List UInt8)
  | .literal bytes => some bytes
  | _ => none

/-- The tree that an alternation of literals makes. -/
def wordTree? (direction : Direction) (e : Expr) : Option Nat :=
  (e.branches.mapM word?).map fun words =>
    let words := if direction = .backward then words.map List.reverse else words
    32 + wordTreeBytes ((words.map List.length).foldr (· + ·) 0 + 1) words

/-- The size of the nodes an expression adds. `inner` tells that the expression is what follows in
an alternation. -/
def nodeBytes (direction : Direction) (inner : Bool) : Expr → Nat
  | .empty | .look _ => 32
  | .literal bytes => 32 * bytes.length
  | .byteClass set => 64 + 8 * set.ranges.length
  | .charClass set => charClassBytes direction set
  | .repetition least most _ body =>
    let once := body.nodeBytes direction false
    match least, most with
    | 0, none => if body.shortest?.any (0 < ·) then once + 40 else once + 112
    | least, none => least * once + 40
    | 0, some 1 => once + 72
    | least, some most =>
      if least = most then least * once
      else (if least = 0 then 32 else least * once) + 32 + (most - least) * (once + 40)
  | .group _ body =>
    body.nodeBytes direction false + (if direction = .forward then 64 else 0)
  | .seq a b => a.nodeBytes direction false + b.nodeBytes direction false
  | .alt a b =>
    match if inner then none else (Expr.alt a b).wordTree? direction with
    | some bytes => bytes
    | none =>
      (if inner then 0 else 64) + 4 + a.nodeBytes direction false +
        (match b with | .alt _ _ => 0 | _ => 4) + b.nodeBytes direction true

/-- The size of the automaton: before the expression stands a loop over any bytes, around it the
marks of the whole match, and behind it the end. -/
def automatonBytes (direction : Direction) (e : Expr) : Nat :=
  e.nodeBytes direction false + 144 + (if direction = .forward then 64 else 0)

/-- Expressions with a larger automaton are refused. -/
def automatonLimit : Nat := 10485760

def fits (e : Expr) : Bool :=
  e.automatonBytes .forward ≤ automatonLimit && e.automatonBytes .backward ≤ automatonLimit

end Expr

end Triage.Regex
