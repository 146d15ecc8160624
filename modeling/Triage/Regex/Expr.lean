import Triage.Regex.Syntax
import Triage.Text.Utf8
import Triage.Unicode.CharSet

/-!
Regular expressions over bytes. A class of characters matches the UTF-8 form of its members; all
else matches bytes. `concat` and `alternation` build expressions in a normal form: nested
concatenations and alternations are flat and lean to the right, neighbouring literals are joined,
and an alternation of classes, or of single characters, is a class.
-/

namespace Triage.Regex

/-- A condition on a position, which consumes nothing. -/
inductive Look
  | textStart
  | textEnd
  | lineStart (crlf : Bool)
  | lineEnd (crlf : Bool)
  | word (unicode : Bool) (edge : WordEdge)
deriving DecidableEq, Hashable, Repr

def Look.isAnchor : Look → Bool
  | .word _ _ => false
  | _ => true

inductive Expr
  | empty
  | literal (bytes : List UInt8)
  | byteClass (set : RangeSet)
  | charClass (set : CharSet)
  | look (l : Look)
  | repetition (least : Nat) (most : Option Nat) (greedy : Bool) (body : Expr)
  | group (index : Nat) (body : Expr)
  | seq (first rest : Expr)
  | alt (first rest : Expr)
deriving DecidableEq, Repr

/-- Mostly an expression is compared with itself, which takes no time. -/
instance (priority := high) : DecidableEq Expr := fun a b =>
  withPtrEqDecEq a b fun _ => instDecidableEqExpr a b

namespace Expr

/-- The expression that matches nowhere. -/
def fail : Expr := .byteClass RangeSet.empty

def ofBytes : List UInt8 → Expr
  | [] => .empty
  | bytes => .literal bytes

def ofChar (c : Char) : Expr := .literal (String.utf8EncodeChar c)

def ofByteSet (set : RangeSet) : Expr :=
  match set.single? with
  | some b => .literal [b.toUInt8]
  | none => .byteClass set

def ofCharSet (set : CharSet) : Expr :=
  if set.isEmpty then fail
  else
    match set.single? with
    | some c => ofChar (Char.ofNat c)
    | none => .charClass set

/-- Lengths that do not fit in 64 bits: shortest lengths stop there, longest ones are given up. -/
def lengthLimit : Nat := 0xFFFFFFFFFFFFFFFF

def addShortest (a b : Option Nat) : Option Nat :=
  match a, b with
  | some a, some b => some (min (a + b) lengthLimit)
  | _, _ => none

def addLongest (a b : Option Nat) : Option Nat :=
  match a, b with
  | some a, some b => if a + b ≤ lengthLimit then some (a + b) else none
  | _, _ => none

def chooseLength (pick : Nat → Nat → Nat) (a b : Option Nat) : Option Nat :=
  match a, b with
  | some a, some b => some (pick a b)
  | _, _ => none

/-- A lower bound of the bytes a match takes. There is none when a part matches nowhere. -/
def shortest? : Expr → Option Nat
  | .empty => some 0
  | .literal bytes => some bytes.length
  | .byteClass set => if set.isEmpty then none else some 1
  | .charClass set => set.least?.map Utf8.width
  | .look _ => some 0
  | .repetition least _ _ body => body.shortest?.map fun n => min (n * least) lengthLimit
  | .group _ body => body.shortest?
  | .seq a b => addShortest a.shortest? b.shortest?
  | .alt a b => chooseLength min a.shortest? b.shortest?

/-- An upper bound of the bytes a match takes, unless there is no bound. -/
def longest? : Expr → Option Nat
  | .empty => some 0
  | .literal bytes => some bytes.length
  | .byteClass set => if set.isEmpty then none else some 1
  | .charClass set => set.greatest?.map Utf8.width
  | .look _ => some 0
  | .repetition _ most _ body =>
    match most, body.longest? with
    | some m, some n => if n * m ≤ lengthLimit then some (n * m) else none
    | _, _ => none
  | .group _ body => body.longest?
  | .seq a b => addLongest a.longest? b.longest?
  | .alt a b => chooseLength max a.longest? b.longest?

/-- The parts of a concatenation. -/
def factors : Expr → List Expr
  | .empty => []
  | .seq a b => a :: b.factors
  | e => [e]

def ofFactors : List Expr → Expr
  | [] => .empty
  | [e] => e
  | e :: es => .seq e (ofFactors es)

/-- Joins neighbouring literals; `held` are the bytes of the literal being joined. -/
def joinLiterals (held : List UInt8) : List Expr → List Expr
  | [] => if held.isEmpty then [] else [.literal held]
  | .literal bytes :: es => joinLiterals (held ++ bytes) es
  | e :: es => if held.isEmpty then e :: joinLiterals [] es
    else .literal held :: e :: joinLiterals [] es

def concat (es : List Expr) : Expr := ofFactors (joinLiterals [] (es.flatMap factors))

/-- The branches of an alternation. -/
def branches : Expr → List Expr
  | .alt a b => a :: b.branches
  | e => [e]

def ofBranches : List Expr → Expr
  | [] => fail
  | [e] => e
  | e :: es => .alt e (ofBranches es)

/-- The character that the branch is, if it is one. -/
def charOfLiteral? : Expr → Option Nat
  | .literal bytes =>
    match Utf8.first? bytes with
    | some (code, []) => some code
    | _ => none
  | _ => none

def byteOfLiteral? : Expr → Option Nat
  | .literal [b] => some b.toNat
  | _ => none

def isAsciiSet (set : RangeSet) : Bool := set.greatest?.all (· < 128)

def asCharSet? : Expr → Option CharSet
  | .charClass set => some set
  | .byteClass set => if isAsciiSet set then some set else none
  | _ => none

def asByteSet? : Expr → Option RangeSet
  | .byteClass set => some set
  | .charClass set => if isAsciiSet set then some set else none
  | _ => none

def unionAll (sets : List RangeSet) : RangeSet := RangeSet.ofList (sets.flatMap (·.ranges))

def points (ns : List Nat) : RangeSet := RangeSet.ofList (ns.map fun n => (n, n))

/-- The class that the branches amount to, if each is a character, a byte or a class. -/
def classOfBranches? (es : List Expr) : Option Expr :=
  ((es.mapM charOfLiteral?).map (ofCharSet <| points ·)) <|>
  ((es.mapM byteOfLiteral?).map (ofByteSet <| points ·)) <|>
  ((es.mapM asCharSet?).map (ofCharSet <| unionAll ·)) <|>
  ((es.mapM asByteSet?).map (ofByteSet <| unionAll ·))

def sharedStart : List Expr → List Expr → List Expr
  | a :: as, b :: bs => if a = b then a :: sharedStart as bs else []
  | _, _ => []

/-- The factors that all branches start with, when every branch is a concatenation. -/
def sharedFactors (es : List Expr) : List Expr :=
  if es.any fun e => e.factors.length < 2 then []
  else
    match es.map factors with
    | [] => []
    | first :: others => others.foldl sharedStart first

/-- An alternation of two branches or more that shares no factor. -/
def choose (es : List Expr) : Expr :=
  match es.flatMap branches with
  | [e] => e
  | es => (classOfBranches? es).getD (ofBranches es)

/-- Any of the expressions, earlier ones preferred. -/
def alternation (es : List Expr) : Expr :=
  let es := es.flatMap branches
  match es with
  | [] => fail
  | [e] => e
  | es =>
    match classOfBranches? es with
    | some e => e
    | none =>
      match sharedFactors es with
      | [] => ofBranches es
      | shared =>
        concat (shared ++ [choose (es.map fun e => concat (e.factors.drop shared.length))])

/-- A repetition. Repeating what matches only the empty text is doing so at most once. -/
def repeated (least : Nat) (most : Option Nat) (greedy : Bool) (body : Expr) : Expr :=
  let (least, most) :=
    if body.longest? = some 0 then (min least 1, some ((most.map (min · 1)).getD 1))
    else (least, most)
  if least = 0 ∧ most = some 0 then .empty
  else if least = 1 ∧ most = some 1 then body
  else .repetition least most greedy body

/-- The conditions on positions that occur in the expression. -/
def looks : Expr → List Look
  | .look l => [l]
  | .repetition _ _ _ body | .group _ body => body.looks
  | .seq a b | .alt a b => a.looks ++ b.looks
  | _ => []

/-- The expression where characters are single bytes: classes must hold ASCII alone, and words are
made of ASCII. -/
def inAscii? : Expr → Option Expr
  | .charClass set => if isAsciiSet set then some (.byteClass set) else none
  | .look (.word _ edge) => some (.look (.word false edge))
  | .repetition least most greedy body => body.inAscii?.map (.repetition least most greedy)
  | .group index body => body.inAscii?.map (.group index)
  | .seq a b => return .seq (← a.inAscii?) (← b.inAscii?)
  | .alt a b => return .alt (← a.inAscii?) (← b.inAscii?)
  | e => some e

end Expr

end Triage.Regex
