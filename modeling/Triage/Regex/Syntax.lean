/-!
Written regular expressions: the tree a pattern's text stands for, before flags are applied.
-/

namespace Triage.Regex

inductive Flag
  | ignoreCase
  | multiLine
  | dotAll
  | swapGreed
  | unicode
  | crlf
  | ignoreSpace
deriving DecidableEq, Repr

/-- Flags in the order written, each switched on or off. -/
abbrev FlagChange := List (Flag × Bool)

def FlagChange.value? (change : FlagChange) (flag : Flag) : Option Bool :=
  (change.find? fun (f, _) => f == flag).map (·.2)

/-- Where between two characters a word assertion holds. -/
inductive WordEdge
  | boundary
  | inside
  | start
  | finish
  | startHalf
  | finishHalf
deriving DecidableEq, Hashable, Repr

inductive Assertion
  | lineStart
  | lineEnd
  | textStart
  | textEnd
  | word (edge : WordEdge)
deriving DecidableEq, Repr

/-- The digit, white-space and word classes. -/
inductive Shorthand
  | digit
  | space
  | word
deriving DecidableEq, Repr

inductive PosixClass
  | alnum
  | alpha
  | ascii
  | blank
  | cntrl
  | digit
  | graph
  | lower
  | print
  | punct
  | space
  | upper
  | word
  | xdigit
deriving DecidableEq, Repr

def PosixClass.named? (name : List Char) : Option PosixClass :=
  match String.ofList name with
  | "alnum" => some .alnum
  | "alpha" => some .alpha
  | "ascii" => some .ascii
  | "blank" => some .blank
  | "cntrl" => some .cntrl
  | "digit" => some .digit
  | "graph" => some .graph
  | "lower" => some .lower
  | "print" => some .print
  | "punct" => some .punct
  | "space" => some .space
  | "upper" => some .upper
  | "word" => some .word
  | "xdigit" => some .xdigit
  | _ => none

def PosixClass.ranges : PosixClass → List (Nat × Nat)
  | .alnum => [(48, 57), (65, 90), (97, 122)]
  | .alpha => [(65, 90), (97, 122)]
  | .ascii => [(0, 127)]
  | .blank => [(9, 9), (32, 32)]
  | .cntrl => [(0, 31), (127, 127)]
  | .digit => [(48, 57)]
  | .graph => [(33, 126)]
  | .lower => [(97, 122)]
  | .print => [(32, 126)]
  | .punct => [(33, 47), (58, 64), (91, 96), (123, 126)]
  | .space => [(9, 13), (32, 32)]
  | .upper => [(65, 90)]
  | .word => [(48, 57), (65, 90), (95, 95), (97, 122)]
  | .xdigit => [(48, 57), (65, 70), (97, 102)]

/-- How a Unicode class is named. -/
inductive Property
  | letter (c : Char)
  | named (name : List Char)
  | valued (property value : List Char)
deriving DecidableEq, Repr

/-- A literal character. `byteEscape` marks a two-digit hexadecimal escape, which stands for a byte
where Unicode is off. -/
structure Literal where
  char : Char
  byteEscape : Bool := false
deriving DecidableEq, Repr

inductive SetOp
  | inter
  | diff
  | symmDiff
deriving DecidableEq, Repr

/-- The inside of a bracketed class. -/
inductive ClassSet
  | literal (l : Literal)
  | range (first last : Literal)
  | posix (negated : Bool) (c : PosixClass)
  | property (negated : Bool) (p : Property)
  | shorthand (negated : Bool) (s : Shorthand)
  | bracket (negated : Bool) (set : ClassSet)
  | union (items : List ClassSet)
  | op (kind : SetOp) (left right : ClassSet)

/-- The union of items, without a node of its own for a single item. -/
def ClassSet.ofItems : List ClassSet → ClassSet
  | [item] => item
  | items => .union items

mutual

/-- Levels of nesting inside a class. -/
def ClassSet.depth : ClassSet → Nat
  | .bracket _ set => set.depth + 1
  | .union items => if items.isEmpty then 0 else ClassSet.depthOfList items + 1
  | .op _ left right => max left.depth right.depth + 1
  | _ => 0

def ClassSet.depthOfList : List ClassSet → Nat
  | [] => 0
  | item :: items => max item.depth (ClassSet.depthOfList items)

end

inductive GroupKind
  | capture (index : Nat)
  | plain (change : FlagChange)
deriving DecidableEq, Repr

/-- How often a part is repeated: at least so often, and at most so often if there is a bound. -/
structure Counts where
  least : Nat
  most : Option Nat
  ordered : ∀ m ∈ most, least ≤ m

inductive Syntax
  | empty
  | flags (change : FlagChange)
  | literal (l : Literal)
  | dot
  | assertion (a : Assertion)
  | property (negated : Bool) (p : Property)
  | shorthand (negated : Bool) (s : Shorthand)
  | bracket (negated : Bool) (set : ClassSet)
  | repetition (counts : Counts) (greedy : Bool) (body : Syntax)
  | group (kind : GroupKind) (body : Syntax)
  | concat (parts : List Syntax)
  | alternation (branches : List Syntax)

namespace Syntax

def ofParts : List Syntax → Syntax
  | [] => .empty
  | [part] => part
  | parts => .concat parts

def ofBranches : List Syntax → Syntax
  | [branch] => branch
  | branches => .alternation branches

mutual

/-- Levels of nesting: classes, repetitions, groups, concatenations and alternations count one
each. -/
def depth : Syntax → Nat
  | .bracket _ set => set.depth + 1
  | .repetition _ _ body => body.depth + 1
  | .group _ body => body.depth + 1
  | .concat parts => depthOfList parts + 1
  | .alternation branches => depthOfList branches + 1
  | _ => 0

def depthOfList : List Syntax → Nat
  | [] => 0
  | part :: parts => max part.depth (depthOfList parts)

end

/-- Deeper expressions are refused. -/
def depthLimit : Nat := 250

end Syntax

end Triage.Regex
