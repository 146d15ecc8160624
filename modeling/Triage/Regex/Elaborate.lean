import Triage.Regex.Expr
import Triage.Unicode.Name

/-!
What written syntax means as an expression. Flags change as the text is read: a change holds to the
end of the enclosing group, later branches included.
-/

namespace Triage.Regex

/-- The flags in force at a place of the text. -/
structure Flags where
  ignoreCase : Bool := false
  multiLine : Bool := false
  dotAll : Bool := false
  swapGreed : Bool := false
  unicode : Bool := true
  crlf : Bool := false
deriving DecidableEq, Repr

def Flags.update (flags : Flags) (change : FlagChange) : Flags where
  ignoreCase := (change.value? .ignoreCase).getD flags.ignoreCase
  multiLine := (change.value? .multiLine).getD flags.multiLine
  dotAll := (change.value? .dotAll).getD flags.dotAll
  swapGreed := (change.value? .swapGreed).getD flags.swapGreed
  unicode := (change.value? .unicode).getD flags.unicode
  crlf := (change.value? .crlf).getD flags.crlf

/-- A byte when Unicode is off and the literal is a byte escape past ASCII, else a character. -/
def Literal.byte? (flags : Flags) (l : Literal) : Option UInt8 :=
  if !flags.unicode && l.byteEscape && 127 < l.char.toNat then some l.char.toNat.toUInt8 else none

def closeAsciiCase (set : RangeSet) : RangeSet :=
  let upper := RangeSet.inter 255 set ⟨[(65, 90)], by decide, by decide⟩
  let lower := RangeSet.inter 255 set ⟨[(97, 122)], by decide, by decide⟩
  set.union (RangeSet.ofList
    (upper.ranges.map (fun r => (r.1 + 32, r.2 + 32)) ++ lower.ranges.map (fun r => (r.1 - 32, r.2 - 32))))

namespace Flags

/-- The number a class member stands for: a code point, or a byte where Unicode is off. -/
def member? (flags : Flags) (l : Literal) : Option Nat :=
  if flags.unicode then some l.char.toNat
  else
    match l.byte? flags with
    | some b => some b.toNat
    | none => if l.char.toNat < 128 then some l.char.toNat else none

def closeCase (flags : Flags) (set : RangeSet) : RangeSet :=
  if !flags.ignoreCase then set
  else if flags.unicode then Unicode.closeCase set
  else closeAsciiCase set

def negate (flags : Flags) (negated : Bool) (set : RangeSet) : RangeSet :=
  if !negated then set
  else if flags.unicode then CharSet.complement set
  else set.complement 255

def combine (flags : Flags) (op : SetOp) (a b : RangeSet) : RangeSet :=
  let last := if flags.unicode then CharSet.lastCode else 255
  match op with
  | .inter => RangeSet.inter last a b
  | .diff => RangeSet.diff last a b
  | .symmDiff => RangeSet.symmDiff last a b

def shorthand (flags : Flags) : Shorthand → RangeSet
  | .digit => if flags.unicode then Unicode.decimalDigit else RangeSet.ofList PosixClass.digit.ranges
  | .space => if flags.unicode then Unicode.whiteSpace else RangeSet.ofList PosixClass.space.ranges
  | .word => if flags.unicode then Unicode.word else RangeSet.ofList PosixClass.word.ranges

/-- Unicode classes are refused where Unicode is off. -/
def property? (flags : Flags) (negated : Bool) (p : Property) : Option RangeSet := do
  guard flags.unicode
  let set ← match p with
    | .letter c => Unicode.named? [c]
    | .named name => Unicode.named? name
    | .valued property value => Unicode.withValue? property value
  return flags.negate negated (flags.closeCase set)

mutual

def classSet? (flags : Flags) : ClassSet → Option RangeSet
  | .literal l => (flags.member? l).map RangeSet.singleton
  | .range first last => do
    let first ← flags.member? first
    let last ← flags.member? last
    return if flags.unicode then CharSet.span first last else RangeSet.ofList [(first, last)]
  | .posix negated c => some (flags.negate negated (flags.closeCase (RangeSet.ofList c.ranges)))
  | .property negated p => flags.property? negated p
  | .shorthand negated s => some (flags.negate negated (flags.shorthand s))
  | .bracket negated set => do
    return flags.negate negated (flags.closeCase (← classSet? flags set))
  | .union items => classUnion? flags items
  | .op kind left right => do
    let left ← classSet? flags left
    let right ← classSet? flags right
    return flags.combine kind (flags.closeCase left) (flags.closeCase right)

def classUnion? (flags : Flags) : List ClassSet → Option RangeSet
  | [] => some RangeSet.empty
  | item :: items => do
    let first ← classSet? flags item
    return first.union (← classUnion? flags items)

end

def ofClass (flags : Flags) (set : RangeSet) : Expr :=
  if flags.unicode then Expr.ofCharSet set else Expr.ofByteSet set

def dot (flags : Flags) : Expr :=
  let excluded : RangeSet :=
    if flags.dotAll then RangeSet.empty
    else if flags.crlf then ⟨[(10, 10), (13, 13)], by decide, by decide⟩
    else ⟨[(10, 10)], by decide, by decide⟩
  flags.ofClass (flags.negate true excluded)

def literal (flags : Flags) (l : Literal) : Expr :=
  match l.byte? flags with
  | some b => .literal [b]
  | none =>
    if !flags.ignoreCase then Expr.ofChar l.char
    else if flags.unicode then
      if Unicode.hasCase l.char.toNat then
        Expr.ofCharSet (Unicode.closeCase (RangeSet.singleton l.char.toNat))
      else Expr.ofChar l.char
    else if l.char.isAlpha then
      Expr.ofByteSet (closeAsciiCase (RangeSet.singleton l.char.toNat))
    else Expr.ofChar l.char

def assertion (flags : Flags) : Assertion → Look
  | .lineStart => if flags.multiLine then .lineStart flags.crlf else .textStart
  | .lineEnd => if flags.multiLine then .lineEnd flags.crlf else .textEnd
  | .textStart => .textStart
  | .textEnd => .textEnd
  | .word edge => .word flags.unicode edge

end Flags

namespace Syntax

mutual

/-- The expression, and the flags in force after it. -/
def elaborate? (flags : Flags) : Syntax → Option (Expr × Flags)
  | .empty => some (.empty, flags)
  | .flags change => some (.empty, flags.update change)
  | .literal l => some (flags.literal l, flags)
  | .dot => some (flags.dot, flags)
  | .assertion a => some (.look (flags.assertion a), flags)
  | .property negated p => (flags.property? negated p).map fun set => (flags.ofClass set, flags)
  | .shorthand negated s => some (flags.ofClass (flags.negate negated (flags.shorthand s)), flags)
  | .bracket negated set =>
    (flags.classSet? set).map fun set =>
      (flags.ofClass (flags.negate negated (flags.closeCase set)), flags)
  | .repetition counts greedy body => do
    let (body, flags) ← elaborate? flags body
    return (Expr.repeated counts.least counts.most (greedy != flags.swapGreed) body, flags)
  | .group (.capture index) body => do
    let (body, _) ← elaborate? flags body
    return (.group index body, flags)
  | .group (.plain change) body => do
    let (body, _) ← elaborate? (flags.update change) body
    return (body, flags)
  | .concat parts => do
    let (parts, flags) ← elaborateList? flags parts
    return (Expr.concat parts, flags)
  | .alternation branches => do
    let (branches, flags) ← elaborateList? flags branches
    return (Expr.alternation branches, flags)

def elaborateList? (flags : Flags) : List Syntax → Option (List Expr × Flags)
  | [] => some ([], flags)
  | part :: parts => do
    let (first, flags) ← elaborate? flags part
    let (others, flags) ← elaborateList? flags parts
    return (first :: others, flags)

end

end Syntax

end Triage.Regex
