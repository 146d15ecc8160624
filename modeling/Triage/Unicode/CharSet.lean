import Triage.RangeSet
import Triage.Unicode.CategoryTable
import Triage.Unicode.FoldTable
import Triage.Unicode.PropertyTable
import Triage.Unicode.ScriptTable

/-!
Sets of characters, and those that a category, a script or a letter case makes. Surrogate code
points are in no set, complements included.
-/

namespace Triage

/-- Code points of characters. -/
abbrev CharSet := RangeSet

namespace CharSet

def lastCode : Nat := 0x10FFFF

def surrogates : RangeSet := ⟨[(0xD800, 0xDFFF)], by decide, by decide⟩

def all : CharSet := ⟨[(0, 0xD7FF), (0xE000, lastCode)], by decide, by decide⟩

/-- The characters from one code point to another. -/
def span (first last : Nat) : CharSet := RangeSet.inter lastCode (RangeSet.ofList [(first, last)]) all

def complement (s : CharSet) : CharSet := (s.union surrogates).complement lastCode

def union (a b : CharSet) : CharSet := RangeSet.union a b

def inter (a b : CharSet) : CharSet := RangeSet.inter lastCode a b

def diff (a b : CharSet) : CharSet := RangeSet.diff lastCode a b

def symmDiff (a b : CharSet) : CharSet := RangeSet.symmDiff lastCode a b

end CharSet

namespace Unicode

/-- Splits a run such as `Lu26` into its letters and its count. -/
def runParts (run : String) : String × Nat :=
  let (letters, digits) := run.toList.span Char.isAlpha
  (String.ofList letters, (String.ofList digits).toNat?.getD 0)

/-- The runs of a table, which blanks and line ends part. -/
def tableRuns (table : String) : List String :=
  ((table.splitOn "\n").flatMap (·.splitOn " ")).filter (· ≠ "")

/-- The positions that labelled runs cover with a label the test accepts. -/
def labelledRanges (accept : String → Bool) (runs : String) : RangeSet :=
  let step := fun (acc : Nat × List (Nat × Nat)) (run : String) =>
    let (label, count) := runParts run
    let next := acc.1 + count
    (next, if accept label then (acc.1, next - 1) :: acc.2 else acc.2)
  RangeSet.ofList (((tableRuns runs).foldl step (0, [])).2.reverse)

/-- The positions that every second of the alternating runs covers. -/
def alternatingRanges (runs : String) : RangeSet :=
  let rec go (place : Nat) : List Nat → List (Nat × Nat)
    | out :: inside :: rest => (place + out, place + out + inside - 1) :: go (place + out + inside) rest
    | _ => []
  RangeSet.ofList (go 0 ((tableRuns runs).map fun n => n.toNat?.getD 0))

def chars (s : RangeSet) : CharSet := CharSet.inter s CharSet.all

/-- Characters whose general category is one of the two-letter codes. -/
def categories (codes : List String) : CharSet :=
  chars (labelledRanges codes.contains categoryRuns)

def script (code : String) : CharSet := chars (labelledRanges (· == code) scriptRuns)

/-- The characters of alternating runs. -/
def charsOf (runs : String) : CharSet := chars (alternatingRanges runs)

def letter : CharSet := categories ["Lu", "Ll", "Lt", "Lm", "Lo"]

def alphabetic : CharSet :=
  categories ["Lu", "Ll", "Lt", "Lm", "Lo", "Nl"] |>.union (charsOf otherAlphabeticRuns)

def whiteSpace : CharSet :=
  ⟨[(0x9, 0xD), (0x20, 0x20), (0x85, 0x85), (0xA0, 0xA0), (0x1680, 0x1680), (0x2000, 0x200A),
    (0x2028, 0x2029), (0x202F, 0x202F), (0x205F, 0x205F), (0x3000, 0x3000)], by decide, by decide⟩

def decimalDigit : CharSet := categories ["Nd"]

def numeric : CharSet := categories ["Nd", "Nl", "No"]

/-- Letters, marks, decimal digits, connectors and the two join controls. -/
def word : CharSet :=
  alphabetic.union ((categories ["Mn", "Mc", "Me", "Nd", "Pc"]).union (charsOf joinControlRuns))

def isWhiteSpace (c : Char) : Bool := whiteSpace.contains c.toNat

def isAlphabetic (c : Char) : Bool := alphabetic.contains c.toNat

def isAlphanumeric (c : Char) : Bool := isAlphabetic c || numeric.contains c.toNat

def rowCovers (code : Nat) (row : Nat × Nat × Nat × Int) : Bool :=
  row.1 ≤ code && code ≤ row.2.1 && (code - row.1) % row.2.2.1 == 0

/-- The code point that stands for all case variants of a code point. -/
def fold (code : Nat) : Nat :=
  match foldRows.find? (rowCovers code) with
  | some (_, _, _, offset) => (code + offset).toNat
  | none => code

/-- Every code point that is not its own fold, with its fold. -/
def foldPairs : List (Nat × Nat) :=
  foldRows.flatMap fun (first, last, step, offset) =>
    (List.range ((last - first) / step + 1)).map fun k =>
      (first + k * step, ((first + k * step : Nat) + offset).toNat)

/-- The set with every case variant of its members. -/
def closeCase (s : CharSet) : CharSet :=
  let hit := foldPairs.filter fun (c, f) => s.contains c || s.contains f
  let folds := RangeSet.ofList (hit.map fun (_, f) => (f, f))
  let variants := foldPairs.filter fun (_, f) => folds.contains f
  s.union (RangeSet.ofList (variants.flatMap fun (c, f) => [(c, c), (f, f)]))

def hasCase (code : Nat) : Bool :=
  foldPairs.any fun (c, f) => c == code || f == code

end Unicode

end Triage
