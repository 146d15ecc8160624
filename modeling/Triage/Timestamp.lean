/-!
Points in time of the proleptic Gregorian calendar in UTC.
-/

namespace Triage

/-- Seconds since the start of 1970 and nanoseconds. From a billion nanoseconds on, the time lies in
a leap second that follows the second given. -/
structure Timestamp where
  seconds : Int
  nanos : Nat := 0
deriving DecidableEq, Repr

structure Date where
  year : Int
  month : Nat
  day : Nat
deriving DecidableEq, Repr

/-- The date so many days after the start of 1970. Years are counted from March, so that leap days
come last, in cycles of 400 years. -/
def Date.ofDays (days : Int) : Date :=
  let shifted := days + 719468
  let cycle := shifted.fdiv 146097
  let inCycle := (shifted.fmod 146097).toNat
  let yearOfCycle := (inCycle - inCycle / 1460 + inCycle / 36524 - inCycle / 146096) / 365
  let dayOfYear := inCycle - (365 * yearOfCycle + yearOfCycle / 4 - yearOfCycle / 100)
  let fromMarch := (5 * dayOfYear + 2) / 153
  let day := dayOfYear - (153 * fromMarch + 2) / 5 + 1
  let month := if fromMarch < 10 then fromMarch + 3 else fromMarch - 9
  ⟨yearOfCycle + cycle * 400 + if month ≤ 2 then 1 else 0, month, day⟩

/-- The days from the start of 1970 to a date. -/
def Date.days (d : Date) : Int :=
  let year := if d.month ≤ 2 then d.year - 1 else d.year
  let yearOfCycle := (year.fmod 400).toNat
  let fromMarch := if d.month ≤ 2 then d.month + 9 else d.month - 3
  let dayOfYear := (153 * fromMarch + 2) / 5 + d.day - 1
  let inCycle := 365 * yearOfCycle + yearOfCycle / 4 - yearOfCycle / 100 + dayOfYear
  146097 * year.fdiv 400 + inCycle - 719468

namespace Timestamp

def billion : Nat := 1000000000

def zeros (width n : Nat) : String :=
  let digits := toString n
  String.ofList (List.replicate (width - digits.length) '0') ++ digits

/-- Years of four digits are written plainly, all others with a sign. -/
def yearText (year : Int) : String :=
  if 0 ≤ year ∧ year ≤ 9999 then zeros 4 year.toNat
  else (if year < 0 then "-" else "+") ++ zeros 4 year.natAbs

def dateText (t : Timestamp) : String :=
  let d := Date.ofDays (t.seconds.fdiv 86400)
  yearText d.year ++ "-" ++ zeros 2 d.month ++ "-" ++ zeros 2 d.day

/-- A leap second is the sixty-first of its minute. -/
def clockText (t : Timestamp) : String :=
  let s := (t.seconds.fmod 86400).toNat
  zeros 2 (s / 3600) ++ ":" ++ zeros 2 (s / 60 % 60) ++ ":" ++
    zeros 2 (s % 60 + if billion ≤ t.nanos then 1 else 0)

/-- The text that predicates compare. -/
def text (t : Timestamp) : String := t.dateText ++ " " ++ t.clockText

/-- The fraction of a second, in as few groups of three digits as are exact. -/
def fractionText (t : Timestamp) : String :=
  let n := t.nanos % billion
  if n = 0 then ""
  else if n % 1000000 = 0 then "." ++ zeros 3 (n / 1000000)
  else if n % 1000 = 0 then "." ++ zeros 6 (n / 1000)
  else "." ++ zeros 9 n

/-- The text that rows carry. -/
def rowText (t : Timestamp) : String := t.dateText ++ "T" ++ t.clockText ++ t.fractionText ++ "Z"

/-! Times are read with any offset from UTC, and a sixtieth second counts as a leap second. -/

/-- Reads so many digits behind those read as `n`. -/
def digits? : Nat → Nat → List Char → Option (Nat × List Char)
  | 0, n, rest => some (n, rest)
  | _ + 1, _, [] => none
  | width + 1, n, c :: rest =>
    if c.isDigit then digits? width (10 * n + (c.toNat - '0'.toNat)) rest else none

def char? (allowed : List Char) : List Char → Option (Char × List Char)
  | c :: rest => if allowed.contains c then some (c, rest) else none
  | [] => none

/-- A year of four digits, or of any number of digits behind a sign. -/
def year? (text : List Char) : Option (Int × List Char) := do
  match char? ['+', '-'] text with
  | none =>
    let (n, rest) ← digits? 4 0 text
    return (n, rest)
  | some (sign, rest) =>
    let (n, rest) ← digits? (rest.takeWhile Char.isDigit).length 0 rest
    return (if sign = '-' then -n else n, rest)

/-- A fraction, which may be missing, in nanoseconds. Digits behind the ninth are dropped. -/
def fraction? (text : List Char) : Option (Nat × List Char) := do
  match char? ['.'] text with
  | none => return (0, text)
  | some (_, rest) =>
    let digits := rest.takeWhile Char.isDigit
    if digits.isEmpty then failure
    let (n, _) ← digits? 9 0 (digits.take 9 ++ List.replicate (9 - digits.length) '0')
    return (n, rest.dropWhile Char.isDigit)

/-- An offset in seconds at the end of a text. -/
def offset? (text : List Char) : Option Int := do
  let (sign, rest) ← char? ['Z', 'z', '+', '-'] text
  if sign = 'Z' ∨ sign = 'z' then
    if rest.isEmpty then return 0 else failure
  let (hours, rest) ← digits? 2 0 rest
  let (_, rest) ← char? [':'] rest
  let (minutes, rest) ← digits? 2 0 rest
  if !rest.isEmpty then failure
  let seconds : Int := 3600 * hours + 60 * minutes
  return if sign = '-' then -seconds else seconds

/-- The time that a text in the manner of rows gives. -/
def ofRowText? (text : String) : Option Timestamp := do
  let (year, rest) ← year? text.toList
  let (_, rest) ← char? ['-'] rest
  let (month, rest) ← digits? 2 0 rest
  let (_, rest) ← char? ['-'] rest
  let (day, rest) ← digits? 2 0 rest
  let (_, rest) ← char? ['T', 't', ' '] rest
  let (hour, rest) ← digits? 2 0 rest
  let (_, rest) ← char? [':'] rest
  let (minute, rest) ← digits? 2 0 rest
  let (_, rest) ← char? [':'] rest
  let (second, rest) ← digits? 2 0 rest
  let (fraction, rest) ← fraction? rest
  let offset ← offset? rest
  let leap := second = 60
  let clock : Int := 3600 * hour + 60 * minute + (if leap then 59 else second)
  return ⟨86400 * Date.days ⟨year, month, day⟩ + clock - offset,
    if leap then billion + fraction else fraction⟩

end Timestamp

end Triage
