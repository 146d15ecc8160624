import Mathlib.Data.Int.Order.Basic
import Mathlib.Tactic.IntervalCases
import Triage.Timestamp

/-! The calendar. Years have the lengths that the Gregorian rule gives them, before its introduction too. A
count of days is turned into the date that lies so many days after the start of 1970, and dates come one
after another in the order of their years, months and days. -/

namespace Triage

/-! ## Orders -/

/-- What decides an order comes first in it. -/
theorem compare_eq_then {α β : Type} [LinearOrder α] [LinearOrder β] {a a' : α} {b b' : β} {rest : Ordering}
    (before : a < a' → b < b') (behind : a' < a → b' < b) (level : a = a' → compare b b' = rest) :
    compare b b' = (compare a a').then rest := by
  rcases lt_trichotomy a a' with less | same | more
  · rw [compare_lt_iff_lt.mpr less, compare_lt_iff_lt.mpr (before less), Ordering.lt_then]
  · rw [compare_eq_iff_eq.mpr same, level same, Ordering.eq_then]
  · rw [compare_gt_iff_gt.mpr more, compare_gt_iff_gt.mpr (behind more), Ordering.gt_then]

theorem compare_eq_compare {α β : Type} [LinearOrder α] [LinearOrder β] {a a' : α} {b b' : β}
    (before : a < a' → b < b') (behind : a' < a → b' < b) (level : a = a' → b = b') :
    compare b b' = compare a a' := by
  rw [← Ordering.then_eq (o := compare a a')]
  exact compare_eq_then before behind fun same => compare_eq_iff_eq.mpr (level same)

/-! ## Years and months -/

def isLeap (year : Int) : Bool := year % 4 = 0 && (year % 100 ≠ 0 || year % 400 = 0)

def leapDays (year : Int) : Nat := if isLeap year then 1 else 0

def yearLength (year : Int) : Nat := 365 + leapDays year

def monthLength (year : Int) : Nat → Nat
  | 2 => 28 + leapDays year
  | 4 | 6 | 9 | 11 => 30
  | _ => 31

/-- The days of the months in front of a month. -/
def daysToMonth (year : Int) : Nat → Nat
  | 0 | 1 => 0
  | month + 1 => daysToMonth year month + monthLength year month

/-- The days from the start of the year zero to the start of a year. -/
def daysToYear : Nat → Nat
  | 0 => 0
  | year + 1 => daysToYear year + yearLength year

/-- The days from the start of 1970 to the start of a year. -/
def yearStart (year : Int) : Int :=
  365 * year + (year + 3) / 4 - (year + 99) / 100 + (year + 399) / 400 - 719528

theorem leapDays_eq (year : Int) :
    leapDays year = if year % 4 = 0 ∧ (year % 100 ≠ 0 ∨ year % 400 = 0) then 1 else 0 := by
  simp [leapDays, isLeap]

theorem yearStart_succ (year : Int) : yearStart (year + 1) = yearStart year + yearLength year := by
  rw [yearStart, yearStart, yearLength, leapDays_eq]
  split <;> omega

theorem yearStart_eq (year : Nat) : yearStart year = daysToYear year - daysToYear 1970 := by
  have counted (year : Nat) : (daysToYear year : Int) = yearStart year + 719528 := by
    induction year with
    | zero => decide
    | succ year ih =>
      rw [daysToYear, Nat.cast_add, ih, Nat.cast_succ, yearStart_succ]
      omega
  rw [counted year, counted 1970]
  have start : yearStart (1970 : Nat) = 0 := by decide
  omega

theorem yearStart_mono {year year' : Int} (before : year ≤ year') : yearStart year ≤ yearStart year' := by
  rw [yearStart, yearStart]
  omega

namespace Date

structure Valid (d : Date) : Prop where
  month : 1 ≤ d.month ∧ d.month ≤ 12
  day : 1 ≤ d.day ∧ d.day ≤ monthLength d.year d.month

/-- The days from the start of 1970 to the date. -/
def number (d : Date) : Int := yearStart d.year + daysToMonth d.year d.month + (d.day - 1 : Nat)

/-! ## The date of a day -/

/-- A day of 400 years, which start in March: centuries, spans of four years, and years, whose last ones may
be a day longer. -/
theorem exists_parts {day : Nat} (bound : day < 146097) : ∃ centuries spans years rest,
    day = 36524 * centuries + 1461 * spans + 365 * years + rest ∧ centuries ≤ 3 ∧ spans ≤ 24 ∧ years ≤ 3 ∧
      rest ≤ 365 ∧ (rest = 365 → years = 3 ∧ (spans < 24 ∨ centuries = 3)) := by
  let centuries := min (day / 36524) 3
  let spans := (day - 36524 * centuries) / 1461
  let years := min ((day - 36524 * centuries - 1461 * spans) / 365) 3
  refine ⟨centuries, spans, years, day - 36524 * centuries - 1461 * spans - 365 * years, ?_⟩
  omega

section parts
variable {day centuries spans years rest : Nat}

/-- The year of a day: taking away the leap days makes all years equally long. -/
theorem year_of_parts (parts : day = 36524 * centuries + 1461 * spans + 365 * years + rest)
    (fewCenturies : centuries ≤ 3) (fewSpans : spans ≤ 24) (fewYears : years ≤ 3) (bound : rest ≤ 365)
    (last : rest = 365 → years = 3 ∧ (spans < 24 ∨ centuries = 3)) :
    (day - day / 1460 + day / 36524 - day / 146096) / 365 = 100 * centuries + 4 * spans + years := by
  have ofSpans : day / 1460 = 25 * centuries + spans +
      if 25 * centuries + spans + 365 * years + rest - centuries < 1460 then 0 else 1 := by
    split <;> omega
  have ofCenturies : day / 36524 = centuries + if day = 146096 then 1 else 0 := by split <;> omega
  have ofCycle : day / 146096 = if day = 146096 then 1 else 0 := by split <;> omega
  rw [ofSpans, ofCenturies, ofCycle]
  split <;> split <;> omega

end parts

/-- Months that start in March have lengths that make the days before them nearly a line. -/
theorem daysToMonth_eq (year : Int) {month : Nat} (bounds : 1 ≤ month ∧ month ≤ 12) :
    daysToMonth year month =
      if month ≤ 2 then 31 * (month - 1) else 59 + leapDays year + (153 * (month - 3) + 2) / 5 := by
  obtain ⟨low, high⟩ := bounds
  interval_cases month <;> simp [daysToMonth, monthLength] <;> omega

/-- The month and the day within a year that starts in March. -/
theorem month_of_rest {rest : Nat} (bound : rest ≤ 365) :
    ∃ fromMarch, (5 * rest + 2) / 153 = fromMarch ∧ fromMarch ≤ 11 ∧ (153 * fromMarch + 2) / 5 ≤ rest ∧
      (fromMarch < 11 → rest < (153 * (fromMarch + 1) + 2) / 5) := by
  refine ⟨_, rfl, ?_⟩
  omega

/-- The date of a day of a year that starts in March. Its first two months come behind the turn of the
year. -/
def inMarchYear (year : Int) (rest : Nat) : Date :=
  let fromMarch := (5 * rest + 2) / 153
  let month := if fromMarch < 10 then fromMarch + 3 else fromMarch - 9
  ⟨year + if month ≤ 2 then 1 else 0, month, rest - (153 * fromMarch + 2) / 5 + 1⟩

theorem ofDays_eq (days : Int) : ∃ year rest, ofDays days = inMarchYear year rest ∧
    days + 719468 = 365 * year + year / 4 - year / 100 + year / 400 + rest ∧ rest ≤ 365 ∧
    (rest = 365 → isLeap (year + 1)) := by
  have nonneg : 0 ≤ (days + 719468) % 146097 := by omega
  obtain ⟨day, inCycle⟩ := Int.eq_ofNat_of_zero_le nonneg
  obtain ⟨centuries, spans, years, rest, parts, few⟩ := exists_parts (show day < 146097 by omega)
  obtain ⟨fewCenturies, fewSpans, fewYears, bound, last⟩ := few
  have year := year_of_parts parts fewCenturies fewSpans fewYears bound last
  have fourths : (100 * centuries + 4 * spans + years) / 4 = 25 * centuries + spans := by omega
  have hundredths : (100 * centuries + 4 * spans + years) / 100 = centuries := by omega
  have left : day - (365 * (100 * centuries + 4 * spans + years) + (25 * centuries + spans) - centuries) =
      rest := by omega
  refine ⟨(100 * centuries + 4 * spans + years : Nat) + (days + 719468) / 146097 * 400, rest, ?_, ?_, bound, ?_⟩
  · rw [ofDays, Int.fdiv_eq_ediv_of_nonneg _ (by decide), Int.fmod_eq_emod_of_nonneg _ (by decide), inCycle]
    simp only [Int.toNat_natCast, year, fourths, hundredths, left]
    rfl
  · clear year left
    have whole := Int.mul_ediv_add_emod (days + 719468) 146097
    generalize (days + 719468) / 146097 = cycle at *
    have ofFour : ((100 * centuries + 4 * spans + years : Nat) + cycle * 400) / 4 =
        25 * centuries + spans + 100 * cycle := by omega
    have ofHundred : ((100 * centuries + 4 * spans + years : Nat) + cycle * 400) / 100 =
        centuries + 4 * cycle := by omega
    have ofCycle : ((100 * centuries + 4 * spans + years : Nat) + cycle * 400) / 400 = cycle := by omega
    rw [ofFour, ofHundred, ofCycle]
    omega
  · intro longer
    obtain ⟨lastYear, notCentury⟩ := last longer
    clear year left inCycle parts
    simp only [isLeap, Bool.and_eq_true, Bool.or_eq_true, decide_eq_true_eq]
    omega

/-- March starts behind January and February. -/
theorem march_eq (year : Int) :
    yearStart year + (59 + leapDays year) + 719468 = 365 * year + year / 4 - year / 100 + year / 400 := by
  rw [yearStart, leapDays_eq]
  split <;> omega

theorem inMarchYear_spec {year : Int} {rest : Nat} (bound : rest ≤ 365) (last : rest = 365 → isLeap (year + 1)) :
    (inMarchYear year rest).Valid ∧
      (inMarchYear year rest).number + 719468 = 365 * year + year / 4 - year / 100 + year / 400 + rest := by
  obtain ⟨fromMarch, month, most, reached, within⟩ := month_of_rest bound
  have march := march_eq year
  by_cases early : fromMarch < 10
  · have date : inMarchYear year rest =
        ⟨year, fromMarch + 3, rest - (153 * fromMarch + 2) / 5 + 1⟩ := by
      simp [inMarchYear, month, early]
    rw [date]
    refine ⟨⟨by dsimp only; omega, by dsimp only; omega, ?_⟩, ?_⟩
    · dsimp only
      interval_cases fromMarch <;> simp only [monthLength] <;> omega
    · rw [number, daysToMonth_eq _ (by dsimp only; omega)]
      dsimp only
      rw [if_neg (by omega)]
      omega
  · have date : inMarchYear year rest =
        ⟨year + 1, fromMarch - 9, rest - (153 * fromMarch + 2) / 5 + 1⟩ := by
      have behind : fromMarch - 9 ≤ 2 := by omega
      simp [inMarchYear, month, early, behind]
    have next := yearStart_succ year
    have leap : rest = 365 → leapDays (year + 1) = 1 := fun longer => by simp [leapDays, last longer]
    rw [yearLength] at next
    rw [date]
    refine ⟨⟨by dsimp only; omega, by dsimp only; omega, ?_⟩, ?_⟩
    · dsimp only
      interval_cases fromMarch <;> simp only [monthLength] <;> omega
    · rw [number, daysToMonth_eq _ (by dsimp only; omega)]
      dsimp only
      rw [if_pos (by omega), next]
      omega

/-- A count of days is turned into the date that lies so many days after the start of 1970. -/
theorem ofDays_spec (days : Int) : (ofDays days).Valid ∧ (ofDays days).number = days := by
  obtain ⟨year, rest, date, counted, bound, last⟩ := ofDays_eq days
  obtain ⟨valid, number⟩ := inMarchYear_spec bound last
  rw [date]
  exact ⟨valid, by omega⟩

/-! ## The order of dates -/

theorem daysToMonth_succ (year : Int) {month : Nat} (first : 1 ≤ month) :
    daysToMonth year (month + 1) = daysToMonth year month + monthLength year month := by
  obtain ⟨month, rfl⟩ := Nat.exists_eq_add_of_le' first
  rfl

theorem daysToMonth_mono (year : Int) : Monotone (daysToMonth year) := by
  refine monotone_nat_of_le_succ fun month => ?_
  cases month with
  | zero => exact Nat.le_refl _
  | succ month => exact Nat.le_add_right _ _

theorem daysToMonth_last (year : Int) : daysToMonth year 13 = yearLength year := by
  simp only [daysToMonth, monthLength, yearLength]
  omega

section order
variable {d e : Date}

theorem Valid.before_month (valid : d.Valid) {month : Nat} (later : d.month < month) :
    daysToMonth d.year d.month + (d.day - 1) < daysToMonth d.year month := by
  have next := daysToMonth_succ d.year valid.month.1
  have reached := daysToMonth_mono d.year (Nat.succ_le_of_lt later)
  have inMonth := valid.day
  rw [Nat.succ_eq_add_one, next] at reached
  omega

theorem Valid.before_year (valid : d.Valid) {year : Int} (later : d.year < year) :
    d.number < yearStart year := by
  have inYear := valid.before_month (Nat.lt_succ_of_le valid.month.2)
  have next := yearStart_succ d.year
  have reached := yearStart_mono (Int.add_one_le_of_lt later)
  rw [daysToMonth_last] at inYear
  rw [number]
  omega

theorem yearStart_le_number (d : Date) : yearStart d.year ≤ d.number := by
  rw [number]
  omega

theorem compare_number (valid : d.Valid) (valid' : e.Valid) : compare d.number e.number =
    (compare d.year e.year).then ((compare d.month e.month).then (compare d.day e.day)) := by
  refine compare_eq_then (fun less => ?_) (fun more => ?_) fun sameYear => ?_
  · exact (valid.before_year less).trans_le e.yearStart_le_number
  · exact (valid'.before_year more).trans_le d.yearStart_le_number
  refine compare_eq_then (fun less => ?_) (fun more => ?_) fun sameMonth => ?_
  · have reached := valid.before_month less
    rw [number, number, ← sameYear]
    omega
  · have reached := valid'.before_month more
    rw [number, number, sameYear]
    omega
  · have days := valid.day
    have days' := valid'.day
    refine compare_eq_compare (fun less => ?_) (fun more => ?_) fun sameDay => ?_ <;>
      rw [number, number, sameYear, sameMonth] <;> omega

end order
end Date
end Triage
