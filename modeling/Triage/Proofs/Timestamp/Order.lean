import Mathlib.Data.Nat.Digits.Defs
import Mathlib.Data.String.Basic
import Triage.Engine
import Triage.Proofs.Timestamp.Calendar

/-! Times in rules. Times are compared as texts, and the order of the texts is that of the times as long as
years have four digits: a year that has more is written with a sign, which comes before all digits. -/

namespace Triage

/-! ## Numbers of a fixed width -/

/-- The last digits of a number. -/
def decimal : Nat → Nat → List Char
  | 0, _ => []
  | width + 1, n => decimal width (n / 10) ++ [Nat.digitChar (n % 10)]

theorem length_decimal (width n : Nat) : (decimal width n).length = width := by
  induction width generalizing n with
  | zero => rfl
  | succ width ih => rw [decimal, List.length_append, ih, List.length_singleton]

/-- A number is filled up with zeros to its width. -/
theorem padded_toDigits {width n : Nat} (bound : n < 10 ^ (width + 1)) :
    List.replicate (width + 1 - (Nat.toDigits 10 n).length) '0' ++ Nat.toDigits 10 n =
      decimal (width + 1) n := by
  induction width generalizing n with
  | zero =>
    have small : n < 10 := by simpa using bound
    rw [Nat.toDigits_of_lt_base small, decimal, decimal, Nat.mod_eq_of_lt small]
    rfl
  | succ width ih =>
    have next := ih (n := n / 10) (Nat.div_lt_of_lt_mul (by rwa [Nat.mul_comm, ← Nat.pow_succ]))
    rw [decimal, ← next]
    by_cases small : n < 10
    · rw [Nat.toDigits_of_lt_base small, Nat.div_eq_of_lt small, Nat.mod_eq_of_lt small, Nat.toDigits_zero,
        List.length_singleton, List.length_singleton, Nat.add_sub_cancel, Nat.add_sub_cancel,
        List.replicate_succ']
    · rw [Nat.toDigits_of_base_le (by decide) (Nat.le_of_not_lt small), List.length_append,
        List.length_singleton, Nat.add_sub_add_right, List.append_assoc]

theorem toList_zeros {width n : Nat} (bound : n < 10 ^ (width + 1)) :
    (Timestamp.zeros (width + 1) n).toList = decimal (width + 1) n := by
  have length : (toString n).length = (Nat.toDigits 10 n).length := by
    rw [Nat.toString_eq_ofList_toDigits, String.length_ofList]
  rw [← padded_toDigits bound, ← length]
  simp only [Timestamp.zeros, String.toList_append, String.toList_ofList]
  rw [Nat.toString_eq_ofList_toDigits, String.toList_ofList]

/-! ## The order of texts -/

/-- Characters are compared from the first one on. -/
def compareChars (cs ds : List Char) : Ordering := compareOfLessAndEq cs ds

theorem compare_eq_compareChars (text text' : String) :
    compare text text' = compareChars text.toList text'.toList := by
  change compareOfLessAndEq text text' = _
  simp only [compareChars, compareOfLessAndEq, String.lt_iff_toList_lt, String.toList_inj]

theorem compareChars_self (cs : List Char) : compareChars cs cs = .eq := by
  simp [compareChars, compareOfLessAndEq]

theorem compareChars_cons (c d : Char) (cs ds : List Char) :
    compareChars (c :: cs) (d :: ds) = (compare c d).then (compareChars cs ds) := by
  rcases lt_trichotomy c d with less | rfl | more
  · have before : c :: cs < d :: ds := List.cons_lt_cons_iff.mpr (.inl less)
    rw [compare_lt_iff_lt.mpr less, Ordering.lt_then, compareChars, compareOfLessAndEq, if_pos before]
  · have before : c :: cs < c :: ds ↔ cs < ds := by simp
    rw [compare_eq_iff_eq.mpr rfl, Ordering.eq_then, compareChars, compareChars]
    simp only [compareOfLessAndEq, before, List.cons.injEq, true_and]
  · have notBefore : ¬c :: cs < d :: ds := fun before =>
      List.lt_asymm before (List.cons_lt_cons_iff.mpr (.inl more))
    have other : c :: cs ≠ d :: ds := fun same => more.ne' (List.cons.inj same).1
    rw [compare_gt_iff_gt.mpr more, Ordering.gt_then, compareChars, compareOfLessAndEq, if_neg notBefore,
      if_neg other]

theorem compareChars_append {a a' : List Char} (same : a.length = a'.length) (b b' : List Char) :
    compareChars (a ++ b) (a' ++ b') = (compareChars a a').then (compareChars b b') := by
  induction a generalizing a' with
  | nil =>
    obtain rfl := List.length_eq_zero_iff.mp same.symm
    rw [compareChars_self, Ordering.eq_then]
    rfl
  | cons c a ih =>
    obtain ⟨c', a', rfl⟩ := List.exists_cons_of_length_eq_add_one same.symm
    rw [List.cons_append, List.cons_append, compareChars_cons, compareChars_cons,
      ih (Nat.succ.inj same), Ordering.then_assoc]

theorem compare_digitChar {m n : Nat} (digit : m < 10) (digit' : n < 10) :
    compare (Nat.digitChar m) (Nat.digitChar n) = compare m n := by
  have each : ∀ m : Fin 10, ∀ n : Fin 10, compare (Nat.digitChar m) (Nat.digitChar n) = compare m.1 n.1 := by
    decide
  exact each ⟨m, digit⟩ ⟨n, digit'⟩

theorem compareChars_decimal {width m n : Nat} (bound : m < 10 ^ width) (bound' : n < 10 ^ width) :
    compareChars (decimal width m) (decimal width n) = compare m n := by
  induction width generalizing m n with
  | zero =>
    obtain rfl : m = 0 := by simpa using bound
    obtain rfl : n = 0 := by simpa using bound'
    rfl
  | succ width ih =>
    have lengths : (decimal width (m / 10)).length = (decimal width (n / 10)).length := by
      rw [length_decimal, length_decimal]
    rw [decimal, decimal, compareChars_append lengths,
      ih (Nat.div_lt_of_lt_mul (by rwa [Nat.mul_comm, ← Nat.pow_succ]))
        (Nat.div_lt_of_lt_mul (by rwa [Nat.mul_comm, ← Nat.pow_succ])),
      compareChars_cons, compareChars_self, Ordering.then_eq,
      compare_digitChar (Nat.mod_lt _ (by decide)) (Nat.mod_lt _ (by decide))]
    refine (compare_eq_then (fun less => ?_) (fun more => ?_) fun level => ?_).symm
    · omega
    · omega
    · refine compare_eq_compare (fun less => ?_) (fun more => ?_) fun same => ?_ <;> omega

/-! ## Spellings -/

/-- A date and a time of day in a text of fixed width. -/
def fields (year month day hour minute second : Nat) : List Char :=
  decimal 4 year ++ '-' :: (decimal 2 month ++ '-' :: (decimal 2 day ++ ' ' ::
    (decimal 2 hour ++ ':' :: (decimal 2 minute ++ ':' :: decimal 2 second))))

theorem compareChars_field {width m n : Nat} (bound : m < 10 ^ width) (bound' : n < 10 ^ width) (c : Char)
    (cs ds : List Char) : compareChars (decimal width m ++ c :: cs) (decimal width n ++ c :: ds) =
      (compare m n).then (compareChars cs ds) := by
  have lengths : (decimal width m).length = (decimal width n).length := by
    rw [length_decimal, length_decimal]
  rw [compareChars_append lengths, compareChars_decimal bound bound', compareChars_cons,
    compare_eq_iff_eq.mpr rfl, Ordering.eq_then]

/-- A time of day, of which every minute may have a leap second. -/
structure Clocked (hour minute second : Nat) : Prop where
  hour : hour < 24
  minute : minute < 60
  second : second ≤ 60

/-- A time that rules can spell. -/
structure Spelling where
  year : Nat
  month : Nat
  day : Nat
  hour : Nat
  minute : Nat
  second : Nat
  fourDigits : year ≤ 9999
  date : Date.Valid ⟨year, month, day⟩
  clock : Clocked hour minute second

def Spelling.text (u : Spelling) : String :=
  String.ofList (fields u.year u.month u.day u.hour u.minute u.second)

theorem Date.Valid.day_le {d : Date} (valid : d.Valid) : d.day ≤ 31 := by
  have length : monthLength d.year d.month ≤ 31 := by
    rw [monthLength.eq_def, leapDays]
    split <;> (try split) <;> omega
  exact valid.day.2.trans length

theorem compareChars_fields {d d' : Date} {hour minute second hour' minute' second' : Nat} (date : d.Valid)
    (date' : d'.Valid) (years : 0 ≤ d.year ∧ d.year ≤ 9999) (years' : 0 ≤ d'.year ∧ d'.year ≤ 9999)
    (clock : Clocked hour minute second) (clock' : Clocked hour' minute' second') :
    compareChars (fields d.year.toNat d.month d.day hour minute second)
      (fields d'.year.toNat d'.month d'.day hour' minute' second') =
    (compare d.number d'.number).then
      ((compare hour hour').then ((compare minute minute').then (compare second second'))) := by
  have months := date.month
  have months' := date'.month
  have days := date.day_le
  have days' := date'.day_le
  have hours := clock.hour
  have hours' := clock'.hour
  have minutes := clock.minute
  have minutes' := clock'.minute
  have seconds := clock.second
  have seconds' := clock'.second
  have year : compare d.year.toNat d'.year.toNat = compare d.year d'.year :=
    compare_eq_compare (by omega) (by omega) (by omega)
  rw [fields, fields, compareChars_field (by omega) (by omega), compareChars_field (by omega) (by omega),
    compareChars_field (by omega) (by omega), compareChars_field (by omega) (by omega),
    compareChars_field (by omega) (by omega), compareChars_decimal (by omega) (by omega), year,
    Date.compare_number date date', Ordering.then_assoc, Ordering.then_assoc]

/-- Signs come before all digits. -/
theorem compareChars_sign {sign : Char} (before : sign = '+' ∨ sign = '-') (cs : List Char)
    (year month day hour minute second : Nat) :
    compareChars (sign :: cs) (fields year month day hour minute second) = .lt := by
  have less : ∀ n : Fin 10, compare '+' (Nat.digitChar n) = .lt ∧ compare '-' (Nat.digitChar n) = .lt := by
    decide
  have first : ∃ rest, fields year month day hour minute second =
      Nat.digitChar (year / 10 / 10 / 10 % 10) :: rest := ⟨_, rfl⟩
  obtain ⟨rest, digits⟩ := first
  obtain ⟨plus, minus⟩ := less ⟨year / 10 / 10 / 10 % 10, Nat.mod_lt _ (by decide)⟩
  rw [digits, compareChars_cons]
  rcases before with rfl | rfl
  · rw [plus, Ordering.lt_then]
  · rw [minus, Ordering.lt_then]

/-! ## Moments -/

/-- A second of a minute, which are counted from the start of 1970. A leap second is the sixty-first of its
minute. -/
structure Moment where
  minute : Int
  second : Nat
deriving DecidableEq, Repr

instance : Ord Moment := ⟨fun a b => (compare a.minute b.minute).then (compare a.second b.second)⟩

/-- The second that a time lies in. -/
def Timestamp.moment (t : Timestamp) : Moment where
  minute := t.seconds.fdiv 60
  second := (t.seconds.fmod 60).toNat + if billion ≤ t.nanos then 1 else 0

namespace Spelling

/-- The days from the start of 1970. -/
def days (u : Spelling) : Int :=
  daysToYear u.year - daysToYear 1970 + daysToMonth u.year u.month + (u.day - 1 : Nat)

def moment (u : Spelling) : Moment where
  minute := (u.days * 24 + u.hour) * 60 + u.minute
  second := u.second

theorem number_date (u : Spelling) : Date.number ⟨u.year, u.month, u.day⟩ = u.days := by
  rw [Date.number, yearStart_eq, days]

end Spelling

/-- Minutes are counted by days and hours. -/
theorem compare_minutes {days days' : Int} {hour minute hour' minute' : Nat} (hours : hour < 24)
    (hours' : hour' < 24) (minutes : minute < 60) (minutes' : minute' < 60) :
    compare ((days * 24 + hour) * 60 + minute) ((days' * 24 + hour') * 60 + minute') =
      (compare days days').then ((compare hour hour').then (compare minute minute')) := by
  refine compare_eq_then (fun less => by omega) (fun more => by omega) fun sameDays => ?_
  refine compare_eq_then (fun less => by omega) (fun more => by omega) fun sameHours => ?_
  exact compare_eq_compare (fun less => by omega) (fun more => by omega) fun same => by omega

namespace Timestamp
variable (t : Timestamp)

def date : Date := Date.ofDays (t.seconds.fdiv 86400)

/-- The second of the day, without leap seconds. -/
def daySecond : Nat := (t.seconds.fmod 86400).toNat

def leapSecond : Nat := if billion ≤ t.nanos then 1 else 0

theorem clocked : Clocked (t.daySecond / 3600) (t.daySecond / 60 % 60) (t.daySecond % 60 + t.leapSecond) := by
  have bound : t.daySecond < 86400 := by
    rw [daySecond, Int.fmod_eq_emod_of_nonneg _ (by decide)]
    omega
  have leap : t.leapSecond ≤ 1 := by
    rw [leapSecond]
    split <;> omega
  constructor <;> omega

theorem toList_text (years : 0 ≤ t.date.year ∧ t.date.year ≤ 9999) :
    t.text.toList = fields t.date.year.toNat t.date.month t.date.day (t.daySecond / 3600)
      (t.daySecond / 60 % 60) (t.daySecond % 60 + t.leapSecond) := by
  have valid : t.date.Valid := (Date.ofDays_spec _).1
  have months := valid.month
  have days := valid.day_le
  have hours := t.clocked.hour
  have minutes := t.clocked.minute
  have seconds := t.clocked.second
  have year : yearText t.date.year = zeros 4 t.date.year.toNat := if_pos years
  have dateText : t.dateText = zeros 4 t.date.year.toNat ++ "-" ++ zeros 2 t.date.month ++ "-" ++
      zeros 2 t.date.day := by
    rw [← year]
    rfl
  have clockText : t.clockText = zeros 2 (t.daySecond / 3600) ++ ":" ++ zeros 2 (t.daySecond / 60 % 60) ++
      ":" ++ zeros 2 (t.daySecond % 60 + t.leapSecond) := rfl
  rw [text, dateText, clockText]
  simp only [String.toList_append]
  rw [toList_zeros (by omega), toList_zeros (by omega), toList_zeros (by omega), toList_zeros (by omega),
    toList_zeros (by omega), toList_zeros (by omega)]
  simp [fields]

theorem text_signed (years : ¬(0 ≤ t.date.year ∧ t.date.year ≤ 9999)) :
    ∃ sign cs, t.text.toList = sign :: cs ∧ (sign = '+' ∨ sign = '-') := by
  have year : yearText t.date.year = (if t.date.year < 0 then "-" else "+") ++ zeros 4 t.date.year.natAbs :=
    if_neg years
  have text : t.text = yearText t.date.year ++ ("-" ++ zeros 2 t.date.month ++ "-" ++ zeros 2 t.date.day ++
      " " ++ t.clockText) := by
    simp only [Timestamp.text, dateText, date, String.append_assoc]
  rw [text, year]
  simp only [String.toList_append]
  split
  · exact ⟨'-', _, rfl, .inr rfl⟩
  · exact ⟨'+', _, rfl, .inl rfl⟩

theorem compare_moment (u : Spelling) : compare t.moment u.moment = (compare t.date.number u.days).then
    ((compare (t.daySecond / 3600) u.hour).then ((compare (t.daySecond / 60 % 60) u.minute).then
      (compare (t.daySecond % 60 + t.leapSecond) u.second))) := by
  have sixty : (0 : Int) ≤ 60 ∧ (0 : Int) ≤ 86400 := by decide
  have minute : t.moment.minute = (t.date.number * 24 + (t.daySecond / 3600 : Nat)) * 60 +
      (t.daySecond / 60 % 60 : Nat) := by
    simp only [date, (Date.ofDays_spec _).2, moment, daySecond, Int.fmod_eq_emod_of_nonneg _ sixty.2,
      Int.fdiv_eq_ediv_of_nonneg _ sixty.1, Int.fdiv_eq_ediv_of_nonneg _ sixty.2]
    omega
  have second : t.moment.second = t.daySecond % 60 + t.leapSecond := by
    simp only [moment, daySecond, leapSecond, Int.fmod_eq_emod_of_nonneg _ sixty.1,
      Int.fmod_eq_emod_of_nonneg _ sixty.2]
    omega
  change (compare t.moment.minute u.moment.minute).then (compare t.moment.second u.moment.second) = _
  rw [minute, second, Spelling.moment, compare_minutes t.clocked.hour u.clock.hour t.clocked.minute
    u.clock.minute, Ordering.then_assoc, Ordering.then_assoc]

/-- The end of the years that have four digits at most. -/
def fourDigitsEnd : Int := 86400 * yearStart 10000

theorem compare_text (u : Spelling) : compare t.text u.text =
    if t.seconds < fourDigitsEnd then compare t.moment u.moment else .lt := by
  obtain ⟨valid, number⟩ := Date.ofDays_spec (t.seconds.fdiv 86400)
  change t.date.Valid at valid
  change t.date.number = _ at number
  rw [Int.fdiv_eq_ediv_of_nonneg _ (by decide)] at number
  have digits : (u.year : Int) ≤ 9999 := by exact_mod_cast u.fourDigits
  rw [compare_eq_compareChars, Spelling.text, String.toList_ofList]
  have early : t.seconds < fourDigitsEnd ↔ t.date.year < 10000 := by
    rw [fourDigitsEnd]
    constructor
    · intro before
      by_contra late
      have reached := yearStart_mono (not_lt.mp late)
      have start := t.date.yearStart_le_number
      omega
    · intro before
      have reached := valid.before_year before
      omega
  by_cases years : 0 ≤ t.date.year ∧ t.date.year ≤ 9999
  · have compared := compareChars_fields valid u.date years ⟨Int.natCast_nonneg u.year, digits⟩ t.clocked u.clock
    rw [Int.toNat_natCast, u.number_date, ← compare_moment] at compared
    rw [if_pos (early.mpr (Int.lt_add_one_of_le years.2)), t.toList_text years]
    exact compared
  · obtain ⟨sign, cs, signed, before⟩ := t.text_signed years
    rw [signed, compareChars_sign before]
    split
    · rename_i isEarly
      have negative : t.date.year < 0 := by
        have := early.mp isEarly
        omega
      have less : t.date.number < u.days := by
        rw [← u.number_date]
        have reached := valid.before_year (negative.trans_le (Int.natCast_nonneg u.year))
        exact reached.trans_le (Date.yearStart_le_number ⟨u.year, u.month, u.day⟩)
      rw [compare_moment, compare_lt_iff_lt.mpr less, Ordering.lt_then]
    · rfl

end Timestamp

/-- A time is compared to one that a rule spells as they follow one another in time, if its year has no more
than four digits. A year with more digits is written with a sign, and such a time is taken to be before all
that rules can spell. -/
theorem timestamps_ordered (d : Dirent) (n : Inode) (t : Timestamp) (u : Spelling) (op : CompareOp) :
    (FileFacts.comparisonHolds d { n with created := some t } ⟨.created, op, .text u.text⟩ =
      if t.seconds < Timestamp.fourDigitsEnd then op.compare t.moment u.moment else op.holds .lt) ∧
    (FileFacts.comparisonHolds d { n with modified := some t } ⟨.modified, op, .text u.text⟩ =
      if t.seconds < Timestamp.fourDigitsEnd then op.compare t.moment u.moment else op.holds .lt) := by
  have holds : op.compare t.text u.text =
      if t.seconds < Timestamp.fourDigitsEnd then op.compare t.moment u.moment else op.holds .lt := by
    rw [CompareOp.compare, CompareOp.compare, Timestamp.compare_text]
    split <;> rfl
  exact ⟨holds, holds⟩

/-- The last second that a rule can spell. -/
def lastSpelling : Spelling where
  year := 9999
  month := 12
  day := 31
  hour := 23
  minute := 59
  second := 59
  fourDigits := by decide
  date := ⟨by decide, by decide⟩
  clock := ⟨by decide, by decide, by decide⟩

/-- The second behind it, the first one of a year with five digits, is not found to be later. -/
theorem fiveDigits_misplaced : CompareOp.gt.compare (Timestamp.moment ⟨253402300800, 0⟩) lastSpelling.moment = true ∧
    FileFacts.comparisonHolds ⟨"", "", 0, .file⟩ ⟨0, 0, some ⟨253402300800, 0⟩, none, none⟩
      ⟨.created, .gt, .text lastSpelling.text⟩ = false := by
  have day : lastSpelling.days = 2932896 := by
    rw [← lastSpelling.number_date]
    decide
  constructor
  · simp only [CompareOp.compare, Spelling.moment, day]
    decide
  · decide

end Triage
