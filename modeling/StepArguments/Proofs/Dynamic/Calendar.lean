import Mathlib.Tactic.IntervalCases
import Mathlib.Tactic.SplitIfs
import StepArguments.Dynamic.Calendar

/-! # Days and dates

The calendar is the rule of the leap years and the lengths of the months; `Date.number` counts the
days by it, year by year and month by month.  `Date.ofDays` finds the date of a day by divisions
instead, in years that start with March, so that the leap day is the last day of its year.

* `IsDivided` cuts a period of four hundred years into centuries, spans of four years, years and days.
  A cut that would be a fifth year of a span, or a fifth century, is the leap day at its end.
* `yearOfPeriod_eq` and `dayOfYear_eq` say that the divisions give these parts.
* `toDays_ofDays` and `isValid_ofDays` hold for all days, before year 0 as well: each day has a date of
  the calendar, and no other day has it.
* `number_eq_toDays` ties the count of days by years and months to the formula.
-/

namespace StepArguments.Date

/-! ## The calendar -/

def yearLength (year : Int) : Nat :=
  if isLeapYear year then 366 else 365

def monthLength (year : Int) (month : Nat) : Nat :=
  if month = 2 then if isLeapYear year then 29 else 28
  else if month = 4 ∨ month = 6 ∨ month = 9 ∨ month = 11 then 30
  else 31

/-- A date that is in the calendar. -/
def IsValid (d : Date) : Prop :=
  1 ≤ d.month ∧ d.month ≤ 12 ∧ 1 ≤ d.day ∧ d.day ≤ monthLength d.year d.month

instance (d : Date) : Decidable d.IsValid :=
  inferInstanceAs (Decidable (_ ∧ _))

/-- The days of so many years from year 0 on. -/
def daysOfYears : (years : Nat) → Nat
  | 0 => 0
  | years + 1 => daysOfYears years + yearLength years

/-- The days of so many months of a year. -/
def daysOfMonths (year : Int) : (months : Nat) → Nat
  | 0 => 0
  | months + 1 => daysOfMonths year months + monthLength year (months + 1)

/-- The number of a date from year 0 on, counted in days from the start of 1970. -/
def number (d : Date) : Int :=
  daysOfYears d.year.toNat + daysOfMonths d.year (d.month - 1) + d.day - 1 - daysOfYears 1970

theorem isLeapYear_iff (year : Int) :
    isLeapYear year = true ↔ year % 4 = 0 ∧ (year % 100 ≠ 0 ∨ year % 400 = 0) := by
  simp [isLeapYear]

/-! ## Parts of a period -/

/-- A day of a period of four hundred years, counted in centuries, spans of four years, years and
    days.  Only the last year of a span has a day 365, and if the span is the last one of a century, the
    century has to be the last one too. -/
structure IsDivided (n century span year day : Nat) : Prop where
  eq : n = 36524 * century + 1461 * span + 365 * year + day
  century_le : century ≤ 3
  span_le : span ≤ 24
  year_le : year ≤ 3
  day_le : day ≤ 365
  leap : day = 365 → year = 3 ∧ (span = 24 → century = 3)

variable {n century span year day : Nat}

theorem exists_isDivided (hPeriod : n < 146097) :
    ∃ century span year day, IsDivided n century span year day := by
  by_cases hLast : n = 146096
  · -- the leap day at the end of the period, where the quotient would be a fifth century
    exact ⟨3, 24, 3, 365, hLast, by omega, by omega, by omega, by omega, by omega⟩
  · by_cases hLeap : n % 36524 % 1461 = 1460
    · -- the leap day at the end of a span, where the quotient would be a fifth year
      exact ⟨n / 36524, n % 36524 / 1461, 3, 365,
        by omega, by omega, by omega, by omega, by omega, by omega⟩
    · exact ⟨n / 36524, n % 36524 / 1461, n % 36524 % 1461 / 365, n % 36524 % 1461 % 365,
        by omega, by omega, by omega, by omega, by omega, by omega⟩

def yearOfPeriod (n : Nat) : Nat :=
  (n - n / 1460 + n / 36524 - n / 146096) / 365

def dayOfYear (n : Nat) : Nat :=
  n - (365 * yearOfPeriod n + yearOfPeriod n / 4 - yearOfPeriod n / 100)

/-- The three quotients take the leap days out, so that years of 365 days are left. -/
theorem IsDivided.yearOfPeriod_eq (divided : IsDivided n century span year day) :
    yearOfPeriod n = 100 * century + 4 * span + year := by
  obtain ⟨rfl, hCentury, hSpan, hYear, hDay, hLeap⟩ := divided
  -- no divisor is the length of its part, so near the end of a part a quotient may be one too large
  have hSpans : (36524 * century + 1461 * span + 365 * year + day) / 1460 =
      25 * century + span + if 1460 ≤ 24 * century + span + 365 * year + day then 1 else 0 := by
    split_ifs <;> omega
  have hCenturies : (36524 * century + 1461 * span + 365 * year + day) / 36524 =
      century + if span = 24 ∧ year = 3 ∧ day = 365 then 1 else 0 := by
    split_ifs <;> omega
  have hPeriods : (36524 * century + 1461 * span + 365 * year + day) / 146096 =
      if century = 3 ∧ span = 24 ∧ year = 3 ∧ day = 365 then 1 else 0 := by
    split_ifs <;> omega
  rw [yearOfPeriod, hSpans, hCenturies, hPeriods]
  -- then the day is a late one, or the leap day, and taking off one leaves the year as it is
  split_ifs <;> omega

theorem IsDivided.dayOfYear_eq (divided : IsDivided n century span year day) :
    dayOfYear n = day := by
  rw [dayOfYear, divided.yearOfPeriod_eq]
  obtain ⟨rfl, hCentury, hSpan, hYear, -, -⟩ := divided
  omega

/-! ## Years from March on -/

/-- The date of a day of a year that starts with March. -/
def ofMarch (year : Int) (dayOfYear : Nat) : Date :=
  let month := (5 * dayOfYear + 2) / 153
  let day := dayOfYear - daysToMonth month + 1
  if month < 10 then ⟨year, month + 3, day⟩ else ⟨year + 1, month - 9, day⟩

theorem ofDays_eq (days : Int) :
    ofDays days =
      let n := ((days + epoch) % 146097).toNat
      ofMarch (yearOfPeriod n + (days + epoch) / 146097 * 400) (dayOfYear n) :=
  rfl

theorem daysToMarch_eq (year : Int) :
    daysToMarch year = daysToMarch (year - 1) + yearLength year := by
  have hLeap := isLeapYear_iff year
  simp only [daysToMarch, yearLength]
  split_ifs with hYear
  · have hDigits := hLeap.1 hYear
    omega
  · have hDigits := mt hLeap.2 hYear
    omega

/-- A day is one of the year from March in which its date is found. -/
theorem exists_ofDays_eq (days : Int) :
    ∃ (year : Int) (dayOfYear : Nat), ofDays days = ofMarch year dayOfYear ∧
      days + epoch = daysToMarch year + dayOfYear ∧ dayOfYear < yearLength (year + 1) := by
  obtain ⟨century, span, year, day, divided⟩ :=
    exists_isDivided (n := ((days + epoch) % 146097).toNat) (by omega)
  refine ⟨_, _, ofDays_eq days, ?_, ?_⟩
  · rw [divided.yearOfPeriod_eq, divided.dayOfYear_eq, daysToMarch]
    obtain ⟨hEq, hCentury, hSpan, hYear, -, -⟩ := divided
    omega
  · rw [divided.yearOfPeriod_eq, divided.dayOfYear_eq, yearLength]
    obtain ⟨-, hCentury, hSpan, hYear, hDay, hLeap⟩ := divided
    split_ifs with hNext
    · omega
    · -- the last day of a year from March is a leap day only if February belongs to a leap year
      rw [isLeapYear_iff] at hNext
      omega

/-! ## Months from March on -/

/-- A day of a year from March is one of the month in which its date is found. -/
theorem exists_ofMarch_eq {dayOfYear : Nat} (year : Int) (hYear : dayOfYear ≤ 365) :
    ∃ month day, month ≤ 11 ∧ dayOfYear = daysToMonth month + day ∧
      daysToMonth month + day < daysToMonth (month + 1) ∧
      ofMarch year dayOfYear =
        if month < 10 then ⟨year, month + 3, day + 1⟩ else ⟨year + 1, month - 9, day + 1⟩ := by
  have hMonth : daysToMonth ((5 * dayOfYear + 2) / 153) ≤ dayOfYear ∧
      dayOfYear < daysToMonth ((5 * dayOfYear + 2) / 153 + 1) := by
    simp only [daysToMonth]
    omega
  exact ⟨(5 * dayOfYear + 2) / 153, dayOfYear - daysToMonth ((5 * dayOfYear + 2) / 153), by omega,
    by omega, by omega, rfl⟩

theorem toDays_ofMarch {dayOfYear : Nat} (year : Int) (hYear : dayOfYear ≤ 365) :
    toDays (ofMarch year dayOfYear) + epoch = daysToMarch year + dayOfYear := by
  obtain ⟨month, day, hMonth, rfl, -, hDate⟩ := exists_ofMarch_eq year hYear
  rw [hDate, toDays]
  split_ifs with hEarly hJanuary hJanuary
  · simp at hJanuary
  · have hBack : (month + 3 + 9) % 12 = month := by omega
    simp only [hBack]
    omega
  · -- January and February count to the year before
    have hBack : (month - 9 + 9) % 12 = month := by omega
    simp only [hBack, Int.add_sub_cancel]
    omega
  · simp at hJanuary
    omega

theorem isValid_ofMarch {dayOfYear : Nat} {year : Int}
    (hYear : dayOfYear < yearLength (year + 1)) : IsValid (ofMarch year dayOfYear) := by
  have hLong : dayOfYear ≤ 365 := by
    rw [yearLength] at hYear
    split_ifs at hYear <;> omega
  obtain ⟨month, day, hMonth, rfl, hDay, hDate⟩ := exists_ofMarch_eq year hLong
  rw [hDate]
  simp only [daysToMonth] at hYear hDay
  split_ifs with hEarly
  · refine ⟨by dsimp; omega, by dsimp; omega, by dsimp; omega, ?_⟩
    simp only [monthLength]
    split_ifs <;> omega
  · refine ⟨by dsimp; omega, by dsimp; omega, by dsimp; omega, ?_⟩
    simp only [monthLength, yearLength] at hYear ⊢
    split_ifs at hYear ⊢ <;> omega

/-! ## All days -/

theorem isValid_ofDays (days : Int) : IsValid (ofDays days) := by
  obtain ⟨year, dayOfYear, hDate, -, hYear⟩ := exists_ofDays_eq days
  rw [hDate]
  exact isValid_ofMarch hYear

/-- The date of a day has the number of the day. -/
theorem toDays_ofDays (days : Int) : toDays (ofDays days) = days := by
  obtain ⟨year, dayOfYear, hDate, hDays, hYear⟩ := exists_ofDays_eq days
  have hLong : dayOfYear ≤ 365 := by
    rw [yearLength] at hYear
    split_ifs at hYear <;> omega
  have hBack := toDays_ofMarch year hLong
  rw [hDate]
  omega

example : ofDays 19782 = ⟨2024, 2, 29⟩ ∧ toDays ⟨2024, 2, 29⟩ = 19782 := by decide +kernel

/-! ## Counting by years and months -/

theorem daysOfYears_eq (years : Nat) :
    (daysOfYears years : Int) = daysToMarch (years - 1) + 366 := by
  induction years with
  | zero => decide
  | succ years ih =>
    have hYear := daysToMarch_eq years
    rw [daysOfYears]
    push_cast
    rw [Int.add_sub_cancel]
    omega

/-- January and February are the last months of a year from March; the others come after both. -/
theorem daysOfMonths_eq {month : Nat} (year : Int) (hFirst : 1 ≤ month) (hLast : month ≤ 12) :
    daysOfMonths year (month - 1) + 306 =
      daysToMonth ((month + 9) % 12) + if month ≤ 2 then 0 else yearLength year := by
  rw [yearLength]
  interval_cases month
  all_goals cases hLeap : isLeapYear year <;> simp [daysOfMonths, monthLength, daysToMonth, hLeap]

theorem number_eq_toDays {d : Date} (hValid : d.IsValid) (hYear : 0 ≤ d.year) :
    d.number = d.toDays := by
  obtain ⟨hFirst, hLast, -, -⟩ := hValid
  have hMonths := daysOfMonths_eq d.year hFirst hLast
  have hYears := daysOfYears_eq d.year.toNat
  have hMarch := daysToMarch_eq d.year
  have hStart := daysOfYears_eq 1970
  rw [Int.toNat_of_nonneg hYear] at hYears
  simp only [number, toDays, epoch]
  -- the months up to February, and the months after it
  split_ifs at hMonths ⊢
  all_goals
    simp only [daysToMarch] at hMonths hYears hMarch hStart ⊢
    omega

/-! ## The year of a day -/

theorem daysOfMonths_add_monthLength_le {month : Nat} (year : Int) (hFirst : 1 ≤ month)
    (hLast : month ≤ 12) :
    daysOfMonths year (month - 1) + monthLength year month ≤ yearLength year := by
  rw [yearLength]
  interval_cases month
  all_goals cases hLeap : isLeapYear year <;> simp [daysOfMonths, monthLength, hLeap]

/-- The days of a year come after those of the years before. -/
theorem toDays_bounds {d : Date} (hValid : d.IsValid) :
    daysToMarch (d.year - 1) + 306 ≤ d.toDays + epoch ∧
      d.toDays + epoch < daysToMarch d.year + 306 := by
  obtain ⟨hFirst, hLast, hDay, hLength⟩ := hValid
  have hMonths := daysOfMonths_eq d.year hFirst hLast
  have hYear := daysOfMonths_add_monthLength_le d.year hFirst hLast
  have hMarch := daysToMarch_eq d.year
  simp only [toDays]
  split_ifs at hMonths ⊢
  all_goals omega

theorem number_first_year : number ⟨0, 1, 1⟩ = -719528 :=
  number_eq_toDays (by decide) (by decide)

theorem number_end_of_years : number ⟨10000, 1, 1⟩ = 2932897 :=
  number_eq_toDays (by decide) (by decide)

theorem year_ofDays {days : Int} (hSince : number ⟨0, 1, 1⟩ ≤ days)
    (hBefore : days < number ⟨10000, 1, 1⟩) :
    0 ≤ (ofDays days).year ∧ (ofDays days).year ≤ 9999 := by
  have hBounds := toDays_bounds (isValid_ofDays days)
  rw [number_first_year] at hSince
  rw [number_end_of_years] at hBefore
  rw [toDays_ofDays] at hBounds
  simp only [daysToMarch, epoch] at hBounds
  omega

end StepArguments.Date
