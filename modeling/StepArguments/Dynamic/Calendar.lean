import StepArguments.Decimal.Format

/-! # Instants and dates

An instant counts seconds and nanoseconds since the start of 1970; `Date.ofDays` is the Gregorian
date of a day, reckoned without a break in both directions. A leap second is the last second of a
minute with a thousand million nanoseconds or more. -/

namespace StepArguments

/-- A point in time, in seconds since the start of 1970 and nanoseconds on top. -/
structure Instant where
  seconds : Int
  nanoseconds : Nat
deriving DecidableEq, Inhabited

/-- A date of the Gregorian calendar. -/
structure Date where
  year : Int
  month : Nat
  day : Nat
deriving DecidableEq

def isLeapYear (year : Int) : Bool :=
  year % 4 == 0 && (year % 100 != 0 || year % 400 == 0)

namespace Date

/-- The days from the first of March of year 0 to the first of March of another year. -/
def daysToMarch (year : Int) : Int :=
  365 * year + year / 4 - year / 100 + year / 400

/-- The days from the first of March to the first of another month, counted from March. -/
def daysToMonth (month : Nat) : Nat :=
  (153 * month + 2) / 5

def epoch : Int := 719468

/-- The number of a date, counted in days from the start of 1970. -/
def toDays (d : Date) : Int :=
  let year := if d.month ≤ 2 then d.year - 1 else d.year
  let month := (d.month + 9) % 12
  daysToMarch year + (daysToMonth month : Nat) + (d.day : Int) - 1 - epoch

/-- The date of a day counted from the start of 1970. Years are taken from March to February, in
periods of four hundred. -/
def ofDays (days : Int) : Date :=
  let days := days + epoch
  -- 146097 days are four hundred years, 36524 a hundred, 1460 four without their leap day
  let period := days / 146097
  let dayOfPeriod := (days % 146097).toNat
  let yearOfPeriod :=
    (dayOfPeriod - dayOfPeriod / 1460 + dayOfPeriod / 36524 - dayOfPeriod / 146096) / 365
  let dayOfYear := dayOfPeriod - (365 * yearOfPeriod + yearOfPeriod / 4 - yearOfPeriod / 100)
  let month := (5 * dayOfYear + 2) / 153
  let day := dayOfYear - daysToMonth month + 1
  let year := (yearOfPeriod : Int) + period * 400
  if month < 10 then ⟨year, month + 3, day⟩ else ⟨year + 1, month - 9, day⟩

def padded (width n : Nat) : List Char :=
  let digits := Decimal.digitChars n
  List.replicate (width - digits.length) '0' ++ digits

/-- A year: four digits from 0 to 9999, and a sign with at least four digits beyond. -/
def yearChars (year : Int) : List Char :=
  if 0 ≤ year ∧ year ≤ 9999 then padded 4 year.toNat
  else (if year < 0 then '-' else '+') :: padded 4 year.natAbs

/-- A date as year, month and day. -/
def chars (d : Date) : List Char :=
  yearChars d.year ++ '-' :: padded 2 d.month ++ '-' :: padded 2 d.day

end Date

namespace Instant

def daySeconds : Int := 86400

def date (t : Instant) : Date :=
  Date.ofDays (t.seconds / daySeconds)

/-- The fraction of a second: none, or three, six or nine digits. -/
def fractionChars (nanoseconds : Nat) : List Char :=
  if nanoseconds = 0 then []
  else if nanoseconds % 1000000 = 0 then '.' :: Date.padded 3 (nanoseconds / 1000000)
  else if nanoseconds % 1000 = 0 then '.' :: Date.padded 6 (nanoseconds / 1000)
  else '.' :: Date.padded 9 nanoseconds

/-- Date and time of day with the offset of zero. A leap second is the sixtieth of its minute. -/
def chars (t : Instant) : List Char :=
  let second := (t.seconds % daySeconds).toNat
  let leap := t.nanoseconds / 1000000000
  t.date.chars ++ 'T' :: Date.padded 2 (second / 3600) ++
    ':' :: Date.padded 2 (second / 60 % 60) ++ ':' :: Date.padded 2 (second % 60 + leap) ++
    fractionChars (t.nanoseconds % 1000000000) ++ "+00:00".toList

end Instant

end StepArguments
