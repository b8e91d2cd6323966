import Mathlib.Tactic.SplitIfs
import StepArguments.Dynamic.Builtin
import StepArguments.Proofs.Decimal.Digits
import StepArguments.Proofs.Dynamic.Calendar
import StepArguments.Text.Search

/-! # The time as text

`Instant.read?` reads a text of date, time of day, an optional fraction and the offset zero, and it
takes nothing but dates of the calendar and times of a day.  The date counts as many days as its years
and months have, so the reader knows nothing of the divisions that the date was found by.

Each field is written with its full width, so that it ends where the next one starts
(`readNumber?_padded`), and a fraction ends at the sign of the offset.  So the text of an instant is read
as the instant, to the nanosecond (`read?_chars`), and the three variables that read the clock agree on
what it shows (`value_clock`).
-/

namespace StepArguments

/-! ## Reading -/

/-- Reads a number of so many digits. -/
def readNumber? (width : Nat) (s : List Char) : Option (Nat × List Char) :=
  if (s.take width).length = width ∧ (s.take width).all Char.isDigit = true then
    some (Nat.ofDigitChars 10 (s.take width) 0, s.drop width)
  else none

/-- Reads year, month and day, if there is such a date. -/
def Date.read? (s : List Char) : Option (Date × List Char) := do
  let (year, s) ← readNumber? 4 s
  let s ← Text.after? ['-'] s
  let (month, s) ← readNumber? 2 s
  let s ← Text.after? ['-'] s
  let (day, s) ← readNumber? 2 s
  let date : Date := ⟨year, month, day⟩
  if date.IsValid then some (date, s) else none

/-- Reads hour, minute and second of a day, as seconds. -/
def readTime? (s : List Char) : Option (Nat × List Char) := do
  let (hour, s) ← readNumber? 2 s
  let s ← Text.after? [':'] s
  let (minute, s) ← readNumber? 2 s
  let s ← Text.after? [':'] s
  let (second, s) ← readNumber? 2 s
  if hour < 24 ∧ minute < 60 ∧ second < 60 then some (3600 * hour + 60 * minute + second, s)
  else none

/-- Reads a fraction of a second, as nanoseconds. -/
def readFraction? : List Char → Option (Nat × List Char)
  | '.' :: s =>
    let digits := s.takeWhile Char.isDigit
    if 1 ≤ digits.length ∧ digits.length ≤ 9 then
      some (Nat.ofDigitChars 10 digits 0 * 10 ^ (9 - digits.length), s.dropWhile Char.isDigit)
    else none
  | s => some (0, s)

/-- Reads a whole text as a point in time. -/
def Instant.read? (s : List Char) : Option Instant := do
  let (date, s) ← Date.read? s
  let s ← Text.after? ['T'] s
  let (second, s) ← readTime? s
  let (nanoseconds, s) ← readFraction? s
  if s = "+00:00".toList then some ⟨daySeconds * date.number + second, nanoseconds⟩ else none

/-! ## Numbers with leading zeros -/

variable {width n : Nat}

theorem length_padded (hPositive : 0 < width) (hWidth : n < 10 ^ width) :
    (Date.padded width n).length = width := by
  have hDigits : (Decimal.digitChars n).length ≤ width :=
    (Nat.length_toDigits_le_iff (by decide) hPositive).2 hWidth
  simp only [Date.padded, List.length_append, List.length_replicate]
  omega

theorem isDigit_of_mem_padded {c : Char} (hMem : c ∈ Date.padded width n) : c.isDigit = true := by
  rcases List.mem_append.1 hMem with hZero | hDigit
  · rw [List.eq_of_mem_replicate hZero]
    rfl
  · exact Decimal.isDigit_of_mem_digitChars hDigit

theorem ofDigitChars_padded (width n : Nat) :
    Nat.ofDigitChars 10 (Date.padded width n) 0 = n := by
  have hZeros (count : Nat) (s : List Char) :
      Nat.ofDigitChars 10 (List.replicate count '0' ++ s) 0 = Nat.ofDigitChars 10 s 0 := by
    induction count with
    | zero => rfl
    | succ count ih =>
      rw [List.replicate_succ, List.cons_append, Decimal.ofDigitChars_cons]
      exact ih
  rw [Date.padded, hZeros, Decimal.ofDigitChars_digitChars]

theorem readNumber?_padded (hPositive : 0 < width) (hWidth : n < 10 ^ width) (rest : List Char) :
    readNumber? width (Date.padded width n ++ rest) = some (n, rest) := by
  have hLength := length_padded hPositive hWidth
  have hTake : (Date.padded width n ++ rest).take width = Date.padded width n :=
    List.take_left' hLength
  have hDigits : (Date.padded width n).all Char.isDigit = true :=
    List.all_eq_true.2 fun c hMem => isDigit_of_mem_padded hMem
  rw [readNumber?, hTake, if_pos ⟨hLength, hDigits⟩, ofDigitChars_padded, List.drop_left' hLength]

/-! ## Dates, times of day, fractions -/

theorem Date.IsValid.widths {d : Date} (hValid : d.IsValid) : d.month < 10 ^ 2 ∧ d.day < 10 ^ 2 := by
  have hLength : monthLength d.year d.month ≤ 31 := by
    rw [monthLength]
    split_ifs <;> omega
  obtain ⟨-, hMonth, -, hDay⟩ := hValid
  omega

theorem Date.chars_eq {d : Date} (hSince : 0 ≤ d.year) (hBefore : d.year ≤ 9999) :
    d.chars = padded 4 d.year.toNat ++ ('-' :: (padded 2 d.month ++ ('-' :: padded 2 d.day))) := by
  rw [chars, yearChars, if_pos ⟨hSince, hBefore⟩, List.append_assoc]
  rfl

theorem Date.length_chars {d : Date} (hValid : d.IsValid) (hSince : 0 ≤ d.year)
    (hBefore : d.year ≤ 9999) : d.chars.length = 10 := by
  obtain ⟨hMonth, hDay⟩ := hValid.widths
  have hYear : d.year.toNat < 10 ^ 4 := by omega
  rw [chars_eq hSince hBefore]
  simp only [List.length_append, List.length_cons, length_padded (by decide) hYear,
    length_padded (by decide) hMonth, length_padded (by decide) hDay]

theorem Date.read?_chars {d : Date} (hValid : d.IsValid) (hSince : 0 ≤ d.year)
    (hBefore : d.year ≤ 9999) (rest : List Char) : read? (d.chars ++ rest) = some (d, rest) := by
  obtain ⟨hMonth, hDay⟩ := hValid.widths
  have hYear : d.year.toNat < 10 ^ 4 := by omega
  have hDate : (⟨(d.year.toNat : Int), d.month, d.day⟩ : Date) = d := by
    rw [Int.toNat_of_nonneg hSince]
  rw [chars_eq hSince hBefore, read?]
  simp only [List.append_assoc, List.cons_append, readNumber?_padded (by decide) hYear,
    readNumber?_padded (by decide) hMonth, readNumber?_padded (by decide) hDay, Text.after?_cons,
    Option.bind_eq_bind, Option.bind_some, hDate, if_pos hValid]

/-- A fraction ends at the first character that is no digit. -/
theorem readFraction?_padded {c : Char} (hPositive : 0 < width) (hPlaces : width ≤ 9)
    (hWidth : n < 10 ^ width) (hOther : c.isDigit = false) (s : List Char) :
    readFraction? ('.' :: Date.padded width n ++ c :: s) = some (n * 10 ^ (9 - width), c :: s) := by
  have hDigits : ∀ d ∈ Date.padded width n, d.isDigit = true := fun d => isDigit_of_mem_padded
  have hTake : (Date.padded width n ++ c :: s).takeWhile Char.isDigit = Date.padded width n := by
    rw [List.takeWhile_append_of_pos hDigits, List.takeWhile_cons_of_neg (by simp [hOther]),
      List.append_nil]
  have hDrop : (Date.padded width n ++ c :: s).dropWhile Char.isDigit = c :: s := by
    rw [List.dropWhile_append_of_pos hDigits, List.dropWhile_cons_of_neg (by simp [hOther])]
  rw [List.cons_append, readFraction?]
  simp only [hTake, hDrop, length_padded hPositive hWidth, ofDigitChars_padded]
  rw [if_pos ⟨hPositive, hPlaces⟩]

theorem Instant.readFraction?_fractionChars {nanoseconds : Nat} (hSecond : nanoseconds < 1000000000)
    {c : Char} {s : List Char} (hOther : c.isDigit = false) (hPoint : c ≠ '.') :
    readFraction? (fractionChars nanoseconds ++ c :: s) = some (nanoseconds, c :: s) := by
  rw [fractionChars]
  split_ifs with hNone hMilli hMicro
  · -- no fraction is written, and what follows must not be taken for one
    subst hNone
    rw [List.nil_append, readFraction?]
    intro t hStart
    exact hPoint (List.cons.inj hStart).1
  · have hBack : nanoseconds / 1000000 * 10 ^ (9 - 3) = nanoseconds := by omega
    rw [readFraction?_padded (by omega) (by omega) (by omega) hOther, hBack]
  · have hBack : nanoseconds / 1000 * 10 ^ (9 - 6) = nanoseconds := by omega
    rw [readFraction?_padded (by omega) (by omega) (by omega) hOther, hBack]
  · rw [readFraction?_padded (by omega) (by omega) hSecond hOther, Nat.sub_self, Nat.pow_zero,
      Nat.mul_one]

theorem readTime?_padded {second : Nat} (hDay : second < 86400) (rest : List Char) :
    readTime? (Date.padded 2 (second / 3600) ++ (':' :: (Date.padded 2 (second / 60 % 60) ++
        (':' :: (Date.padded 2 (second % 60) ++ rest))))) = some (second, rest) := by
  have hHour : second / 3600 < 10 ^ 2 := by omega
  have hMinute : second / 60 % 60 < 10 ^ 2 := by omega
  have hSecond : second % 60 < 10 ^ 2 := by omega
  have hTimes : second / 3600 < 24 ∧ second / 60 % 60 < 60 ∧ second % 60 < 60 := by omega
  have hBack : 3600 * (second / 3600) + 60 * (second / 60 % 60) + second % 60 = second := by omega
  rw [readTime?]
  simp only [readNumber?_padded (by decide) hHour, readNumber?_padded (by decide) hMinute,
    readNumber?_padded (by decide) hSecond, Text.after?_cons, Option.bind_eq_bind, Option.bind_some,
    if_pos hTimes, hBack]

/-! ## Instants -/

/-- An instant of the years 0 to 9999 that is not in a leap second. -/
structure Instant.Ordinary (t : Instant) : Prop where
  since : daySeconds * Date.number ⟨0, 1, 1⟩ ≤ t.seconds
  before : t.seconds < daySeconds * Date.number ⟨10000, 1, 1⟩
  nanoseconds : t.nanoseconds < 1000000000

namespace Instant

variable {t : Instant}

theorem Ordinary.year_date (ordinary : t.Ordinary) : 0 ≤ t.date.year ∧ t.date.year ≤ 9999 := by
  have hSince := ordinary.since
  have hBefore := ordinary.before
  simp only [daySeconds] at hSince hBefore
  exact Date.year_ofDays (by simp only [daySeconds]; omega) (by simp only [daySeconds]; omega)

theorem Ordinary.toInt_ofInt (ordinary : t.Ordinary) : (Int64.ofInt t.seconds).toInt = t.seconds := by
  have hSince := ordinary.since
  have hBefore := ordinary.before
  rw [Date.number_first_year, daySeconds] at hSince
  rw [Date.number_end_of_years, daySeconds] at hBefore
  exact Int64.toInt_ofInt_of_le (by omega) (by omega)

theorem number_date (hYear : 0 ≤ t.date.year) : t.date.number = t.seconds / daySeconds := by
  rw [date] at hYear ⊢
  rw [Date.number_eq_toDays (Date.isValid_ofDays _) hYear, Date.toDays_ofDays]

theorem Ordinary.chars_eq (ordinary : t.Ordinary) :
    t.chars = t.date.chars ++ ('T' ::
      (Date.padded 2 ((t.seconds % daySeconds).toNat / 3600) ++ (':' ::
        (Date.padded 2 ((t.seconds % daySeconds).toNat / 60 % 60) ++ (':' ::
          (Date.padded 2 ((t.seconds % daySeconds).toNat % 60) ++
            (fractionChars t.nanoseconds ++ "+00:00".toList))))))) := by
  have hLeap : t.nanoseconds / 1000000000 = 0 := Nat.div_eq_of_lt ordinary.nanoseconds
  have hFraction : t.nanoseconds % 1000000000 = t.nanoseconds := Nat.mod_eq_of_lt ordinary.nanoseconds
  rw [chars, hLeap, hFraction]
  simp

/-- The text of an instant stands for just this instant. -/
theorem Ordinary.read?_chars (ordinary : t.Ordinary) : read? t.chars = some t := by
  obtain ⟨hSince, hBefore⟩ := ordinary.year_date
  have hDate := Date.read?_chars (Date.isValid_ofDays (t.seconds / daySeconds)) hSince hBefore
  have hTime := @readTime?_padded (t.seconds % daySeconds).toNat (by simp only [daySeconds]; omega)
  have hFraction : readFraction? (fractionChars t.nanoseconds ++ "+00:00".toList) =
      some (t.nanoseconds, "+00:00".toList) :=
    readFraction?_fractionChars ordinary.nanoseconds (by decide) (by decide)
  have hSeconds : daySeconds * t.date.number + ((t.seconds % daySeconds).toNat : Nat) = t.seconds := by
    rw [number_date hSince]
    simp only [daySeconds]
    omega
  rw [date] at hSeconds
  rw [ordinary.chars_eq, read?, date, hDate]
  simp only [Text.after?_cons, hTime, hFraction, Option.bind_eq_bind, Option.bind_some, if_pos, hSeconds]

end Instant

/-! ## The variables that read the clock -/

namespace Builtin

/-- The three variables that read the clock show one instant: its seconds, a text that stands for it,
    and the start of this text, which is the date of the day it lies in. -/
theorem value_clock (now : Instant) (ordinary : now.Ordinary) (draw : Nat) :
    ∃ (stamp : Int64) (iso : String),
      (ofName? "timestamp").map (·.value now draw) = some (.integer stamp) ∧
        stamp.toInt = now.seconds ∧
        (ofName? "iso-timestamp").map (·.value now draw) = some (.text iso) ∧
        Instant.read? iso.toList = some now ∧
        (ofName? "current-date").map (·.value now draw) =
          some (.text (String.ofList (iso.toList.take 10))) ∧
        ∃ date, Date.read? (iso.toList.take 10) = some (date, []) ∧ date.IsValid ∧
          date.number = now.seconds / Instant.daySeconds := by
  obtain ⟨hSince, hBefore⟩ := ordinary.year_date
  have hValid : now.date.IsValid := Date.isValid_ofDays _
  have hTake : now.chars.take 10 = now.date.chars := by
    rw [ordinary.chars_eq]
    exact List.take_left' (Date.length_chars hValid hSince hBefore)
  have hDate := Date.read?_chars hValid hSince hBefore []
  rw [List.append_nil] at hDate
  refine ⟨Int64.ofInt now.seconds, String.ofList now.chars, rfl, ordinary.toInt_ofInt, rfl, ?_, ?_,
    now.date, ?_, hValid, Instant.number_date hSince⟩
  · rw [String.toList_ofList, ordinary.read?_chars]
  · rw [String.toList_ofList, hTake]
    rfl
  · rw [String.toList_ofList, hTake, hDate]

/-- The last second of the leap day of year 0, with a fraction. -/
def leapNight : Instant := ⟨-62162035201, 120000⟩

theorem value_clock_leapNight :
    leapNight.Ordinary ∧
      (ofName? "timestamp").map (·.value leapNight 0) = some (.integer (-62162035201)) ∧
      (ofName? "iso-timestamp").map (·.value leapNight 0) =
        some (.text "0000-02-29T23:59:59.000120+00:00") ∧
      Instant.read? "0000-02-29T23:59:59.000120+00:00".toList = some leapNight ∧
      (ofName? "current-date").map (·.value leapNight 0) = some (.text "0000-02-29") := by
  have ordinary : leapNight.Ordinary := by
    refine ⟨?_, ?_, by decide⟩
    · rw [Date.number_first_year]
      decide
    · rw [Date.number_end_of_years]
      decide
  obtain ⟨stamp, iso, hStamp, -, hIso, hRead, hDate, -⟩ := value_clock leapNight ordinary 0
  have hText : iso = "0000-02-29T23:59:59.000120+00:00" := by
    have hChars : String.ofList leapNight.chars = "0000-02-29T23:59:59.000120+00:00" := by
      decide +kernel
    rw [← hChars]
    injection hIso with hIso
    injection hIso with hIso
    exact hIso.symm
  subst hText
  have hTake : String.ofList ("0000-02-29T23:59:59.000120+00:00".toList.take 10) = "0000-02-29" := by
    decide +kernel
  rw [hTake] at hDate
  exact ⟨ordinary, rfl, hIso, hRead, hDate⟩

end Builtin

end StepArguments
