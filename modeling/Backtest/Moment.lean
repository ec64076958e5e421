import Backtest.Decimal.FloatText

/-!
# Moments

Dates of the Gregorian calendar, carried back and forward without change, and moments of a day to
the second, read as universal time.

* `dayOfWeek`, the weekday of a date by a table and floor divisions, for any year; `weekdayOf?`, the
  same for a month that may be none;
* `dayNumber`, the days from the first of January 1970;
* `Date`, `Moment`: valid dates of years from 1 on and moments of them;
* `Moment.epochSeconds`, `Moment.isSunday`, `Moment.iso`, `Moment.addSeconds?`.
-/

namespace Backtest

open Decimal

/-- A leap year: divisible by four, and by 400 if by 100. -/
def isLeapYear (year : Int) : Bool :=
  year % 4 == 0 && (year % 100 != 0 || year % 400 == 0)

/-- The number of days of a month; zero if there is no such month. -/
def daysInMonth (year : Int) (month : Nat) : Nat :=
  match month with
  | 1 | 3 | 5 | 7 | 8 | 10 | 12 => 31
  | 4 | 6 | 9 | 11 => 30
  | 2 => if isLeapYear year then 29 else 28
  | _ => 0

/-- What each month adds to the weekday, when the year starts in March. -/
def monthOffsets : List Int := [0, 3, 2, 5, 0, 3, 5, 1, 4, 6, 2, 4]

/-- The weekday of a day of a year that starts in March, in a month with an offset: 0 is Sunday. -/
def weekdayFrom (y offset day : Int) : Int :=
  (y + Int.fdiv y 4 - Int.fdiv y 100 + Int.fdiv y 400 + offset + day).fmod 7

/-- The weekday of a date of any year: 0 is Sunday. January and February count with the year
before. -/
def dayOfWeek (year : Int) (month : Nat) (day : Int) : Int :=
  let y := if month < 3 then year - 1 else year
  weekdayFrom y (monthOffsets.getD (month - 1) 0) day

/-- The offset of the month with a number; from zero down the months count back from December. -/
def monthOffset? (month : Int) : Option Int :=
  if 1 ≤ month then monthOffsets[(month - 1).toNat]?
  else if -12 < month then monthOffsets[(month + 11).toNat]?
  else none

/-- The weekday of a date whose month has an offset. Months below March count with the year
before. -/
def weekdayOf? (year month day : Int) : Option Int :=
  (monthOffset? month).map fun offset =>
    weekdayFrom (if month < 3 then year - 1 else year) offset day

/-- The days of a year before a month. -/
def daysBeforeMonth (year : Int) : Nat → Nat
  | 0 => 0
  | 1 => 0
  | month + 1 => daysBeforeMonth year month + daysInMonth year month

/-- The days before the first of January of a year, counted from the year 1. -/
def daysBeforeYear (year : Int) : Int :=
  let y := year - 1
  365 * y + Int.fdiv y 4 - Int.fdiv y 100 + Int.fdiv y 400

/-- The days from the first of January 1970 to a date. -/
def dayNumber (year : Int) (month : Nat) (day : Int) : Int :=
  daysBeforeYear year + daysBeforeMonth year month + day - 719163

/-- Year, month and day form a date of a year from 1 on. -/
abbrev IsDate (year month day : Nat) : Prop :=
  1 ≤ year ∧ 1 ≤ month ∧ month ≤ 12 ∧ 1 ≤ day ∧ day ≤ daysInMonth year month

/-- A date of a year from 1 on. -/
structure Date where
  year : Nat
  month : Nat
  day : Nat
  valid : IsDate year month day
  deriving DecidableEq

/-- The date with the given year, month and day, if there is one. -/
def Date.of? (year month day : Nat) : Option Date :=
  if h : IsDate year month day then some ⟨year, month, day, h⟩ else none

/-- The months by their numbers. -/
theorem months_of_le {month : Nat} (hm : 1 ≤ month) (hm' : month ≤ 12) :
    month = 1 ∨ month = 2 ∨ month = 3 ∨ month = 4 ∨ month = 5 ∨ month = 6 ∨ month = 7 ∨
      month = 8 ∨ month = 9 ∨ month = 10 ∨ month = 11 ∨ month = 12 := by
  omega

theorem twentyEight_le_daysInMonth (year : Int) {month : Nat} (hm : 1 ≤ month) (hm' : month ≤ 12) :
    28 ≤ daysInMonth year month := by
  rcases months_of_le hm hm' with
      rfl | rfl | rfl | rfl | rfl | rfl | rfl | rfl | rfl | rfl | rfl | rfl <;>
    simp only [daysInMonth] <;> try decide
  split <;> decide

theorem isDate_first {year month : Nat} (hy : 1 ≤ year) (hm : 1 ≤ month) (hm' : month ≤ 12) :
    IsDate year month 1 :=
  ⟨hy, hm, hm', Nat.le_refl 1, Nat.le_trans (by decide) (twentyEight_le_daysInMonth year hm hm')⟩

/-- The first day of the next month. -/
def Date.nextMonth (d : Date) : Date :=
  if h : d.month < 12 then
    ⟨d.year, d.month + 1, 1, isDate_first d.valid.1 (Nat.le_add_left 1 d.month) h⟩
  else ⟨d.year + 1, 1, 1, isDate_first (Nat.le_add_left 1 d.year) (Nat.le_refl 1) (by decide)⟩

/-- The next day. -/
def Date.next (d : Date) : Date :=
  if h : d.day < daysInMonth d.year d.month then
    ⟨d.year, d.month, d.day + 1, by
      obtain ⟨h1, h2, h3, h4, h5⟩ := d.valid
      exact ⟨h1, h2, h3, by omega, by omega⟩⟩
  else d.nextMonth

/-- The date `n` days later. -/
def Date.addDays (d : Date) : Nat → Date
  | 0 => d
  | n + 1 => d.next.addDays n

/-- The last day of a month of a year from 1 on. -/
def Date.lastOf? (year month : Nat) : Option Date := Date.of? year month (daysInMonth year month)

/-- The day before; the first day of the year 1 has none. -/
def Date.previous? (d : Date) : Option Date :=
  if 1 < d.day then Date.of? d.year d.month (d.day - 1)
  else if 1 < d.month then Date.lastOf? d.year (d.month - 1)
  else Date.lastOf? (d.year - 1) 12

/-- The date `n` days before, if there is one. -/
def Date.subDays? (d : Date) : Nat → Option Date
  | 0 => some d
  | n + 1 => d.previous?.bind fun e => e.subDays? n

/-- The last year that dates are reckoned with. -/
def lastYear : Nat := 9999

/-- The number of days of all years up to the last. -/
def calendarDays : Nat := (daysBeforeYear (lastYear + 1)).toNat

/-- The date some days later or before, if it lies in a year from 1 to the last. -/
def Date.addDays? (d : Date) (n : Int) : Option Date :=
  if calendarDays ≤ n.natAbs then none
  else
    (if 0 ≤ n then some (d.addDays n.toNat) else d.subDays? n.natAbs).filter fun e =>
      e.year ≤ lastYear

/-- A moment of a day, to the second. -/
structure Moment where
  date : Date
  hour : Nat
  minute : Nat
  second : Nat
  hour_lt : hour < 24
  minute_lt : minute < 60
  second_lt : second < 60
  deriving DecidableEq

namespace Moment

/-- The day of the month. -/
def day (m : Moment) : Nat := m.date.day

/-- The seconds since midnight. -/
def secondOfDay (m : Moment) : Nat := m.hour * 3600 + m.minute * 60 + m.second

/-- The seconds from the start of the year 1970. -/
def epochSeconds (m : Moment) : Int :=
  dayNumber m.date.year m.date.month m.date.day * 86400 + m.secondOfDay

/-- The weekday: 0 is Sunday. -/
def weekday (m : Moment) : Int := dayOfWeek m.date.year m.date.month m.date.day

/-- Whether the moment falls on a Sunday. -/
def isSunday (m : Moment) : Bool := m.weekday == 0

/-- Two digits of a number below one hundred. -/
def twoDigits (n : Nat) : String := String.ofList (paddedNat 2 n)

/-- The moment as `year-month-day hour:minute:second`; the year has no leading zeros. -/
def iso (m : Moment) : String :=
  s!"{m.date.year}-{twoDigits m.date.month}-{twoDigits m.date.day} " ++
    s!"{twoDigits m.hour}:{twoDigits m.minute}:{twoDigits m.second}"

/-- The moment of a day after so many seconds, below a day. -/
def ofSecondOfDay (date : Date) (s : Nat) : Moment :=
  { date
    hour := s / 3600 % 24
    minute := s / 60 % 60
    second := s % 60
    hour_lt := Nat.mod_lt _ (by decide)
    minute_lt := Nat.mod_lt _ (by decide)
    second_lt := Nat.mod_lt _ (by decide) }

/-- The moment some seconds later or before, if its date can be reckoned with. -/
def addSeconds? (m : Moment) (n : Int) : Option Moment :=
  let s := (m.secondOfDay : Int) + n
  (m.date.addDays? (Int.fdiv s 86400)).map fun d => ofSecondOfDay d (Int.fmod s 86400).toNat

/-- The start of the year 1970, from which seconds are counted. -/
def epoch : Moment := ofSecondOfDay ⟨1970, 1, 1, by decide⟩ 0

/-- Midnight of the next day, if its date can be reckoned with. -/
def nextMidnight? (m : Moment) : Option Moment :=
  (m.date.addDays? 1).map fun d => ofSecondOfDay d 0

end Moment

end Backtest
