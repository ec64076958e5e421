import Backtest.Moment.Instant
import Mathlib.Data.Int.Notation
import Mathlib.Order.Basic

/-!
# The calendar

Dates are numbered by the days from the first of January 1970. The number of a date tells it, its day of
the week goes through the seven days in turn, and dates that lie less than four weeks apart differ in
their day of the month.

* `CalendarDay`, a day of any year, with its number and the next day; `CalendarDay.number_injective`,
  `CalendarDay.number_next`;
* `Date.number`; `Date.number_injective`, `Date.number_addDays`; `Date.number_bounds`, the dates of a year;
* `Date.day_ne_of_near`, days of the month of two dates close to one another;
* `dayOfWeek_eq`, `Date.weekday_eq`, the weekday of a date from its number;
* `Moment.isSunday_iff`, `Instant.isSunday_iff`, Sundays from the table and in the calendar.
-/

namespace Backtest

/-! ### Years and months -/

theorem daysBeforeYear_eq (y : ℤ) : daysBeforeYear y =
    365 * (y - 1) + (y - 1) / 4 - (y - 1) / 100 + (y - 1) / 400 := by
  simp [daysBeforeYear, Int.fdiv_eq_ediv_of_nonneg]

/-- The number of days of a year. -/
def daysInYear (y : ℤ) : ℕ := if isLeapYear y then 366 else 365

theorem isLeapYear_iff (y : ℤ) :
    isLeapYear y = true ↔ y % 4 = 0 ∧ (y % 100 ≠ 0 ∨ y % 400 = 0) := by
  simp [isLeapYear]

theorem daysBeforeYear_succ (y : ℤ) : daysBeforeYear (y + 1) = daysBeforeYear y + daysInYear y := by
  rw [daysBeforeYear_eq, daysBeforeYear_eq, daysInYear]
  split
  · rename_i h
    rw [isLeapYear_iff] at h
    omega
  · rename_i h
    rw [isLeapYear_iff] at h
    omega

theorem daysBeforeYear_mono {y y' : ℤ} (h : y ≤ y') : daysBeforeYear y ≤ daysBeforeYear y' := by
  rw [daysBeforeYear_eq, daysBeforeYear_eq]
  omega

theorem daysBeforeMonth_succ (y : ℤ) {m : ℕ} (h : 1 ≤ m) :
    daysBeforeMonth y (m + 1) = daysBeforeMonth y m + daysInMonth y m := by
  obtain ⟨k, rfl⟩ := Nat.exists_eq_add_of_le' h
  rfl

theorem daysBeforeMonth_mono (y : ℤ) {m n : ℕ} (h : 1 ≤ m) (hmn : m ≤ n) :
    daysBeforeMonth y m ≤ daysBeforeMonth y n := by
  induction hmn with
  | refl => exact Nat.le_refl _
  | step hn ih =>
    rw [daysBeforeMonth_succ y (Nat.le_trans h hn)]
    exact Nat.le_trans ih (Nat.le_add_right _ _)

theorem daysBeforeMonth_end (y : ℤ) : daysBeforeMonth y 13 = daysInYear y := by
  simp only [daysBeforeMonth, daysInMonth, daysInYear]
  split <;> rfl

/-- The number of the day before a month begins. -/
def monthStart (y : ℤ) (m : ℕ) : ℤ := daysBeforeYear y + daysBeforeMonth y m

/-- A month ends before any later month begins. -/
theorem monthStart_add_le {y y' : ℤ} {m m' : ℕ} (hm : 1 ≤ m) (hm' : m ≤ 12)
    (h : y < y' ∨ y = y' ∧ m < m') : monthStart y m + daysInMonth y m ≤ monthStart y' m' := by
  have hsucc := daysBeforeMonth_succ y hm
  unfold monthStart
  rcases h with hy | ⟨rfl, hlt⟩
  · have hend := daysBeforeMonth_mono y (m := m + 1) (n := 13) (by omega) (by omega)
    rw [daysBeforeMonth_end] at hend
    have hyear := daysBeforeYear_mono (Int.add_one_le_iff.mpr hy)
    rw [daysBeforeYear_succ] at hyear
    omega
  · have hmono := daysBeforeMonth_mono y (m := m + 1) (n := m') (by omega) (by omega)
    omega

/-! ### Numbers of days -/

/-- A day of the Gregorian calendar, which is carried on without change to all years, also to those
before the year 1. -/
structure CalendarDay where
  year : ℤ
  month : ℕ
  day : ℕ
  valid : 1 ≤ month ∧ month ≤ 12 ∧ 1 ≤ day ∧ day ≤ daysInMonth year month

namespace CalendarDay

/-- The number of a day, counted from the first of January 1970. -/
def number (d : CalendarDay) : ℤ := dayNumber d.year d.month d.day

theorem number_eq (d : CalendarDay) : d.number = monthStart d.year d.month + d.day - 719163 := rfl

/-- Two days are in one month, or one of them is in an earlier month than the other. -/
theorem month_cases (d e : CalendarDay) :
    (d.year = e.year ∧ d.month = e.month) ∨
      monthStart d.year d.month + daysInMonth d.year d.month ≤ monthStart e.year e.month ∨
      monthStart e.year e.month + daysInMonth e.year e.month ≤ monthStart d.year d.month := by
  obtain ⟨hd, hd', -⟩ := d.valid
  obtain ⟨he, he', -⟩ := e.valid
  rcases Int.lt_trichotomy d.year e.year with hy | hy | hy
  · exact .inr (.inl (monthStart_add_le hd hd' (.inl hy)))
  · rcases Nat.lt_trichotomy d.month e.month with hm | hm | hm
    · exact .inr (.inl (monthStart_add_le hd hd' (.inr ⟨hy, hm⟩)))
    · exact .inl ⟨hy, hm⟩
    · exact .inr (.inr (monthStart_add_le he he' (.inr ⟨hy.symm, hm⟩)))
  · exact .inr (.inr (monthStart_add_le he he' (.inl hy)))

theorem number_injective {d e : CalendarDay} (h : d.number = e.number) : d = e := by
  obtain ⟨-, -, hd, hd'⟩ := d.valid
  obtain ⟨-, -, he, he'⟩ := e.valid
  rw [number_eq, number_eq] at h
  rcases month_cases d e with ⟨hy, hm⟩ | hlt | hlt
  · rw [hy, hm] at h
    obtain ⟨dy, dm, dd, _⟩ := d
    obtain ⟨ey, em, ed, _⟩ := e
    simp only at hy hm h
    obtain rfl := hy
    obtain rfl := hm
    obtain rfl : dd = ed := by omega
    rfl
  · omega
  · omega

/-- Two days that are less than four weeks apart fall on different days of their months. -/
theorem day_ne_of_near {d e : CalendarDay} (hlt : d.number < e.number)
    (hnear : e.number < d.number + 28) : e.day ≠ d.day := by
  obtain ⟨hdm, hdm', -, hd'⟩ := d.valid
  obtain ⟨hem, hem', -, he'⟩ := e.valid
  have hdl := twentyEight_le_daysInMonth d.year hdm hdm'
  have hel := twentyEight_le_daysInMonth e.year hem hem'
  rw [number_eq, number_eq] at hlt hnear
  rcases month_cases d e with ⟨hy, hm⟩ | h | h
  · rw [hy, hm] at hlt
    omega
  · omega
  · omega

/-- The first day of a month. -/
def first (year : ℤ) (month : ℕ) (h : 1 ≤ month) (h' : month ≤ 12) : CalendarDay :=
  ⟨year, month, 1, h, h', Nat.le_refl 1,
    Nat.le_trans (by decide) (twentyEight_le_daysInMonth year h h')⟩

/-- The next day: the next one of the month, or the first of the next month, or New Year's Day. -/
def next (d : CalendarDay) : CalendarDay :=
  if hday : d.day < daysInMonth d.year d.month then
    ⟨d.year, d.month, d.day + 1, d.valid.1, d.valid.2.1, Nat.le_add_left 1 d.day, hday⟩
  else if hmonth : d.month < 12 then first d.year (d.month + 1) (Nat.le_add_left 1 d.month) hmonth
  else first (d.year + 1) 1 (Nat.le_refl 1) (by decide)

theorem number_next (d : CalendarDay) : d.next.number = d.number + 1 := by
  obtain ⟨hm, hm', -, hd'⟩ := d.valid
  have hsucc := daysBeforeMonth_succ d.year hm
  unfold next
  split
  · simp only [number_eq]
    omega
  · split
    · simp only [number_eq, monthStart, first]
      omega
    · have htwelve : d.month = 12 := by omega
      rw [htwelve] at hsucc
      have hend : daysBeforeMonth d.year (12 + 1) = daysInYear d.year := daysBeforeMonth_end d.year
      have hyear := daysBeforeYear_succ d.year
      have hlast : d.day = daysInMonth d.year 12 := by
        rw [← htwelve]
        omega
      simp only [number_eq, monthStart, first, htwelve]
      rw [hyear]
      have hone : daysBeforeMonth (d.year + 1) 1 = 0 := rfl
      omega

end CalendarDay

/-! ### Numbers of dates -/

namespace Date

/-- The number of a date, in days from the first of January 1970. -/
def number (d : Date) : ℤ := dayNumber d.year d.month d.day

/-- A date as a day of the calendar of all years. -/
def onCalendar (d : Date) : CalendarDay := ⟨d.year, d.month, d.day, d.valid.2⟩

theorem onCalendar_injective {d e : Date} (h : d.onCalendar = e.onCalendar) : d = e := by
  obtain ⟨dy, dm, dd, _⟩ := d
  obtain ⟨ey, em, ed, _⟩ := e
  simp only [onCalendar, CalendarDay.mk.injEq, Int.natCast_inj] at h
  obtain ⟨rfl, rfl, rfl⟩ := h
  rfl

theorem onCalendar_next (d : Date) : d.next.onCalendar = d.onCalendar.next := by
  unfold next nextMonth CalendarDay.next onCalendar
  split
  · rfl
  · split
    · rfl
    · rfl

theorem number_injective {d e : Date} (h : d.number = e.number) : d = e :=
  onCalendar_injective (CalendarDay.number_injective h)

/-- Two dates that are less than four weeks apart fall on different days of their months. -/
theorem day_ne_of_near {d e : Date} (hlt : d.number < e.number) (hnear : e.number < d.number + 28) :
    e.day ≠ d.day :=
  CalendarDay.day_ne_of_near (d := d.onCalendar) (e := e.onCalendar) hlt hnear

theorem number_next (d : Date) : d.next.number = d.number + 1 := by
  have h := d.onCalendar.number_next
  rwa [← onCalendar_next] at h

/-- A date lies in its year. -/
theorem number_bounds (d : Date) :
    daysBeforeYear d.year < d.number + 719163 ∧ d.number + 719163 ≤ daysBeforeYear (d.year + 1) := by
  obtain ⟨-, hm, hm', hday, hday'⟩ := d.valid
  have hmonth := daysBeforeMonth_succ d.year hm
  have hend := daysBeforeMonth_mono d.year (m := d.month + 1) (n := 13) (by omega) (by omega)
  rw [daysBeforeMonth_end] at hend
  rw [daysBeforeYear_succ, number, dayNumber]
  omega

theorem number_addDays (d : Date) (n : ℕ) : (d.addDays n).number = d.number + n := by
  induction n generalizing d with
  | zero => simp [addDays]
  | succ n ih =>
    rw [addDays, ih, number_next]
    push_cast
    omega

end Date

/-! ### Days of the week -/

theorem weekdayFrom_eq (y offset day : ℤ) :
    weekdayFrom y offset day = (daysBeforeYear (y + 1) + offset + day) % 7 := by
  rw [weekdayFrom, daysBeforeYear_eq, Int.fmod_eq_emod_of_nonneg _ (by decide)]
  simp only [Int.fdiv_eq_ediv_of_nonneg _ (show (0 : ℤ) ≤ 4 by decide),
    Int.fdiv_eq_ediv_of_nonneg _ (show (0 : ℤ) ≤ 100 by decide),
    Int.fdiv_eq_ediv_of_nonneg _ (show (0 : ℤ) ≤ 400 by decide), Int.add_sub_cancel]
  omega

/-- The weekday of any date follows from its number: the first of January 1970 was a Thursday. -/
theorem dayOfWeek_eq (y : ℤ) {m : ℕ} (h : 1 ≤ m) (h' : m ≤ 12) (day : ℤ) :
    dayOfWeek y m day = (dayNumber y m day + 4) % 7 := by
  -- from March on the days before a month are those of the year, less the days that are left
  have hyear := daysBeforeYear_succ y
  rw [← daysBeforeMonth_end y] at hyear
  rcases months_of_le h h' with
      rfl | rfl | rfl | rfl | rfl | rfl | rfl | rfl | rfl | rfl | rfl | rfl <;>
    simp [dayOfWeek, weekdayFrom_eq, monthOffsets, dayNumber, daysBeforeMonth, daysInMonth]
      at hyear ⊢ <;>
    omega

namespace Date

/-- The weekday of a date: 0 is Sunday. -/
def weekday (d : Date) : ℤ := dayOfWeek d.year d.month d.day

theorem weekday_eq (d : Date) : d.weekday = (d.number + 4) % 7 := by
  obtain ⟨-, hm, hm', -⟩ := d.valid
  exact dayOfWeek_eq d.year hm hm' d.day

/-- A date is a Sunday: so was the fourth of January 1970, and every seventh day from there. -/
def IsSunday (d : Date) : Prop := d.number % 7 = 3

instance decidableIsSunday (d : Date) : Decidable d.IsSunday :=
  inferInstanceAs (Decidable (d.number % 7 = 3))

end Date

/-! ### Moments -/

namespace Moment

theorem secondOfDay_lt (m : Moment) : m.secondOfDay < 86400 := by
  have hh := m.hour_lt
  have hm := m.minute_lt
  have hs := m.second_lt
  unfold secondOfDay
  omega

/-- The weekday that is read from the table is Sunday on the Sundays of the calendar. -/
theorem isSunday_iff (m : Moment) : m.isSunday = true ↔ m.date.IsSunday := by
  have hweekday : m.weekday = (m.date.number + 4) % 7 := m.date.weekday_eq
  rw [isSunday, beq_iff_eq, hweekday, Date.IsSunday]
  omega

end Moment

/-! ### Instants -/

namespace Instant

theorem isSunday_iff (i : Instant) : i.isSunday = true ↔ i.date.IsSunday := i.moment.isSunday_iff

end Instant

end Backtest
