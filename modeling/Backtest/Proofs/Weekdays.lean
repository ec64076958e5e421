import Backtest.Proofs.FileLines
import Backtest.Proofs.UniversalDays
import Mathlib.Logic.Function.Iterate

/-!
# Weekdays and the count of days

The weekday of a day is read from a table of months, and the seconds of a tick are reckoned from whole
years. Both go with one count of days, made by going from each day to the next one: the table in every
year of the calendar, also before the year 1, and the seconds at every tick whose seconds are of its date, as
those of a tick on a line are. Elsewhere an offset, or the fraction that is dropped in the last second of a
day, can bring the seconds to another day.

* `CalendarDay.epoch`, the first of January 1970; `CalendarDay.DaysBetween`, the count of days;
* `CalendarDay.daysBetween_iff`, the count is the difference of numbers;
* `CalendarDay.weekdays_count`, the main statement; `CalendarDay.not_weekdays_count`, ticks whose seconds are
  of another day.
-/

namespace Backtest.CalendarDay

/-- The first of January 1970. -/
def epoch : CalendarDay := ⟨1970, 1, 1, by decide⟩

/-- So many times has one to go to the next day to come from one day to another; back from the other to
the one, if the count is below zero. -/
def DaysBetween (d e : CalendarDay) (n : ℤ) : Prop :=
  ∃ k : ℕ, n = k ∧ next^[k] d = e ∨ n = -k ∧ next^[k] e = d

theorem number_iterate_next (d : CalendarDay) (k : ℕ) : (next^[k] d).number = d.number + k := by
  induction k with
  | zero => simp
  | succ k ih =>
    rw [Function.iterate_succ_apply', number_next, ih]
    push_cast
    omega

/-- A day of a later number is reached from a day of an earlier one. -/
theorem iterate_next_eq {d e : CalendarDay} {k : ℕ} (h : e.number = d.number + k) :
    next^[k] d = e :=
  number_injective (by rw [number_iterate_next, h])

theorem daysBetween_iff {d e : CalendarDay} {n : ℤ} :
    DaysBetween d e n ↔ n = e.number - d.number := by
  constructor
  · rintro ⟨k, ⟨rfl, rfl⟩ | ⟨rfl, rfl⟩⟩
    · rw [number_iterate_next]
      omega
    · rw [number_iterate_next]
      omega
  · intro h
    rcases Int.le_total 0 n with hn | hn
    · obtain ⟨k, rfl⟩ := Int.eq_ofNat_of_zero_le hn
      exact ⟨k, .inl ⟨rfl, iterate_next_eq (by omega)⟩⟩
    · obtain ⟨k, hk⟩ := Int.eq_ofNat_of_zero_le (Int.neg_nonneg_of_nonpos hn)
      exact ⟨k, .inr ⟨by omega, iterate_next_eq (by omega)⟩⟩

theorem number_epoch : epoch.number = 0 := by decide

theorem dayOfWeek_eq_number (d : CalendarDay) :
    dayOfWeek d.year d.month d.day = (d.number + 4) % 7 :=
  dayOfWeek_eq d.year d.valid.1 d.valid.2.1 d.day

/-- Of a month that there is, the weekday is found in the table. -/
theorem weekdayOf?_eq (d : CalendarDay) :
    weekdayOf? d.year d.month d.day = some (dayOfWeek d.year d.month d.day) := by
  obtain ⟨year, month, day, hm, hm', -⟩ := d
  rcases months_of_le hm hm' with
      rfl | rfl | rfl | rfl | rfl | rfl | rfl | rfl | rfl | rfl | rfl | rfl <;>
    rfl

theorem isSunday_tick_iff {t : Tick Float} (h : t.time.KeepsDay) :
    t.isSunday = true ↔ t.epochSeconds.fdiv 86400 % 7 = 3 := by
  rw [Tick.isSunday, Instant.isSunday_iff, Tick.epochSeconds, h.fdiv_epochSeconds, Date.IsSunday]

/-- The seconds of a tick on a line are of its date. -/
theorem keepsDay_of_read {line : String} {t : Tick Float} (h : Tick.read line = .ok t) :
    t.time.KeepsDay := by
  obtain ⟨-, -, -, -, moment, -, -, htime, -⟩ := Tick.read_eq_ok.mp h
  rw [htime]
  exact Instant.keepsDay_ofMoment moment

/-- On every day of the calendar the weekday is four, which is Thursday, and the count of days from the
first of January 1970 on, by sevens; it goes on by one from each day to the next. So a tick whose seconds
are of its date, as those of every tick on a line are, is on a Sunday just when the whole days in its
seconds are three more than sevens. -/
theorem weekdays_count :
    (∀ d : CalendarDay,
      (∃ n, (∀ m, DaysBetween epoch d m ↔ m = n) ∧
        dayOfWeek d.year d.month d.day = (4 + n) % 7) ∧
      weekdayOf? d.year d.month d.day = some (dayOfWeek d.year d.month d.day) ∧
      dayOfWeek d.next.year d.next.month d.next.day =
        (dayOfWeek d.year d.month d.day + 1) % 7) ∧
    (∀ t : Tick Float, t.time.KeepsDay → (t.isSunday = true ↔ t.epochSeconds.fdiv 86400 % 7 = 3)) ∧
    ∀ (line : String) (t : Tick Float), Tick.read line = .ok t → t.time.KeepsDay := by
  refine ⟨fun d => ⟨⟨d.number, fun m => ?_, ?_⟩, weekdayOf?_eq d, ?_⟩, fun t => isSunday_tick_iff,
    fun line t => keepsDay_of_read⟩
  · rw [daysBetween_iff, number_epoch, Int.sub_zero]
  · rw [dayOfWeek_eq_number, Int.add_comm]
  · rw [dayOfWeek_eq_number, dayOfWeek_eq_number, number_next]
    omega

/-- A tick in the last microsecond of the first Sunday of 1970, one at noon of a Sunday before, on a clock
that is an hour ahead, and one in the second before that Sunday, on a line. -/
theorem weekdays_count_sunday :
    (let t : Tick Float := { time := ⟨.ofSecondOfDay ⟨1970, 1, 4, by decide⟩ 86399, 999999, none⟩,
                             bid := 1.5, ask := 1.25 }
     t.time.KeepsDay ∧ t.isSunday = true ∧ t.epochSeconds.fdiv 86400 % 7 = 3) ∧
    (let t : Tick Float := { time := ⟨.ofSecondOfDay ⟨1969, 12, 28, by decide⟩ 43200, 500000, some 3600⟩,
                             bid := 1.5, ask := 1.25 }
     t.time.KeepsDay ∧ t.isSunday = true ∧ t.epochSeconds.fdiv 86400 % 7 = 3) ∧
    ∃ u, Tick.read "12/27/1969 23:59:59,1.36,1.37" = .ok u ∧ u.isSunday = false ∧
      u.epochSeconds.fdiv 86400 % 7 ≠ 3 := by
  obtain ⟨-, hkeeps, hlines⟩ := weekdays_count
  have hread : (Tick.read "12/27/1969 23:59:59,1.36,1.37").toOption.any (fun u => !u.isSunday) = true := by
    decide +kernel
  obtain ⟨u, hu, hnone⟩ := exists_of_any hread
  have hnone : u.isSunday = false := by simpa using hnone
  refine ⟨?_, ?_, u, hu, hnone, fun hday => ?_⟩
  · intro t
    have ht : t.time.KeepsDay := ⟨by decide, .inr ⟨by decide, by decide, .inr (by decide)⟩⟩
    have hsunday : t.isSunday = true := by decide
    exact ⟨ht, hsunday, (hkeeps t ht).mp hsunday⟩
  · intro t
    have ht : t.time.KeepsDay := ⟨by decide, .inr ⟨by decide, by decide, .inl (by decide)⟩⟩
    have hsunday : t.isSunday = true := by decide
    exact ⟨ht, hsunday, (hkeeps t ht).mp hsunday⟩
  · have hsunday' := (hkeeps u (hlines _ u hu)).mpr hday
    exact absurd (hnone.symm.trans hsunday') Bool.false_ne_true

/-- Half a second before a Sunday of the year 1969 the seconds are those of the Sunday. So they are in the
last microsecond before a late Sunday, which no float tells from it, and at the start of a Sunday on a clock
that is ahead they are those of the day before. -/
theorem not_weekdays_count :
    (let t : Tick Float := { time := ⟨.ofSecondOfDay ⟨1969, 12, 27, by decide⟩ 86399, 500000, none⟩,
                             bid := 1.5, ask := 1.25 }
     t.isSunday = false ∧ t.epochSeconds.fdiv 86400 % 7 = 3) ∧
    (let t : Tick Float := { time := ⟨.ofSecondOfDay ⟨9999, 12, 25, by decide⟩ 86399, 999999, none⟩,
                             bid := 1.5, ask := 1.25 }
     t.isSunday = false ∧ t.epochSeconds.fdiv 86400 % 7 = 3) ∧
    let t : Tick Float := { time := ⟨.ofSecondOfDay ⟨2014, 1, 5, by decide⟩ 0, 0, some 3600⟩,
                            bid := 1.5, ask := 1.25 }
    t.isSunday = true ∧ t.epochSeconds.fdiv 86400 % 7 = 2 := by
  decide +kernel

end Backtest.CalendarDay
