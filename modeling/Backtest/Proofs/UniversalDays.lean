import Backtest.Proofs.Calendar
import Backtest.Proofs.WholeParts

/-!
# Days of universal time

The seconds of an instant are reckoned in universal time, as a float of which the fraction is dropped: toward
zero, so that before 1970 it is dropped upwards. The date of an instant is the one on its clock. Both are of
one day if universal time is on that date and no more is dropped or rounded than what the day has left.

* `Instant.universalSecond`, the second of the day in universal time;
* `Instant.epochSeconds_of_whole`, `Instant.epochSeconds_of_fraction`, the seconds without their fraction;
* `Instant.KeepsDay`, instants whose seconds are of their date; `Instant.KeepsDay.fdiv_epochSeconds`, the days
  in their seconds.
-/

namespace Backtest

open Decimal

namespace Instant

variable {i : Instant}

/-- The second of universal time, counted from midnight on the clock of the instant. -/
def universalSecond (i : Instant) : ℤ := i.moment.secondOfDay - i.offset.getD 0

theorem wholeSeconds_eq (i : Instant) : i.wholeSeconds = i.date.number * 86400 + i.universalSecond :=
  Int.add_sub_assoc _ _ _

theorem epochSeconds_of_whole (h : i.microsecond = 0) : i.epochSeconds = i.wholeSeconds :=
  if_pos (beq_iff_eq.mpr h)

/-- The seconds without their fraction, if there is one: those up to the second of the instant or one more,
and from 1970 on the former, if a float can tell the instant from the next second. -/
theorem epochSeconds_of_fraction (hpos : 0 < i.microsecond) (hlt : i.microsecond < 1000000)
    (hlow : -2 ^ 51 < i.wholeSeconds) (hhigh : i.wholeSeconds < 2 ^ 51) :
    (i.epochSeconds = i.wholeSeconds ∨ i.epochSeconds = i.wholeSeconds + 1) ∧
      ∀ k, 0 ≤ i.wholeSeconds → i.wholeSeconds < 2 ^ k →
        1000000 * 2 ^ k < (1000000 - i.microsecond) * 2 ^ 54 → i.epochSeconds = i.wholeSeconds := by
  have hseconds : i.epochSeconds =
      (wholePart? (ofDecimal (i.epochMicroseconds < 0) i.epochMicroseconds.natAbs (-6))).getD 0 :=
    if_neg fun h => hpos.ne' (beq_iff_eq.mp h)
  rw [hseconds]
  have hmicros : i.epochMicroseconds = i.wholeSeconds * 1000000 + i.microsecond := rfl
  generalize i.wholeSeconds = s at *
  rcases lt_or_ge s 0 with hneg | hnonneg
  · -- before 1970 the fraction is dropped upwards
    obtain ⟨a, rfl⟩ : ∃ a : ℕ, s = -(a + 1) := ⟨(-s - 1).toNat, by omega⟩
    obtain ⟨w, hw, hcases, -⟩ := exists_wholePart (i.epochMicroseconds < 0)
      (n := i.epochMicroseconds.natAbs) (s := a) (by omega) (by omega) (by omega) (by omega)
    rw [hw, decide_eq_true (by omega), Option.getD_some, signed, if_pos rfl]
    exact ⟨by omega, by omega⟩
  · obtain ⟨a, rfl⟩ := Int.eq_ofNat_of_zero_le hnonneg
    obtain ⟨w, hw, hcases, hexact⟩ := exists_wholePart (i.epochMicroseconds < 0)
      (n := i.epochMicroseconds.natAbs) (s := a) (by omega) (by omega) (by omega) (by omega)
    rw [hw, decide_eq_false (by omega), Option.getD_some, signed, if_neg Bool.false_ne_true]
    refine ⟨by omega, fun k _ hk hfar => ?_⟩
    have hleft : (a + 1) * 1000000 - i.epochMicroseconds.natAbs = 1000000 - i.microsecond := by omega
    rw [← hleft] at hfar
    rw [hexact k (by exact_mod_cast hk) hfar]

/-- The date on the clock of the instant is that of universal time, and to drop the fraction of its second
brings it to no other day. -/
structure KeepsDay (i : Instant) : Prop where
  clock : 0 ≤ i.universalSecond ∧ i.universalSecond < 86400
  /-- Only in the last second of a day is a fraction of any matter, and from 1970 on only if the nearest float
  may be the next second. -/
  fraction : i.microsecond = 0 ∨
    i.date.year ≤ lastYear ∧ i.microsecond < 1000000 ∧
      (i.universalSecond ≠ 86399 ∨
        1970 ≤ i.date.year ∧ (i.date.year < 2514 ∨ i.microsecond ≤ 999984))

theorem keepsDay_ofMoment (m : Moment) : (ofMoment m).KeepsDay := by
  have hsecond : (ofMoment m).universalSecond = m.secondOfDay := Int.sub_zero _
  have hlt := m.secondOfDay_lt
  exact ⟨by omega, .inl rfl⟩

/-- The whole days in the seconds of such an instant are those before its date. -/
theorem KeepsDay.fdiv_epochSeconds (h : i.KeepsDay) : i.epochSeconds.fdiv 86400 = i.date.number := by
  have hseconds := i.wholeSeconds_eq
  obtain ⟨hclock, hclock'⟩ := h.clock
  rw [Int.fdiv_eq_ediv_of_nonneg _ (by decide)]
  by_cases hwhole : i.microsecond = 0
  · rw [epochSeconds_of_whole hwhole]
    omega
  · obtain ⟨hyear, hlt, hfraction⟩ := h.fraction.resolve_left hwhole
    obtain ⟨hlow, hhigh⟩ := i.date.number_bounds
    have hfirst : daysBeforeYear 1 ≤ daysBeforeYear i.date.year :=
      daysBeforeYear_mono (by exact_mod_cast i.date.valid.1)
    have hlast : daysBeforeYear (i.date.year + 1) ≤ daysBeforeYear (lastYear + 1) :=
      daysBeforeYear_mono (by omega)
    have hone : daysBeforeYear 1 = 0 := rfl
    have hend : daysBeforeYear (lastYear + 1) = 3652059 := rfl
    obtain ⟨hcases, hexact⟩ := epochSeconds_of_fraction (i := i) (by omega) hlt (by omega) (by omega)
    rcases hfraction with hsecond | ⟨hyear', hfar⟩
    · omega
    · have hstart : daysBeforeYear 1970 ≤ daysBeforeYear i.date.year :=
        daysBeforeYear_mono (by exact_mod_cast hyear')
      have hseventy : daysBeforeYear 1970 = 719162 := rfl
      have heq : i.epochSeconds = i.wholeSeconds := by
        rcases hfar with hbefore | hmicro
        · have hlimit : daysBeforeYear (i.date.year + 1) ≤ daysBeforeYear 2514 :=
            daysBeforeYear_mono (by omega)
          have hvalue : daysBeforeYear 2514 = 917854 := rfl
          exact hexact 34 (by omega) (by omega) (by omega)
        · exact hexact 38 (by omega) (by omega) (by omega)
      omega

end Instant

end Backtest
