import Backtest.Proofs.Calendar
import Backtest.Proofs.Course
import Backtest.Proofs.Memory

/-!
# Windows of whole weeks

On a stream that is traded on all days but Saturdays a window of so many weeks should end where a Sunday
begins. It does so for up to six weeks. The count takes its sixth days from what it has counted and not
from the days that have ended, so it runs ahead of the calendar, by one trading date in the seventh week
and by more later on.

* `TradingWeeks`, a stream that is traded on all days of so many weeks but Saturdays;
* `TradingWeeks.days_eq`, `TradingWeeks.afterDays_eq`, its first trading dates and what is behind them;
* `Window.Reaches`, a window that holds all ticks before a date and stops at the first tick of it;
* `TradingWeeks.exists_window`, where a window of weeks ends, and for how many weeks it is exact.
-/

namespace Backtest

/-- Records in the order of their dates. -/
def DateOrdered (rs : List Record) : Prop := rs.Pairwise fun q r => q.date.number ≤ r.date.number

instance decidableDateOrdered (rs : List Record) : Decidable (DateOrdered rs) :=
  inferInstanceAs (Decidable (rs.Pairwise _))

/-- Records that start on a Sunday, are in the order of their dates, and are there for each date from that
Sunday to the one `n` weeks later, but for no Saturday. -/
structure TradingWeeks (n : ℕ) (sunday : Date) (rs : List Record) : Prop where
  first : rs.head?.map (·.date) = some sunday
  isSunday : sunday.weekday = 0
  ordered : DateOrdered rs
  traded : ∀ j ≤ 7 * n, (sunday.addDays j).weekday ≠ 6 → ∃ r ∈ rs, r.date = sunday.addDays j
  idle : ∀ r ∈ rs, r.date.weekday ≠ 6

/-- A window that holds the ticks of all dates before a date and stops at the first tick of that
date. -/
structure Window.Reaches (w : Window) (rs : List Record) (d : Date) : Prop where
  ticks : w.ticks = (rs.filter fun r => r.date.number < d.number).map (·.tick)
  stop : (rs.find? fun r => r.date = d).map (·.position) = some w.stop

/-! ### Records in the order of their dates -/

/-- The records before a date stand in front of the others. -/
theorem DateOrdered.filter_append {rs : List Record} (h : DateOrdered rs) (b : ℤ) :
    (rs.filter fun r => r.date.number < b) ++ (rs.filter fun r => b ≤ r.date.number) = rs := by
  induction rs with
  | nil => rfl
  | cons r rs ih =>
    obtain ⟨hr, hrs⟩ := List.pairwise_cons.mp h
    by_cases hb : r.date.number < b
    · have hb' : ¬ b ≤ r.date.number := by omega
      simp only [List.filter_cons, hb, hb', decide_true, decide_false, if_true, if_false,
        List.cons_append, ih hrs, Bool.false_eq_true]
    · have hnone : (rs.filter fun q => q.date.number < b) = [] := by
        rw [List.filter_eq_nil_iff]
        intro q hq
        have := hr q hq
        simp only [decide_eq_true_eq]
        omega
      have hall : (rs.filter fun q => b ≤ q.date.number) = rs := by
        rw [List.filter_eq_self]
        intro q hq
        have := hr q hq
        simp only [decide_eq_true_eq]
        omega
      have hb' : b ≤ r.date.number := by omega
      simp only [List.filter_cons, hb, hb', decide_true, decide_false, if_true, if_false, hnone, hall,
        List.nil_append, Bool.false_eq_true]

theorem DateOrdered.filter {rs : List Record} (h : DateOrdered rs) (p : Record → Bool) :
    DateOrdered (rs.filter p) :=
  List.Pairwise.filter p h

/-- The records from a date on begin with one of that date, if there is one. -/
theorem DateOrdered.exists_filter_cons {rs : List Record} (h : DateOrdered rs) {b : ℤ}
    (hb : ∃ r ∈ rs, r.date.number = b) :
    ∃ r rest, (rs.filter fun q => b ≤ q.date.number) = r :: rest ∧ r.date.number = b := by
  obtain ⟨q, hq, hqb⟩ := hb
  have hmem : q ∈ rs.filter fun q => b ≤ q.date.number := by
    rw [List.mem_filter]
    exact ⟨hq, by simp [hqb]⟩
  cases hl : rs.filter fun q => b ≤ q.date.number with
  | nil =>
    rw [hl] at hmem
    simp at hmem
  | cons r rest =>
    refine ⟨r, rest, rfl, ?_⟩
    have hr : b ≤ r.date.number := by
      have hr : r ∈ rs.filter fun q => b ≤ q.date.number := by rw [hl]; exact List.mem_cons_self
      simpa using (List.mem_filter.mp hr).2
    have hordered := h.filter fun q => b ≤ q.date.number
    rw [hl] at hordered hmem
    rcases List.mem_cons.mp hmem with rfl | hmem
    · exact hqb
    · have := (List.pairwise_cons.mp hordered).1 q hmem
      omega

/-- The first day of records that begin at one date and go on at another near to it. -/
theorem DateOrdered.laterDays_eq {rs : List Record} (h : DateOrdered rs) {a b : ℤ} (hab : a < b)
    (hnear : b < a + 28) (hb : ∃ r ∈ rs, r.date.number = b) (ha : ∃ r ∈ rs, r.date.number = a)
    (hgap : ∀ r ∈ rs, r.date.number < b → r.date.number = a) :
    laterDays rs = rs.filter fun r => b ≤ r.date.number := by
  obtain ⟨g, rest, hg, hgb⟩ := h.exists_filter_cons hb
  have hsplit := h.filter_append b
  rw [hg] at hsplit ⊢
  have hsame (q : Record) (hq : q ∈ rs.filter fun r => r.date.number < b) : q.date.number = a := by
    obtain ⟨hq, hlt⟩ := List.mem_filter.mp hq
    exact hgap q hq (by simpa using hlt)
  cases hf : rs.filter fun r => r.date.number < b with
  | nil =>
    -- a record of the first date stands before the second
    obtain ⟨q, hq, hqa⟩ := ha
    have hmem : q ∈ rs.filter fun r => r.date.number < b := by
      rw [List.mem_filter]
      exact ⟨hq, by simpa [hqa] using hab⟩
    rw [hf] at hmem
    simp at hmem
  | cons r seen =>
    rw [hf] at hsplit hsame
    have hra := hsame r List.mem_cons_self
    rw [← hsplit, List.cons_append, laterDays, List.dropWhile_append_of_pos, List.dropWhile_cons_of_neg]
    · -- days are told apart by their day of the month alone
      have hne : g.date.day ≠ r.date.day := Date.day_ne_of_near (by omega) (by omega)
      exact fun hday => hne (beq_iff_eq.mp hday)
    · intro q hq
      have hqr : q.date = r.date :=
        Date.number_injective (by rw [hra, hsame q (List.mem_cons_of_mem r hq)])
      exact beq_iff_eq.mpr (congrArg Date.day hqr)

/-- The first record of a date that there is stands in front of those from the date on. -/
theorem DateOrdered.find?_eq {rs : List Record} (h : DateOrdered rs) {d : Date} {g : Record}
    {rest : List Record} (hg : (rs.filter fun r => d.number ≤ r.date.number) = g :: rest)
    (hd : g.date = d) : (rs.find? fun r => r.date = d) = some g := by
  have hsplit := h.filter_append d.number
  have hnone : (rs.filter fun r => r.date.number < d.number).find? (fun r => r.date = d) = none := by
    rw [List.find?_eq_none]
    intro r hr
    have hlt : r.date.number < d.number := by simpa using (List.mem_filter.mp hr).2
    simp only [decide_eq_true_eq]
    rintro rfl
    omega
  rw [hg] at hsplit
  rw [← hsplit, List.find?_append, hnone, Option.none_or, List.find?_cons_of_pos (by simpa using hd)]

/-! ### Trading dates -/

namespace TradingWeeks

variable {n : ℕ} {sunday : Date} {rs : List Record}

theorem number_le (h : TradingWeeks n sunday rs) : ∀ r ∈ rs, sunday.number ≤ r.date.number := by
  intro r hr
  have hfirst := h.first
  have hordered := h.ordered
  cases rs with
  | nil => simp at hr
  | cons q rest =>
    obtain rfl : q.date = sunday := by simpa using hfirst
    rcases List.mem_cons.mp hr with rfl | hr
    · exact Int.le_refl _
    · exact (List.pairwise_cons.mp hordered).1 r hr

/-- The trading date with a number, from zero on: one day of seven is left out. -/
def dateOf (sunday : Date) (e : ℕ) : Date := sunday.addDays (e + e / 6)

theorem number_dateOf (sunday : Date) (e : ℕ) :
    (dateOf sunday e).number = sunday.number + (e + e / 6 : ℕ) := Date.number_addDays sunday _

/-- Each trading date of the weeks has a record. -/
theorem exists_dateOf (h : TradingWeeks n sunday rs) {e : ℕ} (he : e ≤ 6 * n) :
    ∃ r ∈ rs, r.date = dateOf sunday e := by
  refine h.traded (e + e / 6) (by omega) ?_
  have hsunday := h.isSunday
  rw [Date.weekday_eq] at hsunday ⊢
  rw [Date.number_addDays]
  omega

/-- No record lies between a trading date and the next one. -/
theorem number_eq_of_lt_next (h : TradingWeeks n sunday rs) {e : ℕ} {r : Record} (hr : r ∈ rs)
    (hle : (dateOf sunday e).number ≤ r.date.number)
    (hlt : r.date.number < (dateOf sunday (e + 1)).number) :
    r.date.number = (dateOf sunday e).number := by
  have hsunday := h.isSunday
  have hidle := h.idle r hr
  rw [Date.weekday_eq] at hsunday hidle
  rw [number_dateOf] at hle hlt ⊢
  omega

/-- What is behind the first trading dates. -/
theorem afterDays_eq (h : TradingWeeks n sunday rs) {e : ℕ} (he : e ≤ 6 * n) :
    afterDays e rs = rs.filter fun r => (dateOf sunday e).number ≤ r.date.number := by
  induction e with
  | zero =>
    rw [afterDays_zero, List.filter_eq_self.mpr]
    intro r hr
    simpa [dateOf, Date.addDays] using h.number_le r hr
  | succ e ih =>
    have hahead : (dateOf sunday e).number < (dateOf sunday (e + 1)).number := by
      rw [number_dateOf, number_dateOf]
      omega
    have hnear : (dateOf sunday (e + 1)).number < (dateOf sunday e).number + 28 := by
      rw [number_dateOf, number_dateOf]
      omega
    have hmem {j : ℕ} (hj : j ≤ 6 * n) (hle : (dateOf sunday e).number ≤ (dateOf sunday j).number) :
        ∃ r ∈ rs.filter fun r => (dateOf sunday e).number ≤ r.date.number,
          r.date.number = (dateOf sunday j).number := by
      obtain ⟨r, hr, hrj⟩ := h.exists_dateOf hj
      exact ⟨r, List.mem_filter.mpr ⟨hr, by simpa [hrj] using hle⟩, by rw [hrj]⟩
    rw [afterDays, Function.iterate_succ_apply', ← afterDays, ih (by omega),
      (h.ordered.filter _).laterDays_eq hahead hnear (hmem he (by omega))
        (hmem (by omega) (Int.le_refl _)), List.filter_filter]
    · refine List.filter_congr fun r _ => ?_
      simp only [Bool.and_eq_left_iff_imp, decide_eq_true_eq]
      omega
    · intro r hr hlt
      obtain ⟨hr, hle⟩ := List.mem_filter.mp hr
      exact h.number_eq_of_lt_next hr (by simpa using hle) hlt

/-- The first trading dates. -/
theorem days_eq (h : TradingWeeks n sunday rs) {e : ℕ} (he : e ≤ 6 * n) :
    days e rs = rs.filter fun r => r.date.number < (dateOf sunday e).number := by
  have hsplit := days_append_afterDays e rs
  rw [h.afterDays_eq he] at hsplit
  exact List.append_cancel_right (hsplit.trans (h.ordered.filter_append _).symm)

end TradingWeeks

/-! ### Windows of weeks -/

/-- How many trading dates a window of so many weeks holds. -/
theorem DayCounter.endsFor_weeks {n : ℕ} (hn : 1 ≤ n) :
    endsFor (7 * n : ℕ) = 7 * n - (7 * n - 1) / 6 := by
  unfold endsFor
  omega

/-- A window that holds the ticks of all dates before one with a record does not reach farther. -/
theorem Window.Reaches.number_le {w : Window} {rs : List Record} {d d' : Date} (h : w.Reaches rs d)
    (h' : w.Reaches rs d') (hd : ∃ r ∈ rs, r.date = d) : d'.number ≤ d.number := by
  by_contra hlt
  obtain ⟨r, hr, rfl⟩ := hd
  have hsub : (rs.filter fun q => q.date.number < r.date.number).Sublist
      (rs.filter fun q => q.date.number < d'.number) := by
    refine List.monotone_filter_right rs fun q hq => ?_
    simp only [decide_eq_true_eq] at hq ⊢
    omega
  have hlen := congrArg List.length (h.ticks.symm.trans h'.ticks)
  rw [List.length_map, List.length_map] at hlen
  have hmem : r ∈ rs.filter fun q => q.date.number < d'.number := by
    rw [List.mem_filter]
    exact ⟨hr, by simpa using hlt⟩
  rw [← hsub.eq_of_length hlen] at hmem
  simpa using (List.mem_filter.mp hmem).2

namespace TradingWeeks

variable {n : ℕ} {sunday : Date} {rs : List Record}

/-- A window of `n` weeks holds the ticks of `7 * n - (7 * n - 1) / 6` trading dates and stops at the
first tick of the next. That is the end of the `n` weeks only if these are six or fewer. -/
theorem exists_window {source : TickSource} {start : ℤ} {fault : Option Fault} (hn : 1 ≤ n)
    (hrs : (source.readFrom start).records = (rs, fault)) (h : TradingWeeks n sunday rs) :
    ∃ w, collectWindow source start (7 * n : ℕ) = .ok w ∧ w.start = start ∧
      w.Reaches rs (dateOf sunday (7 * n - (7 * n - 1) / 6)) ∧
      (w.Reaches rs (sunday.addDays (7 * n)) ↔ n ≤ 6) := by
  have he : 7 * n - (7 * n - 1) / 6 ≤ 6 * n := by omega
  have hends := DayCounter.endsFor_weeks hn
  generalize heq : 7 * n - (7 * n - 1) / 6 = e at he hends
  have hdate := h.exists_dateOf he
  obtain ⟨g, rest, hg, hgnumber⟩ := h.ordered.exists_filter_cons (b := (dateOf sunday e).number)
    (hdate.imp fun r hr => ⟨hr.1, congrArg Date.number hr.2⟩)
  let w : Window := { start, stop := g.position, ticks := (days e rs).map (·.tick) }
  have hw : collectWindow source start (7 * n : ℕ) = .ok w := by
    rw [collectWindow_eq hrs, hends, h.afterDays_eq he, hg]
    rfl
  have hreaches : w.Reaches rs (dateOf sunday e) :=
    { ticks := by rw [← h.days_eq he]
      stop := by rw [h.ordered.find?_eq hg (Date.number_injective hgnumber)]; rfl }
  refine ⟨w, hw, rfl, hreaches, ?_, ?_⟩
  · intro hweeks
    have hle := hreaches.number_le hweeks hdate
    rw [number_dateOf, Date.number_addDays] at hle
    omega
  · intro hsix
    -- for so many weeks the count has not run ahead yet
    have hsame : e + e / 6 = 7 * n := by omega
    rw [← hsame]
    exact hreaches

/-- Two weeks of daily ticks: a window of two weeks ends where the third begins. -/
theorem exists_window_two : ∃ w,
    collectWindow (.memory (dailyTicks ⟨2014, 1, 5, by decide⟩ 20)) 0 14 = .ok w ∧
    w.Reaches (numbered 0 (dailyTicks ⟨2014, 1, 5, by decide⟩ 20)) ⟨2014, 1, 19, by decide⟩ := by
  have h : TradingWeeks 2 ⟨2014, 1, 5, by decide⟩
      (numbered 0 (dailyTicks ⟨2014, 1, 5, by decide⟩ 20)) :=
    ⟨by decide +kernel, by decide +kernel, by decide +kernel, by decide +kernel, by decide +kernel⟩
  obtain ⟨w, hw, -, -, hweeks⟩ := exists_window (by decide)
    (TickSource.records_readFrom_memory (dailyTicks ⟨2014, 1, 5, by decide⟩ 20) 0) h
  exact ⟨w, hw, hweeks.mpr (by decide)⟩

/-- Seven weeks of daily ticks: a window of seven weeks stops at the last Friday, although the Sunday
behind it is there. -/
theorem not_reaches_seven : ∃ w,
    TradingWeeks 7 ⟨2014, 1, 5, by decide⟩
      (numbered 0 (dailyTicks ⟨2014, 1, 5, by decide⟩ 50)) ∧
    collectWindow (.memory (dailyTicks ⟨2014, 1, 5, by decide⟩ 50)) 0 49 = .ok w ∧
    w.ticks.length = 41 ∧
    ¬ w.Reaches (numbered 0 (dailyTicks ⟨2014, 1, 5, by decide⟩ 50)) ⟨2014, 2, 23, by decide⟩ := by
  have h : TradingWeeks 7 ⟨2014, 1, 5, by decide⟩
      (numbered 0 (dailyTicks ⟨2014, 1, 5, by decide⟩ 50)) :=
    ⟨by decide +kernel, by decide +kernel, by decide +kernel, by decide +kernel, by decide +kernel⟩
  have hw : (collectWindow (.memory (dailyTicks ⟨2014, 1, 5, by decide⟩ 50)) 0 49).toOption.map
      (·.ticks.length) = some 41 := by
    decide +kernel
  have hlen : ((numbered 0 (dailyTicks ⟨2014, 1, 5, by decide⟩ 50)).filter fun r =>
      r.date.number < (⟨2014, 2, 23, by decide⟩ : Date).number).length = 42 := by
    decide +kernel
  obtain ⟨w, hw, hticks⟩ := Option.map_eq_some_iff.mp hw
  refine ⟨w, h, toOption_eq_some.mp hw, hticks, fun hweeks => ?_⟩
  rw [hweeks.ticks, List.length_map, hlen] at hticks
  omega

end TradingWeeks

end Backtest
