import Backtest.Proofs.Calendar
import Backtest.Proofs.Course
import Backtest.Proofs.Memory

/-!
# Alignment to a Sunday

Charts are moved on to the first record of a Sunday behind which the day of the month has changed. The
search keeps no more than the day of the month it began on and a flag. It ends at a change of date
nevertheless: the record in front of the one it ends at is of another date, and in the order of dates so
are all records in front of it.

* `DayChanged`, `NewSunday`, what the search looks for, said of the records alone;
* `SundaySearch.visitAll_flags`, where the search stands after some records;
  `TickSource.stopAt?_sundaySearch`, where it is stopped;
* `NewSunday.exists_previous`, the first new Sunday begins with a change of date;
* `TickSource.aligns_to_sunday`, the main statement.
-/

namespace Backtest

/-! ### New Sundays -/

/-- One of the records behind the first, up to a place, is of another day of the month than the first. -/
def DayChanged (rs : List Record) (j : ℕ) : Prop :=
  ∃ i q first, 1 ≤ i ∧ i ≤ j ∧ rs[i]? = some q ∧ rs[0]? = some first ∧ q.tick.day ≠ first.tick.day

/-- The record at a place is of a Sunday, and the day has changed by then. -/
def NewSunday (rs : List Record) (j : ℕ) : Prop :=
  DayChanged rs j ∧ ∃ r, rs[j]? = some r ∧ r.date.IsSunday

variable {rs : List Record} {r q : Record} {i j : ℕ}

theorem dayChanged_cons_iff :
    DayChanged (r :: rs) j ↔ (rs.take j).any (·.tick.day != r.tick.day) = true := by
  simp only [List.any_eq_true, bne_iff_ne]
  constructor
  · rintro ⟨i, q, first, hi, hij, hq, hfirst, hne⟩
    obtain ⟨k, rfl⟩ := Nat.exists_eq_add_of_le' hi
    obtain rfl := Option.some.inj hfirst
    refine ⟨q, List.mem_iff_getElem?.mpr ⟨k, ?_⟩, hne⟩
    rw [List.getElem?_take_of_lt (Nat.lt_of_succ_le hij)]
    exact hq
  · rintro ⟨q, hq, hne⟩
    obtain ⟨k, hk⟩ := List.mem_iff_getElem?.mp hq
    rw [List.getElem?_take, Option.ite_none_right_eq_some] at hk
    exact ⟨k + 1, q, r, Nat.le_add_left 1 k, hk.1, hk.2, rfl, hne⟩

instance decidableDayChanged : (rs : List Record) → (j : ℕ) → Decidable (DayChanged rs j)
  | [], _ => .isFalse (by rintro ⟨i, q, first, -, -, -, hfirst, -⟩; simp at hfirst)
  | _ :: _, _ => decidable_of_iff _ dayChanged_cons_iff.symm

instance decidableNewSunday (rs : List Record) (j : ℕ) : Decidable (NewSunday rs j) :=
  decidable_of_iff (DayChanged rs j ∧ (rs[j]?.any fun r => decide r.date.IsSunday) = true) (by
    simp only [NewSunday, Option.any_eq_true, decide_eq_true_eq])

/-- In front of the first new Sunday its date comes up only as long as the day has not changed. -/
theorem NewSunday.not_dayChanged (hr : rs[j]? = some r) (h : NewSunday rs j)
    (hleast : ∀ i < j, ¬ NewSunday rs i) (hij : i < j) (hq : rs[i]? = some q)
    (hdate : q.date = r.date) : ¬ DayChanged rs i := by
  obtain ⟨-, r', hr', hsunday⟩ := h
  obtain rfl := Option.some.inj (hr'.symm.trans hr)
  exact fun hchanged => hleast i hij ⟨hchanged, q, hq, hdate ▸ hsunday⟩

/-- The record in front of the first new Sunday is of another date. -/
theorem NewSunday.exists_previous (hr : rs[j]? = some r) (h : NewSunday rs j)
    (hleast : ∀ i < j, ¬ NewSunday rs i) :
    ∃ i q, j = i + 1 ∧ rs[i]? = some q ∧ q.date ≠ r.date := by
  obtain ⟨k, p, first, hk, hkj, hp, hfirst, hne⟩ := h.1
  obtain ⟨i, rfl⟩ := Nat.exists_eq_add_of_le' (Nat.le_trans hk hkj)
  have hlt : i + 1 < rs.length := (List.getElem?_eq_some_iff.mp hr).1
  obtain ⟨q, hq⟩ : ∃ q, rs[i]? = some q := ⟨rs[i], List.getElem?_eq_getElem (by omega)⟩
  refine ⟨i, q, rfl, hq, fun hdate => ?_⟩
  have hsame : ¬ DayChanged rs i := h.not_dayChanged hr hleast (Nat.lt_succ_self i) hq hdate
  have hday : q.tick.day = r.tick.day := congrArg Date.day hdate
  -- the change of day is at the Sunday itself, so the record in front of it is of the first day; but
  -- it is of the day of the Sunday as well
  rcases Nat.lt_or_ge k (i + 1) with hki | hki
  · exact hsame ⟨k, p, first, hk, by omega, hp, hfirst, hne⟩
  · obtain rfl : k = i + 1 := by omega
    obtain rfl := Option.some.inj (hp.symm.trans hr)
    rw [← hday] at hne
    rcases Nat.eq_zero_or_pos i with rfl | hi
    · exact hne (congrArg (·.tick.day) (Option.some.inj (hq.symm.trans hfirst)))
    · exact hsame ⟨i, q, first, hi, Nat.le_refl i, hq, hfirst, hne⟩

/-- In the order of dates no record in front of the first new Sunday is of its date. -/
theorem NewSunday.date_ne (hr : rs[j]? = some r) (h : NewSunday rs j)
    (hleast : ∀ i < j, ¬ NewSunday rs i)
    (hordered : rs.Pairwise fun q r => q.date.number ≤ r.date.number)
    (hij : i < j) (hq : rs[i]? = some q) : q.date ≠ r.date := by
  intro hdate
  obtain ⟨k, p, rfl, hp, hne⟩ := h.exists_previous hr hleast
  have hnumber {a b : ℕ} {u v : Record} (hab : a < b) (hu : rs[a]? = some u) (hv : rs[b]? = some v) :
      u.date.number ≤ v.date.number := by
    obtain ⟨ha, rfl⟩ := List.getElem?_eq_some_iff.mp hu
    obtain ⟨hb, rfl⟩ := List.getElem?_eq_some_iff.mp hv
    exact List.pairwise_iff_getElem.mp hordered a b ha hb hab
  have hpr := hnumber (Nat.lt_succ_self k) hp hr
  rcases Nat.lt_or_ge i k with hik | hik
  · have hqp := hnumber hik hq hp
    rw [hdate] at hqp
    exact hne (Date.number_injective (Int.le_antisymm hpr hqp))
  · obtain rfl : i = k := by omega
    obtain rfl := Option.some.inj (hq.symm.trans hp)
    exact hne hdate

/-! ### The search -/

/-- Once it has begun, a search keeps the day that it began on, and the flag tells whether another one
has come since. -/
theorem SundaySearch.visitAll_flags {s : SundaySearch} {day : ℕ} (h : s.startDay = some day)
    (rs : List Record) :
    (visitAll visit rs s).startDay = some day ∧
      (visitAll visit rs s).dayChanged = (s.dayChanged || rs.any (·.tick.day != day)) := by
  induction rs generalizing s with
  | nil => exact ⟨h, (Bool.or_false s.dayChanged).symm⟩
  | cons r rs ih =>
    have hvisit : (s.visit r).1 = { s with
        charts := Charts.process s.charts r.tick
        dayChanged := s.dayChanged || r.tick.day != day } := by
      simp only [visit, h]
    have hstart : (s.visit r).1.startDay = some day := by rw [hvisit]; exact h
    obtain ⟨hday, hchanged⟩ := ih hstart
    refine ⟨hday, hchanged.trans ?_⟩
    rw [hvisit, List.any_cons, Bool.or_assoc]

namespace TickSource

variable {source : TickSource} {start : ℤ}

/-- A search is stopped at a new Sunday. -/
theorem stopAt?_sundaySearch (charts : List (Chart Float)) {x : ℤ × Tick Float} :
    stopAt? SundaySearch.visit { charts, startDay := none, dayChanged := false } rs j = some x ↔
      NewSunday rs j ∧ ∃ r, rs[j]? = some r ∧ x = (r.next, r.tick) := by
  cases rs with
  | nil => simp [stopAt?]
  | cons first rs =>
    cases j with
    | zero =>
      constructor
      · intro h
        simp [stopAt?_zero, SundaySearch.visit] at h
      · rintro ⟨⟨⟨i, -, -, hi, hi', -⟩, -⟩, -⟩
        omega
    | succ k =>
      have hbegun : (SundaySearch.visit { charts, startDay := none, dayChanged := false } first).1 =
        { charts := Charts.process charts first.tick, startDay := some first.tick.day,
          dayChanged := false } := rfl
      rw [stopAt?_succ, hbegun, stopAt?, NewSunday, dayChanged_cons_iff, List.getElem?_cons_succ]
      cases hr : rs[k]? with
      | none => simp
      | some r =>
        obtain ⟨hday, hchanged⟩ := SundaySearch.visitAll_flags (s :=
          { charts := Charts.process charts first.tick, startDay := some first.tick.day,
            dayChanged := false }) rfl (rs.take k)
        have hsunday : r.tick.isSunday = true ↔ r.date.IsSunday := r.tick.time.isSunday_iff
        rw [Option.bind_some, SundaySearch.visit, hday]
        simp only [hchanged, Bool.false_or, List.take_add_one, hr, Option.toList_some,
          List.any_append, List.any_cons, List.any_nil, Bool.or_false, Bool.and_eq_true, hsunday,
          Option.ite_none_right_eq_some, Option.some.injEq, exists_eq_left', eq_comm (a := x)]

/-- Charts are shown the records from a cursor on up to the first new Sunday, whatever the order of
their times. The record in front of it is of another date, and its date has not come up since the day
changed; in the order of dates it has not come up at all. If there is no new Sunday, all records are
shown and there is a fault. -/
theorem aligns_to_sunday (hs : (source.readFrom start).records = (rs, none))
    (charts : List (Chart Float)) :
    let shown (ts : List (Tick Float)) := charts.map fun c => ts.foldl Chart.process c
    (∀ j r, rs[j]? = some r → NewSunday rs j → (∀ i < j, ¬ NewSunday rs i) →
      advanceToSunday source charts start =
        (shown ((rs.take (j + 1)).map (·.tick)), .ok (r.next, r.tick)) ∧
      (∃ i q, j = i + 1 ∧ rs[i]? = some q ∧ q.date ≠ r.date) ∧
      (∀ i q, i < j → rs[i]? = some q → q.date = r.date → ¬ DayChanged rs i) ∧
      (rs.Pairwise (fun q r => q.date.number ≤ r.date.number) →
        ∀ i q, i < j → rs[i]? = some q → q.date ≠ r.date)) ∧
    ((∀ j, ¬ NewSunday rs j) →
      advanceToSunday source charts start =
        (shown (rs.map (·.tick)), .error (.stream .noSunday))) := by
  intro shown
  have hgo (j : ℕ) (h : ¬ NewSunday rs j) : stopAt? SundaySearch.visit
      { charts, startDay := none, dayChanged := false } rs j = none :=
    Option.eq_none_iff_forall_ne_some.mpr fun x hx => h ((stopAt?_sundaySearch charts).mp hx).1
  have hshown (seen : List Record) : (visitAll SundaySearch.visit seen
      { charts, startDay := none, dayChanged := false }).charts = shown (seen.map (·.tick)) := by
    rw [visitAll_sundaySearch, Charts.processAll_eq_map]
    rfl
  constructor
  · intro j r hr hj hleast
    have hat := (stopAt?_sundaySearch charts).mpr ⟨hj, r, hr, rfl⟩
    refine ⟨?_, hj.exists_previous hr hleast, fun i q hij hq => hj.not_dayChanged hr hleast hij hq,
      fun hordered i q hij hq => hj.date_ne hr hleast hordered hij hq⟩
    rw [advanceToSunday, Reader.scan_eq, hs]
    simp only
    rw [scanRecords_of_stopAt? hat fun i hi => hgo i (hleast i hi)]
    simp only [hshown]
  · intro hnever
    rw [advanceToSunday, Reader.scan_eq, hs]
    simp only
    rw [scanRecords_of_forall_stopAt? fun k _ => hgo k (hnever k)]
    simp only [ScanEnd.ofFault, hshown]

/-- A search that begins on a Sunday goes on to the next one. -/
theorem aligns_to_sunday_week :
    let ts := dailyTicks ⟨2014, 1, 5, by decide⟩ 10
    let charts : List (Chart Float) := [.new "candlestick_M1" .m1 2]
    ∃ t, ts[6]? = some t ∧ t.time.date = ⟨2014, 1, 12, by decide⟩ ∧
      advanceToSunday (.memory ts) charts 0 =
        (charts.map fun c => (ts.take 7).foldl Chart.process c, .ok (7, t)) := by
  intro ts charts
  have hplaces : ((List.range 7).filter fun j => NewSunday (numbered 0 ts) j) = [6] := by
    decide +kernel
  have hnew (j : ℕ) (hj : j < 7) : NewSunday (numbered 0 ts) j ↔ j = 6 := by
    rw [← List.mem_singleton, ← hplaces, List.mem_filter, List.mem_range]
    simp [hj]
  have hat : (numbered 0 ts)[6]?.map (fun r => (r.next, r.date)) =
      some (7, ⟨2014, 1, 12, by decide⟩) := by
    decide +kernel
  obtain ⟨r, hr, hat⟩ := Option.map_eq_some_iff.mp hat
  obtain ⟨hnext, hdate⟩ := Prod.mk.inj hat
  have halign := ((aligns_to_sunday (records_readFrom_memory ts 0) charts).1 6 r hr
    ((hnew 6 (by decide)).mpr rfl) fun i hi h => by
      have := (hnew i (by omega)).mp h
      omega).1
  rw [List.map_take, map_tick_numbered, hnext] at halign
  refine ⟨r.tick, ?_, hdate, halign⟩
  rw [← map_tick_numbered 0 ts, List.getElem?_map, hr]
  rfl

end TickSource

end Backtest
