import Backtest.Proofs.Accepted
import Backtest.Proofs.Bars
import Backtest.Proofs.Memory

/-!
# Filling charts

Charts of different periods are filled by one read of a source. A chart is full once it has opened as
many bars as it keeps candles, and which ticks open a bar can be told from their times alone. So the
read takes the least number of records that is enough for all charts, in whatever order these are.

* `Period.openings`, the ticks that open a bar; `Period.length_openings`, there is one for each bar;
* `Charts.FilledBy`, ticks that are enough for charts; `Charts.full_iff_filledBy`;
* `TickSource.fills_with_least`, the main statement.
-/

namespace Backtest

variable {α : Type}

/-! ### Ticks that open a bar -/

namespace Period

variable {p : Period} {ts : List (Tick α)} {t u : Tick α}

/-- The places of the ticks that open a bar: the first tick, and each one whose period is later than
those of all ticks in front of it. -/
def openings (p : Period) (ts : List (Tick α)) : List ℕ :=
  (List.range ts.length).filter fun i =>
    ts[i]?.any fun t => (ts.take i).all fun u => p.idOf u < p.idOf t

theorem openings_concat (p : Period) (ts : List (Tick α)) (t : Tick α) :
    p.openings (ts ++ [t]) =
      p.openings ts ++ if ∀ u ∈ ts, p.idOf u < p.idOf t then [ts.length] else [] := by
  have hearlier : (List.range ts.length).filter (fun i =>
      (ts ++ [t])[i]?.any fun v => ((ts ++ [t]).take i).all fun u => p.idOf u < p.idOf v) =
        p.openings ts := by
    refine List.filter_congr fun i hi => ?_
    have hlt := List.mem_range.mp hi
    rw [List.getElem?_append_left hlt, List.take_append_of_le_length (Nat.le_of_lt hlt)]
  rw [openings, List.length_append, List.length_singleton, List.range_succ, List.filter_append,
    hearlier, List.filter_cons, List.filter_nil, List.getElem?_concat_length, List.take_left,
    Option.any_some]
  simp only [List.all_eq_true, decide_eq_true_eq]

/-- The period that a tick has reached is before another one if its own and those of all ticks in front
of it are. -/
theorem reached_lt_iff {m : ℤ} : p.reached ts u < m ↔ ∀ v ∈ ts ++ [u], p.idOf v < m := by
  induction ts using List.reverseRecOn generalizing u with
  | nil => simp [reached]
  | append_singleton ts v ih =>
    rw [reached_concat, Int.max_lt, ih]
    simp only [List.forall_mem_append, List.forall_mem_singleton]
    exact and_comm

/-- Ticks make as many bars as there are ticks among them that open one. -/
theorem length_openings (p : Period) (ts : List (Tick α)) :
    (p.openings ts).length = (p.bars ts).length := by
  induction ts using List.reverseRecOn with
  | nil => rfl
  | append_singleton ts t ih =>
    rcases List.eq_nil_or_concat' ts with rfl | ⟨before, u, rfl⟩
    · rfl
    · obtain ⟨older, b, hbars, -, hid, hmore⟩ := bars_concat p before u t
      rw [openings_concat, List.length_append, ih, hbars, hmore]
      by_cases h : b.periodId < p.idOf t
      · rw [if_pos h, if_pos (reached_lt_iff.mp (hid ▸ h))]
        simp
      · rw [if_neg h, if_neg fun hall => h (hid ▸ reached_lt_iff.mpr hall)]
        simp

end Period

/-! ### Ticks that fill charts -/

variable [Price α]

/-- A chart as its definition gives it has taken in no tick. -/
theorem Chart.Defined.sums {c : Chart α} (h : c.Defined) :
    ∃ p n, c.Sums p n [] := by
  obtain ⟨p, n, indicators, -, -, rfl⟩ := h
  exact ⟨p, n, rfl, rfl, rfl, rfl, rfl⟩

namespace Charts

/-- Ticks are enough for charts: in each chart's period they open as many bars as it keeps candles. -/
def FilledBy (cs : List (Chart α)) (ts : List (Tick α)) : Prop :=
  ∀ c ∈ cs, c.capacity ≤ (c.period.openings ts).length

instance decidableFilledBy (cs : List (Chart α)) (ts : List (Tick α)) : Decidable (FilledBy cs ts) :=
  inferInstanceAs (Decidable (∀ c ∈ cs, c.capacity ≤ (c.period.openings ts).length))

theorem full_iff_filledBy {cs : List (Chart α)} (h : ∀ c ∈ cs, c.Defined) (ts : List (Tick α)) :
    full (processAll cs ts) = true ↔ FilledBy cs ts := by
  rw [processAll_eq_map, full, List.all_map, List.all_eq_true]
  refine forall₂_congr fun c hc => ?_
  obtain ⟨p, n, hsums⟩ := (h c hc).sums
  rw [Function.comp_apply, (hsums.processAll ts).isFull_iff, hsums.capacity, hsums.period,
    List.nil_append, Period.length_openings]

end Charts

namespace TickSource

variable {source : TickSource} {charts : List (Chart Float)} {rs : List Record} {start : ℤ}

/-- A read that fills charts is stopped at a record if the records up to it are enough. -/
theorem stopAt?_fillVisit {k : ℕ} {r : Record} (hr : rs[k]? = some r) :
    stopAt? fillVisit charts rs k =
      if Charts.full (Charts.processAll charts ((rs.take (k + 1)).map (·.tick))) then some r.next
      else none := by
  have hshown : Charts.process (visitAll fillVisit (rs.take k) charts) r.tick =
      Charts.processAll charts ((rs.take (k + 1)).map (·.tick)) := by
    rw [visitAll_fillVisit, List.take_add_one, hr, List.map_append, Charts.processAll_append]
    rfl
  rw [stopAt?, hr, ← hshown]
  rfl

/-- Whatever their order, charts that have just been defined are shown the records from a cursor on up
to the first one with which these are enough for all of them, and the read ends behind it. If they are
never enough, all records are shown and there is a fault. -/
theorem fills_with_least {text : String} (hcharts : readCharts text = .ok charts)
    (hs : (source.readFrom start).records = (rs, none)) :
    let ticks (n : ℕ) := (rs.take n).map (·.tick)
    let shown (cs : List (Chart Float)) (ts : List (Tick Float)) :=
      cs.map fun c => ts.foldl Chart.process c
    ∀ order : List (Chart Float), order.Perm charts →
      (∀ k r, rs[k]? = some r → Charts.FilledBy charts (ticks (k + 1)) →
        (∀ j < k, ¬ Charts.FilledBy charts (ticks (j + 1))) →
        fillCharts source order start = (shown order (ticks (k + 1)), .ok r.next)) ∧
      ((∀ k < rs.length, ¬ Charts.FilledBy charts (ticks (k + 1))) →
        fillCharts source order start =
          (shown order (rs.map (·.tick)), .error (.stream .chartsNotFilled))) := by
  intro ticks shown order horder
  have hdefined (c : Chart Float) (hc : c ∈ order) : c.Defined :=
    defined_of_readCharts hcharts c (horder.mem_iff.mp hc)
  have hfilled (ts : List (Tick Float)) :
      Charts.FilledBy order ts ↔ Charts.FilledBy charts ts :=
    forall_congr' fun c => imp_congr_left horder.mem_iff
  have hstop (k : ℕ) (r : Record) (hr : rs[k]? = some r) : stopAt? fillVisit order rs k =
      if Charts.FilledBy charts (ticks (k + 1)) then some r.next else none := by
    rw [stopAt?_fillVisit hr]
    simp only [Charts.full_iff_filledBy hdefined, hfilled, ticks]
  have hgo (k : ℕ) (hk : k < rs.length) (h : ¬ Charts.FilledBy charts (ticks (k + 1))) :
      stopAt? fillVisit order rs k = none := by
    rw [hstop k rs[k] (List.getElem?_eq_getElem hk), if_neg h]
  have hshown (seen : List Record) :
      visitAll fillVisit seen order = shown order (seen.map (·.tick)) := by
    rw [visitAll_fillVisit, Charts.processAll_eq_map]
    rfl
  rw [fillCharts, Reader.scan_eq, hs]
  constructor
  · intro k r hr hk hleast
    have hlt : k < rs.length := (List.getElem?_eq_some_iff.mp hr).1
    have hat : stopAt? fillVisit order rs k = some r.next := by rw [hstop k r hr, if_pos hk]
    rw [scanRecords_of_stopAt? hat fun j hj => hgo j (Nat.lt_trans hj hlt) (hleast j hj), hshown]
  · intro hnever
    rw [scanRecords_of_forall_stopAt? fun k hk => hgo k hk (hnever k hk), hshown]
    rfl

/-- A chart of minutes is full at the second tick here, as the third is late and opens no bar, and one of
four hours at the fourth, which opens a single bar after a gap. -/
theorem fills_with_least_two :
    let at_ (second : ℕ) : Tick Float :=
      { time := .ofMoment (.ofSecondOfDay ⟨2014, 1, 6, by decide⟩ second), bid := 1.5, ask := 1.25 }
    let ts := [at_ 14280, at_ 14340, at_ 14200, at_ 50000, at_ 50001]
    ∃ charts, readCharts "candlestick,M1,1; candlestick,H4,1|sma,1" = .ok charts ∧
      fillCharts (.memory ts) charts.reverse 0 =
        (charts.reverse.map fun c => (ts.take 4).foldl Chart.process c, .ok 4) := by
  intro at_ ts
  have h : (readCharts "candlestick,M1,1; candlestick,H4,1|sma,1").toOption.map
      (fun charts : List (Chart Float) => (List.range 4).filter fun k =>
        Charts.FilledBy charts (ts.take (k + 1))) = some [3] := by
    decide +kernel
  obtain ⟨charts, hcharts, hfilled⟩ := Option.map_eq_some_iff.mp h
  have hplaces (k : ℕ) (hk : k < 4) : Charts.FilledBy charts (ts.take (k + 1)) ↔ k = 3 := by
    rw [← List.mem_singleton, ← hfilled, List.mem_filter, List.mem_range]
    simp [hk]
  have hticks (n : ℕ) : ((numbered 0 ts).take n).map (·.tick) = ts.take n := by
    rw [List.map_take, map_tick_numbered]
  have hcharts := toOption_eq_some.mp hcharts
  obtain ⟨hfills, -⟩ := fills_with_least hcharts (records_readFrom_memory ts 0) charts.reverse
    (List.reverse_perm charts)
  refine ⟨charts, hcharts, hfills 3 _ rfl ((hplaces 3 (by decide)).mpr rfl) fun j hj hfull => ?_⟩
  have hthree := (hplaces j (by omega)).mp (hticks (j + 1) ▸ hfull)
  omega

end TickSource

end Backtest
