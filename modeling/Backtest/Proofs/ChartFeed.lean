import Backtest.Proofs.DayWalk

/-!
# Charts fed from a stream

Each way in which charts are moved along a source shows them a stretch of its stream, every record once
and in order, and leads from one cut of the stream to another.

* `Charts.processAll_append`, one stretch after another;
* `TickSource.Cut.advance`, `TickSource.Cut.replay`: over days, and between two cuts;
* `TickSource.fillCharts_eq_ok`, `TickSource.advanceToSunday_eq_ok`: the reads that align charts;
* `TickSource.Cut.fill`, `TickSource.Cut.toSunday`: up to full charts, and up to a Sunday.
-/

namespace Backtest

namespace Charts

variable {α : Type} [Price α]

@[simp] theorem processAll_nil (cs : List (Chart α)) : processAll cs [] = cs := rfl

@[simp] theorem processAll_cons (cs : List (Chart α)) (t : Tick α) (ts : List (Tick α)) :
    processAll cs (t :: ts) = processAll (process cs t) ts := rfl

theorem processAll_append (cs : List (Chart α)) (ts us : List (Tick α)) :
    processAll cs (ts ++ us) = processAll (processAll cs ts) us := List.foldl_append

/-- Charts that are shown ticks together are shown them one by one. -/
theorem processAll_eq_map (cs : List (Chart α)) (ts : List (Tick α)) :
    processAll cs ts = cs.map (·.processAll ts) := by
  induction ts generalizing cs with
  | nil => simp [Chart.processAll]
  | cons t ts ih =>
    rw [processAll_cons, ih, process, List.map_map]
    rfl

end Charts

namespace TickSource

variable {source : TickSource} {c e : ℤ} {before after seen rest : List Record}
  {fault : Option Fault} {charts charts' : List (Chart Float)}

/-- A scan from a cut that is stopped is stopped at a record behind the cut. -/
theorem Cut.exists_of_scan_stopped {σ ρ : Type} {visit : σ → Record → σ × Option ρ} {s s' : σ} {x : ρ}
    (h : source.Cut c before after fault)
    (hscan : (source.readFrom c).scan visit s = (s', .stopped x)) :
    ∃ seen r rest, after = seen ++ r :: rest ∧ visit (visitAll visit seen s) r = (s', some x) := by
  rw [Reader.scan_eq] at hscan
  obtain ⟨seen, r, rest, hrs, hv, -⟩ := exists_of_scanRecords_stopped hscan
  rcases h.reads with hf | hr
  · rw [hf, Reader.records_of_next_error rfl] at hrs
    simp at hrs
  · rw [hr] at hrs
    exact ⟨seen, r, rest, hrs, hv⟩

/-- Charts that are advanced from a cut are shown the days that are passed over. -/
theorem Cut.advance {target : ℤ} (h : source.Cut c before after fault)
    (ha : advanceCharts source c target charts = (charts', .ok e)) :
    let n := DayCounter.endsFor target
    charts' = Charts.processAll charts ((days n after).map (·.tick)) ∧
      walkEnd c fault (days n after) (afterDays n after) = .ok e ∧
      source.Cut e (before ++ days n after) (afterDays n after) fault :=
  h.walk ha

/-! ### Replays -/

theorem scanRecords_replayVisit {s : List (Chart Float) × ℕ} (hseen : ∀ r ∈ seen, r.position < e)
    (hrest : ∀ r ∈ rest, e ≤ r.position) :
    scanRecords (replayVisit e) fault (seen ++ rest) s =
      ((Charts.processAll s.1 (seen.map (·.tick)), s.2 + seen.length),
        if rest.isEmpty then .ofFault fault else .stopped ()) := by
  -- along the records before the end; what stands behind them only decides how the scan ends
  induction seen generalizing s with
  | nil =>
    cases rest with
    | nil => rfl
    | cons r rest =>
      have hr : e ≤ r.position := hrest r List.mem_cons_self
      simp [scanRecords, replayVisit, hr]
  | cons r seen ih =>
    have hr : ¬ e ≤ r.position := by
      have := hseen r List.mem_cons_self
      omega
    rw [List.cons_append, scanRecords, replayVisit, if_neg hr]
    simp only
    rw [ih fun q hq => hseen q (List.mem_cons_of_mem r hq)]
    simp [Nat.add_comm, Nat.add_left_comm]

/-- A replay up to a cursor shows the charts the records in front of it. -/
theorem replayCharts_eq (hr : (source.readFrom c).records = (seen ++ rest, fault))
    (hseen : ∀ r ∈ seen, r.position < e) (hrest : ∀ r ∈ rest, e ≤ r.position)
    (hend : rest = [] → fault = none) :
    replayCharts source c e charts =
      (Charts.processAll charts (seen.map (·.tick)), .ok seen.length) := by
  rw [replayCharts, Reader.scan_eq, hr, scanRecords_replayVisit hseen hrest]
  cases rest with
  | nil => simp [hend rfl, ScanEnd.ofFault]
  | cons r rest => simp

/-- A replay up to a cut shows the charts what stands in front of it. -/
theorem Cut.replay (he : source.Cut e (before ++ seen) rest fault) (hend : rest = [] → fault = none)
    (hr : (source.readFrom c).records = (seen ++ rest, fault)) :
    replayCharts source c e charts =
      (Charts.processAll charts (seen.map (·.tick)), .ok seen.length) :=
  replayCharts_eq hr (fun _ hmem => he.position_lt (List.mem_append_right before hmem)) he.above hend

/-! ### Alignment -/

theorem visitAll_fillVisit (rs : List Record) (cs : List (Chart Float)) :
    visitAll fillVisit rs cs = Charts.processAll cs (rs.map (·.tick)) := by
  rw [Charts.processAll, List.foldl_map]
  rfl

/-- Charts are filled where the read that shows them the records is stopped. -/
theorem fillCharts_eq_ok : fillCharts source charts c = (charts', .ok e) ↔
    (source.readFrom c).scan fillVisit charts = (charts', .stopped e) := by
  rw [fillCharts]
  rcases (source.readFrom c).scan fillVisit charts with ⟨cs, next | _ | f⟩ <;> simp

/-- Charts that are filled from a cut are shown the records up to another cut. -/
theorem Cut.fill (h : source.Cut c before after fault)
    (hf : fillCharts source charts c = (charts', .ok e)) :
    ∃ seen rest, after = seen ++ rest ∧ source.Cut e (before ++ seen) rest fault ∧
      charts' = Charts.processAll charts (seen.map (·.tick)) := by
  obtain ⟨seen, r, rest, rfl, hv⟩ := h.exists_of_scan_stopped (fillCharts_eq_ok.mp hf)
  simp only [visitAll_fillVisit, fillVisit, Prod.mk.injEq, Option.ite_none_right_eq_some,
    Option.some.injEq] at hv
  obtain ⟨rfl, -, rfl⟩ := hv
  refine ⟨seen ++ [r], rest, by simp, ?_, ?_⟩
  · rw [← List.append_assoc]
    exact cut_next (by rw [h.stream, List.append_assoc])
  · rw [List.map_append, Charts.processAll_append]
    rfl

theorem visit_charts (s : SundaySearch) (r : Record) :
    (s.visit r).1.charts = Charts.process s.charts r.tick := by
  unfold SundaySearch.visit
  cases s.startDay <;> rfl

theorem visitAll_sundaySearch (rs : List Record) (s : SundaySearch) :
    (visitAll SundaySearch.visit rs s).charts = Charts.processAll s.charts (rs.map (·.tick)) := by
  induction rs generalizing s with
  | nil => rfl
  | cons r rs ih =>
    rw [visitAll, List.foldl_cons, List.map_cons, Charts.processAll_cons, ← visit_charts]
    exact ih _

/-- A search for a Sunday is stopped behind the record it is at. -/
theorem visit_eq_some {s s' : SundaySearch} {r : Record} {x : Int × Tick Float}
    (h : s.visit r = (s', some x)) : x = (r.next, r.tick) := by
  unfold SundaySearch.visit at h
  cases hday : s.startDay with
  | none => simp [hday] at h
  | some day =>
    simp only [hday, Prod.mk.injEq, Option.ite_none_right_eq_some, Option.some.injEq] at h
    exact h.2.2.symm

/-- Charts are moved on to a Sunday where the search for it is stopped. -/
theorem advanceToSunday_eq_ok {found : Int × Tick Float} :
    advanceToSunday source charts c = (charts', .ok found) ↔
      ∃ s : SundaySearch, (source.readFrom c).scan SundaySearch.visit
        { charts, startDay := none, dayChanged := false } = (s, .stopped found) ∧
          s.charts = charts' := by
  rw [advanceToSunday]
  rcases (source.readFrom c).scan SundaySearch.visit
    { charts, startDay := none, dayChanged := false } with ⟨s, _ | _ | _⟩ <;> simp [and_comm]

/-- Charts that are moved from a cut to a Sunday are shown the records up to another cut. -/
theorem Cut.toSunday {t : Tick Float} (h : source.Cut c before after fault)
    (hs : advanceToSunday source charts c = (charts', .ok (e, t))) :
    ∃ seen rest, after = seen ++ rest ∧ source.Cut e (before ++ seen) rest fault ∧
      charts' = Charts.processAll charts (seen.map (·.tick)) ∧ c ≤ e := by
  obtain ⟨s, hscan, rfl⟩ := advanceToSunday_eq_ok.mp hs
  obtain ⟨seen, r, rest, rfl, hv⟩ := h.exists_of_scan_stopped hscan
  obtain ⟨rfl, rfl⟩ := Prod.mk.inj (visit_eq_some hv)
  have hcharts := visit_charts (visitAll SundaySearch.visit seen
    { charts, startDay := none, dayChanged := false }) r
  rw [hv, visitAll_sundaySearch] at hcharts
  refine ⟨seen ++ [r], rest, by simp, ?_, ?_, ?_⟩
  · rw [← List.append_assoc]
    exact cut_next (by rw [h.stream, List.append_assoc])
  · rw [hcharts, List.map_append, Charts.processAll_append]
    rfl
  · have hle := h.above r (by simp)
    have hlt := (inOrder_of_stream h.stream).lt r (by simp)
    omega

end TickSource

end Backtest
