import Backtest.Proofs.ChartFeed

/-!
# Ticks in memory

The cursors of ticks in memory are their numbers. What is done with such ticks up to a cursor depends
on the ticks before it alone: two lists that begin alike give the same.

* `numbered`, ticks with the cursors around them; `TickSource.records_readFrom_memory`;
* `scanRecords_numbered`, a scan that is stopped among common ticks;
* `walkDays_common`, `collectWindow_common`, `replayCharts_common`, `fillCharts_common`,
  `advanceToSunday_common`, what is done with common ticks.
-/

namespace Backtest

/-- Ticks with the cursors around them, from a number on. -/
def numbered (n : ℕ) : List (Tick Float) → List Record
  | [] => []
  | t :: ts => { tick := t, position := n, next := (n + 1 : ℕ) } :: numbered (n + 1) ts

theorem Reader.records_ticks (n : ℕ) (ts : List (Tick Float)) :
    (Reader.ticks n ts).records = (numbered n ts, none) := by
  induction ts generalizing n with
  | nil => exact records_of_next_none rfl
  | cons t ts ih =>
    have hnext : (Reader.ticks n (t :: ts)).next =
      some (.ok ({ tick := t, position := n, next := (n + 1 : ℕ) }, .ticks (n + 1 : ℕ) ts)) := rfl
    rw [records_of_next_ok hnext, ih]
    rfl

theorem TickSource.records_readFrom_memory (ts : List (Tick Float)) (n : ℕ) :
    ((TickSource.memory ts).readFrom n).records = (numbered n (ts.drop n), none) := by
  rw [← Reader.records_ticks]
  simp [readFrom, ticksFrom]

theorem numbered_append (n : ℕ) (ts us : List (Tick Float)) :
    numbered n (ts ++ us) = numbered n ts ++ numbered (n + ts.length) us := by
  induction ts generalizing n with
  | nil => rfl
  | cons t ts ih =>
    rw [List.cons_append, numbered, ih, numbered, List.cons_append, List.length_cons, Nat.add_assoc,
      Nat.add_comm 1]

theorem map_tick_numbered (n : ℕ) (ts : List (Tick Float)) : (numbered n ts).map (·.tick) = ts := by
  induction ts generalizing n with
  | nil => rfl
  | cons t ts ih => rw [numbered, List.map_cons, ih]

theorem length_numbered (n : ℕ) (ts : List (Tick Float)) : (numbered n ts).length = ts.length := by
  rw [← List.length_map, map_tick_numbered]

theorem lastNext_numbered (n : ℕ) (ts : List (Tick Float)) :
    lastNext n (numbered n ts) = (n + ts.length : ℕ) := by
  induction ts generalizing n with
  | nil => rfl
  | cons t ts ih =>
    rw [numbered, lastNext_cons, ih, List.length_cons, Nat.add_assoc, Nat.add_comm 1]

theorem mem_numbered {n : ℕ} {ts : List (Tick Float)} {r : Record} (h : r ∈ numbered n ts) :
    (n : ℤ) ≤ r.position ∧ r.next = r.position + 1 ∧ r.position < (n + ts.length : ℕ) := by
  induction ts generalizing n with
  | nil => simp [numbered] at h
  | cons t ts ih =>
    rw [List.length_cons]
    rcases List.mem_cons.mp h with rfl | h
    · simp only
      omega
    · obtain ⟨hle, hnext, hlt⟩ := ih h
      omega

/-! ### Scans of common ticks -/

/-- A scan that is stopped among the ticks that two lists have in common is stopped in the other list
as well, and leaves the same state. -/
theorem scanRecords_numbered {σ ρ : Type} {visit : σ → Record → σ × Option ρ}
    {fault : Option Fault} {p n : ℕ} {ts us : List (Tick Float)} {s s' : σ} {x : ρ}
    (hcommon : ts.take (p - n) = us.take (p - n))
    (hscan : scanRecords visit fault (numbered n ts) s = (s', .stopped x))
    (hx : ∀ s₁ s₂ r, r.next = r.position + 1 → visit s₁ r = (s₂, some x) → r.position < p) :
    scanRecords visit fault (numbered n us) s = (s', .stopped x) := by
  -- along both lists at once, as long as there are common ticks left
  by_cases hn : n < p
  · have hsucc : p - n = (p - (n + 1)) + 1 := by omega
    rw [hsucc] at hcommon
    cases ts with
    | nil => cases fault <;> simp [numbered, scanRecords, ScanEnd.ofFault] at hscan
    | cons t ts =>
      cases us with
      | nil => simp at hcommon
      | cons u us =>
        simp only [List.take_succ_cons, List.cons.injEq] at hcommon
        obtain ⟨rfl, hcommon⟩ := hcommon
        rw [numbered, scanRecords] at hscan ⊢
        split
        · rename_i hv
          rw [hv] at hscan
          exact hscan
        · rename_i hv
          rw [hv] at hscan
          exact scanRecords_numbered hcommon hscan hx
  · obtain ⟨before, r, after, hrs, hv, -⟩ := exists_of_scanRecords_stopped hscan
    have hmem : r ∈ numbered n ts := by simp [hrs]
    obtain ⟨hle, hnext, -⟩ := mem_numbered hmem
    have hlt := hx _ _ r hnext hv
    omega

/-- The next cursor of a walk that goes on is that behind the record it visits. -/
theorem cursor_of_visit {σ : Type} {onTick : σ → Tick Float → σ} {w w' : DayWalk σ} {r : Record}
    (h : w.visit onTick r = (w', none)) : w'.cursor = r.next := by
  unfold DayWalk.visit at h
  split at h
  · simp at h
  · obtain ⟨rfl, -⟩ := Prod.mk.inj h
    rfl

/-- A walk that stops does so before the record it visits. -/
theorem position_of_visit {σ : Type} {onTick : σ → Tick Float → σ} {w w' : DayWalk σ} {r : Record}
    {e : ℤ} (h : w.visit onTick r = (w', some e)) : e = r.position := by
  unfold DayWalk.visit at h
  split at h
  · exact (Option.some.inj (Prod.mk.inj h).2).symm
  · simp at h

/-- A walk that sees all records ends behind the last. -/
theorem cursor_of_ended {σ : Type} {onTick : σ → Tick Float → σ} {fault : Option Fault}
    {rs : List Record} {w w' : DayWalk σ}
    (h : scanRecords (DayWalk.visit onTick) fault rs w = (w', .ended)) :
    w'.cursor = lastNext w.cursor rs := by
  induction rs generalizing w with
  | nil =>
    obtain ⟨rfl, -⟩ := Prod.mk.inj h
    rfl
  | cons r rs ih =>
    rw [scanRecords] at h
    split at h
    · simp at h
    · rename_i v hv
      rw [ih h, cursor_of_visit hv, lastNext_cons]

/-! ### What is done with common ticks -/

section

variable {ts us : List (Tick Float)} {p : ℕ} {c e target : ℤ} {charts charts' : List (Chart Float)}

theorem drop_common (hcommon : ts.take p = us.take p) (n : ℕ) :
    (ts.drop n).take (p - n) = (us.drop n).take (p - n) := by
  rw [← List.drop_take, ← List.drop_take, hcommon]

/-- A list that is shorter than what it has in common with another is that other list. -/
theorem eq_of_common (hcommon : ts.take p = us.take p) (hlt : ts.length < p) : us = ts := by
  have hlen := congrArg List.length hcommon
  simp only [List.length_take] at hlen
  rw [List.take_of_length_le (by omega), List.take_of_length_le (by omega)] at hcommon
  exact hcommon.symm

/-- A walk that stops before the end of common ticks. -/
theorem walkDays_common {σ : Type} {onTick : σ → Tick Float → σ} {state state' : σ}
    (hcommon : ts.take p = us.take p) (hc : 0 ≤ c) (he : e < p)
    (h : walkDays (.memory ts) c target onTick state = (state', .ok e)) :
    walkDays (.memory us) c target onTick state = (state', .ok e) := by
  obtain ⟨n, rfl⟩ := Int.eq_ofNat_of_zero_le hc
  by_cases hlen : ts.length < p
  · rwa [eq_of_common hcommon hlen]
  · simp only [walkDays, Reader.scan_eq, TickSource.records_readFrom_memory] at h ⊢
    split at h
    · rename_i w position hscan
      simp only [Prod.mk.injEq, Except.ok.injEq] at h
      obtain ⟨rfl, rfl⟩ := h
      rw [scanRecords_numbered (drop_common hcommon n) hscan]
      intro w₁ w₂ r _ hv
      rwa [← position_of_visit hv]
    · rename_i w hscan
      simp only [Prod.mk.injEq, Except.ok.injEq] at h
      obtain ⟨-, rfl⟩ := h
      -- a walk that sees all ticks ends behind them, and they reach beyond the common ones
      rw [cursor_of_ended hscan, lastNext_numbered, List.length_drop] at he
      omega
    · simp at h

/-- A window that stops before the end of common ticks. -/
theorem collectWindow_common {w : Window} (hcommon : ts.take p = us.take p) (hc : 0 ≤ c)
    (he : w.stop < p) (h : collectWindow (.memory ts) c target = .ok w) :
    collectWindow (.memory us) c target = .ok w := by
  obtain ⟨hstart, ticks, hticks, hwalk⟩ := collectWindow_eq_ok h
  have hw : w = { start := c, stop := w.stop, ticks := ticks.toList } := by rw [← hticks, ← hstart]
  rw [collectWindow, walkDays_common hcommon hc he hwalk, hw]
  rfl

/-- A replay shows the charts the ticks between two numbers. -/
theorem replayCharts_memory {n m : ℕ} (h : n ≤ m) :
    replayCharts (.memory ts) n m charts =
      (Charts.processAll charts ((ts.take m).drop n), .ok ((ts.take m).drop n).length) := by
  have hsplit : numbered n (ts.drop n) =
      numbered n ((ts.take m).drop n) ++ numbered (n + ((ts.take m).drop n).length) (ts.drop m) := by
    rw [← numbered_append, List.drop_take]
    congr 1
    rw [show ts.drop m = (ts.drop n).drop (m - n) by rw [List.drop_drop]; congr 1; omega,
      List.take_append_drop]
  have hseen (r : Record) (hr : r ∈ numbered n ((ts.take m).drop n)) : r.position < m := by
    have hlt := (mem_numbered hr).2.2
    rw [List.length_drop, List.length_take] at hlt
    omega
  have hrest (r : Record)
      (hr : r ∈ numbered (n + ((ts.take m).drop n).length) (ts.drop m)) : (m : ℤ) ≤ r.position := by
    obtain ⟨hle, -, hlt⟩ := mem_numbered hr
    rw [List.length_drop, List.length_take] at hle hlt
    rw [List.length_drop] at hlt
    omega
  rw [replayCharts, Reader.scan_eq, TickSource.records_readFrom_memory, hsplit,
    TickSource.scanRecords_replayVisit hseen hrest, map_tick_numbered]
  simp only [length_numbered, Nat.zero_add]
  cases (numbered (n + ((ts.take m).drop n).length) (ts.drop m)).isEmpty <;> rfl

/-- A replay that stops before the end of common ticks. -/
theorem replayCharts_common (hcommon : ts.take p = us.take p) (hc : 0 ≤ c) (hce : c ≤ e)
    (he : e ≤ p) : replayCharts (.memory us) c e charts = replayCharts (.memory ts) c e charts := by
  obtain ⟨n, rfl⟩ := Int.eq_ofNat_of_zero_le hc
  obtain ⟨m, rfl⟩ := Int.eq_ofNat_of_zero_le (Int.le_trans hc hce)
  have hnm : n ≤ m := Int.ofNat_le.mp hce
  have htake : us.take m = ts.take m := by
    rw [← Nat.min_eq_left (Int.ofNat_le.mp he), ← List.take_take, ← hcommon, List.take_take]
  rw [replayCharts_memory hnm, replayCharts_memory hnm, htake]

/-- Charts that are full before the end of common ticks. -/
theorem fillCharts_common (hcommon : ts.take p = us.take p) (hc : 0 ≤ c) (he : e ≤ p)
    (h : fillCharts (.memory ts) charts c = (charts', .ok e)) :
    fillCharts (.memory us) charts c = (charts', .ok e) := by
  obtain ⟨n, rfl⟩ := Int.eq_ofNat_of_zero_le hc
  rw [TickSource.fillCharts_eq_ok, Reader.scan_eq, TickSource.records_readFrom_memory] at h ⊢
  refine scanRecords_numbered (drop_common hcommon n) h fun s₁ s₂ r hr hv => ?_
  simp only [fillVisit, Prod.mk.injEq, Option.ite_none_right_eq_some, Option.some.injEq] at hv
  omega

/-- A Sunday that is found before the end of common ticks. -/
theorem advanceToSunday_common {t : Tick Float} (hcommon : ts.take p = us.take p) (hc : 0 ≤ c)
    (he : e ≤ p) (h : advanceToSunday (.memory ts) charts c = (charts', .ok (e, t))) :
    advanceToSunday (.memory us) charts c = (charts', .ok (e, t)) := by
  obtain ⟨n, rfl⟩ := Int.eq_ofNat_of_zero_le hc
  obtain ⟨s, hscan, hs⟩ := TickSource.advanceToSunday_eq_ok.mp h
  rw [Reader.scan_eq, TickSource.records_readFrom_memory] at hscan
  refine TickSource.advanceToSunday_eq_ok.mpr ⟨s, ?_, hs⟩
  rw [Reader.scan_eq, TickSource.records_readFrom_memory]
  refine scanRecords_numbered (drop_common hcommon n) hscan fun s₁ s₂ r hr hv => ?_
  obtain ⟨rfl, -⟩ := Prod.mk.inj (TickSource.visit_eq_some hv)
  omega

end

end Backtest
