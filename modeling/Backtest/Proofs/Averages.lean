import Backtest.Proofs.Accepted
import Backtest.Proofs.ChartSteps
import Mathlib.Data.List.Induction

/-!
# Averages that stay current

An indicator is recomputed only when a candle opens, and later ticks change the candle being built
alone. So its value is at all times the average over the completed candles that are there now. What it
publishes is its value, from the first candle on that opens on a chart both active and full.

* `Indicator.average?`, the average by the places of the candles, where they are there;
  `Chart.process?`, a tick that is taken in with every place looked up and no division by zero;
* `Chart.Current`, a chart whose indicators agree with its candles; `Current.process`;
* `Chart.Announced`, whether a candle has opened on the chart while active and full;
* `Chart.Reports`, a chart that has published its values since; `Chart.Defined.reports`.
-/

namespace Backtest

variable {α : Type} [Price α]

/-- Attempts that all succeed, one after the other. -/
theorem mapM_eq_map {β γ : Type} {f : β → Option γ} {g : β → γ} {xs : List β}
    (h : ∀ x ∈ xs, f x = some (g x)) : xs.mapM f = some (xs.map g) := by
  induction xs with
  | nil => rfl
  | cons x xs ih =>
    rw [List.mapM_cons, h x List.mem_cons_self, ih fun y hy => h y (List.mem_cons_of_mem x hy)]
    rfl

/-! ### Averages by place -/

namespace Indicator

/-- The average closing bid of the candles at the places 1 to `lookback`, added up in this order, if
there is one at each of these places and at least one such place. -/
def average? (lookback : ℕ) (candles : List (Candle α)) : Option α :=
  if lookback = 0 then none
  else do
    let closes ← (List.range' 1 lookback).mapM fun place => candles[place]?.map (·.closeBid)
    return Price.sum closes / Price.ofNat lookback

/-- The indicator recomputed, if its average can be taken. -/
def update? (i : Indicator α) (candles : List (Candle α)) (active : Bool) : Option (Indicator α) :=
  (average? i.lookback candles).map fun x =>
    { i with value := some x, published := if active then some x else i.published }

omit [Price α] in
theorem mapM_place (f : Candle α → α) (candles : List (Candle α)) {start count : ℕ}
    (h : start + count ≤ candles.length) :
    (List.range' start count).mapM (fun place => candles[place]?.map f) =
      some (((candles.drop start).take count).map f) := by
  induction count generalizing start with
  | zero => simp
  | succ count ih =>
    have hlt : start < candles.length := by omega
    rw [List.range'_succ, List.mapM_cons, List.getElem?_eq_getElem hlt, ih (by omega),
      List.drop_eq_getElem_cons hlt, List.take_succ_cons, List.map_cons]
    rfl

theorem average?_eq {lookback : ℕ} {candles : List (Candle α)} (hpos : 1 ≤ lookback)
    (h : lookback < candles.length) : average? lookback candles = some (average lookback candles) := by
  rw [average?, if_neg (by omega), mapM_place _ _ (by omega), List.drop_one]
  rfl

theorem update?_eq {i : Indicator α} {candles : List (Candle α)} (hpos : 1 ≤ i.lookback)
    (h : i.lookback < candles.length) (active : Bool) :
    i.update? candles active = some (i.update candles active) := by
  rw [update?, average?_eq hpos h]
  rfl

end Indicator

namespace Chart

variable {c : Chart α} {t : Tick α}

/-! ### Ticks and full charts -/

omit [Price α] in
theorem isFull_iff : c.isFull = true ↔ c.candles.length = c.capacity := beq_iff_eq

/-- The chart never keeps more candles than it may. -/
def Bounded (c : Chart α) : Prop := c.candles.length ≤ c.capacity

theorem Bounded.process (h : c.Bounded) (t : Tick α) : (c.process t).Bounded := by
  by_cases ho : c.Opens t
  · rw [process_of_opens ho]
    exact List.length_take_le ..
  · obtain ⟨k, ks, hk, -, hp⟩ := process_of_not_opens ho
    rw [Bounded, hk] at h
    rw [hp]
    exact h

omit [Price α] in
theorem length_closedCandles (c : Chart α) : c.closedCandles.length = c.candles.length := by
  unfold closedCandles
  split
  · rename_i hk _
    rw [hk]
    rfl
  · rfl

/-- A full chart stays full. -/
theorem isFull_process (h : c.isFull = true) (t : Tick α) : (c.process t).isFull = true := by
  rw [isFull_iff] at h ⊢
  by_cases ho : c.Opens t
  · rw [process_of_opens ho, opened, List.length_take, List.length_cons, length_closedCandles, h]
    exact Nat.min_eq_left (Nat.le_succ _)
  · obtain ⟨k, ks, hk, -, hp⟩ := process_of_not_opens ho
    rw [hp, ← h, hk]
    rfl

/-- Whether a tick opens a candle on a chart that is then full. -/
def Fills (c : Chart α) (t : Tick α) : Prop := c.Opens t ∧ (c.process t).isFull = true

instance decidableFills (c : Chart α) (t : Tick α) : Decidable (c.Fills t) :=
  inferInstanceAs (Decidable (_ ∧ _))

theorem indicators_process_of_fills (h : c.Fills t) :
    (c.process t).indicators =
      c.indicators.map (·.update (c.process t).candles c.active) := by
  obtain ⟨ho, hfull⟩ := h
  rw [isFull_iff] at hfull
  rw [process_of_opens ho] at hfull ⊢
  exact if_pos hfull

/-- A tick that does not open a candle on a full chart changes neither the indicators nor, on a full
chart, what they are computed from. -/
theorem process_of_not_fills (h : ¬ c.Fills t) :
    (c.process t).indicators = c.indicators ∧ (c.process t).isFull = c.isFull ∧
      (c.isFull = true → (c.process t).candles.tail = c.candles.tail) := by
  by_cases ho : c.Opens t
  · have hnot : ¬ (c.process t).isFull = true := fun hfull => h ⟨ho, hfull⟩
    have hbefore : ¬ c.isFull = true := fun hfull => hnot (isFull_process hfull t)
    refine ⟨?_, by simp_all, fun hfull => absurd hfull hbefore⟩
    rw [isFull_iff, process_of_opens ho] at hnot
    rw [process_of_opens ho]
    exact if_neg hnot
  · obtain ⟨k, ks, hk, -, hp⟩ := process_of_not_opens ho
    rw [hp]
    refine ⟨rfl, ?_, fun _ => by rw [hk]; rfl⟩
    rw [isFull, isFull, hk]
    rfl

/-! ### Indicators that agree with the candles -/

/-- The chart after a tick, if each candle that its indicators look at is there, and no average is over
no candles. -/
def process? (c : Chart α) (t : Tick α) : Option (Chart α) :=
  if c.Fills t then
    (c.indicators.mapM fun (i : Indicator α) =>
      i.update? (c.process t).candles c.active).map fun indicators =>
      { c.process t with indicators }
  else some (c.process t)

/-- A chart whose indicators agree with its candles. -/
structure Current (c : Chart α) : Prop where
  bounded : c.Bounded
  lookback : ∀ i ∈ c.indicators, 1 ≤ i.lookback ∧ i.lookback < c.capacity
  value : ∀ i ∈ c.indicators,
    i.value = if c.isFull then some (Indicator.average i.lookback c.candles) else none

theorem Current.process (h : c.Current) (t : Tick α) : (c.process t).Current where
  bounded := h.bounded.process t
  lookback := by
    intro j hj
    rw [capacity_process]
    by_cases hf : c.Fills t
    · rw [indicators_process_of_fills hf] at hj
      obtain ⟨i, hi, rfl⟩ := List.mem_map.mp hj
      exact h.lookback i hi
    · rw [(process_of_not_fills hf).1] at hj
      exact h.lookback j hj
  value := by
    intro j hj
    by_cases hf : c.Fills t
    · rw [indicators_process_of_fills hf] at hj
      obtain ⟨i, hi, rfl⟩ := List.mem_map.mp hj
      rw [if_pos hf.2]
      rfl
    · obtain ⟨hsame, hfull, htail⟩ := process_of_not_fills hf
      rw [hsame] at hj
      rw [h.value j hj, hfull]
      split
      · rename_i hc
        rw [Indicator.average, Indicator.average, htail hc]
      · rfl

/-- On such a chart no candle is missing and no average is over no candles. -/
theorem Current.process? (h : c.Current) (t : Tick α) : c.process? t = some (c.process t) := by
  rw [Chart.process?]
  split
  · rename_i hf
    have hlength := isFull_iff.mp hf.2
    rw [capacity_process] at hlength
    rw [mapM_eq_map fun i hi => Indicator.update?_eq (h.lookback i hi).1
      (hlength ▸ (h.lookback i hi).2) c.active, ← indicators_process_of_fills hf]
    rfl
  · rfl

/-- What an indicator of such a chart is worth. -/
theorem Current.value_eq (h : c.Current) {i : Indicator α} (hi : i ∈ c.indicators) :
    i.value = if c.isFull then Indicator.average? i.lookback c.candles else none := by
  rw [h.value i hi]
  split
  · rename_i hfull
    obtain ⟨hpos, hlt⟩ := h.lookback i hi
    rw [Indicator.average?_eq hpos (by rwa [isFull_iff.mp hfull])]
  · rfl

/-- On such a chart, once it is full, the average of each indicator can be taken. -/
theorem Current.exists_average (h : c.Current) (hfull : c.isFull = true) {i : Indicator α}
    (hi : i ∈ c.indicators) : ∃ x, Indicator.average? i.lookback c.candles = some x := by
  obtain ⟨hpos, hlt⟩ := h.lookback i hi
  exact ⟨_, Indicator.average?_eq hpos (by rwa [isFull_iff.mp hfull])⟩

/-! ### What is published -/

/-- Whether a candle has opened on the chart while it was active and, with that candle, full. -/
def Announced (c : Chart α) (past : List (ChartStep α)) : Prop :=
  ∃ before t after, past = before ++ .tick t :: after ∧ (c.after before).active = true ∧
    (c.after before).Fills t

variable {past : List (ChartStep α)}

theorem announced_concat {s : ChartStep α} :
    c.Announced (past ++ [s]) ↔ c.Announced past ∨
      ∃ t, s = .tick t ∧ (c.after past).active = true ∧ (c.after past).Fills t := by
  constructor
  · rintro ⟨before, t, after, hpast, hactive, hfills⟩
    rcases List.eq_nil_or_concat' after with rfl | ⟨after, s', rfl⟩
    · obtain ⟨rfl, hs⟩ := List.append_inj' hpast rfl
      exact .inr ⟨t, List.singleton_inj.mp hs, hactive, hfills⟩
    · rw [← List.cons_append, ← List.append_assoc] at hpast
      obtain ⟨rfl, -⟩ := List.append_inj' hpast rfl
      exact .inl ⟨before, t, after, rfl, hactive, hfills⟩
  · rintro (⟨before, t, after, rfl, hactive, hfills⟩ | ⟨t, rfl, hactive, hfills⟩)
    · exact ⟨before, t, after ++ [s], by simp, hactive, hfills⟩
    · exact ⟨past, t, [], rfl, hactive, hfills⟩

/-- What the indicators of a chart are worth, and what they publish, after some steps. -/
structure Reports (c : Chart α) (past : List (ChartStep α)) : Prop where
  current : (c.after past).Current
  standing : c.Announced past → (c.after past).active = true ∧ (c.after past).isFull = true
  published : c.Announced past → ∀ i ∈ (c.after past).indicators, i.published = i.value
  unpublished : ¬ c.Announced past → ∀ i ∈ (c.after past).indicators, i.published = none

theorem Reports.activate (h : c.Reports past) : c.Reports (past ++ [.activate]) := by
  have hiff : c.Announced (past ++ [.activate]) ↔ c.Announced past := by simp [announced_concat]
  have hafter : c.after (past ++ [.activate]) = (c.after past).activate := after_concat ..
  refine ⟨?_, ?_, ?_, ?_⟩ <;> rw [hafter]
  · exact ⟨h.current.bounded, h.current.lookback, h.current.value⟩
  · exact fun hann => ⟨rfl, (h.standing (hiff.mp hann)).2⟩
  · exact fun hann => h.published (hiff.mp hann)
  · exact fun hann => h.unpublished (mt hiff.mpr hann)

theorem Reports.tick (h : c.Reports past) (t : Tick α) : c.Reports (past ++ [.tick t]) := by
  have hiff : c.Announced (past ++ [.tick t]) ↔
      c.Announced past ∨ (c.after past).active = true ∧ (c.after past).Fills t := by
    simp [announced_concat]
  have hafter : c.after (past ++ [.tick t]) = (c.after past).process t := after_concat ..
  refine ⟨?_, ?_, ?_, ?_⟩ <;> rw [hafter]
  · exact h.current.process t
  · intro hann
    rw [active_process]
    rcases hiff.mp hann with hann | ⟨hactive, hfills⟩
    · exact ⟨(h.standing hann).1, isFull_process (h.standing hann).2 t⟩
    · exact ⟨hactive, hfills.2⟩
  · intro hann j hj
    by_cases hf : (c.after past).Fills t
    · have hactive : (c.after past).active = true :=
        (hiff.mp hann).elim (fun hann => (h.standing hann).1) (·.1)
      rw [indicators_process_of_fills hf, hactive] at hj
      obtain ⟨i, hi, rfl⟩ := List.mem_map.mp hj
      rfl
    · rw [(process_of_not_fills hf).1] at hj
      exact h.published ((hiff.mp hann).resolve_right fun hnew => hf hnew.2) j hj
  · intro hann j hj
    rw [hiff, not_or, not_and'] at hann
    by_cases hf : (c.after past).Fills t
    · rw [indicators_process_of_fills hf] at hj
      obtain ⟨i, hi, rfl⟩ := List.mem_map.mp hj
      rw [Indicator.update, eq_false_of_ne_true (hann.2 hf)]
      exact h.unpublished hann.1 i hi
    · rw [(process_of_not_fills hf).1] at hj
      exact h.unpublished hann.1 j hj

/-- A chart reports as it should, whatever is done with it once it is defined. -/
theorem Defined.reports (h : c.Defined) (past : List (ChartStep α)) : c.Reports past := by
  induction past using List.reverseRecOn with
  | nil =>
    have hfresh := h.fresh
    obtain ⟨p, count, indicators, hcount, hi, rfl⟩ := h
    have hnone : ¬ Announced { new s!"candlestick_{p.word}" p (count + 1) with indicators } [] := by
      rintro ⟨before, t, after, hnil, -⟩
      simp at hnil
    refine ⟨⟨Nat.zero_le _, ?_, ?_⟩, fun hann => absurd hann hnone, fun hann => absurd hann hnone,
      fun _ => hfresh.published⟩
    · intro i hmem
      obtain ⟨kind, lookback, hpos, hle, rfl⟩ := hi i hmem
      show 1 ≤ lookback.toNat ∧ lookback.toNat < count + 1
      omega
    · intro i hmem
      exact hfresh.value i hmem
  | append_singleton past s ih =>
    cases s with
    | tick t => exact ih.tick t
    | activate => exact ih.activate

end Chart

end Backtest
