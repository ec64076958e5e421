import Backtest.Chart
import Mathlib.Data.Int.Notation
import Mathlib.Data.List.Induction

/-!
# What is done with a chart

A chart is shown ticks and, at some time, made active. A tick either opens a candle or extends the
newest.

* `ChartStep`, `ChartStep.ticks`; `Chart.step`, `Chart.after`: a chart after some steps;
* `Chart.Opens`, whether a tick opens a candle;
* `candles_process_of_opens`, `indicators_process_of_opens`, `process_of_not_opens`: all that a tick
  does to candles and indicators.
-/

namespace Backtest

variable {α : Type}

/-- What is done with a chart: it is shown a tick, or it is made active. -/
inductive ChartStep (α : Type)
  | tick (t : Tick α)
  | activate

namespace ChartStep

/-- The tick of a step. -/
def tick? : ChartStep α → Option (Tick α)
  | tick t => some t
  | activate => none

/-- The ticks of several steps. -/
def ticks (past : List (ChartStep α)) : List (Tick α) := past.filterMap tick?

theorem ticks_concat_tick (past : List (ChartStep α)) (t : Tick α) :
    ticks (past ++ [tick t]) = ticks past ++ [t] := List.filterMap_append ..

theorem ticks_concat_activate (past : List (ChartStep α)) :
    ticks (past ++ [activate]) = ticks past := by
  rw [ticks, List.filterMap_append]
  exact List.append_nil _

end ChartStep

namespace Chart

variable [Price α] {c : Chart α} {t : Tick α}

/-- The chart after a step. -/
def step (c : Chart α) : ChartStep α → Chart α
  | .tick t => c.process t
  | .activate => c.activate

/-- The chart after several steps. -/
def after (c : Chart α) (past : List (ChartStep α)) : Chart α := past.foldl step c

theorem after_concat (c : Chart α) (past : List (ChartStep α)) (s : ChartStep α) :
    c.after (past ++ [s]) = (c.after past).step s := by
  rw [after, List.foldl_append]
  rfl

/-- A tick opens a candle: there is none yet, or the tick is in a later period than the newest. -/
def Opens (c : Chart α) (t : Tick α) : Prop := ∀ k ∈ c.candles.head?, k.periodId < c.periodId t

instance decidableOpens (c : Chart α) (t : Tick α) : Decidable (c.Opens t) :=
  inferInstanceAs (Decidable (∀ k ∈ c.candles.head?, k.periodId < c.periodId t))

/-- The candles once a tick has opened one: the newest of the others is closed, and the oldest is
dropped if there are too many. -/
def opened (c : Chart α) (t : Tick α) : List (Candle α) :=
  (Candle.ofTick t (c.periodId t) :: c.closedCandles).take c.capacity

/-! ### What a tick does -/

@[simp] theorem lastTick_process : (c.process t).lastTick = some t := rfl

@[simp] theorem ticksProcessed_process : (c.process t).ticksProcessed = c.ticksProcessed + 1 := rfl

theorem openCandle_eq (c : Chart α) (t : Tick α) (id : ℤ) {candles : List (Candle α)}
    (h : candles = (Candle.ofTick t id :: c.candles).take c.capacity) :
    c.openCandle t id = { c with
      candles
      indicators :=
        if candles.length = c.capacity then c.indicators.map (·.update candles c.active)
        else c.indicators } := by
  subst h
  simp only [openCandle, isFull, beq_iff_eq]
  split <;> rfl

/-- All that a tick does that opens a candle: on a full chart the indicators are recomputed. -/
theorem process_of_opens (h : c.Opens t) :
    c.process t = { c with
      candles := c.opened t
      indicators :=
        if (c.opened t).length = c.capacity then c.indicators.map (·.update (c.opened t) c.active)
        else c.indicators
      lastTick := some t
      ticksProcessed := c.ticksProcessed + 1 } := by
  have hin : c.takeIn t = { c with candles := c.closedCandles }.openCandle t (c.periodId t) := by
    unfold takeIn
    simp only
    split
    · rename_i hnil
      have hclosed : c.closedCandles = c.candles := by rw [closedCandles, hnil]
      rw [hclosed]
    · rename_i k ks hk
      rw [if_pos (h k (by rw [hk]; rfl))]
  rw [process, hin, openCandle_eq _ t _ (rfl : c.opened t = _)]

/-- All that a tick does that opens no candle: it extends the newest. -/
theorem process_of_not_opens (h : ¬ c.Opens t) :
    ∃ k ks, c.candles = k :: ks ∧ ¬ k.periodId < c.periodId t ∧
      c.process t = { c with
        candles := k.extend t :: ks
        lastTick := some t
        ticksProcessed := c.ticksProcessed + 1 } := by
  obtain ⟨k, hk, hle⟩ : ∃ k ∈ c.candles.head?, ¬ k.periodId < c.periodId t := by
    simpa [Opens] using h
  obtain ⟨ks, hks⟩ := List.head?_eq_some_iff.mp hk
  refine ⟨k, ks, hks, hle, ?_⟩
  rw [process, takeIn]
  simp only [hks, if_neg hle]

/-- What a tick leaves as it was. -/
theorem process_kept (c : Chart α) (t : Tick α) :
    (c.process t).name = c.name ∧ (c.process t).period = c.period ∧
      (c.process t).capacity = c.capacity ∧ (c.process t).active = c.active := by
  by_cases h : c.Opens t
  · rw [process_of_opens h]
    exact ⟨rfl, rfl, rfl, rfl⟩
  · obtain ⟨k, ks, -, -, hp⟩ := process_of_not_opens h
    rw [hp]
    exact ⟨rfl, rfl, rfl, rfl⟩

@[simp] theorem name_process : (c.process t).name = c.name := (process_kept c t).1

@[simp] theorem period_process : (c.process t).period = c.period := (process_kept c t).2.1

@[simp] theorem capacity_process : (c.process t).capacity = c.capacity := (process_kept c t).2.2.1

@[simp] theorem active_process : (c.process t).active = c.active := (process_kept c t).2.2.2

end Chart

/-! ### Copies -/

/-- What is done with several charts: a step on the chart at a place, or a copy of it behind the
others. -/
inductive ChartsStep (α : Type)
  | on (place : ℕ) (s : ChartStep α)
  | clone (place : ℕ)

namespace ChartsStep

/-- The lineages of several charts after a step: that of a copy goes on where its original stood. -/
def prolong (pasts : List (List (ChartStep α))) : ChartsStep α → List (List (ChartStep α))
  | on place s => pasts.modify place (· ++ [s])
  | clone place => pasts ++ pasts[place]?.toList

/-- What was done with each chart, and with the charts that it was copied from, when one chart has come
to be several. -/
def lineages (steps : List (ChartsStep α)) : List (List (ChartStep α)) := steps.foldl prolong [[]]

end ChartsStep

namespace Charts

variable [Price α]

/-- Several charts after a step. A chart and its copy go separate ways. -/
def step (cs : List (Chart α)) : ChartsStep α → List (Chart α)
  | .on place s => cs.modify place (·.step s)
  | .clone place => cs ++ cs[place]?.toList

/-- Several charts after several steps. -/
def after (cs : List (Chart α)) (steps : List (ChartsStep α)) : List (Chart α) := steps.foldl step cs

theorem step_map (c : Chart α) (pasts : List (List (ChartStep α))) (s : ChartsStep α) :
    step (pasts.map c.after) s = (ChartsStep.prolong pasts s).map c.after := by
  cases s with
  | on place s =>
    refine List.ext_getElem? fun k => ?_
    rw [step, ChartsStep.prolong, List.getElem?_modify, List.getElem?_map, List.getElem?_map,
      List.getElem?_modify]
    by_cases h : place = k
    · cases pasts[k]? <;> simp [h, Chart.after_concat]
    · cases pasts[k]? <;> simp [h]
  | clone place =>
    rw [step, ChartsStep.prolong, List.getElem?_map, List.map_append]
    cases pasts[place]? <;> rfl

/-- What a chart and its copies become depends on their lineages alone. -/
theorem after_eq_map (c : Chart α) (steps : List (ChartsStep α)) :
    after [c] steps = (ChartsStep.lineages steps).map c.after := by
  induction steps using List.reverseRecOn with
  | nil => rfl
  | append_singleton steps s ih =>
    have hstep : after [c] (steps ++ [s]) = step (after [c] steps) s := by
      rw [after, List.foldl_append]
      rfl
    rw [hstep, ih, step_map, ChartsStep.lineages, ChartsStep.lineages, List.foldl_append]
    rfl

end Charts

end Backtest
