import Backtest.Proofs.ChartSteps
import Mathlib.Data.List.SplitBy
import Mathlib.Data.List.Induction

/-!
# Bars

A chart takes in its ticks one by one and forgets most of them. Its candles are nevertheless those of a
grouping of all its ticks. Each tick has reached a period: the latest among its own and those of the
ticks before it. A bar is a longest stretch of ticks that have reached the same period, so a late tick
belongs to the bar it comes in.

* `Bar`, its candle while it is the newest and once it is closed; `Period.reached`, `Period.bars`;
* `Period.bars_concat`, the bars after one more tick; `Period.bars_increasing`;
* `Chart.Sums`, a chart that sums up ticks; `Chart.Sums.process`, `Chart.Sums.processAll`,
  `Chart.Sums.after`; `Chart.Sums.isFull_iff`, when it is full;
* `Chart.sums_up_bars`, every chart sums up the bars of the ticks it was shown.
-/

namespace Backtest

variable {α : Type}

/-! ### Bars of a sequence of ticks -/

/-- The ticks of a bar and the period they have reached. -/
structure Bar (α : Type) where
  periodId : ℤ
  first : Tick α
  later : List (Tick α)

namespace Bar

/-- The bar of a stretch of ticks that have reached the same period. -/
def ofRun? : List (ℤ × Tick α) → Option (Bar α)
  | [] => none
  | (m, t) :: run => some { periodId := m, first := t, later := run.map (·.2) }

/-- The ticks of a bar. -/
def ticks (b : Bar α) : List (Tick α) := b.first :: b.later

/-- The last tick of a bar. -/
def last (b : Bar α) : Tick α := b.later.getLastD b.first

/-- The bar with one more tick. -/
def extend (b : Bar α) (t : Tick α) : Bar α := { b with later := b.later ++ [t] }

variable [Price α]

/-- The candle of the newest bar. -/
def openCandle (b : Bar α) : Candle α where
  openBid := b.first.bid
  openAsk := b.first.ask
  highBid := (b.later.map (·.bid)).foldl Price.larger b.first.bid
  highAsk := (b.later.map (·.ask)).foldl Price.larger b.first.ask
  lowBid := (b.later.map (·.bid)).foldl Price.smaller b.first.bid
  lowAsk := (b.later.map (·.ask)).foldl Price.smaller b.first.ask
  periodId := b.periodId
  closeBid := Price.zero
  closeAsk := Price.zero
  volume := b.ticks.length

/-- The candle of a bar that a newer one follows. -/
def closedCandle (b : Bar α) : Candle α :=
  { b.openCandle with closeBid := b.last.bid, closeAsk := b.last.ask }

/-- The candles of bars, the newest first. -/
def candles : List (Bar α) → List (Candle α)
  | [] => []
  | b :: older => b.openCandle :: older.map closedCandle

@[simp] theorem length_candles (bs : List (Bar α)) : (candles bs).length = bs.length := by
  cases bs with
  | nil => rfl
  | cons b older => rw [candles, List.length_cons, List.length_map, List.length_cons]

theorem map_periodId_candles (bs : List (Bar α)) :
    (candles bs).map (·.periodId) = bs.map (·.periodId) := by
  cases bs with
  | nil => rfl
  | cons b older =>
    rw [candles, List.map_cons, List.map_map]
    rfl

omit [Price α] in
theorem ofRun?_concat {run : List (ℤ × Tick α)} {b : Bar α} (h : ofRun? run = some b)
    (x : ℤ × Tick α) : ofRun? (run ++ [x]) = some (b.extend x.2) := by
  cases run with
  | nil => simp [ofRun?] at h
  | cons y run =>
    obtain rfl := Option.some.inj h
    simp [ofRun?, extend]

theorem openCandle_extend (b : Bar α) (t : Tick α) :
    (b.extend t).openCandle = b.openCandle.extend t := by
  simp [openCandle, extend, Candle.extend, ticks]

theorem openCandle_single (m : ℤ) (t : Tick α) :
    (⟨m, t, []⟩ : Bar α).openCandle = Candle.ofTick t m := rfl

theorem closeWith_openCandle (b : Bar α) : b.openCandle.closeWith b.last = b.closedCandle := rfl

end Bar

namespace Period

/-- The period that a tick falls into. -/
def idOf (p : Period) (t : Tick α) : ℤ := t.epochSeconds.fdiv p.seconds

/-- The latest period among that of a tick and those of the ticks before it. -/
def reached (p : Period) (before : List (Tick α)) (t : Tick α) : ℤ :=
  (before.map p.idOf).foldl max (p.idOf t)

/-- Ticks with the periods they have reached. -/
def levels (p : Period) (ts : List (Tick α)) : List (ℤ × Tick α) :=
  ts.mapIdx fun i t => (p.reached (ts.take i) t, t)

/-- The stretches of ticks that have reached the same period. -/
def runs (p : Period) (ts : List (Tick α)) : List (List (ℤ × Tick α)) :=
  (p.levels ts).splitBy fun x y => x.1 == y.1

/-- The bars of a sequence of ticks, oldest first. -/
def bars (p : Period) (ts : List (Tick α)) : List (Bar α) := (p.runs ts).filterMap Bar.ofRun?

end Period

/-! ### One more tick -/

/-- A last element that is related to the one before it joins the last stretch. -/
theorem splitBy_concat_of_rel {β : Type} {r : β → β → Bool} {l run : List β} {x y : β}
    {older : List (List β)} (h : l.splitBy r = older ++ [run]) (hy : run.getLast? = some y)
    (hr : r y x) : (l ++ [x]).splitBy r = older ++ [run ++ [x]] := by
  obtain ⟨rfl, hnil, hruns, hcuts⟩ := List.splitBy_eq_iff.mp h
  have hrun : run ≠ [] := by
    rintro rfl
    simp at hy
  rw [List.splitBy_eq_iff]
  refine ⟨by simp, by simp_all, ?_, ?_⟩
  · intro m hm
    rcases List.mem_append.mp hm with hm | hm
    · exact hruns m (List.mem_append_left _ hm)
    · obtain rfl := List.mem_singleton.mp hm
      rw [List.isChain_append]
      refine ⟨hruns run (by simp), List.isChain_singleton x, ?_⟩
      simp_all
  · rw [List.isChain_append] at hcuts ⊢
    refine ⟨hcuts.1, List.isChain_singleton _, ?_⟩
    intro m hm m' hm'
    obtain rfl := Option.some.inj hm'
    obtain ⟨ha, hb, hcut⟩ := hcuts.2.2 m hm run rfl
    refine ⟨ha, by simp, ?_⟩
    rwa [List.head_append_of_ne_nil hb]

namespace Period

variable {p : Period} {ts : List (Tick α)} {t u : Tick α}

theorem reached_concat : p.reached (ts ++ [u]) t = max (p.idOf t) (p.reached ts u) := by
  rw [reached, reached, List.map_append, List.foldl_append, List.map_singleton, List.foldl_cons,
    List.foldl_nil, Int.max_comm, ← @List.foldl_assoc ℤ max, Int.max_comm (p.idOf u),
    List.foldl_assoc]

theorem levels_concat : p.levels (ts ++ [t]) = p.levels ts ++ [(p.reached ts t, t)] := by
  rw [levels, List.mapIdx_concat, List.take_left]
  congr 1
  rw [levels, List.mapIdx_eq_mapIdx_iff]
  intro i hi
  rw [List.take_append_of_le_length hi.le]

/-- All ticks of a stretch have reached the same period. -/
theorem fst_eq_of_isChain {x y : ℤ × Tick α} {run : List (ℤ × Tick α)}
    (h : (x :: run).IsChain fun a b => (a.1 == b.1) = true) (hy : (x :: run).getLast? = some y) :
    x.1 = y.1 := by
  induction run generalizing x with
  | nil =>
    obtain rfl := Option.some.inj hy
    rfl
  | cons z run ih =>
    obtain ⟨hxz, h⟩ := List.isChain_cons_cons.mp h
    rw [eq_of_beq hxz]
    exact ih h (by rwa [List.getLast?_cons_cons] at hy)

/-- The bars of ticks of which the last is known: the newest has that tick for its last and the period
that it has reached. -/
theorem exists_runs (p : Period) (ts : List (Tick α)) (u : Tick α) :
    ∃ older run b, p.runs (ts ++ [u]) = older ++ [run] ∧ run.getLast? = some (p.reached ts u, u) ∧
      Bar.ofRun? run = some b ∧ b.periodId = p.reached ts u ∧ b.last = u := by
  have hne : p.runs (ts ++ [u]) ≠ [] := by
    rw [runs, List.splitBy_ne_nil, levels_concat]
    simp
  obtain ⟨older, run, hruns⟩ := (List.eq_nil_or_concat' _).resolve_left hne
  obtain ⟨hlevels, hnil, hlevel, -⟩ := List.splitBy_eq_iff.mp hruns
  have hlast : run.getLast? = some (p.reached ts u, u) := by
    have hrun : run ≠ [] := by
      rintro rfl
      simp at hnil
    have := congrArg List.getLast? hlevels
    rw [levels_concat, List.getLast?_concat, List.flatten_append, List.flatten_singleton,
      List.getLast?_append_of_ne_nil _ hrun] at this
    exact this.symm
  cases run with
  | nil => simp at hlast
  | cons x run =>
    refine ⟨older, x :: run, _, hruns, hlast, rfl, ?_, ?_⟩
    · exact fst_eq_of_isChain (hlevel (x :: run) (by simp)) hlast
    · rw [List.getLast?_cons] at hlast
      rw [Bar.last, List.getLastD_map, List.getLastD_eq_getLast?, Option.some.inj hlast]

/-- The stretches after one more tick: it opens one if its period is later than any before, and else
joins the last. -/
theorem runs_concat {older : List (List (ℤ × Tick α))} {run : List (ℤ × Tick α)}
    (hruns : p.runs (ts ++ [u]) = older ++ [run])
    (hlast : run.getLast? = some (p.reached ts u, u)) :
    p.runs (ts ++ [u] ++ [t]) =
      if p.reached ts u < p.idOf t then older ++ [run] ++ [[(p.idOf t, t)]]
      else older ++ [run ++ [(p.reached ts u, t)]] := by
  rw [runs, levels_concat, reached_concat]
  by_cases hlt : p.reached ts u < p.idOf t
  · rw [if_pos hlt, Int.max_eq_left (Int.le_of_lt hlt), List.splitBy_append_cons, ← runs, hruns]
    · simp [List.splitBy, List.splitBy.loop]
    · rw [levels_concat, List.getLast?_concat]
      intro x hx
      obtain rfl := Option.mem_some.mp hx
      exact beq_false_of_ne (Int.ne_of_lt hlt)
  · rw [if_neg hlt, Int.max_eq_right (Int.not_lt.mp hlt)]
    exact splitBy_concat_of_rel hruns hlast (by simp)

/-- The bars after one more tick: it opens one if its period is later than any before, and else joins
the newest. -/
theorem bars_concat (p : Period) (ts : List (Tick α)) (u t : Tick α) :
    ∃ older b, p.bars (ts ++ [u]) = older ++ [b] ∧ b.last = u ∧ b.periodId = p.reached ts u ∧
      p.bars (ts ++ [u] ++ [t]) =
        if b.periodId < p.idOf t then older ++ [b] ++ [⟨p.idOf t, t, []⟩]
        else older ++ [b.extend t] := by
  obtain ⟨older, run, b, hruns, hend, hb, hid, hlast⟩ := exists_runs p ts u
  refine ⟨older.filterMap Bar.ofRun?, b, ?_, hlast, hid, ?_⟩
  · rw [bars, hruns, List.filterMap_append, List.filterMap_cons_some hb, List.filterMap_nil]
  · rw [bars, runs_concat hruns hend, hid]
    split
    · rw [List.filterMap_append, List.filterMap_append, List.filterMap_cons_some hb]
      rfl
    · rw [List.filterMap_append, List.filterMap_cons_some (Bar.ofRun?_concat hb _), List.filterMap_nil]

/-- Each bar is of a later period than those before it. -/
theorem bars_increasing (p : Period) (ts : List (Tick α)) :
    (p.bars ts).Pairwise fun b b' => b.periodId < b'.periodId := by
  induction ts using List.reverseRecOn with
  | nil => exact List.Pairwise.nil
  | append_singleton ts t ih =>
    rcases List.eq_nil_or_concat' ts with rfl | ⟨before, u, rfl⟩
    · exact List.pairwise_singleton ..
    · obtain ⟨older, b, hbars, -, -, hmore⟩ := bars_concat p before u t
      rw [hbars] at ih
      rw [hmore]
      split
      · rename_i hlt
        refine List.pairwise_append.mpr ⟨ih, List.pairwise_singleton .., ?_⟩
        intro x hx y hy
        obtain rfl := List.mem_singleton.mp hy
        rcases List.mem_append.mp hx with hx | hx
        · exact Int.lt_trans ((List.pairwise_append.mp ih).2.2 x hx b (List.mem_singleton.mpr rfl)) hlt
        · obtain rfl := List.mem_singleton.mp hx
          exact hlt
      · obtain ⟨holder, -, hb⟩ := List.pairwise_append.mp ih
        refine List.pairwise_append.mpr ⟨holder, List.pairwise_singleton .., ?_⟩
        intro x hx y hy
        obtain rfl := List.mem_singleton.mp hy
        exact hb x hx b (List.mem_singleton.mpr rfl)

end Period

/-! ### Charts and their bars -/

namespace Chart

variable [Price α]

/-- The chart with several more indicators. -/
def attachAll (c : Chart α) (indicators : List (Indicator α)) : Chart α :=
  indicators.foldl attach c

/-- A chart sums up ticks: its candles are those of the newest bars, as many as it keeps. -/
structure Sums (c : Chart α) (p : Period) (count : ℕ) (ts : List (Tick α)) : Prop where
  period : c.period = p
  capacity : c.capacity = count + 1
  candles : c.candles = (Bar.candles (p.bars ts).reverse).take (count + 1)
  lastTick : c.lastTick = ts.getLast?
  ticksProcessed : c.ticksProcessed = ts.length

variable {c : Chart α} {p : Period} {n : ℕ} {ts : List (Tick α)}

theorem sums_attachAll (name : String) (p : Period) (n : ℕ) (indicators : List (Indicator α)) :
    ((new name p (n + 1)).attachAll indicators).Sums p n [] := by
  suffices ∀ c : Chart α, c.Sums p n [] → (c.attachAll indicators).Sums p n [] from
    this _ ⟨rfl, rfl, rfl, rfl, rfl⟩
  induction indicators with
  | nil => exact fun _ h => h
  | cons i indicators ih =>
    intro c h
    exact ih _ ⟨h.period, h.capacity, h.candles, h.lastTick, h.ticksProcessed⟩

/-- The newest of a list's candles stands before those of the others, closed. -/
theorem candles_concat (older : List (Bar α)) (b : Bar α) (n : ℕ) :
    (Bar.candles (older ++ [b]).reverse).take (n + 1) =
      b.openCandle :: (older.reverse.map Bar.closedCandle).take n := by
  rw [List.reverse_append, List.reverse_singleton, List.singleton_append, Bar.candles,
    List.take_succ_cons]

/-- A tick changes the candles as it changes the bars. -/
theorem Sums.candles_process (h : c.Sums p n ts) (t : Tick α) :
    (c.process t).candles = (Bar.candles (p.bars (ts ++ [t])).reverse).take (n + 1) := by
  have hid : c.periodId t = p.idOf t := by rw [periodId, h.period, Period.idOf]
  rcases List.eq_nil_or_concat' ts with rfl | ⟨before, u, rfl⟩
  · have hnil : c.candles = [] := h.candles
    have hopens : c.Opens t := by simp [Opens, hnil]
    rw [process_of_opens hopens, opened, closedCandles, hnil, h.capacity, hid]
    rfl
  · obtain ⟨older, b, hbars, hlast, -, hmore⟩ := Period.bars_concat p before u t
    have hcandles : c.candles = b.openCandle :: (older.reverse.map Bar.closedCandle).take n := by
      rw [h.candles, hbars, candles_concat]
    rw [hmore]
    by_cases hlt : b.periodId < p.idOf t
    · have hopens : c.Opens t := by
        rw [Opens, hcandles, hid]
        intro k hk
        obtain rfl := Option.some.inj hk
        exact hlt
      have hclosed : c.closedCandles =
          ((older ++ [b]).reverse.map Bar.closedCandle).take (n + 1) := by
        rw [closedCandles, hcandles, h.lastTick, List.getLast?_concat, List.reverse_append,
          List.reverse_singleton, List.singleton_append, List.map_cons, List.take_succ_cons]
        simp only
        rw [← hlast, b.closeWith_openCandle]
      rw [if_pos hlt, process_of_opens hopens]
      simp only [opened]
      rw [hclosed, h.capacity, hid, candles_concat, List.take_succ_cons,
        List.take_take, Nat.min_eq_left (Nat.le_succ n), Bar.openCandle_single]
    · have hopens : ¬ c.Opens t := by
        rw [Opens, hcandles, hid]
        exact fun h => hlt (h _ rfl)
      obtain ⟨k, ks, hks, -, hp⟩ := process_of_not_opens hopens
      rw [hcandles, List.cons.injEq] at hks
      obtain ⟨rfl, rfl⟩ := hks
      rw [if_neg hlt, hp, candles_concat, Bar.openCandle_extend]

/-- A chart sums up one more tick. -/
theorem Sums.process (h : c.Sums p n ts) (t : Tick α) : (c.process t).Sums p n (ts ++ [t]) where
  period := by rw [period_process, h.period]
  capacity := by rw [capacity_process, h.capacity]
  candles := h.candles_process t
  lastTick := by rw [lastTick_process, List.getLast?_concat]
  ticksProcessed := by
    rw [ticksProcessed_process, h.ticksProcessed, List.length_append, List.length_singleton]

/-- A chart sums up several more ticks. -/
theorem Sums.processAll (h : c.Sums p n ts) (us : List (Tick α)) :
    (c.processAll us).Sums p n (ts ++ us) := by
  induction us generalizing c ts with
  | nil => rwa [List.append_nil]
  | cons u us ih =>
    rw [List.append_cons]
    exact ih (h.process u)

/-- A chart sums up the ticks that it is shown, whatever else is done with it. -/
theorem Sums.after (h : c.Sums p n ts) (past : List (ChartStep α)) :
    (c.after past).Sums p n (ts ++ ChartStep.ticks past) := by
  induction past using List.reverseRecOn with
  | nil => rwa [ChartStep.ticks, List.filterMap_nil, List.append_nil]
  | append_singleton past s ih =>
    rw [after_concat]
    cases s with
    | tick t =>
      rw [ChartStep.ticks_concat_tick, ← List.append_assoc]
      exact ih.process t
    | activate =>
      rw [ChartStep.ticks_concat_activate]
      exact ⟨ih.period, ih.capacity, ih.candles, ih.lastTick, ih.ticksProcessed⟩

/-- The candles of a chart are of strictly decreasing periods. -/
theorem Sums.decreasing (h : c.Sums p n ts) :
    c.candles.Pairwise fun newer older => older.periodId < newer.periodId := by
  have hbars := List.pairwise_reverse.mpr (p.bars_increasing ts)
  rw [← List.pairwise_map (f := Bar.periodId) (R := fun m m' => m' < m),
    ← Bar.map_periodId_candles, List.pairwise_map] at hbars
  rw [h.candles]
  exact hbars.sublist (List.take_sublist ..)

theorem Sums.length (h : c.Sums p n ts) : c.candles.length = min (n + 1) (p.bars ts).length := by
  rw [h.candles, List.length_take, Bar.length_candles, List.length_reverse]

/-- A chart that sums up ticks is full once they make as many bars as it keeps candles. -/
theorem Sums.isFull_iff (h : c.Sums p n ts) : c.isFull = true ↔ n + 1 ≤ (p.bars ts).length := by
  rw [isFull, beq_iff_eq, h.length, h.capacity]
  omega

/-- Whatever indicators it has and whenever it becomes active, a chart for `n` candles sums up the bars
of the ticks it was shown: it has the candles of the `n + 1` newest, of strictly decreasing periods, and
is full as soon as there are so many. -/
theorem sums_up_bars (name : String) (p : Period) (n : ℕ) (indicators : List (Indicator α))
    (past : List (ChartStep α)) :
    let c := ((new name p (n + 1)).attachAll indicators).after past
    let ts := ChartStep.ticks past
    c.candles = (Bar.candles (p.bars ts).reverse).take (n + 1) ∧
      c.candles.length = min (n + 1) (p.bars ts).length ∧
      c.candles.Pairwise (fun newer older => older.periodId < newer.periodId) ∧
      c.lastTick = ts.getLast? ∧ c.ticksProcessed = ts.length ∧
      (c.isFull = true ↔ n + 1 ≤ (p.bars ts).length) := by
  intro c ts
  have h : c.Sums p n ts := (sums_attachAll name p n indicators).after past
  exact ⟨h.candles, h.length, h.decreasing, h.lastTick, h.ticksProcessed, h.isFull_iff⟩

end Chart

end Backtest
