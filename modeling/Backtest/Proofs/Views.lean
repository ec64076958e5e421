import Backtest.Proofs.Averages
import Backtest.Proofs.Course
import Backtest.Proofs.TradeHistory
import Backtest.Proofs.Turns
import Mathlib.Data.List.Nodup

/-!
# Averages in view

The names of two indicators of defined charts are the same only if the names of the charts are and both
look back equally far. So among charts of different names each indicator has a place of its own in what
a strategy is shown, and what stands there is the average over the candles shown beside it.

* `Chart.Defined.name_inj`, what a name says;
* `Chart.labels_after`, names and lookbacks stay;
* `Simulation.mem_view_indicators`, where the values that are shown come from;
* `Chart.UpToDate`, `MarketView.ShowsAverages`, and `indicators_current`, the main statement.
-/

namespace Backtest

variable {α : Type}

/-! ### Names -/

/-- A list is cut at the first place where an element stands in one way only. -/
theorem eq_of_append_cons {β : Type} {x : β} {u v a b : List β} (hu : x ∉ u) (hv : x ∉ v)
    (h : u ++ x :: a = v ++ x :: b) : u = v ∧ a = b := by
  induction u generalizing v with
  | nil =>
    cases v with
    | nil => exact ⟨rfl, List.tail_eq_of_cons_eq h⟩
    | cons y v => exact absurd (List.mem_cons.mpr (.inl (List.cons.inj h).1)) hv
  | cons z u ih =>
    cases v with
    | nil => exact absurd (List.mem_cons.mpr (.inl (List.cons.inj h).1.symm)) hu
    | cons y v =>
      obtain ⟨rfl, htail⟩ := List.cons.inj h
      rw [List.mem_cons, not_or] at hu hv
      obtain ⟨rfl, rfl⟩ := ih hu.2 hv.2 htail
      exact ⟨rfl, rfl⟩

theorem Period.underscore_notMem (p : Period) : '_' ∉ p.word.toList := by
  cases p <;> decide

theorem Period.word_inj {p q : Period} (h : p.word = q.word) : p = q := by
  revert h
  cases p <;> cases q <;> decide

theorem natRepr_inj {m n : ℕ} (h : m.repr.toList = n.repr.toList) : m = n := by
  rw [Nat.toList_repr, Nat.toList_repr] at h
  rw [← Nat.ofDigitChars_ten_toDigits (n := m), h, Nat.ofDigitChars_ten_toDigits]

/-- The name of an indicator: after a beginning that all share, the period, and the lookback. -/
theorem toList_indicatorName (p : Period) {chart : String} (hchart : chart = s!"candlestick_{p.word}")
    {lookback : ℤ} {n : ℕ} (hn : lookback = n) :
    (s!"{chart}_{IndicatorKind.sma.word}_{lookback}").toList =
      "candlestick_".toList ++ (p.word.toList ++ '_' :: ("sma_".toList ++ n.repr.toList)) := by
  subst hchart hn
  show ("candlestick_" ++ p.word ++ "_" ++ "sma" ++ "_" ++ n.repr).toList = _
  simp only [String.toList_append, List.append_assoc]
  rfl

/-- The names of two indicators are the same only if their charts are of the same period and both look
back equally far. -/
theorem Indicator.DefinedFor.name_inj {p q : Period} {m n : ℤ} {i j : Indicator α}
    (hi : i.DefinedFor s!"candlestick_{p.word}" m) (hj : j.DefinedFor s!"candlestick_{q.word}" n)
    (h : i.name = j.name) : p = q ∧ i.lookback = j.lookback := by
  obtain ⟨⟨⟩, a, ha, -, rfl⟩ := hi
  obtain ⟨⟨⟩, b, hb, -, rfl⟩ := hj
  obtain ⟨a, rfl⟩ := Int.eq_ofNat_of_zero_le (Int.le_trans Int.one_nonneg ha)
  obtain ⟨b, rfl⟩ := Int.eq_ofNat_of_zero_le (Int.le_trans Int.one_nonneg hb)
  have hchars := congrArg String.toList h
  rw [new, new, toList_indicatorName p rfl rfl, toList_indicatorName q rfl rfl] at hchars
  obtain ⟨hword, hrest⟩ := eq_of_append_cons p.underscore_notMem q.underscore_notMem
    (List.append_cancel_left hchars)
  exact ⟨Period.word_inj (String.toList_inj.mp hword), natRepr_inj (List.append_cancel_left hrest)⟩

namespace Chart

/-- The names of the indicators of a chart, with how far they look back. -/
def labels (c : Chart α) : List (String × ℕ) := c.indicators.map fun i => (i.name, i.lookback)

/-- An indicator's name says which chart it is of and how far it looks back. -/
theorem Defined.name_inj {c d : Chart α} (hc : c.Defined) (hd : d.Defined) {name : String} {m n : ℕ}
    (hm : (name, m) ∈ c.labels) (hn : (name, n) ∈ d.labels) : c.name = d.name ∧ m = n := by
  obtain ⟨p, count, indicators, -, hi, rfl⟩ := hc
  obtain ⟨q, count', indicators', -, hi', rfl⟩ := hd
  obtain ⟨i, hmem, hlabel⟩ := List.mem_map.mp hm
  obtain ⟨j, hmem', hlabel'⟩ := List.mem_map.mp hn
  obtain ⟨rfl, rfl⟩ := Prod.mk.inj hlabel
  obtain ⟨hname, rfl⟩ := Prod.mk.inj hlabel'
  obtain ⟨rfl, hlookback⟩ := (hi i hmem).name_inj (hi' j hmem') hname.symm
  exact ⟨rfl, hlookback⟩

variable [Price α]

theorem labels_process (c : Chart α) (t : Tick α) : (c.process t).labels = c.labels := by
  by_cases hf : c.Fills t
  · rw [labels, indicators_process_of_fills hf, List.map_map]
    rfl
  · rw [labels, (process_of_not_fills hf).1, labels]

/-- What is done with a chart changes neither names nor lookbacks. -/
theorem labels_after (c : Chart α) (past : List (ChartStep α)) : (c.after past).labels = c.labels := by
  induction past using List.reverseRecOn with
  | nil => rfl
  | append_singleton past s ih =>
    rw [after_concat]
    cases s with
    | tick t => exact (labels_process _ t).trans ih
    | activate => exact ih

theorem name_after (c : Chart α) (past : List (ChartStep α)) : (c.after past).name = c.name := by
  induction past using List.reverseRecOn with
  | nil => rfl
  | append_singleton past s ih =>
    rw [after_concat]
    cases s with
    | tick t => exact name_process.trans ih
    | activate => exact ih

/-- Ticks behind other steps. -/
theorem after_append_ticks (c : Chart α) (past : List (ChartStep α)) (ts : List (Tick α)) :
    c.after (past ++ ts.map .tick) = (c.after past).processAll ts := by
  rw [after, List.foldl_append, List.foldl_map]
  rfl

end Chart

/-! ### What is shown -/

section

variable [Price α]

namespace Chart

omit [Price α] in
theorem publishedIndicators_eq (c : Chart α) : c.publishedIndicators =
    Table.merge [] (c.indicators.filterMap fun i => i.published.map (i.name, ·)) := by
  rw [Table.merge, List.foldl_filterMap, publishedIndicators]
  congr 1
  funext table i
  cases i.published <;> rfl

omit [Price α] in
theorem mem_publishedIndicators {c : Chart α} {e : String × α} (h : e ∈ c.publishedIndicators) :
    ∃ i ∈ c.indicators, i.name = e.1 ∧ i.published = some e.2 := by
  rw [publishedIndicators_eq] at h
  have he := (Table.mem_merge h).resolve_left List.not_mem_nil
  obtain ⟨i, hi, hpublished⟩ := List.mem_filterMap.mp he
  obtain ⟨x, hx, rfl⟩ := Option.map_eq_some_iff.mp hpublished
  exact ⟨i, hi, rfl, hx⟩

omit [Price α] in
/-- A published value is in the table under its name, if all indicators of that name publish it. -/
theorem publishedIndicators_of_forall {c : Chart α} {name : String} {x : α}
    (h : ∀ i ∈ c.indicators, i.name = name → i.published = some x)
    (hname : ∃ i ∈ c.indicators, i.name = name) : (name, x) ∈ c.publishedIndicators := by
  obtain ⟨i, hi, rfl⟩ := hname
  rw [publishedIndicators_eq]
  refine Table.mem_of_get? (Table.get?_merge_of_forall _ ?_ ?_)
  · intro e he heq
    obtain ⟨j, hj, hpublished⟩ := List.mem_filterMap.mp he
    obtain ⟨y, hy, rfl⟩ := Option.map_eq_some_iff.mp hpublished
    exact Option.some.inj (hy.symm.trans (h j hj heq))
  · exact List.mem_map.mpr ⟨(i.name, x), List.mem_filterMap.mpr ⟨i, hi, by simp [h i hi rfl]⟩, rfl⟩

end Chart

namespace Simulation

variable (s : Simulation α) (t : Tick α)

theorem view_charts : (s.view t).charts =
    Table.merge [] (s.charts.map fun c => (c.name, c.publishedCandles)) := by
  rw [Table.merge, List.foldl_map]
  rfl

theorem view_indicators : (s.view t).indicators =
    Table.merge [] (s.charts.flatMap (·.publishedIndicators)) := by
  rw [Table.merge, List.foldl_flatMap]
  rfl

end Simulation

/-- A chart as it was defined, and what was done with it since. -/
structure ChartHistory (α : Type) where
  chart : Chart α
  past : List (ChartStep α)

namespace ChartHistory

/-- What the chart is now. -/
def now (h : ChartHistory α) : Chart α := h.chart.after h.past

/-- Whether the chart has announced its indicators. -/
def Announced (h : ChartHistory α) : Prop := h.chart.Announced h.past

variable {h : ChartHistory α}

/-- What the chart publishes is of indicators that it was defined with. -/
theorem exists_of_mem_published {e : String × α} (he : e ∈ h.now.publishedIndicators) :
    ∃ i ∈ h.chart.indicators, i.name = e.1 := by
  obtain ⟨i, hi, hname, -⟩ := Chart.mem_publishedIndicators he
  have hlabel : (i.name, i.lookback) ∈ h.chart.labels := by
    rw [← h.chart.labels_after h.past]
    exact List.mem_map.mpr ⟨i, hi, rfl⟩
  obtain ⟨j, hj, hlabel'⟩ := List.mem_map.mp hlabel
  exact ⟨j, hj, (Prod.mk.inj hlabel').1.trans hname⟩

/-- An announced chart publishes the average over its candles for each of its indicators, and others
publish nothing. -/
theorem published_of_mem (hdef : h.chart.Defined) {name : String} {lookback : ℕ}
    (hlabel : (name, lookback) ∈ h.chart.labels) :
    (h.Announced → ∃ x, Indicator.average? lookback h.now.candles = some x ∧
      (name, x) ∈ h.now.publishedIndicators) ∧
    ∀ x, (name, x) ∈ h.now.publishedIndicators →
      h.Announced ∧ Indicator.average? lookback h.now.candles = some x := by
  have hreports := hdef.reports h.past
  -- all indicators of the name look back equally far
  have hsame (i : Indicator α) (hi : i ∈ h.now.indicators) (hname : i.name = name) :
      i.lookback = lookback := by
    have hi' : (name, i.lookback) ∈ h.chart.labels := by
      rw [← h.chart.labels_after h.past, ← hname]
      exact List.mem_map.mpr ⟨i, hi, rfl⟩
    exact (hdef.name_inj hdef hi' hlabel).2
  have hvalue (hann : h.Announced) (i : Indicator α) (hi : i ∈ h.now.indicators)
      (hname : i.name = name) : i.published = Indicator.average? lookback h.now.candles := by
    rw [hreports.published hann i hi, hreports.current.value_eq hi, if_pos (hreports.standing hann).2,
      hsame i hi hname]
    rfl
  constructor
  · intro hann
    obtain ⟨i, hi, hlabel'⟩ : ∃ i ∈ h.now.indicators, (i.name, i.lookback) = (name, lookback) := by
      rw [← h.chart.labels_after h.past] at hlabel
      exact List.mem_map.mp hlabel
    obtain ⟨rfl, rfl⟩ := Prod.mk.inj hlabel'
    obtain ⟨x, hx⟩ := hreports.current.exists_average (hreports.standing hann).2 hi
    refine ⟨x, hx, Chart.publishedIndicators_of_forall (fun j hj hname => ?_) ⟨i, hi, rfl⟩⟩
    rw [hvalue hann j hj hname]
    exact hx
  · intro x hx
    obtain ⟨i, hi, rfl, hpublished⟩ := Chart.mem_publishedIndicators hx
    have hann : h.Announced := by
      by_contra hnot
      simp [hreports.unpublished hnot i hi] at hpublished
    exact ⟨hann, (hvalue hann i hi rfl).symm.trans hpublished⟩

/-- Among charts of different names, what is published under the name of an indicator is published by the
chart of that indicator. -/
theorem published_by_owner {hs : List (ChartHistory α)} (hdef : ∀ h ∈ hs, h.chart.Defined)
    (hnames : (hs.map (·.chart.name)).Nodup) {h h' : ChartHistory α} (hh : h ∈ hs) {i : Indicator α}
    (hi : i ∈ h.chart.indicators) (hh' : h' ∈ hs) {e : String × α}
    (he : e ∈ h'.now.publishedIndicators) (hname : e.1 = i.name) : e ∈ h.now.publishedIndicators := by
  obtain ⟨j, hj, hj'⟩ := exists_of_mem_published he
  have hlabel : (i.name, j.lookback) ∈ h'.chart.labels :=
    List.mem_map.mpr ⟨j, hj, by rw [hj', hname]⟩
  have hlabel' : (i.name, i.lookback) ∈ h.chart.labels := List.mem_map.mpr ⟨i, hi, rfl⟩
  have hchart := ((hdef h hh).name_inj (hdef h' hh') hlabel' hlabel).1
  obtain rfl := List.inj_on_of_nodup_map hnames hh hh' hchart
  exact he

end ChartHistory

/-- What a strategy is shown of charts: for each its candles, and for each indicator the average over
these, once the chart has announced it. -/
structure MarketView.ShowsAverages (view : MarketView α) (hs : List (ChartHistory α)) : Prop where
  candles : ∀ h ∈ hs, view.charts.get? h.chart.name = some h.now.candles
  present : ∀ h ∈ hs, ∀ i ∈ h.chart.indicators, h.Announced →
    ∃ x, Indicator.average? i.lookback h.now.candles = some x ∧ view.indicators.get? i.name = some x
  absent : ∀ h ∈ hs, ∀ i ∈ h.chart.indicators, ¬ h.Announced → view.indicators.get? i.name = none
  named : ∀ e ∈ view.indicators, ∃ h ∈ hs, ∃ i ∈ h.chart.indicators, i.name = e.1

/-- An account with active charts of different names shows their averages. -/
theorem Simulation.showsAverages {hs : List (ChartHistory α)} {s : Simulation α}
    (hcharts : s.charts = hs.map (·.now)) (hdef : ∀ h ∈ hs, h.chart.Defined)
    (hactive : ∀ h ∈ hs, h.now.active = true) (hnames : (hs.map (·.chart.name)).Nodup) (t : Tick α) :
    (s.view t).ShowsAverages hs := by
  have hmem {e : String × α} (he : e ∈ s.charts.flatMap (·.publishedIndicators)) :
      ∃ h ∈ hs, e ∈ h.now.publishedIndicators := by
    simpa [hcharts] using he
  have hsame {h h' : ChartHistory α} (hh : h ∈ hs) (hh' : h' ∈ hs)
      (hname : h.chart.name = h'.chart.name) : h = h' :=
    List.inj_on_of_nodup_map hnames hh hh' hname
  have howner {h : ChartHistory α} (hh : h ∈ hs) {i : Indicator α} (hi : i ∈ h.chart.indicators)
      {e : String × α} (he : e ∈ s.charts.flatMap (·.publishedIndicators)) (hname : e.1 = i.name) :
      (i.name, e.2) ∈ h.now.publishedIndicators := by
    obtain ⟨h', hh', he'⟩ := hmem he
    rw [← hname]
    exact ChartHistory.published_by_owner hdef hnames hh hi hh' he' hname
  refine ⟨fun h hh => ?_, fun h hh i hi hann => ?_, fun h hh i hi hann => ?_, fun e he => ?_⟩
  · rw [view_charts, hcharts, List.map_map]
    refine Table.get?_merge_of_forall _ (fun e he hname => ?_) ?_
    · obtain ⟨h', hh', rfl⟩ := List.mem_map.mp he
      have hname' : h'.chart.name = h.chart.name := (h'.chart.name_after h'.past).symm.trans hname
      obtain rfl := hsame hh' hh hname'
      exact if_pos (hactive h' hh)
    · refine List.mem_map.mpr ⟨(h.now.name, h.now.publishedCandles), ?_, h.chart.name_after h.past⟩
      exact List.mem_map.mpr ⟨h, hh, rfl⟩
  · obtain ⟨htakes, honly⟩ :=
      ChartHistory.published_of_mem (hdef h hh) (List.mem_map.mpr ⟨i, hi, rfl⟩)
    obtain ⟨x, hx, hpublished⟩ := htakes hann
    refine ⟨x, hx, ?_⟩
    rw [view_indicators]
    refine Table.get?_merge_of_forall _ (fun e he hname => ?_) ?_
    · exact Option.some.inj ((honly _ (howner hh hi he hname)).2.symm.trans hx)
    · rw [hcharts]
      exact List.mem_map.mpr ⟨_, List.mem_flatMap.mpr ⟨_, List.mem_map.mpr ⟨h, hh, rfl⟩, hpublished⟩, rfl⟩
  · obtain ⟨-, honly⟩ :=
      ChartHistory.published_of_mem (hdef h hh) (List.mem_map.mpr ⟨i, hi, rfl⟩)
    rw [view_indicators, Table.get?_merge_of_not_mem]
    · rfl
    · intro hname
      obtain ⟨e, he, hname⟩ := List.mem_map.mp hname
      exact hann (honly _ (howner hh hi he hname)).1
  · rw [view_indicators] at he
    obtain ⟨h, hh, he'⟩ := hmem ((Table.mem_merge he).resolve_left List.not_mem_nil)
    obtain ⟨i, hi, hname⟩ := ChartHistory.exists_of_mem_published he'
    exact ⟨h, hh, i, hi, hname⟩

/-! ### The main statement -/

/-- What holds of the indicators of a defined chart after some steps. The next tick can be taken in with
every candle looked up there. Values are missing until the chart is full and from then on are the
averages over its candles. Nothing is published until the indicators are announced, and from then on the
values are. -/
structure Chart.UpToDate (c : Chart α) (past : List (ChartStep α)) : Prop where
  takesIn : ∀ t, (c.after past).process? t = some ((c.after past).process t)
  missing : ∀ i ∈ (c.after past).indicators, i.value = none ↔ (c.after past).isFull = false
  value : ∀ i ∈ (c.after past).indicators, (c.after past).isFull = true →
    ∃ x, Indicator.average? i.lookback (c.after past).candles = some x ∧ i.value = some x
  unpublished : ∀ i ∈ (c.after past).indicators, ¬ c.Announced past → i.published = none
  published : ∀ i ∈ (c.after past).indicators, c.Announced past → i.published = i.value

theorem Chart.Reports.upToDate {c : Chart α} {past : List (ChartStep α)} (h : c.Reports past) :
    c.UpToDate past where
  takesIn := h.current.process?
  missing := by
    intro i hi
    rw [h.current.value i hi]
    cases (c.after past).isFull <;> simp
  value := by
    intro i hi hfull
    obtain ⟨x, hx⟩ := h.current.exists_average hfull hi
    exact ⟨x, hx, by rw [h.current.value_eq hi, if_pos hfull, hx]⟩
  unpublished := fun i hi hann => h.unpublished hann i hi
  published := fun i hi hann => h.published hann i hi

/-- The history of a chart of a pass that has seen some ticks. -/
def ChartHistory.inPass (h : ChartHistory α) (seen : List (Tick α)) : ChartHistory α :=
  { h with past := h.past ++ .activate :: seen.map .tick }

theorem ChartHistory.now_inPass (h : ChartHistory α) (seen : List (Tick α)) :
    (h.inPass seen).now = h.now.activate.processAll seen := by
  rw [now, inPass, List.append_cons, Chart.after_append_ticks, Chart.after_concat]
  rfl

theorem Chart.active_processAll (c : Chart α) (ts : List (Tick α)) :
    (c.processAll ts).active = c.active := by
  induction ts generalizing c with
  | nil => rfl
  | cons t ts ih => exact (ih (c.process t)).trans active_process

/-- The indicators of every chart that is read from a text describe the candles that are on the chart,
whatever is done with the chart and its copies. So does all that a strategy is shown in a pass over such
charts of different names. -/
theorem indicators_current {text : String} {cs : List (Chart α)} (hcs : readCharts text = .ok cs) :
    (∀ c ∈ cs, ∀ steps : List (ChartsStep α),
      Charts.after [c] steps = (ChartsStep.lineages steps).map c.after ∧
      ∀ past ∈ ChartsStep.lineages steps, c.UpToDate past) ∧
    ∀ hs : List (ChartHistory α), (∀ h ∈ hs, h.chart ∈ cs) → (hs.map (·.chart.name)).Nodup →
      ∀ (strategy : Strategy α) (s : Simulation α) (ids : Ids) (window : List (Tick α))
        (parameters : Parameters) (view : MarketView α) (answer : Except Fault Decision),
        s.charts = hs.map (·.now) →
        .onTick view answer ∈ (Pass.run strategy s ids window parameters).calls.toList →
        ∃ seen, seen <+: window ∧ seen.getLast? = some view.tick ∧
          view.ShowsAverages (hs.map (·.inPass seen)) := by
  have hdefined := defined_of_readCharts hcs
  refine ⟨fun c hc steps => ⟨Charts.after_eq_map c steps, fun past _ => ?_⟩, ?_⟩
  · exact ((hdefined c hc).reports past).upToDate
  · intro hs hcharts hnames strategy s ids window parameters view answer hnow hcall
    obtain ⟨seen, t, account, hseen, rfl, haccount⟩ := Pass.exists_of_mem_calls hcall
    refine ⟨seen ++ [t], hseen, List.getLast?_concat, ?_⟩
    refine Simulation.showsAverages ?_ ?_ ?_ ?_ t
    · rw [haccount, hnow, Charts.processAll_eq_map, Charts.activate]
      simp only [List.map_map]
      exact List.map_congr_left fun h _ => (h.now_inPass _).symm
    · intro h hh
      obtain ⟨h, hmem, rfl⟩ := List.mem_map.mp hh
      exact hdefined _ (hcharts h hmem)
    · intro h hh
      obtain ⟨h, -, rfl⟩ := List.mem_map.mp hh
      rw [ChartHistory.now_inPass, Chart.active_processAll]
      rfl
    · rw [List.map_map]
      exact hnames

end

/-- On a chart of one candle with an indicator, the average is current after a copy of it was made active
and shown a tick, and in what the strategy is shown at the third of three daily ticks. -/
theorem indicators_current_daily : ∃ c view answer seen t,
    readCharts "candlestick,M1,1|sma,1" = .ok [c] ∧
    c.UpToDate [.activate, .tick t] ∧
    .onTick view answer ∈ (Pass.run .buyer
      (.new 1 .inSample { deposit := 10000, drawdownLimit := -10, jpyQuote := false } [c]) Ids.first
      (dailyTicks newYear 3) []).calls.toList ∧
    seen <+: dailyTicks newYear 3 ∧ seen.getLast? = some view.tick ∧
    view.ShowsAverages [(⟨c, []⟩ : ChartHistory Float).inPass seen] := by
  have h : ((readCharts "candlestick,M1,1|sma,1").toOption.map fun cs => (cs.length,
      (Pass.run .buyer
        (.new 1 .inSample { deposit := 10000, drawdownLimit := -10, jpyQuote := false } cs) Ids.first
        (dailyTicks newYear 3) []).calls.toList.any (·.opens))) = some (1, true) := by
    decide +kernel
  obtain ⟨cs, hcs, h⟩ := Option.map_eq_some_iff.mp h
  obtain ⟨hlength, hany⟩ := Prod.mk.inj h
  obtain ⟨c, rfl⟩ := List.length_eq_one_iff.mp hlength
  obtain ⟨call, hcall, hopens⟩ := List.any_eq_true.mp hany
  cases call with
  | setup => simp [StrategyCall.opens] at hopens
  | teardown => simp [StrategyCall.opens] at hopens
  | onTick view answer =>
    have hread := toOption_eq_some.mp hcs
    obtain ⟨hcurrent, hshows⟩ := indicators_current hread
    obtain ⟨-, hcopied⟩ := hcurrent c (by simp) [.on 0 .activate, .clone 0, .on 1 (.tick view.tick)]
    obtain ⟨seen, hseen, hlast, hview⟩ :=
      hshows [⟨c, []⟩] (by simp) (by simp) _ _ _ _ _ view answer rfl hcall
    exact ⟨c, view, answer, seen, view.tick, hread, hcopied _ (by simp [ChartsStep.lineages,
      ChartsStep.prolong]), hcall, hseen, hlast, hview⟩

end Backtest
