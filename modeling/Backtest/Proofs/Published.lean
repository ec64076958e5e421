import Backtest.Proofs.ParameterTable
import Backtest.Proofs.Views

/-!
# When what charts publish changes

What a strategy is shown under the name of an indicator is what the last of the charts publishes that
publishes anything under it. A tick that opens no candle on a chart leaves all that the chart publishes
as it was, and no tick takes back what is published. So a value that is shown changes only where a candle
opens on a chart that has an indicator of that name.

* `Charts.published?`, the value that charts publish under a name; `Simulation.get?_view_indicators`,
  it is what a strategy is shown;
* `Charts.isSome_published?_process`, what is published stays published;
* `Charts.exists_opens_of_ne`, a value that changes has changed where a candle opened;
* `Chart.Defined.period_of_label`, the period of a chart with an indicator of a name.
-/

namespace Backtest

variable {α : Type}

namespace Chart

variable {c : Chart α} {name : String}

theorem nodup_publishedIndicators (c : Chart α) : (c.publishedIndicators.map (·.1)).Nodup := by
  rw [publishedIndicators_eq]
  exact Table.nodup_names_merge List.nodup_nil

theorem isSome_get?_publishedIndicators : (c.publishedIndicators.get? name).isSome = true ↔
    ∃ i ∈ c.indicators, i.name = name ∧ i.published.isSome = true := by
  rw [Option.isSome_iff_ne_none, ne_eq, Table.get?_eq_none, not_not, publishedIndicators_eq,
    Table.mem_names_merge, List.map_nil, or_iff_right List.not_mem_nil, List.mem_map]
  constructor
  · rintro ⟨e, he, rfl⟩
    obtain ⟨i, hi, hpublished⟩ := List.mem_filterMap.mp he
    obtain ⟨x, hx, rfl⟩ := Option.map_eq_some_iff.mp hpublished
    exact ⟨i, hi, rfl, Option.isSome_iff_exists.mpr ⟨x, hx⟩⟩
  · rintro ⟨i, hi, rfl, hpublished⟩
    obtain ⟨x, hx⟩ := Option.isSome_iff_exists.mp hpublished
    exact ⟨(i.name, x), List.mem_filterMap.mpr ⟨i, hi, by rw [hx]; rfl⟩, rfl⟩

/-- A chart publishes nothing under a name that none of its indicators bears. -/
theorem get?_publishedIndicators_of_unlabelled (h : ∀ l, (name, l) ∉ c.labels) :
    c.publishedIndicators.get? name = none := by
  rw [← Option.not_isSome_iff_eq_none, isSome_get?_publishedIndicators]
  rintro ⟨i, hi, rfl, -⟩
  exact h i.lookback (List.mem_map.mpr ⟨i, hi, rfl⟩)

variable [Price α] {t : Tick α}

/-- What is published under a name stays published. -/
theorem isSome_get?_publishedIndicators_process
    (h : (c.publishedIndicators.get? name).isSome = true) (t : Tick α) :
    ((c.process t).publishedIndicators.get? name).isSome = true := by
  rw [isSome_get?_publishedIndicators] at h ⊢
  obtain ⟨i, hi, rfl, hpublished⟩ := h
  by_cases hf : c.Fills t
  · rw [indicators_process_of_fills hf]
    refine ⟨_, List.mem_map.mpr ⟨i, hi, rfl⟩, rfl, ?_⟩
    show (if c.active = true then some _ else i.published).isSome = true
    split
    · rfl
    · exact hpublished
  · rw [(process_of_not_fills hf).1]
    exact ⟨i, hi, rfl, hpublished⟩

/-- A tick that opens no candle changes nothing that is published. -/
theorem publishedIndicators_process_of_not_opens (h : ¬ c.Opens t) :
    (c.process t).publishedIndicators = c.publishedIndicators := by
  obtain ⟨k, ks, -, -, hp⟩ := process_of_not_opens h
  rw [hp]
  rfl

end Chart

namespace Charts

variable {cs : List (Chart α)} {name : String}

/-- The value that charts publish under a name: that of the last chart which publishes one. -/
def published? (cs : List (Chart α)) (name : String) : Option α :=
  cs.reverse.findSome? fun c => c.publishedIndicators.get? name

theorem isSome_published? : (published? cs name).isSome = true ↔
    ∃ c ∈ cs, (c.publishedIndicators.get? name).isSome = true := by
  simp only [published?, List.findSome?_isSome_iff, List.mem_reverse]

variable [Price α] {t : Tick α}

/-- What is published under a name stays published. -/
theorem isSome_published?_process (h : (published? cs name).isSome = true) (t : Tick α) :
    (published? (process cs t) name).isSome = true := by
  rw [isSome_published?] at h ⊢
  obtain ⟨c, hc, hpublished⟩ := h
  exact ⟨c.process t, List.mem_map.mpr ⟨c, hc, rfl⟩,
    Chart.isSome_get?_publishedIndicators_process hpublished t⟩

theorem findSome?_congr {β γ : Type} {f g : β → Option γ} {xs : List β} (h : ∀ x ∈ xs, f x = g x) :
    xs.findSome? f = xs.findSome? g := by
  induction xs with
  | nil => rfl
  | cons x xs ih =>
    rw [List.findSome?_cons, List.findSome?_cons, h x List.mem_cons_self,
      ih fun y hy => h y (List.mem_cons_of_mem x hy)]

/-- A value that a tick changes has changed on a chart with an indicator of its name, and the tick has
opened a candle there. -/
theorem exists_opens_of_ne (h : published? (process cs t) name ≠ published? cs name) :
    ∃ c ∈ cs, c.Opens t ∧ ∃ l, (name, l) ∈ c.labels := by
  by_contra hnone
  -- charts that open a candle have no indicator of the name, and the others publish what they did
  refine h ?_
  rw [published?, process, ← List.map_reverse, List.findSome?_map]
  refine findSome?_congr fun c hc => ?_
  simp only [Function.comp_apply]
  by_cases hopens : c.Opens t
  · have hlabels (l : ℕ) : (name, l) ∉ c.labels :=
      fun hl => hnone ⟨c, List.mem_reverse.mp hc, hopens, l, hl⟩
    rw [Chart.get?_publishedIndicators_of_unlabelled hlabels,
      Chart.get?_publishedIndicators_of_unlabelled (by rwa [Chart.labels_process])]
  · rw [Chart.publishedIndicators_process_of_not_opens hopens]

end Charts

/-- The charts of a pass that have seen some ticks. -/
theorem ChartHistory.processAll_activate [Price α] (hs : List (ChartHistory α)) (seen : List (Tick α)) :
    Charts.processAll (Charts.activate (hs.map (·.now))) seen = hs.map fun h => (h.inPass seen).now := by
  rw [Charts.processAll_eq_map, Charts.activate, List.map_map, List.map_map]
  exact List.map_congr_left fun h _ => (h.now_inPass seen).symm

/-- A strategy is shown what the charts publish. -/
theorem Simulation.get?_view_indicators [Price α] (s : Simulation α) (t : Tick α) (name : String) :
    (s.view t).indicators.get? name = Charts.published? s.charts name := by
  show Table.get? (s.charts.foldl (fun table c => table.merge c.publishedIndicators) []) name = _
  induction s.charts using List.reverseRecOn with
  | nil => rfl
  | append_singleton cs c ih =>
    rw [List.foldl_append, List.foldl_cons, List.foldl_nil,
      Table.get?_merge _ c.nodup_publishedIndicators, ih, Charts.published?, Charts.published?,
      List.reverse_append, List.reverse_singleton, List.singleton_append, List.findSome?_cons]
    cases c.publishedIndicators.get? name <;> rfl

/-- A chart that has an indicator named as one of a chart of a period is of that period. -/
theorem Chart.Defined.period_of_label {c : Chart α} (h : c.Defined) {p : Period} {lookback l : ℕ}
    (hpos : 1 ≤ lookback)
    (hl : (s!"candlestick_{p.word}_{IndicatorKind.sma.word}_{lookback}", l) ∈ c.labels) :
    c.period = p := by
  obtain ⟨q, count, indicators, -, hi, rfl⟩ := h
  obtain ⟨i, hmem, hlabel⟩ := List.mem_map.mp hl
  have hdefined : Indicator.DefinedFor s!"candlestick_{p.word}" lookback
      (Indicator.new s!"candlestick_{p.word}_{IndicatorKind.sma.word}_{lookback}" lookback :
        Indicator α) :=
    ⟨.sma, lookback, by omega, Int.le_refl _, rfl⟩
  exact ((hi i hmem).name_inj hdefined (Prod.mk.inj hlabel).1).1

end Backtest
