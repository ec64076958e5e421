import Backtest.Configuration
import Mathlib.Data.Int.Notation
import Mathlib.Data.List.Basic

/-!
# Accepted configurations

What holds of the plan of every configuration that is accepted: it has steps to take, and its charts are
those that its definitions give, without candles and without anything published.

* `bind_eq_ok`, `map_eq_ok`, `forall_of_mapM_eq_ok`, readings one after the other; `toOption_eq_some`,
  `exists_of_any`, a reading that gives something;
* `Chart.Fresh`, a chart that has seen nothing; `Chart.Defined`, a chart as its definition gives it;
* `defined_of_readCharts`, `fresh_of_readCharts`, the charts of a text are both;
* `Configuration.plan_eq_ok`, what an accepted configuration says.
-/

namespace Backtest

theorem bind_eq_ok {ε β γ : Type _} {x : Except ε β} {f : β → Except ε γ} {z : γ} :
    x >>= f = .ok z ↔ ∃ y, x = .ok y ∧ f y = .ok z := by
  cases x with
  | error e => simp [bind, Except.bind]
  | ok y => simp [bind, Except.bind]

theorem map_eq_ok {ε β γ : Type} {x : Except ε β} {f : β → γ} {z : γ} (h : x.map f = .ok z) :
    ∃ y, x = .ok y ∧ f y = z := by
  cases x with
  | error e => simp [Except.map] at h
  | ok y => exact ⟨y, rfl, Except.ok.inj h⟩

theorem toOption_eq_some {ε β : Type} {x : Except ε β} {y : β} : x.toOption = some y ↔ x = .ok y := by
  cases x <;> simp [Except.toOption]

theorem exists_of_any {ε β : Type} {x : Except ε β} {p : β → Bool} (h : x.toOption.any p = true) :
    ∃ y, x = .ok y ∧ p y = true := by
  cases x with
  | error e => exact absurd h Bool.false_ne_true
  | ok y => exact ⟨y, rfl, h⟩

/-- What holds of each thing read holds of all that are read one after the other. -/
theorem forall_of_mapM_eq_ok {ε β γ : Type} {f : β → Except ε γ} {P : γ → Prop}
    (hf : ∀ x y, f x = .ok y → P y) {xs : List β} {ys : List γ} (h : xs.mapM f = .ok ys) :
    ∀ y ∈ ys, P y := by
  induction xs generalizing ys with
  | nil =>
    obtain rfl := Except.ok.inj h
    simp
  | cons x xs ih =>
    rw [List.mapM_cons] at h
    obtain ⟨y, hy, h⟩ := bind_eq_ok.mp h
    obtain ⟨zs, hzs, h⟩ := bind_eq_ok.mp h
    obtain rfl := Except.ok.inj h
    intro z hz
    rcases List.mem_cons.mp hz with rfl | hz
    · exact hf x z hy
    · exact ih hzs z hz

/-- As many things are read as there are to read. -/
theorem length_of_mapM_eq_ok {ε β γ : Type} {f : β → Except ε γ} {xs : List β} {ys : List γ}
    (h : xs.mapM f = .ok ys) : ys.length = xs.length := by
  induction xs generalizing ys with
  | nil =>
    obtain rfl := Except.ok.inj h
    rfl
  | cons x xs ih =>
    rw [List.mapM_cons] at h
    obtain ⟨y, -, h⟩ := bind_eq_ok.mp h
    obtain ⟨zs, hzs, h⟩ := bind_eq_ok.mp h
    obtain rfl := Except.ok.inj h
    rw [List.length_cons, List.length_cons, ih hzs]

theorem configured_eq_ok {β : Type} {x : Except ConfigFault β} {y : β} :
    configured x = .ok y ↔ x = .ok y := by
  cases x <;> simp [configured, Except.mapError]

variable {α : Type}

/-- A chart that has seen no tick. Neither it nor an indicator publishes. -/
structure Chart.Fresh (c : Chart α) : Prop where
  candles : c.candles = []
  lastTick : c.lastTick = none
  active : c.active = false
  ticksProcessed : c.ticksProcessed = 0
  value : ∀ i ∈ c.indicators, i.value = none
  published : ∀ i ∈ c.indicators, i.published = none

/-! ### Charts of a text -/

theorem checkName_eq_ok {name name' : String} (h : configured (checkName name) = .ok name') :
    name' = name := by
  rw [configured_eq_ok] at h
  unfold checkName at h
  split at h
  · simp at h
  · split at h
    · exact (Except.ok.inj h).symm
    · simp at h

theorem word_of_ofWord? {word : String} {kind : IndicatorKind}
    (h : IndicatorKind.ofWord? word = some kind) : kind.word = word := by
  unfold IndicatorKind.ofWord? at h
  split at h
  · rename_i hword
    obtain rfl := Option.some.inj h
    exact (eq_of_beq hword).symm
  · simp at h

/-- An indicator as it is defined on a chart: it looks at one candle at least, and at no more than the
chart completes. -/
def Indicator.DefinedFor (chart : String) (count : ℤ) (i : Indicator α) : Prop :=
  ∃ (kind : IndicatorKind) (lookback : ℤ), 1 ≤ lookback ∧ lookback ≤ count ∧
    i = Indicator.new s!"{chart}_{kind.word}_{lookback}" lookback.toNat kind

theorem definedFor_of_ofText {chart text : String} {count : ℤ} {i : Indicator α}
    (h : Indicator.ofText chart count text = .ok i) : i.DefinedFor chart count := by
  unfold Indicator.ofText at h
  split at h
  · obtain ⟨n, -, h⟩ := bind_eq_ok.mp h
    split at h
    · simp [refuse] at h
    · split at h
      · simp [refuse] at h
      · obtain ⟨name, hname, h⟩ := bind_eq_ok.mp h
        obtain rfl := checkName_eq_ok hname
        split at h
        · rename_i kind hkind
          obtain rfl := Except.ok.inj h
          refine ⟨kind, n, by omega, by omega, ?_⟩
          rw [word_of_ofWord? hkind]
        · simp [refuse] at h
  · simp [refuse] at h

/-- A chart for a number of completed candles is empty, and can keep one more. -/
theorem ofWord_eq_ok {name word : String} {count : ℤ} {c : Chart α}
    (h : Chart.ofWord name word count = .ok c) :
    ∃ p : Period, p.word = word ∧ count + 1 ≤ maxCapacity ∧ c = Chart.new name p (count + 1).toNat := by
  unfold Chart.ofWord at h
  obtain ⟨p, hp, h⟩ := bind_eq_ok.mp h
  have hword : p.word = word := by
    unfold Period.ofWord at hp
    split at hp
    · rename_i hfind
      obtain rfl := Except.ok.inj hp
      have hfound := List.find?_some hfind
      exact eq_of_beq hfound
    · simp at hp
  split at h
  · simp at h
  · rename_i hcountable
    split at h
    · simp at h
    · refine ⟨p, hword, ?_, (Except.ok.inj h).symm⟩
      rw [isUncountable, Bool.or_eq_true, not_or, decide_eq_true_iff] at hcountable
      omega

/-- What is read of the line of a chart: the period, the number of completed candles, and the indicators
behind the bar. -/
theorem ofLine_eq_ok {line : String} {c : Chart α} (h : Chart.ofLine line = .ok c) :
    ∃ (p : Period) (count : ℕ) (indicators : List (Indicator α)), 1 ≤ count ∧ count < maxCapacity ∧
      (indicatorTexts (splitAtBar line).2).mapM (Indicator.ofText s!"candlestick_{p.word}" count) =
        .ok indicators ∧
      c = { Chart.new s!"candlestick_{p.word}" p (count + 1) with indicators } := by
  unfold Chart.ofLine at h
  simp only at h
  split at h
  · obtain ⟨n, -, h⟩ := bind_eq_ok.mp h
    split at h
    · simp [refuse] at h
    · split at h
      · simp [refuse] at h
      · rename_i hn hkind
        obtain ⟨name, hname, h⟩ := bind_eq_ok.mp h
        obtain ⟨chart, hchart, h⟩ := bind_eq_ok.mp h
        obtain ⟨indicators, hindicators, h⟩ := bind_eq_ok.mp h
        obtain ⟨p, hword, hcapacity, rfl⟩ := ofWord_eq_ok hchart
        obtain rfl := Except.ok.inj h
        have hnamed : name = s!"candlestick_{p.word}" := by
          simp only [bne_iff_ne, ne_eq, Decidable.not_not] at hkind
          rw [checkName_eq_ok hname, hword, hkind]
          rfl
        obtain ⟨count, rfl⟩ := Int.eq_ofNat_of_zero_le (show 0 ≤ n by omega)
        refine ⟨p, count, indicators, by omega, by omega, hnamed ▸ hindicators, ?_⟩
        rw [hnamed]
        rfl
  · simp [refuse] at h

/-- A chart as it is defined: it completes one candle at least, is named for its period, and has seen no
tick. -/
def Chart.Defined (c : Chart α) : Prop :=
  ∃ (p : Period) (count : ℕ) (indicators : List (Indicator α)), 1 ≤ count ∧
    (∀ i ∈ indicators, i.DefinedFor s!"candlestick_{p.word}" count) ∧
    c = { Chart.new s!"candlestick_{p.word}" p (count + 1) with indicators }

theorem defined_of_chartLine {line : String} {c : Chart α} (h : Chart.ofLine line = .ok c) :
    c.Defined := by
  obtain ⟨p, count, indicators, hcount, -, hindicators, rfl⟩ := ofLine_eq_ok h
  exact ⟨p, count, indicators, hcount,
    forall_of_mapM_eq_ok (fun _ _ => definedFor_of_ofText) hindicators, rfl⟩

/-- The charts of a text are as they are defined. -/
theorem defined_of_readCharts {text : String} {cs : List (Chart α)} (h : readCharts text = .ok cs) :
    ∀ c ∈ cs, c.Defined := forall_of_mapM_eq_ok (fun _ _ => defined_of_chartLine) h

theorem Chart.Defined.fresh {c : Chart α} (h : c.Defined) : c.Fresh := by
  obtain ⟨p, count, indicators, -, hi, rfl⟩ := h
  refine ⟨rfl, rfl, rfl, rfl, fun i hmem => ?_, fun i hmem => ?_⟩ <;>
    obtain ⟨kind, lookback, -, -, rfl⟩ := hi i hmem <;> rfl

/-- The charts of a text are fresh. -/
theorem fresh_of_readCharts {text : String} {cs : List (Chart α)} (h : readCharts text = .ok cs) :
    ∀ c ∈ cs, c.Fresh := fun c hc => (defined_of_readCharts h c hc).fresh

/-! ### Accepted configurations -/

/-- An accepted configuration has at least one step and one trial, durations in whole weeks and at
least one chart. -/
theorem Configuration.plan_eq_ok {c : Configuration} {p : Plan} (h : c.plan = .ok p) :
    1 ≤ p.steps ∧ 1 ≤ p.iterations ∧ sampleDays c.inSample = .ok p.inSampleDays ∧
      sampleDays c.outOfSample = .ok p.outOfSampleDays ∧ readCharts c.chartText = .ok p.charts ∧
      p.charts ≠ [] ∧ readVariables c.variableText = .ok p.space := by
  unfold Configuration.plan at h
  split at h
  · simp [refuse] at h
  · split at h
    · simp [refuse] at h
    · obtain ⟨inSampleDays, hi, h⟩ := bind_eq_ok.mp h
      obtain ⟨outOfSampleDays, ho, h⟩ := bind_eq_ok.mp h
      obtain ⟨charts, hcharts, h⟩ := bind_eq_ok.mp h
      split at h
      · simp [refuse] at h
      · rename_i hne
        obtain ⟨space, hspace, h⟩ := bind_eq_ok.mp h
        obtain rfl := Except.ok.inj h
        refine ⟨?_, ?_, configured_eq_ok.mp hi, configured_eq_ok.mp ho, hcharts, ?_,
          configured_eq_ok.mp hspace⟩
        · show 1 ≤ c.steps.toNat
          omega
        · show 1 ≤ c.iterations.toNat
          omega
        · intro hnil
          have hcs : charts = [] := hnil
          simp [hcs] at hne

end Backtest
