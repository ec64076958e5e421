import Backtest.Proofs.FloatOrder
import Backtest.Proofs.Views

/-!
# What a pass relies on

A pass closes only open trades, tells its score only when no trade is open, and divides only by what is
not zero, over whatever prices and for whatever strategy. So it fails only where its strategy does.

* `Drawdown.Sound`, a high above zero, or no number, which no equity makes zero;
* `PassState.Sound`, the invariant, and `PassState.Sound.turn`, which keeps it;
* `PassState.Ready`, what a turn relies on;
* `Pass.run_contracts`, the main statement.
-/

namespace Backtest

/-! ### Divisors -/

namespace Drawdown

theorem high_observe {α : Type} [Price α] (d : Drawdown α) (equity : α) :
    (d.observe equity).high = (d.note equity).high := by
  unfold observe
  simp only
  split <;> rfl

/-- The high is above zero or no number. -/
def Sound (d : Drawdown Float) : Prop := 0.0 < d.high ∨ d.high.isNaN = true

variable {d : Drawdown Float}

theorem sound_start {deposit limit : Float} {jpyQuote : Bool} {settings : Settings Float}
    (h : Settings.of deposit limit jpyQuote = .ok settings) : (start settings.deposit).Sound := by
  unfold Settings.of at h
  split at h
  · simp at h
  · split at h
    · simp at h
    · rename_i hdeposit
      obtain rfl := Except.ok.inj h
      exact FloatOrder.lt_or_isNaN (by decide +kernel) hdeposit

/-- A new high is above the old one. -/
theorem Sound.note (h : d.Sound) (equity : Float) : (d.note equity).Sound := by
  unfold Drawdown.note
  split
  · rename_i hhigh
    rcases h with hpos | hnan
    · exact .inl (FloatOrder.lt_trans hpos hhigh)
    · have hnumber := FloatOrder.isNaN_eq_false_of_gt hhigh
      exact absurd (hnumber.symm.trans hnan) Bool.false_ne_true
  · exact h

theorem Sound.observe (h : d.Sound) (equity : Float) : (d.observe equity).Sound := by
  unfold Sound
  rw [high_observe]
  exact h.note equity

theorem Sound.high_ne_zero (h : d.Sound) : (d.high == 0.0) = false := by
  rcases h with hpos | hnan
  · exact FloatOrder.beq_eq_false_of_lt hpos
  · exact FloatOrder.beq_eq_false_of_isNaN hnan

end Drawdown

/-- Charts each of which comes from one of other charts by some steps. -/
def Charts.From {α : Type} [Price α] (cs charts : List (Chart α)) : Prop :=
  ∀ c ∈ charts, ∃ d ∈ cs, ∃ past, c = d.after past

namespace Charts.From

variable {α : Type} [Price α] {cs charts : List (Chart α)}

theorem step (h : From cs charts) (x : ChartStep α) : From cs (charts.map (·.step x)) := by
  intro c hc
  obtain ⟨older, holder, rfl⟩ := List.mem_map.mp hc
  obtain ⟨d, hd, past, rfl⟩ := h older holder
  exact ⟨d, hd, past ++ [x], (d.after_concat past x).symm⟩

theorem refl (cs : List (Chart α)) : From cs cs := fun c hc => ⟨c, hc, [], rfl⟩

/-- Charts that are shown ticks still come from where they came. -/
theorem processAll (h : From cs charts) (ts : List (Tick α)) : From cs (processAll charts ts) := by
  induction ts generalizing charts with
  | nil => exact h
  | cons t ts ih => exact ih (h.step (.tick t))

/-- No indicator of defined charts looks back at nothing, whatever was done with the charts. -/
theorem lookback_ne_zero (h : From cs charts) (hcs : ∀ c ∈ cs, c.Defined) :
    ∀ c ∈ charts, ∀ i ∈ c.indicators, i.lookback ≠ 0 := by
  intro c hc i hi
  obtain ⟨d, hd, past, rfl⟩ := h c hc
  have hlabel : (i.name, i.lookback) ∈ d.labels := by
    rw [← d.labels_after past]
    exact List.mem_map.mpr ⟨i, hi, rfl⟩
  obtain ⟨p, count, indicators, -, hdefined, hd'⟩ := hcs d hd
  obtain ⟨j, hj, heq⟩ := List.mem_map.mp hlabel
  rw [hd'] at hj
  obtain ⟨kind, lookback, hpos, -, rfl⟩ := hdefined j hj
  have hlookback : lookback.toNat = i.lookback := (Prod.mk.inj heq).2
  omega

end Charts.From

/-! ### Faults -/

namespace Pass

variable {α Memory : Type} [Price α]
  (onTick : MarketView α → Memory → Except Fault Decision × Memory)

/-- Ticks fail only where the strategy does. -/
theorem exists_of_walk_failed {ts : List (Tick α)} {last : Tick α} {p : PassState α Memory} {f : Fault}
    (h : (walk onTick ts last p).2.2 = .failed f) : ∃ view m, (onTick view m).1 = .error f := by
  induction ts generalizing last p with
  | nil => simp [walk] at h
  | cons t ts ih =>
    rw [walk_cons] at h
    simp only at h
    split at h
    · simp at h
    · split at h
      · split at h
        · rename_i g hanswer
          obtain rfl := WalkEnd.failed.inj h
          exact ⟨_, _, hanswer⟩
        · exact ih h
      · exact ih h

end Pass

/-! ### The invariant -/

namespace PassState

variable {Memory : Type} {cs : List (Chart Float)} {seen : List (Tick Float)}
  {p₀ p : PassState Float Memory}

/-- How a pass stands that has seen ticks: its open trades follow them, its high is sound, and its charts
come from given ones. -/
structure Sound (p₀ : PassState Float Memory) (cs : List (Chart Float)) (seen : List (Tick Float))
    (p : PassState Float Memory) : Prop where
  orderly : p₀.Orderly seen p
  drawdown : p.simulation.drawdown.Sound
  charts : Charts.From cs p.simulation.charts

/-- A turn keeps the trades in order. -/
theorem Orderly.turn (h : p₀.Orderly seen p)
    (onTick : MarketView Float → Memory → Except Fault Decision × Memory) (t : Tick Float) :
    p₀.Orderly (seen ++ [t]) (p.turn onTick t).2 := by
  have hadvance := h.advance t
  have hanswer := hadvance.answer onTick
  unfold PassState.turn
  simp only at hanswer ⊢
  split
  · exact hadvance
  · split
    · split <;> rename_i heq <;> rw [heq] at hanswer <;> exact hanswer
    · exact hadvance

theorem Sound.turn (h : p₀.Sound cs seen p)
    (onTick : MarketView Float → Memory → Except Fault Decision × Memory) (t : Tick Float) :
    p₀.Sound cs (seen ++ [t]) (p.turn onTick t).2 := by
  obtain ⟨-, -, hcharts, -, hdrawdown⟩ := turn_kept onTick p t
  obtain ⟨-, haccount, -⟩ := turn_shown onTick p t
  refine ⟨h.orderly.turn onTick t, ?_, ?_⟩
  · rw [hdrawdown, haccount]
    exact h.drawdown.observe _
  · rw [hcharts]
    exact h.charts.step (.tick t)

/-- What a pass relies on in its turn at a tick, when it has seen others: the open trades are open and
saw the latest tick before, so none is moved; what the equity is measured by is not zero; no decision can
fail; and every indicator looks at some candles. -/
structure Ready (onTick : MarketView Float → Memory → Except Fault Decision × Memory)
    (seen : List (Tick Float)) (t : Tick Float) (p : PassState Float Memory) : Prop where
  isOpen : ∀ r ∈ p.simulation.openTrades, r.isOpen = true
  latest : ∀ r ∈ p.simulation.openTrades, r.ticks ≠ [] ∧ r.ticks.getLast? = seen.getLast?
  migrate :
    let noted := (p.simulation.observe t).updateCharts t
    noted.migrate = noted
  high :
    let noted := ((p.simulation.observe t).updateCharts t).migrate
    ((noted.drawdown.note noted.equity).high == 0.0) = false
  carryOut : ∀ d, (((p.advance t).ask onTick t).1.carryOut t d).2 = .ok ()
  lookback : ∀ c ∈ p.simulation.charts, ∀ i ∈ c.indicators, i.lookback ≠ 0

theorem Sound.ready (h : p₀.Sound cs seen p) (hcs : ∀ c ∈ cs, c.Defined)
    (onTick : MarketView Float → Memory → Except Fault Decision × Memory) (t : Tick Float) :
    p.Ready onTick seen t where
  isOpen := h.orderly.allOpen
  latest r hr := ⟨r.ticks_ne_nil, (h.orderly.following r hr).getLast?_ticks⟩
  migrate := by
    obtain ⟨hopen, hclosed⟩ := trades_advance h.orderly.allOpen t
    have hmoved : ((p.simulation.observe t).updateCharts t).migrate =
        { (p.simulation.observe t).updateCharts t with
          openTrades := (p.advance t).simulation.openTrades
          closedTrades := (p.advance t).simulation.closedTrades } := rfl
    simp only
    rw [hmoved, hopen, hclosed]
    rfl
  high := (h.drawdown.note _).high_ne_zero
  carryOut d := (allOpen_carryOut (p := ((p.advance t).ask onTick t).1) (p.allOpen_advance t) t d).1
  lookback := h.charts.lookback_ne_zero hcs

end PassState

/-- A strategy raises a fault in one of its hooks, when it is set up with some parameters. -/
def Strategy.Raises {α : Type} (strategy : Strategy α) (parameters : Parameters) (f : Fault) : Prop :=
  strategy.setup parameters strategy.fresh = .error f ∨
    (∃ view m, (strategy.onTick view m).1 = .error f) ∨ ∃ m, strategy.teardown m = .error f

namespace Pass

section

variable {α : Type} [Price α] {strategy : Strategy α} {parameters : Parameters} {f : Fault}

/-- The score of an account without open trades can be told. -/
theorem exists_expectancy {s : Simulation α} (h : s.openTrades = []) : ∃ x, s.expectancy = .ok x := by
  unfold Simulation.expectancy
  rw [h]
  simp only [List.isEmpty_nil, Bool.not_true, Bool.false_eq_true, if_false]
  split
  · exact ⟨_, rfl⟩
  · exact ⟨_, rfl⟩

/-- A pass that settles an account whose trades are open fails where its ticks or its strategy do. -/
theorem raises_of_outcome {p : PassState α strategy.Memory} {last : Tick α} {stop : WalkEnd}
    (hopen : p.simulation.AllOpen)
    (hstop : ∀ g, stop = .failed g → strategy.Raises parameters g)
    (h : (outcome strategy (settle p last stop)).result = .error f) : strategy.Raises parameters f := by
  have hclose := Simulation.closeAll_of_allOpen hopen last
  simp only [outcome] at h
  split at h
  · rename_i g hteardown
    obtain rfl := Except.error.inj h
    exact .inr (.inr ⟨_, hteardown⟩)
  · cases stop with
    | failed g =>
      obtain rfl := Except.error.inj h
      exact hstop g rfl
    | breached => simp [settle, hclose, Except.mapError, Except.map, verdict] at h
    | finished =>
      obtain ⟨x, hx⟩ := exists_expectancy (s := (p.simulation.closeAll last).1) (by rw [hclose])
      rw [hclose] at hx
      simp [settle, hclose, Except.mapError, Except.map, verdict, hx] at h

/-- A pass over ticks on an account whose trades are open fails only with what its strategy raises. -/
theorem raises_of_run {s : Simulation α} (hopen : s.AllOpen) {ids : Ids} {first : Tick α}
    {rest : List (Tick α)} (h : (run strategy s ids (first :: rest) parameters).result = .error f) :
    strategy.Raises parameters f := by
  cases hsetup : strategy.setup parameters strategy.fresh with
  | error g =>
    simp only [run, hsetup] at h
    obtain rfl := Except.error.inj h
    exact .inl hsetup
  | ok memory =>
    rw [run_of_setup hsetup] at h
    refine raises_of_outcome (allOpen_walk strategy.onTick _ first hopen) ?_ h
    intro g hg
    exact .inr (.inl (exists_of_walk_failed _ hg))

end

variable {settings : Settings Float} {cs charts : List (Chart Float)}

/-- A pass begins soundly on an account without trades. -/
theorem sound_begun {strategy : Strategy Float} (id : ℕ) (sample : Sample)
    (hsettings : (Drawdown.start settings.deposit).Sound) (hcharts : Charts.From cs charts) (ids : Ids)
    (parameters : Parameters) (memory : strategy.Memory) :
    let p₀ := begun strategy (.new id sample settings charts) ids parameters memory
    p₀.Sound cs [] p₀ :=
  ⟨orderly_begun strategy rfl rfl ids parameters memory, hsettings, hcharts.step .activate⟩

/-- Ticks lead a pass that begins soundly to where it stands soundly. -/
theorem sound_walk {Memory : Type} {p₀ : PassState Float Memory} (h : p₀.Sound cs [] p₀)
    (onTick : MarketView Float → Memory → Except Fault Decision × Memory) (ts : List (Tick Float))
    (last : Tick Float) :
    let walked := walk onTick ts last p₀
    ∃ turns, p₀.Sound cs (turns.map Turn.tick) walked.1 ∧ Ended ts turns walked.2.2 := by
  have hturn (turns : List (Turn Float)) (p : PassState Float Memory) (t : Tick Float)
      (hp : p₀.Sound cs (turns.map Turn.tick) p) :
      p₀.Sound cs ((turns ++ [(p.turn onTick t).1]).map Turn.tick) (p.turn onTick t).2 := by
    rw [List.map_append, List.map_singleton, PassState.tick_turn]
    exact hp.turn onTick t
  have hnone : p₀.Sound cs (([] : List (Turn Float)).map Turn.tick) p₀ := h
  obtain ⟨turns, hsound, hended, -⟩ := walk_turns hturn hnone ts last
  exact ⟨turns, hsound, hended⟩

/-- Over any ticks, and with charts that were read from a text whatever they have seen since, a pass fails
only with what its strategy raises. In every turn it finds what the turn relies on, and after its ticks
every trade can be closed. -/
theorem run_contracts {deposit limit : Float} {jpyQuote : Bool}
    (hsettings : Settings.of deposit limit jpyQuote = .ok settings) {text : String}
    (hread : readCharts text = .ok cs) (hcharts : Charts.From cs charts) (strategy : Strategy Float)
    (id : ℕ) (sample : Sample) (ids : Ids) (first : Tick Float) (rest : List (Tick Float))
    (parameters : Parameters) :
    let window := first :: rest
    let account := Simulation.new id sample settings charts
    let o := run strategy account ids window parameters
    (∀ f, o.result = .error f → strategy.Raises parameters f) ∧
    ∀ memory, strategy.setup parameters strategy.fresh = .ok memory →
      let p₀ := begun strategy account ids parameters memory
      (∀ k < o.processed, ∃ p last t,
        walk strategy.onTick (window.take k) first p₀ = (p, last, .finished) ∧
        window[k]? = some t ∧ p.Ready strategy.onTick (window.take k) t) ∧
      let walked := walk strategy.onTick window first p₀
      let closed := walked.1.simulation.closeAll walked.2.1
      closed.2 = .ok () ∧ closed.1.openTrades = [] := by
  intro window account o
  have hopen : account.AllOpen := Simulation.allOpen_new id sample settings charts
  refine ⟨fun f hf => raises_of_run hopen hf, ?_⟩
  intro memory hsetup p₀
  have hbegun : p₀.Sound cs [] p₀ :=
    sound_begun id sample (Drawdown.sound_start hsettings) hcharts ids parameters memory
  constructor
  · intro k hk
    have hreached : p₀.processed + k < (walk strategy.onTick window first p₀).1.processed := by
      have ho : o.processed = (walk strategy.onTick window first p₀).1.processed := by
        have hrun : o = _ := run_of_setup hsetup account ids first rest
        rw [hrun]
        exact (settle_kept _ _ _).2
      have hzero : p₀.processed = 0 := rfl
      omega
    obtain ⟨p, last, t, hwalk, ht⟩ := exists_walk_take strategy.onTick hreached
    obtain ⟨turns, hsound, hended⟩ := sound_walk hbegun strategy.onTick (window.take k) first
    rw [hwalk] at hsound hended
    rw [hended.ticks_of_finished] at hsound
    exact ⟨p, last, t, hwalk, ht, hsound.ready (defined_of_readCharts hread) strategy.onTick t⟩
  · intro walked closed
    have hclosed : closed = _ := Simulation.closeAll_of_allOpen
      (allOpen_walk strategy.onTick window first (p := p₀) hopen) walked.2.1
    rw [hclosed]
    exact ⟨rfl, rfl⟩

/-- With a chart that has seen three ticks, a strategy that buys once finds in its fourth turn what that
relies on. -/
theorem run_contracts_daily : ∃ settings cs first rest,
    Settings.of 10000.0 (-10.0) false = .ok settings ∧
    readCharts "candlestick,M1,1|sma,1" = .ok cs ∧ dailyTicks newYear 5 = first :: rest ∧
    let account := Simulation.new 1 .inSample settings (Charts.processAll cs (dailyTicks newYear 3))
    let o := run .buyer account .first (first :: rest) []
    (∀ f, o.result = .error f → Strategy.buyer.Raises [] f) ∧
    ∃ p last t, walk Strategy.buyer.onTick ((first :: rest).take 3) first
        (begun .buyer account .first [] (Strategy.buyer.fresh)) = (p, last, .finished) ∧
      p.Ready Strategy.buyer.onTick ((first :: rest).take 3) t := by
  have h : ((Settings.of 10000.0 (-10.0) false).toOption.bind fun settings =>
      (readCharts "candlestick,M1,1|sma,1").toOption.map fun cs =>
        (run .buyer (.new 1 .inSample settings (Charts.processAll cs (dailyTicks newYear 3))) .first
          (dailyTicks newYear 5) []).processed) = some 4 := by
    decide +kernel
  obtain ⟨settings, hsettings, h⟩ := Option.bind_eq_some_iff.mp h
  obtain ⟨cs, hread, hprocessed⟩ := Option.map_eq_some_iff.mp h
  have hsettings := toOption_eq_some.mp hsettings
  have hread := toOption_eq_some.mp hread
  cases hwindow : dailyTicks newYear 5 with
  | nil =>
    rw [hwindow] at hprocessed
    simp [run] at hprocessed
  | cons first rest =>
    obtain ⟨hraises, hturns⟩ := run_contracts hsettings hread
      ((Charts.From.refl cs).processAll (dailyTicks newYear 3)) .buyer 1 .inSample .first first rest []
    obtain ⟨p, last, t, hwalk, -, hready⟩ := (hturns _ rfl).1 3 (by
      rw [← hwindow, hprocessed]
      decide)
    exact ⟨settings, cs, first, rest, hsettings, hread, rfl, hraises, p, last, t, hwalk, hready⟩

end Pass

end Backtest
