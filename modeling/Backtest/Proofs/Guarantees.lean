import Backtest.Simulation
import Backtest.Proofs.Accepted
import Backtest.Proofs.FloatArithmetic
import Backtest.Proofs.Pieces

/-!
# What accepted configurations guarantee

A configuration that is accepted has what a run relies on: steps to take and trials to make, samples of
whole weeks, charts long enough for their indicators, and a deposit above and a limit below zero, so that
an account can fall past the limit. A deposit or a limit that is no number is not refused, and a limit
that is none is never passed.

* `FloatOrder.lt_of_isFinite`, negative infinity is below every finite float;
* `Drawdown.exists_exceeding`, an equity that takes an account past its limit;
* `Settings.Sound`, `Chart.Measured`, `Configuration.Sound`, what a run relies on;
* `Configuration.sound_of_ofTable`, the main statement.
-/

namespace Backtest

open Float.Model

/-! ### Infinite losses -/

namespace FloatOrder

variable {x y : Float}

/-- Negative infinity is below every finite float. -/
theorem lt_of_isFinite (hx : x.toModel.unpack = .infinity .negative) (hy : y.isFinite = true) : x < y := by
  have hrank : rank? x = some (rankOf (-2) 0 0) := congrArg unpackedRank? hx
  obtain ⟨b, hb, hlt⟩ : ∃ b, rank? y = some b ∧ rankOf (-2) 0 0 < b := by
    change y.toModel.unpack.isFinite = true at hy
    unfold rank?
    generalize y.toModel.unpack = u at hy
    rcases u with ⟨_ | _⟩ | _ | _ | ⟨_ | _, m, e, hm⟩
    case zero s => exact ⟨_, rfl, by simp [rankOf, Prod.Lex.toLex_lt_toLex]⟩
    case finite.positive => exact ⟨_, rfl, by simp [rankOf, Prod.Lex.toLex_lt_toLex]⟩
    case finite.negative => exact ⟨_, rfl, by simp [rankOf, Prod.Lex.toLex_lt_toLex]⟩
    all_goals exact absurd hy Bool.false_ne_true
  exact lt_iff.mpr ⟨_, b, hrank, hb, hlt⟩

theorem isNaN_of_isFinite (h : x.isFinite = true) : x.isNaN = false := by
  change x.toModel.unpack.isFinite = true at h
  change x.toModel.unpack.isNaN = false
  generalize x.toModel.unpack = u at h
  cases u with
  | notANumber => exact absurd h Bool.false_ne_true
  | _ => rfl

theorem not_lt_negInf (hx : x.toModel.unpack = .infinity .negative) : ¬y < x := by
  intro h
  obtain ⟨a, b, ha, hb, hab⟩ := lt_iff.mp h
  obtain rfl := Option.some.inj ((congrArg unpackedRank? hx).symm.trans hb)
  exact not_lt_lowest ha hab

/-- A finite float above zero, unpacked. -/
theorem unpack_of_pos (hx : 0.0 < x) (h : x.isFinite = true) :
    ∃ m e hm, x.toModel.unpack = .finite .positive m e hm := by
  obtain ⟨a, b, ha, hb, hab⟩ := lt_iff.mp hx
  obtain rfl := Option.some.inj (rank_zero.symm.trans ha)
  change x.toModel.unpack.isFinite = true at h
  unfold rank? at hb
  generalize x.toModel.unpack = u at h hb
  rcases u with ⟨_ | _⟩ | _ | _ | ⟨_ | _, m, e, hm⟩
  case finite.positive => exact ⟨m, e, hm, rfl⟩
  case finite.negative =>
    obtain rfl := Option.some.inj hb
    simp [gridRank, rankOf, Prod.Lex.toLex_lt_toLex] at hab
  case zero s =>
    obtain rfl := Option.some.inj hb
    simp [gridRank] at hab
  all_goals exact absurd h Bool.false_ne_true

section

variable (hx : x.toModel.unpack = .infinity .negative) (hpos : 0.0 < y) (hy : y.isFinite = true)

include hx hpos hy

theorem negInf_div : (x / y).toModel.unpack = .infinity .negative := by
  obtain ⟨m, e, hm, hunpack⟩ := unpack_of_pos hpos hy
  show held (UnpackedFloat.div .binary64 x.toModel.unpack y.toModel.unpack) = _
  rw [hx, hunpack]
  exact held_infinity .negative

theorem negInf_mul : (x * y).toModel.unpack = .infinity .negative := by
  obtain ⟨m, e, hm, hunpack⟩ := unpack_of_pos hpos hy
  show held (UnpackedFloat.mul .binary64 x.toModel.unpack y.toModel.unpack) = _
  rw [hx, hunpack]
  exact held_infinity .negative

theorem neg_sub_negInf : (-(y - x)).toModel.unpack = .infinity .negative := by
  obtain ⟨m, e, hm, hunpack⟩ := unpack_of_pos hpos hy
  have hsub : (y - x).toModel.unpack = .infinity .positive := by
    show held (UnpackedFloat.sub .binary64 y.toModel.unpack x.toModel.unpack) = _
    rw [hx, hunpack]
    exact held_infinity .positive
  show held (y - x).toModel.unpack.neg = _
  rw [hsub]
  exact held_infinity .negative

end

end FloatOrder

namespace Drawdown

/-- The drawdown of an infinite loss is infinite. -/
theorem between_negInf {high low : Float} (hpos : 0.0 < high) (hhigh : high.isFinite = true)
    (hlow : low.toModel.unpack = .infinity .negative) :
    (between high low).toModel.unpack = .infinity .negative := by
  have hquotient := FloatOrder.negInf_div hlow hpos hhigh
  have hproduct := FloatOrder.negInf_mul (y := Float.ofNat 100) hquotient (by decide +kernel)
    (by decide +kernel)
  exact FloatOrder.neg_sub_negInf hproduct (by decide +kernel) (by decide +kernel)

/-- An infinite loss makes the deepest drawdown of a fresh account infinite. -/
theorem deepest_observe_negInf {deposit equity : Float} (hpos : 0.0 < deposit)
    (hdeposit : deposit.isFinite = true) (hloss : equity.toModel.unpack = .infinity .negative) :
    ((start deposit).observe equity).deepest.toModel.unpack = .infinity .negative := by
  have hnote : (start deposit).note equity = ⟨deposit, equity, Price.zero⟩ := by
    have hlow : Price.smaller deposit equity = equity := if_pos (FloatOrder.lt_of_isFinite hloss hdeposit)
    rw [note, if_neg (FloatOrder.not_lt_negInf hloss)]
    exact congrArg (fun low => (⟨deposit, low, Price.zero⟩ : Drawdown Float)) hlow
  have hcurrent : (between deposit equity).toModel.unpack = .infinity .negative :=
    between_negInf hpos hdeposit hloss
  have hbelow : between deposit equity < Price.zero :=
    FloatOrder.lt_of_isFinite hcurrent (by decide +kernel)
  rw [observe, hnote]
  have hdeeper : (⟨deposit, equity, Price.zero⟩ : Drawdown Float).current < Price.zero := hbelow
  rw [if_pos hdeeper]
  exact hcurrent

/-- Some loss takes a fresh account with a finite deposit past any finite limit. -/
theorem exists_exceeding {deposit limit : Float} (hpos : 0.0 < deposit)
    (hdeposit : deposit.isFinite = true) (hlimit : limit.isFinite = true) :
    ∃ equity, ((start deposit).observe equity).deepest < limit :=
  ⟨⟨Float.Model.pack (.infinity .negative)⟩, FloatOrder.lt_of_isFinite
    (deepest_observe_negInf hpos hdeposit (FloatOrder.held_infinity .negative)) hlimit⟩

end Drawdown

/-! ### What a run relies on -/

/-- Settings with which an account can be kept. -/
structure Settings.Sound (s : Settings Float) : Prop where
  deposit : s.deposit.isNaN = false → 0.0 < s.deposit
  drawdownLimit : s.drawdownLimit.isNaN = false → s.drawdownLimit < 0.0
  exceeded : s.deposit.isFinite = true → s.drawdownLimit.isFinite = true →
    ∃ equity, ((Drawdown.start s.deposit).observe equity).deepest < s.drawdownLimit

/-- A chart long enough for its indicators. -/
structure Chart.Measured (c : Chart Float) : Prop where
  candles : 1 ≤ c.candleCount
  indicators : ∀ i ∈ c.indicators, 1 ≤ i.lookback ∧ (i.lookback : ℤ) ≤ c.candleCount

/-- What a run relies on. -/
structure Configuration.Sound (c : Configuration) : Prop where
  steps : 1 ≤ c.steps
  iterations : 1 ≤ c.iterations
  inSample : ∃ weeks, 1 ≤ weeks ∧ sampleDays c.inSample = .ok (weeks * 7)
  outOfSample : ∃ weeks, 1 ≤ weeks ∧ sampleDays c.outOfSample = .ok (weeks * 7)
  charts : ∃ cs : List (Chart Float), readCharts c.chartText = .ok cs ∧ cs ≠ [] ∧ ∀ x ∈ cs, x.Measured
  settings : ∀ jpyQuote, ∃ s, c.settings jpyQuote = .ok s ∧ s.deposit = c.deposit ∧
    s.drawdownLimit = c.drawdownLimit ∧ s.Sound

theorem weeks_of_sampleDays {text : String} {days : ℕ} (h : sampleDays text = .ok days) :
    ∃ weeks, 1 ≤ weeks ∧ days = weeks * 7 := by
  unfold sampleDays at h
  split at h
  · obtain ⟨n, -, h⟩ := bind_eq_ok.mp h
    split at h
    · simp at h
    · split at h
      · exact ⟨n.toNat, by omega, (Except.ok.inj h).symm⟩
      · simp at h
  · simp at h

theorem Chart.Defined.measured {c : Chart Float} (h : c.Defined) : c.Measured := by
  obtain ⟨p, count, indicators, hcount, hindicators, rfl⟩ := h
  have hcandles : ({ Chart.new s!"candlestick_{p.word}" p (count + 1) with indicators } :
      Chart Float).candleCount = count := by
    show ((count + 1 : ℕ) : ℤ) - 1 = count
    omega
  refine ⟨by omega, fun i hi => ?_⟩
  obtain ⟨kind, lookback, hpos, hle, rfl⟩ := hindicators i hi
  rw [hcandles]
  show 1 ≤ lookback.toNat ∧ (lookback.toNat : ℤ) ≤ count
  omega

theorem Settings.of_eq_ok {deposit limit : Float} {jpyQuote : Bool} {s : Settings Float} :
    Settings.of deposit limit jpyQuote = .ok s ↔
      ¬0.0 ≤ limit ∧ ¬deposit ≤ 0.0 ∧ s = ⟨deposit, limit, jpyQuote⟩ := by
  unfold Settings.of
  split
  · simp_all
  · split
    · simp_all
    · rename_i hlimit hdeposit
      simp only [Except.ok.injEq]
      exact ⟨fun h => ⟨hlimit, hdeposit, h.symm⟩, fun h => h.2.2.symm⟩

/-- Settings that are not refused are sound. -/
theorem Settings.sound_of_not_refused {deposit limit : Float} (hlimit : ¬0.0 ≤ limit)
    (hdeposit : ¬deposit ≤ 0.0) (jpyQuote : Bool) : Settings.Sound ⟨deposit, limit, jpyQuote⟩ := by
  have hpos : deposit.isNaN = false → 0.0 < deposit := fun hnumber =>
    (FloatOrder.lt_or_isNaN (by decide +kernel) hdeposit).resolve_right
      (by rw [hnumber]; exact Bool.false_ne_true)
  have hneg : limit.isNaN = false → limit < 0.0 := fun hnumber =>
    (FloatOrder.lt_or_isNaN hnumber hlimit).resolve_right (by decide +kernel)
  exact ⟨hpos, hneg, fun hd hl => Drawdown.exists_exceeding (hpos (FloatOrder.isNaN_of_isFinite hd)) hd hl⟩

namespace Configuration

theorem pos_of_plan {c : Configuration} {p : Plan} (h : c.plan = .ok p) :
    1 ≤ c.steps ∧ 1 ≤ c.iterations := by
  unfold plan at h
  split at h
  · simp [refuse] at h
  · split at h
    · simp [refuse] at h
    · omega

/-- An accepted configuration guarantees what a run relies on. -/
theorem sound_of_ofTable {base : Option Path} {t : Table Value} {c : Configuration}
    (h : ofTable base t = .ok c) : c.Sound := by
  obtain ⟨c', -, h⟩ := bind_eq_ok.mp h
  obtain ⟨p, hplan, h⟩ := bind_eq_ok.mp h
  obtain ⟨s, hsettings, h⟩ := bind_eq_ok.mp h
  obtain rfl := Except.ok.inj h
  obtain ⟨hsteps, hiterations⟩ := pos_of_plan hplan
  obtain ⟨-, -, hin, hout, hcharts, hne, -⟩ := plan_eq_ok hplan
  obtain ⟨weeks, hweeks, hindays⟩ := weeks_of_sampleDays hin
  obtain ⟨weeks', hweeks', houtdays⟩ := weeks_of_sampleDays hout
  refine ⟨hsteps, hiterations, ⟨weeks, hweeks, hindays ▸ hin⟩, ⟨weeks', hweeks', houtdays ▸ hout⟩,
    ⟨p.charts, hcharts, hne, fun x hx => (defined_of_readCharts hcharts x hx).measured⟩, fun jpyQuote => ?_⟩
  -- how the quotes are made is not among the checks
  obtain ⟨hlimit, hdeposit, -⟩ := Settings.of_eq_ok.mp (configured_eq_ok.mp hsettings)
  exact ⟨_, Settings.of_eq_ok.mpr ⟨hlimit, hdeposit, rfl⟩, rfl, rfl,
    Settings.sound_of_not_refused hlimit hdeposit _⟩

/-- Entries of several kinds, two of which are texts of numbers and one a truth value. -/
theorem sound_of_ofTable_mixed :
    let entries : Table Value :=
      [("csv_path", .text "ticks.csv"), ("strategy_path", .text "cross.py"),
        ("charts", .text "candlestick,M5,40|sma,10:sma,40"), ("variables", .text ""),
        ("in_sample", .text "2 weeks"), ("out_of_sample", .text "1 week"), ("iterations", .text " 30 "),
        ("steps", .bool true), ("deposit", .text "1e4"), ("drawdown_limit", .whole (-10))]
    ∃ c, ofTable none entries = .ok c ∧ c.Sound ∧ 0.0 < c.deposit ∧ c.drawdownLimit < 0.0 := by
  intro entries
  have haccepted : (ofTable none entries).toOption.any (fun c =>
      !c.deposit.isNaN && !c.drawdownLimit.isNaN) = true := by decide +kernel
  obtain ⟨c, hc, hnumbers⟩ := exists_of_any haccepted
  obtain ⟨hdeposit, hlimit⟩ : c.deposit.isNaN = false ∧ c.drawdownLimit.isNaN = false := by
    simpa using hnumbers
  have hsound := sound_of_ofTable hc
  obtain ⟨s, -, hd, hl, hs⟩ := hsound.settings none
  exact ⟨c, hc, hsound, hd ▸ hs.deposit (hd ▸ hdeposit), hl ▸ hs.drawdownLimit (hl ▸ hlimit)⟩

/-- A deposit and a limit that are no numbers are accepted; no account falls past such a limit. -/
theorem not_sound_of_ofTable :
    let entries (key text : String) : Table Value :=
      [("csv_path", .text "ticks.csv"), ("strategy_path", .text "cross.py"),
        ("charts", .text "candlestick,M5,2"), ("variables", .text "fast,bool"),
        ("in_sample", .text "2 weeks"), ("out_of_sample", .text "1 week"), ("iterations", .whole 3),
        ("steps", .whole 1), (key, .text text)]
    (∃ c, ofTable none (entries "drawdown_limit" "nan") = .ok c ∧ ¬c.drawdownLimit < 0.0 ∧
      ∀ s : Simulation Float, s.settings.drawdownLimit = c.drawdownLimit → s.exceeded = false) ∧
    ∃ c, ofTable none (entries "deposit" "nan") = .ok c ∧ ¬0.0 < c.deposit := by
  intro entries
  have hlimit : (ofTable none (entries "drawdown_limit" "nan")).toOption.any (·.drawdownLimit.isNaN) =
      true := by decide +kernel
  have hdeposit : (ofTable none (entries "deposit" "nan")).toOption.any (·.deposit.isNaN) = true := by
    decide +kernel
  obtain ⟨c, hc, hnan⟩ := exists_of_any hlimit
  obtain ⟨d, hd, hnan'⟩ := exists_of_any hdeposit
  refine ⟨⟨c, hc, fun h => ?_, fun s hs => ?_⟩, d, hd, fun h => ?_⟩
  · exact absurd ((FloatOrder.isNaN_eq_false_of_gt h).symm.trans hnan) Bool.false_ne_true
  · refine decide_eq_false fun h => ?_
    rw [hs] at h
    exact absurd ((FloatOrder.isNaN_eq_false_of_lt h).symm.trans hnan) Bool.false_ne_true
  · exact absurd ((FloatOrder.isNaN_eq_false_of_lt h).symm.trans hnan') Bool.false_ne_true

end Configuration

end Backtest
