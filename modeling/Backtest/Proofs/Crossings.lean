import Backtest.Strategy.Script
import Backtest.Proofs.Alternation
import Backtest.Proofs.Consultation
import Backtest.Proofs.FloatArithmetic
import Backtest.Proofs.Published

/-!
# When the crossing script acts

The crossing script acts where the fast average has changed its side of the slow one. It goes by the side
that it saw when it was last asked, and once it has seen both averages it is asked at every tick. So it
compares neighbouring ticks, and since averages change only where a candle opens on their chart, it acts
on such ticks alone.

* `lead?`, by how much the fast average leads; `Charts.exists_opens_of_lead?_ne`, where it changes;
* `Script.crossAnswer_eq_ok`, all that the script can answer; `Script.single_movingAverageCross`, it
  holds one trade at most;
* `Script.crossVariables`, `Script.setup_movingAverageCross`, `Script.crossOnTick_of_lead?`, what the
  script remembers;
* `Turn.Crosses`, `Turn.Enters`, what an act goes by; `Pass.Watches`, a pass in which it does, and
  `Pass.Watches.turn`;
* `Script.acts_at_crossings`, the main statement.
-/

namespace Backtest

/-! ### The averages -/

/-- The name of the fast average. -/
def fastAverage : String := "candlestick_M5_sma_10"

/-- The name of the slow average. -/
def slowAverage : String := "candlestick_M5_sma_40"

/-- By how much a fast value leads a slow one, if both are there. -/
def lead? (fast slow : Option Float) : Option Float :=
  match fast, slow with
  | some fast, some slow => some (fast - slow)
  | _, _ => none

theorem isSome_lead? {fast slow : Option Float} :
    (lead? fast slow).isSome = true ↔ fast.isSome = true ∧ slow.isSome = true := by
  cases fast <;> cases slow <;> simp [lead?]

/-- By how much the fast average that is shown leads the slow one. -/
def MarketView.lead? (v : MarketView Float) : Option Float :=
  Backtest.lead? (v.indicators.get? fastAverage) (v.indicators.get? slowAverage)

/-- By how much the fast average leads the slow one in a turn. -/
def Turn.lead? (u : Turn Float) : Option Float := (u.account.view u.tick).lead?

namespace Charts

variable {cs : List (Chart Float)} {t : Tick Float}

/-- By how much the fast average that charts publish leads the slow one. -/
def lead? (cs : List (Chart Float)) : Option Float :=
  Backtest.lead? (published? cs fastAverage) (published? cs slowAverage)

/-- Once both averages are published they stay so. -/
theorem isSome_lead?_process (h : (lead? cs).isSome = true) (t : Tick Float) :
    (lead? (process cs t)).isSome = true := by
  rw [lead?, isSome_lead?] at h ⊢
  exact ⟨isSome_published?_process h.1 t, isSome_published?_process h.2 t⟩

/-- A tick that changes the lead opens a candle on a chart that has one of the averages. -/
theorem exists_opens_of_lead?_ne (h : lead? (process cs t) ≠ lead? cs) :
    ∃ c ∈ cs, c.Opens t ∧ ∃ l, (fastAverage, l) ∈ c.labels ∨ (slowAverage, l) ∈ c.labels := by
  by_cases hfast : published? (process cs t) fastAverage = published? cs fastAverage
  · have hslow : published? (process cs t) slowAverage ≠ published? cs slowAverage :=
      fun hslow => h (by rw [lead?, hfast, hslow, lead?])
    obtain ⟨c, hc, hopens, l, hl⟩ := exists_opens_of_ne hslow
    exact ⟨c, hc, hopens, l, .inr hl⟩
  · obtain ⟨c, hc, hopens, l, hl⟩ := exists_opens_of_ne hfast
    exact ⟨c, hc, hopens, l, .inl hl⟩

end Charts

theorem Simulation.lead?_view (s : Simulation Float) (t : Tick Float) :
    (s.view t).lead? = Charts.lead? s.charts := by
  rw [MarketView.lead?, get?_view_indicators, get?_view_indicators, Charts.lead?]

theorem Turn.lead?_eq (u : Turn Float) : u.lead? = Charts.lead? u.account.charts :=
  u.account.lead?_view u.tick

/-- A chart that has one of the averages is of five minutes. -/
theorem Chart.Defined.period_of_average {c : Chart Float} (h : c.Defined) {l : ℕ}
    (hl : (fastAverage, l) ∈ c.labels ∨ (slowAverage, l) ∈ c.labels) : c.period = .m5 := by
  rcases hl with hl | hl
  · exact h.period_of_label (p := .m5) (by decide : 1 ≤ 10) hl
  · exact h.period_of_label (p := .m5) (by decide : 1 ≤ 40) hl

/-! ### What the script answers -/

namespace Decision

/-- The decision to go to a side. -/
def toSide (long : Bool) : Decision := if long then .openLong else .openShort

theorem direction?_toSide (long : Bool) :
    (toSide long).direction? = some (if long then .long else .short) := by
  cases long <;> rfl

/-- The word of a decision stands for it. -/
theorem ofValue_word (d : Decision) : ofValue (.text d.word) = .ok d := by cases d <;> rfl

end Decision

namespace Script

/-- All that the script can answer to a crossing. It goes to the side that the fast average is on now, at
some distance from the slow one, and short only if that is allowed. -/
theorem crossAnswer_eq_ok {v : MarketView Float} {vars : CrossVariables} {long : Bool} {gap : Float}
    {word : String} (h : crossAnswer v vars long gap = .ok word) :
    ∃ d : Decision, word = d.word ∧ (d = .noop ∨ d = .closeAll ∧ v.hasOpenTrades = true ∨
      d = .toSide long ∧ v.hasOpenTrades = false ∧
        Comparison.below.holds (.real gap.abs) vars.minGap = .ok false ∧
        (long = false → vars.allowShorts.truthy = true)) := by
  unfold crossAnswer at h
  cases hopen : v.hasOpenTrades with
  | true =>
    rw [hopen] at h
    exact ⟨.closeAll, (Except.ok.inj h).symm, .inr (.inl ⟨rfl, rfl⟩)⟩
  | false =>
    rw [hopen, if_neg Bool.false_ne_true] at h
    simp only at h
    split at h
    · exact absurd h (by simp [throw, throwThe, MonadExceptOf.throw, bind, Except.bind])
    · obtain ⟨below, hbelow, h⟩ := bind_eq_ok.mp h
      split at h
      · exact ⟨.noop, (Except.ok.inj h).symm, .inl rfl⟩
      · rename_i hfar
        rw [eq_false_of_ne_true hfar] at hbelow
        split at h
        · exact ⟨.noop, (Except.ok.inj h).symm, .inl rfl⟩
        · rename_i hshort
          have hallowed : long = false → vars.allowShorts.truthy = true := by
            rintro rfl
            simpa using hshort
          obtain ⟨trend, -, h⟩ := bind_eq_ok.mp h
          -- whatever the trend is, the rest is to do nothing or to go to the side
          have hword : word = "noop" ∨ word = if long then "long" else "short" :=
            (ite_eq_or_eq _ _ _).imp (fun hif => Except.ok.inj (h.symm.trans hif))
              fun hif => Except.ok.inj (h.symm.trans hif)
          rcases hword with rfl | rfl
          · exact ⟨.noop, rfl, .inl rfl⟩
          · refine ⟨.toSide long, ?_, .inr (.inr ⟨rfl, rfl, hbelow, hallowed⟩)⟩
            cases long <;> rfl

/-- What an answer to a crossing decides. -/
theorem decision_of_crossAnswer {v : MarketView Float} {vars : CrossVariables} {long : Bool}
    {gap : Float} {d : Decision}
    (h : ((crossAnswer v vars long gap).map .text).bind Decision.ofValue = .ok d) :
    d = .noop ∨ d = .closeAll ∧ v.hasOpenTrades = true ∨
      d = .toSide long ∧ v.hasOpenTrades = false ∧
        Comparison.below.holds (.real gap.abs) vars.minGap = .ok false ∧
        (long = false → vars.allowShorts.truthy = true) := by
  cases hanswer : crossAnswer v vars long gap with
  | error f =>
    rw [hanswer] at h
    exact absurd h (by simp [Except.map, Except.bind])
  | ok word =>
    rw [hanswer] at h
    obtain ⟨d', rfl, hd'⟩ := crossAnswer_eq_ok hanswer
    simp only [Except.map, Except.bind, Decision.ofValue_word] at h
    obtain rfl := Except.ok.inj h
    exact hd'

/-- The script answers to a crossing, or it does nothing, or it fails. -/
theorem crossOnTick_cases (v : MarketView Float) (vars : CrossVariables) :
    (∃ vars' long gap, (crossOnTick v vars).1 = (crossAnswer v vars' long gap).map .text) ∨
      (crossOnTick v vars).1 = .ok (.text Decision.noop.word) ∨
      ∃ f, (crossOnTick v vars).1 = .error f := by
  unfold crossOnTick
  split
  · exact (ite_eq_or_eq _ _ _).imp (fun hif => ⟨_, _, _, congrArg Prod.fst hif⟩)
      fun hif => .inl (congrArg Prod.fst hif)
  · exact .inr (.inr ⟨_, rfl⟩)
  · exact .inr (.inr ⟨_, rfl⟩)
  · exact .inr (.inl rfl)

/-- The crossing script holds one trade at most. -/
theorem single_movingAverageCross (path : String) : (movingAverageCross.strategy path).Single := by
  intro v memory d h
  cases memory with
  | none => exact absurd h (by simp [strategy])
  | some memory =>
    obtain ⟨parameters, vars⟩ := memory
    replace h : (crossOnTick v vars).1.bind Decision.ofValue = .ok d := h
    rcases crossOnTick_cases v vars with ⟨vars', long, gap, hanswer⟩ | hanswer | ⟨f, hanswer⟩ <;>
      rw [hanswer] at h
    · rcases decision_of_crossAnswer h with rfl | ⟨rfl, hopen⟩ | ⟨rfl, hidle, -⟩
      · exact ⟨fun hopens => absurd hopens Bool.false_ne_true, fun hclose => by simp at hclose⟩
      · exact ⟨fun hopens => absurd hopens Bool.false_ne_true, fun _ => hopen⟩
      · exact ⟨fun _ => hidle, fun hclose => by cases long <;> simp [Decision.toSide] at hclose⟩
    · simp only [Except.bind, Decision.ofValue_word] at h
      obtain rfl := Except.ok.inj h
      exact ⟨fun hopens => absurd hopens Bool.false_ne_true, fun hclose => by simp at hclose⟩
    · exact absurd h (by simp [Except.bind])

/-! ### What the script remembers -/

/-- The parameters of the script that are documented. -/
def documented : List String := ["min_gap", "allow_shorts", "trend_filter"]

/-- How the script remembers a side, or that it has seen none. -/
def remembered : Option Bool → Value
  | none => .null
  | some long => .text (Decision.toSide long).word

/-- The variables of the script once documented parameters are set and it has seen a side or none. -/
def crossVariables (parameters : Parameters) (side : Option Bool) : CrossVariables where
  minGap := (parameters.get? "min_gap").getD (.real 1.0)
  allowShorts := (parameters.get? "allow_shorts").getD (.bool true)
  trendFilter := (parameters.get? "trend_filter").getD (.bool false)
  fast := .text fastAverage
  slow := .text slowAverage
  trend := .text "candlestick_H1_sma_12"
  previous := remembered side
  hidesAbs := none

/-- A script that can be set up runs its own setup once its variables are set. -/
theorem setup_of_hooks {s : Script} {parameters : Parameters}
    {run : Parameters → s.Variables → s.Variables}
    {ask : MarketView Float → s.Variables → Except Fault Value × s.Variables}
    (hassign : assignable parameters = .ok ())
    (hsetup : hook? parameters "setup" s.setup = .ok (some run))
    (hask : hook? parameters "on_tick" s.onTick = .ok (some ask)) (path : String)
    (memory : (s.strategy path).Memory) :
    (s.strategy path).setup parameters memory =
      .ok (some (parameters, run parameters (s.load parameters))) := by
  simp only [strategy, hassign, hsetup, hask]
  rfl

section

variable {parameters : Parameters} (h : ∀ e ∈ parameters, e.1 ∈ documented)

include h

theorem notMem_names {name : String} (hname : name ∉ documented) : name ∉ parameters.map (·.1) := by
  intro hmem
  obtain ⟨e, he, rfl⟩ := List.mem_map.mp hmem
  exact hname (h e he)

theorem get?_undocumented {name : String} (hname : name ∉ documented) : parameters.get? name = none :=
  Table.get?_eq_none.mpr (notMem_names h hname)

theorem hook?_undocumented {β : Type} {name : String} (hname : name ∉ documented) (hook : β) :
    hook? parameters name (some hook) = .ok (some hook) := by
  unfold hook?
  rw [Table.has_eq_false.mpr (notMem_names h hname)]

theorem assignable_documented : assignable parameters = .ok () := by
  induction parameters with
  | nil => rfl
  | cons e parameters ih =>
    obtain ⟨name, v⟩ := e
    have hname : name ∈ documented := h _ List.mem_cons_self
    have hne (other : String) (hother : other ∉ documented) : (name == other) = false :=
      beq_eq_false_iff_ne.mpr fun heq => hother (heq ▸ hname)
    rw [assignable, List.forM_eq_forM, List.forM_cons]
    simp only [hne "__dict__" (by decide), hne "__class__" (by decide)]
    exact ih fun d hd => h d (List.mem_cons_of_mem _ hd)

theorem load_documented : movingAverageCross.load parameters = crossVariables parameters none := by
  show CrossVariables.mk _ _ _ _ _ _ _ _ = _
  rw [get?_undocumented h (by decide : "FAST" ∉ documented),
    get?_undocumented h (by decide : "SLOW" ∉ documented),
    get?_undocumented h (by decide : "TREND" ∉ documented),
    get?_undocumented h (by decide : "_previous" ∉ documented),
    get?_undocumented h (by decide : "abs" ∉ documented)]
  rfl

/-- With documented parameters the script can be set up, and has seen no side then. -/
theorem setup_movingAverageCross (path : String) (memory : (movingAverageCross.strategy path).Memory) :
    (movingAverageCross.strategy path).setup parameters memory =
      .ok (some (parameters, crossVariables parameters none)) := by
  rw [setup_of_hooks (s := movingAverageCross) (assignable_documented h)
    (hook?_undocumented h (by decide) _) (hook?_undocumented h (by decide) _), load_documented h]
  rfl

end

/-- The script acts only where it remembers the other side. -/
theorem crossed_eq (side : Option Bool) (long : Bool) :
    ((remembered side).given?.isSome &&
      !(remembered side).same (.text (Decision.toSide long).word)) = (side == some (!long)) := by
  rcases side with _ | b
  · rfl
  · cases b <;> cases long <;> rfl

/-- Where the averages are not both shown, the script does nothing and remembers what it did. -/
theorem crossOnTick_of_lead?_eq_none {v : MarketView Float} (h : v.lead? = none)
    (parameters : Parameters) (side : Option Bool) :
    crossOnTick v (crossVariables parameters side) =
      (.ok (.text Decision.noop.word), crossVariables parameters side) := by
  rw [MarketView.lead?] at h
  simp only [crossOnTick, crossVariables, published]
  cases hfast : v.indicators.get? fastAverage with
  | none => rfl
  | some fast =>
    cases hslow : v.indicators.get? slowAverage with
    | none => rfl
    | some slow =>
      rw [hfast, hslow] at h
      exact absurd h (Option.some_ne_none _)

/-- A lead in pips is above zero just when the lead is. -/
theorem zero_lt_pips_iff (x : Float) : 0.0 < x * 10000.0 ↔ 0.0 < x := by
  have hunpack : (10000.0 : Float).toModel.unpack =
      FloatOrder.ofGrid .positive (10000 * 2 ^ 39) (-39) := by rfl
  refine FloatOrder.zero_lt_mul_iff hunpack ⟨by norm_num, by norm_num, .inl (by norm_num)⟩ ?_
  rw [FloatOrder.magnitude]
  norm_num

/-- Where both averages are shown, the script remembers the side on which the fast one is, and acts if it
has remembered the other. -/
theorem crossOnTick_of_lead? {v : MarketView Float} {x : Float} (h : v.lead? = some x)
    (parameters : Parameters) (side : Option Bool) :
    let long : Bool := 0.0 < x
    let vars := crossVariables parameters (some long)
    crossOnTick v (crossVariables parameters side) =
      (if side = some (!long) then (crossAnswer v vars long (x * 10000.0)).map .text
        else .ok (.text Decision.noop.word), vars) := by
  intro long vars
  rw [MarketView.lead?] at h
  cases hfast : v.indicators.get? fastAverage with
  | none =>
    rw [hfast] at h
    exact absurd h (Option.some_ne_none _).symm
  | some fast =>
    cases hslow : v.indicators.get? slowAverage with
    | none =>
      rw [hfast, hslow] at h
      exact absurd h (Option.some_ne_none _).symm
    | some slow =>
      rw [hfast, hslow] at h
      obtain rfl : fast - slow = x := Option.some.inj h
      have hlong : decide (0.0 < (fast - slow) * 10000.0) = long := by
        rw [decide_eq_decide]
        exact zero_lt_pips_iff _
      have hword : (if long then "long" else "short") = (Decision.toSide long).word := by
        cases long <;> rfl
      simp only [crossOnTick, crossVariables, published, hfast, hslow, hlong, hword, crossed_eq]
      by_cases hside : side = some (!long)
      · rw [if_pos hside, if_pos (by rw [hside, beq_self_eq_true])]
        rfl
      · rw [if_neg hside, if_neg (by rwa [beq_iff_eq])]
        rfl

end Script

/-! ### Passes of the script -/

/-- From one turn to another the fast average has changed its side of the slow one. -/
def Turn.Crosses (v u : Turn Float) : Prop :=
  ∃ x y, v.lead? = some x ∧ u.lead? = some y ∧ (0.0 < y ↔ ¬ 0.0 < x)

/-- What an opening goes by: no trade is open, the fast average is on the side of the trade and far enough
from the slow one, and a short trade is allowed. -/
structure Turn.Enters (u : Turn Float) (parameters : Parameters) (d : Direction) : Prop where
  idle : u.account.openTrades = []
  side : ∃ y, u.lead? = some y ∧ (d = .long ↔ 0.0 < y) ∧
    Comparison.below.holds (.real (y * 10000.0).abs) ((parameters.get? "min_gap").getD (.real 1.0)) =
      .ok false
  allowed : d = .short → ((parameters.get? "allow_shorts").getD (.bool true)).truthy = true

/-- A decision to go to the side of the fast average enters as it should. -/
theorem Turn.enters_toSide {u : Turn Float} {parameters : Parameters} {y : Float} {d : Direction}
    (hy : u.lead? = some y) (hidle : (u.account.view u.tick).hasOpenTrades = false)
    (hfar : Comparison.below.holds (.real (y * 10000.0).abs)
      ((parameters.get? "min_gap").getD (.real 1.0)) = .ok false)
    (hallowed : decide (0.0 < y) = false →
      ((parameters.get? "allow_shorts").getD (.bool true)).truthy = true)
    (hd : (Decision.toSide (0.0 < y)).direction? = some d) : u.Enters parameters d := by
  rw [Decision.direction?_toSide] at hd
  obtain rfl := Option.some.inj hd
  refine ⟨?_, ⟨y, hy, ?_, hfar⟩, fun hshort => hallowed ?_⟩
  · have hempty : (!u.account.openTrades.isEmpty) = false := hidle
    rwa [Bool.not_eq_false', List.isEmpty_iff] at hempty
  · by_cases hlong : 0.0 < y <;> simp [hlong]
  · by_contra hlong
    rw [Bool.not_eq_false] at hlong
    rw [hlong] at hshort
    exact absurd hshort (by decide)

namespace Script

variable {path : String} {parameters : Parameters} {side : Option Bool}

/-- What the script remembers after a turn in which it was asked, and what it has gone by. -/
theorem turn_of_remembered {p : PassState Float (movingAverageCross.strategy path).Memory}
    (hmemory : p.memory = some (parameters, crossVariables parameters side)) (t : Tick Float) :
    let taken := p.turn (movingAverageCross.strategy path).onTick t
    taken.1.answer.isSome = true →
      taken.1.lead? = none ∧ taken.1.decision = .noop ∧ taken.2.memory = p.memory ∨
      ∃ y, taken.1.lead? = some y ∧
        taken.2.memory = some (parameters, crossVariables parameters (some (decide (0.0 < y)))) ∧
        (taken.1.decision ≠ .noop → side = some (!decide (0.0 < y)) ∧
          ∀ d, taken.1.decision.direction? = some d → taken.1.Enters parameters d) := by
  intro taken hasked
  obtain ⟨hanswer, hafter⟩ :=
    (PassState.memory_turn (movingAverageCross.strategy path).onTick p t).resolve_left
      fun hnone => by rw [hnone.1] at hasked; exact Bool.false_ne_true hasked
  -- both are told by what the script does with its variables
  have hask (v : MarketView Float) : (movingAverageCross.strategy path).onTick v p.memory =
      ((crossOnTick v (crossVariables parameters side)).1.bind Decision.ofValue,
        some (parameters, (crossOnTick v (crossVariables parameters side)).2)) := by
    rw [hmemory]
    rfl
  rw [hask] at hanswer hafter
  cases hlead : taken.1.lead? with
  | none =>
    rw [crossOnTick_of_lead?_eq_none hlead] at hanswer hafter
    refine .inl ⟨rfl, ?_, hafter.trans hmemory.symm⟩
    rw [Turn.decision, hanswer]
    simp only [Except.bind, Decision.ofValue_word]
  | some y =>
    rw [crossOnTick_of_lead? hlead] at hanswer hafter
    refine .inr ⟨y, rfl, hafter, fun hact => ?_⟩
    rw [Turn.answer_of_ne_noop hact] at hanswer
    replace hanswer := (Option.some.inj hanswer).symm
    simp only at hanswer
    by_cases hside : side = some (!decide (0.0 < y))
    · rw [if_pos hside] at hanswer
      refine ⟨hside, fun d hd => ?_⟩
      rcases decision_of_crossAnswer hanswer with hnoop | ⟨hclose, -⟩ | ⟨hgoes, hidle, hfar, hallowed⟩
      · exact absurd hnoop hact
      · rw [hclose] at hd
        exact absurd hd (Option.some_ne_none d).symm
      · rw [hgoes] at hd
        exact Turn.enters_toSide hlead hidle hfar hallowed hd
    · rw [if_neg hside] at hanswer
      simp only [Except.bind, Decision.ofValue_word] at hanswer
      exact absurd (Except.ok.inj hanswer).symm hact

end Script

/-- A pass of the script that no turn has ended remembers the side that it saw in the last turn, if it has
seen one. Whatever it did was done at a crossing. -/
structure Pass.Watches (path : String) (parameters : Parameters) (turns : List (Turn Float))
    (p : PassState Float (Script.movingAverageCross.strategy path).Memory) : Prop where
  remembers : (∀ u ∈ turns, u.stop? = none) → ∃ side,
    p.memory = some (parameters, Script.crossVariables parameters side) ∧
      ∀ long, side = some long → ∃ older v x, turns = older ++ [v] ∧ v.lead? = some x ∧
        long = decide (0.0 < x) ∧ v.account.canTrade = true
  acts : ∀ k u, turns[k]? = some u → (∀ v ∈ turns.take k, v.stop? = none) → u.decision ≠ .noop →
    (∃ j v, k = j + 1 ∧ turns[j]? = some v ∧ v.Crosses u) ∧
      ∀ d, u.decision.direction? = some d → u.Enters parameters d

namespace Pass

open Script

variable {path : String} {parameters : Parameters} {turns : List (Turn Float)}
  {p₀ p : PassState Float (movingAverageCross.strategy path).Memory}

theorem watches_begun (s : Simulation Float) (ids : Ids) :
    Watches path parameters [] (begun (movingAverageCross.strategy path) s ids parameters
      (some (parameters, crossVariables parameters none))) :=
  ⟨fun _ => ⟨none, rfl, fun _ hside => absurd hside (Option.some_ne_none _).symm⟩, by simp⟩

/-- Behind a turn in which the script saw a side, the next turn shows it both averages, and asks it
unless the account has fallen too far. -/
theorem shown_next {older : List (Turn Float)} {v : Turn Float}
    (hrecorded : Recorded p₀ (older ++ [v]) p) (hlead : v.lead?.isSome = true)
    (hfull : v.account.canTrade = true) (t : Tick Float) :
    let u := (p.turn (movingAverageCross.strategy path).onTick t).1
    u.lead?.isSome = true ∧ (u.account.exceeded = false → u.answer.isSome = true) := by
  intro u
  obtain ⟨-, haccount, hasked⟩ := PassState.turn_shown (movingAverageCross.strategy path).onTick p t
  have hcharts : u.account.charts = Charts.process v.account.charts t := by
    rw [haccount, ← hrecorded.charts_last]
    rfl
  constructor
  · rw [Turn.lead?_eq] at hlead ⊢
    rw [hcharts]
    exact Charts.isSome_lead?_process hlead t
  · intro hexceeded
    refine hasked.mpr ⟨hexceeded, ?_⟩
    show Charts.full u.account.charts = true
    rw [hcharts]
    exact Charts.full_process hfull t

/-- What the script remembers after one more turn. -/
theorem Watches.remembers_turn (hrecorded : Recorded p₀ turns p) (h : Watches path parameters turns p)
    (t : Tick Float) :
    let taken := p.turn (movingAverageCross.strategy path).onTick t
    (∀ u ∈ turns ++ [taken.1], u.stop? = none) → ∃ side,
      taken.2.memory = some (parameters, crossVariables parameters side) ∧
        ∀ long, side = some long → ∃ older v x, turns ++ [taken.1] = older ++ [v] ∧ v.lead? = some x ∧
          long = decide (0.0 < x) ∧ v.account.canTrade = true := by
  intro taken hall
  obtain ⟨side, hp, hside⟩ := h.remembers fun v hv => hall v (List.mem_append_left _ hv)
  have hexceeded := (Turn.stop?_eq_none.mp (hall taken.1 (by simp))).1
  -- once it has seen a side, it is asked and shown both averages, so the other cases cannot come up
  by_cases hanswer : taken.1.answer.isSome = true
  · rcases turn_of_remembered hp t hanswer with ⟨hnone, -, hmemory⟩ | ⟨y, hy, hmemory, -⟩
    · refine ⟨side, hmemory.trans hp, fun long hlong => ?_⟩
      obtain ⟨older, v, x, rfl, hx, -, hfull⟩ := hside long hlong
      have hsome := (shown_next hrecorded (Option.isSome_iff_exists.mpr ⟨x, hx⟩) hfull t).1
      rw [hnone] at hsome
      exact absurd hsome Bool.false_ne_true
    · refine ⟨_, hmemory, fun long hlong => ?_⟩
      have hfull := ((PassState.turn_shown _ p t).2.2.mp hanswer).2
      exact ⟨turns, taken.1, y, rfl, hy, (Option.some.inj hlong).symm, hfull⟩
  · refine ⟨side, ?_, fun long hlong => ?_⟩
    · rcases PassState.memory_turn (movingAverageCross.strategy path).onTick p t with
        ⟨-, hmemory⟩ | ⟨hsome, -⟩
      · exact hmemory.trans hp
      · exact absurd (Option.isSome_iff_exists.mpr ⟨_, hsome⟩) hanswer
    · obtain ⟨older, v, x, rfl, hx, -, hfull⟩ := hside long hlong
      exact absurd ((shown_next hrecorded (Option.isSome_iff_exists.mpr ⟨x, hx⟩) hfull t).2 hexceeded)
        hanswer

/-- What the script does in one more turn it does where the fast average has changed its side since the
turn before. -/
theorem Watches.acts_turn (h : Watches path parameters turns p) (hstops : ∀ v ∈ turns, v.stop? = none)
    (t : Tick Float) :
    let u := (p.turn (movingAverageCross.strategy path).onTick t).1
    u.decision ≠ .noop → (∃ older v, turns = older ++ [v] ∧ v.Crosses u) ∧
      ∀ d, u.decision.direction? = some d → u.Enters parameters d := by
  intro u hact
  obtain ⟨side, hp, hside⟩ := h.remembers hstops
  have hanswer : u.answer.isSome = true := by
    rw [Turn.answer_of_ne_noop hact]
    rfl
  -- it acts on the side that it remembers, which is the one that it saw in the last turn
  rcases turn_of_remembered hp t hanswer with ⟨-, hnoop, -⟩ | ⟨y, hy, -, hgoes⟩
  · exact absurd hnoop hact
  · obtain ⟨hother, henters⟩ := hgoes hact
    obtain ⟨older, v, x, hturns, hx, hlong, -⟩ := hside _ hother
    refine ⟨⟨older, v, hturns, x, y, hx, hy, ?_⟩, henters⟩
    by_cases hlt : 0.0 < y <;> by_cases hlt' : 0.0 < x <;> simp [hlt, hlt'] at hlong ⊢

/-- Every turn of the script keeps a pass watching. -/
theorem Watches.turn (hrecorded : Recorded p₀ turns p) (h : Watches path parameters turns p)
    (t : Tick Float) :
    Watches path parameters (turns ++ [(p.turn (movingAverageCross.strategy path).onTick t).1])
      (p.turn (movingAverageCross.strategy path).onTick t).2 := by
  refine ⟨h.remembers_turn hrecorded t, fun k u hu hstops hact => ?_⟩
  rcases getElem?_concat_eq_some.mp hu with hu | ⟨rfl, rfl⟩
  · have hk := (List.getElem?_eq_some_iff.mp hu).1
    rw [List.take_append_of_le_length (Nat.le_of_lt hk)] at hstops
    obtain ⟨⟨j, v, hj, hv, hcrosses⟩, henters⟩ := h.acts k u hu hstops hact
    exact ⟨⟨j, v, hj, getElem?_concat_eq_some.mpr (.inl hv), hcrosses⟩, henters⟩
  · rw [List.take_left] at hstops
    obtain ⟨⟨older, v, rfl, hcrosses⟩, henters⟩ := h.acts_turn hstops t hact
    have hv : (older ++ [v])[older.length]? = some v := List.getElem?_concat_length
    refine ⟨⟨older.length, v, ?_, getElem?_concat_eq_some.mpr (.inl hv), hcrosses⟩, henters⟩
    rw [List.length_append, List.length_singleton]

/-- The side is changed on a tick that opens a candle of five minutes. -/
theorem Recorded.exists_opens {cs : List (Chart Float)} (hdefined : ∀ c ∈ cs, c.Defined)
    {hs : List (ChartHistory Float)} (hcharts : ∀ h ∈ hs, h.chart ∈ cs)
    (hstart : p₀.simulation.charts = Charts.activate (hs.map (·.now))) (hrecorded : Recorded p₀ turns p)
    {j : ℕ} {v u : Turn Float} (hv : turns[j]? = some v) (hu : turns[j + 1]? = some u)
    (hcrosses : v.Crosses u) :
    ∃ h ∈ hs, h.chart.period = .m5 ∧
      (h.inPass ((turns.take (j + 1)).map (·.tick))).now.Opens u.tick := by
  obtain ⟨x, y, hx, hy, hsides⟩ := hcrosses
  have hne : Charts.lead? (Charts.process v.account.charts u.tick) ≠ Charts.lead? v.account.charts := by
    rw [← hrecorded.charts_next hv hu, ← Turn.lead?_eq, ← Turn.lead?_eq, hx, hy]
    intro heq
    obtain rfl := Option.some.inj heq
    exact iff_not_self hsides
  obtain ⟨c, hc, hopens, l, hl⟩ := Charts.exists_opens_of_lead?_ne hne
  rw [(hrecorded.shown j v hv).2.1, hstart, ChartHistory.processAll_activate] at hc
  obtain ⟨h, hh, rfl⟩ := List.mem_map.mp hc
  refine ⟨h, hh, ?_, hopens⟩
  rw [ChartHistory.now, Chart.labels_after] at hl
  exact (hdefined _ (hcharts h hh)).period_of_average hl

end Pass

/-! ### The main statement -/

/-- What holds of the turns of a pass over charts that goes by crossings. At most one trade is open at any
tick, and what is done is to open and to close in turn. Each act is on a tick that opens a candle of five
minutes, and the fast average is not on the side of the slow one on which it was at the tick before. A
trade is opened only as `Turn.Enters` says. -/
structure Script.GoesByCrossings (hs : List (ChartHistory Float)) (parameters : Parameters)
    (window : List (Tick Float)) (turns : List (Turn Float)) : Prop where
  single : ∀ u ∈ turns, u.account.openTrades.length ≤ 1
  alternate : ∀ n d, (acts turns)[n]? = some d →
    n % 2 = 0 ∧ d.direction?.isSome = true ∨ n % 2 = 1 ∧ d = .closeAll
  opens : ∀ k u, turns[k]? = some u → u.decision ≠ .noop →
    ∃ h ∈ hs, h.chart.period = .m5 ∧ (h.inPass (window.take k)).now.Opens u.tick
  crosses : ∀ k u, turns[k]? = some u → u.decision ≠ .noop →
    ∃ j v, k = j + 1 ∧ turns[j]? = some v ∧ v.Crosses u
  enters : ∀ u ∈ turns, ∀ d, u.decision.direction? = some d → u.Enters parameters d

/-- Every pass of the crossing script with documented parameters, over charts that were read from a text
whatever they have seen since, goes by crossings. -/
theorem Script.acts_at_crossings {text : String} {cs : List (Chart Float)}
    (hread : readCharts text = .ok cs) {hs : List (ChartHistory Float)}
    (hcharts : ∀ h ∈ hs, h.chart ∈ cs) {parameters : Parameters}
    (hparameters : ∀ e ∈ parameters, e.1 ∈ documented) (path : String) (id : ℕ) (sample : Sample)
    (settings : Settings Float) (ids : Ids) (first : Tick Float) (rest : List (Tick Float)) :
    let strategy := movingAverageCross.strategy path
    let s := Simulation.new id sample settings (hs.map (·.now))
    let window := first :: rest
    let turns := Pass.turns strategy s ids window parameters
    (Pass.run strategy s ids window parameters).MadeOf parameters window turns ∧
      GoesByCrossings hs parameters window turns := by
  intro strategy s window turns
  have hsetup := setup_movingAverageCross hparameters path none
  obtain ⟨p, last, stop, ⟨⟨halternates, hwatches⟩, -⟩, hrecorded, hended, -, hrun⟩ :=
    Pass.turns_of_setup hsetup s ids first rest
      (I := fun turns p => (Pass.Alternates turns p ∧ Pass.Watches path parameters turns p) ∧
        Pass.Recorded (Pass.begun strategy s ids parameters
          (some (parameters, crossVariables parameters none))) turns p)
      (fun turns p t hp => ⟨⟨hp.1.1.turn (single_movingAverageCross path) t,
        Pass.Watches.turn hp.2 hp.1.2 t⟩, hp.2.turn _ t⟩)
      ⟨⟨Pass.alternates_begun strategy id sample settings _ ids parameters _,
        Pass.watches_begun s ids⟩, Pass.recorded_nil _⟩
  have hacts (k : ℕ) (u : Turn Float) (hu : turns[k]? = some u) :=
    hwatches.acts k u hu (hended.unstopped (List.getElem?_eq_some_iff.mp hu).1)
  have hmade := hrecorded.madeOf hended last
  rw [← hrun] at hmade
  refine ⟨hmade, halternates.length_le, halternates.alternate, fun k u hu hact => ?_,
    fun k u hu hact => (hacts k u hu hact).1, fun u hu d hd => ?_⟩
  · obtain ⟨⟨j, v, rfl, hv, hcrosses⟩, -⟩ := hacts k u hu hact
    have hk := (List.getElem?_eq_some_iff.mp hu).1
    have hseen : (turns.take (j + 1)).map (·.tick) = window.take (j + 1) := by
      rw [List.map_take, hended.ticks_eq_take.1, List.take_take, Nat.min_eq_left (Nat.le_of_lt hk)]
    rw [← hseen]
    exact hrecorded.exists_opens (defined_of_readCharts hread) hcharts rfl hv hu hcrosses
  · obtain ⟨k, hk⟩ := List.getElem?_of_mem hu
    exact (hacts k u hk (Decision.ne_noop_of_direction? (hd ▸ rfl))).2 d hd

/-- A tick every five minutes of a day, with the same bid and ask. -/
def fiveMinuteTicks (d : Date) (prices : List Float) : List (Tick Float) :=
  prices.mapIdx fun k price =>
    { time := .ofMoment (.ofSecondOfDay d (300 * k)), bid := price, ask := price }

/-- On a day whose prices rise, fall and rise again after they have stood still, the script opens a trade,
closes it, and opens another. -/
theorem Script.acts_at_crossings_restless : ∃ c,
    let hs : List (ChartHistory Float) := [⟨c, []⟩]
    let parameters : Parameters := [("min_gap", .real 0.5), ("allow_shorts", .bool false)]
    let strategy := movingAverageCross.strategy "sma_cross.py"
    let settings : Settings Float := { deposit := 10000, drawdownLimit := -10, jpyQuote := false }
    let s := Simulation.new 1 .inSample settings (hs.map (·.now))
    let window := fiveMinuteTicks newYear (List.replicate 40 1.0 ++ [1.001, 0.998, 1.004, 1.0])
    let turns := Pass.turns strategy s .first window parameters
    readCharts "candlestick,M5,40|sma,10:sma,40" = .ok [c] ∧
      acts turns = [.openLong, .closeAll, .openLong] ∧
      (Pass.run strategy s .first window parameters).MadeOf parameters window turns ∧
      GoesByCrossings hs parameters window turns := by
  have h : ((readCharts "candlestick,M5,40|sma,10:sma,40").toOption.map fun cs => (cs.length,
      acts (Pass.turns (movingAverageCross.strategy "sma_cross.py")
        (.new 1 .inSample { deposit := 10000, drawdownLimit := -10, jpyQuote := false } cs) .first
        (fiveMinuteTicks newYear (List.replicate 40 1.0 ++ [1.001, 0.998, 1.004, 1.0]))
        [("min_gap", .real 0.5), ("allow_shorts", .bool false)]))) =
      some (1, [.openLong, .closeAll, .openLong]) := by
    decide +kernel
  obtain ⟨cs, hcs, h⟩ := Option.map_eq_some_iff.mp h
  obtain ⟨hlength, hacts⟩ := Prod.mk.inj h
  obtain ⟨c, rfl⟩ := List.length_eq_one_iff.mp hlength
  have hread := toOption_eq_some.mp hcs
  have hcharts : ∀ h ∈ ([⟨c, []⟩] : List (ChartHistory Float)), h.chart ∈ [c] := by simp
  exact ⟨c, hread, hacts, acts_at_crossings hread hcharts (by simp [documented]) "sma_cross.py" 1
    .inSample _ .first _ _⟩

end Backtest
