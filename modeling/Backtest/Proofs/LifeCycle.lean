import Backtest.Books
import Backtest.Proofs.Contracts

/-!
# The life cycle of a strategy

A strategy is set up before the first tick of a pass, asked at some of the ticks, and torn down once
behind the last of them, whichever way the ticks came to an end. It is not asked again once it has
raised a fault, and it is not torn down unless it was set up. The last fault that it raised is the
result of the pass; a pass in which it raised none has a result and enters a row for each of its trades.

* `Strategy.Asked`, the calls made at ticks; `Pass.exists_asked`, those made by the ticks of a pass;
* `Strategy.LifeCycle`, all calls made by a pass and the faults raised in them;
* `Pass.run_lifeCycle`, every pass over ticks keeps to it; `Books.execute_lifeCycle`, the main statement.
-/

namespace Backtest

/-- The fault that a call raised, if it raised one. -/
def raised? {β : Type} : Except Fault β → Option Fault
  | .error f => some f
  | .ok _ => none

/-- The failure with which ticks came to an end, if they failed. -/
def WalkEnd.fault? : WalkEnd → Option Fault
  | .failed f => some f
  | _ => none

namespace Strategy

variable {α Memory : Type}

/-- A strategy is asked at ticks: it remembers one thing before these calls and another behind them, and
the last of them raised a fault if any did. -/
inductive Asked (onTick : MarketView α → Memory → Except Fault Decision × Memory) :
    Memory → List (StrategyCall α) → Option Fault → Memory → Prop
  | done (m : Memory) : Asked onTick m [] none m
  | answered {m m' m'' : Memory} {view : MarketView α} {d : Decision} {calls : List (StrategyCall α)}
      {fault : Option Fault} (h : onTick view m = (.ok d, m')) (later : Asked onTick m' calls fault m'') :
      Asked onTick m (.onTick view (.ok d) :: calls) fault m''
  | raised {m m' : Memory} {view : MarketView α} {f : Fault} (h : onTick view m = (.error f, m')) :
      Asked onTick m [.onTick view (.error f)] (some f) m'

/-- The calls that a pass over ticks makes on a strategy, and the faults raised in them, in order: it is
set up and raises a fault there, or it is set up, asked at ticks and torn down. -/
inductive LifeCycle (strategy : Strategy α) (parameters : Parameters) :
    List (StrategyCall α) → List Fault → Prop
  | notSetUp {f : Fault} (hsetup : strategy.setup parameters strategy.fresh = .error f) :
      LifeCycle strategy parameters [.setup parameters] [f]
  | tornDown {m m' : strategy.Memory} {asked : List (StrategyCall α)} {fault : Option Fault}
      (hsetup : strategy.setup parameters strategy.fresh = .ok m)
      (hasked : Asked strategy.onTick m asked fault m') :
      LifeCycle strategy parameters (.setup parameters :: asked ++ [.teardown])
        (fault.toList ++ (raised? (strategy.teardown m')).toList)

end Strategy

open Strategy

variable {α Memory : Type} [Price α]

/-! ### The calls at ticks -/

namespace Pass

variable (onTick : MarketView α → Memory → Except Fault Decision × Memory)

/-- What the ticks of a pass add to the calls are those with which the strategy is asked, the last of them
the one that failed if the ticks did. -/
theorem exists_asked (ts : List (Tick α)) (last : Tick α) (p : PassState α Memory) :
    let walked := walk onTick ts last p
    ∃ asked, walked.1.calls.toList = p.calls.toList ++ asked ∧
      Asked onTick p.memory asked walked.2.2.fault? walked.1.memory := by
  -- along the ticks; the first of them asks at most once, with what is remembered from before
  induction ts generalizing last p with
  | nil => exact ⟨[], (List.append_nil _).symm, .done p.memory⟩
  | cons t ts ih =>
    rw [walk_cons]
    simp only
    split
    · exact ⟨[], (List.append_nil _).symm, .done p.memory⟩
    · split
      · have hpair : onTick ((p.advance t).simulation.view t) p.memory =
            (((p.advance t).ask onTick t).2, ((p.advance t).ask onTick t).1.memory) := rfl
        have hcalls : ((p.advance t).ask onTick t).1.calls.toList = p.calls.toList ++
            [.onTick ((p.advance t).simulation.view t) ((p.advance t).ask onTick t).2] :=
          Array.toList_push ..
        split
        · rename_i f hf
          rw [hf] at hpair hcalls
          exact ⟨_, hcalls, .raised hpair⟩
        · rename_i d hd
          rw [hd] at hpair hcalls
          obtain ⟨asked, hasked, hlater⟩ := ih t (((p.advance t).ask onTick t).1.carryOut t d).1
          rw [PassState.memory_carryOut] at hlater
          rw [(PassState.carryOut_kept _ t d).1, hcalls, List.append_assoc] at hasked
          exact ⟨_, hasked, .answered hpair hlater⟩
      · exact ih t (p.advance t)

/-! ### Whole passes -/

/-- A pass whose ticks came to an end answers with the last fault raised in them or behind them. If there
is none, all its trades are closed and it has a result. -/
theorem result_outcome (strategy : Strategy α) {p : PassState α strategy.Memory}
    (hopen : p.simulation.AllOpen) (last : Tick α) (stop : WalkEnd) :
    let faults := stop.fault?.toList ++ (raised? (strategy.teardown p.memory)).toList
    let o := outcome strategy (settle p last stop)
    (∀ f, faults.getLast? = some f → o.result = .error f) ∧
      (faults = [] → o.simulation.openTrades = [] ∧ ∃ v, o.result = .ok v) := by
  have hclose := Simulation.closeAll_of_allOpen hopen last
  have hmemory : (settle p last stop).1.memory = p.memory := by cases stop <;> rfl
  simp only [outcome, hmemory]
  cases strategy.teardown p.memory with
  | error g => simp [raised?]
  | ok m =>
    cases stop with
    | failed g => simp [raised?, WalkEnd.fault?, settle]
    | breached =>
      simp [raised?, WalkEnd.fault?, settle, hclose, Except.mapError, Except.map, verdict]
    | finished =>
      obtain ⟨x, hx⟩ := exists_expectancy (s := (p.simulation.closeAll last).1) (by rw [hclose])
      rw [hclose] at hx
      simp [raised?, WalkEnd.fault?, settle, hclose, Except.mapError, Except.map, verdict, hx]

/-- A pass over ticks keeps to the life cycle of its strategy and answers with the last fault that this
raised. If it raised none, all trades are closed and the pass has a result. -/
theorem run_lifeCycle (strategy : Strategy α) {s : Simulation α} (hopen : s.AllOpen) (ids : Ids)
    (first : Tick α) (rest : List (Tick α)) (parameters : Parameters) :
    let o := run strategy s ids (first :: rest) parameters
    ∃ faults, LifeCycle strategy parameters o.calls.toList faults ∧
      (∀ f, faults.getLast? = some f → o.result = .error f) ∧
      (faults = [] → o.simulation.openTrades = [] ∧ ∃ v, o.result = .ok v) := by
  cases hsetup : strategy.setup parameters strategy.fresh with
  | error f =>
    simp only [run, hsetup]
    exact ⟨[f], .notSetUp hsetup, by simp, by simp⟩
  | ok memory =>
    have hwalk := allOpen_walk strategy.onTick (first :: rest) first
      (p := begun strategy s ids parameters memory) hopen
    obtain ⟨asked, hcalls, hasked⟩ := exists_asked strategy.onTick (first :: rest) first
      (begun strategy s ids parameters memory)
    rw [run_of_setup hsetup]
    simp only at hwalk hcalls hasked ⊢
    generalize walk strategy.onTick (first :: rest) first _ = walked at *
    obtain ⟨herror, hok⟩ := result_outcome strategy hwalk walked.2.1 walked.2.2
    refine ⟨_, ?_, herror, hok⟩
    have hall : (outcome strategy (settle walked.1 walked.2.1 walked.2.2)).calls.toList =
        .setup parameters :: asked ++ [.teardown] := by
      rw [outcome, Array.toList_push, (settle_kept _ _ _).1, hcalls]
      rfl
    rw [hall]
    exact .tornDown hsetup hasked

end Pass

namespace Books

/-- A pass that fails leaves the trade log as it was; one with a result enters its closed trades. -/
theorem tradeLog_enter (b : Books) (p : PassOutcome Float) :
    (∀ f, p.result = .error f → (b.enter p).tradeLog = b.tradeLog) ∧
      ∀ v, p.result = .ok v → (b.enter p).tradeLog = b.tradeLog.map (·.record p.simulation) := by
  constructor <;> intro x hx <;> simp [enter, hx]

/-- Whatever strategy a pass runs, it is not called at all if there are no ticks, and else kept to its
life cycle. If it raised a fault the pass fails with it, or with the later one if it failed at a tick and
again when it was torn down, and then neither table of the trade log gains a row. If it raised none the
pass has a result, a breach or a score, no trade is left open, and the table of trades gains one row for
each closed trade. -/
theorem execute_lifeCycle (books : Books) (strategy : Strategy Float) (settings : Settings Float)
    (charts : List (Chart Float)) (sample : Sample) (ticks : List (Tick Float))
    (parameters : Parameters) :
    let executed := books.execute strategy settings charts sample ticks parameters
    let o := executed.1
    let books' := executed.2
    (ticks = [] → o.calls = #[] ∧ o.result = .error (.stream (.emptyPass sample)) ∧
      books'.tradeLog = books.tradeLog) ∧
    (ticks ≠ [] → ∃ faults, LifeCycle strategy parameters o.calls.toList faults ∧
      (∀ f, faults.getLast? = some f → o.result = .error f ∧ books'.tradeLog = books.tradeLog) ∧
      (faults = [] → (∃ v, o.result = .ok v) ∧ o.simulation.openTrades = [] ∧
        o.simulation.closedTrades.length = openings o.calls.toList ∧
        ∀ log, books.tradeLog = some log → ∃ log', books'.tradeLog = some log' ∧
          log'.trades = log.trades ++
            o.simulation.closedTrades.map fun r => ⟨o.simulation.id, sample, r⟩)) := by
  intro executed o books'
  obtain ⟨hfailed, hdone⟩ := tradeLog_enter books o
  refine ⟨?_, fun hticks => ?_⟩
  · rintro rfl
    exact ⟨rfl, rfl, hfailed _ rfl⟩
  · obtain ⟨first, rest, rfl⟩ := List.exists_cons_of_ne_nil hticks
    let account := Simulation.new books.ids.nextSimulation sample settings charts
    have haccounted : o.Accounted account _ (first :: rest) parameters :=
      Pass.run_accounted strategy rfl rfl _ (first :: rest) parameters
    obtain ⟨faults, hcycle, herror, hok⟩ := Pass.run_lifeCycle strategy
      (Simulation.allOpen_new _ sample settings charts) (books.ids.simulation).2 first rest parameters
    refine ⟨faults, hcycle, fun f hf => ⟨herror f hf, hfailed f (herror f hf)⟩, fun hnone => ?_⟩
    obtain ⟨hopen, v, hv⟩ := hok hnone
    have hlength := congrArg List.length (haccounted.numbered v hv)
    refine ⟨⟨v, hv⟩, hopen, by simpa [idsFrom] using hlength, fun log hlog => ?_⟩
    refine ⟨log.record o.simulation, ?_, ?_⟩
    · exact (hdone v hv).trans (by rw [hlog]; rfl)
    · have hsample : o.simulation.sample = sample := haccounted.sample
      simp [TradeLog.record, TradeLog.logTrades, TradeLog.logTicks, TradeLog.tradeRows, hsample]

/-- A strategy that buys once raises no fault, and its pass enters one row. -/
theorem execute_lifeCycle_buyer :
    let executed := new.execute .buyer ⟨10000.0, -10.0, false⟩ [] .inSample (dailyTicks newYear 5) []
    Strategy.buyer.LifeCycle [] executed.1.calls.toList [] ∧
      ∃ log row, executed.2.tradeLog = some log ∧ log.trades = [row] := by
  have hticks : dailyTicks newYear 5 ≠ [] := by
    have hlength : (dailyTicks newYear 5).length = 4 := by decide +kernel
    exact List.ne_nil_of_length_pos (by omega)
  have hmain := (execute_lifeCycle new .buyer ⟨10000.0, -10.0, false⟩ [] .inSample
    (dailyTicks newYear 5) []).2 hticks
  simp only at hmain ⊢
  generalize hexecuted : new.execute .buyer ⟨10000.0, -10.0, false⟩ [] .inSample
    (dailyTicks newYear 5) [] = executed at hmain ⊢
  have hrun : executed.1.result.toOption.isSome = true ∧ openings executed.1.calls.toList = 1 := by
    rw [← hexecuted]
    decide +kernel
  obtain ⟨faults, hcycle, herror, hok⟩ := hmain
  obtain rfl : faults = [] := by
    by_contra hne
    have hresult := (herror _ (List.getLast?_eq_some_getLast hne)).1
    simp [hresult, Except.toOption] at hrun
  obtain ⟨-, -, hlength, hlog⟩ := hok rfl
  obtain ⟨log, hsome, htrades⟩ := hlog TradeLog.empty rfl
  obtain ⟨trade, htrade⟩ := List.length_eq_one_iff.mp (hlength.trans hrun.2)
  rw [htrade] at htrades
  exact ⟨hcycle, log, _, hsome, htrades⟩

end Books

end Backtest
