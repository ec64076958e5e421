import Backtest.Simulation
import Backtest.Strategy

/-!
# Passes

A pass runs a strategy over a window of ticks on an account of its own. At every tick the open trades
observe it, the charts take it in, the drawdown is noted; if the drawdown has not gone too far and
every chart is full, the strategy is asked and its decision carried out. At the last tick all trades
are closed.

* `PassState`, where a pass stands; `PassState.advance`, `PassState.carryOut`, what a tick and a
  decision do;
* `Pass.walk`, the ticks one after the other; `Pass.run`, the whole pass;
* `Verdict`, how a pass ends: given up at a drawdown, or with a score.
-/

namespace Backtest

/-- How a pass ends. -/
inductive Verdict (α : Type)
  /-- The drawdown went beyond its limit. -/
  | breached
  | scored (score : Score α)

/-- Where a pass stands: the account, the ids, what the strategy remembers, the calls made on it and
the number of ticks processed. -/
structure PassState (α Memory : Type) where
  simulation : Simulation α
  ids : Ids
  memory : Memory
  calls : Array (StrategyCall α)
  processed : Nat

/-- What is left of a pass: the account, the ids, the calls made on the strategy, the number of ticks
processed, and how it ended. -/
structure PassOutcome (α : Type) where
  simulation : Simulation α
  ids : Ids
  calls : Array (StrategyCall α)
  processed : Nat
  result : Except Fault (Verdict α)

/-- How the ticks of a pass come to an end. -/
inductive WalkEnd
  | finished
  | breached
  | failed (fault : Fault)

variable {α Memory : Type} [Price α]

namespace PassState

/-- The account after a tick: trades observe it, charts take it in, closed trades are moved, and the
drawdown is noted. -/
def advance (p : PassState α Memory) (t : Tick α) : PassState α Memory :=
  { p with
    simulation := ((p.simulation.observe t).updateCharts t).migrate.updateDrawdown
    processed := p.processed + 1 }

omit [Price α] in
/-- Carry out a decision at a tick. -/
def carryOut (p : PassState α Memory) (t : Tick α) :
    Decision → PassState α Memory × Except Fault Unit
  | .noop => (p, .ok ())
  | .openLong =>
    let (_, simulation, ids) := p.simulation.openTrade p.ids .long t
    ({ p with simulation, ids }, .ok ())
  | .openShort =>
    let (_, simulation, ids) := p.simulation.openTrade p.ids .short t
    ({ p with simulation, ids }, .ok ())
  | .closeAll =>
    let (simulation, result) := p.simulation.closeAll t
    ({ p with simulation }, result.mapError .trade)

/-- Ask the strategy at a tick. -/
def ask (p : PassState α Memory)
    (onTick : MarketView α → Memory → Except Fault Decision × Memory) (t : Tick α) :
    PassState α Memory × Except Fault Decision :=
  let view := p.simulation.view t
  let (answer, memory) := onTick view p.memory
  ({ p with memory, calls := p.calls.push (.onTick view answer) }, answer)

end PassState

namespace Pass

/-- The ticks of a pass one after the other, up to a breach or a failure. The result holds the last
tick processed, `last` if there was none. -/
def walk (onTick : MarketView α → Memory → Except Fault Decision × Memory) :
    List (Tick α) → Tick α → PassState α Memory → PassState α Memory × Tick α × WalkEnd
  | [], last, p => (p, last, .finished)
  | t :: ts, _, p =>
    let p := p.advance t
    if p.simulation.exceeded then (p, t, .breached)
    else if p.simulation.canTrade then
      match p.ask onTick t with
      | (p, .error f) => (p, t, .failed f)
      | (p, .ok d) => match p.carryOut t d with
        | (p, .error f) => (p, t, .failed f)
        | (p, .ok ()) => walk onTick ts t p
    else walk onTick ts t p

/-- Close what is open after the ticks, unless they failed. -/
def settle (p : PassState α Memory) (last : Tick α) :
    WalkEnd → PassState α Memory × Except Fault Bool
  | .failed f => (p, .error f)
  | .breached =>
    let (simulation, result) := p.simulation.closeAll last
    ({ p with simulation }, (result.mapError .trade).map fun _ => true)
  | .finished =>
    let (simulation, result) := p.simulation.closeAll last
    ({ p with simulation }, (result.mapError .trade).map fun _ => false)

/-- The verdict on an account whose trades are settled. -/
def verdict (s : Simulation α) (breached : Bool) : Except Fault (Verdict α) :=
  if breached then .ok .breached else (s.expectancy.mapError .trade).map .scored

/-- A pass of a strategy over a window of ticks, on a fresh account. The strategy is torn down on
every way out after it was set up. -/
def run (strategy : Strategy α) (simulation : Simulation α) (ids : Ids) (ticks : List (Tick α))
    (parameters : Parameters) : PassOutcome α :=
  match ticks with
  | [] =>
    { simulation, ids, calls := #[], processed := 0,
      result := .error (.stream (.emptyPass simulation.sample)) }
  | first :: _ =>
    let calls : Array (StrategyCall α) := #[.setup parameters]
    match strategy.setup parameters strategy.fresh with
    | .error f => { simulation, ids, calls, processed := 0, result := .error f }
    | .ok memory =>
      let start : PassState α strategy.Memory :=
        { simulation := simulation.activateCharts, ids, memory, calls, processed := 0 }
      let (p, last, stop) := walk strategy.onTick ticks first start
      let (p, settled) := settle p last stop
      let result := match strategy.teardown p.memory with
        | .error f => .error f
        | .ok _ => match settled with
          | .error f => .error f
          | .ok breached => verdict p.simulation breached
      { simulation := p.simulation, ids := p.ids, calls := p.calls.push .teardown,
        processed := p.processed, result }

end Pass

end Backtest
