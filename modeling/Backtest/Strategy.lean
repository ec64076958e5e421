import Backtest.Decision
import Backtest.MarketView
import Backtest.Parameter

/-!
# Strategies

A strategy is set up with parameters, asked at ticks, and torn down at the end of the pass. Each of
the three may fail. What it remembers between the calls is its own; every pass starts with a fresh
one.

* `Strategy`, the three hooks and the memory between them;
* `StrategyCall`, a call made on a strategy, as a pass reports it.
-/

namespace Backtest

/-- A strategy. -/
structure Strategy (α : Type) where
  /-- What the strategy remembers. -/
  Memory : Type
  /-- What a fresh strategy remembers. -/
  fresh : Memory
  /-- Called before the first tick of a pass. When it fails the memory stays as it was. -/
  setup : Parameters → Memory → Except Fault Memory
  /-- Called at a tick. It remembers even when it fails. -/
  onTick : MarketView α → Memory → Except Fault Decision × Memory
  /-- Called once at the end of a pass that was set up. -/
  teardown : Memory → Except Fault Memory

/-- A call made on a strategy. -/
inductive StrategyCall (α : Type)
  /-- It was set up with parameters. -/
  | setup (parameters : Parameters)
  /-- It was shown a view and answered. -/
  | onTick (view : MarketView α) (answer : Except Fault Decision)
  /-- It was torn down. -/
  | teardown

/-- A strategy that decides from its memory and the view, and does nothing else. -/
def Strategy.ofRule {α Memory : Type} (start : Parameters → Memory)
    (decide : MarketView α → Memory → Except Fault Value × Memory) : Strategy α :=
  { Memory
    fresh := start []
    setup := fun p _ => .ok (start p)
    onTick := fun v m =>
      let (answer, m) := decide v m
      (answer.bind Decision.ofValue, m)
    teardown := .ok }

/-- A strategy that gives the answers of a list one after the other, and none after its end. -/
def Strategy.ofAnswers (α : Type) (answers : List Value) : Strategy α :=
  .ofRule (fun _ => answers) fun _ left =>
    match left with
    | [] => (.ok .null, [])
    | a :: rest => (.ok a, rest)

end Backtest
