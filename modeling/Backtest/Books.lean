import Backtest.Notice
import Backtest.Pass
import Backtest.TradeLog

/-!
# Books

What the passes of one run share: the ids, the trade log if there is one, the notices given, and the
calls made on strategies.

* `Books`; `Books.execute`, a pass entered into the books: a pass that fails writes no rows.
-/

namespace Backtest

/-- What the passes of one run share. -/
structure Books where
  ids : Ids
  tradeLog : Option (TradeLog Float)
  notices : Array Notice
  calls : Array (StrategyCall Float)

namespace Books

/-- Books without entries, with a trade log. -/
def new : Books := { ids := Ids.first, tradeLog := some TradeLog.empty, notices := #[], calls := #[] }

/-- The books with a notice. -/
def tell (b : Books) (n : Notice) : Books := { b with notices := b.notices.push n }

/-- What a pass tells when it ends. -/
def passNotices (s : Simulation Float) (processed : Nat) : Verdict Float → List Notice
  | .breached => [.breach s.id s.sample s.drawdown.deepest processed]
  | .scored score =>
    [.finalScore score.toFloat s.profit s.closedLong s.closedShort s.sample,
      .ticksProcessed processed s.drawdown.deepest]

/-- The books after a pass. -/
def enter (b : Books) (p : PassOutcome Float) : Books :=
  let b := { b with ids := p.ids, calls := b.calls ++ p.calls }
  match p.result with
  | .error _ => b
  | .ok v =>
    { b with
      tradeLog := b.tradeLog.map (·.record p.simulation)
      notices := b.notices ++ (passNotices p.simulation p.processed v).toArray }

/-- A pass of a strategy, with a simulation of its own, entered into the books. -/
def execute (b : Books) (strategy : Strategy Float) (settings : Settings Float)
    (charts : List (Chart Float)) (sample : Sample) (ticks : List (Tick Float))
    (parameters : Parameters) : PassOutcome Float × Books :=
  let (id, ids) := b.ids.simulation
  let p := Pass.run strategy (Simulation.new id sample settings charts) ids ticks parameters
  (p, b.enter p)

/-- What a pass is worth to a search: nothing if it was given up. -/
def worth : Verdict Float → Option Float
  | .breached => none
  | .scored score => some score.toFloat

end Books

end Backtest
