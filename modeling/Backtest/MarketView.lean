import Backtest.Chart

/-!
# Market views

What a strategy is shown at a tick: the tick, the state of the account, and what the charts publish.
-/

namespace Backtest

/-- What a strategy is shown. -/
structure MarketView (α : Type) where
  tick : Tick α
  hasOpenTrades : Bool
  openTrades : Nat
  closedTrades : Nat
  balance : α
  equity : α
  charts : Table (List (Candle α))
  indicators : Table α

end Backtest
