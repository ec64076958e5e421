import Backtest.Fault
import Backtest.Price

/-!
# Settings of a simulation

The deposit, the drawdown at which a pass is given up, and whether prices are quoted in yen, which
makes a pip a hundred times larger.

* `pipProfit`, the profit from one price to another in pips;
* `Settings`, `Settings.of`, which refuses deposits and limits without sense.
-/

namespace Backtest

/-- The pips in one unit of a price. -/
def pipsPerUnit {α : Type} [Price α] : α := Price.ofNat 10000

/-- The profit in pips of buying at one price and selling at another. -/
def pipProfit {α : Type} [Price α] (buy sell : α) : α := sell * pipsPerUnit - buy * pipsPerUnit

/-- What all passes of a run share: the deposit, the limit of the drawdown in percent, which is
negative, and whether prices are quoted in yen. -/
structure Settings (α : Type) where
  deposit : α
  drawdownLimit : α
  jpyQuote : Bool

namespace Settings

/-- The usual deposit. -/
def usualDeposit : Float := 10000.0

/-- The usual limit of the drawdown. -/
def usualLimit : Float := -10.0

/-- Settings, unless the limit is at or above zero or the deposit at or below. -/
def of (deposit drawdownLimit : Float) (jpyQuote : Bool) : Except ConfigFault (Settings Float) :=
  if drawdownLimit ≥ 0.0 then .error (.drawdownLimit drawdownLimit)
  else if deposit ≤ 0.0 then .error (.deposit deposit)
  else .ok { deposit, drawdownLimit, jpyQuote }

end Settings

end Backtest
