import Backtest.Price

/-!
# Drawdown

The drawdown is how far the equity has fallen, in percent, below the highest it has been: zero at a
new high and negative below it. What counts is the lowest equity since the last new high.

* `Drawdown`, the high, the low since and the deepest drawdown seen;
* `Drawdown.observe`, the state after an equity; `Drawdown.current`, the drawdown now.
-/

namespace Backtest

variable {α : Type} [Price α]

/-- How far the equity has fallen. -/
structure Drawdown (α : Type) where
  /-- The highest equity so far, the deposit included. -/
  high : α
  /-- The lowest equity since the high. -/
  low : α
  /-- The deepest drawdown so far. -/
  deepest : α

namespace Drawdown

/-- Nothing but the deposit has been seen. -/
def start (deposit : α) : Drawdown α := { high := deposit, low := deposit, deepest := Price.zero }

/-- The drawdown of an equity below a high, in percent. -/
def between (high low : α) : α :=
  -(Price.ofNat 100 - low / high * Price.ofNat 100)

/-- The drawdown at the low. -/
def current (d : Drawdown α) : α := between d.high d.low

/-- The high and the low after an equity. -/
def note (d : Drawdown α) (equity : α) : Drawdown α :=
  if d.high < equity then { d with high := equity, low := equity }
  else { d with low := Price.smaller d.low equity }

/-- The state after an equity. -/
def observe (d : Drawdown α) (equity : α) : Drawdown α :=
  let d := d.note equity
  if d.current < d.deepest then { d with deepest := d.current } else d

end Drawdown

end Backtest
