import Backtest.Simulation

/-!
# The trade log

Two tables that passes write when they end: one row for each closed trade, and one row for each tick
that a closed trade observed. As files they have comma-separated fields, a header and lines that end
with a carriage return and a newline.

* `TradeLog`, the rows; `logTrades`, `logTicks`, `record`;
* `TradeLog.tradesText`, `TradeLog.ticksText`, the files.
-/

namespace Backtest

open Decimal

/-- A closed trade and the pass that made it. -/
structure TradeRow (α : Type) where
  simulation : Nat
  sample : Sample
  trade : Trade α

/-- A tick that a trade observed. -/
structure TickRow (α : Type) where
  simulation : Nat
  trade : Int
  tick : Tick α

/-- The rows written so far. -/
structure TradeLog (α : Type) where
  trades : List (TradeRow α)
  ticks : List (TickRow α)

namespace TradeLog

section

variable {α : Type}

/-- No rows yet. -/
def empty : TradeLog α := ⟨[], []⟩

/-- The rows of the closed trades of a simulation. -/
def tradeRows (s : Simulation α) : List (TradeRow α) := s.closedTrades.map fun r => ⟨s.id, s.sample, r⟩

/-- The rows of the ticks that the closed trades of a simulation observed. -/
def tickRows (s : Simulation α) : List (TickRow α) :=
  s.closedTrades.flatMap fun r => r.ticks.map fun t => ⟨s.id, r.id, t⟩

/-- The log with a row for each closed trade of a simulation. -/
def logTrades (l : TradeLog α) (s : Simulation α) : TradeLog α :=
  { l with trades := l.trades ++ tradeRows s }

/-- The log with a row for each tick that a closed trade of a simulation observed. -/
def logTicks (l : TradeLog α) (s : Simulation α) : TradeLog α :=
  { l with ticks := l.ticks ++ tickRows s }

/-- The log with both tables written for a simulation. -/
def record (l : TradeLog α) (s : Simulation α) : TradeLog α := (l.logTrades s).logTicks s

end

/-- A line of fields. -/
def line (fields : List String) : String := String.intercalate "," fields ++ "\r\n"

/-- The header of the table of trades. -/
def tradeHeader : List String :=
  ["simulation_id", "trade_id", "in_sample", "long", "opened_at", "closed_at", "open_price",
    "close_price", "open_spread", "close_spread", "profit"]

/-- The header of the table of ticks. -/
def tickHeader : List String := ["simulation_id", "trade_id", "bid", "ask", "time"]

/-- The fields of a row of the table of trades. -/
def tradeFields (r : TradeRow Float) : List String :=
  toString r.simulation :: toString r.trade.id :: Trade.flag (r.sample == .inSample) :: r.trade.fields

/-- The fields of a row of the table of ticks. -/
def tickFields (r : TickRow Float) : List String :=
  [toString r.simulation, toString r.trade, floatText r.tick.bid, floatText r.tick.ask,
    r.tick.time.iso]

/-- The file of trades. -/
def tradesText (l : TradeLog Float) : String :=
  String.join (line tradeHeader :: l.trades.map fun r => line (tradeFields r))

/-- The file of ticks. -/
def ticksText (l : TradeLog Float) : String :=
  String.join (line tickHeader :: l.ticks.map fun r => line (tickFields r))

end TradeLog

end Backtest
