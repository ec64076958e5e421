import Backtest.Drawdown
import Backtest.Ids
import Backtest.MarketView
import Backtest.Trade

/-!
# Simulations

The account of one pass: its open and closed trades, its charts, and how far the equity has fallen.
A trade that is closed stays among the open ones until it is moved.

* `Simulation`, `Simulation.new`;
* `openTrade`, `observe`, `closeAll`, `closeAt`, `migrate`: what happens to trades;
* `balance`, `equity`, `profit`, `expectancy`: what the account is worth;
* `updateCharts`, `activateCharts`, `canTrade`, `updateDrawdown`, `exceeded`, `view`.
-/

namespace Backtest

/-- The account of one pass. -/
structure Simulation (α : Type) where
  id : Nat
  sample : Sample
  settings : Settings α
  charts : List (Chart α)
  drawdown : Drawdown α
  openTrades : List (Trade α)
  closedTrades : List (Trade α)

/-- What a pass is worth: nothing that can be compared if no trade was made, else pips per trade. -/
inductive Score (α : Type)
  | noTrades
  | expectancy (pips : α)

namespace Score

/-- A score as a float: that of no trades is below all others. -/
def toFloat : Score Float → Float
  | .noTrades => -(1.0 / 0.0)
  | .expectancy x => x

end Score

namespace Simulation

variable {α : Type}

/-- Close the trades of a list at a tick one after the other. The trades before one that is closed
already are closed, the others left as they are. -/
def closeEach (t : Tick α) : List (Trade α) → List (Trade α) × Option TradeFault
  | [] => ([], none)
  | r :: rs => match r.close t with
    | .error f => (r :: rs, some f)
    | .ok r =>
      let (rs, fault) := closeEach t rs
      (r :: rs, fault)

/-- Move the closed trades to the closed ones, in order. -/
def migrate (s : Simulation α) : Simulation α :=
  { s with
    closedTrades := s.closedTrades ++ s.openTrades.filter (·.isClosed)
    openTrades := s.openTrades.filter (·.isOpen) }

/-- Close every open trade at a tick and move them, or stop at the first that is closed already. -/
def closeAll (s : Simulation α) (t : Tick α) : Simulation α × Except TradeFault Unit :=
  let (trades, fault) := closeEach t s.openTrades
  let s := { s with openTrades := trades }
  match fault with
  | some f => (s, .error f)
  | none => (s.migrate, .ok ())

/-- Close the open trade at an index, without moving it. -/
def closeAt (s : Simulation α) (i : Nat) (t : Tick α) : Except Fault (Simulation α) :=
  match s.openTrades[i]? with
  | none => .error .indexOutOfRange
  | some r => match r.close t with
    | .error f => .error (.trade f)
    | .ok r => .ok { s with openTrades := s.openTrades.set i r }

/-- Open a trade at a tick. -/
def openTrade (s : Simulation α) (ids : Ids) (d : Direction) (t : Tick α) :
    Trade α × Simulation α × Ids :=
  let (id, ids) := ids.trade
  let r := Trade.opened id d t
  (r, { s with openTrades := s.openTrades ++ [r] }, ids)

/-- Let every open trade observe a tick. -/
def observe (s : Simulation α) (t : Tick α) : Simulation α :=
  { s with openTrades := s.openTrades.map (·.observe t) }

/-- The trade that was closed last. -/
def lastClosed (s : Simulation α) : Option (Trade α) := s.closedTrades.getLast?

/-- The number of long trades among the closed ones. -/
def closedLong (s : Simulation α) : Nat := s.closedTrades.countP (·.isLong)

/-- The number of short trades among the closed ones. -/
def closedShort (s : Simulation α) : Nat := s.closedTrades.length - s.closedLong

variable [Price α]

/-- A simulation without trades. -/
def new (id : Nat) (sample : Sample) (settings : Settings α) (charts : List (Chart α)) :
    Simulation α :=
  { id, sample, settings, charts, drawdown := Drawdown.start settings.deposit, openTrades := [],
    closedTrades := [] }

/-- Pips of trades in the currency of the account. -/
def adjust (s : Simulation α) (pips : α) : α :=
  if s.settings.jpyQuote then pips / Price.ofNat 100 else pips

/-- The profits of trades together, in pips. -/
def totalProfit (rs : List (Trade α)) : α := Price.sum (rs.map (·.profit))

/-- The deposit and the profit of the closed trades. -/
def balance (s : Simulation α) : α := s.settings.deposit + s.adjust (totalProfit s.closedTrades)

/-- The balance and the profit of the open trades. -/
def equity (s : Simulation α) : α := s.balance + s.adjust (totalProfit s.openTrades)

/-- The balance less the deposit. -/
def profit (s : Simulation α) : α := s.balance - s.settings.deposit

/-- The profit per closed trade; it is settled only when no trade is open. -/
def expectancy (s : Simulation α) : Except TradeFault (Score α) :=
  if !s.openTrades.isEmpty then .error .openTrades
  else if s.closedTrades.isEmpty then .ok .noTrades
  else .ok (.expectancy (s.profit / Price.ofNat s.closedTrades.length))

/-- Let every chart take in a tick. -/
def updateCharts (s : Simulation α) (t : Tick α) : Simulation α :=
  { s with charts := Charts.process s.charts t }

/-- Let every chart publish. -/
def activateCharts (s : Simulation α) : Simulation α :=
  { s with charts := Charts.activate s.charts }

/-- Whether every chart has all its candles. -/
def canTrade (s : Simulation α) : Bool := Charts.full s.charts

/-- Note the equity. -/
def updateDrawdown (s : Simulation α) : Simulation α :=
  { s with drawdown := s.drawdown.observe s.equity }

/-- Whether the equity has fallen too far. -/
def exceeded (s : Simulation α) : Bool := s.drawdown.deepest < s.settings.drawdownLimit

/-- What a strategy is shown at a tick. Of charts or indicators of one name the last stands. -/
def view (s : Simulation α) (t : Tick α) : MarketView α :=
  { tick := t
    hasOpenTrades := !s.openTrades.isEmpty
    openTrades := s.openTrades.length
    closedTrades := s.closedTrades.length
    balance := s.balance
    equity := s.equity
    charts := s.charts.foldl (fun table c => table.put c.name c.publishedCandles) []
    indicators := s.charts.foldl (fun table c => table.merge c.publishedIndicators) [] }

end Simulation

end Backtest
