import Backtest.Decimal.Reading
import Backtest.Strategy

/-!
# Strategies made of rules

A strategy given as a list of rules, each with conditions and an answer: at a tick the first rule all
of whose conditions hold gives the answer. A condition compares two operands; one that has no value,
such as an indicator that is not published, makes it false. Such strategies are for trying the program
out: a session loads scripts.

* `Operand`, with its value at a tick; `Condition`, `Rule`;
* `Strategy.ofRules`, the strategy of a list of rules.
-/

namespace Backtest

/-- A field of a candle. -/
inductive CandleField
  | openBid
  | openAsk
  | highBid
  | highAsk
  | lowBid
  | lowAsk
  | periodId
  | closeBid
  | closeAsk
  | volume

/-- The names of the fields of a candle. -/
def CandleField.names : Table CandleField :=
  [("open_bid", .openBid), ("open_ask", .openAsk), ("high_bid", .highBid), ("high_ask", .highAsk),
    ("low_bid", .lowBid), ("low_ask", .lowAsk), ("period_id", .periodId), ("close_bid", .closeBid),
    ("close_ask", .closeAsk), ("volume", .volume)]

/-- The value of a field. -/
def CandleField.value (c : Candle Float) : CandleField → Value
  | .openBid => .real c.openBid
  | .openAsk => .real c.openAsk
  | .highBid => .real c.highBid
  | .highAsk => .real c.highAsk
  | .lowBid => .real c.lowBid
  | .lowAsk => .real c.lowAsk
  | .periodId => .whole c.periodId
  | .closeBid => .real c.closeBid
  | .closeAsk => .real c.closeAsk
  | .volume => .whole c.volume

/-- A value that a market view shows. -/
inductive ViewField
  | bid
  | ask
  | spread
  | hasOpenTrades
  | openTrades
  | closedTrades
  | balance
  | equity

/-- The names of what a market view shows. -/
def ViewField.names : Table ViewField :=
  [("bid", .bid), ("ask", .ask), ("spread", .spread), ("has_open_trades", .hasOpenTrades),
    ("open_trades", .openTrades), ("closed_trades", .closedTrades), ("balance", .balance),
    ("equity", .equity)]

/-- The value of what a market view shows. -/
def ViewField.value (v : MarketView Float) : ViewField → Value
  | .bid => .real v.tick.bid
  | .ask => .real v.tick.ask
  | .spread => .real v.tick.spread
  | .hasOpenTrades => .bool v.hasOpenTrades
  | .openTrades => .whole v.openTrades
  | .closedTrades => .whole v.closedTrades
  | .balance => .real v.balance
  | .equity => .real v.equity

/-- One side of a comparison. -/
inductive Operand
  /-- A fixed value; nothing if it is none. -/
  | constant (v : Option Value)
  /-- A published indicator. -/
  | indicator (name : String)
  /-- A parameter of the pass. -/
  | parameter (name : String)
  /-- How often the strategy has been asked in this pass. -/
  | calls
  /-- How often the strategy has been asked, modulo a number. -/
  | callsModulo (n : Int)
  /-- A field of a published candle; a negative index counts from the oldest. -/
  | candle (chart : String) (index : Int) (field : CandleField)
  /-- What the market view shows. -/
  | shown (field : ViewField)

/-- The item of a list at an index; a negative index counts from the end. -/
def itemAt? {β : Type} (xs : List β) (i : Int) : Option β :=
  if 0 ≤ i then xs[i.toNat]? else if 0 ≤ (xs.length : Int) + i then xs[((xs.length : Int) + i).toNat]?
  else none

/-- The operand that a text names: `ind:NAME`, `par:NAME`, `call`, `call:N`,
`candle:CHART:INDEX:FIELD`, or what a market view shows. -/
def Operand.ofText (text : String) : Operand :=
  match Text.splitOn ':' text with
  | ["ind", name] => .indicator name
  | ["par", name] => .parameter name
  | ["call"] => .calls
  | ["call", n] => match Decimal.readInt? n with
    | some n => .callsModulo n
    | none => .constant none
  | ["candle", chart, index, field] =>
    match Decimal.readInt? index, CandleField.names.get? field with
    | some i, some f => .candle chart i f
    | _, _ => .constant none
  | _ => match ViewField.names.get? text with
    | some f => .shown f
    | none => .constant none

/-- The operand that a value stands for: a text names one, anything else is itself. -/
def Operand.ofValue : Value → Operand
  | .text s => .ofText s
  | v => .constant v.given?

/-- The value of an operand at a tick. -/
def Operand.value (v : MarketView Float) (parameters : Parameters) (calls : Nat) :
    Operand → Option Value
  | .constant c => c
  | .indicator name => (v.indicators.get? name).map .real
  | .parameter name => (parameters.get? name).bind Value.given?
  | .calls => some (.whole calls)
  | .callsModulo n => some (.whole (Int.fmod calls n))
  | .candle chart index field => do
    let candles ← v.charts.get? chart
    let c ← itemAt? candles index
    return field.value c
  | .shown field => some (field.value v)

/-- A comparison of two operands. -/
structure Condition where
  left : Operand
  comparison : Comparison
  right : Operand

/-- Whether a condition holds at a tick. -/
def Condition.holds (c : Condition) (v : MarketView Float) (parameters : Parameters) (calls : Nat) :
    Except Fault Bool :=
  match c.left.value v parameters calls, c.right.value v parameters calls with
  | some a, some b => c.comparison.holds a b
  | _, _ => .ok false

/-- Conditions and the answer when all of them hold. -/
structure Rule where
  conditions : List Condition
  answer : Value

/-- The answer of the first rule that applies; nothing if none does. The conditions after one that
does not hold are not looked at. -/
def Rule.firstAnswer (rules : List Rule) (v : MarketView Float) (parameters : Parameters)
    (calls : Nat) : Except Fault Value := do
  let applies (r : Rule) := r.conditions.allM fun c => c.holds v parameters calls
  return ((← rules.findM? applies).map Rule.answer).getD .null

/-- The strategy that follows a list of rules. -/
def Strategy.ofRules (rules : List Rule) : Strategy Float :=
  .ofRule (fun parameters => (parameters, 0)) fun v (parameters, calls) =>
    (Rule.firstAnswer rules v parameters (calls + 1), (parameters, calls + 1))

end Backtest
