import Backtest.Indicator
import Backtest.Table

/-!
# Charts

A chart gathers ticks into candles of a fixed period. A chart of `n` candles keeps `n + 1` of them,
newest first: the one being built and the `n` completed before it. When a candle opens on a full
chart its indicators are recomputed. A chart publishes candles and indicators only while it is active.

* `Period`, the lengths of candles; `Chart`; `Chart.new`, an empty chart;
* `Chart.process`, the chart after a tick; `Chart.processAll`, after several;
* `Chart.isFull`, `Chart.activate`, `Chart.publishedCandles`, `Chart.publishedIndicators`;
* `Charts.process`, `Charts.full`, the same for the charts of one run.
-/

namespace Backtest

open Text

/-- The lengths that candles can have. -/
inductive Period
  | m1
  | m5
  | m15
  | m30
  | h1
  | h4
  deriving DecidableEq

namespace Period

/-- The word of a period. -/
def word : Period → String
  | .m1 => "M1"
  | .m5 => "M5"
  | .m15 => "M15"
  | .m30 => "M30"
  | .h1 => "H1"
  | .h4 => "H4"

/-- The length of a period in seconds. -/
def seconds : Period → Nat
  | .m1 => 60
  | .m5 => 300
  | .m15 => 900
  | .m30 => 1800
  | .h1 => 3600
  | .h4 => 14400

/-- All periods. -/
def all : List Period := [.m1, .m5, .m15, .m30, .h1, .h4]

/-- The period that a word names. -/
def ofWord (word : String) : Except Fault Period :=
  match all.find? fun p => p.word == word with
  | some p => .ok p
  | none => .error (.config (.unknownPeriod word))

end Period

/-- The kinds of charts. -/
inductive ChartKind
  | candlestick
  deriving DecidableEq

/-- The word of a kind of chart. -/
def ChartKind.word : ChartKind → String
  | .candlestick => "candlestick"

/-- The most candles that a chart can keep. -/
def maxCapacity : Nat := Nat.pow 2 63 - 1

/-- Numbers of candles that cannot be counted: beyond the signed numbers of 64 bits. -/
def isUncountable (count : Int) : Bool := count > maxCapacity || count < -Int.pow 2 63

/-- A chart: its candles, newest first, and its indicators. -/
structure Chart (α : Type) where
  name : String
  period : Period
  kind : ChartKind
  /-- How many candles are kept, the one being built included. -/
  capacity : Nat
  candles : List (Candle α)
  indicators : List (Indicator α)
  lastTick : Option (Tick α)
  active : Bool
  ticksProcessed : Nat

namespace Chart

variable {α : Type} [Price α]

/-- An empty chart that keeps `capacity` candles. -/
def new (name : String) (period : Period) (capacity : Nat) : Chart α :=
  { name, period, kind := .candlestick, capacity, candles := [], indicators := [],
    lastTick := none, active := false, ticksProcessed := 0 }

/-- An empty chart of `count` completed candles of the period that a word names. -/
def ofWord (name period : String) (count : Int) : Except Fault (Chart α) := do
  let period ← Period.ofWord period
  if isUncountable (count + 1) then .error (.range .tooManyCandles)
  else if count + 1 < 0 then .error .negativeCapacity
  else return new name period (count + 1).toNat

/-- How many completed candles the chart is for. -/
def candleCount (c : Chart α) : Int := (c.capacity : Int) - 1

/-- Whether the chart has all its candles. -/
def isFull (c : Chart α) : Bool := c.candles.length == c.capacity

/-- The chart, publishing from now on. -/
def activate (c : Chart α) : Chart α := { c with active := true }

/-- The chart with one more indicator. -/
def attach (c : Chart α) (i : Indicator α) : Chart α := { c with indicators := c.indicators ++ [i] }

/-- The period that a tick falls into. -/
def periodId (c : Chart α) (t : Tick α) : Int := Int.fdiv t.epochSeconds c.period.seconds

/-- The chart with the candle of a tick opened, the oldest dropped if there are too many. -/
def openCandle (c : Chart α) (t : Tick α) (id : Int) : Chart α :=
  let c := { c with candles := (Candle.ofTick t id :: c.candles).take c.capacity }
  if c.isFull then
    { c with indicators := c.indicators.map fun i => i.update c.candles c.active }
  else c

/-- The candles of the chart before a candle opens: the newest closes with the last tick seen. -/
def closedCandles (c : Chart α) : List (Candle α) :=
  match c.candles, c.lastTick with
  | k :: ks, some t => k.closeWith t :: ks
  | ks, _ => ks

/-- The candles after a tick is taken in: it opens a candle when it is the first or falls into a
later period than the newest candle, and else extends that candle. -/
def takeIn (c : Chart α) (t : Tick α) : Chart α :=
  let id := c.periodId t
  match c.candles with
  | [] => c.openCandle t id
  | k :: ks =>
    if k.periodId < id then { c with candles := c.closedCandles }.openCandle t id
    else { c with candles := k.extend t :: ks }

/-- The chart after a tick. -/
def process (c : Chart α) (t : Tick α) : Chart α :=
  { c.takeIn t with lastTick := some t, ticksProcessed := c.ticksProcessed + 1 }

/-- The chart after several ticks. -/
def processAll (c : Chart α) (ts : List (Tick α)) : Chart α := ts.foldl process c

/-- The candles that a strategy sees: none until the chart is active. -/
def publishedCandles (c : Chart α) : List (Candle α) := if c.active then c.candles else []

/-- The published values of the indicators, by name. -/
def publishedIndicators (c : Chart α) : Table α :=
  c.indicators.foldl (fun t i => match i.published with
    | some x => t.put i.name x
    | none => t) []

/-- A chart in messages. -/
def shown (c : Chart α) : String :=
  s!"Chart(name={quoted c.name}, period={c.period.word}, candles={c.candles.length}/" ++
    s!"{c.capacity}, ticks_processed={c.ticksProcessed})"

end Chart

namespace Charts

variable {α : Type} [Price α]

/-- Every chart after a tick. -/
def process (cs : List (Chart α)) (t : Tick α) : List (Chart α) := cs.map (·.process t)

/-- Every chart after several ticks. -/
def processAll (cs : List (Chart α)) (ts : List (Tick α)) : List (Chart α) := ts.foldl process cs

/-- Whether every chart has all its candles. -/
def full (cs : List (Chart α)) : Bool := cs.all (·.isFull)

/-- Every chart, publishing from now on. -/
def activate (cs : List (Chart α)) : List (Chart α) := cs.map (·.activate)

end Charts

end Backtest
