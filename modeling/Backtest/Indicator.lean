import Backtest.Candle

/-!
# Indicators

A number computed from the completed candles of a chart each time a candle opens. The one kind there
is averages the closing bids of the newest completed candles.
-/

namespace Backtest

open Text

/-- The kinds of indicators. -/
inductive IndicatorKind
  /-- The simple moving average. -/
  | sma
  deriving DecidableEq

/-- The word of a kind. -/
def IndicatorKind.word : IndicatorKind → String
  | .sma => "sma"

/-- The kind that a word names. -/
def IndicatorKind.ofWord? (word : String) : Option IndicatorKind :=
  if word == "sma" then some .sma else none

/-- An indicator: its latest value and the latest value that was published. -/
structure Indicator (α : Type) where
  name : String
  lookback : Nat
  kind : IndicatorKind
  value : Option α
  published : Option α

namespace Indicator

variable {α : Type} [Price α]

/-- An indicator without a value yet. -/
def new (name : String) (lookback : Nat) (kind : IndicatorKind := .sma) : Indicator α :=
  { name, lookback, kind, value := none, published := none }

/-- The mean closing bid of the `lookback` newest completed candles; the first candle is still being
built. -/
def average (lookback : Nat) (candles : List (Candle α)) : α :=
  Price.sum ((candles.tail.take lookback).map (·.closeBid)) / Price.ofNat lookback

/-- The indicator recomputed from the candles, and published if the chart is active. -/
def update (i : Indicator α) (candles : List (Candle α)) (active : Bool) : Indicator α :=
  let x := match i.kind with
    | .sma => average i.lookback candles
  { i with value := some x, published := if active then some x else i.published }

/-- An indicator in messages. -/
def shown (i : Indicator α) : String :=
  s!"Indicator(name={quoted i.name}, lookback={i.lookback}, kind={i.kind.word})"

end Indicator

end Backtest
