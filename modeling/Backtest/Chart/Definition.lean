import Backtest.Chart
import Backtest.Definition

/-!
# Chart definitions

A chart is defined by a line such as `candlestick,M1,60|sma,12:sma,30`: the kind, the period and the
number of completed candles, and after a bar the indicators between colons, each with its kind and
its lookback. The chart is named `candlestick_M1` and its indicators `candlestick_M1_sma_12` and so
on.

* `Chart.ofLine`, the chart of a line; `Indicator.ofText`, an indicator of a chart;
* `readCharts`, the charts of a text, in order.
-/

namespace Backtest

open Text

/-- A configuration fault stops the reading. -/
def refuse {β : Type _} (f : ConfigFault) : Except Fault β := .error (.config f)

/-- A step that can only fail by a configuration fault. -/
def configured {β : Type _} (x : Except ConfigFault β) : Except Fault β := x.mapError .config

variable {α : Type} [Price α]

/-- The indicator that a text defines on a chart of the given name and number of completed candles. -/
def Indicator.ofText (chartName : String) (candles : Int) (text : String) :
    Except Fault (Indicator α) :=
  match parts ',' text with
  | [kind, lookback] => do
    let n ← configured (readWhole "indicator lookback" lookback)
    if n < 1 then refuse .indicatorCandles
    else if n > candles then refuse (.lookbackTooLong n candles)
    else
      let name ← configured (checkName s!"{chartName}_{kind}_{n}")
      match IndicatorKind.ofWord? kind with
      | some kind => return Indicator.new name n.toNat kind
      | none => refuse (.unknownIndicatorType kind)
  | _ => refuse (.indicatorParts text)

/-- The part of a line before its first bar, and the part behind it. -/
def splitAtBar (line : String) : String × String :=
  let cs := line.toList
  (String.ofList (cs.takeWhile (· != '|')), String.ofList ((cs.dropWhile (· != '|')).drop 1))

/-- The texts of the indicators of a line: the pieces between colons that are not blank. -/
def indicatorTexts (text : String) : List String :=
  (splitOn ':' text).filter fun t => !(strip t).isEmpty

/-- The chart that a line defines. -/
def Chart.ofLine (line : String) : Except Fault (Chart α) :=
  let (head, tail) := splitAtBar line
  match parts ',' head with
  | [kind, period, count] => do
    let n ← configured (readWhole "chart candle count" count)
    if n < 1 then refuse .chartCandles
    else if kind != ChartKind.candlestick.word then refuse (.unknownChartType kind)
    else
      let name ← configured (checkName s!"{kind}_{period}")
      let chart ← Chart.ofWord name period n
      let indicators ← (indicatorTexts tail).mapM (Indicator.ofText name n)
      return { chart with indicators }
  | _ => refuse (.chartParts line)

/-- The charts that a text defines, in order. -/
def readCharts (text : String) : Except Fault (List (Chart α)) :=
  (definitionLines text).mapM Chart.ofLine

end Backtest
