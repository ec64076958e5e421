import Backtest.Strategy

/-!
# Scripted strategies

A script has variables, which the parameters of a pass may set, and hooks. It is loaded afresh
whenever it is set up; before that, and after it is torn down, it cannot be asked.

* `Script`, the variables and hooks; `Script.strategy`, the strategy it defines;
* `Script.movingAverageCross`, which follows the crossing of two moving averages, and four small
  scripts; `Script.named?`, the scripts by name.
-/

namespace Backtest

/-- A script. It may lack each of its hooks. -/
structure Script where
  /-- The values of the script's variables. -/
  Variables : Type
  /-- The variables of a fresh script, with the parameters set. -/
  load : Parameters → Variables
  /-- What the script does when it is set up. -/
  setup : Option (Parameters → Variables → Variables)
  /-- What the script answers at a tick. -/
  onTick : Option (MarketView Float → Variables → Except Fault Value × Variables)
  /-- Whether the script has a hook for the end of a pass; it does nothing. -/
  hasTeardown : Bool

namespace Script

/-- Sets the parameters as variables of a script; two names that every script has cannot be set. -/
def assignable (p : Parameters) : Except Fault Unit :=
  p.forM fun (name, v) =>
    if name == "__dict__" then .error (.misuse .readOnly)
    else if name == "__class__" then .error (.misuse (.notAClass v.kindWord))
    else .ok ()

/-- The hook of a name that is called: a parameter of that name hides it, and one that takes the place
of the search for missing names is called when there is none, but no parameter can be called. -/
def hook? {β : Type} (p : Parameters) (name : String) (hook : Option β) :
    Except Fault (Option β) :=
  match hook, p.has name, p.get? "__getattr__" with
  | _, true, _ | none, false, none => .ok none
  | none, false, some search => .error (.misuse (.notCallable search.kindWord))
  | some f, false, _ => .ok (some f)

/-- The strategy of a script that was found at a path. -/
def strategy (s : Script) (path : String) : Strategy Float where
  Memory := Option (Parameters × s.Variables)
  fresh := none
  setup p _ := do
    assignable p
    let vars := match ← hook? p "setup" s.setup with
      | some run => run p (s.load p)
      | none => s.load p
    match ← hook? p "on_tick" s.onTick with
    | some _ => return some (p, vars)
    | none => throw (.config (.scriptWithoutOnTick path))
  onTick v m :=
    match m, s.onTick with
    | some (p, vars), some ask =>
      let (answer, vars) := ask v vars
      (answer.bind Decision.ofValue, some (p, vars))
    | m, _ => (.error .notSetUp, m)
  teardown
    | some (p, _) => (hook? p "teardown" (guard s.hasTeardown)).map fun _ => none
    | none => .ok none

/-! ### The crossing of two moving averages -/

/-- The variables of the crossing script. -/
structure CrossVariables where
  /-- The least distance of the averages, in pips, at which a trade is opened. -/
  minGap : Value
  /-- Whether short trades are opened. -/
  allowShorts : Value
  /-- Whether the trend must agree with a trade. -/
  trendFilter : Value
  /-- The name of the fast average. -/
  fast : Value
  /-- The name of the slow average. -/
  slow : Value
  /-- The name of the average that shows the trend. -/
  trend : Value
  /-- The side on which the fast average was before. -/
  previous : Value
  /-- A parameter that hides the function of the absolute value. -/
  hidesAbs : Option Value

/-- A published indicator. Only a text names one, but anything that can be a key may be looked up. -/
def published (v : MarketView Float) : Value → Except Fault (Option Float)
  | .text name => .ok (v.indicators.get? name)
  | name => if name.canBeKey then .ok none else .error (.misuse (.unhashable name.kindWord))

/-- The answer when the fast average has crossed to a side, `gap` pips from the slow one. -/
def crossAnswer (v : MarketView Float) (vars : CrossVariables) (long : Bool) (gap : Float) :
    Except Fault String := do
  if v.hasOpenTrades then return "close"
  if let some hidden := vars.hidesAbs then throw (.misuse (.notCallable hidden.kindWord))
  if ← Comparison.below.holds (.real gap.abs) vars.minGap then return "noop"
  if !long && !vars.allowShorts.truthy then return "noop"
  let against := match ← published v vars.trend with
    | some trend => vars.trendFilter.truthy &&
        (if long then v.tick.bid < trend else trend < v.tick.bid)
    | none => false
  if against then return "noop"
  return if long then "long" else "short"

/-- What the crossing script answers: it acts when the fast average changes its side of the slow one,
closing if a trade is open and else opening one on the new side. -/
def crossOnTick (v : MarketView Float) (vars : CrossVariables) :
    Except Fault Value × CrossVariables :=
  match published v vars.fast, published v vars.slow with
  | .ok (some fast), .ok (some slow) =>
    let gap := (fast - slow) * 10000.0
    let long : Bool := 0.0 < gap
    let side := if long then "long" else "short"
    let crossed := vars.previous.given?.isSome && !vars.previous.same (.text side)
    let vars := { vars with previous := .text side }
    if crossed then ((crossAnswer v vars long gap).map .text, vars) else (.ok (.text "noop"), vars)
  | .error f, _ | _, .error f => (.error f, vars)
  | _, _ => (.ok (.text "noop"), vars)

/-- A script that follows the crossing of a fast and a slow moving average on five-minute candles,
filtered by the trend on hourly candles if so wished. -/
def movingAverageCross : Script where
  Variables := CrossVariables
  load p :=
    { minGap := (p.get? "min_gap").getD (.real 1.0)
      allowShorts := (p.get? "allow_shorts").getD (.bool true)
      trendFilter := (p.get? "trend_filter").getD (.bool false)
      fast := (p.get? "FAST").getD (.text "candlestick_M5_sma_10")
      slow := (p.get? "SLOW").getD (.text "candlestick_M5_sma_40")
      trend := (p.get? "TREND").getD (.text "candlestick_H1_sma_12")
      previous := (p.get? "_previous").getD .null
      hidesAbs := p.get? "abs" }
  setup := some fun _ vars => { vars with previous := .null }
  onTick := some crossOnTick
  hasTeardown := false

/-! ### Small scripts -/

/-- A script that goes long when it is first asked and then does nothing. -/
def bare : Script where
  Variables := Bool
  load p := ((p.get? "_done").map Value.truthy).getD false
  setup := none
  onTick := some fun _ done => (.ok (if done then .null else .text "long"), true)
  hasTeardown := false

/-- A script that cannot be asked. -/
def noOnTick : Script where
  Variables := Unit
  load _ := ()
  setup := some fun _ vars => vars
  onTick := none
  hasTeardown := false

/-- A script whose answer is no decision. -/
def hedge : Script where
  Variables := Unit
  load _ := ()
  setup := none
  onTick := some fun _ vars => (.ok (.text "hedge"), vars)
  hasTeardown := true

/-- The variables of the script that reads its parameters. -/
structure ThresholdVariables where
  threshold : Value
  side : Value
  /-- The threshold that the parameters set; its setup sets it first. -/
  seen : Option Value

/-- What the script that reads its parameters answers. -/
def thresholdAnswer (v : MarketView Float) (vars : ThresholdVariables) : Except Fault Value := do
  let bid := Value.real v.tick.bid
  if v.hasOpenTrades then
    let some seen := vars.seen | throw (.unsetVariable "_seen")
    return if ← Comparison.below.holds bid seen then .text "CLOSE_ALL" else .null
  else if ← Comparison.above.holds bid vars.threshold then
    return if vars.side.truthy then .text " Open_Short " else .text "LONG"
  else
    return .text "noop"

/-- A script that opens a trade above a threshold and closes it below. -/
def globals : Script where
  Variables := ThresholdVariables
  load p :=
    { threshold := (p.get? "threshold").getD (.real 1.0)
      side := (p.get? "side").getD (.whole 0)
      seen := p.get? "_seen" }
  setup := some fun p vars =>
    { vars with seen := some (if p.has "threshold" then vars.threshold else .real (-1.0)) }
  onTick := some fun v vars => (thresholdAnswer v vars, vars)
  hasTeardown := true

/-- The scripts by name. -/
def library : List (String × Script) :=
  [("sma_cross", movingAverageCross), ("bare", bare), ("no_on_tick", noOnTick), ("hedge", hedge),
    ("globals", globals)]

/-- The script of a name. -/
def named? (name : String) : Option Script := (library.find? (·.1 == name)).map (·.2)

end Script

end Backtest
