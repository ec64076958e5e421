import Backtest.Chart.Definition
import Backtest.Path
import Backtest.SearchSpace.Definition
import Backtest.Settings
import Backtest.Text.UpperCase

/-!
# Configurations

What a walk is asked to do: its tick file and strategy, its charts and variables as they are defined,
the lengths of its samples, the numbers of trials and steps, and where its output goes.

* `Configuration`; `Configuration.toTable`, its entries by name;
* `Plan`, what the definitions say; `Configuration.plan`, the plan, unless something is wrong with it;
* `Configuration.ofTable`, the configuration of entries: each value is brought to its type, paths are
  seen from a directory if one is given, and the plan must be sound.
-/

namespace Backtest

open Text Decimal

/-- What a walk is asked to do. -/
structure Configuration where
  csvPath : String
  strategyPath : String
  chartText : String
  variableText : String
  inSample : String
  outOfSample : String
  iterations : Int
  steps : Int
  postRunCommand : Option String
  deposit : Float
  drawdownLimit : Float
  /-- Whether prices are quoted in yen, if that is said. -/
  jpyQuote : Option Bool
  seed : Option Int
  outputDir : String
  auditLogPath : String
  logLevel : String

/-- What the definitions of a configuration say. -/
structure Plan where
  iterations : Nat
  steps : Nat
  inSampleDays : Nat
  outOfSampleDays : Nat
  charts : List (Chart Float)
  space : SearchSpace

namespace Configuration

/-- A text that may be missing. -/
def textOrNull : Option String → Value
  | some s => .text s
  | none => .null

/-- The entries of a configuration. -/
def toTable (c : Configuration) : Table Value :=
  [("csv_path", .text c.csvPath), ("strategy_path", .text c.strategyPath),
    ("charts", .text c.chartText), ("variables", .text c.variableText),
    ("in_sample", .text c.inSample),
    ("out_of_sample", .text c.outOfSample), ("iterations", .whole c.iterations),
    ("steps", .whole c.steps), ("post_run_command", textOrNull c.postRunCommand),
    ("deposit", .real c.deposit), ("drawdown_limit", .real c.drawdownLimit),
    ("jpy_quote", (c.jpyQuote.map Value.bool).getD .null),
    ("seed", (c.seed.map Value.whole).getD .null), ("output_dir", .text c.outputDir),
    ("audit_log_path", .text c.auditLogPath), ("log_level", .text c.logLevel)]

/-- The settings of the passes; what is known about the quotes overrides what the configuration
says. -/
def settings (c : Configuration) (jpyQuote : Option Bool) : Except ConfigFault (Settings Float) :=
  Settings.of c.deposit c.drawdownLimit ((jpyQuote <|> c.jpyQuote).getD false)

/-- What the definitions say, unless something is wrong with them. -/
def plan (c : Configuration) : Except Fault Plan :=
  if c.steps < 1 then refuse .steps
  else if c.iterations < 1 then refuse .iterations
  else do
    let inSampleDays ← configured (sampleDays c.inSample)
    let outOfSampleDays ← configured (sampleDays c.outOfSample)
    let charts ← readCharts c.chartText
    if charts.isEmpty then refuse .noCharts
    else
      let space ← configured (readVariables c.variableText)
      return { iterations := c.iterations.toNat, steps := c.steps.toNat, inSampleDays,
               outOfSampleDays, charts, space }

/-! ### Values brought to their types -/

/-- The entry of a required key. -/
def required (t : Table Value) (key : String) : Except Fault Value :=
  match t.get? key with
  | none | some .null => refuse (.missingKey key)
  | some v => .ok v

/-- The entry of a key, or a default. -/
def optional (t : Table Value) (key : String) (default : Value) : Value := (t.get? key).getD default

/-- The text that ASCII bytes are. -/
def asciiText? (bs : List UInt8) : Option String :=
  if bs.all (· < 128) then some (String.ofList (bs.map fun b => Char.ofNat b.toNat)) else none

/-- A value as a whole number: truth values are one and zero, and a float loses its fraction. -/
def toWhole (key : String) (v : Value) : Except Fault Int :=
  let invalid : Except Fault Int := v.displayed >>= fun s => refuse (.invalidValue key s)
  match v with
  | .bool b => .ok b.toInt
  | .whole n => .ok n
  | .real x =>
    match wholePart? x with
    | some n => .ok n
    | none => if x.isNaN then invalid else .error (.range .infiniteInteger)
  | .text s => (readInt? s).elim invalid .ok
  | .bytes bs => ((asciiText? bs).bind readInt?).elim invalid .ok
  | _ => invalid

/-- A value as a float. -/
def toReal (key : String) (v : Value) : Except Fault Float :=
  let invalid : Except Fault Float := v.displayed >>= fun s => refuse (.invalidValue key s)
  match v with
  | .bool b => .ok (if b then 1.0 else 0.0)
  | .whole n => (ofInt? n).elim (.error (.range .integerTooLarge)) .ok
  | .real x => .ok x
  | .text s => (readFloat? s).elim invalid .ok
  | .bytes bs => ((asciiText? bs).bind readFloat?).elim invalid .ok
  | _ => invalid

/-- A value that is a truth value or nothing. -/
def toFlag : Value → Except Fault (Option Bool)
  | .null => .ok none
  | .bool b => .ok (some b)
  | v => v.quotedForm >>= fun s => refuse (.jpyQuote s)

/-- A value that is a whole number or nothing. -/
def toSeed : Value → Except Fault (Option Int)
  | .null => .ok none
  | v => (toWhole "seed" v).map some

/-- A command, if one is given. -/
def toCommand (v : Value) : Except Fault (Option String) :=
  if v.truthy then v.displayed.map some else .ok none

/-- A path, seen from a directory if one is given. -/
def resolved (base : Option Path) (text : String) : String :=
  let p := Path.read text
  (base.elim p (·.join p)).shown

/-- The configuration of entries before its plan is made. -/
def fields (base : Option Path) (t : Table Value) : Except Fault Configuration := do
  let csvPath ← (← required t "csv_path").displayed
  let strategyPath ← (← required t "strategy_path").displayed
  let chartText ← (← required t "charts").displayed
  let variableText ← (← required t "variables").displayed
  let inSample ← (← required t "in_sample").displayed
  let outOfSample ← (← required t "out_of_sample").displayed
  let iterations ← toWhole "iterations" (← required t "iterations")
  let steps ← toWhole "steps" (← required t "steps")
  let postRunCommand ← toCommand (optional t "post_run_command" .null)
  let deposit ← toReal "deposit" (optional t "deposit" (.real Settings.usualDeposit))
  let drawdownLimit ← toReal "drawdown_limit" (optional t "drawdown_limit" (.real Settings.usualLimit))
  let jpyQuote ← toFlag (optional t "jpy_quote" .null)
  let seed ← toSeed (optional t "seed" .null)
  let outputDir ← (optional t "output_dir" (.text "output")).displayed
  let auditLogPath ← (optional t "audit_log_path" (.text "output/audit.log")).displayed
  let logLevel ← (optional t "log_level" (.text "INFO")).displayed
  return {
    csvPath := resolved base csvPath
    strategyPath := resolved base strategyPath
    chartText, variableText, inSample, outOfSample, iterations, steps, postRunCommand, deposit
    drawdownLimit, jpyQuote, seed
    outputDir := resolved base outputDir
    auditLogPath := resolved base auditLogPath
    logLevel := upperCase logLevel }

/-- The configuration of entries, if its plan and its settings are sound. -/
def ofTable (base : Option Path) (t : Table Value) : Except Fault Configuration := do
  let c ← fields base t
  let _ ← c.plan
  let _ ← configured (c.settings none)
  return c

end Configuration

end Backtest
