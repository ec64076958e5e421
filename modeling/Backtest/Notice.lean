import Backtest.Decimal.FloatText
import Backtest.Fault
import Backtest.Moment.Instant

/-!
# Notices

What a run tells its user as it goes on, by what happened. A notice has a level and a wording.

* `Level`, with its name and weight; `Stage`, the stages of a walk; `Notice`;
* `Notice.level`, `Notice.text`.
-/

namespace Backtest

open Decimal

/-- How much a notice matters. -/
inductive Level
  | trace
  | debug
  | info
  | success
  | warning
  | error
  | critical
  deriving DecidableEq

namespace Level

/-- The name of a level. -/
def name : Level → String
  | .trace => "TRACE"
  | .debug => "DEBUG"
  | .info => "INFO"
  | .success => "SUCCESS"
  | .warning => "WARNING"
  | .error => "ERROR"
  | .critical => "CRITICAL"

/-- The weight of a level. -/
def weight : Level → Nat
  | .trace => 5
  | .debug => 10
  | .info => 20
  | .success => 25
  | .warning => 30
  | .error => 40
  | .critical => 50

/-- All levels. -/
def all : List Level := [.trace, .debug, .info, .success, .warning, .error, .critical]

end Level

/-- The stages of a walk. -/
inductive Stage
  | fillingCharts
  | advancingToSunday
  | walkingForward
  | collectingInSample (step : Nat)
  | optimizing
  | applyingInSample
  | collectingOutOfSample (step : Nat)
  | executing

/-- The title of a stage. -/
def Stage.title : Stage → String
  | .fillingCharts => "FILLING CHARTS"
  | .advancingToSunday => "ADVANCING TO NEXT SUNDAY"
  | .walkingForward => "WALKING FORWARD TO NEXT IN SAMPLE"
  | .collectingInSample step => s!"GENERATING IN SAMPLE #{step}"
  | .optimizing => "OPTIMIZING"
  | .applyingInSample => "APPLYING IN SAMPLE TO CHARTS"
  | .collectingOutOfSample step => s!"GENERATING OUT OF SAMPLE #{step}"
  | .executing => "EXECUTING"

/-- The name of a sample in capitals. -/
def Sample.title : Sample → String
  | .inSample => "IN SAMPLE"
  | .outOfSample => "OUT OF SAMPLE"

/-- What can stop a walk before its last step. -/
inductive Failure
  | optimization
  | execution
  deriving DecidableEq

/-- The word of a failure. -/
def Failure.word : Failure → String
  | .optimization => "optimization"
  | .execution => "execution"

/-- Something that a run tells. -/
inductive Notice
  /-- A pass was given up at a drawdown. -/
  | breach (simulation : Nat) (sample : Sample) (deepest : Float) (ticks : Nat)
  | finalScore (score profit : Float) (long short : Nat) (sample : Sample)
  | ticksProcessed (ticks : Nat) (deepest : Float)
  | trial (number : Nat)
  | searchFailed (successful : Nat) (attempted : Int) (best : Float)
  | searchBest (score : Float) (successful : Nat) (attempted : Int)
  | maxSteps (steps : Int)
  | stage (part : Stage)
  | advancedTo (instant : Instant)
  | window (sample : Sample) (first last : Instant) (ticks : Nat)
  | stepFailed (failure : Failure) (step : Nat)
  | chartTicks (chart : String) (ticks : Nat)
  | scores
  | stepScore (step : Nat) (score : Float)
  | configFailed (path reason : String)
  | runStarted (run hash : String)
  | pipCalculation (jpyQuote : Bool)
  | runAborted (reason : String)
  | runFailed (step : Nat) (failure : Failure)
  | runFinished (run : String) (seconds : Float)
  | postRun (command : String)
  | postRunExit (code : Nat)
  | postRunFailed (output : String)

namespace Notice

/-- The level of a notice. -/
def level : Notice → Level
  | .searchFailed .. | .stepFailed .. | .postRunFailed _ => .warning
  | .configFailed .. | .runAborted _ | .runFailed .. => .error
  | _ => .info

/-- The wording of a notice. -/
def text : Notice → String
  | .breach id sample deepest ticks =>
    s!"Simulation {id} ({sample.label}) exceeded max drawdown {fixedText 2 deepest}% after " ++
      s!"{ticks} ticks, aborting"
  | .finalScore score profit long short sample =>
    s!"Final score: {fixedText 1 score} - Profit: {fixedText 1 profit} - Total trades: " ++
      s!"{long}/{short} ({sample.label})"
  | .ticksProcessed ticks deepest =>
    s!"Ticks processed: {ticks} - Max DD: {fixedText 2 deepest}%"
  | .trial number => s!"-------------------- TEST {number} --------------------"
  | .searchFailed successful attempted best =>
    s!"Optimization failed: {successful} of {attempted} trials succeeded, best score " ++
      floatText best
  | .searchBest score successful attempted =>
    s!"Best score: {floatText score} ({successful} of {attempted} trials succeeded)"
  | .maxSteps steps => s!"Simulating a maximum of {steps} steps"
  | .stage part => s!"==================== {part.title} ===================="
  | .advancedTo instant => s!"Advanced to {instant.iso}"
  | .window sample first last ticks =>
    s!"{sample.title}: {first.iso} - {last.iso} ({ticks} ticks)"
  | .stepFailed .optimization step =>
    s!"Algorithm failed on in sample optimization (step {step})"
  | .stepFailed .execution step =>
    s!"Algorithm failed on out of sample execution (step {step})"
  | .chartTicks chart ticks => s!"Chart {chart} processed {ticks} ticks"
  | .scores => "SCORES:"
  | .stepScore step score => s!"{step}: {floatText score}"
  | .configFailed path reason => s!"Failed to load config {path}: {reason}"
  | .runStarted run hash => s!"Run {run} (config {hash})"
  | .pipCalculation true => "Using JPY pip calculation"
  | .pipCalculation false => "Using regular pip calculation"
  | .runAborted reason => s!"Walk-forward run aborted: {reason}"
  | .runFailed step failure => s!"Walk-forward run failed at step {step} ({failure.word})"
  | .runFinished run seconds => s!"Run {run} finished in {fixedText 1 seconds}s"
  | .postRun command => s!"Executing post-run command: {command}"
  | .postRunExit code => s!"Post-run command exited with {code}"
  | .postRunFailed output => s!"Post-run command failed: {output}"

end Notice

end Backtest
