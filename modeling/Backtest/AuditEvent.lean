import Backtest.Configuration
import Backtest.Notice

/-!
# Audit events

What a run notes for later, by what happened. An event has a name, belongs to a step or to none, and
has fields of its own.

* `AuditEvent`; `name`, `step?`, `fields`.
-/

namespace Backtest

/-- The name of a sample in an event. -/
def Sample.words : Sample → String
  | .inSample => "in sample"
  | .outOfSample => "out of sample"

/-- Something that a run notes. -/
inductive AuditEvent
  | configLoaded (config : Configuration) (jpyQuote : Bool)
  | runStarted (plan : Plan)
  /-- The ticks of a sample were gathered. -/
  | window (sample : Sample) (step : Nat) (first last : Instant) (ticks : Nat)
  /-- A search found the parameters of a step. -/
  | optimized (step : Nat) (score : Float) (successful : Nat) (attempted : Int)
      (parameters : Parameters)
  /-- The parameters of a step were traded out of sample. -/
  | executed (step : Nat) (score : Float) (parameters : Parameters)
  | runFailed (step : Nat) (failure : Failure)
  /-- The run came to its end, at a failure if there was one. -/
  | runFinished (scores : List Float) (failed : Option (Nat × Failure))

namespace AuditEvent

/-- The name of an event. -/
def name : AuditEvent → String
  | .configLoaded .. => "config_loaded"
  | .runStarted _ => "run_started"
  | .window .. => "window"
  | .optimized .. => "optimized"
  | .executed .. => "executed"
  | .runFailed .. => "run_failed"
  | .runFinished .. => "run_finished"

/-- The step to which an event belongs. -/
def step? : AuditEvent → Option Nat
  | .configLoaded .. | .runStarted _ => none
  | .window _ step .. | .optimized step .. | .executed step .. | .runFailed step _ => some step
  | .runFinished _ failed => failed.map (·.1)

/-- The fields of an event. -/
def fields : AuditEvent → Table Value
  | .configLoaded config jpyQuote =>
    [("config", .record config.toTable), ("jpy_quote", .bool jpyQuote)]
  | .runStarted plan =>
    [("steps", .whole plan.steps), ("iterations", .whole plan.iterations),
      ("in_sample_days", .whole plan.inSampleDays),
      ("out_of_sample_days", .whole plan.outOfSampleDays)]
  | .window sample _ first last ticks =>
    [("label", .text sample.words), ("start", .text first.iso), ("end", .text last.iso),
      ("ticks", .whole ticks)]
  | .optimized _ score successful attempted parameters =>
    [("score", .real score), ("successful_trials", .whole successful),
      ("attempted_trials", .whole attempted), ("parameters", .record parameters)]
  | .executed _ score parameters => [("score", .real score), ("parameters", .record parameters)]
  | .runFailed _ failure => [("reason", .text failure.word)]
  | .runFinished scores failed =>
    [("scores", .list (scores.map .real)),
      ("failure", match failed with
        | some (_, failure) => .text failure.word
        | none => .null)]

end AuditEvent

end Backtest
