import Backtest.AuditEvent
import Backtest.Search
import Backtest.Window

/-!
# Walks

A walk fills its charts, moves on to a Sunday and then goes step by step. A step gathers a window in
sample, searches it for parameters, shows it to the charts, gathers the window behind it, out of
sample, and trades the parameters found on it once. The next step starts one window out of sample
later, with charts that saw every tick before it and no trading.

* `Walk`, what a walk is made of; `WalkState`, where it stands; `andThen`, one attempt after another;
* `Walk.prepare`, `Walk.optimize`, `Walk.follow`, `Walk.execute`, the parts of a step; `Walk.step`;
* `Walk.steps`, the steps up to a failure; `Walk.run`, the whole walk; `WalkResult`, what it gives.
-/

namespace Backtest

/-- What a walk is made of. -/
structure Walk where
  plan : Plan
  source : TickSource
  /-- The strategy of every pass, or why none can be made. Each pass starts it afresh, from the memory that
  it has before its setup. So a maker whose strategies differ from call to call is left out. -/
  strategy : Except Fault (Strategy Float)
  settings : Settings Float

/-- Where a walk stands: its books, the events noted, the generator of its searches, the charts that
saw every tick before the cursor, and the cursor. -/
structure WalkState where
  books : Books
  events : Array AuditEvent
  generator : Twister
  pristine : List (Chart Float)
  cursor : Int

/-- What a step that was completed gives. -/
structure StepResult where
  step : Nat
  inSampleStart : Instant
  inSampleEnd : Instant
  inSampleTicks : Nat
  outOfSampleStart : Instant
  outOfSampleEnd : Instant
  outOfSampleTicks : Nat
  parameters : Parameters
  inSampleScore : Float
  score : Float

/-- What a walk gives: the steps completed, the step that failed and why, and the number of ticks that
each chart saw. -/
structure WalkResult where
  steps : List StepResult
  failed : Option (Nat × Failure)
  chartTicks : List Nat

/-- The scores of the steps. -/
def WalkResult.scores (r : WalkResult) : List Float := r.steps.map (·.score)

/-- Go on after an attempt that succeeded. -/
def andThen {σ β γ : Type} (attempt : σ × Except Fault β) (next : σ → β → σ × Except Fault γ) :
    σ × Except Fault γ :=
  match attempt with
  | (s, .error f) => (s, .error f)
  | (s, .ok x) => next s x

@[simp] theorem andThen_error {σ β γ : Type} (s : σ) (f : Fault)
    (next : σ → β → σ × Except Fault γ) : andThen (s, .error f) next = (s, .error f) := rfl

@[simp] theorem andThen_ok {σ β γ : Type} (s : σ) (x : β) (next : σ → β → σ × Except Fault γ) :
    andThen (s, .ok x) next = next s x := rfl

namespace WalkState

/-- The state at the start of a walk. -/
def start (books : Books) (generator : Twister) : WalkState :=
  { books, events := #[], generator, pristine := [], cursor := 0 }

/-- The state with a notice. -/
def tell (s : WalkState) (n : Notice) : WalkState := { s with books := s.books.tell n }

/-- The state with an event. -/
def note (s : WalkState) (e : AuditEvent) : WalkState := { s with events := s.events.push e }

/-- The state after the failure of a step. -/
def fail (s : WalkState) (step : Nat) (failure : Failure) : WalkState :=
  (s.tell (.stepFailed failure step)).note (.runFailed step failure)

end WalkState

/-- A window that holds ticks, with the times of its first and its last. -/
structure Stretch where
  window : Window
  first : Instant
  last : Instant

/-- A window as a stretch, if it holds ticks. -/
def Window.stretch? (w : Window) : Option Stretch :=
  match w.ticks.head?, w.ticks.getLast? with
  | some first, some last => some { window := w, first := first.time, last := last.time }
  | _, _ => none

/-- How a step ends. -/
inductive StepEnd
  | completed (result : StepResult)
  | failed (failure : Failure)

namespace Walk

/-- Gather the window of a sample. -/
def gather (w : Walk) (sample : Sample) (step : Nat) (start : Int) (days : Nat)
    (s : WalkState) :
    WalkState × Except Fault Stretch :=
  match collectWindow w.source start days with
  | .error f => (s, .error f)
  | .ok window => match window.stretch? with
    | none => (s, .error (.stream (.emptyWindow sample step)))
    | some t =>
      let count := window.ticks.length
      ((s.tell (.window sample t.first t.last count)).note
        (.window sample step t.first t.last count), .ok t)

/-- Move on to the start of a step; the first step starts where the walk stands. -/
def approach (w : Walk) (step : Nat) (s : WalkState) : WalkState × Except Fault Unit :=
  if step ≤ 1 then (s, .ok ())
  else
    let s := s.tell (.stage .walkingForward)
    let (pristine, result) := advanceCharts w.source s.cursor w.plan.outOfSampleDays s.pristine
    match result with
    | .error f => ({ s with pristine }, .error f)
    | .ok cursor => ({ s with pristine, cursor }, .ok ())

/-- The part of a step before its search: the walk moves on and the window in sample is gathered. -/
def prepare (w : Walk) (step : Nat) (s : WalkState) : WalkState × Except Fault Stretch :=
  andThen (w.approach step s) fun s _ =>
  let s := s.tell (.stage (.collectingInSample step))
  w.gather .inSample step s.cursor w.plan.inSampleDays s

/-- Search a window in sample for parameters, on charts. -/
def optimize (w : Walk) (step : Nat) (charts : List (Chart Float)) (inSample : Stretch)
    (s : WalkState) : WalkState × Except Fault (Option SearchResult) :=
  let s := s.tell (.stage .optimizing)
  let trial := Trial.pass w.strategy w.settings charts inSample.window.ticks
  let (found, result) := Search.run w.plan.space w.plan.iterations trial s.generator s.books
  let s := { s with books := found.books, generator := found.generator }
  match result with
  | .error f => (s, .error f)
  | .ok none => (s, .ok none)
  | .ok (some r) =>
    (s.note (.optimized step r.score r.successful r.attempted r.space.parameters), .ok (some r))

/-- The part of a step behind a search that found parameters: the window in sample is shown to the
charts and the window out of sample is gathered. -/
def follow (w : Walk) (step : Nat) (charts : List (Chart Float)) (inSample : Stretch)
    (s : WalkState) : WalkState × Except Fault (List (Chart Float) × Stretch) :=
  let s := s.tell (.stage .applyingInSample)
  let (charts, replayed) :=
    replayCharts w.source inSample.window.start inSample.window.stop charts
  andThen (s, replayed) fun s _ =>
  let s := s.tell (.stage (.collectingOutOfSample step))
  andThen (w.gather .outOfSample step inSample.window.stop w.plan.outOfSampleDays s)
    fun s outOfSample => (s, .ok (charts, outOfSample))

/-- Trade parameters on a window out of sample, once. -/
def execute (w : Walk) (charts : List (Chart Float)) (outOfSample : Stretch)
    (parameters : Parameters) (s : WalkState) : WalkState × Except Fault (Option Float) :=
  let s := s.tell (.stage .executing)
  match w.strategy with
  | .error f => (s, .error f)
  | .ok strategy =>
    let (p, books) := s.books.execute strategy w.settings charts .outOfSample
      outOfSample.window.ticks parameters
    ({ s with books }, p.result.map Books.worth)

/-- The result of a step that was completed, from its windows, its search and its score. -/
def resultOf (step : Nat) (inSample outOfSample : Stretch) (found : SearchResult) (score : Float) :
    StepResult :=
  { step
    inSampleStart := inSample.first
    inSampleEnd := inSample.last
    inSampleTicks := inSample.window.ticks.length
    outOfSampleStart := outOfSample.first
    outOfSampleEnd := outOfSample.last
    outOfSampleTicks := outOfSample.window.ticks.length
    parameters := found.space.parameters
    inSampleScore := found.score
    score }

/-- The part of a step after a search that found parameters. -/
def trade (w : Walk) (step : Nat) (charts : List (Chart Float)) (inSample : Stretch)
    (found : SearchResult) (s : WalkState) : WalkState × Except Fault StepEnd :=
  andThen (w.follow step charts inSample s) fun s (charts, outOfSample) =>
  andThen (w.execute charts outOfSample found.space.parameters s) fun s score =>
  match score with
  | none => (s.fail step .execution, .ok (.failed .execution))
  | some score =>
    (s.note (.executed step score found.space.parameters),
      .ok (.completed (resultOf step inSample outOfSample found score)))

/-- One step. Its search and its trading work on copies of the charts at its start. -/
def step (w : Walk) (step : Nat) (s : WalkState) : WalkState × Except Fault StepEnd :=
  andThen (w.prepare step s) fun s inSample =>
  let charts := s.pristine
  andThen (w.optimize step charts inSample s) fun s found =>
  match found with
  | none => (s.fail step .optimization, .ok (.failed .optimization))
  | some found => w.trade step charts inSample found s

/-- So many steps from a number on, up to a failure: the steps completed, and the step that failed. -/
def steps (w : Walk) : Nat → Nat → WalkState →
    WalkState × Except Fault (List StepResult × Option (Nat × Failure))
  | 0, _, s => (s, .ok ([], none))
  | left + 1, number, s =>
    andThen (w.step number s) fun s stepEnd =>
    match stepEnd with
    | .failed failure => (s, .ok ([], some (number, failure)))
    | .completed r =>
      andThen (w.steps left (number + 1) s) fun s (rs, failed) => (s, .ok (r :: rs, failed))

/-- What is told of a result: the ticks that each chart saw and, without a failure, the scores. -/
def resultNotices (r : WalkResult) (charts : List (Chart Float)) : List Notice :=
  charts.map (fun c => .chartTicks c.name c.ticksProcessed) ++
    match r.failed with
    | none => .scores :: r.steps.map fun t => .stepScore t.step t.score
    | some _ => []

/-- The state after a walk that gave a result. -/
def conclude (r : WalkResult) (s : WalkState) : WalkState :=
  ((resultNotices r s.pristine).foldl WalkState.tell s).note (.runFinished r.scores r.failed)

/-- Fill the charts and move on to the first Sunday after. -/
def align (w : Walk) (s : WalkState) : WalkState × Except Fault Unit :=
  let s := s.tell (.stage .fillingCharts)
  let (charts, filled) := fillCharts w.source w.plan.charts 0
  andThen (s, filled) fun s cursor =>
  let s := s.tell (.stage .advancingToSunday)
  let (pristine, found) := advanceToSunday w.source charts cursor
  andThen (s, found) fun (s : WalkState) (cursor, sunday) =>
  ({ s.tell (.advancedTo sunday.time) with pristine, cursor }, .ok ())

/-- The state of a walk before its charts are filled. -/
def outset (w : Walk) (books : Books) (generator : Twister) : WalkState :=
  ((WalkState.start books generator).tell (.maxSteps w.plan.steps)).note (.runStarted w.plan)

/-- The whole walk, with books and a generator. -/
def run (w : Walk) (books : Books) (generator : Twister) : WalkState × Except Fault WalkResult :=
  andThen (w.align (w.outset books generator)) fun s _ =>
  andThen (w.steps w.plan.steps 1 s) fun s (steps, failed) =>
  let r : WalkResult := { steps, failed, chartTicks := s.pristine.map (·.ticksProcessed) }
  (conclude r s, .ok r)

end Walk

end Backtest
