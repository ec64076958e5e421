import Backtest.Chart
import Backtest.TickSource

/-!
# Windows

Windows of a source are measured in calendar days. A day ends where the day of the month changes from
one tick to the next. There are no ticks on Saturdays, so every sixth end of a day counts for two. A
window stops right before the tick that reaches its number of days; that tick opens the next window.

* `DayCounter`, which counts days; `walkDays`, the walk over so many days;
* `Window`, `collectWindow`, `advanceCharts`, `replayCharts`: a window's ticks, or the charts after
  them;
* `fillCharts`, `advanceToSunday`: the charts filled, and moved on to the next Sunday.
-/

namespace Backtest

/-- A count of days toward a target. -/
structure DayCounter where
  target : Int
  days : Nat
  currentDay : Option Nat

namespace DayCounter

/-- No tick has been seen. -/
def start (target : Int) : DayCounter := { target, days := 0, currentDay := none }

/-- The number of days after one more day has ended; a sixth day is followed by a Saturday. -/
def succDays (days : Nat) : Nat := if (days + 1) % 6 == 0 then days + 2 else days + 1

/-- The count after a tick on a day of the month, and whether it ended a day and the target is
reached. -/
def observe (c : DayCounter) (day : Nat) : Bool × DayCounter :=
  match c.currentDay with
  | none => (false, { c with currentDay := some day })
  | some current =>
    if day == current then (false, c)
    else
      let days := succDays c.days
      (c.target ≤ days, { c with days, currentDay := some day })

end DayCounter

/-- Where a walk over days stands: the state of its visitor, the count, and the cursor. -/
structure DayWalk (σ : Type) where
  state : σ
  counter : DayCounter
  cursor : Int

/-- Visit a record of a walk, unless it reaches the target; then stop at its cursor. -/
def DayWalk.visit {σ : Type} (onTick : σ → Tick Float → σ) (w : DayWalk σ) (r : Record) :
    DayWalk σ × Option Int :=
  match w.counter.observe r.tick.day with
  | (true, counter) => ({ w with counter }, some r.position)
  | (false, counter) => ({ state := onTick w.state r.tick, counter, cursor := r.next }, none)

/-- Visit the ticks of `target` days from a cursor on. The result holds the cursor at which the walk
stopped. -/
def walkDays {σ : Type} (source : TickSource) (start target : Int)
    (onTick : σ → Tick Float → σ) (state : σ) : σ × Except Fault Int :=
  let begin : DayWalk σ := { state, counter := .start target, cursor := start }
  match (source.readFrom start).scan (DayWalk.visit onTick) begin with
  | (w, .stopped position) => (w.state, .ok position)
  | (w, .ended) => (w.state, .ok w.cursor)
  | (w, .failed f) => (w.state, .error f)

/-- The ticks between two cursors. -/
structure Window where
  start : Int
  stop : Int
  ticks : List (Tick Float)

/-- The window of `target` days from a cursor on. -/
def collectWindow (source : TickSource) (start target : Int) : Except Fault Window :=
  let (ticks, stop) := walkDays source start target (fun (ts : Array (Tick Float)) t => ts.push t) #[]
  stop.map fun stop => { start, stop, ticks := ticks.toList }

/-- The charts after the ticks of `target` days from a cursor on, and the cursor after these. -/
def advanceCharts (source : TickSource) (start target : Int) (charts : List (Chart Float)) :
    List (Chart Float) × Except Fault Int :=
  walkDays source start target Charts.process charts

/-- Let the charts take in a record and count it, unless it stands at a cursor or behind it; then
stop. -/
def replayVisit (stop : Int) (s : List (Chart Float) × Nat) (r : Record) :
    (List (Chart Float) × Nat) × Option Unit :=
  if stop ≤ r.position then (s, some ()) else ((Charts.process s.1 r.tick, s.2 + 1), none)

/-- The charts after the ticks between two cursors, and their number. -/
def replayCharts (source : TickSource) (start stop : Int) (charts : List (Chart Float)) :
    List (Chart Float) × Except Fault Nat :=
  match (source.readFrom start).scan (replayVisit stop) (charts, 0) with
  | (s, .failed f) => (s.1, .error f)
  | (s, _) => (s.1, .ok s.2)

/-- Let the charts take in a record, and stop when all of them are full. -/
def fillVisit (charts : List (Chart Float)) (r : Record) : List (Chart Float) × Option Int :=
  let charts := Charts.process charts r.tick
  (charts, if Charts.full charts then some r.next else none)

/-- The charts after the ticks that fill all of them, and the cursor after these. -/
def fillCharts (source : TickSource) (charts : List (Chart Float)) (start : Int) :
    List (Chart Float) × Except Fault Int :=
  match (source.readFrom start).scan fillVisit charts with
  | (cs, .stopped next) => (cs, .ok next)
  | (cs, .ended) => (cs, .error (.stream .chartsNotFilled))
  | (cs, .failed f) => (cs, .error f)

/-- Where the search for a Sunday stands: the charts, the day of the month at the start, and whether
another has come since. -/
structure SundaySearch where
  charts : List (Chart Float)
  startDay : Option Nat
  dayChanged : Bool

/-- Let the charts take in a record, and stop if it is the Sunday searched for. -/
def SundaySearch.visit (s : SundaySearch) (r : Record) : SundaySearch × Option (Int × Tick Float) :=
  let s := { s with charts := Charts.process s.charts r.tick }
  match s.startDay with
  | none => ({ s with startDay := some r.tick.day }, none)
  | some day =>
    let s := { s with dayChanged := s.dayChanged || r.tick.day != day }
    (s, if s.dayChanged && r.tick.isSunday then some (r.next, r.tick) else none)

/-- The charts after the ticks up to the first on a Sunday after a change of day, that tick and the
cursor after it. -/
def advanceToSunday (source : TickSource) (charts : List (Chart Float)) (start : Int) :
    List (Chart Float) × Except Fault (Int × Tick Float) :=
  let begin : SundaySearch := { charts, startDay := none, dayChanged := false }
  match (source.readFrom start).scan SundaySearch.visit begin with
  | (s, .stopped found) => (s.charts, .ok found)
  | (s, .ended) => (s.charts, .error (.stream .noSunday))
  | (s, .failed f) => (s.charts, .error f)

end Backtest
