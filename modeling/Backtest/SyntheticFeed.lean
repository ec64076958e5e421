import Backtest.Moment.Reading

/-!
# Synthetic feeds

Lines of ticks made from a few numbers: a start, a step in time, a walk of the bid in points and a
spread, with pseudo-random moves from a linear congruence. The same numbers give the same lines. A
feed that leaves the calendar has none. Feeds are for trying the program out; the program itself makes
none.

* `Feed`, the numbers; `Feed.lines?`, the lines.
-/

namespace Backtest

/-- The numbers that fix a feed. Prices are in points of `10 ^ -scale`. -/
structure Feed where
  start : Moment
  count : Nat
  /-- The seconds from one tick to the next. -/
  step : Int
  bid : Int
  seed : Int
  scale : Nat
  /-- How far the bid may jump at a tick, either way. -/
  jump : Int
  /-- How far the bid moves at a tick in any case. -/
  drift : Int
  spread : Int
  /-- How much the spread may widen at a tick. -/
  jitter : Int
  /-- The weekdays without ticks; 0 is Sunday. -/
  skip : List Int
  /-- Moves of the bid at certain ticks. -/
  events : List (Int × Int)

namespace Feed

/-- The next state of the congruence. -/
def next (state : Int) : Int := (state * 1103515245 + 12345).fmod (Int.pow 2 31)

/-- The moment, or the first midnight after it on a weekday with ticks; `left` days are tried. -/
def skipDays? (skip : List Int) : Nat → Moment → Option Moment
  | 0, m => some m
  | left + 1, m =>
    if skip.contains m.weekday then m.nextMidnight?.bind (skipDays? skip left) else some m

/-- A price in points. -/
def price (scale : Nat) (p : Int) : String :=
  let unit : Int := Int.pow 10 scale
  s!"{Int.fdiv p unit}." ++ String.ofList (Decimal.paddedNat scale (p.fmod unit).toNat)

/-- The move of the bid at a tick: the last event of its index. -/
def eventAt (f : Feed) (index : Int) : Int :=
  f.events.foldl (fun d e => if e.1 == index then e.2 else d) 0

/-- A moment as ticks write it. -/
def timeText (m : Moment) : String :=
  let pad (w n : Nat) := String.ofList (Decimal.paddedNat w n)
  s!"{pad 2 m.date.month}/{pad 2 m.date.day}/{m.date.year} " ++
    s!"{pad 2 m.hour}:{pad 2 m.minute}:{pad 2 m.second}"

/-- The bid of a tick, from the bid before it. The first tick only moves by its event. -/
def nextBid (f : Feed) (index state bid : Int) : Int :=
  let walked :=
    if index > 0 then bid + f.drift + (Int.fdiv state 256).fmod (2 * f.jump + 1) - f.jump
    else bid
  max 1 (walked + f.eventAt index)

/-- The ask of a tick with a bid. -/
def askAbove (f : Feed) (state bid : Int) : Int :=
  bid + f.spread + (Int.fdiv state 1048576).fmod (f.jitter + 1)

/-- A line of a tick. -/
def line (f : Feed) (moment : Moment) (bid ask : Int) : String :=
  timeText moment ++ "," ++ price f.scale bid ++ "," ++ price f.scale ask

/-- The lines from a tick on: `left` of them, from a moment, a state and a bid. -/
def linesFrom? (f : Feed) (index : Int) (moment : Moment) (state bid : Int) :
    Nat → Option (List String)
  | 0 => some []
  | left + 1 => do
    let moment ← skipDays? f.skip 7 moment
    let state := next state
    let bid := f.nextBid index state bid
    let later ← moment.addSeconds? f.step
    let rest ← linesFrom? f (index + 1) later state bid left
    return f.line moment bid (f.askAbove state bid) :: rest

/-- The lines of a feed. -/
def lines? (f : Feed) : Option (List String) := f.linesFrom? 0 f.start f.seed f.bid f.count

end Feed

end Backtest
