import Backtest.Price
import Backtest.Decimal.Reading
import Backtest.Moment.Instant
import Backtest.Moment.Reading

/-!
# Ticks

A tick is what a dealer quotes at an instant: the bid, at which one sells, and the ask, at which one
buys. It is written on a line as `time,bid,ask`, with a time to the second and of no offset; fields
after the ask are ignored.
-/

namespace Backtest

open Text Decimal

/-- A quote at an instant. -/
structure Tick (α : Type) where
  time : Instant
  bid : α
  ask : α

namespace Tick

/-- The ask less the bid. -/
def spread {α : Type} [Price α] (t : Tick α) : α := t.ask - t.bid

/-- The seconds from the start of the year 1970. -/
def epochSeconds {α : Type} (t : Tick α) : Int := t.time.epochSeconds

/-- Whether the tick falls on a Sunday. -/
def isSunday {α : Type} (t : Tick α) : Bool := t.time.isSunday

/-- The day of the month. -/
def day {α : Type} (t : Tick α) : Nat := t.time.day

/-- A price. -/
def readPrice (text : String) : Except TickFault Float :=
  match readFloat? text with
  | some x => .ok x
  | none => .error (.notANumber text)

/-- The tick on a line; blanks around the line aside. -/
def read (line : String) : Except TickFault (Tick Float) :=
  match splitOn ',' (strip line) with
  | time :: bid :: ask :: _ => do
    let time ← Moment.read time
    let bid ← readPrice bid
    let ask ← readPrice ask
    return { time := .ofMoment time, bid, ask }
  | _ => .error (.tooFewFields line)

end Tick

end Backtest
