import Backtest.Settings
import Backtest.Tick

/-!
# Trades

A trade is opened at a tick, observes the ticks that follow and is closed at one of them, once. A
long trade buys at the ask and sells at the bid; a short trade sells at the bid first and buys back
at the ask.

* `Trade`, with the tick it was opened at, the ticks observed since, newest first, and the tick it
  was closed at;
* `Trade.observe`, `Trade.close`, `Trade.profit`.
-/

namespace Backtest

open Decimal

/-- Which way a trade goes. -/
inductive Direction
  | long
  | short
  deriving DecidableEq

/-- The word of a direction. -/
def Direction.word : Direction → String
  | .long => "long"
  | .short => "short"

/-- A trade. -/
structure Trade (α : Type) where
  id : Int
  direction : Direction
  /-- The tick at which the trade was opened. -/
  opening : Tick α
  /-- The ticks observed since, newest first. -/
  later : List (Tick α)
  /-- The tick at which the trade was closed. -/
  closing : Option (Tick α)

namespace Trade

section

variable {α : Type}

/-- A trade opened at a tick. -/
def opened (id : Int) (direction : Direction) (t : Tick α) : Trade α :=
  { id, direction, opening := t, later := [], closing := none }

/-- Whether the trade is still open. -/
def isOpen (r : Trade α) : Bool := r.closing.isNone

/-- Whether the trade is closed. -/
def isClosed (r : Trade α) : Bool := r.closing.isSome

/-- Whether the trade is long. -/
def isLong (r : Trade α) : Bool := r.direction == .long

/-- All ticks observed, the opening one first. -/
def ticks (r : Trade α) : List (Tick α) := r.opening :: r.later.reverse

/-- The latest tick observed. -/
def latest (r : Trade α) : Tick α := r.later.headD r.opening

/-- The trade after one more tick. -/
def observe (r : Trade α) (t : Tick α) : Trade α := { r with later := t :: r.later }

/-- The trade closed at a tick, unless it is closed already. -/
def close (r : Trade α) (t : Tick α) : Except TradeFault (Trade α) :=
  match r.closing with
  | some _ => .error (.alreadyClosed r.id)
  | none => .ok { r with closing := some t }

/-- The price at which a trade of a direction is entered at a tick. -/
def entryPrice (d : Direction) (t : Tick α) : α :=
  match d with
  | .long => t.ask
  | .short => t.bid

/-- The price at which a trade of a direction is left at a tick. -/
def exitPrice (d : Direction) (t : Tick α) : α :=
  match d with
  | .long => t.bid
  | .short => t.ask

/-- The price at which the trade was opened. -/
def openPrice (r : Trade α) : α := entryPrice r.direction r.opening

@[simp] theorem latest_observe (r : Trade α) (t : Tick α) : (r.observe t).latest = t := rfl

@[simp] theorem ticks_opened (id : Int) (d : Direction) (t : Tick α) : (opened id d t).ticks = [t] :=
  rfl

@[simp] theorem ticks_observe (r : Trade α) (t : Tick α) : (r.observe t).ticks = r.ticks ++ [t] := by
  simp [ticks, observe]

end

variable {α : Type} [Price α]

/-- The profit in pips of a trade of a direction between an entry and an exit price. -/
def profitBetween (d : Direction) (entry exit : α) : α :=
  match d with
  | .long => pipProfit entry exit
  | .short => pipProfit exit entry

/-- The profit in pips if the trade is left at a tick. -/
def profitAt (r : Trade α) (t : Tick α) : α :=
  profitBetween r.direction r.openPrice (exitPrice r.direction t)

/-- The profit in pips: of a closed trade at its closing tick, of an open one at the latest tick. -/
def profit (r : Trade α) : α := r.profitAt (r.closing.getD r.latest)

/-- The price at which the trade was closed; zero while it is open. -/
def closePrice (r : Trade α) : α :=
  match r.closing with
  | some t => exitPrice r.direction t
  | none => Price.zero

/-- The spread at which the trade was closed; zero while it is open. -/
def closeSpread (r : Trade α) : α :=
  match r.closing with
  | some t => t.spread
  | none => Price.zero

end Trade

namespace Trade

/-- A truth value in a log. -/
def flag (b : Bool) : String := if b then "true" else "false"

/-- The decimal places of a spread in a log. -/
def spreadPlaces : Nat := 6

/-- The fields of a trade in a log; the profit has one decimal place. -/
def fields (r : Trade Float) : List String :=
  [flag r.isLong, r.opening.time.iso, (r.closing.map fun t => t.time.iso).getD "",
    floatText r.openPrice, floatText r.closePrice,
    floatText (roundPlaces spreadPlaces r.opening.spread),
    floatText (roundPlaces spreadPlaces r.closeSpread), fixedText 1 r.profit]

/-- The word of a trade's state. -/
def stateWord (r : Trade Float) : String := if r.isOpen then "open" else "closed"

/-- A trade in messages. -/
def shown (r : Trade Float) : String :=
  s!"Trade(id={r.id}, direction={r.direction.word}, {r.stateWord}, " ++
    s!"open_price={floatText r.openPrice})"

end Trade

end Backtest
