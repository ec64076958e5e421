import Backtest.Tick

/-!
# Candles

A candle sums up the ticks of one period: where bid and ask opened, how far they went, how many ticks
there were and, once the next candle has opened, where they closed.
-/

namespace Backtest

variable {α : Type} [Price α]

/-- The ticks of one period in brief. Until the candle closes its closing prices are zero. -/
structure Candle (α : Type) where
  openBid : α
  openAsk : α
  highBid : α
  highAsk : α
  lowBid : α
  lowAsk : α
  periodId : Int
  closeBid : α
  closeAsk : α
  volume : Nat

namespace Candle

/-- The candle of a period after its first tick. -/
def ofTick (t : Tick α) (periodId : Int) : Candle α :=
  { openBid := t.bid, openAsk := t.ask, highBid := t.bid, highAsk := t.ask, lowBid := t.bid,
    lowAsk := t.ask, periodId, closeBid := Price.zero, closeAsk := Price.zero, volume := 1 }

/-- The candle after one more tick of its period. -/
def extend (c : Candle α) (t : Tick α) : Candle α :=
  { c with
    highBid := Price.larger c.highBid t.bid
    lowBid := Price.smaller c.lowBid t.bid
    highAsk := Price.larger c.highAsk t.ask
    lowAsk := Price.smaller c.lowAsk t.ask
    volume := c.volume + 1 }

/-- The candle closed with the last tick of its period. -/
def closeWith (c : Candle α) (t : Tick α) : Candle α :=
  { c with closeBid := t.bid, closeAsk := t.ask }

@[simp] theorem extend_periodId (c : Candle α) (t : Tick α) : (c.extend t).periodId = c.periodId :=
  rfl

omit [Price α] in
@[simp] theorem closeWith_periodId (c : Candle α) (t : Tick α) :
    (c.closeWith t).periodId = c.periodId := rfl

end Candle

end Backtest
