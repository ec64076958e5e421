/-!
# Prices

Prices, account values and scores are numbers with the four operations, an order and the natural
numbers. The library runs on floats; the laws of its bookkeeping hold in exact arithmetic too, so its
parts are written for any such numbers.

* `Price`, the operations; the instance of floats;
* `larger`, `smaller`: the second number only if it is strictly beyond the first, which decides what
  happens to NaN and to zeros of different sign.
-/

namespace Backtest

/-- Numbers that can serve as prices. -/
class Price (α : Type) extends Add α, Sub α, Neg α, Mul α, Div α, LT α where
  ofNat : Nat → α
  decideLT : (a b : α) → Decidable (a < b)

instance (priority := low) Price.decidable_lt {α : Type} [Price α] (a b : α) : Decidable (a < b) :=
  Price.decideLT a b

instance : Price Float where
  ofNat := Float.ofNat
  decideLT := inferInstance

namespace Price

variable {α : Type} [Price α]

/-- The second number if it is above the first, else the first. -/
def larger (a b : α) : α := if a < b then b else a

/-- The second number if it is below the first, else the first. -/
def smaller (a b : α) : α := if b < a then b else a

/-- Zero. -/
def zero : α := Price.ofNat 0

/-- The sum of a list, from the left, from zero: each partial sum is rounded, with no term kept to make up
for what rounding loses. -/
def sum (xs : List α) : α := xs.foldl (· + ·) zero

end Price

end Backtest
