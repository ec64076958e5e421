/-!
# Random numbers

The numbers that a shell draws follow from a seed. A state is multiplied by 16807 modulo the prime below
2³¹; the two halves of the state make a number of 15 bits, and none comes twice in a row.

* `RandomNumber.Source`, where numbers come from; `Source.ofSeed`; `Source.draw`.
-/

namespace Backtest.Shell.RandomNumber

/-- Where numbers come from: a state of 32 bits, and the number drawn last. -/
structure Source where
  state : Nat
  last : Nat

/-- The numbers of a seed. -/
def Source.ofSeed (n : Int) : Source := { state := (n.emod (Int.pow 2 32)).toNat, last := 0 }

/-- The state behind a state. The product is reckoned without the quotient's share, as words of 32 bits
need it. -/
def advance (state : Nat) : Nat :=
  let s := if state == 0 then 123459876 else state
  let t : Int := 16807 * (s % 127773 : Nat) - 2836 * (s / 127773 : Nat)
  (if t < 0 then t + (Int.pow 2 31 - 1) else t).toNat

/-- The number of a state. -/
def number (state : Nat) : Nat := ((state >>> 16) ^^^ (state % Nat.pow 2 16)) % Nat.pow 2 15

/-- The next number and what comes behind it; `fuel` bounds how many are passed over. -/
def Source.drawFrom (s : Source) : Nat → Nat × Source
  | 0 => (s.last, s)
  | fuel + 1 =>
    let state := advance s.state
    let n := number state
    if n == s.last then Source.drawFrom { s with state } fuel else (n, { state, last := n })

/-- The next number and what comes behind it. -/
def Source.draw (s : Source) : Nat × Source := s.drawFrom 100

end Backtest.Shell.RandomNumber
