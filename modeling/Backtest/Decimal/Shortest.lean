import Backtest.Decimal.Binary

/-!
# The shortest decimal of a float

The decimal that stands for a float is the one with the fewest significant digits among those that
read back as the float; of two such, the nearer to the float; of two equally near, the even one.

The reals that read back as `m · 2 ^ q` form an interval around it, with its ends when `m` is even.
On the decimal grid with a given number of digits only the two neighbours of the float can lie in
that interval unless a coarser grid already has a hit, so the search goes from one digit up and
looks at two candidates on each grid.
-/

namespace Backtest.Decimal

/-- The floor of the decimal logarithm of `num / den`. -/
def log10Floor (num den : Nat) : Int :=
  let bits : Int := (Nat.log2 num : Int) - Nat.log2 den
  let guess := Int.fdiv ((bits - 1) * 30103) 100000
  let atLeast (t : Int) : Bool := den * Nat.pow 10 t.toNat ≤ num * Nat.pow 10 (-t).toNat
  if atLeast (guess + 1) then (if atLeast (guess + 2) then guess + 2 else guess + 1)
  else if atLeast guess then guess else guess - 1

/-- The interval of reals that read back as a float: `low / den` to `high / den`, around
`value / den`, with its ends or without. -/
structure Interval where
  low : Nat
  value : Nat
  high : Nat
  den : Nat
  closed : Bool

/-- The interval of `m · 2 ^ q`. Below a power of two the floats lie twice as close. -/
def Interval.ofParts (m : Nat) (q : Int) : Interval :=
  let unit := Nat.pow 2 q.toNat
  let below := if m == Nat.pow 2 52 && q > -1074 then 1 else 2
  { low := 4 * m * unit - below * unit
    value := 4 * m * unit
    high := 4 * m * unit + 2 * unit
    den := 4 * Nat.pow 2 (-q).toNat
    closed := m % 2 == 0 }

/-- Whether `n / scale` lies in the interval, both over the same denominator. -/
def Interval.holds (i : Interval) (n : Nat) : Bool :=
  if i.closed then i.low ≤ n && n ≤ i.high else i.low < n && n < i.high

/-- The interval with its denominator and numerators multiplied so that `10 ^ k` becomes whole. -/
def Interval.scale (i : Interval) (k : Int) : Interval :=
  let f := Nat.pow 10 (-k).toNat
  { i with low := i.low * f, value := i.value * f, high := i.high * f }

/-- The decimal on the grid `10 ^ k` that reads back, if one of the two neighbours does. -/
def Interval.onGrid? (i : Interval) (k : Int) : Option Nat :=
  let j := i.scale k
  let step := i.den * Nat.pow 10 k.toNat
  let below := j.value / step
  let lower := below * step
  let upper := lower + step
  match j.holds lower && below != 0, j.holds upper with
  | true, true =>
    let down := j.value - lower
    let up := upper - j.value
    if down < up then some below
    else if up < down then some (below + 1)
    else some (if below % 2 == 0 then below else below + 1)
  | true, false => some below
  | false, true => some (below + 1)
  | false, false => none

/-- The first grid with a hit, from `tried + 1` digits on, with `left` grids still to try. -/
def Interval.search (i : Interval) (top : Int) : Nat → Nat → Nat × Int
  | tried, 0 => (i.value / i.den, -(tried : Int))
  | tried, left + 1 =>
    match i.onGrid? (top - tried) with
    | some n => (n, top - tried)
    | none => i.search top (tried + 1) left

/-- The digits `n` and the exponent `e` of the shortest decimal `n · 10 ^ e` of `m · 2 ^ q`, for
`m > 0`. Seventeen digits always suffice. -/
def shortest (m : Nat) (q : Int) : Nat × Int :=
  (Interval.ofParts m q).search (log10Floor (magnitudeNum m q) (magnitudeDen q)) 0 17

end Backtest.Decimal
