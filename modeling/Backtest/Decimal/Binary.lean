/-!
# The exact value of a float

A finite float is `± m · 2 ^ q` with a natural number `m`. This module takes a float apart into
that form; printing, rounding and comparison with whole numbers start from it, in exact arithmetic.

* `Parts`, the form; `Parts.ofFloat`, the parts of a float;
* `Parts.num`, `Parts.den`, the magnitude as a quotient of natural numbers;
* `lessThanInt`, `intLessThan`, `equalsInt`, the order between a float and a whole number.
-/

namespace Backtest.Decimal

/-- What a float stands for. -/
inductive Parts
  | nan
  | infinite (negative : Bool)
  | finite (negative : Bool) (mantissa : Nat) (exponent : Int)
  deriving DecidableEq

/-- The parts of a float, read from its bits. -/
def Parts.ofFloat (x : Float) : Parts :=
  let bits : Nat := x.toBits.toNat
  let negative := bits / Nat.pow 2 63 == 1
  let biased : Nat := bits / Nat.pow 2 52 % Nat.pow 2 11
  let fraction : Nat := bits % Nat.pow 2 52
  if biased == 2047 then if fraction == 0 then .infinite negative else .nan
  else if biased == 0 then .finite negative fraction (-1074)
  else .finite negative (Nat.pow 2 52 + fraction) ((biased : Int) - 1075)

/-- The numerator of the magnitude `m · 2 ^ q`. -/
def magnitudeNum (m : Nat) (q : Int) : Nat := m * Nat.pow 2 q.toNat

/-- The denominator of the magnitude `m · 2 ^ q`. -/
def magnitudeDen (q : Int) : Nat := Nat.pow 2 (-q).toNat

/-- A signed whole number from a sign and a magnitude. -/
def signed (negative : Bool) (n : Nat) : Int := if negative then -(n : Int) else n

/-- Whether a float is below a whole number, compared exactly. -/
def lessThanInt (x : Float) (n : Int) : Bool :=
  match Parts.ofFloat x with
  | .nan => false
  | .infinite negative => negative
  | .finite negative m q => signed negative (magnitudeNum m q) < n * magnitudeDen q

/-- Whether a whole number is below a float, compared exactly. -/
def intLessThan (n : Int) (x : Float) : Bool :=
  match Parts.ofFloat x with
  | .nan => false
  | .infinite negative => !negative
  | .finite negative m q => n * magnitudeDen q < signed negative (magnitudeNum m q)

/-- Whether a float equals a whole number, compared exactly. -/
def equalsInt (x : Float) (n : Int) : Bool :=
  match Parts.ofFloat x with
  | .finite negative m q => signed negative (magnitudeNum m q) == n * magnitudeDen q
  | _ => false

/-- The whole part of a finite float, toward zero. -/
def wholePart? (x : Float) : Option Int :=
  match Parts.ofFloat x with
  | .finite negative m q => some (signed negative (magnitudeNum m q / magnitudeDen q))
  | _ => none

end Backtest.Decimal
