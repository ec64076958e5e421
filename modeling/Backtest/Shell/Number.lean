import Backtest.Shell.Octets

/-!
# Whole numbers of the shell

Whole numbers have 64 bits. The text of one is its blanks in front, a sign, and digits of base ten,
eight behind a zero or sixteen behind `0x`; what cannot be read is left over.

* `Number.read`, the number in front of a text; `Number.signed`, `Number.unsigned`, brought into range;
* `Number.whole?`, a text that is a number of base ten; `Number.wrap`, a number modulo 2^64.
-/

namespace Backtest.Shell.Number

/-- The least number below zero. -/
def least : Int := -Int.pow 2 63

/-- The greatest number. -/
def greatest : Int := Int.pow 2 63 - 1

/-- The numbers from zero on without a sign. -/
def modulus : Nat := Nat.pow 2 64

/-- A number with 64 bits, of those that differ by a multiple of 2^64. -/
def wrap (n : Int) : Int := n.bmod modulus

/-- A sign, if there is one, and the rest. -/
def takeSign : Octets → Bool × Octets
  | '-' :: cs => (true, cs)
  | '+' :: cs => (false, cs)
  | cs => (false, cs)

/-- The digits in front and their base, and the rest. Without digits all is left over; an `x` without
digits behind it is left over too. -/
def takeMagnitude (anyBase : Bool) (o : Octets) : Option (Nat × Octets) :=
  let plain (base : Nat) (cs : Octets) : Option (Nat × Octets) :=
    let (ds, rest) := takeDigits base cs.length cs
    if ds.isEmpty then none else some (digitsIn base ds, rest)
  match o with
  | '0' :: x :: cs =>
    if !anyBase then plain 10 o
    else if x == 'x' || x == 'X' then (plain 16 cs).or (some (0, x :: cs))
    else plain 8 o
  | _ => plain 10 o

/-- What was read of a number: whether it lies below zero, its magnitude, and what is left over. -/
structure Reading where
  negative : Bool
  magnitude : Nat
  rest : Octets

/-- The number in front of a text. -/
def read (anyBase : Bool) (o : Octets) : Option Reading :=
  let (negative, digits) := takeSign (o.dropWhile isSpace)
  (takeMagnitude anyBase digits).map fun (magnitude, rest) => { negative, magnitude, rest }

/-- The number that was read, or the nearest in range; and whether it was out of range. -/
def Reading.signed (r : Reading) : Int × Bool :=
  let n : Int := if r.negative then -r.magnitude else r.magnitude
  if n < least then (least, true) else if greatest < n then (greatest, true) else (n, false)

/-- The number that was read as one without a sign, below zero counted back from 2^64; or the
greatest. -/
def Reading.unsigned (r : Reading) : Nat × Bool :=
  if modulus ≤ r.magnitude then (modulus - 1, true)
  else (if r.negative then (modulus - r.magnitude) % modulus else r.magnitude, false)

/-- The number that a text is; blanks may stand around it. -/
def whole? (o : Octets) : Option Int := do
  let r ← read false o
  if !r.rest.all isWhite then none
  else
    let (n, tooLarge) := r.signed
    if tooLarge then none else some n

end Backtest.Shell.Number
