import Backtest.Decimal.Shortest

/-!
# Floats as text

How a float is written: in full, by the shortest decimal that reads back, or with a fixed number of
places.

* `Layout`, the choices of a format, and `Layout.full`, the ones made here;
* `floatText`, a float in full;
* `roundHalfEven`, a quotient rounded to a whole number, a half to the even neighbour;
* `fixedText`, a float with fixed places; `roundPlaces`, a float rounded to decimal places.
-/

namespace Backtest.Decimal

/-- How a decimal is laid out: a decimal exponent from `minPositional` up to, not including,
`maxPositional` is written positionally, with at least one digit on each side of the point; any
other is written with an exponent of at least `exponentDigits` digits. -/
structure Layout where
  minPositional : Int
  maxPositional : Int
  exponentDigits : Nat

/-- Numbers are written positionally from `0.0001` up to, not including, `10 ^ 16`. -/
def Layout.full : Layout := ⟨-4, 16, 2⟩

/-- A decimal number without trailing zeros: the last digit moves into the exponent while it is
zero. The first argument bounds the number of zeros. -/
def dropZeros : Nat → Nat → Int → Nat × Int
  | 0, n, e => (n, e)
  | fuel + 1, n, e => if n != 0 && n % 10 == 0 then dropZeros fuel (n / 10) (e + 1) else (n, e)

/-- The text of a whole number with at least `width` digits. -/
def paddedNat (width n : Nat) : List Char :=
  let ds := (toString n).toList
  List.replicate (width - ds.length) '0' ++ ds

/-- The text of `n · 10 ^ e` with `n > 0`. -/
def Layout.text (l : Layout) (n : Nat) (e : Int) : List Char :=
  let (n, e) := dropZeros n.log2 n e
  let ds := (toString n).toList
  let top : Int := e + (ds.length : Int) - 1
  if l.minPositional ≤ top && top < l.maxPositional then
    if 0 ≤ e then ds ++ List.replicate e.toNat '0' ++ ['.', '0']
    else if 0 ≤ top then ds.take (top.toNat + 1) ++ '.' :: ds.drop (top.toNat + 1)
    else '0' :: '.' :: (List.replicate ((-top).toNat - 1) '0' ++ ds)
  else
    let point := if ds.length == 1 then ds else ds.take 1 ++ '.' :: ds.drop 1
    point ++ 'e' :: (if 0 ≤ top then '+' else '-') :: paddedNat l.exponentDigits top.natAbs

/-- A sign before the text of a magnitude. -/
def withSign (negative : Bool) (cs : List Char) : String :=
  String.ofList (if negative then '-' :: cs else cs)

/-- A float in full: the shortest decimal that reads back. -/
def floatText (x : Float) : String :=
  match Parts.ofFloat x with
  | .nan => "nan"
  | .infinite negative => withSign negative "inf".toList
  | .finite negative 0 _ => withSign negative "0.0".toList
  | .finite negative m q =>
    let (n, e) := shortest m q
    withSign negative (Layout.full.text n e)

/-- The whole number nearest to `num / den`; a half goes to the even neighbour. -/
def roundHalfEven (num den : Nat) : Nat :=
  let n := num / den
  let rest := 2 * (num % den)
  if rest < den then n else if den < rest then n + 1 else if n % 2 == 0 then n else n + 1

/-- A float with `places` decimals, rounded from its exact value. -/
def fixedText (places : Nat) (x : Float) : String :=
  match Parts.ofFloat x with
  | .nan => "nan"
  | .infinite negative => withSign negative "inf".toList
  | .finite negative m q =>
    let n := roundHalfEven (magnitudeNum m q * Nat.pow 10 places) (magnitudeDen q)
    let ds := paddedNat (places + 1) n
    let cut := ds.length - places
    withSign negative (if places == 0 then ds else ds.take cut ++ '.' :: ds.drop cut)

end Backtest.Decimal
