import Backtest.Text.Blank
import Backtest.Text.DecimalDigit
import Backtest.Decimal.FloatText

/-!
# Reading numbers

The text of a number may be surrounded by blanks, may group its digits by single underscores, and
may use the decimal digits of any script.

* `digitLimit`, the most digits of a whole number in a text; `isTooLong`, a whole number beyond them;
* `readInt?`: a sign and digits;
* `readFloat?`: a sign, digits with at most one point among or beside them, and an exponent; or
  `inf`, `infinity`, `nan` in any case;
* `ofDecimal`, the float nearest to a decimal; `ofInt?`, to a whole number.
-/

namespace Backtest.Decimal

open Backtest.Text

/-- The float nearest to `± n · 10 ^ e`. Magnitudes that no float reaches become infinite, and those
below half the least float become zero. -/
def ofDecimal (negative : Bool) (n : Nat) (e : Int) : Float :=
  let top : Int := e + (n.log2 : Int) * 30103 / 100000
  let magnitude :=
    if n == 0 || top < -400 then 0.0
    else if top > 400 then 1.0 / 0.0
    else if 0 ≤ e then Float.ofScientific n false e.toNat
    else Float.ofScientific n true (-e).toNat
  if negative then -magnitude else magnitude

/-- The float nearest to `num / 10 ^ places` for a magnitude given as a quotient: the value rounded
to decimal places, a half to the even neighbour. Infinite floats and NaN stay as they are. -/
def roundPlaces (places : Nat) (x : Float) : Float :=
  match Parts.ofFloat x with
  | .finite negative m q =>
    ofDecimal negative (roundHalfEven (magnitudeNum m q * Nat.pow 10 places) (magnitudeDen q))
      (-(places : Int))
  | _ => x

/-- The float nearest to a whole number, if one is in range: a number that would round to infinity
is refused. -/
def ofInt? (n : Int) : Option Float :=
  let x := ofDecimal (n < 0) n.natAbs 0
  if x.isFinite then some x else none

/-- The text with every decimal digit replaced by its ASCII form and every blank beyond ASCII by a
plain space. -/
def plainDigits (cs : List Char) : List Char :=
  cs.map fun c =>
    if c.toNat < 128 then c
    else if isBlank c then ' '
    else match digitValue? c with
      | some d => Char.ofNat (48 + d)
      | none => c

/-- An ASCII digit. -/
def isPlainDigit (c : Char) : Bool := '0' ≤ c && c ≤ '9'

/-- The characters without underscores, where each stands between two digits; the first argument
says whether a digit stands before. -/
def dropUnderscores? : Bool → List Char → Option (List Char)
  | _, [] => some []
  | afterDigit, '_' :: c :: cs =>
    if afterDigit && isPlainDigit c then (dropUnderscores? true cs).map (c :: ·) else none
  | _, ['_'] => none
  | _, c :: cs => (dropUnderscores? (isPlainDigit c) cs).map (c :: ·)

/-- The value of a list of ASCII digits. -/
def digitsValue (ds : List Char) : Nat := ds.foldl (fun n c => 10 * n + (c.toNat - 48)) 0

/-- A sign, if there is one, and the rest. -/
def takeSign : List Char → Bool × List Char
  | '-' :: cs => (true, cs)
  | '+' :: cs => (false, cs)
  | cs => (false, cs)

/-- The characters of a number: blanks around it and underscores between its digits taken away. -/
def numberChars? (s : String) : Option (List Char) :=
  dropUnderscores? false (stripBy isNumberBlank (plainDigits s.toList))

/-- The most digits that a whole number may have in a text, leading zeros among them. -/
def digitLimit : Nat := 4300

/-- Whether a whole number has too many digits to be written. -/
def isTooLong (n : Int) : Bool := Nat.pow 10 digitLimit ≤ n.natAbs

/-- A whole number. -/
def readInt? (s : String) : Option Int := do
  let (negative, ds) := takeSign (← numberChars? s)
  if ds.isEmpty || digitLimit < ds.length || !ds.all isPlainDigit then none
  else some (signed negative (digitsValue ds))

/-- The exponent part of a number: nothing, or `e`, a sign and digits. -/
def readExponent? : List Char → Option Int
  | [] => some 0
  | c :: cs =>
    if c == 'e' || c == 'E' then
      let (negative, ds) := takeSign cs
      if ds.isEmpty || !ds.all isPlainDigit then none
      else some (signed negative (digitsValue ds))
    else none

/-- A decimal without its sign: the digits before the point, those after it, the exponent. -/
def readDecimal? (cs : List Char) : Option (List Char × List Char × Int) :=
  let whole := cs.takeWhile isPlainDigit
  let rest := cs.dropWhile isPlainDigit
  let (part, tail) := match rest with
    | '.' :: r => (r.takeWhile isPlainDigit, r.dropWhile isPlainDigit)
    | r => ([], r)
  if whole.isEmpty && part.isEmpty then none
  else (readExponent? tail).map fun e => (whole, part, e)

/-- A float. -/
def readFloat? (s : String) : Option Float := do
  let (negative, cs) := takeSign (← numberChars? s)
  let word := String.ofList (cs.map Char.toLower)
  if word == "inf" || word == "infinity" then
    some (if negative then -(1.0 / 0.0) else 1.0 / 0.0)
  else if word == "nan" then some (0.0 / 0.0)
  else
    let (whole, part, e) ← readDecimal? cs
    some (ofDecimal negative (digitsValue (whole ++ part)) (e - part.length))

end Backtest.Decimal
