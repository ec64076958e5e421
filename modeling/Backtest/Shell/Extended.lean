import Backtest.Decimal.FloatText
import Backtest.Shell.Number

/-!
# Floats of the shell

The shell prints floats with a mantissa of 64 bits. Their texts are read to the nearest of them, a tie
to the even one, and written in the four ways of the directives: with fixed places, with an exponent,
by the shorter of both, and in base sixteen.

* `Extended`; `Extended.nearest`, the float nearest to a quotient; `Extended.read`, the float in front of a text;
* `Extended.fixed`, `scientific`, `general`, `hexadecimal`, the digits of a float that is finite.
-/

namespace Backtest.Shell

/-- What a float of the shell stands for. -/
inductive Extended
  | nan (negative : Bool)
  | infinite (negative : Bool)
  | finite (negative : Bool) (mantissa : Nat) (exponent : Int)
  deriving DecidableEq

namespace Extended

open Decimal

/-- The bits of a mantissa. -/
def mantissaBits : Nat := 64

/-- The least exponent of a mantissa that is a whole number. -/
def leastExponent : Int := -16445

/-- No float reaches two to this power. -/
def topExponent : Int := 16384

/-- The greatest whole number below the logarithm of a quotient to base two, or at it. -/
def floorLog (num den : Nat) : Int :=
  let l : Int := (num.log2 : Int) - den.log2
  if den * Nat.pow 2 l.toNat ≤ num * Nat.pow 2 (-l).toNat then l else l - 1

/-- The float nearest to a quotient, and whether it is out of range. -/
def nearest (negative : Bool) (num den : Nat) : Extended × Bool :=
  if num == 0 then (.finite negative 0 0, false)
  else
    let q := max leastExponent (floorLog num den - (mantissaBits - 1 : Nat))
    let (n, d) := (num * Nat.pow 2 (-q).toNat, den * Nat.pow 2 q.toNat)
    let m := roundHalfEven n d
    let (m, q) := if m == Nat.pow 2 mantissaBits then (m / 2, q + 1) else (m, q)
    if topExponent < q + mantissaBits then (.infinite negative, true)
    else (.finite negative m q, m < Nat.pow 2 (mantissaBits - 1) && n % d != 0)

/-- A float that was read: whether it was out of range, and what is left over. -/
structure Reading where
  value : Extended
  outOfRange : Bool
  rest : Octets

/-- What is left after a word in any case, if the text starts with it. -/
def afterWord? (word : String) (o : Octets) : Option Octets :=
  if (o.take word.length).map Char.toLower == word.toList then some (o.drop word.length) else none

/-- The digits of a base around a point: those before it, those behind it, and the rest. -/
def takePoint? (base : Nat) (o : Octets) : Option (Octets × Octets × Octets) :=
  let (whole, rest) := takeDigits base o.length o
  let (part, rest) := match rest with
    | '.' :: tail => if whole.isEmpty && (takeDigits base 1 tail).1.isEmpty then ([], rest)
        else takeDigits base tail.length tail
    | _ => ([], rest)
  if whole.isEmpty && part.isEmpty then none else some (whole, part, rest)

/-- An exponent behind its letter: its value and the rest; no exponent is zero. -/
def takeExponent (letter : Char) (o : Octets) : Int × Octets :=
  match o with
  | c :: cs =>
    let (negative, digits) := Number.takeSign cs
    let (ds, rest) := takeDigits 10 digits.length digits
    if c.toLower == letter && !ds.isEmpty then (Decimal.signed negative (digitsIn 10 ds), rest)
    else (0, o)
  | [] => (0, [])

/-- The float nearest to `digits · base ^ exponent`. Far out of range it is not reckoned. -/
def scaled (negative : Bool) (digits base : Nat) (exponent : Int) : Extended × Bool :=
  let size : Int := exponent * base.log2 + digits.log2
  if digits == 0 then (.finite negative 0 0, false)
  else if 2 * topExponent < size then (.infinite negative, true)
  else if size < -3 * topExponent then (.finite negative 0 0, true)
  else nearest negative (digits * Nat.pow base exponent.toNat) (Nat.pow base (-exponent).toNat)

/-- A float in base sixteen behind its `0x`. -/
def readHexadecimal? (negative : Bool) (o : Octets) : Option Reading := do
  let (whole, part, rest) ← takePoint? 16 o
  let (e, rest) := takeExponent 'p' rest
  let (value, outOfRange) :=
    scaled negative (digitsIn 16 (whole ++ part)) 2 (e - 4 * (part.length : Int))
  return { value, outOfRange, rest }

/-- A decimal. -/
def readDecimal? (negative : Bool) (o : Octets) : Option Reading := do
  let (whole, part, rest) ← takePoint? 10 o
  let (e, rest) := takeExponent 'e' rest
  let (value, outOfRange) :=
    scaled negative (digitsIn 10 (whole ++ part)) 10 (e - (part.length : Int))
  return { value, outOfRange, rest }

/-- What is left after the name of the float that is no number; letters in brackets belong to it. -/
def afterNan (o : Octets) : Octets :=
  match o with
  | '(' :: cs => match cs.dropWhile isNameChar with
    | ')' :: rest => rest
    | _ => o
  | _ => o

/-- The float in front of a text, if there is one. -/
def read? (o : Octets) : Option Reading :=
  let (negative, o) := Number.takeSign (o.dropWhile isSpace)
  match afterWord? "infinity" o <|> afterWord? "inf" o with
  | some rest => some { value := .infinite negative, outOfRange := false, rest }
  | none => match afterWord? "nan" o with
    | some rest => some { value := .nan negative, outOfRange := false, rest := afterNan rest }
    | none => match afterWord? "0x" o with
      | some digits => readHexadecimal? negative digits <|> readDecimal? negative o
      | none => readDecimal? negative o

/-- Digits with a point before the last so many. -/
def withPoint (always : Bool) (places : Nat) (ds : Octets) : Octets :=
  let cut := ds.length - places
  if places == 0 then (if always then ds ++ ['.'] else ds) else ds.take cut ++ '.' :: ds.drop cut

/-- A float with so many places. -/
def fixed (always : Bool) (places m : Nat) (q : Int) : Octets :=
  withPoint always places (paddedNat (places + 1)
    (roundHalfEven (magnitudeNum m q * Nat.pow 10 places) (magnitudeDen q)))

/-- So many digits of a quotient, rounded, and the exponent of the first. `top` is an exponent that is
not too small. -/
def leading (digits num den : Nat) (top : Int) : Nat × Int :=
  let e := top - (digits - 1 : Nat)
  let n := roundHalfEven (num * Nat.pow 10 (-e).toNat) (den * Nat.pow 10 e.toNat)
  if Nat.pow 10 digits ≤ n then (n / 10, top + 1) else (n, top)

/-- The exponent of the first decimal digit of a quotient. -/
def decimalTop (num den : Nat) : Int :=
  let guess := floorLog num den * 30103 / 100000
  let reaches (e : Int) : Bool := den * Nat.pow 10 e.toNat ≤ num * Nat.pow 10 (-e).toNat
  if reaches (guess + 1) then guess + 1 else if reaches guess then guess else guess - 1

/-- So many digits of a float, rounded, and the exponent of the first. -/
def digitsOf (digits m : Nat) (q : Int) : Nat × Int :=
  if m == 0 then (0, 0)
  else
    let (num, den) := (magnitudeNum m q, magnitudeDen q)
    leading digits num den (decimalTop num den)

/-- An exponent behind its letter. -/
def exponentText (letter : Char) (width : Nat) (e : Int) : Octets :=
  letter :: (if e < 0 then '-' else '+') :: paddedNat width e.natAbs

/-- A float with one digit before the point, so many places and an exponent. -/
def scientific (always : Bool) (places m : Nat) (q : Int) : Octets :=
  let (n, e) := digitsOf (places + 1) m q
  withPoint always places (paddedNat (places + 1) n) ++ exponentText 'e' 2 e

/-- Digits without zeros behind the last place, and without a point that then stands at the end. -/
def trimPlaces (ds : Octets) : Octets :=
  if !ds.contains '.' then ds
  else
    let cs := (ds.reverse.dropWhile (· == '0'))
    (if cs.head? == some '.' then cs.drop 1 else cs).reverse

/-- A float with so many digits, positional unless its exponent is below -4 or not below their number;
zeros at the end are left out unless they are asked for. -/
def general (always : Bool) (digits m : Nat) (q : Int) : Octets :=
  let digits := max 1 digits
  let (n, e) := digitsOf digits m q
  let trim (ds : Octets) := if always then ds else trimPlaces ds
  if -4 ≤ e && e < digits then
    let places := (digits - 1 - e).toNat
    trim (fixed always places m q)
  else trim (withPoint always (digits - 1) (paddedNat digits n)) ++ exponentText 'e' 2 e

/-- A float in base sixteen: a first digit, so many places or as many as it takes, and an exponent of
base two. -/
def hexadecimal (always : Bool) (places : Option Nat) (m : Nat) (q : Int) : Octets :=
  let full := mantissaBits / 4 - 1
  let (n, e) := match places with
    | some p => if p < full then
        let n := roundHalfEven m (Nat.pow 16 (full - p))
        if Nat.pow 16 (p + 1) ≤ n then (n / 16, q + 4) else (n, q)
      else (m * Nat.pow 16 (p - full), q)
    | none => (m, q)
  let shown := places.getD full
  let ds := List.replicate (shown + 1 - (Nat.toDigits 16 n).length) '0' ++ Nat.toDigits 16 n
  let text := withPoint true shown ds
  let text := if places.isNone then trimPlaces text else text
  let text := if always then (if text.contains '.' then text else text ++ ['.'])
    else if text.getLast? == some '.' then text.dropLast else text
  '0' :: 'x' :: text ++ 'p' :: (if m == 0 then ['+', '0'] else
    (if e + 60 < 0 then '-' else '+') :: paddedNat 1 (e + 60).natAbs)

end Extended

end Backtest.Shell
