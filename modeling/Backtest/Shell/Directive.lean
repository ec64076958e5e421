import Backtest.Shell.Extended

/-!
# Directives

A directive of `printf` writes one value: a text, a whole number or a float, in so many places, with
flags that say how it is laid out.

* `Layout`, the flags, the width and the precision; `Layout.read`, from the characters of a directive;
* `Layout.text`, `Layout.whole`, `Layout.real`, a value laid out.
-/

namespace Backtest.Shell

open Decimal

/-- How a value is laid out. -/
structure Layout where
  /-- Whether the value stands at the left. -/
  left : Bool
  /-- Whether numbers from zero on have a sign. -/
  plus : Bool
  /-- Whether they have a space in its place. -/
  space : Bool
  /-- Whether a number is filled up with zeros. -/
  zeros : Bool
  /-- Whether the base of a number is shown, or its point in any case. -/
  alternate : Bool
  width : Nat
  precision : Option Nat

namespace Layout

/-- The layout of flags, a width and a precision; a width below zero stands for the left. -/
def of (flags : Octets) (width : Int) (precision : Option Int) : Layout :=
  { left := flags.contains '-' || width < 0
    plus := flags.contains '+'
    space := flags.contains ' '
    zeros := flags.contains '0'
    alternate := flags.contains '#'
    width := width.natAbs
    precision := precision.bind fun p => if p < 0 then none else some p.toNat }

/-- A text in its width. -/
def pad (l : Layout) (o : Octets) : Octets :=
  let fill := List.replicate (l.width - o.length) ' '
  if l.left then o ++ fill else fill ++ o

/-- A text, cut at the precision. -/
def text (l : Layout) (o : Octets) : Octets :=
  l.pad (match l.precision with
    | some p => o.take p
    | none => o)

/-- Digits behind a sign or a base, in their width. -/
def number (l : Layout) (zeros : Bool) (start digits : Octets) : Octets :=
  let fill := if zeros && !l.left then List.replicate (l.width - start.length - digits.length) '0'
    else []
  l.pad (start ++ fill ++ digits)

/-- The sign of a number. -/
def sign (l : Layout) (negative : Bool) : Octets :=
  if negative then ['-'] else if l.plus then ['+'] else if l.space then [' '] else []

/-- Digits, at least as many as the precision says; zero has none if that is zero. -/
def precise (l : Layout) (n : Nat) (digits : Octets) : Octets :=
  match l.precision with
  | some p => if n == 0 && p == 0 then [] else List.replicate (p - digits.length) '0' ++ digits
  | none => digits

/-- A whole number of base ten with a sign. -/
def signed (l : Layout) (n : Int) : Octets :=
  l.number (l.zeros && l.precision.isNone) (l.sign (n < 0))
    (l.precise n.natAbs (toString n.natAbs).toList)

/-- A whole number without a sign, in the base of a letter. -/
def unsigned (l : Layout) (letter : Char) (n : Nat) : Octets :=
  let base := if letter == 'o' then 8 else if letter == 'u' then 10 else 16
  let digits := (Nat.toDigits base n).map fun c => if letter == 'X' then c.toUpper else c
  let digits := l.precise n digits
  let digits := if l.alternate && letter == 'o' && digits.head? != some '0' then '0' :: digits
    else digits
  let start := if l.alternate && base == 16 && n != 0 then ['0', letter] else []
  l.number (l.zeros && l.precision.isNone) start digits

/-- The digits of a finite float, in the way of a letter. -/
def magnitude (l : Layout) (letter : Char) (m : Nat) (q : Int) : Octets × Octets :=
  let digits := l.precision.getD 6
  if letter == 'f' then ([], Extended.fixed l.alternate digits m q)
  else if letter == 'e' then ([], Extended.scientific l.alternate digits m q)
  else if letter == 'g' then ([], Extended.general l.alternate digits m q)
  else (['0', 'x'], (Extended.hexadecimal l.alternate l.precision m q).drop 2)

/-- A float, in the way of a letter; a capital letter makes all letters so. -/
def real (l : Layout) (letter : Char) (x : Extended) : Octets :=
  let inCase (o : Octets) : Octets := if letter.isUpper then o.map Char.toUpper else o
  match x with
  | .nan negative => l.number false (l.sign negative) (inCase ['n', 'a', 'n'])
  | .infinite negative => l.number false (l.sign negative) (inCase ['i', 'n', 'f'])
  | .finite negative m q =>
    let (start, digits) := l.magnitude letter.toLower m q
    l.number l.zeros (l.sign negative ++ inCase start) (inCase digits)

end Layout

end Backtest.Shell
