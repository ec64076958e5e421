import Backtest.Decimal.Reading
import Backtest.Value

/-!
# Reading JSON

The value of a JSON text. A number with a point or an exponent is a float, any other a whole number;
`NaN`, `Infinity` and `-Infinity` are floats too. Of two entries with one key the later stands, in
the place of the earlier.

Every reader takes what it reads from the front of a list of characters and returns the rest. The
readers of nested values count down a bound on the characters that are left.
-/

namespace Backtest.Json

open Text Decimal

/-- The characters after the white space of JSON. -/
def skip (cs : List Char) : List Char :=
  cs.dropWhile fun c => c == ' ' || c == '\t' || c == '\n' || c == '\r'

/-- The value of a hexadecimal digit. -/
def hexValue? (c : Char) : Option Nat :=
  if '0' ≤ c && c ≤ '9' then some (c.toNat - 48)
  else if 'a' ≤ c && c ≤ 'f' then some (c.toNat - 87)
  else if 'A' ≤ c && c ≤ 'F' then some (c.toNat - 55)
  else none

/-- The number of four hexadecimal digits. -/
def unit? (a b c d : Char) : Option Nat := do
  let a ← hexValue? a
  let b ← hexValue? b
  let c ← hexValue? c
  let d ← hexValue? d
  return ((a * 16 + b) * 16 + c) * 16 + d

/-- The characters of code points in which two halves of a pair may stand for one character; a half
alone is replaced. -/
def joinPairs : List Nat → List Char
  | [] => []
  | [n] => [if 0xD800 ≤ n && n < 0xE000 then Char.ofNat 0xFFFD else Char.ofNat n]
  | n :: m :: ns =>
    if 0xD800 ≤ n && n < 0xDC00 && 0xDC00 ≤ m && m < 0xE000 then
      Char.ofNat (0x10000 + (n - 0xD800) * 0x400 + (m - 0xDC00)) :: joinPairs ns
    else if 0xD800 ≤ n && n < 0xE000 then Char.ofNat 0xFFFD :: joinPairs (m :: ns)
    else Char.ofNat n :: joinPairs (m :: ns)

/-- The character of a one-letter escape. -/
def plainEscape? (c : Char) : Option Nat :=
  if c == '"' || c == '\\' || c == '/' then some c.toNat
  else if c == 'n' then some 10
  else if c == 'r' then some 13
  else if c == 't' then some 9
  else if c == 'b' then some 8
  else if c == 'f' then some 12
  else none

/-- A text, after its opening quote; `acc` holds the code points before, reversed. -/
def readTextFrom? (acc : List Nat) : List Char → Option (String × List Char)
  | [] => none
  | '"' :: cs => some (String.ofList (joinPairs acc.reverse), cs)
  | '\\' :: 'u' :: a :: b :: c :: d :: cs =>
    match unit? a b c d with
    | some n => readTextFrom? (n :: acc) cs
    | none => none
  | '\\' :: c :: cs =>
    match plainEscape? c with
    | some n => readTextFrom? (n :: acc) cs
    | none => none
  | c :: cs => if c.toNat < 32 || c == '\\' then none else readTextFrom? (c.toNat :: acc) cs

/-- A text, after its opening quote. -/
def readText? (cs : List Char) : Option (String × List Char) := readTextFrom? [] cs

/-- The exponent of a number: its text and the rest. No exponent is an empty text. -/
def takeExponent (cs : List Char) : List Char × List Char :=
  match cs with
  | c :: rest =>
    if c == 'e' || c == 'E' then
      let (sign, digits) := match rest with
        | '+' :: r => (['+'], r)
        | '-' :: r => (['-'], r)
        | r => ([], r)
      let ds := digits.takeWhile isPlainDigit
      if ds.isEmpty then ([], cs) else (c :: (sign ++ ds), digits.dropWhile isPlainDigit)
    else ([], cs)
  | [] => ([], [])

/-- The decimal part of a number, with its point: its text and the rest. -/
def takeDecimals (cs : List Char) : List Char × List Char :=
  match cs with
  | '.' :: rest =>
    let ds := rest.takeWhile isPlainDigit
    if ds.isEmpty then ([], cs) else ('.' :: ds, rest.dropWhile isPlainDigit)
  | _ => ([], cs)

/-- The whole part of a number: a zero, or digits that start with none. -/
def takeWhole (cs : List Char) : List Char × List Char :=
  match cs with
  | '0' :: rest => (['0'], rest)
  | _ => (cs.takeWhile isPlainDigit, cs.dropWhile isPlainDigit)

/-- A number. -/
def readNumber? (cs : List Char) : Option (Value × List Char) :=
  let (negative, digits) := match cs with
    | '-' :: r => (true, r)
    | r => (false, r)
  let (whole, cs) := takeWhole digits
  if whole.isEmpty then none
  else
    let (decimals, cs) := takeDecimals cs
    let (exponent, cs) := takeExponent cs
    if decimals.isEmpty && exponent.isEmpty then
      some (.whole (signed negative (digitsValue whole)), cs)
    else
      let places := decimals.drop 1
      let e := (readExponent? exponent).getD 0
      some (.real (ofDecimal negative (digitsValue (whole ++ places)) (e - places.length)), cs)

/-- What is left after a word, if the characters start with it. -/
def afterWord? (word : String) (cs : List Char) : Option (List Char) :=
  if word.toList.isPrefixOf cs then some (cs.drop word.length) else none

/-- The names of values, with their values. -/
def names : List (String × Value) :=
  [("null", .null), ("true", .bool true), ("false", .bool false), ("NaN", .real (0.0 / 0.0)),
    ("Infinity", .real (1.0 / 0.0)), ("-Infinity", .real (-(1.0 / 0.0)))]

/-- A value that is not nested. -/
def readPlain? (cs : List Char) : Option (Value × List Char) :=
  match names.findSome? fun (w, v) => (afterWord? w cs).map fun rest => (v, rest) with
  | some found => some found
  | none => readNumber? cs

mutual

/-- A value, at the front of the characters. -/
def readValue? : Nat → List Char → Option (Value × List Char)
  | 0, _ => none
  | _ + 1, [] => none
  | fuel + 1, c :: cs =>
    if c == '"' then (readText? cs).map fun (s, rest) => (.text s, rest)
    else if c == '[' then
      match skip cs with
      | ']' :: rest => some (.list [], rest)
      | rest => (readItems? fuel [] rest).map fun (vs, rest) => (.list vs, rest)
    else if c == '\x7b' then
      match skip cs with
      | '\x7d' :: rest => some (.record [], rest)
      | rest => (readEntries? fuel [] rest).map fun (es, rest) => (.record es, rest)
    else readPlain? (c :: cs)

/-- The items of a list up to its bracket; `acc` holds those before, reversed. -/
def readItems? : Nat → List Value → List Char → Option (List Value × List Char)
  | 0, _, _ => none
  | fuel + 1, acc, cs =>
    match readValue? fuel (skip cs) with
    | none => none
    | some (v, rest) => match skip rest with
      | ',' :: rest => readItems? fuel (v :: acc) rest
      | ']' :: rest => some ((v :: acc).reverse, rest)
      | _ => none

/-- The entries of a map up to its brace; `acc` holds those before. -/
def readEntries? : Nat → Table Value → List Char → Option (Table Value × List Char)
  | 0, _, _ => none
  | fuel + 1, acc, cs =>
    match skip cs with
    | '"' :: cs => match readText? cs with
      | none => none
      | some (k, cs) => match skip cs with
        | ':' :: cs => match readValue? fuel (skip cs) with
          | none => none
          | some (v, cs) => match skip cs with
            | ',' :: cs => readEntries? fuel (acc.put k v) cs
            | '\x7d' :: cs => some (acc.put k v, cs)
            | _ => none
        | _ => none
    | _ => none

end

/-- The value of a JSON text; white space around it is allowed. -/
def read? (s : String) : Option Value :=
  let cs := s.toList
  match readValue? (2 * cs.length + 2) (skip cs) with
  | some (v, rest) => if (skip rest).isEmpty then some v else none
  | none => none

end Backtest.Json
