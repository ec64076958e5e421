import Backtest.Decimal.Reading

/-!
# Kinds of nodes

A node is of a kind, which says what value it stands for. A tag gives the kind; without one, a text
without quotes tells it by its form. Words such as `yes` and `off` are truth values; `~`, `null` and
the empty text are nothing; digits, grouped by underscores if so wished, are whole numbers, in base two
after `0b`, eight after `0`, sixteen after `0x` and sixty between colons; a number with a point is a
float, with an exponent only if that has a sign; a date with two digits for month and day, or with a
time behind it, is a time. All else is text.

* `Kind`; `Kind.ofTag`, `Kind.ofPlain`; `TimeForm`, the parts of a date and its time.
-/

namespace Backtest.Yaml

open Decimal

/-- What a node stands for. -/
inductive Kind
  | null
  | bool
  | whole
  | real
  | bytes
  | time
  | text
  | list
  | map
  | set
  /-- A list of pairs, each written as a map of one entry. -/
  | pairs
  /-- The key whose map is merged into the one around it. -/
  | merge
  /-- The key whose value stands for its map where a scalar is asked for. -/
  | plainValue
  | unknown
  deriving DecidableEq

/-- What the full tags of the language start with. -/
def languageTag : String := "tag:yaml.org,2002:"

/-- The names of the kinds in tags. -/
def Kind.names : List (String × Kind) :=
  [("null", .null), ("bool", .bool), ("int", .whole), ("float", .real), ("binary", .bytes),
    ("timestamp", .time), ("str", .text), ("seq", .list), ("map", .map), ("set", .set),
    ("omap", .pairs), ("pairs", .pairs), ("merge", .merge), ("value", .plainValue)]

/-- The kind that a tag gives. -/
def Kind.ofTag (tag : String) : Kind :=
  ((Kind.names.find? fun n => languageTag ++ n.1 == tag).map (·.2)).getD .unknown

/-- The words for true. -/
def trueWords : List String :=
  ["yes", "Yes", "YES", "true", "True", "TRUE", "on", "On", "ON"]

/-- The words for false. -/
def falseWords : List String :=
  ["no", "No", "NO", "false", "False", "FALSE", "off", "Off", "OFF"]

/-- The words for nothing. -/
def nullWords : List String := ["~", "null", "Null", "NULL"]

/-- The words for infinite floats, without their signs. -/
def infiniteWords : List String := [".inf", ".Inf", ".INF"]

/-- The words for the float that is no number. -/
def nanWords : List String := [".nan", ".NaN", ".NAN"]

/-- An ASCII digit or an underscore. -/
def isDigitOrBar (c : Char) : Bool := isPlainDigit c || c == '_'

/-- Digits and underscores that start with a digit. -/
def isNumeral (cs : List Char) : Bool :=
  (cs.take 1).any isPlainDigit && cs.all isDigitOrBar

/-- Characters of a class, at least one. -/
def someOf (p : Char → Bool) (cs : List Char) : Bool := !cs.isEmpty && cs.all p

/-- A hexadecimal digit or an underscore. -/
def isHexOrBar (c : Char) : Bool :=
  isDigitOrBar c || ('a' ≤ c && c ≤ 'f') || ('A' ≤ c && c ≤ 'F')

/-- One digit, or two that are below sixty. -/
def isSixtieth (cs : List Char) : Bool :=
  match cs with
  | [d] => isPlainDigit d
  | [c, d] => '0' ≤ c && c ≤ '5' && isPlainDigit d
  | _ => false

/-- A numeral and, between colons, parts of base sixty. -/
def isSixties (cs : List Char) : Bool :=
  match Text.piecesBy (· == ':') cs with
  | first :: p :: ps => isNumeral first && (p :: ps).all isSixtieth
  | _ => false

/-- The form of a whole number, without its sign. -/
def isWholeForm (cs : List Char) : Bool :=
  match cs with
  | ['0'] => true
  | '0' :: 'b' :: ds => someOf (fun c => c == '0' || c == '1' || c == '_') ds
  | '0' :: 'x' :: ds => someOf isHexOrBar ds
  | '0' :: ds => someOf (fun c => ('0' ≤ c && c ≤ '7') || c == '_') ds
  | _ => isNumeral cs || isSixties cs

/-- An exponent: nothing, or a letter, a sign and digits. -/
def isExponent : List Char → Bool
  | [] => true
  | e :: s :: ds => (e == 'e' || e == 'E') && (s == '+' || s == '-') && someOf isPlainDigit ds
  | _ => false

/-- The form of a float, without its sign. -/
def isRealForm (signless : Bool) (cs : List Char) : Bool :=
  let word := String.ofList cs
  let whole := cs.takeWhile (· != '.')
  infiniteWords.contains word || (signless && nanWords.contains word) ||
    match cs.dropWhile (· != '.') with
    | '.' :: tail =>
      let exponent := tail.dropWhile isDigitOrBar
      if whole.isEmpty then
        signless && isNumeral (tail.takeWhile isDigitOrBar) && isExponent exponent
      else (isNumeral whole && isExponent exponent) || (isSixties whole && exponent.isEmpty)
    | _ => false

/-- The parts of a date and its time, as digits. -/
structure TimeForm where
  year : List Char
  month : List Char
  day : List Char
  /-- Hours, minutes, seconds and what stands behind the point of these. -/
  time : Option (List Char × List Char × List Char × List Char)
  /-- Whether an offset is ahead of universal time, and its hours and minutes. -/
  offset : Option (Bool × List Char × List Char)

namespace TimeForm

/-- Between so many and so many digits in front, and the rest. -/
def digits? (least most : Nat) (cs : List Char) : Option (List Char × List Char) :=
  let ds := (cs.take most).takeWhile isPlainDigit
  if ds.length < least then none else some (ds, cs.drop ds.length)

/-- The characters after one that must stand in front. -/
def after? (x : Char) : List Char → Option (List Char)
  | c :: cs => if c == x then some cs else none
  | [] => none

/-- A space or a tab. -/
def isSpace (c : Char) : Bool := c == ' ' || c == '\t'

/-- The offset that the characters are, if there are any. -/
def readOffset? : List Char → Option (Option (Bool × List Char × List Char))
  | [] => some none
  | cs =>
    match cs.dropWhile isSpace with
    | ['Z'] => some (some (true, [], []))
    | s :: rest => do
      if s != '+' && s != '-' then none
      else
        let (hours, rest) ← digits? 1 2 rest
        match rest with
        | [] => some (some (s == '+', hours, []))
        | ':' :: rest => do
          let (minutes, rest) ← digits? 2 2 rest
          if rest.isEmpty then some (some (s == '+', hours, minutes)) else none
        | _ => none
    | [] => none

/-- The characters after what stands between a date and its time. -/
def afterDate? : List Char → Option (List Char)
  | [] => none
  | c :: cs =>
    if c == 'T' || c == 't' then some cs
    else if isSpace c then some (cs.dropWhile isSpace)
    else none

/-- The date and the time that the characters are. -/
def read? (cs : List Char) : Option TimeForm := do
  let (year, rest) ← digits? 4 4 cs
  let (month, rest) ← digits? 1 2 (← after? '-' rest)
  let (day, rest) ← digits? 1 2 (← after? '-' rest)
  if rest.isEmpty then some { year, month, day, time := none, offset := none }
  else
    let (hour, rest) ← digits? 1 2 (← afterDate? rest)
    let (minute, rest) ← digits? 2 2 (← after? ':' rest)
    let (second, rest) ← digits? 2 2 (← after? ':' rest)
    let (part, rest) := match rest with
      | '.' :: tail => (tail.takeWhile isPlainDigit, tail.dropWhile isPlainDigit)
      | _ => ([], rest)
    let offset ← readOffset? rest
    some { year, month, day, time := some (hour, minute, second, part), offset }

/-- Whether a text of this form is a time without a tag. -/
def isPlain (t : TimeForm) : Bool := t.time.isSome || (t.month.length == 2 && t.day.length == 2)

end TimeForm

/-- The characters of a text but for one newline at the end. -/
def dropNewline (s : String) : List Char :=
  let cs := s.toList
  if cs.getLast? == some '\n' then cs.dropLast else cs

/-- The kind of a text without quotes. -/
def Kind.ofPlain (s : String) : Kind :=
  let cs := dropNewline s
  let word := String.ofList cs
  let (_, unsigned) := takeSign cs
  if s.isEmpty || nullWords.contains word then .null
  else if trueWords.contains word || falseWords.contains word then .bool
  else if isRealForm (unsigned.length == cs.length) unsigned then .real
  else if isWholeForm unsigned then .whole
  else if (TimeForm.read? cs).any TimeForm.isPlain then .time
  else if word == "<<" then .merge
  else if word == "=" then .plainValue
  else .text

end Backtest.Yaml
