import Backtest.Moment
import Backtest.Shell.Octets

/-!
# Timestamps

A count of seconds from the start of the year 1970 as a text, by a format: a letter behind a percent
sign stands for a part of the date or of the time, in universal time. Flags and a width in front of the
letter say how it is filled up.

* `Timestamp`, the parts; `Timestamp.ofSeconds`; `Timestamp.field?`, what a letter stands for;
* `Timestamp.write`, a format with the parts filled in.
-/

namespace Backtest.Shell

/-- The parts of a date and of a time of the day. -/
structure Timestamp where
  seconds : Int
  year : Int
  month : Nat
  day : Nat
  /-- The days of the year before this one. -/
  yearDay : Nat
  /-- The weekday: 0 is Sunday. -/
  weekday : Nat
  hour : Nat
  minute : Nat
  second : Nat

namespace Timestamp

/-- The year of a day, by the number of days from the first of January of the year 1. -/
def yearOf (days : Int) : Int :=
  let y := Int.fdiv (days * 400) 146097 + 1
  if days < daysBeforeYear y then y - 1 else if daysBeforeYear (y + 1) ≤ days then y + 1 else y

/-- The month of a day of a year, and the days of the year before that month. -/
def monthOf (year : Int) (yearDay : Nat) : Nat × Nat :=
  (List.range 12).foldl (fun found k =>
    let before := daysBeforeMonth year (k + 1)
    if before ≤ yearDay then (k + 1, before) else found) (1, 0)

/-- The last year that can be written. -/
def lastYear : Int := Int.pow 2 31 + 1899

/-- The parts of the day that lies so many days behind the first of January 1970, at a second. -/
def ofDay (seconds days : Int) (second : Nat) : Timestamp :=
  let n := days + 719162
  let year := yearOf n
  let yearDay := (n - daysBeforeYear year).toNat
  let (month, before) := monthOf year yearDay
  { seconds, year, month, yearDay
    day := yearDay - before + 1
    weekday := (Int.emod (days + 4) 7).toNat
    hour := second / 3600
    minute := second / 60 % 60
    second := second % 60 }

/-- The parts of so many seconds; where the year is too far away, those of the start of 1970. -/
def ofSeconds (n : Int) : Timestamp :=
  let t := ofDay n (Int.fdiv n 86400) (Int.fmod n 86400).toNat
  if t.year.natAbs ≤ lastYear.natAbs then t else ofDay 0 0 0

/-- The names of the weekdays. -/
def weekdays : List String :=
  ["Sunday", "Monday", "Tuesday", "Wednesday", "Thursday", "Friday", "Saturday"]

/-- The names of the months. -/
def months : List String :=
  ["January", "February", "March", "April", "May", "June", "July", "August", "September", "October",
    "November", "December"]

/-- The days from the last weekday of a number up to a day. -/
def sinceWeekday (t : Timestamp) (start : Nat) : Nat := (t.weekday + 7 - start) % 7

/-- The week of the year, where weeks start on a weekday and the first has seven days. -/
def week (t : Timestamp) (start : Nat) : Nat := (t.yearDay + 7 - t.sinceWeekday start) / 7

/-- The year and the week of a day where weeks start on Monday and belong to the year of their
Thursday. -/
def mondayWeek (t : Timestamp) : Int × Nat :=
  let thursday := daysBeforeYear t.year + t.yearDay + 3 - t.sinceWeekday 1
  let year := yearOf thursday
  (year, (thursday - daysBeforeYear year).toNat / 7 + 1)

/-- What a letter stands for. -/
inductive Field
  /-- A number of so many digits, with zeros in front or with spaces. -/
  | number (digits : Nat) (spaces : Bool) (n : Int)
  /-- A text, and the same with its letters turned. -/
  | text (o turned : Octets)
  /-- A format of its own. -/
  | format (o : Octets)

/-- A name, which is turned to capital letters. -/
def name (s : String) : Field := .text s.toList (s.toList.map Char.toUpper)

/-- The hour of a clock with twelve of them. -/
def clockHour (t : Timestamp) : Nat := if t.hour % 12 == 0 then 12 else t.hour % 12

/-- What a letter stands for. -/
def field? (t : Timestamp) (letter : Char) : Option Field :=
  let weekday := weekdays.getD t.weekday ""
  let month := months.getD (t.month - 1) ""
  let two (n : Int) : Field := .number 2 false n
  let short (s : String) : String := String.ofList (s.toList.take 3)
  let half := if t.hour < 12 then "am" else "pm"
  match letter with
  | 'a' => some (name (short weekday))
  | 'A' => some (name weekday)
  | 'b' | 'h' => some (name (short month))
  | 'B' => some (name month)
  | 'c' => some (.format "%a %b %e %H:%M:%S %Y".toList)
  | 'C' => some (two (Int.fdiv t.year 100))
  | 'd' => some (two t.day)
  | 'D' | 'x' => some (.format "%m/%d/%y".toList)
  | 'e' => some (.number 2 true t.day)
  | 'F' => some (.format "%Y-%m-%d".toList)
  | 'g' => some (two (t.mondayWeek.1.fmod 100))
  | 'G' => some (.number 1 false t.mondayWeek.1)
  | 'H' => some (two t.hour)
  | 'I' => some (two t.clockHour)
  | 'j' => some (.number 3 false (t.yearDay + 1))
  | 'k' => some (.number 2 true t.hour)
  | 'l' => some (.number 2 true t.clockHour)
  | 'm' => some (two t.month)
  | 'M' => some (two t.minute)
  | 'n' => some (.text ['\n'] ['\n'])
  | 'p' => some (.text (half.toList.map Char.toUpper) half.toList)
  | 'P' => some (.text half.toList half.toList)
  | 'r' => some (.format "%I:%M:%S %p".toList)
  | 'R' => some (.format "%H:%M".toList)
  | 's' => some (.number 1 false t.seconds)
  | 'S' => some (two t.second)
  | 't' => some (.text ['\t'] ['\t'])
  | 'T' | 'X' => some (.format "%H:%M:%S".toList)
  | 'u' => some (.number 1 false (if t.weekday == 0 then 7 else t.weekday))
  | 'U' => some (two (t.week 0))
  | 'V' => some (two t.mondayWeek.2)
  | 'w' => some (.number 1 false t.weekday)
  | 'W' => some (two (t.week 1))
  | 'y' => some (two (t.year.fmod 100))
  | 'Y' => some (.number 1 false t.year)
  | 'z' => some (.text "+0000".toList "+0000".toList)
  | 'Z' => some (.text "UTC".toList "utc".toList)
  | '%' => some (.text ['%'] ['%'])
  | _ => none

/-- How a field is filled up. -/
structure Filling where
  /-- The flag that says with what: nothing, zeros or spaces. -/
  flag : Option Char
  capital : Bool
  turned : Bool
  width : Nat

/-- A text filled up to the width. -/
def Filling.pad (f : Filling) (o : Octets) : Octets :=
  List.replicate (f.width - o.length) (if f.flag == some '0' then '0' else ' ') ++ o

/-- A number filled up to so many digits, and to the width. -/
def Filling.number (f : Filling) (digits : Nat) (spaces : Bool) (n : Int) : Octets :=
  let sign : Octets := if n < 0 then ['-'] else []
  let shown := (toString n.natAbs).toList
  let fill (c : Char) : Octets := List.replicate (max digits f.width - sign.length - shown.length) c
  f.pad <|
    if f.flag == some '-' then sign ++ shown
    else if f.flag == some '_' || (spaces && f.flag.isNone) then fill ' ' ++ sign ++ shown
    else sign ++ fill '0' ++ shown

/-- The flags in front of a letter. -/
def readFilling (flags width : Octets) : Filling :=
  { flag := flags.reverse.find? "_-0".toList.contains
    capital := flags.contains '^'
    turned := flags.contains '#'
    width := digitsIn 10 width }

/-- A format with the parts filled in; `fuel` bounds it and the formats in it. -/
def writeFrom (t : Timestamp) (capital : Bool) : Nat → Octets → Octets
  | 0, _ => []
  | _ + 1, [] => []
  | fuel + 1, '%' :: cs =>
    let flags := cs.takeWhile "_-0^#".toList.contains
    let behind := cs.drop flags.length
    let width := behind.takeWhile Char.isDigit
    let behind := behind.drop width.length
    let modifier := (behind.take 1).filter fun c => c == 'E' || c == 'O'
    match behind.drop modifier.length with
    | [] => '%' :: cs
    | letter :: rest =>
      let f := readFilling flags width
      let capital := capital || f.capital
      let raise (o : Octets) : Octets := if capital then o.map Char.toUpper else o
      let shown := match t.field? letter with
        | none => '%' :: flags ++ width ++ modifier ++ [letter]
        | some (.number digits spaces n) => f.number digits spaces n
        | some (.text o turned) =>
          f.pad (if f.turned then turned else if letter == 'P' then o else raise o)
        | some (.format o) => f.pad (writeFrom t capital fuel o)
      shown ++ writeFrom t capital fuel rest
  | fuel + 1, c :: cs => c :: writeFrom t capital fuel cs

/-- The length from which on a text is too long. -/
def tooLong : Nat := 128

/-- A format with the parts filled in; the empty one gives the time. What is too long is nothing. -/
def write (t : Timestamp) (format : Octets) : Octets :=
  let format := if format.isEmpty then ['%', 'X'] else format
  let o := writeFrom t false (format.length + 24) format
  if o.length < tooLong then o else []

end Timestamp

end Backtest.Shell
