import Backtest.Text.Blank
import Backtest.Text.DecimalDigit
import Backtest.Fault
import Backtest.Moment

/-!
# Reading the time of a tick

The time of a tick is written `month/day/year hour:minute:second`. Each part may have one digit or
two, the year has four; blanks separate date and time. A part is read by the first of its forms that
lets the rest be read.

* `PartReader`, the ways in which a part can be read at the start of a list of characters;
* `Moment.read`, the moment of a text, or the reason why it is none.
-/

namespace Backtest

open Text

/-- The ways of reading a number at the start of a list, in order of preference, each with what is
left. -/
abbrev PartReader := List Char → List (Nat × List Char)

namespace PartReader

/-- One digit from `low` to `high`. -/
def digit (low high : Nat) : PartReader
  | c :: cs =>
    let n := c.toNat - 48
    if 48 ≤ c.toNat && low ≤ n && n ≤ high then [(n, cs)] else []
  | [] => []

/-- One digit of any script. -/
def anyDigit : PartReader
  | c :: cs => match digitValue? c with
    | some n => [(n, cs)]
    | none => []
  | [] => []

/-- A space, worth nothing. -/
def space : PartReader
  | ' ' :: cs => [(0, cs)]
  | _ => []

/-- Two readers one after the other, the first giving the tens. -/
def pair (a b : PartReader) : PartReader := fun cs =>
  (a cs).flatMap fun (m, cs) => (b cs).map fun (n, cs) => (10 * m + n, cs)

/-- The ways of several readers. -/
def oneOf (rs : List PartReader) : PartReader := fun cs => rs.flatMap (· cs)

/-- The month: 10 to 12, 01 to 09, 1 to 9. -/
def month : PartReader := oneOf [pair (digit 1 1) (digit 0 2), pair (digit 0 0) (digit 1 9), digit 1 9]

/-- The day of the month: 30 and 31, 10 to 29, 01 to 09, 1 to 9, a space and 1 to 9. -/
def day : PartReader :=
  oneOf [pair (digit 3 3) (digit 0 1), pair (digit 1 2) anyDigit, pair (digit 0 0) (digit 1 9),
    digit 1 9, pair space (digit 1 9)]

/-- The year: four digits. -/
def year : PartReader := pair (pair (pair anyDigit anyDigit) anyDigit) anyDigit

/-- The hour: 20 to 23, 00 to 19, 0 to 9. -/
def hour : PartReader := oneOf [pair (digit 2 2) (digit 0 3), pair (digit 0 1) anyDigit, anyDigit]

/-- The minute: 00 to 59, 0 to 9. -/
def minute : PartReader := oneOf [pair (digit 0 5) anyDigit, anyDigit]

/-- The second: 60 and 61, 00 to 59, 0 to 9. -/
def second : PartReader := oneOf [pair (digit 6 6) (digit 0 1), pair (digit 0 5) anyDigit, anyDigit]

/-- A reader followed by a character. -/
def before (c : Char) (r : PartReader) : PartReader := fun cs =>
  (r cs).filterMap fun (n, cs) => match cs with
    | d :: cs => if d == c then some (n, cs) else none
    | [] => none

/-- A reader followed by at least one blank; all blanks are taken. -/
def beforeBlanks (r : PartReader) : PartReader := fun cs =>
  (r cs).filterMap fun (n, cs) => match cs with
    | d :: cs => if isBlank d then some (n, cs.dropWhile isBlank) else none
    | [] => none

end PartReader

/-- The six numbers of a time and what is left of the text, read in the preferred way. -/
def timeParts? (cs : List Char) : Option (List Nat × List Char) :=
  let ways := [PartReader.month.before '/', PartReader.day.before '/', PartReader.year.beforeBlanks,
    PartReader.hour.before ':', PartReader.minute.before ':', PartReader.second]
  let step (found : List (List Nat × List Char)) (r : PartReader) :=
    found.flatMap fun (ns, cs) => (r cs).map fun (n, cs) => (ns ++ [n], cs)
  (ways.foldl step [([], cs)]).head?

/-- The moment with the given numbers, or the first of them that is out of range. -/
def Moment.of (year month day hour minute second : Nat) : Except TickFault Moment :=
  if year == 0 then .error .yearZero
  else match Date.of? year month day with
    | none => .error .dayOutOfRange
    | some date =>
      if h : hour < 24 ∧ minute < 60 ∧ second < 60 then
        .ok { date, hour, minute, second, hour_lt := h.1, minute_lt := h.2.1, second_lt := h.2.2 }
      else .error .secondOutOfRange

/-- The moment that a text gives, blanks around it aside. -/
def Moment.read (text : String) : Except TickFault Moment :=
  let s := strip text
  match timeParts? s.toList with
  | some ([month, day, year, hour, minute, second], rest) =>
    if rest.isEmpty then Moment.of year month day hour minute second
    else .error (.timeTrailing (String.ofList rest))
  | _ => .error (.timeMismatch s)

end Backtest
