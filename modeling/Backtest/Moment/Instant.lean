import Backtest.Decimal.Binary
import Backtest.Decimal.Reading
import Backtest.Fault
import Backtest.Moment

/-!
# Instants

An instant is a moment with microseconds and, if it is known, an offset from universal time. It is the
time of a tick, and a document can give one, or a date. Each has a plain form and a form in which
messages quote it.

* `Date.plain`, `Date.shown`; `Span.shown`, a span of time in seconds;
* `Instant`, with `Instant.plain` and `Instant.shown`; `Instant.same`, whether two instants are equal;
* `Instant.ofMoment`; `Instant.isSunday`, `Instant.iso`, as on the clock of the instant;
  `Instant.epochSeconds`, the whole seconds in universal time.
-/

namespace Backtest

open Decimal

/-- Four digits of a number. -/
def fourDigits (n : Nat) : String := String.ofList (paddedNat 4 n)

/-- A date as `year-month-day`; the year has four digits. -/
def Date.plain (d : Date) : String :=
  s!"{fourDigits d.year}-{Moment.twoDigits d.month}-{Moment.twoDigits d.day}"

/-- A date as messages quote it. -/
def Date.shown (d : Date) : String := s!"datetime.date({d.year}, {d.month}, {d.day})"

namespace Span

/-- The seconds of a day. -/
def day : Int := 86400

/-- A span of so many seconds as messages quote it: whole days, rounded down, and the seconds beside
them. -/
def shown (seconds : Int) : String :=
  let days := Int.fdiv seconds day
  let rest := Int.fmod seconds day
  let parts := (if days == 0 then [] else [s!"days={days}"]) ++
    (if rest == 0 then [] else [s!"seconds={rest}"])
  let inner := if parts.isEmpty then "0" else String.intercalate ", " parts
  s!"datetime.timedelta({inner})"

end Span

/-- A moment with microseconds and an offset. -/
structure Instant where
  moment : Moment
  microsecond : Nat
  /-- The seconds that the moment is ahead of universal time, if that is known. -/
  offset : Option Int
  deriving DecidableEq

namespace Instant

/-- An offset as a sign, hours and minutes. -/
def plainOffset (seconds : Int) : String :=
  let sign := if seconds < 0 then "-" else "+"
  let minutes := seconds.natAbs / 60
  s!"{sign}{Moment.twoDigits (minutes / 60)}:{Moment.twoDigits (minutes % 60)}"

/-- An instant as `year-month-day hour:minute:second`, with the microseconds if there are any and the
offset if it is known. -/
def plain (i : Instant) : String :=
  let m := i.moment
  let time :=
    s!"{Moment.twoDigits m.hour}:{Moment.twoDigits m.minute}:{Moment.twoDigits m.second}"
  let micro := if i.microsecond == 0 then "" else "." ++ String.ofList (paddedNat 6 i.microsecond)
  let ahead := (i.offset.map plainOffset).getD ""
  s!"{m.date.plain} {time}{micro}{ahead}"

/-- An offset as messages quote it. -/
def shownOffset (seconds : Int) : String :=
  if seconds == 0 then "datetime.timezone.utc" else s!"datetime.timezone({Span.shown seconds})"

/-- An instant as messages quote it: seconds and microseconds are left out where they are zero to the
end. -/
def shown (i : Instant) : String :=
  let m := i.moment
  let d := m.date
  let tail := if i.microsecond != 0 then [m.second, i.microsecond]
    else if m.second != 0 then [m.second] else []
  let numbers := ([d.year, d.month, d.day, m.hour, m.minute] ++ tail).map fun n => s!"{n}"
  let zone := match i.offset with
    | some seconds => [s!"tzinfo={shownOffset seconds}"]
    | none => []
  let inner := String.intercalate ", " (numbers ++ zone)
  s!"datetime.datetime({inner})"

/-- Whether two instants are equal: both on the same clock, and the same moment there. An instant of
known offset equals none without. -/
def same (a b : Instant) : Bool :=
  match a.offset, b.offset with
  | none, none => a == b
  | some x, some y => a.moment.epochSeconds - x == b.moment.epochSeconds - y &&
      a.microsecond == b.microsecond
  | _, _ => false

/-- A moment without microseconds, of no known offset. -/
def ofMoment (moment : Moment) : Instant := { moment, microsecond := 0, offset := none }

/-- The date on the clock of the instant. -/
def date (i : Instant) : Date := i.moment.date

/-- The day of the month. -/
def day (i : Instant) : Nat := i.moment.day

/-- The weekday: 0 is Sunday. -/
def weekday (i : Instant) : Int := i.moment.weekday

/-- Whether the instant falls on a Sunday. -/
def isSunday (i : Instant) : Bool := i.moment.isSunday

/-- The instant as `year-month-day hour:minute:second`; the year has no leading zeros. -/
def iso (i : Instant) : String := i.moment.iso

/-- The seconds in universal time up to the second of an instant. An instant of no known offset counts
as one of universal time. -/
def wholeSeconds (i : Instant) : Int := i.moment.epochSeconds - i.offset.getD 0

/-- The microseconds in universal time from the start of the year 1970. -/
def epochMicroseconds (i : Instant) : Int := i.wholeSeconds * 1000000 + i.microsecond

/-- The seconds from the start of the year 1970, as a float without its fraction: toward zero, and by
the float that is nearest. A whole number of seconds is a float. -/
def epochSeconds (i : Instant) : Int :=
  if i.microsecond == 0 then i.wholeSeconds
  else
    let micros := i.epochMicroseconds
    (wholePart? (ofDecimal (micros < 0) micros.natAbs (-6))).getD 0

end Instant

end Backtest
