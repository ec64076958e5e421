import Backtest.Text.Base64
import Backtest.Text.LowerCase
import Backtest.Value
import Backtest.Yaml.Kind

/-!
# Scalars

The value of a text that is of a kind. A tag may give a text a kind whose form it has not; then there
is a fault.

* `Scalar.whole`, `Scalar.real`, `Scalar.time`; `Scalar.value`, the value of a text of any kind.
-/

namespace Backtest.Yaml.Scalar

open Decimal Text

/-- A scalar without a value. -/
def fail {β : Type} (f : YamlFault) : Except Fault β := .error (.yaml f)

/-- The characters without underscores. -/
def dropBars (s : String) : List Char := s.toList.filter (· != '_')

/-- The value of a digit of a base up to sixteen. -/
def digitOf? (base : Nat) (c : Char) : Option Nat :=
  let n :=
    if isPlainDigit c then c.toNat - 48
    else if 'a' ≤ c && c ≤ 'f' then c.toNat - 87
    else if 'A' ≤ c && c ≤ 'F' then c.toNat - 55
    else base
  if n < base then some n else none

/-- The letter behind a zero that names a base. -/
def baseLetter? (base : Nat) : Option Char :=
  if base == 2 then some 'b' else if base == 8 then some 'o' else if base == 16 then some 'x' else none

/-- The digits of a number without the name of its base in front. -/
def dropBase (base : Nat) (cs : List Char) : List Char :=
  match cs with
  | '0' :: c :: ds => if some c.toLower == baseLetter? base then ds else cs
  | _ => cs

/-- A number in a base: blanks may stand around it, a sign and the name of the base in front of its
digits. -/
def inBase (base : Nat) (cs : List Char) : Except Fault Int :=
  let (negative, ds) := takeSign (stripBy isNumberBlank (plainDigits cs))
  let ds := dropBase base ds
  match if ds.isEmpty then none else ds.mapM (digitOf? base) with
  | some ns => .ok (signed negative (ns.foldl (fun n d => n * base + d) 0))
  | none => fail (.digits base (String.ofList cs))

/-- The parts of a text between colons, each read, from the last to the first. -/
def parts {β : Type} (read : List Char → Except Fault β) (cs : List Char) : Except Fault (List β) :=
  ((piecesBy (· == ':') cs).mapM read).map List.reverse

/-- A whole number without its sign. -/
def magnitude (cs : List Char) : Except Fault Int :=
  match cs with
  | [] => fail .emptyNumber
  | ['0'] => .ok 0
  | '0' :: 'b' :: ds => inBase 2 ds
  | '0' :: 'x' :: ds => inBase 16 ds
  | '0' :: _ => inBase 8 cs
  | _ =>
    if cs.contains ':' then
      (parts (inBase 10) cs).map fun ds => ds.foldr (fun d n => n * 60 + d) 0
    else inBase 10 cs

/-- A whole number. -/
def whole (s : String) : Except Fault Int :=
  match dropBars s with
  | [] => fail .emptyNumber
  | cs =>
    let (negative, ds) := takeSign cs
    (magnitude ds).map fun n => if negative then -n else n

/-- A float that is written as a decimal. -/
def decimal (cs : List Char) : Except Fault Float :=
  let s := String.ofList cs
  (readFloat? s).elim (fail (.notANumber s)) .ok

/-- The sum of floats that count powers of sixty, from a power on. -/
def sumSixties (sum : Float) (power : Nat) : List Float → Except Fault Float
  | [] => .ok sum
  | d :: ds => match ofInt? (Int.pow 60 power) with
    | some unit => sumSixties (sum + d * unit) (power + 1) ds
    | none => fail .unitTooLarge

/-- A float. -/
def real (s : String) : Except Fault Float :=
  match lowerFrom [] (dropBars s) with
  | [] => fail .emptyNumber
  | cs =>
    let (negative, ds) := takeSign cs
    let magnitude :=
      if ds == ".inf".toList then .ok (1.0 / 0.0)
      else if ds == ".nan".toList then .ok (0.0 / 0.0)
      else if ds.contains ':' then do sumSixties 0.0 0 (← parts decimal ds)
      else decimal ds
    magnitude.map fun x => if negative then -x else x

/-- The date of parts, or the first of them that is out of range. -/
def date (year month day : Nat) : Except Fault Date :=
  if year == 0 then fail .yearZero
  else if month == 0 || 12 < month then fail .month
  else (Date.of? year month day).elim (fail .day) .ok

/-- The moment of a date and parts of a day, or the first of these that is out of range. -/
def moment (d : Date) (hour minute second : Nat) : Except Fault Moment :=
  if h : 24 ≤ hour then fail .hour
  else if m : 60 ≤ minute then fail .minute
  else if s : 60 ≤ second then fail .second
  else .ok ⟨d, hour, minute, second, by omega, by omega, by omega⟩

/-- The offset of a sign, hours and minutes in seconds; it is below a day. -/
def offset (ahead : Bool) (hours minutes : List Char) : Except Fault Int :=
  let seconds : Int := (digitsValue hours * 60 + digitsValue minutes) * 60
  let seconds := if ahead then seconds else -seconds
  if seconds.natAbs < Span.day.natAbs then .ok seconds else fail (.offset (Span.shown seconds))

/-- The microseconds of the digits behind a point. -/
def microseconds (ds : List Char) : Nat := digitsValue ((ds ++ List.replicate 6 '0').take 6)

/-- A date, or an instant. -/
def time (s : String) : Except Fault Value :=
  match TimeForm.read? (dropNewline s) with
  | none => fail .notATime
  | some t =>
    let readDate := date (digitsValue t.year) (digitsValue t.month) (digitsValue t.day)
    match t.time with
    | none => readDate.map .date
    | some (hour, minute, second, part) => do
      let offset ← t.offset.mapM fun (ahead, hours, minutes) => offset ahead hours minutes
      let moment ←
        moment (← readDate) (digitsValue hour) (digitsValue minute) (digitsValue second)
      return .instant { moment, microsecond := microseconds part, offset }

/-- A truth value: one of the words, in any case. -/
def truth (s : String) : Except Fault Bool :=
  let word := lowerCase s
  if trueWords.contains word then .ok true
  else if falseWords.contains word then .ok false
  else fail (.truthWord word)

/-- The value of a text that is of a kind. -/
def value (kind : Kind) (s : String) : Except Fault Value :=
  match kind with
  | .null => .ok .null
  | .bool => (truth s).map .bool
  | .whole => (whole s).map .whole
  | .real => (real s).map .real
  | .bytes =>
    if s.toList.any fun c => 128 ≤ c.toNat then fail .malformed
    else (Base64.decode? s).elim (fail .malformed) fun bs => .ok (.bytes bs)
  | .time => time s
  | .text => .ok (.text s)
  | _ => fail .malformed

end Backtest.Yaml.Scalar
