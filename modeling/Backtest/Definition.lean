import Backtest.Decimal.Reading
import Backtest.Fault

/-!
# Definitions

Charts and variables are defined by lines of text, separated by newlines or semicolons. Blank lines
and lines that start with two slashes say nothing.

* `definitionLines`, the lines that say something;
* `checkName`, the rule for names: one or more ASCII letters, digits, underscores and hyphens;
* `readWhole`, `readReal`, the numbers of a definition; `sampleDays`, a duration in weeks as days.
-/

namespace Backtest

open Text Decimal

/-- A character between two definitions. -/
def isSeparator (c : Char) : Bool := c == ';' || c == '\n'

/-- A line that says nothing. -/
def isRemark (line : List Char) : Bool :=
  match line with
  | [] => true
  | '/' :: '/' :: _ => true
  | _ => false

/-- The lines of a text that say something, without the blanks at their ends. -/
def definitionLines (text : String) : List String :=
  (((piecesBy isSeparator text.toList).map (stripBy isBlank)).filter fun l => !isRemark l).map
    String.ofList

/-- A character that a name may hold. -/
def isNameChar (c : Char) : Bool :=
  ('A' ≤ c && c ≤ 'Z') || ('a' ≤ c && c ≤ 'z') || ('0' ≤ c && c ≤ '9') || c == '_' || c == '-'

/-- A name, if it is one. -/
def checkName (name : String) : Except ConfigFault String :=
  if name.isEmpty then .error .emptyName
  else if name.toList.all isNameChar then .ok name
  else .error (.nameCharacter name)

/-- A whole number of a definition; the label says what it counts. -/
def readWhole (label text : String) : Except ConfigFault Int :=
  match readInt? text with
  | some n => .ok n
  | none => .error (.notAnInteger label text)

/-- A float of a definition; the label says what it is. -/
def readReal (label text : String) : Except ConfigFault Float :=
  match readFloat? text with
  | some x => .ok x
  | none => .error (.notANumber label text)

/-- The parts of a line between separators, without the blanks at their ends. -/
def parts (separator : Char) (line : String) : List String := (splitOn separator line).map strip

/-- The days of a duration such as `2 weeks`. -/
def sampleDays (text : String) : Except ConfigFault Nat :=
  match words text with
  | [count, unit] => do
    let n ← readWhole "number of periods" count
    if n < 1 then .error .periodCount
    else if unit == "week" || unit == "weeks" then .ok (n.toNat * 7)
    else .error (.unknownUnit unit)
  | _ => .error .sampleFormat

end Backtest
