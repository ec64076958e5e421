import Backtest.Text.Blank
import Backtest.Text.LowerCase
import Backtest.Value

/-!
# Decisions

What a strategy can decide at a tick. A strategy may answer with a word: the decision's own word or
its full name, in any case, blanks around it aside; answering nothing decides nothing.
-/

namespace Backtest

/-- What to do at a tick. -/
inductive Decision
  | noop
  | openLong
  | openShort
  | closeAll
  deriving DecidableEq, Inhabited

namespace Decision

/-- The word of a decision. -/
def word : Decision → String
  | .noop => "noop"
  | .openLong => "long"
  | .openShort => "short"
  | .closeAll => "close"

/-- The full name of a decision, in lower case. -/
def fullName : Decision → String
  | .noop => "noop"
  | .openLong => "open_long"
  | .openShort => "open_short"
  | .closeAll => "close_all"

/-- All decisions. -/
def all : List Decision := [.noop, .openLong, .openShort, .closeAll]

/-- The decision that a word names. -/
def ofWord? (text : String) : Option Decision :=
  let word := Text.lowerCase (Text.strip text)
  all.find? fun d => word == d.word || word == d.fullName

/-- The decision that an answer stands for. -/
def ofValue : Value → Except Fault Decision
  | .null => .ok .noop
  | v => v.displayed.bind fun text => match ofWord? text with
    | some d => .ok d
    | none => .error (.unknownDecision v.shown)

end Decision

end Backtest
