import Backtest.Fault
import Backtest.Generator
import Backtest.Parameter

/-!
# Search spaces

The parameters of a strategy that a search varies: truth values, floats between two bounds and whole
numbers between two bounds, each kind in the order of its declarations.

* `RealRange`, `WholeRange`, a number with its bounds; `RealRange.of`, `WholeRange.of` refuse empty
  ranges;
* `SearchSpace`, the three kinds; `addBool`, `addReal`, `addWhole`, `getBool`, `getReal`, `getWhole`;
* `SearchSpace.randomize`, fresh values: truth values first, then floats, then whole numbers;
* `SearchSpace.parameters`, all values in one table, as a strategy receives them.
-/

namespace Backtest

/-- A float and the bounds from which it is drawn, the upper one excluded. -/
structure RealRange where
  lower : Float
  upper : Float
  value : Float

/-- A whole number and the bounds from which it is drawn, both included. -/
structure WholeRange where
  lower : Int
  upper : Int
  value : Int

/-- A range of floats, unless its lower bound is at or above its upper bound. -/
def RealRange.of (lower upper : Float) : Except ConfigFault RealRange :=
  if lower ≥ upper then .error (.bounds (.real lower) (.real upper))
  else .ok { lower, upper, value := 0.0 }

/-- A range of whole numbers, unless its lower bound is at or above its upper bound. -/
def WholeRange.of (lower upper : Int) : Except ConfigFault WholeRange :=
  if lower ≥ upper then .error (.bounds (.whole lower) (.whole upper))
  else .ok { lower, upper, value := 0 }

/-- The range with a fresh value. A draw that is not below the upper bound is replaced by the lower
one. -/
def RealRange.draw {γ : Type} [Generator γ] (r : RealRange) (g : γ) : RealRange × γ :=
  let (u, g) := Generator.unit g
  let x := r.lower + (r.upper - r.lower) * u
  ({ r with value := if x < r.upper then x else r.lower }, g)

/-- The range with a fresh value. -/
def WholeRange.draw {γ : Type} [Generator γ] (r : WholeRange) (g : γ) : WholeRange × γ :=
  let (n, g) := Generator.between r.lower r.upper g
  ({ r with value := n }, g)

/-- A fresh truth value. -/
def drawBool {γ : Type} [Generator γ] (g : γ) : Bool × γ :=
  let (u, g) := Generator.unit g
  (u < 0.5, g)

/-- The parameters that a search varies. -/
structure SearchSpace where
  bools : Table Bool
  reals : Table RealRange
  wholes : Table WholeRange

namespace SearchSpace

/-- The space without parameters. -/
def empty : SearchSpace := ⟨[], [], []⟩

/-- The number of parameters. -/
def size (s : SearchSpace) : Nat := s.bools.length + s.reals.length + s.wholes.length

/-- One more truth value. -/
def addBool (s : SearchSpace) (name : String) : Except ConfigFault SearchSpace :=
  if s.bools.has name then .error (.duplicateVariable .bool name)
  else .ok { s with bools := s.bools ++ [(name, false)] }

/-- One more float. -/
def addReal (s : SearchSpace) (name : String) (lower upper : Float) :
    Except ConfigFault SearchSpace :=
  if s.reals.has name then .error (.duplicateVariable .real name)
  else do
    let r ← RealRange.of lower upper
    return { s with reals := s.reals ++ [(name, r)] }

/-- One more whole number. -/
def addWhole (s : SearchSpace) (name : String) (lower upper : Int) :
    Except ConfigFault SearchSpace :=
  if s.wholes.has name then .error (.duplicateVariable .whole name)
  else do
    let r ← WholeRange.of lower upper
    return { s with wholes := s.wholes ++ [(name, r)] }

/-- The truth value of a name. -/
def getBool (s : SearchSpace) (name : String) : Except Fault Bool :=
  match s.bools.get? name with
  | some b => .ok b
  | none => .error (.variableNotFound .bool name)

/-- The float of a name. -/
def getReal (s : SearchSpace) (name : String) : Except Fault Float :=
  match s.reals.get? name with
  | some r => .ok r.value
  | none => .error (.variableNotFound .real name)

/-- The whole number of a name. -/
def getWhole (s : SearchSpace) (name : String) : Except Fault Int :=
  match s.wholes.get? name with
  | some r => .ok r.value
  | none => .error (.variableNotFound .whole name)

/-- A table with every entry drawn afresh, in order. -/
def drawEach {β γ : Type} (draw : β → γ → β × γ) : Table β → γ → Table β × γ
  | [], g => ([], g)
  | (name, x) :: t, g =>
    let (x, g) := draw x g
    let (t, g) := drawEach draw t g
    ((name, x) :: t, g)

/-- The space with fresh values for all parameters. -/
def randomize {γ : Type} [Generator γ] (s : SearchSpace) (g : γ) : SearchSpace × γ :=
  let (bools, g) := drawEach (fun _ => drawBool) s.bools g
  let (reals, g) := drawEach RealRange.draw s.reals g
  let (wholes, g) := drawEach WholeRange.draw s.wholes g
  ({ bools, reals, wholes }, g)

/-- All values by name. Of parameters of different kinds with one name the later kind stands. -/
def parameters (s : SearchSpace) : Parameters :=
  let bools : Parameters := s.bools.map fun e => (e.1, .bool e.2)
  let reals : Parameters := s.reals.map fun e => (e.1, .real e.2.value)
  let wholes : Parameters := s.wholes.map fun e => (e.1, .whole e.2.value)
  (bools.merge reals).merge wholes

/-- A space in messages. -/
def shown (s : SearchSpace) : String :=
  s!"RangeBoundVariables({(Value.record s.parameters).shown})"

end SearchSpace

end Backtest
