import Backtest.Definition
import Backtest.SearchSpace

/-!
# Variable definitions

A variable is defined by a line such as `gap,float,0.5,2`: its name, its type and, for a number, its
two bounds. The types are `bool`, `float` and `int`.

* `SearchSpace.addLine`, the space after a line; `readVariables`, the space of a text.
-/

namespace Backtest

namespace SearchSpace

/-- The space with the variable of the given name, type and further parts. -/
def addVariable (s : SearchSpace) (name type : String) (bounds : List String) :
    Except ConfigFault SearchSpace :=
  if type == VariableKind.bool.word then s.addBool name
  else if type == VariableKind.real.word then
    match bounds with
    | [lower, upper] => do
      let lower ← readReal name lower
      let upper ← readReal name upper
      s.addReal name lower upper
    | _ => .error (.variableBounds .real name)
  else if type == VariableKind.whole.word then
    match bounds with
    | [lower, upper] => do
      let lower ← readWhole name lower
      let upper ← readWhole name upper
      s.addWhole name lower upper
    | _ => .error (.variableBounds .whole name)
  else .error (.unknownVariableType type)

/-- The space after the variable that a line defines. -/
def addLine (s : SearchSpace) (line : String) : Except ConfigFault SearchSpace :=
  match parts ',' line with
  | name :: type :: bounds => do
    let name ← checkName name
    s.addVariable name type bounds
  | _ => .error (.variableParts line)

end SearchSpace

/-- The search space that a text defines. -/
def readVariables (text : String) : Except ConfigFault SearchSpace :=
  (definitionLines text).foldlM SearchSpace.addLine .empty

end Backtest
