import Backtest.FileTree
import Backtest.Strategy.Script

/-!
# Strategy files

The file of a strategy holds a script, which a loader makes of its bytes. Files of other kinds are
found, but cannot be loaded when the strategy is set up.

* `Strategy.unloadable`, a strategy whose setup fails; `Strategy.ofFileWith`, the strategy at a path.
-/

namespace Backtest

/-- A strategy whose setup fails. -/
def Strategy.unloadable (fault : Fault) : Strategy Float where
  Memory := Unit
  fresh := ()
  setup _ _ := .error fault
  onTick _ m := (.error .notSetUp, m)
  teardown := .ok

/-- The suffix of script files. -/
def scriptSuffix : String := ".py"

/-- The strategy at a path, whose script a loader makes of the bytes of the file. -/
def Strategy.ofFileWith (load : ByteArray → Script) (files : FileTree) (path : Path) :
    Except Fault (Strategy Float) :=
  let unloadable := Strategy.unloadable (.config (.scriptNotLoadable path.shown))
  match files.find? path with
  | .error f => .error f
  | .ok none => .error (.config (.scriptNotFound path.shown))
  | .ok (some .directory) => .ok unloadable
  | .ok (some (.file bytes)) =>
    if path.name.endsWith scriptSuffix then .ok ((load bytes).strategy path.shown)
    else .ok unloadable

end Backtest
