import Backtest.Configuration
import Backtest.FileTree

/-!
# Configuration files

A configuration file is a YAML map. Its paths are seen from the directory of the file.

* `FileTree.readText`, the text of a file; `Configuration.loadWith`, the configuration of a file by a
  reader of YAML.
-/

namespace Backtest

/-- The text of a file. -/
def FileTree.readText (files : FileTree) (path : Path) : Except Fault String := do
  (String.fromUTF8? (← files.read path)).elim (.error .utf8) .ok

namespace Configuration

/-- The configuration of a file, whose text is read by a reader of YAML. -/
def loadWith (readYaml : String → Except Fault Value) (files : FileTree) (path : Path) :
    Except Fault Configuration := do
  if (← files.find? path).isNone then refuse (.configNotFound path.shown)
  else
    let text ← files.readText path
    match ← readYaml text with
    | .map entries => ofTable (some path.parent) (Value.map entries).toTable
    | _ => refuse .notAMapping

end Configuration

end Backtest
