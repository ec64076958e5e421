import Backtest.Notice
import Backtest.Strategy.File
import Backtest.Value

/-!
# Hosts

What a session finds on the machine that it runs on and takes as it is: a reader of YAML, the levels of
messages by their names, a loader of scripts, and a shell.

* `CommandEnd`, what a command of the shell leaves; `Host`.
-/

namespace Backtest

/-- What a command of the shell leaves: its code, its output, its errors, and the files. -/
structure CommandEnd where
  code : Nat
  output : ByteArray
  errors : ByteArray
  files : FileTree

/-- What a session takes from the machine that it runs on. -/
structure Host where
  /-- The value of a YAML text. -/
  readYaml : String → Except Fault Value
  /-- The level of a name, if there is one. -/
  level? : String → Option Level
  /-- The script that the bytes of a file define. -/
  script : ByteArray → Script
  /-- A command that the shell runs. -/
  runCommand : FileTree → String → CommandEnd

end Backtest
