import Backtest.Session.Hosted
import Backtest.Shell
import Backtest.Yaml.Reading

/-!
# Sessions

The sessions of this program, on a host of its own: a reader of YAML, the levels of messages by their
names, scripts by their names, and a shell with the commands that it needs for itself. What holds of
sessions is said of every host.

* `Level.ofName?`, the level of a name; `Script.ofBytes`, the script that a file names;
* `Host.own`; `Configuration.load`, the configuration of a file; `Strategy.ofFile`, the strategy of one;
* `Session.start`, `Session.close`, `Session.run`, a session on that host.
-/

namespace Backtest

/-- The level of a name. -/
def Level.ofName? (name : String) : Option Level := Level.all.find? fun l => l.name == name

/-- The script that a file names; a file without the name of one has no hooks. -/
def Script.ofBytes (bytes : ByteArray) : Script :=
  ((String.fromUTF8? bytes).bind Script.named?).getD .noOnTick

/-- A command run by the shell of this library. -/
def Shell.runCommand (files : FileTree) (command : String) : CommandEnd :=
  let o := Shell.run files command
  { code := o.code, output := o.output.toBytes, errors := o.errors.toBytes, files := o.files }

/-- The host that this library gives. -/
def Host.own : Host where
  readYaml := Yaml.read
  level? := Level.ofName?
  script := Script.ofBytes
  runCommand := Shell.runCommand

/-- The configuration of a file. -/
def Configuration.load (files : FileTree) (path : Path) : Except Fault Configuration :=
  Configuration.loadWith Host.own.readYaml files path

/-- The strategy at a path. -/
def Strategy.ofFile (files : FileTree) (path : Path) : Except Fault (Strategy Float) :=
  Strategy.ofFileWith Host.own.script files path

namespace Session

/-- A session up to the end of its walk, or its report if it ends before. -/
def start (args : Arguments) (clock : Clock) (files : FileTree) : Except Report Walked :=
  Host.own.start args clock files

/-- The report of a run that was walked, so many seconds after its beginning. -/
def close (w : Walked) (seconds : Float) : Report := Host.own.close w seconds

/-- A session from its arguments to its report; `seconds` is how long it is said to take. -/
def run (args : Arguments) (clock : Clock) (files : FileTree) (seconds : Float) : Report :=
  Host.own.run args clock files seconds

end Session

end Backtest
