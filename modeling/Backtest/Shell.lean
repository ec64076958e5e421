import Backtest.Shell.Invocation
import Backtest.Shell.Running

/-!
# Shell commands

A command of the shell, as a text that is run: what it writes, the code that it leaves, and the files.
The shell has `echo`, `printf`, `exit`, `true`, `false` and the other commands that it needs for itself;
any other is unknown to it. It is the shell of the program's own host; what holds of sessions does not
depend on it.

* `Shell.Outcome`, what a command leaves; `Shell.run`, a command.
-/

namespace Backtest.Shell

/-- What a command leaves: its code, its output, its errors, and the files. -/
structure Outcome where
  code : Nat
  output : Octets
  errors : Octets
  files : FileTree

/-- The variables with which a shell begins that runs a text. -/
def firstVariables (text : Octets) : List (Octets × Variable) :=
  let named (readOnly : Bool) (name : String) (value : Value) : Octets × Variable :=
    (name.toList, { value := some value, readOnly, exported := false })
  let plain (name value : String) := named false name (.text value.toList)
  let locked (name value : String) := named true name (.text value.toList)
  [plain "HOME" "/root", plain "IFS" " \t\n", plain "OPTIND" "1", plain "OPTERR" "1", plain "PS4" "+ ",
    plain "_" "bash", plain "SECONDS" "0", plain "OSTYPE" "linux-gnu", plain "HOSTTYPE" "x86_64",
    plain "MACHTYPE" "x86_64-pc-linux-gnu", named false "BASH_EXECUTION_STRING" (.text text),
    named false "GROUPS" (.array [(0, ['0'])]), locked "UID" "0", locked "EUID" "0",
    locked "SHELLOPTS" "braceexpand:hashall:interactive-comments"]

/-- A shell at its beginning: nothing can be read, what is written is kept. -/
def Machine.first (files : FileTree) (text : Octets) : Machine :=
  { own :=
      { bindings := firstVariables text, functions := [], arguments := [], code := 0
        streams := [(0, 0), (1, 1), (2, 2)], line := 1, calls := [], loops := 0, isInner := false, depth := 0
        guarded := false, substituted := none, options := [], random := .ofSeed 1, opened := [] }
    files
    channels := #[.source [], .sink [], .sink []]
    jobs := [] }

/-- How deep commands may be nested, and how often a loop may run. -/
def patience : Nat := 1000000

/-- The commands of a text run. -/
def runText (files : FileTree) (text : Octets) : Outcome :=
  let go := Running.command patience
  let action : Act Nat := do
    Act.caught (Running.text go .given 1 text) fun _ => return
    let code := (← Act.own).code
    Running.wait go
    return code
  let (result, m) := (action.run).run (Machine.first files text)
  let code := match result with
    | .ok n => n
    | .error _ => m.own.code
  let written (n : Nat) : Octets := match m.channels[n]? with
    | some (.sink pieces) => pieces.reverse.flatten
    | _ => []
  { code, output := written 1, errors := written 2, files := m.files }

/-- A command run, unless it is taken for options. -/
def run (files : FileTree) (command : String) : Outcome :=
  let text := Octets.ofString command
  match Invocation.refusal? text with
  | some r => { code := r.code, output := r.output, errors := r.errors, files }
  | none => runText files text

end Backtest.Shell
