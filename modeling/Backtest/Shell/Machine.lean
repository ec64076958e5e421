import Backtest.FileTree
import Backtest.Shell.Number
import Backtest.Shell.RandomNumber
import Backtest.Shell.Syntax

/-!
# Shells that run

A shell that runs has variables, functions, arguments and streams of its own; a shell that it starts
begins with a copy of them. The files, and what has been written to the streams, all shells share.
What ends a command before its time is an interruption; the state stays as it was by then.

* `Variable`, `Own`, `Channel`, `Machine`; `Act`, an action of a shell;
* `Act.value?`, `Act.assign`, variables; `Act.say`, `Act.complain`, what is written;
* `Act.inChild`, an action of a shell of its own.
-/

namespace Backtest.Shell

/-- A value of a variable: a text, or the items of an array in the order of their indexes. -/
inductive Value
  | text (o : Octets)
  | array (items : List (Nat × Octets))

/-- A variable. -/
structure Variable where
  /-- Its value; one that is only declared has none. -/
  value : Option Value
  readOnly : Bool
  exported : Bool

/-- What a file or a stream is that was opened. -/
inductive Channel
  /-- What is written is kept, the last piece first. -/
  | sink (pieces : List Octets)
  /-- A text that is read. -/
  | source (rest : Octets)
  | file (path : Path) (offset : Nat) (appends reads writes : Bool)

/-- A function that runs. -/
structure Call where
  name : Octets
  /-- The line of the command that called it. -/
  line : Nat
  /-- What the variables were that it has of its own. -/
  saved : List (Octets × Option Variable)

/-- What belongs to one shell. -/
structure Own where
  bindings : List (Octets × Variable)
  functions : List (Octets × Command)
  arguments : List Octets
  /-- The code of the last command. -/
  code : Nat
  /-- The streams by their numbers, each with its channel. -/
  streams : List (Nat × Nat)
  /-- The line of the command that runs. -/
  line : Nat
  /-- The functions that run, the last one first. -/
  calls : List Call
  /-- How many loops run. -/
  loops : Nat
  /-- Whether another shell has started it for more than a simple command. -/
  isInner : Bool
  /-- How many shells have started one another for it. -/
  depth : Nat
  /-- Whether a failure of the command that runs is looked at by another. -/
  guarded : Bool
  /-- The code of the last command substitution in the command that runs. -/
  substituted : Option Nat
  /-- The letters of the options that are set. -/
  options : Octets
  random : RandomNumber.Source
  /-- The streams that the words of the command opened. -/
  opened : List Nat

/-- A command of the background that has not run. -/
structure Job where
  own : Own
  command : Command

/-- A shell that runs. -/
structure Machine where
  own : Own
  files : FileTree
  channels : Array Channel
  jobs : List Job

/-- What ends a command before its time. -/
inductive Interruption
  /-- So many loops are left. -/
  | leaveLoops (n : Nat)
  /-- So many loops but one are left, and that goes on with its next round. -/
  | nextRound (n : Nat)
  | leaveFunction
  | leaveShell
  /-- The rest of the line is given up. -/
  | abandonLine

/-- An action of a shell. -/
abbrev Act (α : Type) := ExceptT Interruption (StateM Machine) α

namespace Act

/-- What belongs to the shell. -/
def own : Act Own := return (← get).own

/-- What belongs to the shell changed. -/
def change (f : Own → Own) : Act Unit := modify fun m => { m with own := f m.own }

/-- The code of the last command set. -/
def setCode (n : Nat) : Act Unit := change ({ · with code := n })

/-- The channel of a stream. -/
def channel? (stream : Nat) : Act (Option Nat) := return (← own).streams.lookup stream

/-- Bytes with others written over them from an offset on. -/
def overwrite (old : ByteArray) (offset : Nat) (new : ByteArray) : ByteArray :=
  let before := old.extract 0 offset
  let gap : ByteArray := ⟨Array.replicate (offset - before.size) 0⟩
  before ++ gap ++ new ++ old.extract (offset + new.size) old.size

/-- Octets written to a channel; whether it takes them. -/
def writeTo (channel : Nat) (o : Octets) : Act Bool := do
  let m ← get
  match m.channels[channel]? with
  | some (.sink pieces) =>
    set { m with channels := m.channels.set! channel (.sink (o :: pieces)) }
    return true
  | some (.file path offset appends reads true) =>
    let bytes := o.toBytes
    let size := ((m.files.read path).toOption.map (·.size)).getD 0
    let start := if appends then size else offset
    match m.files.change path fun old => overwrite old start bytes with
    | .ok files =>
      let channels := m.channels.set! channel (.file path (start + bytes.size) appends reads true)
      set { m with files, channels }
      return true
    | .error _ => return false
  | _ => return false

/-- Octets written to a stream; whether it takes them. -/
def write (stream : Nat) (o : Octets) : Act Bool := do
  match ← channel? stream with
  | some c => writeTo c o
  | none => return false

/-- Where a shell is, as its faults name it. -/
def position : Act Octets := do
  let o ← own
  let place := if o.calls.isEmpty then "bash" else "environment"
  return (place ++ ": line " ++ toString o.line ++ ": ").toList

/-- Something told to the user as it is. -/
def tell (o : Octets) : Act Unit := do
  let _ ← write 2 (o ++ ['\n'])

/-- Something told to the user with where it happened. -/
def complain (o : Octets) : Act Unit := do tell ((← position) ++ o)

/-- Something told to the user by a command of a name. -/
def complainAs (name : String) (o : Octets) : Act Unit := complain (name.toList ++ ": ".toList ++ o)

/-- The line given up, with a code. -/
def abandon {α : Type} (code : Nat := 1) : Act α := do
  setCode code
  throw .abandonLine

/-- A new channel. -/
def addChannel (c : Channel) : Act Nat := do
  let m ← get
  set { m with channels := m.channels.push c }
  return m.channels.size

/-- What has been written to a channel. -/
def written (channel : Nat) : Act Octets := do
  match (← get).channels[channel]? with
  | some (.sink pieces) => return pieces.reverse.flatten
  | _ => return []

/-- The stream that a path names instead of a file. -/
def streamOf? (o : Octets) : Option Nat :=
  match String.ofList o with
  | "/dev/stdin" => some 0
  | "/dev/stdout" => some 1
  | "/dev/stderr" => some 2
  | _ =>
    let start := "/dev/fd/".toList
    let ds := o.drop start.length
    if start.isPrefixOf o && !ds.isEmpty && ds.all Char.isDigit then some (digitsIn 10 ds) else none

/-- Whether a path names a stream that leads somewhere. -/
def isStream (o : Octets) : Act Bool := do
  match streamOf? o with
  | some n => return (← channel? n).isSome
  | none => return false

/-- What is left to be read on a channel. -/
def left (channel : Nat) : Act Octets := do
  let m ← get
  match m.channels[channel]? with
  | some (.source rest) => return rest
  | some (.file path offset _ true _) =>
    return match m.files.read path with
      | .ok bytes => Octets.ofBytes (bytes.extract offset bytes.size)
      | .error _ => []
  | _ => return []

/-- So many octets of a channel read. -/
def advance (channel n : Nat) : Act Unit := do
  let m ← get
  let channels := match m.channels[channel]? with
    | some (.source rest) => m.channels.set! channel (.source (rest.drop n))
    | some (.file path offset appends reads writes) =>
      m.channels.set! channel (.file path (offset + n) appends reads writes)
    | _ => m.channels
  set { m with channels }

/-- A stream led to a channel, or closed. -/
def lead (stream : Nat) (channel : Option Nat) : Act Unit :=
  change fun o =>
    let others := o.streams.filter (·.1 != stream)
    { o with streams := match channel with
        | some c => (stream, c) :: others
        | none => others }

/-- A channel led to a stream for the words of a command: the last free one below a bound. -/
def openBelow (channel : Nat) : Nat → Act Nat
  | 0 => return 0
  | n + 1 => do
    if (← channel? n).isSome then openBelow channel n
    else
      lead n (some channel)
      change fun o => { o with opened := n :: o.opened }
      return n

/-- An action whose words may open streams, which are closed behind it. -/
def closingOpened (action : Act Unit) : Act Unit := do
  let before := (← own).opened
  action
  let opened := (← own).opened
  if opened.length != before.length then
    (opened.take (opened.length - before.length)).forM (lead · none)
    change ({ · with opened := before })

/-- A variable. -/
def binding? (name : Octets) : Act (Option Variable) := return (← own).bindings.lookup name

/-- A variable set as it is, or taken away. -/
def putVariable (name : Octets) (v : Option Variable) : Act Unit :=
  change fun o =>
    let others := o.bindings.filter (·.1 != name)
    { o with bindings := match v with
        | some v => (name, v) :: others
        | none => others }

/-- An item set in an array, in the order of the indexes. -/
def putItem (n : Nat) (o : Octets) : List (Nat × Octets) → List (Nat × Octets)
  | [] => [(n, o)]
  | (k, x) :: items =>
    if n < k then (n, o) :: (k, x) :: items
    else if n == k then (n, o) :: items
    else (k, x) :: putItem n o items

/-- The items of a value; a text is the first of its own. -/
def itemsOf : Option Value → List (Nat × Octets)
  | none => []
  | some (.text o) => [(0, o)]
  | some (.array items) => items

/-- What a shell does when some of its variables are given a value: numbers are drawn from a seed, and
shells counted from a depth. -/
def heed (name : Octets) (value : Value) : Act Unit := do
  let n := (((itemsOf (some value)).lookup 0).bind Number.whole?).getD 0
  match String.ofList name with
  | "RANDOM" => change ({ · with random := .ofSeed n })
  | "BASH_SUBSHELL" => change ({ · with depth := n.toNat })
  | _ => return

/-- A value set; whether the variable allows it. A list of the shell itself stays as it is. -/
def setValue (name : Octets) (value : Value) : Act Bool := do
  if ["FUNCNAME", "GROUPS"].contains (String.ofList name) then return true
  heed name value
  match ← binding? name with
  | some v =>
    if v.readOnly then
      complain (name ++ ": readonly variable".toList)
      return false
    putVariable name (some { v with value := some value })
    return true
  | none =>
    putVariable name (some { value := some value, readOnly := false, exported := false })
    return true

/-- A text given to a variable, or to an item of an array; whether the variable allows it. -/
def assign (name : Octets) (index : Option Nat) (o : Octets) : Act Bool := do
  let old := (← binding? name).bind (·.value)
  match index, old with
  | none, some (.array items) => setValue name (.array (putItem 0 o items))
  | none, _ => setValue name (.text o)
  | some n, _ => setValue name (.array (putItem n o (itemsOf old)))

/-- The values that the shell itself knows by a name: lines, depths, and the functions that run. -/
def known? (o : Own) (name : Octets) : Option Value :=
  let number (n : Nat) : Value := .text (toString n).toList
  let ofCalls (f : Call → Octets) : Option Value :=
    if o.calls.isEmpty then none else some (.array (o.calls.mapIdx fun k c => (k, f c)))
  match String.ofList name with
  | "LINENO" => some (number o.line)
  | "BASH_SUBSHELL" => some (number o.depth)
  | "FUNCNAME" => ofCalls (·.name)
  | "BASH_SOURCE" => ofCalls fun _ => "environment".toList
  | "BASH_LINENO" => ofCalls fun c => (toString c.line).toList
  | _ => none

/-- The value of a variable. A random number is drawn. -/
def lookUp (name : Octets) : Act (Option Value) := do
  let o ← own
  if name == "RANDOM".toList then
    let (n, random) := o.random.draw
    change ({ · with random })
    return some (.text (toString n).toList)
  return known? o name <|> (o.bindings.lookup name).bind (·.value)

/-- A variable looked up again by some uses of it: random numbers are drawn. -/
def lookUpAgain (name : Octets) : Act Unit := do
  let _ ← lookUp name
  let _ ← lookUp name

/-- The items of a variable. -/
def items (name : Octets) : Act (List (Nat × Octets)) := return itemsOf (← lookUp name)

/-- The text of a variable. -/
def value? (name : Octets) : Act (Option Octets) := return (← items name).lookup 0

/-- The letters of what a variable is: an array, one that cannot be changed, one that is exported. -/
def marks (name : Octets) : Act Octets := do
  let isArray := (← lookUp name) matches some (.array _)
  let v ← binding? name
  return (if isArray then ['a'] else []) ++ (if v.any (·.readOnly) then ['r'] else []) ++
    if v.any (·.exported) then ['x'] else []

/-- An action whose interruptions end in a result. -/
def caught {α : Type} (action : Act α) (result : Interruption → Act α) : Act α :=
  tryCatch action result

/-- An action of a shell of its own, which leaves behind its code, the files and what it wrote. -/
def inChild (action : Act Unit) : Act Unit := do
  let before ← own
  let jobs := (← get).jobs
  modify ({ · with jobs := [] })
  caught action fun _ => return
  let code := (← own).code
  modify fun m => { m with own := { before with code }, jobs }

end Act

end Backtest.Shell
