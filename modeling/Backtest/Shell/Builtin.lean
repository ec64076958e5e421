import Backtest.Shell.Expansion
import Backtest.Shell.Printing
import Backtest.Shell.Testing

/-!
# Commands of the shell itself

What the shell does without starting anything. The words of a command are texts by now; those that give
values to parameters stand beside their values.

* `Given`, a value worked out; `Builtin.give`, a parameter that takes it;
* `Builtin.echo`, `Builtin.printf`, `Builtin.exit` and others; `Builtin.run?`, a command by its name.
-/

namespace Backtest.Shell

/-- An item of an array that has been worked out. -/
inductive GivenItem
  | plain (texts : List Octets)
  /-- An item with its index; `isOne` tells whether the index as it is written may name one. -/
  | indexed (index : Octets) (isOne adds : Bool) (value : Octets)

/-- A value for a parameter that has been worked out. -/
inductive Given
  | text (o : Octets)
  | array (items : List GivenItem)

/-- A parameter with the value that it takes. -/
structure Gift where
  name : Octets
  index : Option Octets
  /-- Whether the index as it is written may name an item. -/
  hasIndex : Bool
  adds : Bool
  value : Given

namespace Builtin

/-- An index told that no item can have. -/
def refuseIndex (shown : Octets) (why : String) : Act Bool := do
  Act.complain (shown ++ ": ".toList ++ why.toList)
  return false

/-- The items of an array with one more, or several; `k` is the index of the next. An item whose index is
none is told and left out. -/
def giveItem (k : Nat) (held : List (Nat × Octets)) : GivenItem → Act (Nat × List (Nat × Octets))
  | .plain texts => return texts.foldl (fun (k, held) o => (k + 1, Act.putItem k o held)) (k, held)
  | .indexed i isOne adds o => do
    let shown := '[' :: i ++ (if adds then "]+=" else "]=").toList ++ o
    let bad (why : String) : Act (Nat × List (Nat × Octets)) := do
      let _ ← refuseIndex shown why
      return (k, held)
    if !isOne then
      return ← bad (if i.isEmpty then "bad array subscript" else "cannot assign to non-numeric index")
    let n ← Act.reckoned i
    match Reckon.indexIn (some (.array held)) n with
    | none => bad "bad array subscript"
    | some n =>
      let before := if adds then (held.lookup n).getD [] else []
      return (n + 1, Act.putItem n (before ++ o) held)

/-- A parameter given its value; whether it can be. -/
def give (g : Gift) : Act Bool := do
  let old := (← Act.binding? g.name).bind (·.value)
  let shown := match g.index with
    | some i => g.name ++ '[' :: i ++ [']']
    | none => g.name
  match g.value with
  | .text o =>
    if !g.hasIndex then return ← refuseIndex shown "bad array subscript"
    let index ← match g.index with
      | none => pure none
      | some i =>
        match Reckon.indexIn old (← Act.reckoned i) with
        | some n => pure (some n)
        | none => return ← refuseIndex shown "bad array subscript"
    if g.name == "RANDOM".toList && index.isNone then
      let before : Int ← if g.adds then Act.reckoned ((← Act.value? g.name).getD []) else pure 0
      match ← Act.reckon "" o with
      | some n => return ← Act.assign g.name none (toString (before + n)).toList
      | none => return true
    let before := if g.adds then ((Act.itemsOf old).lookup (index.getD 0)).getD [] else []
    Act.assign g.name index (before ++ o)
  | .array items =>
    if g.index.isSome then return ← refuseIndex shown "cannot assign list to array member"
    let start := if g.adds then Act.itemsOf old else []
    let next := (start.getLast?.map (·.1 + 1)).getD 0
    let (_, held) ← items.foldlM (fun (k, held) i => giveItem k held i) (next, start)
    Act.setValue g.name (.array held)

/-- Something written by a command; a failure to write is told. -/
def put (name : String) (o : Octets) : Act Unit := do
  if o.isEmpty then return
  match ← Act.channel? 1 with
  | some c => if ← Act.writeTo c o then return
  | none => pure ()
  Act.complainAs name "write error: Bad file descriptor".toList
  Act.setCode 1

/-- The options of `echo`: whether there is a newline and whether escapes count; and the words. -/
def echoOptions (newline escapes : Bool) : List Octets → Bool × Bool × List Octets
  | ('-' :: c :: cs) :: ws =>
    let letters := c :: cs
    if letters.all fun c => c == 'n' || c == 'e' || c == 'E' then
      let escapes := letters.foldl (fun e c => c == 'e' || (e && c != 'E')) escapes
      echoOptions (newline && !letters.contains 'n') escapes ws
    else (newline, escapes, letters.cons '-' :: ws)
  | ws => (newline, escapes, ws)

/-- `echo` writes its words with spaces between them. -/
def echo (words : List Octets) : Act Unit := do
  let (newline, escapes, words) := echoOptions true false words
  let text := Expansion.joinedBy [' '] words
  let (text, goesOn) := if escapes then
      let (o, goesOn, _) := Escape.expand .echo text
      (o, goesOn)
    else (text, true)
  Act.setCode 0
  put "echo" (text ++ if newline && goesOn then ['\n'] else [])

/-- How `printf` is used. -/
def printfUsage : Octets := "printf: usage: printf [-v var] format [arguments]".toList

/-- What `printf` tells of itself. -/
def printfHelp : List String :=
  ["printf: printf [-v var] format [arguments]",
    "    Formats and prints ARGUMENTS under control of the FORMAT.", "    ", "    Options:",
    "      -v var\tassign the output to shell variable VAR rather than",
    "    \t\tdisplay it on the standard output", "    ",
    "    FORMAT is a character string which contains three types of objects: plain",
    "    characters, which are simply copied to standard output; character escape",
    "    sequences, which are converted and copied to the standard output; and",
    "    format specifications, each of which causes printing of the next successive",
    "    argument.", "    ",
    "    In addition to the standard format specifications described in printf(1),",
    "    printf interprets:", "    ",
    "      %b\texpand backslash escape sequences in the corresponding argument",
    "      %q\tquote the argument in a way that can be reused as shell input",
    "      %Q\tlike %q, but apply any precision to the unquoted argument before",
    "    \t\tquoting",
    "      %(fmt)T\toutput the date-time string resulting from using FMT as a format",
    "    \t        string for strftime(3)", "    ",
    "    The format is re-used as necessary to consume all of the arguments.  If",
    "    there are fewer arguments than the format requires,  extra format",
    "    specifications behave as if a zero value or null string, as appropriate,",
    "    had been supplied.", "    ", "    Exit Status:",
    "    Returns success unless an invalid option is given or a write or assignment",
    "    error occurs."]

/-- What `exit` tells of itself. -/
def exitHelp : List String :=
  ["exit: exit [n]", "    Exit the shell.", "    ",
    "    Exits the shell with a status of N.  If N is omitted, the exit status",
    "    is that of the last command executed."]

/-- What a command tells of itself. -/
def help (name : String) (lines : List String) : Act Unit := do
  Act.setCode 2
  put name (lines.flatMap fun l => (l ++ "\n").toList)

/-- A format printed, into a variable or to the output. -/
def print (target : Option Octets) (format : Octets) (texts : List Octets) : Act Unit := do
  let p := Printing.run format texts
  p.complaints.forM (Act.complainAs "printf")
  p.counts.forM fun (name, n) => do
    let _ ← Act.assign name none (toString n).toList
  Act.setCode p.code
  match target with
  | none => put "printf" p.written
  | some name =>
    let (name, index) := Reckon.splitIndex name
    let o := Octets.upToZero p.written
    let hasIndex := index.all fun i => !([[], ['@'], ['*']].contains i)
    if !(← give { name, index, hasIndex, adds := false, value := .text o }) then Act.setCode 1

/-- Whether a text names a variable, or an item of one. -/
def isTarget (o : Octets) : Bool :=
  let (name, index) := Reckon.splitIndex o
  let bracket := o.drop name.length
  isName name && (index.isNone ||
    (o.getLast? == some ']' && index != some [] && Expression.indexLength 0 bracket == bracket.length))

/-- What `printf` is asked for. -/
inductive PrintRequest
  | print (target : Option Octets) (format : Octets) (texts : List Octets)
  | noFormat
  | help
  | noName
  | badName (name : Octets)
  | unknownOption (c : Char)

/-- What words ask of `printf`; `target` is the variable that takes what is written. -/
def printRequest (target : Option Octets) : List Octets → PrintRequest
  | [] => .noFormat
  | ['-', '-'] :: ws => match ws with
    | [] => .noFormat
    | format :: texts => .print target format texts
  | ['-', '-', 'h', 'e', 'l', 'p'] :: _ => .help
  | ['-', 'v'] :: ws => match ws with
    | [] => .noName
    | name :: rest => if isTarget name then printRequest (some name) rest else .badName name
  | ('-' :: 'v' :: name) :: rest =>
    if isTarget name then printRequest (some name) rest else .badName name
  | ('-' :: c :: _) :: _ => .unknownOption c
  | format :: texts => .print target format texts

/-- `printf` writes a format with texts. -/
def printf (words : List Octets) : Act Unit := do
  let misused (why : Option Octets) : Act Unit := do
    why.forM (Act.complainAs "printf")
    Act.tell printfUsage
    Act.setCode 2
  match printRequest none words with
  | .print target format texts => print target format texts
  | .noFormat => misused none
  | .help => help "printf" printfHelp
  | .noName => misused (some "-v: option requires an argument".toList)
  | .unknownOption c => misused (some ('-' :: c :: ": invalid option".toList))
  | .badName name =>
    Act.complainAs "printf" ('\x60' :: name ++ "': not a valid identifier".toList)
    Act.setCode 2

/-- A number that a command takes, told if it is none. -/
def numberFor (name : String) (o : Octets) : Act (Option Int) := do
  let n := Number.whole? o
  if n.isNone then Act.complainAs name (o ++ ": numeric argument required".toList)
  return n

/-- Words without two dashes in front. -/
def afterDashes (words : List Octets) : List Octets :=
  if words.head? == some ['-', '-'] then words.drop 1 else words

/-- A code of a command: a number modulo 256. -/
def codeOf (n : Int) : Nat := (n.emod 256).toNat

/-- The shell left because a command has more words than it takes. -/
def tooMany {α : Type} (name : String) : Act α := do
  Act.complainAs name "too many arguments".toList
  Act.setCode 1
  throw .leaveShell

/-- `exit` leaves the shell with a code, or that of the last command. -/
def exit (words : List Octets) : Act Unit := do
  if words.head? == some "--help".toList then help "exit" exitHelp
  else match afterDashes words with
  | [] => throw .leaveShell
  | o :: more =>
    match ← numberFor "exit" o with
    | none => Act.setCode 2
    | some n =>
      if !more.isEmpty then tooMany "exit"
      Act.setCode (codeOf n)
    throw .leaveShell

/-- `return` leaves a function. -/
def leaveFunction (words : List Octets) : Act Unit := do
  if (← Act.own).calls.isEmpty then
    Act.complainAs "return" "can only \x60return' from a function or sourced script".toList
    Act.setCode 2
  else
    match afterDashes words with
    | [] => throw .leaveFunction
    | o :: more =>
      match ← numberFor "return" o with
      | none => Act.setCode 2
      | some n =>
        if !more.isEmpty then tooMany "return"
        Act.setCode (codeOf n)
      throw .leaveFunction

/-- `break` and `continue` leave loops. -/
def leave (name : String) (i : Nat → Interruption) (words : List Octets) : Act Unit := do
  let loops := (← Act.own).loops
  if loops == 0 then
    Act.complainAs name "only meaningful in a \x60for', \x60while', or \x60until' loop".toList
    Act.setCode 0
  else
    match afterDashes words with
    | [] =>
      Act.setCode 0
      throw (i 1)
    | o :: more =>
      match ← numberFor name o with
      | none =>
        Act.setCode 128
        throw .leaveShell
      | some n =>
        if !more.isEmpty then tooMany name
        if n < 1 then
          Act.complainAs name (o ++ ": loop count out of range".toList)
          Act.setCode 1
          throw (.leaveLoops loops)
        Act.setCode 0
        throw (i (min n.toNat loops))

/-- `shift` drops arguments. -/
def shift (words : List Octets) : Act Unit := do
  let arguments := (← Act.own).arguments
  let drop (n : Int) : Act Unit := do
    if n < 0 then
      Act.complainAs "shift" ((toString n).toList ++ ": shift count out of range".toList)
      Act.setCode 1
    else if arguments.length < n then Act.setCode 1
    else
      Act.change ({ · with arguments := arguments.drop n.toNat })
      Act.setCode 0
  match afterDashes words with
  | [] => drop 1
  | o :: more => match ← numberFor "shift" o with
    | none => Act.setCode 1
    | some n =>
      if !more.isEmpty then tooMany "shift"
      drop n

/-- `let` reckons expressions. -/
def reckonAll (words : List Octets) : Act Unit := do
  let words := afterDashes words
  if words.isEmpty then
    Act.complainAs "let" "expression expected".toList
    Act.setCode 1
  else
    let last ← words.foldlM (fun (last : Option Int) o => do
      match last with
      | none => pure none
      | some _ => Act.reckon "let: " o) (some 0)
    Act.setCode (if last.any (· != 0) then 0 else 1)

/-- What a command does to each of its names, as long as they are names; the code tells if all are. -/
def eachName (command : String) (words : List Octets) (f : Octets → Act Bool) : Act Unit := do
  let bad ← words.foldlM (fun bad o => do
    if isTarget o then pure (bad || !(← f o))
    else
      Act.complainAs command ('\x60' :: o ++ "': not a valid identifier".toList)
      pure true) false
  Act.setCode (if bad then 1 else 0)

/-- `unset` takes variables or functions away. -/
def unset (words : List Octets) : Act Unit := do
  let functions := words.head? == some ['-', 'f']
  let words := if words.head?.any fun w => w.head? == some '-' then words.drop 1 else words
  let bad ← words.foldlM (fun bad o => do
    let (name, index) := Reckon.splitIndex o
    let v ← Act.binding? name
    if functions || v.isNone then
      Act.change fun own => { own with functions := own.functions.filter (·.1 != name) }
      pure bad
    else if v.any (·.readOnly) then
      Act.complainAs "unset" (name ++ ": cannot unset: readonly variable".toList)
      pure true
    else match index with
      | none => do
        Act.putVariable name none
        pure bad
      | some i => do
        let n ← Act.reckoned i
        let items := (Act.itemsOf (v.bind (·.value))).filter fun (k, _) => (k : Int) != n
        let _ ← Act.setValue name (.array items)
        pure bad) false
  Act.setCode (if bad then 1 else 0)

/-- The options and the names of a command that declares. -/
def splitOptions (words : List (Octets × Option Gift)) : Octets × List (Octets × Option Gift) :=
  let options := words.takeWhile fun (o, g) =>
    g.isNone && o.length > 1 && (o.head? == some '-' || o.head? == some '+')
  (options.flatMap fun (o, _) => if o.head? == some '-' then o.drop 1 else [],
    words.drop options.length)

/-- A variable declared, with marks. -/
def mark (name : Octets) (readOnly exported : Bool) : Act Unit := do
  let v := (← Act.binding? name).getD { value := none, readOnly := false, exported := false }
  Act.putVariable name (some
    { v with readOnly := v.readOnly || readOnly, exported := v.exported || exported })

/-- A variable of the function that runs: what it was before is kept. -/
def makeLocal (name : Octets) : Act Unit := do
  let own ← Act.own
  match own.calls with
  | [] => return
  | call :: calls =>
    if (call.saved.lookup name).isNone then
      let old := own.bindings.lookup name
      Act.change ({ · with calls := { call with saved := (name, old) :: call.saved } :: calls })
      Act.putVariable name none

/-- A command that declares variables. -/
def declare (command : String) (words : List (Octets × Option Gift)) : Act Unit := do
  let own ← Act.own
  let (options, words) := splitOptions words
  if command == "local" && own.calls.isEmpty then
    Act.complainAs "local" "can only be used in a function".toList
    Act.setCode 1
  else
    let isLocal := command == "local" ||
      ((command == "declare" || command == "typeset") && !own.calls.isEmpty && !options.contains 'g')
    let readOnly := command == "readonly" || options.contains 'r'
    let exported := command == "export" || options.contains 'x'
    let bad ← words.foldlM (fun bad (o, g) => do
      match g with
      | some g =>
        if isLocal then makeLocal g.name
        let done ← give g
        if done then mark g.name readOnly exported
        pure (bad || !done)
      | none =>
        if isName o then
          if isLocal then makeLocal o
          mark o readOnly exported
          pure bad
        else
          Act.complainAs command ('\x60' :: o ++ "': not a valid identifier".toList)
          pure true) false
    Act.setCode (if bad then 1 else 0)

/-- Options set or taken away. -/
def option (on : Bool) (letters : Octets) : Act Unit :=
  Act.change fun own =>
    let others := own.options.filter fun c => !letters.contains c
    { own with options := if on then others ++ letters.filter "eufP".toList.contains else others }

/-- `set` sets options and arguments. -/
def setOptions : List Octets → Act Unit
  | [] => Act.setCode 0
  | ['-', '-'] :: ws => Act.change ({ · with arguments := ws, code := 0 })
  | [c, 'o'] :: name :: ws => do
    if let some l := Testing.optionNames.lookup (String.ofList name) then option (c == '-') [l]
    setOptions ws
  | ('-' :: c :: cs) :: ws => do
    option true ((c :: cs).filter (· != 'P'))
    setOptions ws
  | ('+' :: c :: cs) :: ws => do
    option false (c :: cs)
    setOptions ws
  | ws => Act.change ({ · with arguments := ws, code := 0 })

/-- The line in front of a text, without backslashes that hide characters unless they stay; and whether
it has an end. -/
def takeLine (raw : Bool) : Octets → Octets × Nat × Bool
  | [] => ([], 0, false)
  | '\n' :: _ => ([], 1, true)
  | '\\' :: c :: cs =>
    let (line, n, ended) := takeLine raw cs
    if raw then
      if c == '\n' then (['\\'], 2, true) else ('\\' :: c :: line, n + 2, ended)
    else (if c == '\n' then line else c :: line, n + 2, ended)
  | c :: cs =>
    let (line, n, ended) := takeLine raw cs
    (c :: line, n + 1, ended)

/-- The fields of a line for so many names; the last takes what is left. `fuel` bounds them. -/
def lineFields (ifs : Octets) : Nat → Octets → List Octets
  | 0, _ => []
  | 1, o =>
    let white (c : Char) := ifs.contains c && isSpace c
    [((o.dropWhile white).reverse.dropWhile white).reverse]
  | n + 1, o =>
    let white (c : Char) := ifs.contains c && isSpace c
    let o := o.dropWhile white
    let field := o.takeWhile (!ifs.contains ·)
    let rest := (o.drop field.length).dropWhile white
    let rest := match rest with
      | c :: cs => if ifs.contains c && !isSpace c then cs else rest
      | [] => []
    field :: lineFields ifs n rest

/-- `read` takes a line of the input into variables. -/
def read (words : List Octets) : Act Unit := do
  let raw := words.contains ['-', 'r']
  let names := words.filter fun w => w.head? != some '-'
  match ← Act.channel? 0 with
  | none => Act.setCode 1
  | some c =>
    let (line, n, ended) := takeLine raw (← Act.left c)
    Act.advance c n
    if names.isEmpty then
      let _ ← Act.assign "REPLY".toList none line
    else
      let fields := lineFields (← Expansion.separators) names.length line
      (names.zip fields).forM fun (name, o) => do
        let _ ← Act.assign name none o
    Act.setCode (if ended then 0 else 1)

/-- A command by its name, if the shell has it; the values of words stand beside them. -/
def run? (name : String) (words : List (Octets × Option Gift)) : Option (Act Unit) :=
  let texts := words.map (·.1)
  match name with
  | "echo" => some (echo texts)
  | "printf" => some (printf texts)
  | "exit" => some (exit texts)
  | "true" | ":" => some (Act.setCode 0)
  | "false" => some (Act.setCode 1)
  | "return" => some (leaveFunction texts)
  | "break" => some (leave "break" .leaveLoops texts)
  | "continue" => some (leave "continue" .nextRound texts)
  | "shift" => some (shift texts)
  | "let" => some (reckonAll texts)
  | "unset" => some (unset texts)
  | "set" => some (setOptions texts)
  | "read" => some (read texts)
  | "test" | "[" => some (Testing.run name texts)
  | "export" | "readonly" | "local" | "declare" | "typeset" => some (declare name words)
  | _ => none

end Builtin

end Backtest.Shell
