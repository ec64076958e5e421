import Backtest.Shell.Builtin
import Backtest.Shell.CommandReading
import Backtest.Shell.Lines
import Backtest.Shell.Menu
import Backtest.Shell.Regex
import Backtest.Shell.Streams

/-!
# Commands that run

What each command does. A loop, a function or a shell that another starts ends the interruptions that
are meant for it. A command of the background runs when the shell next waits for others, or at the end.

* `Running.tellFault`, a fault of a text; `Running.text`, a text run line by line;
* `Running.step`, one command, by what runs those in it; `Running.command`, a command.
-/

namespace Backtest.Shell

/-- The lines of a text. -/
def linesOf (o : Octets) : List Octets :=
  match o with
  | [] => [[]]
  | c :: cs =>
    if c == '\n' then [] :: linesOf cs
    else match linesOf cs with
      | [] => [[c]]
      | l :: ls => (c :: l) :: ls

namespace Running

/-- What a text is: what the shell was given, or one that it has by itself. -/
inductive Source
  | given
  | substitution
  | evaluated
  deriving DecidableEq

/-- What a source is called. -/
def Source.name : Source → String
  | .given => "-c"
  | .substitution => "command substitution"
  | .evaluated => "eval"

/-- A fault of a text told. -/
def tellFault (source : Source) (start : Nat) (text : Octets) (f : SyntaxFault) : Act Unit := do
  let lines := linesOf text
  let told := f.lines fun k => lines.getD (k - start) []
  told.forM fun (n, o) =>
    Act.tell (("bash: " ++ source.name ++ ": line " ++ toString (n + 1 - start) ++ ": ").toList ++ o)

/-- The documents that no line ended told. -/
def tellOpen (r : Reader) : Act Unit :=
  r.openDocuments.forM fun (n, start, word) =>
    Act.tell (("bash: line " ++ toString n ++ ": warning: here-document at line " ++ toString start ++
      " delimited by end-of-file (wanted \x60").toList ++ word ++ ['\'', ')'])

section

variable (go : Command → Act Unit)

/-- A text run line by line. `fuel` bounds its lines; `survives` tells whether a line that is given up
is followed by others. -/
def linesFrom (source : Source) (start : Nat) (text : Octets) (survives : Bool) :
    Nat → Reader → Act Unit
  | 0, _ => return
  | fuel + 1, r => do
    match CommandReading.line?.run.run r with
    | (.error f, r) =>
      tellOpen r
      tellFault source start text f
      Act.setCode (f.code (← Act.own).code)
      if let .inArray g := f then
        let n := ((g.lines fun _ => []).head?.map (·.1)).getD start
        let behind := (linesOf text).drop (n + 1 - start)
        if g matches .unexpected _ _ then
          let rest := (behind.intersperse ['\n']).flatten
          linesFrom source start text survives fuel (Reader.ofText (n + 1) rest)
    | (.ok none, _) => return
    | (.ok (some c), r) =>
      tellOpen r
      Act.caught (go c) fun i => match i with
        | .abandonLine => if survives then return else throw i
        | _ => throw i
      linesFrom source start text survives fuel { r with openDocuments := [] }

/-- A text run. -/
def text (source : Source) (start : Nat) (o : Octets) : Act Unit :=
  linesFrom go source start o (source == .given) (o.length + 1) (Reader.ofText start o)

/-- The commands of the background run. `fuel` bounds their number. -/
def finishJobs : Nat → Act Unit
  | 0 => return
  | fuel + 1 => do
    match (← get).jobs with
    | [] => return
    | job :: jobs =>
      modify ({ · with jobs })
      let before ← Act.own
      Act.change fun _ => job.own
      Act.caught (go job.command) fun _ => return
      Act.change fun _ => before
      finishJobs fuel

/-- The commands of the background run. -/
def wait : Act Unit := finishJobs go 1000

/-- An action of another shell, for which this one waits. `inner` tells whether it is more than a simple
command. -/
def inChild (inner : Bool) (action : Act Unit) : Act Unit := do
  wait go
  Act.inChild do
    if inner then Act.change fun own => { own with isInner := true, depth := own.depth + 1 }
    Act.caught action fun _ => return
    let code := (← Act.own).code
    wait go
    Act.setCode code

/-- The output of an action of another shell. -/
def captured (action : Act Unit) : Act Octets := do
  let sink ← Act.addChannel (.sink [])
  inChild go true do
    Act.lead 1 (some sink)
    action
  Act.written sink

/-- The file that a text does nothing but read. -/
def fileRead? (o : Octets) : Option (Octets × Word) :=
  match CommandReading.line?.run.run (Reader.ofText 1 o) with
  | (.ok (some (.simple _ [] [] [.file none .read raw w])), r) =>
    if r.rest.all Expansion.isBlankOrLine then some (raw, w) else none
  | _ => none

/-- The output of the commands of a text, which is kept as it is written, or written anew. `fuel` bounds
how deep the names of files that are read hold others. -/
def outputFrom : Nat → Octets → Bool → Act Octets
  | 0, _, _ => return []
  | fuel + 1, o, kept => do
    let line := (← Act.own).line
    let result ← match fileRead? o with
      | some (raw, w) =>
        captured go do
          Act.setCode 0
          let _ ← Streams.within (outputFrom fuel) [.file none .read raw w] do
            if let some c ← Act.channel? 0 then
              let _ ← Act.write 1 (← Act.left c)
      | none => captured go do
        Act.setCode 0
        match if kept then none else Lines.ofText? line o with
        | some c => go c
        | none => text go .substitution line o
    let code := (← Act.own).code
    Act.change ({ · with substituted := some code })
    if result.contains '\x00' then
      Act.complain "warning: command substitution: ignored null byte in input".toList
    return result.filter (· != '\x00')

/-- The output of the commands of a text, which is kept as it is written, or written anew. -/
def output : Octets → Bool → Act Octets := outputFrom go 1000

/-- The last word of a command, kept in its variable. -/
def keepLast (o : Octets) : Act Unit := do
  let _ ← Act.setValue ['_'] (.text o)

/-- The codes of the commands that ran side by side, kept in their variable. -/
def keepCodes (codes : List Nat) : Act Unit := do
  let items := codes.mapIdx fun k n => (k, (toString n).toList)
  let _ ← Act.setValue "PIPESTATUS".toList (.array items)

/-- The code of a command that ran by itself, kept in the variable of such codes. -/
def keepCode : Act Unit := do keepCodes [(← Act.own).code]

/-- A failure that nothing looks at, which may end the shell. -/
def heedFailure : Act Unit := do
  let own ← Act.own
  if own.code != 0 && !own.guarded && own.options.contains 'e' then throw .leaveShell

/-- An action whose failure is looked at. -/
def guarded {α : Type} (action : Act α) : Act α := do
  let before := (← Act.own).guarded
  Act.change ({ · with guarded := true })
  let a ← Act.caught action fun i => do
    Act.change ({ · with guarded := before })
    throw i
  Act.change ({ · with guarded := before })
  return a

/-- A command whose failure is looked at; whether it succeeds. -/
def succeeds (c : Command) : Act Bool := do
  guarded (go c)
  return (← Act.own).code == 0

/-- Whether an index as it is written may name an item. -/
def namesItem (w : Word) : Bool := !(w.isEmpty || Word.plain? w == some ['@'] || Word.plain? w == some ['*'])

/-- The value of an item. One with braces that stand for several words has no index. -/
def givenItem (i : Item) : Act GivenItem := do
  match i.index with
  | none => return .plain (← Expansion.fields (output go) i.value)
  | some (w, adds) =>
    if (Braces.words i.value).length == 1 then
      let index ← Expansion.text (output go) w
      let value ← Expansion.text (output go) (← Expansion.withHome i.value)
      return .indexed index (namesItem w) adds value
    else
      let sign : Octets := if adds then [']', '+', '='] else [']', '=']
      return .plain (← Expansion.fields (output go) (.plain '[' :: w ++ sign.map .plain ++ i.value))

/-- The value of an assignment. -/
def given (a : Assignment) : Act Gift := do
  let index ← match a.index with
    | some w => do pure (some (← Expansion.text (output go) w))
    | none => pure none
  let value ← match a.value with
    | .text w => do
      pure (Given.text (← Expansion.text (output go) (← Expansion.withHomes w)))
    | .array items => do pure (Given.array (← items.mapM (givenItem go)))
  return { name := a.name, index, hasIndex := a.index.all namesItem, adds := a.adds, value }

/-- The texts of a word of a command, with a parameter's value where it gives one. -/
def argumentTexts (declares : Bool) (a : Argument) : Act (List (Octets × Option Gift)) := do
  match a.assignment with
  | some x =>
    if declares then
      let g ← given go x
      return [(x.name, some g)]
    else
      let name := a.word.takeWhile fun p => match p with
        | .plain c => c != '='
        | _ => true
      let value ← Expansion.withHomes (a.word.drop (name.length + 1))
      let texts ← Expansion.fields (output go) (name ++ .plain '=' :: value)
      return texts.map (·, none)
  | none => return (← Expansion.fields (output go) a.word).map (·, none)

/-- A function called by its name with arguments. -/
def call (name : Octets) (body : Command) (arguments : List Octets) : Act Unit := do
  let before ← Act.own
  let calls := { name, line := before.line, saved := [] } :: before.calls
  Act.change ({ · with arguments, calls, loops := 0 })
  let restore : Act Unit := do
    let saved := ((← Act.own).calls.head?.map (·.saved)).getD []
    Act.change ({ · with arguments := before.arguments, calls := before.calls, loops := before.loops })
    saved.forM fun (name, v) => Act.putVariable name v
  Act.caught (go body) fun i => match i with
    | .leaveFunction => return
    | i => do
      restore
      throw i
  restore

/-- A command that nobody knows. -/
def unknown (name : Octets) : Act Unit := do
  if name.contains '/' then
    match ← Testing.entryAt name with
    | some .directory =>
      Act.complain (name ++ ": Is a directory".toList)
      Act.setCode 126
    | some (.file _) =>
      Act.complain (name ++ ": Permission denied".toList)
      Act.setCode 126
    | none =>
      Act.complain (name ++ ": No such file or directory".toList)
      Act.setCode 127
  else
    let shown := if Quoting.needsEscapes name then Quoting.escaped name else name
    Act.complain (shown ++ ": command not found".toList)
    Act.setCode 127

/-- A command by its name, with its words. `functions` tells whether functions count. -/
def byName (functions : Bool) (name : Octets) (words : List (Octets × Option Gift)) : Act Unit := do
  let texts := words.map (·.1)
  let known := (← Act.own).functions
  match if functions then known.lookup name else none with
  | some c => call go name c texts
  | none =>
    if name.head? == some '%' then
      Act.complain "fg: no job control".toList
      Act.setCode 1
    else match String.ofList name with
    | "eval" =>
      let line := (← Act.own).line
      Act.setCode 0
      text go .evaluated line (Expansion.joinedBy [' '] (Builtin.afterDashes texts))
    | "wait" =>
      wait go
      Act.setCode 0
    | other => match Builtin.run? other words with
      | some action => action
      | none => unknown name

/-- A command by its name, behind commands that say how it is looked for. `fuel` bounds their
number. -/
def named : Nat → Bool → List (Octets × Option Gift) → Act Unit
  | _, _, [] => Act.setCode 0
  | 0, _, _ => return
  | fuel + 1, functions, (name, _) :: words =>
    if name == "command".toList || name == "builtin".toList then named fuel false words
    else byName go functions name words

/-- A simple command of texts, with values for parameters while it runs. -/
def simple (gifts : List Gift) (words : List (Octets × Option Gift)) : Act Unit := do
  let names := (gifts.map (·.name)).eraseDups
  let before ← Act.own
  gifts.forM fun g => do
    if let some i := g.index then
      Act.complain ('\x60' :: g.name ++ '[' :: i ++ "]': not a valid identifier".toList)
    else if ← Builtin.give g then Builtin.mark g.name false true
  let restore : Act Unit :=
    names.forM fun name => Act.putVariable name (before.bindings.lookup name)
  Act.caught (named go (words.length + 1) true words) fun i => do
    restore
    throw i
  restore

/-- A simple command. -/
def runSimple (line : Nat) (assignments : List Assignment) (arguments : List Argument)
    (rs : List Redirection) : Act Unit := do
  Act.change ({ · with line, substituted := none })
  let first := (arguments.head?.bind fun a => Word.plain? a.word).getD []
  let declares := CommandReading.declarers.contains (String.ofList first)
  let words := (← arguments.mapM (argumentTexts go declares)).flatten
  if words.isEmpty then
    let bad ← assignments.foldlM (fun bad a => do
      if bad then pure true else pure !(← Builtin.give (← given go a))) false
    if bad then Act.abandon
    let code := (← Act.own).substituted.getD 0
    let lead : Act Unit := do
      let _ ← Streams.within (output go) rs (Act.setCode code)
    if rs.any fun r => r.stream.any (·.isNew) then inChild go false lead else lead
    if rs.isEmpty then Act.setCode code
    keepLast []
  else
    let gifts ← assignments.mapM (given go)
    match words with
    | [(['e', 'x', 'e', 'c'], _)] =>
      Act.setCode (if ← Streams.redirectAll (output go) rs then 0 else 1)
    | _ => let _ ← Streams.within (output go) rs (simple go gifts words)
    keepLast ((words.getLast?.map (·.1)).getD [])
  keepCode
  heedFailure

/-- One round of a loop; whether there is another. -/
def round (body : Act Unit) : Act Bool :=
  Act.caught (do
    body
    return true) fun i => match i with
      | .leaveLoops n => if n ≤ 1 then return false else throw (.leaveLoops (n - 1))
      | .nextRound n => if n ≤ 1 then return true else throw (.nextRound (n - 1))
      | i => throw i

/-- Rounds of a loop as long as a condition holds; `fuel` bounds them. The code is that of the last
body. -/
def rounds (condition : Act Bool) (body : Act Unit) : Nat → Nat → Act Unit
  | 0, code => Act.setCode code
  | fuel + 1, code => do
    let checked ← Act.caught (do return some (← condition)) fun i => match i with
      | .leaveLoops n => if n ≤ 1 then return none else throw (.leaveLoops (n - 1))
      | .nextRound n => if n ≤ 1 then return some true else throw (.nextRound (n - 1))
      | i => throw i
    match checked with
    | none => return
    | some false => Act.setCode code
    | some true =>
      if ← round body then
        let code := (← Act.own).code
        rounds condition body fuel code

/-- A loop, in which the loops are counted. -/
def inLoop (action : Act Unit) : Act Unit := do
  let before := (← Act.own).loops
  Act.change ({ · with loops := before + 1 })
  Act.caught action fun i => do
    Act.change ({ · with loops := before })
    throw i
  Act.change ({ · with loops := before })

/-- A loop over texts. -/
def eachRound (name : Octets) (body : Act Unit) : List Octets → Act Unit
  | [] => return
  | o :: os => do
    if !(← Act.assign name none o) then
      Act.setCode 1
      throw .abandonLine
    if ← round body then eachRound name body os

/-- How many columns a line of the user has. -/
def columns : Act Nat := do
  let n := ((← Act.value? "COLUMNS".toList).bind Number.whole?).getD 0
  return if 0 < n then n.toNat else 80

/-- The text that the user chooses from a menu, which an empty reply shows again; nothing at the end of the
input. `fuel` bounds the replies. -/
def chosen (texts : List Octets) (shows : Bool) : Nat → Act (Option Octets)
  | 0 => return none
  | fuel + 1 => do
    if shows then
      let _ ← Act.write 2 (Menu.text (← columns) texts)
    let _ ← Act.write 2 ((← Act.value? "PS3".toList).getD "#? ".toList)
    Builtin.read []
    if (← Act.own).code != 0 then
      let _ ← Act.write 1 ['\n']
      return none
    let reply := (← Act.value? "REPLY".toList).getD []
    if reply.isEmpty then chosen texts true fuel
    else return some ((Menu.chosen? texts reply).getD [])

/-- Rounds of a loop over texts chosen from a menu. `fuel` bounds them. -/
def menuRounds (name : Octets) (texts : List Octets) (body : Act Unit) (shows : Bool) : Nat → Act Unit
  | 0 => return
  | fuel + 1 => do
    match ← chosen texts shows fuel with
    | none => Act.setCode 1
    | some o =>
      if !(← Act.assign name none o) then
        Act.setCode 1
        throw .abandonLine
      if ← round body then
        let shows := (← Act.value? "REPLY".toList) == some []
        menuRounds name texts body shows fuel

/-- The clauses of a choice tried; `chosen` tells that the one before goes on into the next. Without
one that is carried out the code is zero. -/
def choose (o : Octets) (chosen : Bool) : List ((List Word × ClauseEnd) × Command) → Act Unit
  | [] => if chosen then return else Act.setCode 0
  | ((patterns, ending), body) :: more => do
    let hit ← if chosen then pure true else patterns.anyM fun w => do
      return (← Expansion.pattern (output go) w).matchesOctets o
    if hit then
      go body
      match ending with
      | .leave => return
      | .fallThrough => choose o true more
      | .tryNext => if more.isEmpty then return else choose o false more
    else choose o false more

/-- The code of a yes or a no. -/
def codeOfAnswer (b : Bool) : Nat := if b then 0 else 1

/-- Whether a text has a match of a regular expression, as a code; the match and its groups are kept in
their variable. An expression that is none has a code of its own. -/
def matchRegex (o : Octets) (m : Marked) : Act Nat := do
  match Regex.read? (Regex.textOf m) with
  | none => return 2
  | some (matcher, groups) =>
    let t := Pattern.characters o
    let found := matcher.find? t
    let items := match found with
      | none => []
      | some (i, j, g) => (List.range (groups + 1)).map fun n =>
        (n, if n == 0 then Pattern.octetsIn t i j else ((Groups.text? t g n).getD []).flatten)
    Act.putVariable "BASH_REMATCH".toList
      (some { value := some (.array items), readOnly := false, exported := false })
    return codeOfAnswer found.isSome

/-- The code of a condition: zero if it holds. -/
def verdict : Condition → Act Nat
  | .negation c => return codeOfAnswer ((← verdict c) != 0)
  | .both a b => do
    let n ← verdict a
    if n == 0 then verdict b else return n
  | .either a b => do
    let n ← verdict a
    if n == 0 then return n else verdict b
  | .unary sign w => do
    return codeOfAnswer
      ((← Testing.unary? (String.ofList sign) (← Expansion.textWithHome (output go) w)).getD false)
  | .binary sign left right => do
    let sign := String.ofList sign
    let a ← Expansion.textWithHome (output go) left
    if ["=", "==", "!=", "=~"].contains sign then
      let m ← Expansion.marked (output go) right
      if sign == "=~" then matchRegex a m
      else return codeOfAnswer ((Pattern.of true m).matchesOctets a != (sign == "!="))
    else
      let b ← Expansion.textWithHome (output go) right
      match Testing.comparison? sign with
      | none => return codeOfAnswer ((← Testing.binary sign a b).toOption.getD false)
      | some compare =>
        match ← Act.reckon "[[: " a with
        | none => return 1
        | some x => return codeOfAnswer ((← Act.reckon "[[: " b).any (compare x))

/-- Commands each of which reads what the one before writes. -/
def pipe : List Command → Act (List Nat)
  | [] => return []
  | [c] => do
    inChild go (!c.isSimple) (go c)
    return [(← Act.own).code]
  | c :: cs => do
    let sink ← Act.addChannel (.sink [])
    let started := (← Act.own).code
    inChild go (!c.isSimple) do
      Act.lead 1 (some sink)
      go c
    let code := (← Act.own).code
    Act.setCode started
    let source ← Act.addChannel (.source (← Act.written sink))
    let before := (← Act.own).streams
    Act.lead 0 (some source)
    let codes ← pipe cs
    Act.change ({ · with streams := before })
    return code :: codes

/-- The value of an arithmetic command, and whether it is one. -/
def arithmetic (w : Word) : Act (Option Int) := do
  let o := Expansion.textOf
    (← Expansion.parts (output go) { quoted := true, operand := false, whole := true } w)
  Act.reckon "((: " o

/-- A loop over the texts of words, or over the arguments. -/
def withTexts (line : Nat) (name : Octets) (words : Option (List Word))
    (loop : List Octets → Act Unit) : Act Unit := do
  Act.change ({ · with line })
  if !isName name then
    Act.complain ('\x60' :: name ++ "': not a valid identifier".toList)
    Act.setCode 1
  else
    let texts ← match words with
      | some ws => do pure (← ws.mapM (Expansion.fields (output go))).flatten
      | none => do pure (← Act.own).arguments
    if texts.isEmpty then Act.setCode 0
    inLoop (loop texts)

/-- A compound command with redirections; whether they can be. -/
def redirected (line : Nat) (body : Command) (rs : List Redirection) : Act Bool := do
  Act.change ({ · with line })
  let led ← Streams.within (output go) rs (go body)
  if !led then heedFailure
  return led

/-- A command turned round. One whose redirections cannot be fails all the same. -/
def turned (body : Command) : Act Unit := do
  let led ← guarded do
    match body with
    | .redirected line body rs => redirected go line body rs
    | body =>
      go body
      return true
  Act.setCode (if led && (← Act.own).code != 0 then 0 else 1)

/-- One command, by what runs those in it; `fuel` bounds the rounds of a loop. -/
def step (fuel : Nat) : Command → Act Unit
  | .simple line assignments arguments rs => runSimple go line assignments arguments rs
  | .redirected line body rs => do let _ ← redirected go line body rs
  | .define line name body => do
    Act.change ({ · with line })
    if name.any fun c => "$'\"\\\x60".toList.contains c then
      Act.complain ('\x60' :: name ++ "': not a valid identifier".toList)
      Act.setCode 1
    else
      Act.change fun own =>
        { own with functions := (name, body) :: own.functions.filter (·.1 != name), code := 0 }
  | .sequence list => do
    if list.isEmpty then Act.setCode 0
    list.forM go
  | .onNewLine body => go body
  | .pipeline list => do
    let codes ← pipe go list
    let last := codes.getLastD 0
    let failed := codes.filter (· != 0)
    keepCodes codes
    Act.setCode (if (← Act.own).options.contains 'P' then failed.getLastD 0 else last)
    heedFailure
  | .negation body => turned go body
  | .andThen a b => do if ← succeeds go a then go b
  | .orElse a b => do if !(← succeeds go a) then go b
  | .background body => do
    let source ← Act.addChannel (.source [])
    let own ← Act.own
    let streams := (0, source) :: own.streams.filter (·.1 != 0)
    let isInner := own.isInner || !body.isSimple
    let depth := own.depth + 1
    let job : Job := { own := { own with isInner, depth, streams }, command := body }
    modify fun m => { m with jobs := m.jobs ++ [job] }
    Act.setCode 0
  | .subshell body => do
    inChild go true (go body)
    keepCode
    heedFailure
  | .branch condition success failure => do
    if ← succeeds go condition then go success
    else go failure
  | .loop untilIt condition body =>
    inLoop (rounds (do return (← succeeds go condition) != untilIt) (go body) fuel 0)
  | .each line name words body =>
    withTexts go line name words fun texts => eachRound name (go body) texts
  | .menu line name words body =>
    withTexts go line name words fun texts => do
      if !texts.isEmpty then menuRounds name texts (go body) true fuel
  | .count line start condition next body => do
    Act.change ({ · with line })
    let run (w : Word) (blank : Int) : Act Int := do
      if w.isEmpty then return blank
      match ← arithmetic go w with
      | some n => return n
      | none =>
        Act.setCode 1
        throw (.leaveLoops 1)
    inLoop do
      let _ ← round do
        let _ ← run start 1
        Act.setCode 0
        let ending ← Act.own
        rounds (do return (← run condition 1) != 0) (do
          let on ← round (go body)
          if !on then throw (.leaveLoops 1)
          let _ ← run next 1) fuel ending.code
  | .choice line w patterns bodies => do
    Act.change ({ · with line })
    let o ← Expansion.text (output go) (← Expansion.withHome w)
    choose go o false (patterns.zip bodies)
  | .arithmetic line w => do
    Act.change ({ · with line })
    Act.setCode (if (← arithmetic go w).any (· != 0) then 0 else 1)
    keepCode
    heedFailure
  | .condition line c => do
    Act.change ({ · with line })
    Act.setCode (← verdict go c)
    keepCode
    heedFailure

end

/-- A command. `fuel` bounds how commands are nested, and how often a loop runs. -/
def command : Nat → Command → Act Unit
  | 0, _ => return
  | fuel + 1, c => Act.closingOpened (step (command fuel) fuel c)

end Running

end Backtest.Shell
