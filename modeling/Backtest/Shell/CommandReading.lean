import Backtest.Shell.WordReading

/-!
# Commands of the shell, as they are read

A text is read line by line: as many lines as it takes to complete the commands that begin on the
first. A word counts as a sign of the language only where a command may begin.

* `CommandReading.redirection?`, `document`, where streams lead; `simple`, `compound?`, commands;
* `CommandReading.chain`, `list`, commands that are joined; `CommandReading.line?`, the next lines.
-/

namespace Backtest.Shell.CommandReading

open Reading WordReading

/-- Whether a word stands here as it is, without quotes. -/
def isAhead (s : String) : Reading Bool := do
  return (← rest).takeWhile (!endsWord ·) == s.toList

/-- A word of the language passed, if it stands here. -/
def accept (s : String) : Reading Bool := do
  skipBlanks
  if ← isAhead s then
    pass s.length
    return true
  else return false

/-- A sign of the language passed, if it stands here. -/
def acceptSign (s : String) : Reading Bool := do
  skipBlanks
  if (← operator?) == some s then
    pass s.length
    return true
  else return false

/-- The words that end a list of commands. -/
def closers : List String := ["then", "elif", "else", "fi", "do", "done", "esac", "\x7d"]

/-- The words that may stand only behind others, or for which there is no command. -/
def misplaced : List String := closers ++ ["in", "]]", "!"]

/-- The signs that end a list of commands. -/
def closingSigns : List String := [")", ";;", ";&", ";;&"]

/-- Whether a list of commands ends here. -/
def isClosed : Reading Bool := do
  skipBlanks
  match ← rest with
  | [] => return true
  | text =>
    let word := String.ofList (text.takeWhile (!endsWord ·))
    match ← operator? with
    | some s => return closingSigns.contains s
    | none => return closers.contains word

section

variable (self : Reading Command)

/-- Commands up to a closing bracket, which may be none. -/
def script : Reading Unit := do
  skipLines
  if (← peek) != some ')' then
    let _ ← self
    if (← peek) != some ')' then unexpected (return)

/-- The fault of what stands here. -/
def misfit {α : Type} : Reading α := unexpected (script self)

/-- A word of the language that must stand here. -/
def need (s : String) : Reading Unit := do
  if !(← accept s) then misfit self

/-- A word that must stand here, and how it is written. -/
def needWord : Reading (Word × Octets) := do
  skipBlanks
  match ← rest with
  | [] | '\n' :: _ => misfit self
  | _ => if (← operator?).isSome then misfit self else slice (word (script self))

/-- A text with quotes and backslashes taken away. -/
def unquoted : Octets → Octets
  | [] => []
  | '\\' :: c :: cs => c :: unquoted cs
  | c :: cs => if c == '\'' || c == '"' || c == '\\' then unquoted cs else c :: unquoted cs

/-- The lines of a document up to the one that ends it, how many characters they have with that one,
and whether there is one. `fuel` bounds the lines. -/
def documentLines (withoutTabs : Bool) (ending : Octets) : Nat → Octets → List Octets × Nat × Bool
  | 0, _ => ([], 0, false)
  | fuel + 1, text =>
    if text.isEmpty then ([], 0, false)
    else
      let line := text.takeWhile (· != '\n')
      let shown := if withoutTabs then line.dropWhile (· == '\t') else line
      if shown == ending then ([], line.length + 1, true)
      else
        let (lines, size, ended) := documentLines withoutTabs ending fuel (text.drop (line.length + 1))
        (shown :: lines, line.length + 1 + size, ended)

/-- A document, behind its sign. It begins behind the line, and behind other documents of the line;
without quotes around its last word it holds expansions. -/
def document (stream : Option StreamName) (withoutTabs : Bool) : Reading Redirection := do
  let (_, raw) ← needWord self
  let ending := unquoted raw
  let r ← get
  let before := (r.rest.takeWhile (· != '\n')).length + 1 + r.behind
  let (lines, size, ended) :=
    documentLines withoutTabs ending (r.rest.length + 1) (r.rest.drop before)
  let size := min size (r.rest.length - before)
  let text := lines.flatMap (· ++ ['\n'])
  set { r with
    behind := r.behind + size
    pending := if ended then r.pending else
      r.pending ++ [(r.line + (r.rest.take (before + size)).count '\n' - 1, r.line, ending)] }
  if ending != raw then return .text stream [.quoted text]
  let body ← tried do
    let now ← get
    set { now with rest := text }
    let body ← parts (script self) .document fun _ => false
    set now
    return some body
  return .text stream (body.getD [.quoted text])

/-- The stream that characters name right before an angle: a number, or a parameter in braces. -/
def streamOf? (front : Octets) : Option StreamName :=
  let inner := (front.drop 1).dropLast
  let name := inner.takeWhile (· != '[')
  if !front.isEmpty && front.all Char.isDigit then some (.number (digitsIn 10 front))
  else if front == '\x7b' :: inner ++ ['\x7d'] && isName name &&
      (name == inner || inner.getLast? == some ']') then some (.new inner)
  else none

/-- The name of a stream right before an angle. -/
def streamName? : Reading (Option StreamName) := do
  let text ← rest
  let front := text.takeWhile (!endsWord ·)
  let behind := text[front.length]?
  if !(behind == some '<' || behind == some '>') || text[front.length + 1]? == some '(' then return none
  match streamOf? front with
  | some s =>
    pass front.length
    return some s
  | none => return none

/-- The signs of redirections to files and streams. -/
def openings : List (String × Opening) :=
  [("<", .read), (">", .write), (">>", .append), ("<>", .readWrite), (">|", .write), ("<&", .sameRead),
    (">&", .sameWrite), ("&>", .writeBoth), ("&>>", .appendBoth)]

/-- A redirection, if one stands here. -/
def redirection? : Reading (Option Redirection) := do
  skipBlanks
  let stream ← streamName?
  match ← operator? with
  | none => return none
  | some sign =>
    if sign == "<<" || sign == "<<-" then
      pass sign.length
      return some (← document self stream (sign == "<<-"))
    else if sign == "<<<" then
      pass sign.length
      let (w, _) ← needWord self
      return some (.text stream [.double w, .quoted ['\n']])
    else match openings.lookup sign with
      | none => return none
      | some opening =>
        pass sign.length
        let (w, raw) ← needWord self
        return some (.file stream opening raw w)

/-- The redirections that stand here. `fuel` bounds the text. -/
def redirectionsFrom : Nat → Reading (List Redirection)
  | 0 => return []
  | fuel + 1 => do
    match ← redirection? self with
    | some r => return r :: (← redirectionsFrom fuel)
    | none => return []

/-- The redirections that stand here. -/
def redirections : Reading (List Redirection) := do redirectionsFrom self ((← rest).length + 1)

/-- A compound command with its redirections. -/
def withRedirections (c : Command) : Reading Command := do
  let n ← line
  let rs ← redirections self
  return if rs.isEmpty then c else .redirected n c rs

/-- The commands whose words may give arrays their values. -/
def declarers : List String := ["declare", "typeset", "local", "export", "readonly"]

/-- What has been read of a simple command. -/
structure Draft where
  assignments : List Assignment
  arguments : List Argument
  redirections : List Redirection
  /-- How many pieces have been read. -/
  pieces : Nat
  /-- The line of the command. -/
  line : Nat

/-- The pieces of a simple command behind those that were read. `fuel` bounds the text. -/
def simpleFrom : Nat → Draft → Reading Draft
  | 0, d => return d
  | fuel + 1, d => do
    let counted (d : Draft) : Reading Draft := do
      let n := (← line) + if (← rest).isEmpty then 1 else 0
      return { d with pieces := d.pieces + 1, line := if d.pieces < 2 then n else d.line }
    skipBlanks
    match ← redirection? self with
    | some r => simpleFrom fuel (← counted { d with redirections := d.redirections ++ [r] })
    | none =>
      match ← rest with
      | [] | '\n' :: _ => counted d
      | _ =>
        if (← operator?).isSome then return ← counted d
        let name := (d.arguments.head?.bind fun a => Word.plain? a.word).getD []
        let declares := declarers.contains (String.ofList name)
        let a ← argument (script self) (d.arguments.isEmpty || declares)
        match a.assignment, d.arguments.isEmpty with
        | some x, true =>
          simpleFrom fuel (← counted { d with assignments := d.assignments ++ [x] })
        | _, _ => simpleFrom fuel (← counted { d with arguments := d.arguments ++ [a] })

/-- Reserved words between which commands stand: an opening one, commands, a closing one. -/
def enclosed (opening closing : String) : Reading Command := do
  need self opening
  let body ← self
  need self closing
  return body

/-- The branches behind a condition. `fuel` bounds their number. -/
def branches : Nat → Reading Command
  | 0 => return default
  | fuel + 1 => do
    let condition ← self
    need self "then"
    let success ← self
    if ← accept "elif" then return .branch condition success (← branches fuel)
    else if ← accept "else" then
      let failure ← self
      need self "fi"
      return .branch condition success failure
    else
      need self "fi"
      return .branch condition success (.sequence [])

/-- The body of a loop. -/
def loopBody : Reading Command := do
  skipBlanks
  if ← isAhead "\x7b" then enclosed self "\x7b" "\x7d" else enclosed self "do" "done"

/-- The words behind `in`, up to the end of a line or a semicolon. `fuel` bounds the text. -/
def wordsFrom : Nat → Reading (List Word)
  | 0 => return []
  | fuel + 1 => do
    skipBlanks
    match ← rest with
    | '\n' :: _ => passLine; return []
    | ';' :: c :: _ =>
      if c == ';' || c == '&' then misfit self
      take
      return []
    | _ =>
      let (w, _) ← needWord self
      return w :: (← wordsFrom fuel)

/-- The pieces of a text between semicolons. -/
def semicolonPieces (o : Octets) : List Octets :=
  match o with
  | [] => [[]]
  | c :: cs =>
    if c == ';' then [] :: semicolonPieces cs
    else match semicolonPieces cs with
      | [] => [[c]]
      | p :: ps => (c :: p) :: ps

/-- The expression of a piece of text. -/
def expressionOf (text : Octets) : Reading Word := do
  let now ← get
  set { now with rest := text.dropWhile isWhite }
  let w ← parts (script self) .expression fun _ => false
  set now
  return w

/-- A loop that counts, behind its brackets. -/
def counting (start : Nat) : Reading Command := do
  let text ← rest
  match closing "(" ')' text with
  | .error e => failUnclosed e
  | .ok n =>
    if text[n + 1]? != some ')' then misfit self
    let inner := text.take n
    let pieces ← (semicolonPieces inner).mapM (expressionOf self)
    pass (n + 2)
    let _ ← acceptSign ";"
    skipLines
    let body ← loopBody self
    match pieces with
    | [a, b, c] => return .count start a b c body
    | _ =>
      let why := if pieces.length < 3 then "arithmetic expression required" else "\x60;' unexpected"
      let shown := "syntax error: \x60((".toList ++ inner ++ "))'".toList
      fail (.told (← line) [("syntax error: " ++ why).toList, shown])

/-- A loop over words, which may be chosen from a menu, behind the word that begins it. -/
def overWords (fromMenu : Bool) : Reading Command := do
  let (_, name) ← needWord self
  let start ← line
  let loop (words : Option (List Word)) (body : Command) : Command :=
    if fromMenu then .menu start name words body else .each start name words body
  skipBlanks
  if (← operator?) == some ";" then
    take
    skipLines
    return loop none (← loopBody self)
  skipLines
  if ← accept "in" then
    let words ← wordsFrom self ((← rest).length + 1)
    skipLines
    return loop (some words) (← loopBody self)
  else return loop none (← loopBody self)

/-- A loop over words, or one that counts, behind the word that begins it. -/
def forLoop : Reading Command := do
  skipBlanks
  if ← startsWith "((" then
    pass 2
    counting self (← line)
  else overWords self false

/-- The patterns of a clause, up to the closing bracket. `fuel` bounds the text. -/
def patternsFrom : Nat → Reading (List Word)
  | 0 => return []
  | fuel + 1 => do
    let (w, _) ← needWord self
    if ← acceptSign "|" then return w :: (← patternsFrom fuel)
    else if ← acceptSign ")" then return [w]
    else misfit self

/-- The clauses of a choice: their patterns, what ends them, and their commands. `fuel` bounds the
text. -/
def clausesFrom : Nat → Reading (List ((List Word × ClauseEnd) × Command))
  | 0 => return []
  | fuel + 1 => do
    skipLines
    if ← accept "esac" then return []
    let _ ← acceptSign "("
    let patterns ← patternsFrom self ((← rest).length + 1)
    skipLines
    let body ← if ← isClosed then pure (.sequence []) else self
    if ← acceptSign ";;" then return ((patterns, .leave), body) :: (← clausesFrom fuel)
    else if ← acceptSign ";;&" then return ((patterns, .tryNext), body) :: (← clausesFrom fuel)
    else if ← acceptSign ";&" then return ((patterns, .fallThrough), body) :: (← clausesFrom fuel)
    else
      need self "esac"
      return [((patterns, .leave), body)]

/-- A choice, behind its name. -/
def caseOf : Reading Command := do
  let (w, _) ← needWord self
  let start ← line
  skipLines
  need self "in"
  let clauses ← clausesFrom self ((← rest).length + 1)
  return .choice start w (clauses.map (·.1)) (clauses.map (·.2))

/-- The signs that ask about one word. -/
def unarySigns : List String :=
  ["-n", "-z", "-e", "-f", "-d", "-s", "-r", "-w", "-x", "-v", "-a", "-b", "-c", "-g", "-h", "-k", "-p",
    "-t", "-u", "-G", "-L", "-N", "-O", "-S", "-o", "-R"]

/-- The signs that ask about two words. -/
def binarySigns : List String :=
  ["==", "=", "!=", "=~", "-eq", "-ne", "-lt", "-le", "-gt", "-ge", "-nt", "-ot", "-ef"]

/-- The name of a sign, an end of a line or the end of the text that stands here; words have none. -/
def signName? : Reading (Option Octets) := do
  skipBlanks
  match ← rest with
  | [] => return some "EOF".toList
  | '\n' :: _ => return some "newline".toList
  | _ =>
    if ← isAhead "]]" then return some "]]".toList
    return (← operator?).map String.toList

/-- A sign, a word or the end of a line passed. -/
def passToken : Reading Unit := do
  skipBlanks
  match ← operator? with
  | some s => pass s.length
  | none => if (← peek) == some '\n' then passLine else let _ ← word (script self)

/-- Something read of a condition. If the text ends within it, that is told, and more behind it. -/
def closedOr {α : Type} (told : Nat → Nat × Octets) (action : Reading α) : Reading α :=
  tryCatch action fun f => match f.unclosed? with
    | some first => do
      passAll
      fail (.condition [first, told (← line)] true)
    | none => fail f

/-- The fault of a condition with a token that stands here; `ifOpen` is told if the text ends within
it. -/
def failCondition {α : Type} (told : List (Nat × Octets)) (ifOpen : Nat → Nat × Octets) : Reading α := do
  closedOr ifOpen (passToken self)
  fail (.condition told false)

/-- The fault of a token that stands here and may not: what it is called, if it is a sign, and what
follows that. -/
def badCondition {α : Type} (what joint : String) : Reading α := do
  let n ← line
  let alone := if what == "argument" then ("unexpected argument" ++ joint).toList
    else (joint.dropWhile fun c => c == ' ' || c == ',').toString.toList
  match ← signName? with
  | some s =>
    let named := "unexpected ".toList ++ what.toList ++ " \x60".toList ++ s ++ ['\'']
    failCondition self [(n, named ++ joint.toList)] (·, alone)
  | none => failCondition self [(n, alone)] (·, alone)

/-- The number by which faults name a number, or a name in braces, right before an angle. -/
def streamToken? : Reading (Option Nat) := do
  skipBlanks
  let before ← get
  let name ← streamName?
  set before
  return name.map fun s => if s.isNew then 283 else 284

/-- A word that a condition needs; `why` names what takes it. -/
def conditionWord (why : String) (read : Reading Word) : Reading Word := do
  if (← signName?).isSome || (← streamToken?).isSome then badCondition self "argument" (" to conditional " ++ why ++ " operator")
  closedOr (·, ("unexpected argument to conditional " ++ why ++ " operator").toList) read

/-- A condition in brackets, behind the first. -/
def bracketed (start : Nat) (inner : Reading Condition) : Reading Condition := do
  let expected := "expected \x60)'".toList
  let c ← tryCatch inner fun f => match f with
    | .condition told atEnd => fail (.condition (told ++ [(start, expected)]) atEnd)
    | f => fail f
  if ← acceptSign ")" then return c
  match ← signName? with
  | some s =>
    let named := "unexpected token \x60".toList ++ s ++ "', ".toList ++ expected
    failCondition self [(start, named)] fun _ => (start, expected)
  | none => failCondition self [(start, expected)] fun _ => (start, expected)

/-- The word behind a sign that compares two. Patterns may be extended ones; a regular expression begins
with any sign but one that ends the condition. -/
def comparedWord (sign : String) : Reading Word := do
  let take (read : Reading Word) : Reading Word := conditionWord self "binary" read
  if sign == "=~" then
    let read := grouped (script self) .anywhere
    let next ← signName?
    let ends := ["]]", "newline", "EOF"].any (fun s => next == some s.toList) || (← streamToken?).isSome
    if ends then take read else closedOr (·, "unexpected argument to conditional binary operator".toList) read
  else if ["=", "==", "!="].contains sign then take (grouped (script self) .behindSigns)
  else take (word (script self))

/-- A term of a condition. -/
def conditionTerm (inner : Reading Condition) : Reading Condition := do
  skipLines
  let start ← line
  if ← isAhead "]]" then failCondition self [] fun n => (n, [])
  if ← acceptSign "(" then bracketed self start inner
  else if (← signName?).isSome then badCondition self "token" " in conditional command"
  else
    if let some n ← streamToken? then
      let text := "unexpected token ".toList ++ (toString n).toList ++ " in conditional command".toList
      failCondition self [(start, text)] (·, text)
    let unknown := "unexpected token \x60\xff' in conditional command".toList
    let (w, raw) ← closedOr (·, unknown) (slice (word (script self)))
    if unarySigns.contains (String.ofList raw) then
      return .unary raw (← conditionWord self "unary" (word (script self)))
    let sign ← signName?
    let text := String.ofList ((← rest).takeWhile (!endsWord ·))
    if sign == some ['<'] || sign == some ['>'] then
      take
      return .binary (sign.getD []) w (← conditionWord self "binary" (word (script self)))
    else if binarySigns.contains text then
      pass text.length
      return .binary text.toList w (← comparedWord self text)
    else if ["]]", "&&", "||", ")"].contains (String.ofList (sign.getD [])) then
      return .unary ['-', 'n'] w
    else badCondition self "token" ", conditional binary operator expected"

/-- What conditions are made of. -/
inductive Level
  /-- Conditions of which one must hold. -/
  | either
  /-- Conditions of which all must hold. -/
  | both
  | term
  deriving DecidableEq

/-- A condition. `fuel` bounds how it is nested. -/
def conditionFrom : Nat → Level → Reading Condition
  | 0, _ => misfit self
  | fuel + 1, .either => do
    skipLines
    let first ← conditionFrom fuel .both
    skipLines
    if ← acceptSign "||" then return .either first (← conditionFrom fuel .either) else return first
  | fuel + 1, .both => do
    let first ← conditionFrom fuel .term
    skipLines
    if ← acceptSign "&&" then
      skipLines
      return .both first (← conditionFrom fuel .both)
    else return first
  | fuel + 1, .term => do
    if ← accept "!" then return .negation (← conditionFrom fuel .term)
    else conditionTerm self (conditionFrom fuel .either)

/-- What is left of a line passed behind a fault of a condition; what is told of it, and whether the
text ends first. `fuel` bounds the text. -/
def passRest (told : List (Nat × Octets)) : Nat → Reading (List (Nat × Octets) × Bool)
  | 0 => return (told, true)
  | fuel + 1 => do
    skipBlanks
    match ← rest with
    | [] => return (told, true)
    | '\n' :: _ => return (told, false)
    | _ =>
      let open? ← tryCatch (do passToken self; return none) fun f => return some f
      match open? with
      | none => passRest told fuel
      | some f => return (told ++ f.unclosed?.toList, true)

/-- A condition up to the sign that closes it. -/
def condition (start : Nat) : Reading Condition :=
  let read : Reading Condition := do
    let c ← conditionFrom self (3 * (← rest).length + 3) .either
    skipLines
    if ← accept "]]" then return c
    let why := "syntax error in conditional expression".toList
    let atEnd := (start, "unexpected EOF while looking for \x60]]'".toList)
    match ← signName? with
    | some s =>
      if s == "EOF".toList then failCondition self [atEnd] fun _ => atEnd
      failCondition self [(start, why ++ ": unexpected token \x60".toList ++ s ++ ['\''])] fun _ => atEnd
    | none => failCondition self [(start, why)] fun _ => atEnd
  tryCatch read fun f => match f with
    | .condition told _ => do
      let (told, atEnd) ← passRest self told ((← rest).length + 1)
      fail (.condition told atEnd)
    | f => fail f

/-- The body of a function. -/
def functionBody (compound : Reading (Option Command)) : Reading Command := do
  skipLines
  match ← compound with
  | some c => withRedirections self c
  | none => misfit self

/-- A compound command, if one begins here. `fuel` bounds how they are nested. -/
def compound? : Nat → Reading (Option Command)
  | 0 => return none
  | fuel + 1 => do
    skipBlanks
    let start ← line
    if ← startsWith "((" then
      match closing "(" ')' ((← rest).drop 2) with
      | .error e => failUnclosed e
      | .ok n =>
        if ((← rest).drop (n + 3)).head? == some ')' then
          let e ← expressionOf self (((← rest).drop 2).take n)
          pass (n + 4)
          return some (.arithmetic start e)
    if ← acceptSign "(" then
      let body ← self
      if ← acceptSign ")" then return some (.subshell body) else misfit self
    else if ← isAhead "\x7b" then return some (.sequence [← enclosed self "\x7b" "\x7d"])
    else if ← accept "if" then return some (← branches self ((← rest).length + 1))
    else if ← accept "while" then
      let condition ← self
      return some (.loop false condition (← enclosed self "do" "done"))
    else if ← accept "until" then
      let condition ← self
      return some (.loop true condition (← enclosed self "do" "done"))
    else if ← accept "for" then return some (← forLoop self)
    else if ← accept "select" then return some (← overWords self true)
    else if ← accept "case" then return some (← caseOf self)
    else if ← accept "[[" then return some (.condition start (← condition self start))
    else if ← accept "function" then
      let (_, name) ← needWord self
      if ← acceptSign "(" then
        if !(← acceptSign ")") then misfit self
      return some (.define start name (← functionBody self (compound? fuel)))
    else return none

/-- A simple command, or a function that is given a name. -/
def simple (compound : Reading (Option Command)) : Reading Command := do
  skipBlanks
  let start ← line
  let text ← rest
  let word := String.ofList (text.takeWhile (!endsWord ·))
  let opens := ["<<", "<<-", "<<<"] ++ openings.map (·.1)
  let sign ← operator?
  if text.isEmpty || (← peek) == some '\n' || misplaced.contains word || sign.any (!opens.contains ·) then
    misfit self
  let empty : Draft := { assignments := [], arguments := [], redirections := [], pieces := 0, line := start }
  let (d, raw) ← slice (simpleFrom self (text.length + 1) empty)
  if (← operator?) != some "(" then return .simple d.line d.assignments d.arguments d.redirections
  take
  if !(d.assignments.isEmpty && d.redirections.isEmpty && d.arguments.length == 1) then
    fail (.unexpected (← line) ['('])
  if !(← acceptSign ")") then misfit self
  let name := (raw.reverse.dropWhile isWhite).reverse
  return .define start name (← functionBody self compound)

/-- A command. -/
def command : Reading Command := do
  let compound := compound? self ((← rest).length + 1)
  match ← compound with
  | some c => withRedirections self c
  | none => simple self compound

/-- A command whose errors go where its output goes. -/
def mergingErrors (c : Command) : Command :=
  let merge : Redirection := .file (some (.number 2)) .sameWrite ['1'] [.plain '1']
  match c with
  | .simple n assignments arguments rs => .simple n assignments arguments (rs ++ [merge])
  | .redirected n body rs => .redirected n body (rs ++ [merge])
  | body => .redirected 0 body [merge]

/-- The commands behind a first one that take each other's output. `fuel` bounds the text. -/
def pipesFrom : Nat → Command → Reading (List Command)
  | 0, c => return [c]
  | fuel + 1, c => do
    if ← acceptSign "|" then
      skipLines
      return c :: (← pipesFrom fuel (← command self))
    else if ← acceptSign "|&" then
      skipLines
      return mergingErrors c :: (← pipesFrom fuel (← command self))
    else return [c]

/-- A command or several that take each other's output, which may be turned round. `fuel` bounds the
text. -/
def pipelineFrom : Nat → Reading Command
  | 0 => misfit self
  | fuel + 1 => do
    let ended : Reading Bool := do
      skipBlanks
      return (← rest).isEmpty || (← peek) == some '\n' || (← operator?) == some ";"
    if ← accept "!" then
      if ← ended then return .negation (.sequence [])
      match ← pipelineFrom fuel with
      | .negation body => return body
      | body => return .negation body
    else if ← accept "time" then
      let _ ← accept "-p"
      if ← ended then return .sequence [] else pipelineFrom fuel
    else
      match ← pipesFrom self ((← rest).length + 1) (← command self) with
      | [c] => return c
      | cs => return .pipeline cs

/-- A command or several that take each other's output. -/
def pipeline : Reading Command := do pipelineFrom self ((← rest).length + 1)

/-- What follows a command on its success or its failure. `fuel` bounds the text. -/
def chainFrom : Nat → Command → Reading Command
  | 0, c => return c
  | fuel + 1, c => do
    if ← acceptSign "&&" then
      skipLines
      chainFrom fuel (.andThen c (← pipeline self))
    else if ← acceptSign "||" then
      skipLines
      chainFrom fuel (.orElse c (← pipeline self))
    else return c

/-- Commands joined by success and failure. -/
def chain : Reading Command := do chainFrom self ((← rest).length + 1) (← pipeline self)

/-- Commands of which the first begins a line. -/
def onNewLine : List Command → List Command
  | c :: cs => .onNewLine c :: cs
  | [] => []

/-- Commands up to what closes them. `fuel` bounds the text. -/
def listFrom : Nat → Reading (List Command)
  | 0 => return []
  | fuel + 1 => do
    let c ← chain self
    skipBlanks
    let behind ← acceptSign "&"
    let c := if behind then .background c else c
    let apart ← if behind then pure true else acceptSign ";"
    skipBlanks
    if apart || (← peek) == some '\n' then
      skipLines
      if ← isClosed then return [c]
      let more ← listFrom fuel
      return c :: (if apart then more else onNewLine more)
    else return [c]

/-- One command of a list, or the list. -/
def listOf : List Command → Command
  | [c] => c
  | cs => .sequence cs

/-- Commands of a line up to its end. `fuel` bounds the text. -/
def lineFrom : Nat → Reading (List Command)
  | 0 => return []
  | fuel + 1 => do
    let c ← chain self
    let behind ← acceptSign "&"
    let c := if behind then .background c else c
    let apart ← if behind then pure true else acceptSign ";"
    skipBlanks
    match ← rest with
    | [] => return [c]
    | '\n' :: _ => passLine; return [c]
    | _ => if apart then return c :: (← lineFrom fuel) else misfit self

end

/-- A list of commands in which lists are nested so deep. -/
def list : Nat → Reading Command
  | 0 => return default
  | fuel + 1 => do
    skipLines
    return listOf (← listFrom (list fuel) ((← rest).length + 1))

/-- The commands of the next lines; nothing at the end of the text. -/
def line? : Reading (Option Command) := do
  skipLines
  let text ← rest
  if text.isEmpty then return none
  return some (listOf (← lineFrom (list text.length) (text.length + 1)))

end Backtest.Shell.CommandReading
