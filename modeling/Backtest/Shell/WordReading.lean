import Backtest.Shell.Escape
import Backtest.Shell.Reader

/-!
# Words of the shell, as they are read

A word ends at a blank or a sign of the language that is not quoted. What a dollar sign or a backquote
begins is read up to its end and kept as it is written, apart from the words inside braces.

* `WordReading.Place`, where characters stand; `WordReading.parts`, the parts up to some character;
* `WordReading.argument`, a word that may give a parameter its value; `WordReading.operators`.
-/

namespace Backtest.Shell.WordReading

open Reading

/-- Where characters stand, for the signs that count there. -/
inductive Place
  /-- In the words of a command. -/
  | bare
  /-- Between double quotes. -/
  | double
  /-- In a document. -/
  | document
  /-- In a prompt. -/
  | prompt
  /-- In braces behind a dollar sign. -/
  | operand
  /-- In braces between double quotes. -/
  | doubleOperand
  /-- In an arithmetic expression. -/
  | expression
  deriving DecidableEq

/-- Whether quotes and backslashes count for all characters. -/
def Place.isFree : Place → Bool
  | .bare | .operand => true
  | _ => false

/-- A reader of parts: up to a character that ends them, or to the end. -/
abbrev PartsReader := Place → (Char → Bool) → Reading Word

/-- Parts with the text in which they stand, for the faults of those that mean nothing. -/
def inText (text : Octets) (w : Word) : Word :=
  w.map fun
    | .bad _ => .bad text
    | .parameter indirect p => .parameter indirect { p with raw := text }
    | p => p

/-- Parts that know the text in which they stand. -/
def whole (action : Reading Word) : Reading Word := do
  let (w, text) ← slice action
  return inText text w

/-- A sign of the language, or a blank, that ends a word. -/
def endsWord (c : Char) : Bool := " \t\n;&|<>()".toList.contains c

/-- The name of a parameter in braces. -/
def parameterName? : Reading (Option Octets) := do
  match ← rest with
  | c :: cs =>
    let name :=
      if isNameStart c then (c :: cs).takeWhile isNameChar
      else if c.isDigit then (c :: cs).takeWhile Char.isDigit
      else if isSpecial c then [c] else []
    pass name.length
    return if name.isEmpty then none else some name
  | [] => return none

/-- A character that must follow. -/
def expect? (c : Char) : Reading (Option Unit) := do
  if (← peek) == some c then
    take
    return some ()
  else return none

/-- An index in brackets, if there is one. -/
def index? (self : PartsReader) : Reading (Option Word) := do
  if (← peek) != some '[' then return none
  take
  let parts ← self .operand (· == ']')
  if (← expect? ']').isSome then return some parts else fail (.unmatched (← line) ']')

/-- An index in brackets that close before the braces do. -/
def closedIndex? (self : PartsReader) (place : Place) : Reading (Option Word) := do
  take
  let parts ← self place fun c => c == ']' || c == '\x7d'
  return (← expect? ']').map fun _ => parts

/-- Braces that hold the length of a parameter, behind their sign. -/
def lengthOf? (self : PartsReader) : Reading (Option Part) :=
  tried do
    take
    match ← parameterName? with
    | some name =>
      let bracketed := (← peek) == some '['
      let index ← if bracketed then closedIndex? self .operand else pure none
      if bracketed && index.all List.isEmpty then return none
      return (← expect? '\x7d').map fun _ =>
        .parameter false { raw := [], shown := name, name, index, use := .length, words := [] }
    | none => return none

/-- Braces that hold the names or the indexes of parameters, behind their sign. -/
def namesOf? (self : PartsReader) : Reading (Option Part) :=
  tried do
    take
    let name := (← rest).takeWhile isNameChar
    pass name.length
    match ← rest with
    | '@' :: '\x7d' :: _ => pass 2; return if isName name then some (.names name '@') else none
    | '*' :: '\x7d' :: _ => pass 2; return if isName name then some (.names name '*') else none
    | '[' :: _ =>
      let index ← index? self
      let done ← expect? '\x7d'
      return match done, index.bind Word.plain? with
        | some _, some [c] => if c == '@' || c == '*' then some (.indexes name c) else none
        | _, _ => none
    | _ => return none

/-- What stands before the colon that divides a slice. A colon that belongs to a choice, or that stands in
brackets, does not divide. `fuel` bounds the text. -/
def sliceStartFrom (self : PartsReader) : Nat → Nat → Nat → Reading Word
  | 0, _, _ => return []
  | fuel + 1, choices, depth => do
    let front ← self .expression fun c => "?:()\x7d".toList.contains c
    let more (choices depth : Nat) : Reading Word := do
      let sign := (← peek).toList.map Part.plain
      take
      return front ++ sign ++ (← sliceStartFrom self fuel choices depth)
    match ← peek with
    | some '(' => more choices (depth + 1)
    | some ')' => more choices (depth - 1)
    | some '?' => more (if depth == 0 then choices + 1 else choices) depth
    | some ':' =>
      if depth != 0 then more choices depth
      else if choices != 0 then more (choices - 1) depth
      else return front
    | _ => return front

/-- What stands before the colon that divides a slice. -/
def sliceStart (self : PartsReader) : Reading Word := do
  sliceStartFrom self ((← rest).length + 1) 0 0

/-- What is made of a parameter in braces: what the signs behind its name say, and the words that
follow. The reader stands behind the closing brace; signs that mean nothing give nothing. -/
def use? (self : PartsReader) (inDouble : Bool) : Reading (Option (Use × List Word)) := do
  let word (place : Place) : Reading Word := self place (· == '\x7d')
  let one (use : Use) (signs : Nat) (place : Place) : Reading (Option (Use × List Word)) := do
    pass signs
    let w ← word place
    return (← expect? '\x7d').map fun _ => (use, [w])
  let textPlace (c : Char) : Place := if inDouble && c != '?' then .doubleOperand else .operand
  match ← rest with
  | '\x7d' :: _ => take; return some (.value, [])
  | ':' :: c :: _ =>
    if "-=?+".toList.contains c then one (.instead c true) 2 (textPlace c)
    else
      take
      let start ← sliceStart self
      if (← expect? ':').isSome then
        let (count, text) ← Reading.slice (word .expression)
        return (← expect? '\x7d').map fun _ => (.slice text, [start, count])
      else if start.isEmpty then return none
      else return (← expect? '\x7d').map fun _ => (.slice [], [start])
  | '#' :: '#' :: _ => one (.trim false true) 2 .operand
  | '#' :: _ => one (.trim false false) 1 .operand
  | '%' :: '%' :: _ => one (.trim true true) 2 .operand
  | '%' :: _ => one (.trim true false) 1 .operand
  | '/' :: c :: _ =>
    let anchor : Anchor := if c == '/' then .all else if c == '#' then .start
      else if c == '%' then .finish else .first
    pass (if anchor == .first then 1 else 2)
    -- a slash right behind the sign belongs to the pattern
    let slashed := anchor == .all && (← peek) == some '/'
    let lead ← if slashed then do take; pure [Part.plain '/'] else pure []
    let pattern ← self .operand fun c => c == '/' || c == '\x7d'
    let text ← if (← expect? '/').isSome then do pure [← word .operand] else pure []
    return (← expect? '\x7d').map fun _ => (.replace anchor, (lead ++ pattern) :: text)
  | '@' :: c :: '\x7d' :: _ => pass 3; return some (.transform c, [])
  | c :: d :: _ =>
    if "-=?+".toList.contains c then one (.instead c false) 1 (textPlace c)
    else if "^,~".toList.contains c then
      if d == c then one (.inCase c true) 2 .operand else one (.inCase c false) 1 .operand
    else return none
  | _ => return none

/-- A parameter in braces, behind the opening one. -/
def parameter? (self : PartsReader) (inDouble : Bool) : Reading (Option Part) := do
  let first := (← rest).take 2
  let special : Option Part ← match first with
    | '#' :: _ => lengthOf? self
    | '!' :: _ => namesOf? self
    | _ => pure none
  if special.isSome then return special
  let indirect := match first with
    | ['!', c] => isNameChar c || "#?@*".toList.contains c
    | _ => false
  if indirect then take
  match ← parameterName? with
  | none => return none
  | some name =>
    let bracketed := isName name && (← peek) == some '['
    let indexPlace : Place := if inDouble then .expression else .operand
    let ((index : Option Word), brackets) ←
      slice (if bracketed then closedIndex? self indexPlace else pure none)
    if bracketed && index.all List.isEmpty then return none
    let keepsCase := ["?", "-", "#"] ++ if indirect then ["@"] else []
    return (← use? self inDouble).bind fun (use, words) =>
      if use.isInCase && keepsCase.contains (String.ofList name) then none
      else some (.parameter indirect { raw := [], shown := name ++ brackets, name, index, use, words })

/-- Braces behind a dollar sign, behind the opening one. -/
def braces (self : PartsReader) (inDouble : Bool) : Reading Part := do
  let start ← get
  match ← parameter? self inDouble with
  | some part => return part
  | none =>
    match closing "$\x7b" '\x7d' start.rest with
    | .ok n =>
      set start
      pass (n + 1)
      return .bad []
    | .error e =>
      set start
      failUnclosed e

/-- A command substitution, behind its opening bracket; `script` reads commands up to a bracket. -/
def substitution (script : Reading Unit) (kept : Bool) : Reading Part := do
  let ((), text) ← tryCatch (slice script) fun f => match f with
    | .unexpectedEnd n => fail (.unclosed n)
    | .unexpected _ _ | .condition _ _ | .told _ _ => fail (.inner f)
    | f => fail f
  if (← expect? ')').isSome then return .output text kept else fail (.unclosed (← line))

/-- Whether a text begins with commands whose stream is named: an angle before a bracket. -/
def isProcess : Octets → Bool
  | c :: '(' :: _ => c == '<' || c == '>'
  | _ => false

/-- The path of a stream from which commands are read, or to which they are written. -/
def process (script : Reading Unit) : Reading Part := do
  let writes := (← peek) == some '>'
  pass 2
  match ← substitution script false with
  | .output text _ => return .process writes text
  | part => return part

/-- A text as it was read on its own. -/
def within {α : Type} (text : Octets) (action : Reading α) : Reading α := do
  let r ← get
  set { r with rest := text }
  let a ← action
  modify fun after => { after with rest := r.rest.drop text.length }
  return a

/-- An arithmetic expression of so many characters, with as many brackets behind it. -/
def expression (self : PartsReader) (size brackets : Nat) : Reading Part := do
  let parts ← within ((← rest).take size) (self .expression fun _ => false)
  pass brackets
  return .arithmetic parts

/-- What stands between backquotes, behind the first. -/
def backquoted (place : Place) : Reading Part := do
  match untilQuote? '\x60' (← rest) with
  | some (inner, _) =>
    pass (inner.length + 1)
    return .output (plain (place == .double || place == .doubleOperand) inner) true
  | none => fail (.unmatched (← line) '\x60')
where
  /-- A text without the backslashes that hide its signs. -/
  plain (inDouble : Bool) : Octets → Octets
    | '\\' :: c :: cs =>
      if c == '$' || c == '\x60' || c == '\\' || (c == '"' && inDouble) then c :: plain inDouble cs
      else '\\' :: c :: plain inDouble cs
    | c :: cs => c :: plain inDouble cs
    | [] => []

/-- What a dollar sign begins. -/
def dollar (script : Reading Unit) (self : PartsReader) (place : Place) : Reading Part := do
  let inDouble := !place.isFree
  let kept := place == .document || place == .prompt
  let plain : Reading Part := do
    take
    return .plain '$'
  match ← rest with
  | _ :: '(' :: '(' :: cs =>
    match closing "(" ')' cs with
    | .error e => failUnclosed e
    | .ok n =>
      if cs[n + 1]? == some ')' then
        pass 3
        expression self n 2
      else match closing "(" ')' ('(' :: cs) with
        | .error e => failUnclosed e
        | .ok n =>
          pass (n + 3)
          return .output ('(' :: cs.take (n - 1)) kept
  | _ :: '(' :: _ => pass 2; substitution script kept
  | _ :: '[' :: cs =>
    match closing "[" ']' cs with
    | .error e => failUnclosed e
    | .ok n =>
      pass 2
      expression self n 1
  | _ :: '\x7b' :: _ => pass 2; braces self inDouble
  | _ :: '\'' :: cs =>
    if inDouble && place != .doubleOperand then plain
    else match untilQuote? '\'' cs with
      | some (inner, _) =>
        pass (inner.length + 3)
        return .quoted (Octets.upToZero (Escape.expand .quoted inner).1)
      | none => fail (.unmatched (← line) '\'')
  | _ :: '"' :: _ =>
    if inDouble then plain
    else
      let start ← line
      pass 2
      let parts ← self .double (· == '"')
      if (← expect? '"').isSome then return .double parts else fail (.unmatched start '"')
  | _ :: c :: cs =>
    let name := bareName (c :: cs)
    if name.isEmpty then plain
    else
      pass (name.length + 1)
      let raw := '$' :: name
      return .parameter false { raw, shown := name, name, index := none, use := .bare, words := [] }
  | _ => plain

/-- The characters that a backslash hides in a place where it does not hide all. -/
def hides (place : Place) (c : Char) : Bool :=
  c == '$' || c == '\x60' || c == '\\' || (c == '"' && place != .document) ||
    (c == '\x7d' && place == .doubleOperand)

/-- Parts up to a character that ends them, or to the end. `script` reads commands up to a bracket;
`fuel` bounds the text. -/
def partsFrom (script : Reading Unit) : Nat → PartsReader
  | 0, _, _ => return []
  | fuel + 1, place, ends => do
    let self : PartsReader := partsFrom script fuel
    let inner : PartsReader := fun place ends => whole (self place ends)
    let andMore (part : Part) : Reading Word := return part :: (← self place ends)
    match ← rest with
    | [] => return []
    | c :: cs =>
      if place.isFree && isProcess (c :: cs) then andMore (← process script)
      else if ends c then return []
      else if c == '\\' then
        match cs with
        | '\n' :: ds =>
          pass 2
          if (← get).endsBare && ds.isEmpty then return [.quoted ['\\']]
          self place ends
        | d :: _ =>
          if place.isFree || hides place d then
            pass 2
            andMore (.quoted [d])
          else if d == '\'' && place == .doubleOperand then
            pass 2
            return .plain '\\' :: .plain d :: (← self place ends)
          else
            take
            andMore (.plain '\\')
        | [] => take; andMore (.quoted ['\\'])
      else if c == '\'' && place.isFree then
        if cs.contains '\'' then
          let text := cs.takeWhile (· != '\'')
          pass (text.length + 2)
          andMore (.quoted text)
        else fail (.unmatched (← line) '\'')
      else if c == '\'' && place == .doubleOperand then
        if cs.contains '\'' then
          take
          let parts ← within (cs.takeWhile (· != '\'')) (self place fun _ => false)
          take
          return .plain '\'' :: parts ++ .plain '\'' :: (← self place ends)
        else fail (.unmatched (← line) '\'')
      else if c == '"' && place != .document && place != .prompt then
        let start ← line
        take
        let parts ← inner .double (· == '"')
        if (← expect? '"').isSome then andMore (.double parts) else fail (.unmatched start '"')
      else if c == '\x60' then
        take
        andMore (← backquoted place)
      else if c == '$' then andMore (← dollar script inner place)
      else
        take
        andMore (.plain c)

/-- Parts up to a character that ends them, or to the end. -/
def parts (script : Reading Unit) : PartsReader := fun place ends => do
  whole (partsFrom script (2 * (← rest).length + 2) place ends)

/-- A word. -/
def word (script : Reading Unit) : Reading Word := parts script .bare endsWord

/-- How brackets may stand in a word. -/
inductive Grouping
  /-- Wherever they close, as in a regular expression; a bar is a part of it too. -/
  | anywhere
  /-- Behind a sign of an extended pattern. -/
  | behindSigns
  deriving DecidableEq

/-- The signs before the brackets of an extended pattern. -/
def isGroupSign (c : Char) : Bool := "?*+@!".toList.contains c

/-- How many characters open a bracket of a word. -/
def Grouping.opening (g : Grouping) (text : Octets) : Nat :=
  match g, text with
  | .anywhere, '(' :: _ => 1
  | .behindSigns, c :: '(' :: _ => if isGroupSign c then 2 else 0
  | _, _ => 0

/-- A word that may have brackets with anything inside. `fuel` bounds the text. -/
def groupedFrom (script : Reading Unit) (g : Grouping) : Nat → Reading Word
  | 0 => return []
  | fuel + 1 => do
    let ends (c : Char) : Bool :=
      if g == .anywhere then endsWord c && c != '|' else endsWord c || isGroupSign c
    let front ← parts script .bare ends
    let text ← rest
    let signs := text.take (g.opening text)
    if !signs.isEmpty then
      pass signs.length
      match closing "(" ')' (← rest) with
      | .error e => failUnclosed e
      | .ok n =>
        let inner ← within ((← rest).take n) (parts script .bare fun _ => false)
        take
        return front ++ signs.map .plain ++ inner ++ .plain ')' :: (← groupedFrom script g fuel)
    else match text with
      | c :: _ =>
        if endsWord c then return front
        take
        return front ++ .plain c :: (← groupedFrom script g fuel)
      | [] => return front

/-- A word that may have brackets with anything inside. -/
def grouped (script : Reading Unit) (g : Grouping) : Reading Word := do
  whole (groupedFrom script g ((← rest).length + 1))

/-- The signs of the language, those first of which others are a part. -/
def operators : List String :=
  [";;&", "<<<", "<<-", "&>>", ";;", ";&", "&&", "||", "|&", "<<", ">>", "<&", ">&", "<>", ">|", "&>",
    ";", "&", "|", "<", ">", "(", ")"]

/-- The sign of the language here. -/
def operator? : Reading (Option String) := do
  let text ← rest
  return if isProcess text then none else operators.find? fun s => s.toList.isPrefixOf text

/-- The fault of a sign or a word that may not stand here. -/
def unexpected {α : Type} (script : Reading Unit) : Reading α := do
  skipBlanks
  let n ← line
  match ← rest with
  | [] => fail (.unexpectedEnd n)
  | '\n' :: _ => fail (.unexpected n "newline".toList)
  | _ =>
    match ← operator? with
    | some s => fail (.unexpected n s.toList)
    | none =>
      let (_, raw) ← slice (word script)
      fail (.unexpected (← line) raw)

/-- Blanks and ends of lines passed, and comments. `fuel` bounds the text. -/
def skipLinesFrom : Nat → Reading Unit
  | 0 => return
  | fuel + 1 => do
    skipBlanks
    if (← peek) == some '\n' then
      passLine
      skipLinesFrom fuel

/-- Blanks and ends of lines passed, and comments. -/
def skipLines : Reading Unit := do skipLinesFrom ((← rest).length + 1)

/-- The name, the index and the sign of a parameter that is given a value. -/
def assignmentStart? (script : Reading Unit) : Reading (Option (Octets × Option Word × Bool)) :=
  tried do
    let name := (← rest).takeWhile isNameChar
    if !isName name then return none
    pass name.length
    let index ← index? (parts script)
    let adds := (← expect? '+').isSome
    return (← expect? '=').map fun _ => (name, index, adds)

/-- The items of an array, behind the opening bracket. `fuel` bounds the text. -/
def itemsFrom (script : Reading Unit) (start : Nat) : Nat → Reading (List Item)
  | 0 => return []
  | fuel + 1 => do
    skipLines
    match ← rest with
    | [] => fail (.unmatched start ')')
    | ')' :: _ => take; return []
    | _ =>
      if (← operator?).isSome then
        unexpected script
      else
        let index : Option (Word × Bool) ← tried do
          match ← index? (parts script) with
          | some i =>
            let adds := (← expect? '+').isSome
            return (← expect? '=').map fun _ => (i, adds)
          | none => return none
        let value ← word script
        return { index, value } :: (← itemsFrom script start fuel)

/-- A word as it would be without the meaning of an assignment. -/
def asWord (name : Octets) (index : Option Word) (adds : Bool) (value : Word) : Word :=
  let bracketed := match index with
    | some w => Part.plain '[' :: w ++ [.plain ']']
    | none => []
  name.map .plain ++ bracketed ++ (if adds then [.plain '+'] else []) ++ Part.plain '=' :: value

/-- The name of a parameter and its index, with the blanks that stand in it, where no value follows. -/
def indexed? (script : Reading Unit) : Reading (Option Word) := do
  let name := (← rest).takeWhile isNameChar
  if !(isName name && (← rest)[name.length]? == some '[') then return none
  let start ← line
  pass (name.length + 1)
  let index ← parts script .operand (· == ']')
  if (← expect? ']').isNone then fail (.unmatched start ']')
  return some (name.map .plain ++ Part.plain '[' :: index ++ [.plain ']'])

/-- A word that may give a parameter its value. Where such words are expected, it may be an array, and
an index may have blanks. -/
def argument (script : Reading Unit) (expected : Bool) : Reading Argument := do
  let ((found : Option (Octets × Option Word × Bool)), start) ← slice (assignmentStart? script)
  match found with
  | none =>
    let front ← if expected then indexed? script else pure none
    return { word := front.getD [] ++ (← word script), assignment := none }
  | some (name, index, adds) =>
    if expected && (← peek) == some '(' then
      let line ← line
      take
      let items ← tryCatch (itemsFrom script line ((← rest).length + 1)) fun f => fail (.inArray f)
      return { word := [], assignment := some { name, index, adds, value := .array items } }
    else
      let (value, text) ← slice (word script)
      return { word := inText (start ++ text) (asWord name index adds value)
               assignment := some { name, index, adds, value := .text value } }

end Backtest.Shell.WordReading
