import Backtest.Yaml.BlockText
import Backtest.Yaml.Mark
import Backtest.Yaml.QuotedText

/-!
# Tokens

A YAML text as a list of tokens. Where a block starts or ends is told by columns: a token that turns
out to be a key, because a colon follows it on its line, starts a map where it stands further in than
the block around it.

* `Token`; `Lexer`, a text that is being cut into tokens; `Lexer.step`, the next tokens;
* `Lexer.run`, all tokens of a text, and the fault at which it cannot be cut further.
-/

namespace Backtest.Yaml

/-- A piece of a text. -/
inductive Token
  | directive (directive : Directive)
  | documentStart
  | documentEnd
  | blockList
  | blockMap
  | blockEnd
  | flowList
  | flowListEnd
  | flowMap
  | flowMapEnd
  /-- The comma between brackets. -/
  | comma
  /-- The hyphen before an item of a block. -/
  | item
  | key
  | value
  | alias (name : String)
  | anchor (name : String)
  | tag (tag : TagMark)
  /-- A text, without quotes or with a sign that says how it is written. -/
  | scalar (text : String) (isPlain : Bool)

/-- A token that a colon may turn into a key. -/
structure PossibleKey where
  /-- The number of the tokens before it. -/
  position : Nat
  /-- Whether nothing but a key can stand there. -/
  required : Bool
  cursor : Cursor

/-- A text that is being cut into tokens. -/
structure Lexer where
  cursor : Cursor
  tokens : Array Token
  /-- The number of brackets around the cursor. -/
  depth : Nat
  /-- The column of the block around the cursor; -1 outside of all. -/
  indent : Int
  /-- The columns of the blocks around that one. -/
  indents : List Int
  /-- Whether a key can start at the cursor. -/
  allowsKey : Bool
  /-- The last token that may be a key, for each number of brackets around it. -/
  keys : List (Nat × PossibleKey)

namespace Lexer

/-- A text before its first token. -/
def start (cs : List Char) : Lexer :=
  { cursor := .start cs, tokens := #[], depth := 0, indent := -1, indents := [], allowsKey := true,
    keys := [] }

/-- A text that cannot be cut further. -/
def fail {β : Type} : Except Fault β := .error (.yaml .malformed)

/-- Whether the cursor stands between brackets. -/
def inFlow (l : Lexer) : Bool := l.depth != 0

/-- The text with one more token. -/
def push (l : Lexer) (t : Token) : Lexer := { l with tokens := l.tokens.push t }

/-- The text with a token in front of which so many characters are passed over. -/
def take (l : Lexer) (width : Nat) (t : Token) : Lexer :=
  { l with cursor := l.cursor.forward width, tokens := l.tokens.push t }

/-- The characters from the start of a key to its colon. -/
def longestKey : Nat := 1024

/-- The text with the possible keys forgotten that stand on an earlier line or too far back. -/
def dropStale (l : Lexer) : Except Fault Lexer :=
  let stale (k : PossibleKey) : Bool :=
    k.cursor.line != l.cursor.line || longestKey < l.cursor.index - k.cursor.index
  if l.keys.any fun k => stale k.2 && k.2.required then fail
  else .ok { l with keys := l.keys.filter fun k => !stale k.2 }

/-- The text with the possible key between these brackets forgotten. -/
def dropKey (l : Lexer) : Except Fault Lexer :=
  if l.keys.any fun k => k.1 == l.depth && k.2.required then fail
  else .ok { l with keys := l.keys.filter (·.1 != l.depth) }

/-- The text with what comes next noted as a possible key, where one can start. -/
def noteKey (l : Lexer) : Except Fault Lexer :=
  if !l.allowsKey then .ok l
  else do
    let key : PossibleKey :=
      { position := l.tokens.size, cursor := l.cursor
        required := !l.inFlow && l.indent == l.cursor.column }
    let l ← l.dropKey
    return { l with keys := (l.depth, key) :: l.keys }

/-- The blocks that start beyond a column, closed. -/
def closeBlocks (column : Int) (l : Lexer) : List Int → Lexer
  | [] => l
  | outer :: rest =>
    if l.indent ≤ column then l
    else closeBlocks column { l.push .blockEnd with indent := outer, indents := rest } rest

/-- The text with the blocks that start beyond a column closed, unless it stands between brackets. -/
def unwind (l : Lexer) (column : Int) : Lexer :=
  if l.inFlow then l else closeBlocks column l l.indents

/-- The text with a block begun at a column, if that lies further in: its token goes to a position. -/
def openBlock (l : Lexer) (column : Nat) (position : Nat) (t : Token) : Lexer :=
  if l.indent < column then
    { l with indent := column, indents := l.indent :: l.indents,
             tokens := l.tokens.insertIdxIfInBounds position t }
  else l

/-- The text with a block begun at the cursor for a sign that stands for one, outside of brackets. -/
def openAtSign (l : Lexer) (t : Token) : Except Fault Lexer :=
  if l.inFlow then .ok l
  else if !l.allowsKey then fail
  else .ok (l.openBlock l.cursor.column l.tokens.size t)

/-- The end of a document's blocks, before a marker or a directive. -/
def closeDocument (l : Lexer) : Except Fault Lexer := do
  let l ← (l.unwind (-1)).dropKey
  return { l with allowsKey := false }

/-- A bracket that opens. -/
def openFlow (l : Lexer) (t : Token) : Except Fault Lexer := do
  let l ← l.noteKey
  return { l.take 1 t with depth := l.depth + 1, allowsKey := true }

/-- A bracket that closes. -/
def closeFlow (l : Lexer) (t : Token) : Except Fault Lexer := do
  let l ← l.dropKey
  return { l.take 1 t with depth := l.depth - 1, allowsKey := false }

/-- A comma between brackets. -/
def comma (l : Lexer) : Except Fault Lexer := do
  return { (← l.dropKey).take 1 .comma with allowsKey := true }

/-- The hyphen of an item. -/
def item (l : Lexer) : Except Fault Lexer := do
  let l ← l.openAtSign .blockList
  return { (← l.dropKey).take 1 .item with allowsKey := true }

/-- The question mark of a key. -/
def key (l : Lexer) : Except Fault Lexer := do
  let l ← l.openAtSign .blockMap
  return { (← l.dropKey).take 1 .key with allowsKey := !l.inFlow }

/-- The colon before a value. Behind a possible key it makes that one. -/
def value (l : Lexer) : Except Fault Lexer :=
  match l.keys.find? (·.1 == l.depth) with
  | some (_, k) =>
    let l := { l with keys := l.keys.filter (·.1 != l.depth),
                      tokens := l.tokens.insertIdxIfInBounds k.position .key }
    let l := if l.inFlow then l else l.openBlock k.cursor.column k.position .blockMap
    .ok { l.take 1 .value with allowsKey := false }
  | none => do
    let l ← l.openAtSign .blockMap
    return { (← l.dropKey).take 1 .value with allowsKey := !l.inFlow }

/-- A token that can be a key: it is read at the cursor. -/
def word (l : Lexer) (read : Cursor → Except Fault (Token × Cursor)) : Except Fault Lexer := do
  let l ← l.noteKey
  let (t, cursor) ← read l.cursor
  return { l.push t with cursor, allowsKey := false }

/-- What was read, or the fault of a text that cannot be cut further. -/
def orFail {β : Type} (x : Option β) : Except Fault β := x.elim fail .ok

/-- A block text. -/
def blockText (l : Lexer) : Except Fault Lexer := do
  let l ← { l with allowsKey := true }.dropKey
  let (text, cursor) ← l.cursor.blockText (l.indent + 1).toNat
  return { l.push (.scalar text false) with cursor }

/-- A text without quotes. A key can start behind it if its line has ended. -/
def plainText (l : Lexer) : Except Fault Lexer := do
  let l ← l.noteKey
  let (text, ended, cursor) := l.cursor.plain l.inFlow (l.indent + 1).toNat
  return { l.push (.scalar text true) with cursor, allowsKey := ended }

/-- The text after the tokens that start with a character. -/
def takeToken (l : Lexer) (x : Char) (after : List Char) : Except Fault Lexer :=
  if x == '[' then l.openFlow .flowList
  else if x == '\x7b' then l.openFlow .flowMap
  else if x == ']' then l.closeFlow .flowListEnd
  else if x == '\x7d' then l.closeFlow .flowMapEnd
  else if x == ',' then l.comma
  else if x == '-' && isGap after then l.item
  else if x == '?' && (l.inFlow || isGap after) then l.key
  else if x == ':' && (l.inFlow || isGap after) then l.value
  else if x == '*' then
    l.word fun c => (orFail c.next.name?).map fun (name, last) => (.alias name, last)
  else if x == '&' then
    l.word fun c => (orFail c.next.name?).map fun (name, last) => (.anchor name, last)
  else if x == '!' then l.word fun c => (orFail c.tag?).map fun (tag, last) => (.tag tag, last)
  else if (x == '|' || x == '>') && !l.inFlow then l.blockText
  else if x == '\'' || x == '"' then
    l.word fun c => c.quotedText.map fun (text, last) => (.scalar text false, last)
  else if startsPlain l.inFlow (x :: after) then l.plainText
  else fail

/-- The text at its next token. -/
def toToken (l : Lexer) : Except Fault Lexer := do
  let here := if l.cursor.index == 0 && l.cursor.isAt orderMark then l.cursor.next else l.cursor
  let (cursor, ended) := here.skip
  let l ← { l with cursor, allowsKey := l.allowsKey || (ended && !l.inFlow) }.dropStale
  return l.unwind cursor.column

/-- The text after its next tokens, or nothing more at its end. -/
def step (l : Lexer) : Except Fault (Lexer × Bool) := do
  let l ← l.toToken
  match l.cursor.rest with
  | [] => return (← l.closeDocument, true)
  | x :: after =>
    let l ←
      if l.cursor.column == 0 && x == '%' then do
        let l ← l.closeDocument
        let (directive, cursor) ← orFail l.cursor.directive?
        pure { l.push (.directive directive) with cursor }
      else if l.cursor.column == 0 && isTriple '-' l.cursor.rest then
        l.closeDocument.map (·.take 3 .documentStart)
      else if l.cursor.column == 0 && isTriple '.' l.cursor.rest then
        l.closeDocument.map (·.take 3 .documentEnd)
      else l.takeToken x after
    return (l, false)

/-- The tokens that are certain: a token that may still turn out to be a key is not, nor are those
behind it. -/
def certain (l : Lexer) : Array Token :=
  let keys := (l.dropStale.toOption.getD l).keys
  l.tokens.extract 0 (keys.foldl (fun n k => min n k.2.position) l.tokens.size)

/-- All tokens of a text; or those that are certain at a fault, and the fault at which it cannot be cut
further. `fuel` bounds the steps. -/
def runFrom : Nat → Lexer → Array Token × Option Fault
  | 0, l => (l.tokens, some (.yaml .malformed))
  | fuel + 1, l =>
    match l.step with
    | .error f => (l.certain, some f)
    | .ok (l, true) => (l.tokens, none)
    | .ok (l, false) => runFrom fuel l

/-- All tokens of a text, or those before the fault at which it cannot be cut further. -/
def run (cs : List Char) : Array Token × Option Fault := runFrom (cs.length + 1) (start cs)

end Lexer

end Backtest.Yaml
