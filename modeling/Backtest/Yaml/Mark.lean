import Backtest.Fault
import Backtest.Json.Reading
import Backtest.Yaml.Cursor

/-!
# Marks

What stands before a node or a document and says something about it: an anchor names a node and an
alias names it again; a tag gives its kind, in a shorthand or in full; a directive says what the
shorthands of a document stand for.

* `TagMark`, `Directive`; `Cursor.name?`, the name of an anchor or an alias; `Cursor.tag?`, a tag;
  `Cursor.directive?`, a directive.
-/

namespace Backtest.Yaml

/-- A tag: in full, or as a handle and what follows it. -/
inductive TagMark
  | full (text : String)
  | short (handle suffix : String)

/-- A line that tells how a document is to be read. -/
inductive Directive
  /-- The version of the language; only its first number counts. -/
  | version (major : Nat)
  /-- What a handle stands for. -/
  | handle (handle text : String)
  | other

/-- A character of a name. -/
def isWordChar (c : Char) : Bool := c.isAlphanum || c == '-' || c == '_'

/-- A character of a tag. -/
def isTagChar (c : Char) : Bool := c.isAlphanum || "-;/?:@&=+$,_.!~*'()[]%".toList.contains c

/-- What may follow the name of an anchor or an alias. -/
def endsName (cs : List Char) : Bool := isGap cs || (cs.take 1).any "?:,]\x7d%@\x60".toList.contains

namespace Cursor

/-- The name of an anchor or an alias, after its sign. -/
def name? (c : Cursor) : Option (String × Cursor) :=
  let name := c.takeWhile isWordChar
  let after := c.forward name.length
  if name.isEmpty || !endsName after.rest then none else some (String.ofList name, after)

/-- The bytes of escapes in front, two hexadecimal digits after each percent sign. -/
def escapedBytes? : List Char → Option (List UInt8)
  | '%' :: a :: b :: cs => do
    let byte := (← Json.hexValue? a) * 16 + (← Json.hexValue? b)
    return UInt8.ofNat byte :: (← escapedBytes? cs)
  | '%' :: _ => none
  | _ => some []

/-- The text of a tag with its escapes read; `fuel` bounds the pieces. -/
def tagTextFrom? : Nat → Cursor → Option (List Char × Cursor)
  | 0, _ => none
  | fuel + 1, c =>
    let plain := c.takeWhile fun x => isTagChar x && x != '%'
    let here := c.forward plain.length
    if !here.isAt '%' then some (plain, here)
    else do
      let bytes ← escapedBytes? here.rest
      let text ← String.fromUTF8? ⟨bytes.toArray⟩
      let (more, last) ← tagTextFrom? fuel (here.forward (3 * bytes.length))
      return (plain ++ text.toList ++ more, last)

/-- The text of a tag in front, if there is any. -/
def tagText? (c : Cursor) : Option (String × Cursor) := do
  let (text, last) ← tagTextFrom? (c.rest.length + 1) c
  if last.index == c.index then none else some (String.ofList text, last)

/-- A handle in front: an exclamation mark, or a name between two. -/
def handle? (c : Cursor) : Option (String × Cursor) :=
  if !c.isAt '!' then none
  else if c.next.isAt ' ' then some ("!", c.next)
  else
    let name := c.next.takeWhile isWordChar
    let after := c.forward (name.length + 1)
    if after.isAt '!' then some (String.ofList ('!' :: (name ++ ['!'])), after.next) else none

/-- Whether a second exclamation mark stands before the next space or end of a line. -/
def hasHandle (c : Cursor) : Bool :=
  (c.next.rest.takeWhile fun x => x != ' ' && !isBreak x).contains '!'

/-- The tag in front, and the cursor after it; a space or the end of the line must follow. -/
def tag? (c : Cursor) : Option (TagMark × Cursor) := do
  let (tag, after) ←
    if c.next.isAt '<' then do
      let (text, last) ← (c.forward 2).tagText?
      if last.isAt '>' then some (TagMark.full text, last.next) else none
    else if isGap c.next.rest then some (TagMark.full "!", c.next)
    else do
      let (handle, here) ← if c.hasHandle then c.handle? else some ("!", c.next)
      let (text, last) ← here.tagText?
      some (TagMark.short handle text, last)
  if isSpaceOrEnd after.rest then some (tag, after) else none

/-- A number in front. -/
def number? (c : Cursor) : Option (Nat × Cursor) :=
  let digits := c.takeWhile Char.isDigit
  if digits.isEmpty then none else some (Decimal.digitsValue digits, c.forward digits.length)

/-- The version in front: two numbers around a point. -/
def version? (c : Cursor) : Option (Directive × Cursor) := do
  let (major, here) ← c.skipSpaces.number?
  if !here.isAt '.' then none
  else do
    let (_, last) ← here.next.number?
    if isSpaceOrEnd last.rest then some (.version major, last) else none

/-- A handle and what it stands for, in front. -/
def handleMeaning? (c : Cursor) : Option (Directive × Cursor) := do
  let (handle, here) ← c.skipSpaces.handle?
  if !here.isAt ' ' then none
  else do
    let (text, last) ← here.skipSpaces.tagText?
    if isSpaceOrEnd last.rest then some (.handle handle text, last) else none

/-- The directive in front, and the cursor after its line. -/
def directive? (c : Cursor) : Option (Directive × Cursor) := do
  let name := c.next.takeWhile isWordChar
  let here := c.forward (name.length + 1)
  if name.isEmpty || !isSpaceOrEnd here.rest then none
  else do
    let (directive, last) ←
      if name == "YAML".toList then here.version?
      else if name == "TAG".toList then here.handleMeaning?
      else some (.other, here.skipLine)
    return (directive, ← last.blankLine?)

end Cursor

end Backtest.Yaml
