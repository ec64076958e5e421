/-!
# Cursors

A place in a YAML text: how many characters stand before it, its line, its column and the characters
from there on. Blocks are told apart by columns, and a key must stand on one line with its colon.

* `isBreak`, `isEnd`, `isGap`: where a line and a word end; `isMarker`, where a document does;
* `Cursor`, with `forward`, `skipWhile`, `takeWhile`; `Cursor.takeBreak?`, over the end of a line;
* `Cursor.skip`, to the next character that means something.
-/

namespace Backtest.Yaml

/-- A character that ends a line. -/
def isBreak (c : Char) : Bool :=
  c == '\n' || c == '\r' || c == '\x85' || c == '\u2028' || c == '\u2029'

/-- What the end of a line stands for: a newline, or itself where it separates lines or paragraphs. -/
def breakText (c : Char) : Char := if c == '\u2028' || c == '\u2029' then c else '\n'

/-- A space or a tab. -/
def isWhite (c : Char) : Bool := c == ' ' || c == '\t'

/-- Whether the characters are none or start with one of a class. -/
def startsOrEnds (p : Char → Bool) : List Char → Bool
  | [] => true
  | c :: _ => p c

/-- Whether a line ends before the characters. -/
def isEnd (cs : List Char) : Bool := startsOrEnds isBreak cs

/-- Whether a line ends before the characters or a space stands there. -/
def isSpaceOrEnd (cs : List Char) : Bool := startsOrEnds (fun c => c == ' ' || isBreak c) cs

/-- Whether a line ends before the characters or white space stands there. -/
def isGap (cs : List Char) : Bool := startsOrEnds (fun c => isWhite c || isBreak c) cs

/-- Whether the characters start with three of a kind and a gap. -/
def isTriple (mark : Char) : List Char → Bool
  | a :: b :: c :: cs => a == mark && b == mark && c == mark && isGap cs
  | _ => false

/-- Whether the characters of a line start a document or end one. -/
def isMarker (cs : List Char) : Bool := isTriple '-' cs || isTriple '.' cs

/-- The mark that tells the order of bytes. It has no width. -/
def orderMark : Char := '\uFEFF'

/-- A place in a text. -/
structure Cursor where
  index : Nat
  line : Nat
  column : Nat
  rest : List Char

namespace Cursor

/-- The start of a text. -/
def start (cs : List Char) : Cursor := ⟨0, 0, 0, cs⟩

/-- The cursor one character further. -/
def next (c : Cursor) : Cursor :=
  match c.rest with
  | [] => c
  | '\r' :: '\n' :: cs => ⟨c.index + 1, c.line, c.column, '\n' :: cs⟩
  | x :: cs =>
    if isBreak x then ⟨c.index + 1, c.line + 1, 0, cs⟩
    else ⟨c.index + 1, c.line, if x == orderMark then c.column else c.column + 1, cs⟩

/-- The cursor so many characters further. -/
def forward : Nat → Cursor → Cursor
  | 0, c => c
  | n + 1, c => c.next.forward n

/-- The characters of a class in front. -/
def takeWhile (p : Char → Bool) (c : Cursor) : List Char := c.rest.takeWhile p

/-- The cursor after the characters of a class in front. -/
def skipWhile (p : Char → Bool) (c : Cursor) : Cursor := c.forward (c.takeWhile p).length

/-- The cursor after the spaces in front. -/
def skipSpaces (c : Cursor) : Cursor := c.skipWhile (· == ' ')

/-- The cursor at the end of the line. -/
def skipLine (c : Cursor) : Cursor := c.skipWhile fun x => !isBreak x

/-- Whether a character stands in front. -/
def isAt (x : Char) (c : Cursor) : Bool := c.rest.head? == some x

/-- Whether the text is over. -/
def isOver (c : Cursor) : Bool := c.rest.isEmpty

/-- The end of a line in front: what it stands for, and the cursor after it. -/
def takeBreak? (c : Cursor) : Option (Char × Cursor) :=
  match c.rest with
  | '\r' :: '\n' :: _ => some ('\n', c.forward 2)
  | x :: _ => if isBreak x then some (breakText x, c.next) else none
  | [] => none

/-- The cursor after the spaces and the comment in front. -/
def skipRemark (c : Cursor) : Cursor :=
  let here := c.skipSpaces
  if here.isAt '#' then here.skipLine else here

/-- The cursor after spaces, comments and ends of lines, and whether a line has ended; `fuel` bounds
the lines. -/
def skipFrom : Nat → Bool → Cursor → Cursor × Bool
  | 0, ended, c => (c, ended)
  | fuel + 1, ended, c =>
    match c.skipRemark.takeBreak? with
    | some (_, after) => skipFrom fuel true after
    | none => (c.skipRemark, ended)

/-- The cursor at the next character that is no space, comment or end of a line, and whether a line
has ended before it. -/
def skip (c : Cursor) : Cursor × Bool := skipFrom (c.rest.length + 1) false c

/-- The rest of a line that says nothing more: the cursor after its end. -/
def blankLine? (c : Cursor) : Option Cursor :=
  let here := c.skipRemark
  match here.takeBreak? with
  | some (_, after) => some after
  | none => if here.isOver then some here else none

end Cursor

end Backtest.Yaml
