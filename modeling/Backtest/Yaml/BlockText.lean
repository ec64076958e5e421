import Backtest.Fault
import Backtest.Yaml.Cursor

/-!
# Block texts

A text of lines indented below its key. After a bar the lines stand as they are; after an angle they
are joined by spaces, except where a line starts with white space or blank lines lie between. A sign
says what becomes of the newlines at the end: one is kept, all of them with a plus, none with a minus.
A digit gives the indentation, which else is that of the first line.

* `BlockHeader`, what stands after the bar or the angle; `Cursor.blockText`, the text.
-/

namespace Backtest.Yaml

/-- What becomes of the newlines at the end of a block text. -/
inductive Chomping
  | strip
  | clip
  | keep
  deriving DecidableEq

/-- What the line of a bar or an angle says. -/
structure BlockHeader where
  chomping : Chomping
  indent : Option Nat

/-- The chomping of a sign. -/
def chompingOf? (c : Char) : Option Chomping :=
  if c == '+' then some .keep else if c == '-' then some .strip else none

/-- The indentation of a digit. -/
def indentOf? (c : Char) : Option Nat :=
  if '1' ≤ c && c ≤ '9' then some (c.toNat - 48) else none

/-- The header of a block text, and how many characters it has. -/
def readHeader : List Char → BlockHeader × Nat
  | [] => (⟨.clip, none⟩, 0)
  | c :: cs =>
    match chompingOf? c, indentOf? c with
    | some chomping, _ => match cs.head?.bind indentOf? with
      | some n => (⟨chomping, some n⟩, 2)
      | none => (⟨chomping, none⟩, 1)
    | none, some n => match cs.head?.bind chompingOf? with
      | some chomping => (⟨chomping, some n⟩, 2)
      | none => (⟨.clip, some n⟩, 1)
    | none, none => (⟨.clip, none⟩, 0)

namespace Cursor

/-- The spaces in front up to a column. -/
def skipIndent (indent : Nat) (c : Cursor) : Cursor :=
  c.forward (min (indent - c.column) (c.takeWhile (· == ' ')).length)

/-- The ends of lines in front, each behind spaces up to a column, and the cursor after them. `fuel`
bounds the lines. -/
def blockBreaks (indent : Nat) : Nat → Cursor → List Char × Cursor
  | 0, c => ([], c)
  | fuel + 1, c =>
    let here := c.skipIndent indent
    match here.takeBreak? with
    | none => ([], here)
    | some (b, after) =>
      let (bs, last) := blockBreaks indent fuel after
      (b :: bs, last)

/-- The ends of lines in front, each behind any spaces; the widest of these and of the spaces after
them; and the cursor after all. `fuel` bounds the lines. -/
def leadingBreaks : Nat → Cursor → List Char × Nat × Cursor
  | 0, c => ([], 0, c)
  | fuel + 1, c =>
    let here := c.skipSpaces
    let width := if c.isAt ' ' then here.column else 0
    match here.takeBreak? with
    | none => ([], width, here)
    | some (b, after) =>
      let (bs, widest, last) := leadingBreaks fuel after
      (b :: bs, max width widest, last)

/-- The lines of a block text from a line on, behind ends of lines. The result holds the text without
what ends its last line, that end, the ends of the blank lines after it, and the cursor. `fuel` bounds
the lines. -/
def blockLines (folds : Bool) (indent : Nat) :
    Nat → List Char → Cursor → List Char × List Char × List Char × Cursor
  | 0, breaks, c => ([], [], breaks, c)
  | fuel + 1, breaks, c =>
    if c.column != indent || c.isOver then ([], [], breaks, c)
    else
      let text := c.takeWhile fun x => !isBreak x
      let (ended, after) := match c.skipLine.takeBreak? with
        | some (b, after) => ([b], after)
        | none => ([], c.skipLine)
      let (more, next) := blockBreaks indent (after.rest.length + 1) after
      let start := breaks ++ text
      if next.column == indent && !next.isOver then
        let join := if folds && ended == ['\n'] && !startsOrEnds isWhite text &&
            !startsOrEnds isWhite next.rest then (if more.isEmpty then [' '] else [])
          else ended
        let (rest, last) := blockLines folds indent fuel more next
        (start ++ join ++ rest, last)
      else (start, ended, more, next)

/-- The block text in front, below a parent whose contents are indented by at least so much, and the
cursor after it. -/
def blockText (least : Nat) (c : Cursor) : Except Fault (String × Cursor) :=
  let folds := c.isAt '>'
  let (header, width) := readHeader (c.rest.drop 1)
  let here := c.forward (width + 1)
  match if isSpaceOrEnd here.rest then here.blankLine? else none with
  | none => .error (.yaml .malformed)
  | some body =>
    let least := max 1 least
    let fuel := body.rest.length + 1
    let (indent, breaks, first) := match header.indent with
      | some n =>
        let indent := least + n - 1
        (indent, blockBreaks indent fuel body)
      | none =>
        let (breaks, widest, first) := leadingBreaks fuel body
        (max least widest, breaks, first)
    let (text, ended, more, next) := blockLines folds indent fuel breaks first
    let tail := match header.chomping with
      | .strip => []
      | .clip => ended
      | .keep => ended ++ more
    .ok (String.ofList (text ++ tail), next)

end Cursor

end Backtest.Yaml
