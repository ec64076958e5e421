import Backtest.Yaml.Cursor

/-!
# Texts without quotes

A text without quotes ends at a colon before a gap, at a comment, at a tab and, between brackets, at
the signs of a collection. It goes on over lines that are indented far enough: one newline is a space,
each further one a newline; a separator of lines or of paragraphs stands for itself.

* `startsPlain`, `endsPlain`, where such a text starts and ends; `takePlain`, a stretch without white
  space; `Cursor.gap?`, the white space between two stretches; `Cursor.plain`, the text.
-/

namespace Backtest.Yaml

/-- The signs of a collection between brackets. -/
def isFlowSign (c : Char) : Bool := c == ',' || c == '[' || c == ']' || c == '\x7b' || c == '\x7d'

/-- The signs that start something other than a text without quotes. -/
def isIndicator (c : Char) : Bool := "-?:,[]\x7b\x7d#&*!|>'\"%@\x60".toList.contains c

/-- Whether the characters start a text without quotes; `flow` says whether they stand between
brackets. -/
def startsPlain (flow : Bool) : List Char → Bool
  | [] => false
  | c :: cs =>
    if isGap [c] then false
    else if !isIndicator c then true
    else !isGap cs && (c == '-' || (!flow && (c == '?' || c == ':')))

/-- Whether a stretch of a text without quotes ends before the characters. -/
def endsPlain (flow : Bool) (cs : List Char) : Bool :=
  isGap cs || match cs with
    | ':' :: rest => isGap rest || (flow && (rest.take 1).any isFlowSign)
    | c :: _ => flow && (isFlowSign c || c == '?')
    | [] => true

/-- A stretch without white space, and the characters after it. -/
def takePlain (flow : Bool) : List Char → List Char × List Char
  | [] => ([], [])
  | c :: cs =>
    if endsPlain flow (c :: cs) then ([], c :: cs)
    else
      let (word, rest) := takePlain flow cs
      (c :: word, rest)

theorem takePlain_append (flow : Bool) (cs : List Char) :
    (takePlain flow cs).1 ++ (takePlain flow cs).2 = cs := by
  induction cs with
  | nil => rfl
  | cons c cs ih =>
    unfold takePlain
    split
    · rfl
    · simpa using ih

/-- The text that ends of lines between two stretches stand for: the first one, a newline of which is a
space if it is alone, and the others. -/
def folded (first : Char) (more : List Char) : List Char :=
  if first != '\n' then first :: more else if more.isEmpty then [' '] else more

namespace Cursor

/-- The ends of lines in front, with the spaces around them, and the cursor after them; none if a
document ends there. `fuel` bounds the lines. -/
def breaks? : Nat → Cursor → Option (List Char) × Cursor
  | 0, c => (some [], c)
  | fuel + 1, c =>
    if isMarker c.rest then (none, c)
    else match c.skipSpaces.takeBreak? with
      | none => (some [], c.skipSpaces)
      | some (b, after) =>
        let (more, last) := breaks? fuel after
        (more.map (b :: ·), last)

/-- The white space in front: the text it stands for between two stretches, whether a line ends in it,
and the cursor after it. -/
def gap (c : Cursor) : List Char × Bool × Cursor :=
  let spaces := c.takeWhile (· == ' ')
  match c.skipSpaces.takeBreak? with
  | none => (spaces, false, c.skipSpaces)
  | some (b, after) =>
    let (more, last) := breaks? (after.rest.length + 1) after
    ((more.map (folded b)).getD [], true, last)

/-- The rest of a text without quotes whose further lines are indented by at least so much, from a
stretch on; whether a line ends behind it; and the cursor after it and the white space behind. `fuel`
bounds the stretches. -/
def plainFrom (flow : Bool) (indent : Nat) : Nat → Cursor → List Char × Bool × Cursor
  | 0, c => ([], false, c)
  | fuel + 1, c =>
    let (word, _) := takePlain flow c.rest
    let (space, ended, next) := (c.forward word.length).gap
    if space.isEmpty || next.isAt '#' || (!flow && next.column < indent) || endsPlain flow next.rest then
      (word, ended, next)
    else
      let (more, last) := plainFrom flow indent fuel next
      (word ++ space ++ more, last)

/-- The text without quotes in front. -/
def plain (flow : Bool) (indent : Nat) (c : Cursor) : String × Bool × Cursor :=
  let (text, last) := c.plainFrom flow indent (c.rest.length + 1)
  (String.ofList text, last)

end Cursor

end Backtest.Yaml
