import Backtest.Fault
import Backtest.Json.Reading
import Backtest.Yaml.Plain

/-!
# Quoted texts

Between single quotes a quote is written twice and all else stands for itself. Between double quotes
a backslash starts an escape; at the end of a line it joins the lines. In both, white space around the
end of a line is dropped, and ends of lines stand for what they do in a text without quotes.

* `Escape.read`, what an escape stands for; `Cursor.quotedText`, the text and the cursor after it.
-/

namespace Backtest.Yaml

open Json

namespace Escape

/-- The escapes of one letter. -/
def letters : List (Char × Nat) :=
  [('0', 0), ('a', 7), ('b', 8), ('t', 9), ('\t', 9), ('n', 10), ('v', 11), ('f', 12), ('r', 13),
    ('e', 27), (' ', 32), ('"', 34), ('\\', 92), ('/', 47), ('N', 0x85), ('_', 0xA0), ('L', 0x2028),
    ('P', 0x2029)]

/-- The number of hexadecimal digits after a letter. -/
def codes : List (Char × Nat) := [('x', 2), ('u', 4), ('U', 8)]

/-- The number of the character that an escape of digits names. -/
def codePoint (width : Nat) (cs : List Char) : Except Fault Nat :=
  let digits := cs.take width
  match digits.mapM hexValue? with
  | none => .error (.yaml .malformed)
  | some ds =>
    if ds.length < width then .error (.yaml .malformed)
    else
      let code := ds.foldl (fun n d => n * 16 + d) 0
      if code < 0x110000 then .ok code
      else .error (.yaml (if code < Nat.pow 2 31 then .character else .characterTooLarge))

/-- The number of the character that the escape after a backslash stands for, and the number of its
characters. -/
def read : List Char → Except Fault (Nat × Nat)
  | [] => .error (.yaml .malformed)
  | c :: cs =>
    match letters.find? (·.1 == c), codes.find? (·.1 == c) with
    | some (_, n), _ => .ok (n, 1)
    | none, some (_, width) => (codePoint width cs).map (·, width + 1)
    | none, none => .error (.yaml .malformed)

end Escape

namespace Cursor

/-- The ends of lines in front, with the white space around them, and the cursor after them; a document
must not end there. `fuel` bounds the lines. -/
def quotedBreaks : Nat → Cursor → Except Fault (List Char × Cursor)
  | 0, c => .ok ([], c)
  | fuel + 1, c =>
    if isMarker c.rest then .error (.yaml .malformed)
    else
      let here := c.skipWhile isWhite
      match here.takeBreak? with
      | none => .ok ([], here)
      | some (b, after) => (quotedBreaks fuel after).map fun (bs, last) => (b :: bs, last)

/-- White space in front, if an end of a line is part of it: the text it stands for, and the cursor
after it. -/
def quotedGap? (c : Cursor) : Option (Except Fault (List Char × Cursor)) :=
  (c.skipWhile isWhite).takeBreak?.map fun (b, after) =>
    (quotedBreaks (after.rest.length + 1) after).map fun (bs, last) => (folded b bs, last)

/-- The code points of a text between quotes, after its opening quote; `fuel` bounds the pieces. -/
def quotedFrom (double : Bool) : Nat → Cursor → Except Fault (List Nat × Cursor)
  | 0, _ => .error (.yaml .malformed)
  | fuel + 1, c =>
    let more (piece : List Nat) (next : Cursor) : Except Fault (List Nat × Cursor) :=
      (quotedFrom double fuel next).map fun (text, last) => (piece ++ text, last)
    match c.rest with
    | [] => .error (.yaml .malformed)
    | x :: cs =>
      if x == '"' && double then .ok ([], c.next)
      else if x == '\'' && !double then
        if cs.head? == some '\'' then more [39] (c.forward 2) else .ok ([], c.next)
      else if x == '\\' && double then
        match c.next.takeBreak? with
        | some (_, after) => match quotedBreaks (after.rest.length + 1) after with
          | .error f => .error f
          | .ok (bs, last) => more (bs.map Char.toNat) last
        | none => match Escape.read cs with
          | .error f => .error f
          | .ok (code, width) => more [code] (c.forward (width + 1))
      else match if isWhite x || isBreak x then c.quotedGap? else none with
        | some (.error f) => .error f
        | some (.ok (text, last)) => more (text.map Char.toNat) last
        | none => more [x.toNat] c.next

/-- The text between quotes in front, and the cursor after it. Two halves of a pair may name one
character. -/
def quotedText (c : Cursor) : Except Fault (String × Cursor) :=
  (quotedFrom (c.isAt '"') (c.rest.length + 1) c.next).map fun (codes, last) =>
    (String.ofList (joinPairs codes), last)

end Cursor

end Backtest.Yaml
