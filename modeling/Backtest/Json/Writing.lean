import Backtest.Value

/-!
# Writing JSON

A value on one line of ASCII: a comma and a space between items, a colon and a space after a key,
everything outside visible ASCII escaped. Floats are written in full; the three that are no decimal
have names. A value that JSON does not know is written as a text. Whole numbers are written with all their
digits; whether one has too many is asked before, by `Value.isWritable`.

* `Json.escape`, a character of a text; `Json.writeText`, a text; `Json.write`, a value.
-/

namespace Backtest.Json

open Text Decimal

/-- A unit of sixteen bits as an escape. -/
def unitEscape (n : Nat) : List Char := '\\' :: 'u' :: hexDigits 4 n

/-- A character inside a written text. -/
def escape (c : Char) : List Char :=
  let n := c.toNat
  if c == '"' then ['\\', '"']
  else if c == '\\' then ['\\', '\\']
  else if c == '\n' then ['\\', 'n']
  else if c == '\r' then ['\\', 'r']
  else if c == '\t' then ['\\', 't']
  else if n == 8 then ['\\', 'b']
  else if n == 12 then ['\\', 'f']
  else if 32 ≤ n && n ≤ 126 then [c]
  else if n < 0x10000 then unitEscape n
  else
    let m := n - 0x10000
    unitEscape (0xD800 + m / 0x400) ++ unitEscape (0xDC00 + m % 0x400)

/-- A written text, with its quotes. -/
def writeText (s : String) : String :=
  String.ofList ('"' :: (s.toList.flatMap escape ++ ['"']))

/-- A written float. -/
def writeReal (x : Float) : String :=
  match Parts.ofFloat x with
  | .nan => "NaN"
  | .infinite negative => if negative then "-Infinity" else "Infinity"
  | _ => floatText x

mutual

/-- A written value. -/
def write : Value → String
  | .null => "null"
  | .bool true => "true"
  | .bool false => "false"
  | .whole n => toString n
  | .real x => writeReal x
  | .text s => writeText s
  | .list items => Brackets.square.around (String.intercalate ", " (writeItems items))
  | .pair a b => Brackets.square.around (write a ++ ", " ++ write b)
  | .map entries => Brackets.curly.around (String.intercalate ", " (writeEntries entries))
  | v => writeText v.display

/-- The written items of a list. -/
def writeItems : List Value → List String
  | [] => []
  | v :: vs => write v :: writeItems vs

/-- The written entries of a map. -/
def writeEntries : List (Value × Value) → List String
  | [] => []
  | (k, v) :: es => (writeText k.display ++ ": " ++ write v) :: writeEntries es

end

end Backtest.Json
