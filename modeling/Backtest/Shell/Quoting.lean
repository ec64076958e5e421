import Backtest.Shell.Octets
import Backtest.Text.Visible

/-!
# Quoting

Texts written so that the shell reads them back: with backslashes before the signs of the language,
between single quotes, or behind a dollar sign with escapes where a character cannot be seen.

* `Quoting.backslashed`, `Quoting.single`, `Quoting.double`, `Quoting.escaped`;
* `Quoting.quoted`, `Quoting.reusable`, a text in one of these ways.
-/

namespace Backtest.Shell.Quoting

/-- Whether the octets of a character can be seen. -/
def isVisibleChar (o : Octets) : Bool :=
  match Octets.point? o with
  | some (n, _) => Text.isVisible (Char.ofNat n)
  | none => false

/-- The signs of the language. -/
def signs : Octets := " \t\n!\"$&'()*,;<>?[\\]^\x60\x7b|\x7d".toList

/-- A text with backslashes before the signs of the language, `before` being the octet in front. -/
def backslashedFrom (before : Option Char) : Octets → Octets
  | [] => []
  | c :: cs =>
    let tilde := c == '~' && (before.isNone || before == some ':' || before == some '=')
    let mark := signs.contains c || tilde || (c == '#' && before.isNone)
    (if mark then ['\\', c] else [c]) ++ backslashedFrom (some c) cs

/-- A text with backslashes before the signs of the language. -/
def backslashed (o : Octets) : Octets := backslashedFrom none o

/-- A text between single quotes; a quote inside is written between others. -/
def single (o : Octets) : Octets :=
  '\'' :: (o.flatMap fun c => if c == '\'' then ['\'', '\\', '\'', '\''] else [c]) ++ ['\'']

/-- The letters of escapes. -/
def letters : List (Char × Char) :=
  [('\x1b', 'E'), ('\x07', 'a'), ('\x08', 'b'), ('\x0c', 'f'), ('\n', 'n'), ('\r', 'r'),
    ('\t', 't'), ('\x0b', 'v'), ('\\', '\\'), ('\'', '\'')]

/-- An octet as three digits of base eight. -/
def octal (c : Char) : Octets :=
  let n := c.toNat
  '\\' :: [n / 64, n / 8 % 8, n % 8].map fun d => Char.ofNat (48 + d)

/-- A character as part of an escaped text. -/
def escapedChar (o : Octets) : Octets :=
  match o with
  | [c] => match letters.find? (·.1 == c) with
    | some (_, l) => ['\\', l]
    | none => if isVisibleChar o then o else octal c
  | _ => if isVisibleChar o then o else o.flatMap octal

/-- A text behind a dollar sign, between quotes, with escapes. -/
def escaped (o : Octets) : Octets :=
  ['$', '\''] ++ (Octets.chars o).flatMap escapedChar ++ ['\'']

/-- Whether a text has characters that cannot be seen. -/
def needsEscapes (o : Octets) : Bool := (Octets.chars o).any fun c => !isVisibleChar c

/-- A text between single quotes, or with escapes if some character cannot be seen. -/
def quoted (o : Octets) : Octets := if needsEscapes o then escaped o else single o

/-- A text between double quotes, or with escapes if some character cannot be seen. -/
def double (o : Octets) : Octets :=
  if needsEscapes o then escaped o
  else '"' :: (o.flatMap fun c => if "\"\\$\x60".toList.contains c then ['\\', c] else [c]) ++ ['"']

/-- A text with backslashes; with escapes if some character cannot be seen; or two quotes. -/
def reusable (o : Octets) : Octets :=
  if o.isEmpty then ['\'', '\''] else if needsEscapes o then escaped o else backslashed o

end Backtest.Shell.Quoting
