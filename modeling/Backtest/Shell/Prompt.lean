import Backtest.Shell.CommandReading

/-!
# Prompts

A text written as a prompt: letters behind backslashes stand for what a shell knows of itself, and what is
then left is expanded as between double quotes.

* `Prompt.decode`, a text with such letters replaced; `Prompt.read?`, its parts.
-/

namespace Backtest.Shell.Prompt

/-- What a letter behind a backslash stands for. The shell belongs to the root; it keeps no history, and
nothing surrounds what is not seen. -/
def letter? (c : Char) : Option Octets :=
  match c with
  | 'a' => some ['\x07']
  | 'e' => some ['\x1b']
  | 'n' => some ['\n']
  | 'r' => some ['\r']
  | '\\' => some ['\\']
  | '$' => some ['#']
  | 's' => some "bash".toList
  | 'u' => some "root".toList
  | 'v' => some "5.2".toList
  | '!' => some ['1']
  | '#' | 'j' => some ['0']
  | '[' | ']' => some []
  | _ => none

/-- A text with the letters behind its backslashes replaced. Three digits of base eight, or fewer at the
end, stand for an octet. `fuel` bounds the text. -/
def decodeFrom : Nat → Octets → Octets
  | 0, _ => []
  | _ + 1, [] => []
  | fuel + 1, '\\' :: cs =>
    let digits := cs.take 3
    match cs with
    | [] => ['\\']
    | c :: rest =>
      if '0' ≤ c && c ≤ '7' then
        if digits.all fun d => '0' ≤ d && d ≤ '7' then
          let octet := Char.ofNat (digitsIn 8 digits % 256)
          (if octet == '\x00' then [] else [octet]) ++ decodeFrom fuel (cs.drop digits.length)
        else '\\' :: decodeFrom fuel cs
      else (letter? c).getD ['\\', c] ++ decodeFrom fuel rest
  | fuel + 1, c :: cs => c :: decodeFrom fuel cs

/-- A text with the letters behind its backslashes replaced. -/
def decode (o : Octets) : Octets := decodeFrom (o.length + 1) o

/-- The parts of a prompt; nothing if something in it is not closed. -/
def read? (o : Octets) : Option Word :=
  let text := decode o
  let script := CommandReading.script (CommandReading.list text.length)
  let reader := { Reader.ofText 1 text with rest := text }
  match (WordReading.parts script .prompt fun _ => false).run.run reader with
  | (.ok parts, _) => some parts
  | (.error _, _) => none

end Backtest.Shell.Prompt
