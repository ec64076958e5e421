/-!
# Base 64

Bytes written with sixty-four characters, four for three bytes. Other characters between them mean
nothing; equals signs fill up the last four.

* `Base64.value?`, the value of a character; `Base64.decode?`, the bytes of a text.
-/

namespace Backtest.Text.Base64

/-- The value of a character, below sixty-four. -/
def value? (c : Char) : Option Nat :=
  if 'A' ≤ c && c ≤ 'Z' then some (c.toNat - 65)
  else if 'a' ≤ c && c ≤ 'z' then some (c.toNat - 71)
  else if '0' ≤ c && c ≤ '9' then some (c.toNat + 4)
  else if c == '+' then some 62
  else if c == '/' then some 63
  else none

/-- The bytes of characters: `place` of four have been read, whose bits beyond the last byte are
`left`, and `fill` equals signs stand in front. -/
def decodeFrom? (place left fill : Nat) : List Char → Option (List UInt8)
  | [] => if place == 0 then some [] else none
  | c :: cs =>
    if c == '=' then
      if 2 ≤ place then
        if 4 ≤ place + (fill + 1) then some [] else decodeFrom? place left (fill + 1) cs
      else decodeFrom? place left fill cs
    else match value? c with
      | none => decodeFrom? place left fill cs
      | some n =>
        let byte (m : Nat) (rest : Option (List UInt8)) := rest.map (UInt8.ofNat m :: ·)
        if place == 0 then decodeFrom? 1 n 0 cs
        else if place == 1 then byte (left * 4 + n / 16) (decodeFrom? 2 (n % 16) 0 cs)
        else if place == 2 then byte (left * 16 + n / 4) (decodeFrom? 3 (n % 4) 0 cs)
        else byte (left * 64 + n) (decodeFrom? 0 0 0 cs)

/-- The bytes of a text. -/
def decode? (s : String) : Option (List UInt8) := decodeFrom? 0 0 0 s.toList

end Backtest.Text.Base64
