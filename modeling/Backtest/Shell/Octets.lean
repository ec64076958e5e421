/-!
# Octets

The texts of the shell are bytes. A byte is written as the character of its number, so that signs of
the language stand for themselves; a character beyond ASCII is several octets.

* `Octets`, with `ofString` and `toString?`; `Octets.precedes`, their order;
* `Octets.encode`, the octets of a code point;
* `Octets.point?`, the code point in front; `Octets.chars`, the characters of a text.
-/

namespace Backtest.Shell

/-- A text of the shell: bytes, each as the character of its number. -/
abbrev Octets := List Char

namespace Octets

/-- The octets of a text. -/
def ofString (s : String) : Octets := s.toUTF8.toList.map fun b => Char.ofNat b.toNat

/-- The bytes of octets. -/
def toBytes (o : Octets) : ByteArray := ⟨(o.map fun c => UInt8.ofNat c.toNat).toArray⟩

/-- The octets of bytes. -/
def ofBytes (bs : ByteArray) : Octets := bs.toList.map fun b => Char.ofNat b.toNat

/-- The text of octets, if they are one. -/
def toString? (o : Octets) : Option String := String.fromUTF8? o.toBytes

/-- Whether octets stand before others in the order of their numbers, or are the same. -/
def precedes : Octets → Octets → Bool
  | [], _ => true
  | _ :: _, [] => false
  | a :: as, b :: bs => a.toNat < b.toNat || (a == b && precedes as bs)

/-- The octets after the first of a character: six bits each, the highest first. -/
def tailOf (n : Nat) : Nat → Octets
  | 0 => []
  | k + 1 => Char.ofNat (0x80 + n / Nat.pow 64 k % 64) :: tailOf n k

/-- The octets of a code point, by the scheme of UTF-8 carried on beyond its last character; from 2^31
on there are none. -/
def encode (n : Nat) : Octets :=
  if n < 0x80 then [Char.ofNat n]
  else if Nat.pow 2 31 ≤ n then []
  else
    let more :=
      if n < 0x800 then 1 else if n < 0x10000 then 2 else if n < 0x200000 then 3
      else if n < 0x4000000 then 4 else 5
    let mark := 0xFF - (0xFF >>> (more + 1))
    Char.ofNat (mark + n / Nat.pow 64 more) :: tailOf n more

/-- How many octets a character has, by its first. -/
def lengthOf (first : Char) : Nat :=
  let n := first.toNat
  if n < 0x80 then 1 else if n < 0xC2 then 0 else if n < 0xE0 then 2 else if n < 0xF0 then 3
  else if n < 0xF5 then 4 else 0

/-- The code point of the character in front, and the number of its octets; nothing if the octets are
no character. -/
def point? (o : Octets) : Option (Nat × Nat) :=
  match o with
  | [] => none
  | c :: _ =>
    let width := lengthOf c
    match String.fromUTF8? (toBytes (o.take width)) with
    | some s => match s.toList with
      | [x] => if o.length < width then none else some (x.toNat, width)
      | _ => none
    | none => none

/-- The characters of octets, the octets of each; an octet that belongs to none stands alone. `fuel`
bounds their number. -/
def charsFrom : Nat → Octets → List Octets
  | 0, _ => []
  | _ + 1, [] => []
  | fuel + 1, c :: cs =>
    match point? (c :: cs) with
    | some (_, width) => (c :: cs).take width :: charsFrom fuel ((c :: cs).drop width)
    | none => [c] :: charsFrom fuel cs

/-- The characters of octets. -/
def chars (o : Octets) : List Octets := charsFrom o.length o

/-- Octets up to the first zero, which ends a text. -/
def upToZero (o : Octets) : Octets := o.takeWhile (· != '\x00')

end Octets

/-- White space as numbers see it: a space, a tabulator, or the end of a line or a page. -/
def isSpace (c : Char) : Bool := c == ' ' || ('\t' ≤ c && c ≤ '\r')

/-- A space or a tabulator. -/
def isWhite (c : Char) : Bool := c == ' ' || c == '\t'

/-- A character that starts a name. -/
def isNameStart (c : Char) : Bool := c.isAlpha || c == '_'

/-- A character of a name. -/
def isNameChar (c : Char) : Bool := c.isAlphanum || c == '_'

/-- Whether octets are a name. -/
def isName (o : Octets) : Bool := (o.take 1).any isNameStart && o.all isNameChar

/-- The parameters with a sign for their name. -/
def isSpecial (c : Char) : Bool := "@*#?-$!".toList.contains c

/-- The name of a parameter without braces at the start of a text: as many characters as belong to a name,
or one digit or sign. -/
def bareName (o : Octets) : Octets :=
  if (o.take 1).any isNameStart then o.takeWhile isNameChar
  else (o.take 1).filter fun c => c.isDigit || isSpecial c

/-- The value of a digit of a base up to sixteen. -/
def digitOf? (base : Nat) (c : Char) : Option Nat :=
  let n :=
    if c.isDigit then c.toNat - 48
    else if 'a' ≤ c && c ≤ 'f' then c.toNat - 87
    else if 'A' ≤ c && c ≤ 'F' then c.toNat - 55
    else base
  if n < base then some n else none

/-- The number of digits of a base. -/
def digitsIn (base : Nat) (ds : Octets) : Nat :=
  ds.foldl (fun n c => n * base + (digitOf? base c).getD 0) 0

/-- The digits of a base in front, at most so many, and the rest. -/
def takeDigits (base most : Nat) (o : Octets) : Octets × Octets :=
  let ds := (o.take most).takeWhile fun c => (digitOf? base c).isSome
  (ds, o.drop ds.length)

end Backtest.Shell
