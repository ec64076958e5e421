import Backtest.Shell.Octets

/-!
# Escapes

What a backslash and the characters behind it stand for. The four places that know escapes agree on
most of them: the format of `printf`, its texts that carry escapes, `echo` when asked for it, and
quoted texts behind a dollar sign.

* `Escape.Place`; `Escape.read`, the escape behind a backslash; `Escape.expand`, a text with its
  escapes carried out.
-/

namespace Backtest.Shell.Escape

/-- Where escapes stand. -/
inductive Place
  | format
  | argument
  | echo
  | quoted
  deriving DecidableEq

/-- What an escape comes to. -/
inductive Meaning
  /-- Octets, in place of so many characters behind the backslash. -/
  | octets (text : Octets) (width : Nat)
  /-- The end of everything that is written. -/
  | stop
  /-- A backslash that stands for itself, with a complaint if there is one. -/
  | none (complaint : Option String)

/-- The escapes of one letter. -/
def letters : List (Char × Nat) :=
  [('a', 7), ('b', 8), ('e', 27), ('E', 27), ('f', 12), ('n', 10), ('r', 13), ('t', 9), ('v', 11),
    ('\\', 92)]

/-- The octet of a number. -/
def octet (n : Nat) : Octets := [Char.ofNat (n % 256)]

/-- Octal digits, the first of which stands in front. `echo` wants a zero before up to three others,
and a text with escapes allows it. -/
def octal (place : Place) (c : Char) (cs : Octets) : Meaning :=
  let long := c == '0' && (place == .argument || place == .echo)
  let (ds, _) := takeDigits 8 (if long then 3 else 2) cs
  .octets (octet (digitsIn 8 (c :: ds))) (ds.length + 1)

/-- Hexadecimal digits behind an `x`; in a quoted text any number of them may stand in braces. -/
def hexadecimal (place : Place) (cs : Octets) : Meaning :=
  match place, cs with
  | .quoted, '\x7b' :: rest =>
    let (ds, after) := takeDigits 16 rest.length rest
    .octets (octet (digitsIn 16 ds)) (2 + ds.length + if after.head? == some '\x7d' then 1 else 0)
  | _, _ =>
    let (ds, _) := takeDigits 16 2 cs
    if !ds.isEmpty then .octets (octet (digitsIn 16 ds)) (ds.length + 1)
    else if place == .echo || place == .quoted then .none none
    else .none (some "missing hex digit for \\x")

/-- Hexadecimal digits of a code point behind a `u` or a `U`. -/
def unicode (place : Place) (c : Char) (cs : Octets) : Meaning :=
  let (ds, _) := takeDigits 16 (if c == 'u' then 4 else 8) cs
  if !ds.isEmpty then .octets (Octets.encode (digitsIn 16 ds)) (ds.length + 1)
  else if place == .echo || place == .quoted then .none none
  else .none (some ("missing unicode digit for \\" ++ String.singleton c))

/-- The control character of a character: its last five bits. -/
def control (c : Char) : Octets :=
  octet (if c == '?' then 127 else c.toUpper.toNat &&& 31)

/-- The escape behind a backslash. -/
def read (place : Place) : Octets → Meaning
  | [] => .none none
  | c :: cs =>
    match letters.find? (·.1 == c) with
    | some (_, n) => .octets (octet n) 1
    | none =>
      if c == '0' || ('1' ≤ c && c ≤ '7' && place != .echo) then octal place c cs
      else if c == 'x' then hexadecimal place cs
      else if c == 'u' || c == 'U' then unicode place c cs
      else if c == '\'' || c == '"' || c == '?' then
        if place == .format || place == .quoted then .octets [c] 1 else .none none
      else if c == 'c' then
        if place == .echo || place == .argument then .stop
        else match place, cs with
          | .quoted, '\\' :: '\\' :: _ => .octets (control '\\') 3
          | .quoted, d :: _ => .octets (control d) 2
          | _, _ => .none none
      else .none none

/-- A text with its escapes carried out; whether it goes on behind; and what there is to complain
about. `fuel` bounds its length. -/
def expandFrom (place : Place) : Nat → Octets → Octets × Bool × List String
  | 0, _ => ([], true, [])
  | _ + 1, [] => ([], true, [])
  | fuel + 1, c :: cs =>
    let more (piece : Octets) (complaints : List String) (rest : Octets) :=
      let (text, goesOn, others) := expandFrom place fuel rest
      (piece ++ text, goesOn, complaints ++ others)
    if c != '\\' || cs.isEmpty then more [c] [] cs
    else match read place cs with
      | .octets text width => more text [] (cs.drop width)
      | .stop => ([], false, [])
      | .none complaint => more [c] complaint.toList cs

/-- A text with its escapes carried out; whether it goes on behind; and what there is to complain
about. -/
def expand (place : Place) (o : Octets) : Octets × Bool × List String :=
  expandFrom place (o.length + 1) o

end Backtest.Shell.Escape
