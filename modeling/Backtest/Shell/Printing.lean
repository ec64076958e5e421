import Backtest.Shell.Directive
import Backtest.Shell.Escape
import Backtest.Shell.Quoting
import Backtest.Shell.Timestamp

/-!
# Printing by a format

`printf` writes its format as often as it takes to use up its texts. A directive takes the next text;
one that is missing counts as empty or zero. A text that is no number counts as far as it is one, with
a complaint.

* `Printing`, a format that is being written; `Printing.directive`, one directive;
* `Printing.run`, a format with its texts.
-/

namespace Backtest.Shell

open Decimal

/-- A format that is being written. -/
structure Printing where
  /-- The texts that are left. -/
  texts : List Octets
  written : Octets
  complaints : List Octets
  /-- Whether a text was no number. -/
  failed : Bool
  /-- The variables that were given the number of octets written so far. -/
  counts : List (Octets × Nat)
  /-- The code with which the writing stops before its end. -/
  stopped : Option Nat

namespace Printing

/-- A format with its texts, nothing of which is written. -/
def start (texts : List Octets) : Printing := ⟨texts, [], [], false, [], none⟩

/-- Something more written. -/
def write (p : Printing) (o : Octets) : Printing := { p with written := p.written ++ o }

/-- Something to complain about. -/
def complain (p : Printing) (o : Octets) : Printing :=
  { p with complaints := p.complaints ++ [o] }

/-- The writing stopped. -/
def stop (p : Printing) (code : Nat) : Printing := { p with stopped := some code }

/-- The next text, or an empty one. -/
def take (p : Printing) : Octets × Printing := (p.texts.headD [], { p with texts := p.texts.drop 1 })

/-- The complaint about a text that is no number. -/
def notANumber (o : Octets) : Octets :=
  let why := match o with
    | '0' :: c :: _ => if c.isDigit then "invalid octal number" else
        if c == 'x' then "invalid hex number" else "invalid number"
    | _ => "invalid number"
  o ++ ": ".toList ++ why.toList

/-- The complaint about a number out of range. -/
def outOfRange (o : Octets) : Octets :=
  "warning: ".toList ++ o ++ ": Numerical result out of range".toList

/-- The number of the character behind a quote. -/
def pointOf (o : Octets) : Nat :=
  match Octets.point? o with
  | some (n, _) => n
  | none => (o.headD '\x00').toNat

/-- What was read of a text: the value, whether it was out of range, and whether all of it was
read. -/
structure Taken (β : Type) where
  value : β
  tooLarge : Bool
  whole : Bool

/-- The next text as a number. A quote gives the number of the character behind it. -/
def takeNumber {β : Type} (ofPoint : Nat → β) (read : Octets → Taken β) (p : Printing) :
    β × Printing :=
  match p.texts with
  | [] => (ofPoint 0, p)
  | o :: texts =>
    let p := { p with texts }
    match o with
    | '\'' :: cs | '"' :: cs => (ofPoint (pointOf cs), p)
    | _ =>
      let t := read o
      if !t.whole then (t.value, { p.complain (notANumber o) with failed := true })
      else (t.value, if t.tooLarge then p.complain (outOfRange o) else p)

/-- The next text as a whole number with a sign. -/
def takeSigned (p : Printing) : Int × Printing :=
  p.takeNumber (fun n => (n : Int)) fun o => match Number.read true o with
    | some r => { value := r.signed.1, tooLarge := r.signed.2, whole := r.rest.isEmpty }
    | none => { value := 0, tooLarge := false, whole := o.isEmpty }

/-- The next text as a whole number without a sign. -/
def takeUnsigned (p : Printing) : Nat × Printing :=
  p.takeNumber id fun o => match Number.read true o with
    | some r => { value := r.unsigned.1, tooLarge := r.unsigned.2, whole := r.rest.isEmpty }
    | none => { value := 0, tooLarge := false, whole := o.isEmpty }

/-- The next text as a float. -/
def takeReal (p : Printing) : Extended × Printing :=
  p.takeNumber (fun n => (Extended.nearest false n 1).1) fun o => match Extended.read? o with
    | some r => { value := r.value, tooLarge := r.outOfRange, whole := r.rest.isEmpty }
    | none => { value := .finite false 0 0, tooLarge := false, whole := o.isEmpty }

/-- No width or precision is greater. -/
def greatestSize : Int := Int.pow 2 31 - 1

/-- The next text as a width or a precision. One out of range is complained about by the text behind it;
without such a text only its last 32 bits count. -/
def takeSize (p : Printing) : Int × Printing :=
  let (n, p) := p.takeSigned
  match p.texts with
  | [] => (n.bmod (Nat.pow 2 32), p)
  | o :: _ =>
    let m := max (-greatestSize - 1) (min greatestSize n)
    (m, if m == n then p else p.complain (outOfRange o))

/-- A text with its escapes carried out, in a layout. -/
def writeEscaped (p : Printing) (l : Layout) : Printing :=
  let (o, p) := p.take
  let (text, goesOn, complaints) := Escape.expand .argument o
  let p := { p with complaints := p.complaints ++ complaints.map String.toList }.write (l.text text)
  if goesOn then p else p.stop (if p.failed then 1 else 0)

/-- A text quoted, in a layout. The capital letter cuts it before it is quoted. -/
def writeQuoted (p : Printing) (l : Layout) (cuts : Bool) : Printing :=
  let (o, p) := p.take
  match cuts, l.precision with
  | true, some n => p.write ({ l with precision := none }.text (Quoting.reusable (o.take n)))
  | _, _ => p.write (l.text (Quoting.reusable o))

/-- The number of octets written so far, kept in a variable. -/
def writeCount (p : Printing) (before : Nat) : Printing :=
  let (name, p) := p.take
  if name.isEmpty then p
  else if isName name then { p with counts := p.counts ++ [(name, p.written.length - before)] }
  else (p.complain ('\x60' :: name ++ "': not a valid identifier".toList)).stop 1

/-- The characters up to the bracket that closes one, and those behind it. -/
def untilBracket : Nat → Octets → Octets × Octets
  | _, [] => ([], [])
  | depth, c :: cs =>
    if c == ')' && depth == 0 then ([], cs)
    else
      let depth := if c == '(' then depth + 1 else if c == ')' then depth - 1 else depth
      let (inside, rest) := untilBracket depth cs
      (c :: inside, rest)

/-- The next text as a count of seconds. There is no clock: the time now and that of the start are the
start of 1970. -/
def takeTimestamp (p : Printing) : Timestamp × Printing :=
  let (n, p) := p.takeSigned
  (.ofSeconds (if n == -1 || n == -2 then 0 else n), p)

/-- A directive of a letter; `before` octets were written when the format began. -/
def directive (p : Printing) (before : Nat) (l : Layout) (letter : Char) : Printing :=
  if letter == 'c' then
    let (o, p) := p.take
    p.write (l.pad [o.headD '\x00'])
  else if letter == 's' then
    let (o, p) := p.take
    p.write (l.text o)
  else if letter == 'b' then p.writeEscaped l
  else if letter == 'q' || letter == 'Q' then p.writeQuoted l (letter == 'Q')
  else if letter == 'n' then p.writeCount before
  else if letter == 'd' || letter == 'i' then
    let (n, p) := p.takeSigned
    p.write (l.signed n)
  else if "ouxX".toList.contains letter then
    let (n, p) := p.takeUnsigned
    p.write (l.unsigned letter n)
  else if "aAeEfFgG".toList.contains letter then
    let (x, p) := p.takeReal
    p.write (l.real letter x)
  else (p.complain ('\x60' :: letter :: "': invalid format character".toList)).stop 1

/-- A width or a precision: digits, or a star for the next text. -/
def readSize (p : Printing) (o : Octets) : Option Int × Octets × Printing :=
  match o with
  | '*' :: rest =>
    let (n, p) := p.takeSize
    (some n, rest, p)
  | _ =>
    let (ds, rest) := takeDigits 10 o.length o
    (if ds.isEmpty then none else some (digitsIn 10 ds), rest, p)

/-- A precision behind its point; none below zero counts. -/
def readPrecision (p : Printing) (o : Octets) : Option Int × Octets × Printing :=
  match o with
  | '.' :: '-' :: rest =>
    let (_, rest) := takeDigits 10 rest.length rest
    (none, rest, p)
  | '.' :: rest =>
    let (n, rest, p) := p.readSize rest
    (some (n.getD 0), rest, p)
  | _ => (none, o, p)

/-- The directive behind a percent sign, and the rest of the format. One whose width or precision is out
of range writes nothing. -/
def readDirective (p : Printing) (before : Nat) (o : Octets) : Printing × Octets :=
  let flags := o.takeWhile "#'-+ 0".toList.contains
  let (width, rest, p) := p.readSize (o.drop flags.length)
  let (precision, rest, p) := p.readPrecision rest
  match rest.dropWhile "hjlLtz".toList.contains with
  | '(' :: rest =>
    let (format, rest) := untilBracket 0 rest
    if rest.head? == some 'T' then
      let (t, p) := p.takeTimestamp
      (p.write ((Layout.of flags (width.getD 0) precision).text (t.write format)), rest.drop 1)
    else
      let mark := rest.headD '\x00'
      let why := "warning: \x60".toList ++ mark :: "': invalid time format specification".toList
      ((p.complain why).write ['%'], o)
  | [] => ((p.complain ('\x60' :: '%' :: o ++ "': missing format character".toList)).stop 1, [])
  | letter :: rest =>
    let q := p.directive before (.of flags (fitting width) (precision.map fun n => fitting (some n))) letter
    let fits := fitting width == width.getD 0 && fitting precision == precision.getD 0
    (if fits then q else { q with written := p.written }, rest)
where
  /-- A size, or nothing if it is out of range. -/
  fitting (size : Option Int) : Int := (size.filter (· ≤ greatestSize)).getD 0

/-- A format written once; `fuel` bounds its length. -/
def once (before : Nat) : Nat → Printing → Octets → Printing
  | 0, p, _ => p
  | _ + 1, p, [] => p
  | fuel + 1, p, '\\' :: cs => match Escape.read .format cs with
    | .octets text width => once before fuel (p.write text) (cs.drop width)
    | .stop => p
    | .none complaint =>
      let p := { p with complaints := p.complaints ++ complaint.toList.map String.toList }
      once before fuel (p.write ['\\']) cs
  | fuel + 1, p, '%' :: '%' :: cs => once before fuel (p.write ['%']) cs
  | fuel + 1, p, '%' :: cs =>
    let (p, rest) := p.readDirective before cs
    if p.stopped.isSome then p else once before fuel p rest
  | fuel + 1, p, c :: cs => once before fuel (p.write [c]) cs

/-- A format written as often as it takes to use up its texts; `fuel` bounds how often. -/
def repeated (format : Octets) : Nat → Printing → Printing
  | 0, p => p
  | fuel + 1, p =>
    let q := once p.written.length (format.length + 1) p format
    if q.stopped.isSome || q.texts.isEmpty || q.texts.length == p.texts.length then q
    else repeated format fuel q

/-- A format with its texts, written. -/
def run (format : Octets) (texts : List Octets) : Printing :=
  repeated format (texts.length + 1) (start texts)

/-- The code of what was written. -/
def code (p : Printing) : Nat := p.stopped.getD (if p.failed then 1 else 0)

end Printing

end Backtest.Shell
