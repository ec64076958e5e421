import Backtest.Shell.Pattern

/-!
# Regular expressions

The extended regular expressions of conditions. A text with quotes is first made one without: what is
quoted stands for itself. Then it is read: characters, brackets, groups, alternatives, repetitions,
places, and the text of a group once more. A text that is none matches nothing, and is a fault.

* `Regex.textOf`, a text with quotes as an expression; `Regex.read?`, what an expression matches, with the
  number of its groups.
-/

namespace Backtest.Shell.Regex

/-- The signs that a backslash hides. -/
def signs : Octets := ".[\\()*+?\x7b|^$".toList

/-- The characters of a bracket expression behind its opening bracket, up to the closing one, as they
stand; nothing if it does not close. `inside` is the sign of a class that is open. -/
def bracket? (first : Bool) (inside : Option Char) : Marked → Option (Octets × Marked)
  | [] => none
  | (c, quoted) :: cs =>
    let more (inside : Option Char) :=
      (bracket? false inside cs).map fun (text, rest) => (c :: text, rest)
    let sign := cs.head?.map (·.1)
    if quoted then more inside
    else match inside with
      | some s =>
        match cs with
        | (']', _) :: rest =>
          if c == s then (bracket? false none rest).map fun (text, rest) => (c :: ']' :: text, rest)
          else more inside
        | _ => more inside
      | none =>
        if c == ']' && !first then some ([c], cs)
        else if c == '[' && (sign == some ':' || sign == some '=' || sign == some '.') then more sign
        else more none

/-- A text with quotes as an expression: quoted signs behind backslashes, unless they stand in
brackets. `fuel` bounds the characters. -/
def textFrom : Nat → Marked → Octets
  | 0, _ => []
  | _ + 1, [] => []
  | fuel + 1, (c, quoted) :: cs =>
    if quoted then (if signs.contains c then ['\\', c] else [c]) ++ textFrom fuel cs
    else if c == '[' then
      let (negation, inside) := match cs with
        | ('^', false) :: ds => (['^'], ds)
        | _ => ([], cs)
      match bracket? true none inside with
      | some (text, rest) => c :: negation ++ text ++ textFrom fuel rest
      | none => c :: textFrom fuel cs
    else c :: textFrom fuel cs

/-- A text with quotes as an expression. -/
def textOf (m : Marked) : Octets := textFrom (m.length + 1) m

/-- What is left of an expression, how many groups have begun, and which are complete. -/
structure State where
  rest : List Octets
  groups : Nat
  complete : List Nat

/-- A reader of an expression; one that fails finds no expression. -/
abbrev Reader (α : Type) := StateT State Option α

/-- The next character. -/
def peek : Reader (Option Octets) := return (← get).rest.head?

/-- So many characters passed. -/
def pass (n : Nat) : Reader Unit := modify fun s => { s with rest := s.rest.drop n }

/-- Whether the expression goes on with a sign. -/
def isAt (c : Char) : Reader Bool := return (← peek) == some [c]

/-- A sign passed, if it is there. -/
def accept (c : Char) : Reader Bool := do
  let here ← isAt c
  if here then pass 1
  return here

/-- The greatest number of repetitions. -/
def mostTimes : Nat := 32767

/-- A number of repetitions, if digits stand there. -/
def number? : Reader (Option Nat) := do
  let ds := (← get).rest.takeWhile fun c => (c.headD ' ').isDigit
  pass ds.length
  return if ds.isEmpty then none else some (digitsIn 10 ds.flatten)

/-- The numbers of repetitions between braces, behind the first. -/
def bounds : Reader (Nat × Option Nat) := do
  let least ← number?
  let comma ← accept ','
  let most ← if comma then number? else pure least
  guard (least.isSome || comma)
  guard (← accept '\x7d')
  let least := least.getD 0
  guard (most.all (least ≤ ·) && most.getD least ≤ mostTimes)
  return (least, most)

/-- What repeats the matcher in front of it, as often as such signs follow. `fuel` bounds the text. -/
def repetitions : Nat → Matcher → Reader Matcher
  | 0, m => return m
  | fuel + 1, m => do
    if ← accept '*' then repetitions fuel (.times 0 none m)
    else if ← accept '+' then repetitions fuel (.times 1 none m)
    else if ← accept '?' then repetitions fuel (.times 0 (some 1) m)
    else if ← accept '\x7b' then
      let (least, most) ← bounds
      repetitions fuel (.times least most m)
    else return m

/-- A character of a bracket expression, or a class; `first` tells whether it is the first. -/
def element (first : Bool) : Reader (Member × Bool) := do
  let s ← get
  match s.rest with
  | ['['] :: [sign] :: cs =>
    let inside := cs.takeWhile (· != [sign])
    let closes := cs.drop inside.length
    if !(sign == ':' || sign == '=' || sign == '.') then
      pass 1
      return (.ofChar ['['], true)
    -- the sign may stand in the name itself, where no bracket follows
    guard ((closes.drop 1).head? == some [']'])
    pass (inside.length + 4)
    if sign == ':' then
      let name := String.ofList inside.flatten
      guard (CharClass.classes.lookup name).isSome
      return (.named name, false)
    else
      guard (inside.length == 1)
      return (.ofChar (inside.headD []), sign == '.')
  | c :: cs =>
    if c == ['-'] && !first then guard (cs.head? == some [']'])
    pass 1
    return (.ofChar c, true)
  | [] => failure

/-- The members of a bracket expression, up to the closing bracket. `fuel` bounds the text. -/
def members : Nat → Bool → Reader (List Member)
  | 0, _ => failure
  | fuel + 1, first => do
    if !first && (← accept ']') then return []
    let (member, ranges) ← element first
    let s ← get
    match member, s.rest with
    | .range a _, ['-'] :: d :: _ =>
      if ranges && d != [']'] then
        pass 1
        let (last, ranges) ← element true
        match last with
        | .range b _ =>
          guard (ranges && a ≤ b)
          return .range a b :: (← members fuel false)
        | .named _ => failure
      else return member :: (← members fuel false)
    | .named _, ['-'] :: d :: _ =>
      guard (d == [']'])
      return member :: (← members fuel false)
    | _, _ => return member :: (← members fuel false)

/-- What an escaped character stands for: a matcher, and whether it can be repeated. -/
def escaped (c : Octets) : Reader (Matcher × Bool) := do
  let wordChars : List Member := [.named "alnum", .ofChar ['_']]
  match c with
  | ['<'] => return (.at .wordStart, false)
  | ['>'] => return (.at .wordFinish, false)
  | ['b'] => return (.at (.wordEdge true), false)
  | ['B'] => return (.at (.wordEdge false), false)
  | ['\x60'] => return (.at .start, false)
  | ['\''] => return (.at .finish, false)
  | ['w'] => return (.one false wordChars, true)
  | ['W'] => return (.one true wordChars, true)
  | ['s'] => return (.one false [.named "space"], true)
  | ['S'] => return (.one true [.named "space"], true)
  | [d] =>
    if '1' ≤ d && d ≤ '9' then
      let n := d.toNat - 48
      guard ((← get).complete.contains n)
      return (.again n, true)
    else return (.char c, true)
  | c => return (.char c, true)

mutual

/-- Alternatives, up to the end or to the bracket that closes them. -/
def alternatives : Nat → Bool → Reader Matcher
  | 0, _ => failure
  | fuel + 1, nested => do
    let first ← branch fuel nested
    if ← accept '|' then return .either first (← alternatives fuel nested) else return first

/-- Expressions one behind the other. -/
def branch : Nat → Bool → Reader Matcher
  | 0, _ => failure
  | fuel + 1, nested => do
    let next ← peek
    if next.isNone || next == some ['|'] || (nested && next == some [')']) then return .empty
    let m ← expression fuel
    return .next m (← branch fuel nested)

/-- One expression with its repetitions. -/
def expression : Nat → Reader Matcher
  | 0 => failure
  | fuel + 1 => do
    match ← peek with
    | none => failure
    | some c =>
      pass 1
      let length := (← get).rest.length + 1
      match c with
      | ['('] =>
        let n := (← get).groups + 1
        modify ({ · with groups := n })
        let body ← alternatives fuel true
        guard (← accept ')')
        modify fun s => { s with complete := n :: s.complete }
        repetitions length (.group n body)
      | ['['] =>
        let negated ← accept '^'
        repetitions length (.one negated (← members length true))
      | ['.'] => repetitions length .any
      | ['^'] => return .at .start
      | ['$'] => return .at .finish
      | ['*'] | ['+'] | ['?'] | ['\x7b'] => failure
      | ['\\'] =>
        match ← peek with
        | none => failure
        | some d =>
          pass 1
          let (m, repeats) ← escaped d
          if repeats then repetitions length m else return m
      | c => repetitions length (.char c)

end

/-- What an expression matches, and the number of its groups; nothing if it is none. -/
def read? (o : Octets) : Option (Matcher × Nat) :=
  let cs := Octets.chars o
  (alternatives (3 * cs.length + 3) false |>.run { rest := cs, groups := 0, complete := [] }).map
    fun (m, s) => (m, s.groups)

end Backtest.Shell.Regex
