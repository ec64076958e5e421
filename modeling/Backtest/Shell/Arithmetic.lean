import Backtest.Shell.Octets

/-!
# Arithmetic expressions

The expressions of the shell, as they are read from a text. A text that is no expression is read as far
as it is one: what stands before the fault may have an effect, so the fault is a part of the expression.

* `ArithmeticFault`; `Expression`; `Token`, `Expression.nextToken`, the signs and numbers of a text;
* `Expression.level`, `Expression.read`, the expression of a text.
-/

namespace Backtest.Shell

/-- What is wrong with an expression: the part of it that is shown, why, and the text from the piece on
that is blamed. -/
structure ArithmeticFault where
  shown : Octets
  why : String
  blamed : Octets

/-- An arithmetic expression. -/
inductive Expression
  | number (n : Int)
  /-- A parameter, with its index if it has one. -/
  | name (name : Octets)
  | unary (sign : Char) (e : Expression)
  /-- A parameter with one added or taken away, before or after its value is taken. -/
  | step (before : Bool) (change : Int) (name : Octets)
  /-- Two operands of a sign; the fault tells what is wrong if they do not fit. -/
  | binary (sign : Octets) (fault : ArithmeticFault) (a b : Expression)
  | both (a b : Expression)
  | either (a b : Expression)
  | choice (condition a b : Expression)
  /-- A parameter given a value, or what a sign makes of its own and another. -/
  | assign (name : Octets) (sign : Octets) (fault : ArithmeticFault) (value : Expression)
  | comma (a b : Expression)
  | fault (f : ArithmeticFault)

namespace Expression

/-- A piece of an expression. -/
inductive Token
  | done
  | number (n : Int)
  | name (name : Octets)
  | sign (s : Octets)
  /-- A parameter's value changed by one: before a name or behind one. -/
  | before (change : Int)
  | behind (change : Int)
  /-- The sign of an assignment, without its last character. -/
  | assign (s : Octets)
  | bad (f : ArithmeticFault)
  deriving Inhabited

/-- Where a reader of an expression stands. -/
structure Scanner where
  whole : Octets
  rest : Octets
  token : Token
  /-- The text from the last piece on. -/
  last : Octets
  deriving Inhabited

/-- The value of a digit of a base up to 64. -/
def digitValue (base : Nat) (c : Char) : Nat :=
  if c.isDigit then c.toNat - 48
  else if 'a' ≤ c && c ≤ 'z' then c.toNat - 87
  else if 'A' ≤ c && c ≤ 'Z' then if base ≤ 36 then c.toNat - 55 else c.toNat - 29
  else if c == '@' then 62 else 63

/-- Digits of a base, behind a number that was read of them, or what is wrong. A sharp sign makes the
number the base. -/
def digitsFrom (base : Nat) (based : Bool) (n : Nat) : Octets → Except String Nat
  | [] => .ok n
  | '#' :: cs =>
    if based then .error "invalid number"
    else if n < 2 || 64 < n then .error "invalid arithmetic base"
    else if cs.isEmpty || cs.head? == some '#' then .error "invalid integer constant"
    else digitsFrom n true 0 cs
  | c :: cs =>
    let d := digitValue base c
    if base ≤ d then .error "value too great for base"
    else digitsFrom base based ((n * base + d) % Nat.pow 2 64) cs

/-- The number of a text, or what is wrong with it. -/
def numberOf (o : Octets) : Except String Int :=
  let n : Except String Nat := match o with
    | ['0'] => .ok 0
    | '0' :: x :: cs => if x == 'x' || x == 'X' then digitsFrom 16 true 0 cs
        else digitsFrom 8 true 0 (x :: cs)
    | cs => digitsFrom 10 false 0 cs
  n.map fun n => (n : Int).bmod (Nat.pow 2 64)

/-- A blank of an expression. -/
def isBlank (c : Char) : Bool := c == ' ' || c == '\t' || c == '\n'

/-- A character that begins a sign. -/
def isSign (c : Char) : Bool := "=><+-*/%!()&|^~?:,".toList.contains c

/-- How many characters an index in brackets has, with the brackets. -/
def indexLength (depth : Nat) : Octets → Nat
  | [] => 0
  | '[' :: cs => 1 + indexLength (depth + 1) cs
  | ']' :: cs => if depth ≤ 1 then 1 else 1 + indexLength (depth - 1) cs
  | _ :: cs => 1 + indexLength depth cs

/-- The signs of more than one character. -/
def longSigns : List String := ["==", "!=", ">=", "<=", "<<", ">>", "&&", "||", "**"]

/-- Whether a piece is an operand. -/
def Token.isOperand : Token → Bool
  | .number _ | .name _ | .behind _ => true
  | _ => false

/-- Whether a piece is a name. -/
def Token.isName : Token → Bool
  | .name _ => true
  | _ => false

/-- The sign in front of a text, and its length. -/
def signOf (previous : Token) (o : Octets) : Token × Nat :=
  let two := String.ofList (o.take 2)
  match o with
  | [] => (.done, 0)
  | c :: cs =>
    let change : Int := if c == '-' then -1 else 1
    if longSigns.contains two then
      if (two == "<<" || two == ">>") && (o.drop 2).head? == some '=' then (.assign (o.take 2), 3)
      else (.sign (o.take 2), 2)
    else if two == "++" || two == "--" then
      if previous.isName then (.behind change, 2)
      else if (((o.drop 2).dropWhile isBlank).head?.any isNameStart) then (.before change, 2)
      else (.sign [c], 1)
    else if "*/%+-&^|".toList.contains c && cs.head? == some '=' then (.assign [c], 2)
    else if c == '=' then (.assign [], 1)
    else (.sign [c], 1)

/-- The scanner one piece further. -/
def next (s : Scanner) : Scanner :=
  let text := s.rest.dropWhile isBlank
  let here (token : Token) (n : Nat) : Scanner := { s with token, rest := text.drop n, last := text }
  match text with
  | [] => { s with token := .done, rest := [] }
  | c :: _ =>
    if isNameStart c then
      let n := (text.takeWhile isNameChar).length
      let n := if (text.drop n).head? == some '[' then n + indexLength 0 (text.drop n) else n
      here (.name (text.take n)) n
    else if c.isDigit then
      let ds := text.takeWhile fun c => isNameChar c || c == '#' || c == '@'
      match numberOf ds with
      | .ok n => here (.number n) ds.length
      | .error why =>
        let before := s.whole.take (s.whole.length - text.length)
        here (.bad { shown := before ++ ds, why, blamed := ds }) text.length
    else if isSign c then
      let (token, n) := signOf s.token text
      here token n
    else
      let why := if s.token.isOperand then "syntax error: invalid arithmetic operator"
        else "syntax error: operand expected"
      here (.bad { shown := s.whole, why, blamed := text }) text.length

/-- The scanner at the first piece of a text. -/
def Scanner.ofText (o : Octets) : Scanner := next { whole := o, rest := o, token := .done, last := [] }

/-- A fault here. -/
def blame (s : Scanner) (why : String) : ArithmeticFault := { shown := s.whole, why, blamed := s.last }

/-- The scanner at its end, behind a fault. -/
def stopped (s : Scanner) (f : ArithmeticFault) : Expression × Scanner :=
  (.fault f, { s with token := .done, rest := [] })

/-- A fault here, which is told unless the piece here is one of its own. -/
def broken (s : Scanner) (why : String) : Expression × Scanner :=
  match s.token with
  | .bad f => stopped s f
  | _ => stopped s (blame s why)

/-- Whether the scanner stands at a sign. -/
def isAt (s : Scanner) (signs : List String) : Bool :=
  match s.token with
  | .sign o => signs.contains (String.ofList o)
  | _ => false

/-- The signs of two operands, by how closely they bind, the loosest first. -/
def binarySigns : List (List String) :=
  [["|"], ["^"], ["&"], ["==", "!="], ["<=", ">=", "<", ">"], ["<<", ">>"], ["+", "-"], ["*", "/", "%"]]

/-- How closely parts of an expression bind. -/
inductive Level
  | comma
  | assignment
  | choice
  | either
  | both
  /-- One of the levels of `binarySigns`. -/
  | binary (n : Nat)
  | power
  | unary
  deriving DecidableEq

/-- A reader of a part of an expression. -/
abbrev PartReader := Scanner → Expression × Scanner

/-- A part that is an operand. -/
def operand (level : Level → PartReader) (s : Scanner) : Expression × Scanner :=
  match s.token with
  | .before n =>
    let s := next s
    match s.token with
    | .name x =>
      let after := { s with token := .number 0 }
      -- a name that was changed before cannot be changed behind
      let sign := (after.rest.dropWhile isBlank).take 2
      if sign == ['+', '+'] || sign == ['-', '-'] then
        let here := { after with last := after.rest.dropWhile isBlank }
        let (f, s) := stopped here (blame here (String.ofList sign ++ ": assignment requires lvalue"))
        (.comma (.step true n x) f, s)
      else (.step true n x, next after)
    | _ => broken s "identifier expected after pre-increment or pre-decrement"
  | .number n => (.number n, next s)
  | .name x =>
    let after := next s
    match after.token with
    | .behind n => (.step false n x, next { after with token := .number 0 })
    | _ => (.name x, after)
  | .sign ['('] =>
    let (e, s) := level .comma (next s)
    if isAt s [")"] then (e, next { s with token := .number 0 })
    else
      let (f, s) := broken s "missing \x60)'"
      (.comma e f, s)
  | _ => broken s "syntax error: operand expected"

/-- A part behind the signs of one operand. -/
def unaryPart (level : Level → PartReader) (s : Scanner) : Expression × Scanner :=
  match s.token with
  | .sign [c] =>
    if "!~-+".toList.contains c then
      let (e, s) := level .unary (next s)
      (.unary c e, s)
    else operand level s
  | _ => operand level s

/-- A power. -/
def powerPart (level : Level → PartReader) (s : Scanner) : Expression × Scanner :=
  let (a, s) := level .unary s
  if isAt s ["**"] then
    let (b, s) := level .power (next s)
    (.binary ['*', '*'] (blame s "exponent less than 0") a b, s)
  else (a, s)

/-- What is joined to a first part by signs that bind equally; `fuel` bounds the text. -/
def joinedFrom (signs : List String) (part : PartReader)
    (join : Octets → ArithmeticFault → Expression → Expression → Expression) :
    Nat → Expression → Scanner → Expression × Scanner
  | 0, a, s => (a, s)
  | fuel + 1, a, s =>
    match s.token with
    | .sign o =>
      if !signs.contains (String.ofList o) then (a, s)
      else
        let operand := s.rest.dropWhile fun c => c == ' ' || c == '\t'
        let fault := { shown := s.whole, why := "division by 0", blamed := operand }
        let (b, s) := part (next s)
        joinedFrom signs part join fuel (join o fault a b) s
    | _ => (a, s)

/-- Parts joined by signs that bind equally. -/
def joined (signs : List String) (part : PartReader)
    (join : Octets → ArithmeticFault → Expression → Expression → Expression) (s : Scanner) :
    Expression × Scanner :=
  let (a, s) := part s
  joinedFrom signs part join (s.rest.length + 1) a s

/-- A choice by a condition. -/
def choicePart (level : Level → PartReader) (s : Scanner) : Expression × Scanner :=
  let (c, s) := level .either s
  if !isAt s ["?"] then (c, s)
  else
    let s := next s
    if isAt s [":"] || s.token matches .done then
      let (f, s) := broken s "expression expected"
      (.comma c f, s)
    else
      let (a, s) := level .comma s
      if !isAt s [":"] then
        let (f, s) := broken s "\x60:' expected for conditional expression"
        (.comma c (.comma a f), s)
      else
        let s := next s
        if s.token matches .done then
          let (f, s) := broken s "expression expected"
          (.comma c (.comma a f), s)
        else
          let (b, s) := level .choice s
          (.choice c a b, s)

/-- An assignment. -/
def assignmentPart (level : Level → PartReader) (s : Scanner) : Expression × Scanner :=
  let (a, after) := level .choice s
  match after.token with
  | .assign sign =>
    match a with
    | .name x =>
      let (b, s) := level .assignment (next after)
      (.assign x sign (blame s "division by 0") b, s)
    | _ =>
      let (f, s) := broken after "attempted assignment to non-variable"
      (.comma a f, s)
  | _ => (a, after)

/-- A part of an expression; `fuel` bounds how it is nested. -/
def level : Nat → Level → PartReader
  | 0, _, s => broken s "expression recursion level exceeded"
  | fuel + 1, l, s =>
    let down := level fuel
    match l with
    | .comma => joined [","] (down .assignment) (fun _ _ a b => .comma a b) s
    | .assignment => assignmentPart down s
    | .choice => choicePart down s
    | .either => joined ["||"] (down .both) (fun _ _ a b => .either a b) s
    | .both => joined ["&&"] (down (.binary 0)) (fun _ _ a b => .both a b) s
    | .binary n => match binarySigns[n]? with
      | some signs => joined signs (down (.binary (n + 1))) (fun o f a b => .binary o f a b) s
      | none => down .power s
    | .power => powerPart down s
    | .unary => unaryPart down s

/-- The expression of a text; one of blanks is zero. -/
def read (o : Octets) : Expression :=
  let text := o.dropWhile fun c => c == ' ' || c == '\t'
  if text.all isBlank then .number 0
  else
    let (e, s) := level (16 * (text.length + 2)) .comma (Scanner.ofText text)
    match s.token with
    | .done => e
    | _ => .comma e (broken s "syntax error in expression").1

end Expression

end Backtest.Shell
