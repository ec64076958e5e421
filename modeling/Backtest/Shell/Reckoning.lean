import Backtest.Shell.Arithmetic
import Backtest.Shell.Machine

/-!
# Reckoning

The values of arithmetic expressions. Numbers have 64 bits. A parameter stands for the value of the
expression that its text is. Where a value cannot matter, nothing is changed and nothing divided.

* `Reckon`, an action that a fault of arithmetic may end; `Reckon.eval`, the value of an expression;
* `Act.reckon`, the value of a text; `Act.indexOf`, the index that a text stands for.
-/

namespace Backtest.Shell

/-- An action that a fault of arithmetic may end; one that was already told is nothing. -/
abbrev Reckon (α : Type) := ExceptT (Option ArithmeticFault) (ExceptT Interruption (StateM Machine)) α

namespace Reckon

/-- A truth value as a number. -/
def ofBool (b : Bool) : Int := if b then 1 else 0

/-- A number as bits without a sign. -/
def bits (n : Int) : Nat := (n.emod (Int.pow 2 64)).toNat

/-- The number of bits without a sign. -/
def ofBits (n : Nat) : Int := Number.wrap n

/-- A power. -/
def power (a : Int) (n : Nat) : Int :=
  if _h : n = 0 then 1
  else
    let half := power a (n / 2)
    let square := Number.wrap (half * half)
    if n % 2 == 0 then square else Number.wrap (square * a)
termination_by n

/-- What a sign makes of two numbers; nothing if they do not fit. -/
def operate? (sign : String) (a b : Int) : Option Int :=
  match sign with
  | "+" => some (Number.wrap (a + b))
  | "-" => some (Number.wrap (a - b))
  | "*" => some (Number.wrap (a * b))
  | "/" => if b == 0 then none else some (Number.wrap (a.tdiv b))
  | "%" => if b == 0 then none else some (a.tmod b)
  | "**" => if b < 0 then none else some (power a b.toNat)
  | "<<" => some (ofBits (bits a * Nat.pow 2 (bits b % 64)))
  | ">>" => some (a / Int.pow 2 (bits b % 64))
  | "&" => some (ofBits (bits a &&& bits b))
  | "|" => some (ofBits (bits a ||| bits b))
  | "^" => some (ofBits (bits a ^^^ bits b))
  | "==" => some (ofBool (a == b))
  | "!=" => some (ofBool (a != b))
  | "<" => some (ofBool (a < b))
  | ">" => some (ofBool (b < a))
  | "<=" => some (ofBool (a ≤ b))
  | ">=" => some (ofBool (b ≤ a))
  | _ => some b

/-- What a sign makes of one number. -/
def unary (sign : Char) (a : Int) : Int :=
  if sign == '!' then ofBool (a == 0)
  else if sign == '~' then -a - 1
  else if sign == '-' then Number.wrap (-a)
  else a

/-- The name of an array and the text of an index, if a name has one. -/
def splitIndex (o : Octets) : Octets × Option Octets :=
  let name := o.takeWhile (· != '[')
  if name.length == o.length then (name, none)
  else (name, some ((o.drop (name.length + 1)).dropLast))

/-- An index of an array, counted from its end if it lies below zero; nothing if it lies before the
start. -/
def indexIn (value : Option Value) (n : Int) : Option Nat :=
  let top : Nat := ((Act.itemsOf value).getLast?.map (·.1 + 1)).getD 0
  if 0 ≤ n then some n.toNat else if top + n < 0 then none else some (top + n).toNat

/-- An index of a value that is read. Only an array has one below zero. -/
def indexOf (value : Option Value) (n : Int) : Option Nat :=
  match value with
  | some (.text _) => if n < 0 then none else some n.toNat
  | _ => indexIn value n

section

variable (consult : Octets → Reckon Int)

/-- The text of a parameter. An index that no item can have is told; there is no text then. -/
def textOf (o : Octets) : Reckon (Option Octets) := do
  match splitIndex o with
  | (name, none) => Act.value? name
  | (name, some i) =>
    let n ← consult i
    let value ← Act.lookUp name
    match indexOf value n with
    | some n => return (Act.itemsOf value).lookup n
    | none =>
      Act.complain (name ++ ": bad array subscript".toList)
      return none

/-- The value of a parameter, by the expression that its text is. -/
def ofName (o : Octets) : Reckon Int := do
  match ← textOf consult o with
  | some t => consult t
  | none => return 0

/-- A parameter given a number. An index that no item can have is told. -/
def store (o : Octets) (n : Int) : Reckon Unit := do
  let given (name : Octets) (index : Option Nat) : Reckon Unit := do
    if !(← Act.assign name index (toString n).toList) then throw none
  match splitIndex o with
  | (name, none) => given name none
  | (name, some i) =>
    let k ← consult i
    match indexIn ((← Act.binding? name).bind (·.value)) k with
    | some k => given name (some k)
    | none => Act.complain (o ++ ": bad array subscript".toList)

/-- The value of an expression. One that does not matter has no effect, but its faults of form are
told. -/
def eval : Bool → Expression → Reckon Int
  | _, .number n => return n
  | matters, .name x => if matters then ofName consult x else return 0
  | matters, .unary c e => return unary c (← eval matters e)
  | matters, .step before n x => do
    if !matters then return 0
    let old ← ofName consult x
    let new := Number.wrap (old + n)
    store consult x new
    return if before then new else old
  | matters, .binary sign fault a b => do
    let a ← eval matters a
    let b ← eval matters b
    match operate? (String.ofList sign) a b with
    | some n => return n
    | none => if matters then throw (some fault) else return 0
  | matters, .both a b => do
    let x ← eval matters a
    let y ← eval (matters && x != 0) b
    return ofBool (x != 0 && y != 0)
  | matters, .either a b => do
    let x ← eval matters a
    let y ← eval (matters && x == 0) b
    return ofBool (x != 0 || y != 0)
  | matters, .choice c a b => do
    let x ← eval matters c
    let y ← eval (matters && x != 0) a
    let z ← eval (matters && x == 0) b
    return if x != 0 then y else z
  | matters, .assign x sign fault e => do
    let old ← if matters && !sign.isEmpty then ofName consult x else pure 0
    let n ← eval matters e
    if !matters then return n
    match operate? (String.ofList sign) old n with
    | some n =>
      store consult x n
      return n
    | none => throw (some fault)
  | matters, .comma a b => do
    let _ ← eval matters a
    eval matters b
  | _, .fault f => throw (some f)

end

/-- The value of a text. `fuel` bounds how parameters stand for others. -/
def recallFrom : Nat → Octets → Reckon Int
  | 0, o => throw (some { shown := o, why := "expression recursion level exceeded", blamed := o })
  | fuel + 1, o => eval (recallFrom fuel) true (Expression.read o)

/-- How deep parameters may stand for others. -/
def deepest : Nat := 1024

end Reckon

namespace Act

/-- The value of a text; a fault is told, behind the name of the command that asks. -/
def reckon (asker : String) (o : Octets) : Act (Option Int) := do
  match ← (Reckon.recallFrom Reckon.deepest o).run with
  | .ok n => return some n
  | .error none => return none
  | .error (some f) =>
    complain (asker.toList ++ f.shown ++ ": ".toList ++ f.why.toList ++ " (error token is \"".toList ++
      f.blamed ++ ['"', ')'])
    return none

/-- The value of a text in a word; a fault ends the line. -/
def reckoned (o : Octets) : Act Int := do
  match ← reckon "" o with
  | some n => return n
  | none => abandon

end Act

end Backtest.Shell
