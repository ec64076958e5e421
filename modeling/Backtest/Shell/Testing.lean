import Backtest.Shell.Globbing
import Backtest.Shell.Reckoning

/-!
# Tests

What can be asked about texts, numbers and files: by the command `test` with its words, or by a
condition of the language.

* `Testing.unary?`, `Testing.compare?`, the questions; `Testing.run`, the command `test`.
-/

namespace Backtest.Shell.Testing

/-- The entry at a path as it is written. -/
def entryAt (o : Octets) : Act (Option FileTree.Entry) := do
  if o.isEmpty then return none
  let files := (← get).files
  return (Globbing.pathOf? o).bind fun p => (files.find? p).toOption.join

/-- Whether something holds of the entry at a path. -/
def entryHas (o : Octets) (file : ByteArray → Bool) (directory : Bool) : Act Bool := do
  return match ← entryAt o with
    | some (.file bytes) => file bytes && o.getLast? != some '/'
    | some .directory => directory
    | none => false

/-- What a path comes down to, if something stands there. -/
def placeOf? (o : Octets) : Act (Option Path) := do
  if o.isEmpty then return none
  let files := (← get).files
  return match (Globbing.pathOf? o).map files.locate with
    | some (.ok (.file p _)) => if o.getLast? == some '/' then none else some p
    | some (.ok (.directory p)) => some p
    | _ => none

/-- Whether a path leads to the file that is always empty, which is no file like others. -/
def isDevice (o : Octets) : Act Bool := return (← placeOf? o) == some FileTree.nullDevice

/-- Whether a path leads to a newer file than another does; any is newer than none. -/
def isNewer (a b : Octets) : Act Bool := do
  let files := (← get).files
  return match ← placeOf? a, ← placeOf? b with
    | some p, some q => files.isAfter p q
    | some _, none => true
    | none, _ => false

/-- The options that have names, with their letters. -/
def optionNames : List (String × Char) :=
  [("errexit", 'e'), ("nounset", 'u'), ("noglob", 'f'), ("pipefail", 'P')]

/-- The options that are set when a shell begins. -/
def firstOptions : List String := ["braceexpand", "hashall", "interactive-comments"]

/-- Whether an option of a name is set. -/
def isOption (name : String) : Act Bool := do
  let options := (← Act.own).options
  return match optionNames.lookup name with
    | some l => options.contains l
    | none => firstOptions.contains name

/-- Whether a parameter has a value. -/
def isSet (o : Octets) : Act Bool := do
  match Reckon.splitIndex o with
  | (_, none) => return (← Act.value? o).isSome
  | (name, some i) =>
    let value ← Act.lookUp name
    let items := Act.itemsOf value
    if i == ['@'] || i == ['*'] then return !items.isEmpty
    return match Reckon.indexOf value (← Act.reckoned i) with
      | some n => (items.lookup n).isSome
      | none => false

/-- The answer to a question about one text; nothing if there is no such question. -/
def unary? (sign : String) (o : Octets) : Act (Option Bool) := do
  match sign with
  | "-n" => return some !o.isEmpty
  | "-z" => return some o.isEmpty
  | "-e" | "-a" | "-r" | "-w" | "-O" | "-G" =>
    return some ((← Act.isStream o) || (← entryHas o (fun _ => true) true))
  | "-f" => return some ((← entryHas o (fun _ => true) false) && !(← isDevice o))
  | "-c" => return some (← isDevice o)
  | "-d" => return some (← entryHas o (fun _ => false) true)
  | "-s" => return some (← entryHas o (fun b => b.size != 0) true)
  | "-x" => return some (← entryHas o (fun _ => false) true)
  | "-b" | "-g" | "-h" | "-k" | "-p" | "-t" | "-u" | "-L" | "-N" | "-S" | "-R" => return some false
  | "-o" => return some (← isOption (String.ofList o))
  | "-v" => return some (← isSet o)
  | _ => return none

/-- The comparisons of numbers. -/
def comparison? (sign : String) : Option (Int → Int → Bool) :=
  match sign with
  | "-eq" => some fun a b => a == b
  | "-ne" => some fun a b => a != b
  | "-lt" => some fun a b => a < b
  | "-le" => some fun a b => a ≤ b
  | "-gt" => some fun a b => b < a
  | "-ge" => some fun a b => b ≤ a
  | _ => none

/-- Whether a sign asks about two texts. -/
def isBinary (sign : String) : Bool :=
  ["=", "==", "!=", "<", ">", "-nt", "-ot", "-ef"].contains sign || (comparison? sign).isSome

/-- Why a test has no answer. -/
abbrev Refusal := Octets

/-- An answer, or why there is none. -/
abbrev Answer := Except Refusal Bool

/-- The answer to a question about two texts. -/
def binary (sign : String) (a b : Octets) : Act Answer := do
  match comparison? sign with
  | some compare =>
    let number (o : Octets) : Except Refusal Int :=
      match Number.whole? o with
      | some n => .ok n
      | none => .error (o ++ ": integer expression expected".toList)
    return do return compare (← number a) (← number b)
  | none => match sign with
    | "=" | "==" => return .ok (a == b)
    | "!=" => return .ok (a != b)
    | "<" => return .ok (a < b)
    | ">" => return .ok (b < a)
    | "-nt" => return .ok (← isNewer a b)
    | "-ot" => return .ok (← isNewer b a)
    | _ => return .ok ((← placeOf? a).isSome && (← placeOf? a) == (← placeOf? b))

/-- The answer of one word. -/
def one (a : Octets) : Act Answer := return .ok !a.isEmpty

/-- The answer turned round. -/
def turned (a : Answer) : Answer := a.map (!·)

/-- The answer of two words. -/
def two (a b : Octets) : Act Answer := do
  if a == ['!'] then return turned (← one b)
  match ← unary? (String.ofList a) b with
  | some answer => return .ok answer
  | none => return .error (a ++ ": unary operator expected".toList)

/-- The answer of three words. -/
def three (a b c : Octets) : Act Answer := do
  let sign := String.ofList b
  if isBinary sign then binary sign a c
  else if sign == "-a" then return .ok (!a.isEmpty && !c.isEmpty)
  else if sign == "-o" then return .ok (!a.isEmpty || !c.isEmpty)
  else if a == ['!'] then return turned (← two b c)
  else if a == ['('] && c == [')'] then one b
  else return .error (b ++ ": binary operator expected".toList)

/-- The answer of any words: terms joined by `-a` and `-o`; `fuel` bounds them. The words behind a
bracket that closes are left over. -/
def general : Nat → List Octets → Act (Except Refusal (Bool × List Octets))
  | 0, _ => return .error "too many arguments".toList
  | fuel + 1, words => do
    let term : Except Refusal (Bool × List Octets) ← match words with
      | ['!'] :: rest => do pure ((← general fuel rest).map fun (b, rest) => (!b, rest))
      | ['('] :: rest => do
        pure <| match ← general fuel rest with
          | .ok (b, [')'] :: rest) => .ok (b, rest)
          | .ok _ => .error "\x60)' expected".toList
          | .error f => .error f
      | a :: sign :: b :: rest =>
        if isBinary (String.ofList sign) then
          pure ((← binary (String.ofList sign) a b).map fun answer => (answer, rest))
        else match ← unary? (String.ofList a) sign with
          | some answer => pure (.ok (answer, b :: rest))
          | none => pure (.ok (!a.isEmpty, sign :: b :: rest))
      | [a, b] => do
        pure <| match ← unary? (String.ofList a) b with
          | some answer => .ok (answer, [])
          | none => .ok (!a.isEmpty, [b])
      | [a] => pure (.ok (!a.isEmpty, []))
      | [] => pure (.error "argument expected".toList)
    match term with
    | .error f => return .error f
    | .ok (x, ['-', 'a'] :: rest) =>
      return (← general fuel rest).map fun (y, rest) => (x && y, rest)
    | .ok (x, ['-', 'o'] :: rest) =>
      return (← general fuel rest).map fun (y, rest) => (x || y, rest)
    | .ok other => return .ok other

/-- The answer of words. -/
def answer (words : List Octets) : Act Answer := do
  match words with
  | [] => return .ok false
  | [a] => one a
  | [a, b] => two a b
  | [a, b, c] => three a b c
  | [['!'], b, c, d] => return turned (← three b c d)
  | [['('], b, c, [')']] => two b c
  | _ => return match ← general (4 * words.length + 4) words with
    | .ok (b, []) => .ok b
    | .ok _ => .error "too many arguments".toList
    | .error f => .error f

/-- The command `test`, by its name; the code is set. -/
def run (name : String) (words : List Octets) : Act Unit := do
  let refuse (why : Octets) : Act Unit := do
    Act.complainAs name why
    Act.setCode 2
  let bracketed := name == "["
  if bracketed && words.getLast? != some [']'] then refuse "missing \x60]'".toList
  else match ← answer (if bracketed then words.dropLast else words) with
    | .ok b => Act.setCode (if b then 0 else 1)
    | .error why => refuse why

end Backtest.Shell.Testing
