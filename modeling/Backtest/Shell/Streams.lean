import Backtest.Shell.Expansion

/-!
# Streams

Where the streams of a command lead. A redirection opens a file, makes a stream the same as another,
closes it, or reads a text.

* `Streams.redirect`, one redirection; `Streams.within`, an action with redirections.
-/

namespace Backtest.Shell.Streams

/-- The wording of what is wrong with a file. -/
def wording : FileFault → String
  | .notFound _ => "No such file or directory"
  | .exists _ => "File exists"
  | .notADirectory _ => "Not a directory"
  | .isDirectory _ => "Is a directory"
  | .nameTooLong _ => "File name too long"
  | .invalidCursor => "Invalid argument"

/-- What is wrong with a path. -/
def wordingOf : Fault → String
  | .file f => wording f
  | _ => "No such file or directory"

/-- The file or the stream that is opened at a path; or what is wrong. -/
def channelAt (opening : Opening) (o : Octets) : Act (Except String Nat) := do
  let reads := opening == .read || opening == .readWrite
  let writes := opening != .read
  let appends := opening == .append || opening == .appendBoth
  if let some n := Act.streamOf? o then
    return match ← Act.channel? n with
      | some c => .ok c
      | none => .error "No such file or directory"
  if o.isEmpty then return .error "No such file or directory"
  match Globbing.pathOf? o with
  | none => return .error "No such file or directory"
  | some p =>
    let m ← get
    let slashed := o.getLast? == some '/'
    match m.files.locate p with
    | .error f => return .error (wordingOf f)
    | .ok (.directory _) =>
      if writes then return .error "Is a directory"
      return .ok (← Act.addChannel (.source []))
    | .ok (.file _ _) =>
      if slashed then return .error "Not a directory"
      if writes && !appends && !reads then
        match m.files.write p ⟨#[]⟩ with
        | .ok files => set { m with files }
        | .error f => return .error (wordingOf f)
      return .ok (← Act.addChannel (.file p 0 appends reads writes))
    | .ok (.vacant _) =>
      if slashed then return .error (if writes then "Is a directory" else "No such file or directory")
      if !writes then return .error "No such file or directory"
      match m.files.write p ⟨#[]⟩ with
      | .ok files => set { m with files }
      | .error f => return .error (wordingOf f)
      return .ok (← Act.addChannel (.file p 0 appends reads writes))

/-- Something wrong told, by a name. -/
def refuse (name : Octets) (why : String) : Act Bool := do
  Act.complain (name ++ ": ".toList ++ why.toList)
  return false

/-- A stream, or two, led to the file at a path. -/
def leadToFile (streams : List Nat) (opening : Opening) (o : Octets) : Act Bool := do
  match ← channelAt opening o with
  | .error why => refuse o why
  | .ok c =>
    streams.forM fun n => Act.lead n (some c)
    return true

/-- A stream made the same as another, or closed; `raw` is how the other is written. -/
def leadToStream (stream : Nat) (raw o : Octets) : Act Bool := do
  if o == ['-'] then
    Act.lead stream none
    return true
  let moves := o.getLast? == some '-'
  let n := digitsIn 10 (if moves then o.dropLast else o)
  match ← Act.channel? n with
  | none => refuse (if moves then raw.dropLast else raw) "Bad file descriptor"
  | some c =>
    Act.lead stream (some c)
    if moves && n != stream then Act.lead n none
    return true

/-- Whether a text names a stream, or none. -/
def namesStream (o : Octets) : Bool :=
  let ds := if o.getLast? == some '-' then o.dropLast else o
  !o.isEmpty && ds.all Char.isDigit

/-- The first stream that leads nowhere, from one on. -/
def freeFrom (streams : List (Nat × Nat)) : Nat → Nat → Nat
  | 0, n => n
  | fuel + 1, n => if (streams.lookup n).isSome then freeFrom streams fuel (n + 1) else n

/-- The number by which a redirection knows its stream: a new one is the first that is free from ten on. -/
def numberOf (s : Option StreamName) (usual : Nat) : Act Nat := do
  match s with
  | none => return usual
  | some (.number n) => return n
  | some (.new _) =>
    let streams := (← Act.own).streams
    return freeFrom streams streams.length 10

/-- The number of a stream kept in the parameter that a redirection names, if the stream leads
somewhere. -/
def keep (s : Option StreamName) (n : Nat) (led : Bool) : Act Bool := do
  match s, led with
  | some (.new o), true =>
    let text := (toString n).toList
    let (name, i) := Reckon.splitIndex o
    let done ← match i with
      | none => Act.assign name none text
      | some i =>
        match Reckon.indexIn (← Act.lookUp name) (← Act.reckoned i) with
        | some k => Act.assign name (some k) text
        | none => pure false
    if !done then Act.complain (name ++ ": cannot assign fd to variable".toList)
    return done
  | _, _ => return led

section

variable (output : Octets → Bool → Act Octets)

/-- One redirection; whether it can be. -/
def redirect : Redirection → Act Bool
  | .text s w => do
    let text := Expansion.textOf
      (← Expansion.parts output { quoted := true, operand := false, whole := true } w)
    let n ← numberOf s 0
    Act.lead n (some (← Act.addChannel (.source text)))
    keep s n true
  | .file s opening raw w => do
    let led (n : Nat) (lead : Act Bool) : Act Bool := do keep s n (← lead)
    match ← Expansion.fields output w with
    | [o] => match opening with
      | .read | .readWrite =>
        let n ← numberOf s 0
        led n (leadToFile [n] opening o)
      | .write | .append =>
        let n ← numberOf s 1
        led n (leadToFile [n] opening o)
      | .writeBoth | .appendBoth => leadToFile [1, 2] opening o
      | .sameRead | .sameWrite =>
        let usual := if opening == .sameRead then 0 else 1
        match s, o with
        | some (.new name), ['-'] =>
          match (← Act.value? name).bind Number.whole? with
          | some n => leadToStream n.toNat raw o
          | none => refuse name "ambiguous redirect"
        | _, _ =>
          if namesStream o then
            let n ← numberOf s usual
            led n (leadToStream n raw o)
          else if opening == .sameWrite && s.isNone then leadToFile [1, 2] .writeBoth o
          else refuse raw "ambiguous redirect"
    | _ => refuse raw "ambiguous redirect"

/-- Redirections one after the other, as long as they can be. -/
def redirectAll : List Redirection → Act Bool
  | [] => return true
  | r :: rs => do if ← redirect output r then redirectAll rs else return false

/-- An action with redirections, after which the streams lead where they led, apart from new ones, which
stay; whether they can be. If they cannot, nothing is done, which is a failure. -/
def within (rs : List Redirection) (action : Act Unit) : Act Bool := do
  if rs.isEmpty then
    action
    return true
  let before := (← Act.own).streams
  let opensNew := rs.any fun r => r.stream.any (·.isNew)
  let run : Act (Bool × List (Nat × Nat)) := do
    let done ← redirectAll output rs
    let now := (← Act.own).streams
    let left := if opensNew then before.filter (·.1 < 10) ++ now.filter (10 ≤ ·.1) else before
    if !done then
      Act.setCode 1
      return (false, left)
    Act.caught action fun i => do
      Act.change ({ · with streams := left })
      throw i
    return (true, left)
  let (done, left) ← Act.caught run fun i => do
    if !opensNew then Act.change ({ · with streams := before })
    throw i
  Act.change ({ · with streams := left })
  return done

end

end Backtest.Shell.Streams
