import Backtest.Shell.Braces
import Backtest.Shell.Escape
import Backtest.Shell.Globbing
import Backtest.Shell.Prompt
import Backtest.Shell.Quoting
import Backtest.Shell.Reckoning

/-!
# Expansion

What words stand for. The parts of a word come down to characters, each with whether it is quoted and
whether it may divide the word; from these come the fields of a command, a text or a pattern.

* `Atom`, `Expansion.Mode`; `Expansion.parts`, the atoms of parts;
* `Expansion.fields`, the fields of words; `Expansion.text`, a text; `Expansion.pattern`, a pattern.
-/

namespace Backtest.Shell

/-- A character of a word, or what stands between characters. -/
inductive Atom
  | char (c : Char) (quoted splits : Bool)
  /-- Quotes, which make a field even if there is nothing between them. -/
  | mark
  /-- The end of one of several fields. -/
  | gap

/-- What a parameter stands for. -/
inductive Found
  | nothing
  | one (o : Octets)
  /-- Several texts; the sign tells how they are put together. -/
  | several (texts : List Octets) (sign : Char)

namespace Expansion

/-- How parts are worked out. -/
structure Mode where
  /-- Whether they stand between double quotes. -/
  quoted : Bool
  /-- Whether characters that stand for themselves divide a word. -/
  operand : Bool
  /-- Whether one text comes of them. -/
  whole : Bool

/-- What divides words. -/
def separators : Act Octets := return (← Act.value? "IFS".toList).getD [' ', '\t', '\n']

/-- A blank, or the end of a line. -/
def isBlankOrLine (c : Char) : Bool := c == ' ' || c == '\t' || c == '\n'

/-- The octets of a mode, which come of a value. -/
def ofValue (mode : Mode) (o : Octets) : List Atom :=
  o.map fun c => .char c mode.quoted (!mode.quoted)

/-- Texts with something between them. -/
def joinedBy (o : Octets) (texts : List Octets) : Octets := (texts.intersperse o).flatten

/-- The atoms of several texts. -/
def ofTexts (mode : Mode) (sign : Char) (texts : List Octets) : Act (List Atom) := do
  let between := (← separators).take 1
  let together := if mode.quoted || mode.whole then sign == '*' else !between.isEmpty
  if together then return ofValue mode (joinedBy between texts)
  let each (o : Octets) : List Atom :=
    if mode.quoted then .mark :: ofValue mode o else ofValue mode o
  return ((texts.map each).intersperse [.gap]).flatten

/-- The text of atoms. -/
def textOf (atoms : List Atom) : Octets :=
  atoms.flatMap fun
    | .char c _ _ => [c]
    | .mark => []
    | .gap => [' ']

/-- The characters of atoms with whether they are quoted. -/
def markedOf (atoms : List Atom) : Marked :=
  atoms.flatMap fun
    | .char c quoted _ => [(c, quoted)]
    | .mark => []
    | .gap => [(' ', false)]

/-- The fields into which atoms are divided, the last first, and the field at the end. -/
structure Splitting where
  fields : List Marked
  current : Option Marked
  /-- Whether a blank ended the last field. -/
  afterBlank : Bool

/-- A field ended. -/
def Splitting.close (s : Splitting) : Splitting :=
  match s.current with
  | some f => { s with fields := f.reverse :: s.fields, current := none }
  | none => s

/-- One atom more. -/
def Splitting.add (ifs : Octets) (s : Splitting) : Atom → Splitting
  | .mark => { s with current := some (s.current.getD []), afterBlank := false }
  | .gap => { s.close with afterBlank := false }
  | .char c quoted splits =>
    if !splits || !ifs.contains c then
      { s with current := some ((c, quoted) :: s.current.getD []), afterBlank := false }
    else if c == ' ' || c == '\t' || c == '\n' then
      if s.current.isSome then { s.close with afterBlank := true } else s
    else if s.current.isSome then { s.close with afterBlank := false }
    else if s.afterBlank then { s with afterBlank := false }
    else { s with fields := [] :: s.fields }

/-- The fields into which atoms are divided. -/
def split (ifs : Octets) (atoms : List Atom) : List Marked :=
  let s := atoms.foldl (Splitting.add ifs) { fields := [], current := none, afterBlank := false }
  s.close.fields.reverse

/-- What a parameter of a name without an index stands for. -/
def lookUp (name : Octets) : Act Found := do
  let o ← Act.own
  let number (n : Nat) : Found := .one (toString n).toList
  match name with
  | ['@'] => return .several o.arguments '@'
  | ['*'] => return .several o.arguments '*'
  | ['#'] => return number o.arguments.length
  | ['?'] => return number o.code
  | ['-'] => return .one ("efhuBc".toList.filter fun c => "hBc".toList.contains c || o.options.contains c)
  | ['$'] => return number 1
  | ['!'] => return .nothing
  | _ =>
    if name.all Char.isDigit then
      let n := digitsIn 10 name
      if n == 0 then return .one "bash".toList
      return match o.arguments[n - 1]? with
        | some a => .one a
        | none => .nothing
    else return match ← Act.value? name with
      | some v => .one v
      | none => .nothing

/-- Whether a use of a parameter gives its value, or takes part of it. -/
def Found.map (f : Octets → Octets) : Found → Found
  | .nothing => .nothing
  | .one o => .one (f o)
  | .several os sign => .several (os.map f) sign

/-- What an action makes of the texts of a parameter. -/
def Found.mapM (f : Octets → Act Octets) : Found → Act Found
  | .nothing => return .nothing
  | .one o => return .one (← f o)
  | .several os sign => return .several (← os.mapM f) sign

/-- The length of what a parameter stands for. -/
def Found.length : Found → Nat
  | .nothing => 0
  | .one o => (Octets.chars o).length
  | .several os _ => os.length

/-- Whether a parameter stands for something; an empty text may count as nothing. -/
def Found.isThere (ifEmpty : Bool) : Found → Bool
  | .nothing => false
  | .one o => !ifEmpty || !o.isEmpty
  | .several os _ => !os.isEmpty && (!ifEmpty || os.length > 1 || os.any (!·.isEmpty))

/-- A text with its letters changed where they match; or only the first of them. An empty pattern
stands for any letter. -/
def inCase (sign : Char) (all : Bool) (p : Pattern) (o : Octets) : Octets :=
  let change (c : Octets) : Octets :=
    if !(p matches .empty) && !Matcher.isMatch p #[c] then c
    else match Octets.point? c with
      | some (n, _) => Octets.encode (CharClass.changeCase sign (Char.ofNat n)).toNat
      | none => c
  match Octets.chars o with
  | [] => []
  | c :: cs => change c ++ (if all then cs.flatMap change else cs.flatten)

/-- The items of a list from one on, so many, or up to so many before its end; nothing if that lies before
the start. -/
def sliceOf {β : Type} (items : List β) (first : Nat) (count : Option Int) : Option (List β) :=
  match count with
  | none => some (items.drop first)
  | some n =>
    let size : Int := items.length
    let last := if n < 0 then size + n else min size (first + n)
    if last < first then none else some ((items.drop first).take (last - first).toNat)

/-- The items of an array whose indexes are not below one, so many. -/
def itemsFrom (items : List (Nat × Octets)) (first : Nat) (count : Option Nat) : List Octets :=
  let behind := items.filter fun (n, _) => first ≤ n
  (behind.take (count.getD items.length)).map (·.2)

/-- A part that stands for all arguments, or all items, each for itself. -/
def isEach : Part → Bool
  | .parameter _ p => p.name == ['@'] || (p.index.bind Word.plain? == some ['@'])
  | .names _ sign | .indexes _ sign => sign == '@'
  | _ => false

/-- The characters of a word up to a slash or a colon, if they all stand for themselves, and the
rest. -/
def tildeName? : Word → Option (Octets × Word)
  | [] => some ([], [])
  | .plain c :: ps =>
    if c == '/' || c == ':' then some ([], .plain c :: ps)
    else (tildeName? ps).map fun (name, rest) => (c :: name, rest)
  | _ => none

/-- A word whose tilde is replaced by a directory. -/
def withHome (w : Word) : Act Word := do
  match w with
  | .plain '~' :: ps =>
    match tildeName? ps with
    | some (name, rest) =>
      let home ← match String.ofList name with
        | "" => do pure (some ((← Act.value? "HOME".toList).getD "/root".toList))
        | "+" => Act.value? "PWD".toList
        | "-" => Act.value? "OLDPWD".toList
        | "root" => pure (some "/root".toList)
        | _ => pure none
      return match home with
        | some h => .quoted h :: rest
        | none => w
    | none => return w
  | _ => return w

/-- The pieces of a word between colons. -/
def colonPieces : Word → List Word
  | [] => [[]]
  | p :: ps =>
    match p, colonPieces ps with
    | .plain ':', ws => [] :: ws
    | p, w :: ws => (p :: w) :: ws
    | p, [] => [[p]]

/-- The value of an assignment whose tildes are replaced, at its start and behind colons. -/
def withHomes (w : Word) : Act Word := do
  let pieces ← (colonPieces w).mapM (withHome)
  return (pieces.intersperse [.plain ':']).flatten

section

variable (output : Octets → Bool → Act Octets)

/-- A reader of the atoms of parts. -/
abbrev PartsExpander := Mode → Word → Act (List Atom)

/-- The text of a word. -/
def textWith (self : PartsExpander) (w : Word) : Act Octets :=
  return textOf (← self { quoted := false, operand := false, whole := true } w)

/-- The characters of a word, with whether each is quoted. -/
def markedWith (self : PartsExpander) (w : Word) : Act Marked :=
  return markedOf (← self { quoted := false, operand := false, whole := true } w)

/-- The pattern of a word. -/
def patternWith (self : PartsExpander) (w : Word) : Act Pattern :=
  return Pattern.of false (← markedWith self w)

/-- What an item of an array stands for. An index that no item can have is told, twice where the marks of
the variable are asked for, and ends the line where a length is. -/
def itemOf (self : PartsExpander) (name : Octets) (index : Word) (use : Use) : Act Found := do
  let text ← textWith self index
  let n ← Act.reckoned text
  let value ← Act.lookUp name
  match Reckon.indexOf value n with
  | some n => return match (Act.itemsOf value).lookup n with
    | some o => .one o
    | none => .nothing
  | none =>
    let bad := ": bad array subscript".toList
    if use == .length then
      if value.isNone then return .nothing
      Act.complain (text ++ ']' :: bad)
      Act.abandon
    else
      Act.complain (name ++ bad)
      if use == .transform 'A' || use == .transform 'a' then Act.complain (name ++ bad)
      return .nothing

/-- What a parameter with an index stands for. -/
def found (self : PartsExpander) (p : Parameter Word) (use : Use) : Act Found := do
  match p.index with
  | none => lookUp p.name
  | some w =>
    match Word.plain? w with
    | some ['@'] => return .several ((← Act.items p.name).map (·.2)) '@'
    | some ['*'] => return .several ((← Act.items p.name).map (·.2)) '*'
    | _ => itemOf self p.name w use

/-- The shell left because a parameter lacks what is needed. -/
def giveUp {α : Type} : Act α := do
  Act.setCode (if (← Act.own).isInner then 1 else 127)
  throw .leaveShell

/-- Another text for a parameter that has no value. -/
def instead (self : PartsExpander) (mode : Mode) (p : Parameter Word) (sign : Char) (ifEmpty : Bool)
    (w : Word) (f : Found) (value : Act (List Atom)) : Act (List Atom) := do
  let there := Found.isThere ifEmpty f
  let w ← if mode.quoted && sign != '?' then pure w else withHome w
  let other : Act (List Atom) := self { mode with operand := !mode.quoted } w
  if sign == '+' then return ← if there then other else pure []
  if there then return ← value
  if sign == '-' then return ← other
  let text ← textWith self w
  if sign == '?' then
    let why := if !w.isEmpty then text else if ifEmpty then "parameter null or not set".toList
      else "parameter not set".toList
    Act.complain (p.shown ++ ": ".toList ++ why)
    giveUp
  else if !isName p.name then
    Act.complain ('$' :: p.name ++ ": cannot assign in this way".toList)
    Act.abandon
  else
    let bad : Act (Option Nat) := do
      Act.complain (p.shown ++ ": bad array subscript".toList)
      Act.abandon
    let n ← match p.index with
      | none => pure none
      | some i =>
        if Word.plain? i == some ['@'] || Word.plain? i == some ['*'] then bad
        else
          let n ← Act.reckoned (← textWith self i)
          match Reckon.indexIn ((← Act.binding? p.name).bind (·.value)) n with
          | some n => pure (some n)
          | none => bad
    if ← Act.assign p.name n text then return ofValue mode text else Act.abandon

/-- A text with its ampersands replaced by what was matched, unless they are quoted. -/
def filledIn (m : Marked) (matched : Octets) : Octets :=
  m.flatMap fun (c, quoted) => if c == '&' && !quoted then matched else [c]

/-- A text written in the way of a letter. -/
def transformed? (letter : Char) (o : Octets) : Option Octets :=
  match letter with
  | 'Q' | 'K' | 'k' => some (Quoting.quoted o)
  | 'U' => some (inCase '^' true .empty o)
  | 'u' => some (inCase '^' false .empty o)
  | 'L' => some (inCase ',' true .empty o)
  | 'E' => some (Octets.upToZero (Escape.expand .quoted o).1)
  | _ => none

/-- Texts that stand for several things, or for one, as a sign says. -/
def Found.ofSign (sign : Char) (texts : List Octets) : Found :=
  if sign == '@' then .several texts sign else .one (joinedBy [' '] texts)

/-- What declares a variable, or the arguments. -/
def declaration (name : Octets) (f : Found) : Act Found := do
  match f with
  | .several os sign =>
    if name == ['@'] || name == ['*'] then
      return if os.isEmpty then .nothing
        else Found.ofSign sign ("set".toList :: "--".toList :: os.map Quoting.quoted)
  | _ => pure ()
  if !isName name then return .nothing
  let marks ← Act.marks name
  let start : List Octets := if marks.isEmpty then [] else ["declare".toList, '-' :: marks]
  let whole (text : Octets) : Found := .one (joinedBy [' '] (start ++ [text]))
  let valued (o : Octets) : Found := whole (name ++ '=' :: Quoting.quoted o)
  match f with
  | .several os sign => match ← Act.lookUp name with
    | some (.array items) =>
      let texts := items.map fun (n, o) => '[' :: (toString n).toList ++ "]=".toList ++ Quoting.double o
      return Found.ofSign sign (start ++ [name ++ "=(".toList ++ joinedBy [' '] texts ++ [')']])
    | _ => return match os with
      | o :: _ => valued o
      | [] => .nothing
  | .one o => return valued o
  | .nothing => return if marks.isEmpty then .nothing else whole name

/-- The marks of a variable, for each of its texts. -/
def marksOf (name : Octets) (f : Found) : Act Found := do
  let marks ← Act.marks name
  match f with
  | .several os sign => return .several (os.map fun _ => marks) sign
  | .one _ => return .one marks
  | .nothing => return if marks.isEmpty then .nothing else .one marks

/-- The indexes of an array with its texts: each by itself, or all as one text. -/
def pairs (name : Octets) (apart : Bool) (f : Found) : Act Found := do
  match f, ← Act.lookUp name with
  | .several _ sign, some (.array items) =>
    if apart then return .several (items.flatMap fun (n, o) => [(toString n).toList, o]) sign
    else return .one (joinedBy [' '] (items.flatMap fun (n, o) => [(toString n).toList, Quoting.double o]))
  | f, _ => return Found.map Quoting.quoted f

/-- Part of a value; with how the number of its characters is written. A start behind the end leaves
nothing, whatever the number. -/
def slice (self : PartsExpander) (p : Parameter Word) (written : Octets) (f : Found) : Act Found := do
  let isArguments := p.name == ['@'] || p.name == ['*']
  let several := !isArguments && f matches .several _ _
  if f matches .nothing then return .nothing
  if several && f matches .several [] _ then return .nothing
  let numberOf (w : Word) : Act Int := do
    match ← Act.reckon (String.ofList p.shown ++ ": ") (← textWith self w) with
    | some n => return n
    | none => Act.abandon
  let start ← numberOf (p.words.headD [])
  let value ← if several then Act.lookUp p.name else pure none
  let length : Nat := match f with
    | .nothing => 0
    | .one o => (Octets.chars o).length
    | .several os _ =>
      if isArguments then os.length + 1
      else match value with
        | some (.array items) => (items.getLast?.map (·.1 + 1)).getD 0
        | _ => (Octets.chars (os.headD [])).length
  let first := if start < 0 then length + start else start
  if first < 0 || length < first then return .nothing
  let first := first.toNat
  let count ← match p.words[1]? with
    | some w => do pure (some (← numberOf w))
    | none => pure none
  let failed {α : Type} : Act α := do
    Act.complain (written ++ ": substring expression < 0".toList)
    Act.abandon
  let ofText (o : Octets) : Act Found := do
    match sliceOf (Octets.chars o) first count with
    | some cs => return .one cs.flatten
    | none => failed
  match f with
  | .nothing => return .nothing
  | .one o => ofText o
  | .several os sign =>
    if several && value matches some (.text _) then return ← ofText (os.headD [])
    if (count.getD 0) < 0 then failed
    if isArguments then return .several ((sliceOf ("bash".toList :: os) first count).getD []) sign
    return .several (itemsFrom (Act.itemsOf value) first (count.map Int.toNat)) sign

/-- A value expanded as a prompt; the code of the last command stays. -/
def prompted (self : PartsExpander) (o : Octets) : Act Octets := do
  match Prompt.read? o with
  | none => return []
  | some w =>
    let code := (← Act.own).code
    let text := textOf (← self { quoted := true, operand := false, whole := true } w)
    Act.setCode code
    return text

/-- What is made of what a parameter stands for. -/
def usedOf (self : PartsExpander) (mode : Mode) (p : Parameter Word) (f : Found) : Act (List Atom) := do
  let atoms (f : Found) : Act (List Atom) :=
    match f with
    | .nothing => return []
    | .one o => return ofValue mode o
    | .several os sign => ofTexts mode sign os
  let w := p.words.headD []
  if p.use.looksAgain then Act.lookUpAgain p.name
  match p.use with
  | .value | .bare =>
    if (← Act.own).options.contains 'u' && f matches .nothing then
      Act.complain (p.shown ++ ": unbound variable".toList)
      giveUp
    atoms f
  | .length => return ofValue mode (toString (Found.length f)).toList
  | .instead sign ifEmpty => instead self mode p sign ifEmpty w f (atoms f)
  | .trim fromEnd longest =>
    let pattern ← patternWith self (← withHome w)
    atoms (Found.map (pattern.trim fromEnd longest) f)
  | .slice written => atoms (← slice self p written f)
  | .replace anchor =>
    let pattern ← patternWith self (← withHome w)
    let text ← markedWith self (← withHome (p.words.getD 1 []))
    let put := filledIn text
    atoms (Found.map (fun o => match anchor with
      | .first => pattern.replace false put o
      | .all => pattern.replace true put o
      | .start => pattern.replaceStart put o
      | .finish => pattern.replaceEnd put o) f)
  | .inCase sign all =>
    let pattern := Pattern.of true (← markedWith self w)
    atoms (Found.map (inCase sign all pattern) f)
  | .transform letter =>
    if letter == 'P' then atoms (← Found.mapM (prompted self) f)
    else if letter == 'A' then atoms (← declaration p.name f)
    else if letter == 'a' then atoms (← marksOf p.name f)
    else if letter == 'K' || letter == 'k' then atoms (← pairs p.name (letter == 'k') f)
    else
      if (transformed? letter []).isNone && !(f matches .nothing) then
        Act.complain (p.raw ++ ": bad substitution".toList)
        giveUp
      atoms (Found.map (fun o => (transformed? letter o).getD o) f)

/-- What is made of a parameter. -/
def used (self : PartsExpander) (mode : Mode) (p : Parameter Word) : Act (List Atom) := do
  usedOf self mode p (← found self p p.use)

/-- What is made of the parameter that a value names. Where an argument or an item of an array that there
is has no value, there is no parameter. -/
def named (self : PartsExpander) (mode : Mode) (p : Parameter Word) : Act (List Atom) := do
  let invalid {α : Type} (shown : Octets) : Act α := do
    Act.complain (shown ++ ": invalid indirect expansion".toList)
    Act.abandon
  let nothing : Act (List Atom) := do
    if isName p.name && (← Act.binding? p.name).isNone then return ← invalid p.shown
    if let .instead '=' _ := p.use then return ← invalid ('!' :: p.shown)
    usedOf self mode { p with shown := '!' :: p.shown, name := '!' :: p.name } .nothing
  let target (o : Octets) : Act (List Atom) := do
    let (name, i) := Reckon.splitIndex o
    let isIndexed := i.any fun i => !i.isEmpty && o.getLast? == some ']'
    let valid := (isName name && (i.isNone || isIndexed)) ||
      (i.isNone && !o.isEmpty && (o.all Char.isDigit ||
        ["@", "*", "#", "?", "-", "$", "!"].contains (String.ofList o)))
    if valid then used self mode { p with shown := o, name, index := i.map (·.map .plain) }
    else
      Act.complain (o ++ ": invalid variable name".toList)
      Act.abandon
  match ← found self p .value with
  | .nothing => nothing
  | .one o => target o
  | .several [] _ => nothing
  | .several os sign => do
    let between ← separators
    target (joinedBy (if sign == '*' then between.take 1 else [' ']) os)

/-- The atoms of one part. -/
def part (self : PartsExpander) (mode : Mode) : Part → Act (List Atom)
  | .plain c => return [.char c mode.quoted (mode.operand && !mode.quoted)]
  | .quoted o => return .mark :: o.map fun c => .char c true false
  | .double ps => do
    let atoms ← self { mode with quoted := true } ps
    return if atoms.isEmpty && ps.any isEach then [] else if ps.any isEach then atoms else .mark :: atoms
  | .parameter indirect p => if indirect then named self mode p else used self mode p
  | .names start sign => do
    let set := (← Act.own).bindings.filter fun (_, v) => v.value.isSome
    let names := (set.map (·.1)).filter start.isPrefixOf
    ofTexts mode sign (names.mergeSort Octets.precedes)
  | .indexes name sign => do
    let items ← Act.items name
    ofTexts mode sign (items.map fun (n, _) => (toString n).toList)
  | .arithmetic ps => do
    let text := textOf (← self { quoted := true, operand := false, whole := true } ps)
    return ofValue mode (toString (← Act.reckoned text)).toList
  | .output text kept => do
    let o ← output text kept
    let o := (o.reverse.dropWhile (· == '\n')).reverse
    return ofValue mode o
  | .process writes text => do
    let before ← Act.own
    let o ← output text false
    Act.change ({ · with code := before.code, substituted := before.substituted })
    if writes then
      let _ ← Act.write 1 o
    let n ← Act.openBelow (← Act.addChannel (if writes then .sink [] else .source o)) 64
    return (("/dev/fd/".toList ++ (toString n).toList)).map fun c => .char c true false
  | .bad raw => do
    Act.complain (raw ++ ": bad substitution".toList)
    Act.abandon

/-- The atoms of parts. `fuel` bounds how they are nested. -/
def partsFrom : Nat → PartsExpander
  | 0, _, _ => return []
  | fuel + 1, mode, ps => return (← ps.mapM (part output (partsFrom fuel) mode)).flatten

/-- How deep words may stand in words. -/
def deepest : Nat := 10000

/-- The atoms of parts. -/
def parts : PartsExpander := partsFrom output deepest

/-- The text of a word. -/
def text (w : Word) : Act Octets := textWith (parts output) w

/-- The text of a word that may begin with a tilde. -/
def textWithHome (w : Word) : Act Octets := do textWith (parts output) (← withHome w)

/-- The characters of a word that may begin with a tilde, with whether each is quoted. -/
def marked (w : Word) : Act Marked := do markedWith (parts output) (← withHome w)

/-- The pattern of a word. -/
def pattern (w : Word) : Act Pattern := return Pattern.of false (← marked output w)

/-- The paths for which a field stands, or the field. -/
def asPaths (m : Marked) : Act (List Octets) := do
  let plain := [m.map (·.1)]
  if !Pattern.hasSigns m || (← Act.own).options.contains 'f' then return plain
  let paths := Globbing.paths (← get).files m
  return if paths.isEmpty then plain else paths

/-- The fields of a word without its braces. -/
def fieldsOf (w : Word) : Act (List Octets) := do
  let w ← withHome w
  let atoms ← parts output { quoted := false, operand := false, whole := false } w
  return (← (split (← separators) atoms).mapM asPaths).flatten

/-- The fields of a word. -/
def fields (w : Word) : Act (List Octets) :=
  return (← (Braces.words w).mapM (fieldsOf output)).flatten

end

end Expansion

end Backtest.Shell
