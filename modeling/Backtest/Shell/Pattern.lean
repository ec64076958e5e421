import Backtest.Shell.Matcher

/-!
# Patterns

A pattern stands for texts: a star for any characters, a question mark for one, brackets for one of
some; what is quoted stands for itself. In an extended pattern a sign before brackets with alternatives
tells how often they come, or that none of them does.

* `Marked`; `Pattern.of`, what a text with quotes matches; `Pattern.matchesOctets`;
* `Pattern.trim`, a text without what matches at an end; `Pattern.replace`, with another text for it.
-/

namespace Backtest.Shell

/-- Characters with whether each is quoted. -/
abbrev Marked := List (Char × Bool)

/-- A pattern. -/
abbrev Pattern := Matcher

namespace Pattern

/-- Characters of more than one octet put together, each with whether it is quoted. -/
def charsOf (m : Marked) : List (Octets × Bool) :=
  go (Octets.chars (m.map (·.1))) m
where
  /-- Characters with the marks of their first octets. -/
  go : List Octets → Marked → List (Octets × Bool)
    | [], _ => []
    | c :: cs, m => (c, (m.head?.map (·.2)).getD false) :: go cs (m.drop c.length)

/-- Whether a character is a sign that is not quoted. -/
def isSign (s : Char) (c : Octets × Bool) : Bool := c.1 == [s] && !c.2

/-- The text between two signs behind a bracket, such as the name of a class, and what is behind it. -/
def enclosed? (sign : Char) (cs : List (Octets × Bool)) : Option (Octets × List (Octets × Bool)) :=
  match cs with
  | c :: cs =>
    let inside := cs.takeWhile fun d => !isSign sign d
    let behind := cs.drop (inside.length + 1)
    if isSign sign c && (behind.head?.any (isSign ']')) then some (inside.flatMap (·.1), behind.drop 1)
    else none
  | [] => none

/-- The members between brackets and what is behind them; nothing if the bracket is not closed. The
first character may be a closing bracket. `fuel` bounds the characters. -/
def members? : Nat → Bool → List (Octets × Bool) → Option (List Member × List (Octets × Bool))
  | 0, _, _ => none
  | _ + 1, _, [] => none
  | fuel + 1, first, c :: cs =>
    if isSign ']' c && !first then some ([], cs)
    else
      let more (m : Member) (rest : List (Octets × Bool)) :=
        (members? fuel false rest).map fun (ms, rest) => (m :: ms, rest)
      let inner (sign : Char) := if isSign '[' c then enclosed? sign cs else none
      match inner ':', inner '=' <|> inner '.' with
      | some (name, rest), _ => more (.named (String.ofList name)) rest
      | none, some (char, rest) => more (.ofChar char) rest
      | none, none => match cs with
        | dash :: d :: rest =>
          if isSign '-' dash && !isSign ']' d then more (.range (codeOf c.1) (codeOf d.1)) rest
          else more (.ofChar c.1) cs
        | _ => more (.ofChar c.1) cs

/-- How many characters stand in brackets that open behind a sign, or none if they do not close. -/
def bracketLength (cs : List (Octets × Bool)) : Nat :=
  let negated := cs.head?.any fun d => isSign '!' d || isSign '^' d
  let inside := if negated then cs.drop 1 else cs
  match members? (cs.length + 1) true inside with
  | some (_, rest) => cs.length - rest.length
  | none => 0

/-- The alternatives behind an opening bracket, and what is behind the closing one. `depth` brackets are
open inside; `fuel` bounds the characters. -/
def alternatives? : Nat → Nat → List (Octets × Bool) →
    Option (List (List (Octets × Bool)) × List (Octets × Bool))
  | 0, _, _ => none
  | _ + 1, _, [] => none
  | fuel + 1, depth, c :: cs =>
    let add (taken : List (Octets × Bool)) (depth : Nat) (rest : List (Octets × Bool)) :=
      (alternatives? fuel depth rest).map fun (as, rest) =>
        (match as with
          | [] => [taken]
          | a :: as => (taken ++ a) :: as, rest)
    if isSign ')' c then if depth == 0 then some ([[]], cs) else add [c] (depth - 1) cs
    else if isSign '(' c then add [c] (depth + 1) cs
    else if isSign '|' c && depth == 0 then
      (alternatives? fuel 0 cs).map fun (as, rest) => ([] :: as, rest)
    else
      let n := if isSign '[' c then bracketLength cs else 0
      add (c :: cs.take n) depth (cs.drop n)

/-- What a sign says of the alternatives behind it. -/
def ofAlternatives (sign : Char) (m : Matcher) : Matcher :=
  if sign == '?' then .times 0 (some 1) m
  else if sign == '*' then .times 0 none m
  else if sign == '+' then .times 1 none m
  else if sign == '!' then .except m
  else m

/-- The pieces of a pattern of characters; `fuel` bounds their number. -/
def ofChars (extended : Bool) : Nat → List (Octets × Bool) → List Matcher
  | 0, _ => []
  | _ + 1, [] => []
  | fuel + 1, c :: cs =>
    let sign := "?*+@!".toList.find? fun s => isSign s c
    let group := if extended && cs.head?.any (isSign '(') then alternatives? fuel 0 (cs.drop 1) else none
    match sign, group with
    | some s, some (as, rest) =>
      ofAlternatives s (.anyOf (as.map fun a => .all (ofChars extended fuel a))) ::
        ofChars extended fuel rest
    | _, _ =>
      if isSign '*' c then .anything :: ofChars extended fuel cs
      else if isSign '?' c then .any :: ofChars extended fuel cs
      else if isSign '[' c then
        let negated := cs.head?.any fun d => isSign '!' d || isSign '^' d
        match members? (cs.length + 1) true (if negated then cs.drop 1 else cs) with
        | some (ms, rest) => .one negated ms :: ofChars extended fuel rest
        | none => .char c.1 :: ofChars extended fuel cs
      else .char c.1 :: ofChars extended fuel cs

/-- The pattern of a text with quotes. -/
def of (extended : Bool) (m : Marked) : Pattern := .all (ofChars extended (m.length + 1) (charsOf m))

/-- Whether a text with quotes has signs of patterns. -/
def hasSigns (m : Marked) : Bool := m.any fun (c, quoted) => !quoted && "*?[".toList.contains c

/-- The characters of octets. -/
def characters (o : Octets) : Characters := (Octets.chars o).toArray

/-- The octets between two places of a text. -/
def octetsIn (t : Characters) (i j : Nat) : Octets := (t.extract i j).toList.flatten

/-- Whether a pattern stands for octets. -/
def matchesOctets (p : Pattern) (o : Octets) : Bool := p.isMatch (characters o)

/-- Where the longest match from a place ends. -/
def endFrom? (p : Pattern) (t : Characters) (i : Nat) : Option Nat := (p.reach t [i]).getLast?

/-- A text without what matches at one of its ends. -/
def trim (p : Pattern) (fromEnd longest : Bool) (o : Octets) : Octets :=
  let t := characters o
  if fromEnd then
    let starts := Matcher.placesFrom t 0
    let begins := (if longest then starts else starts.reverse).find? fun i =>
      (p.reach t [i]).contains t.size
    octetsIn t 0 (begins.getD t.size)
  else
    let ends := p.reach t [0]
    octetsIn t ((if longest then ends.getLast? else ends.head?).getD 0) t.size

/-- A text from a place on with another for the first that matches in it, or for all; `fuel` bounds the
characters. -/
def replaceFrom (p : Pattern) (all : Bool) (text : Octets → Octets) (t : Characters) :
    Nat → Nat → Octets
  | 0, _ => []
  | fuel + 1, i =>
    if t.size ≤ i then []
    else match (p.endFrom? t i).filter (i < ·) with
      | some j =>
        text (octetsIn t i j) ++
          (if all then replaceFrom p all text t fuel j else octetsIn t j t.size)
      | none => octetsIn t i (i + 1) ++ replaceFrom p all text t fuel (i + 1)

/-- A text with another for the first that matches in it, or for all. -/
def replace (p : Pattern) (all : Bool) (text : Octets → Octets) (o : Octets) : Octets :=
  let t := characters o
  replaceFrom p all text t (t.size + 1) 0

/-- A text with another for what matches at its start. -/
def replaceStart (p : Pattern) (text : Octets → Octets) (o : Octets) : Octets :=
  let t := characters o
  match p.endFrom? t 0 with
  | some j => text (octetsIn t 0 j) ++ octetsIn t j t.size
  | none => o

/-- A text with another for what matches at its end. -/
def replaceEnd (p : Pattern) (text : Octets → Octets) (o : Octets) : Octets :=
  let t := characters o
  match (Matcher.placesFrom t 0).find? fun i => (p.reach t [i]).contains t.size with
  | some i => octetsIn t 0 i ++ text (octetsIn t i t.size)
  | none => o

end Pattern

end Backtest.Shell
