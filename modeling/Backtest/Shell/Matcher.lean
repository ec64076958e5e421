import Backtest.Shell.CharClass

/-!
# Matchers

What texts match, whether it was written as a pattern of file names or as a regular expression. Texts are
matched character by character, and places between characters are numbered from zero.

* `Member`, `Matcher`; `Matcher.reach`, the places to which matches lead from some places;
* `Matcher.walk`, the groups of the first match among all, in the order in which a reader would try them;
* `Matcher.find?`, the match that begins first, and the longest of these, with its groups.
-/

namespace Backtest.Shell

/-- One of the characters that may stand at a place. -/
inductive Member
  | range (first last : Nat)
  /-- The characters of a named class. -/
  | named (name : String)

/-- What may be asked of a place between characters. -/
inductive Boundary
  | start
  | finish
  /-- Between a word and what is none; or not there. -/
  | wordEdge (isOne : Bool)
  | wordStart
  | wordFinish

/-- What texts match. -/
inductive Matcher
  | empty
  /-- One character of some, or of all others. -/
  | one (negated : Bool) (members : List Member)
  /-- Any characters. -/
  | anything
  | at (boundary : Boundary)
  | next (first second : Matcher)
  | either (first second : Matcher)
  /-- So many times, at least and at most. -/
  | times (least : Nat) (most : Option Nat) (body : Matcher)
  /-- A part of the match that is kept by its number. -/
  | group (number : Nat) (body : Matcher)
  /-- The text of a group once more. -/
  | again (number : Nat)
  /-- Any characters that do not match. -/
  | except (body : Matcher)

/-- The characters of a text, each as its octets. -/
abbrev Characters := Array Octets

/-- The number of a character; octets that are none have numbers beyond all characters. -/
def codeOf (c : Octets) : Nat :=
  match Octets.point? c with
  | some (n, _) => n
  | none => 0x110000 + (c.headD '\x00').toNat

/-- Whether one of the members is a character. -/
def Member.has (n : Nat) : Member → Bool
  | .range a b => a ≤ n && n ≤ b
  | .named name => n < 0x110000 && ((CharClass.named? name).map (· (Char.ofNat n))).getD false

/-- A character by itself. -/
def Member.ofChar (c : Octets) : Member := .range (codeOf c) (codeOf c)

/-- Whether a place stands between two texts as a boundary does. -/
def Boundary.holds (t : Characters) (i : Nat) (b : Boundary) : Bool :=
  let isWord (j : Nat) : Bool := match t[j]? with
    | some c => codeOf c < 0x110000 && CharClass.isWordChar (Char.ofNat (codeOf c))
    | none => false
  let before := i != 0 && isWord (i - 1)
  let behind := isWord i
  match b with
  | .start => i == 0
  | .finish => i == t.size
  | .wordEdge isOne => (before != behind) == isOne
  | .wordStart => !before && behind
  | .wordFinish => before && !behind

/-- Two rising lists of places as one. -/
def mergePlaces : List Nat → List Nat → List Nat
  | [], js => js
  | is, [] => is
  | i :: is, j :: js =>
    if i < j then i :: mergePlaces is (j :: js)
    else if j < i then j :: mergePlaces (i :: is) js
    else i :: mergePlaces is js

/-- The places that a step leads to from new ones, again and again, with those seen before. `fuel` bounds
how often. -/
def spread (step : List Nat → List Nat) : Nat → List Nat → List Nat → List Nat
  | 0, _, seen => seen
  | fuel + 1, fresh, seen =>
    let found := (step fresh).filter fun i => !seen.contains i
    if found.isEmpty then seen else spread step fuel found (mergePlaces seen found)

/-- The groups of a match: where each begins and ends. -/
abbrev Groups := List (Nat × Nat × Nat)

/-- The text of a group, if it is part of the match. -/
def Groups.text? (t : Characters) (g : Groups) (number : Nat) : Option (List Octets) :=
  (g.lookup number).map fun (i, j) => (t.extract i j).toList

namespace Matcher

/-- Any one character. -/
def any : Matcher := .one true []

/-- A character that stands for itself. -/
def char (c : Octets) : Matcher := .one false [.ofChar c]

/-- Matchers one behind the other. -/
def all : List Matcher → Matcher
  | [] => .empty
  | [m] => m
  | m :: ms => .next m (all ms)

/-- One of several matchers. -/
def anyOf : List Matcher → Matcher
  | [] => .empty
  | [m] => m
  | m :: ms => .either m (anyOf ms)

/-- Whether a character of a text is one of some. -/
def hasAt (t : Characters) (negated : Bool) (members : List Member) (i : Nat) : Bool :=
  match t[i]? with
  | some c => members.any (Member.has (codeOf c)) != negated
  | none => false

/-- The places from one on. -/
def placesFrom (t : Characters) (i : Nat) : List Nat := (List.range (t.size + 1 - i)).map (· + i)

/-- The places to which matches lead from the places of a rising list, as a rising list. A group may come
again as any characters. -/
def reach (t : Characters) : Matcher → List Nat → List Nat
  | .empty, is => is
  | .one negated members, is => (is.filter (hasAt t negated members)).map (· + 1)
  | .anything, is | .again _, is => (is.head?.map (placesFrom t)).getD []
  | .at b, is => is.filter fun i => b.holds t i
  | .next a b, is => reach t b (reach t a is)
  | .either a b, is => mergePlaces (reach t a is) (reach t b is)
  | .times least most a, is =>
    let is := Nat.repeat (reach t a) least is
    spread (reach t a) ((most.getD (least + t.size + 1)) - least) is is
  | .group _ a, is => reach t a is
  | .except a, is => is.foldl (fun found i =>
      let matching := reach t a [i]
      mergePlaces found ((placesFrom t i).filter fun j => !matching.contains j)) []

/-- A body repeated: so many times, and then as often as it can be. A match without characters is not
repeated. -/
def repeated (body : Nat → Groups → (Nat → Groups → Option Groups) → Option Groups) :
    Nat → Nat → Nat → Groups → (Nat → Groups → Option Groups) → Option Groups
  | least + 1, more, i, g, goOn => body i g fun j g => repeated body least more j g goOn
  | 0, 0, i, g, goOn => goOn i g
  | 0, more + 1, i, g, goOn =>
    (body i g fun j g => if j == i then none else repeated body 0 more j g goOn) <|> goOn i g

/-- The groups of the first match from a place with which a reader goes on. The first of two ways is
tried first, and one more repetition before none. -/
def walk (t : Characters) :
    Matcher → Nat → Groups → (Nat → Groups → Option Groups) → Option Groups
  | .empty, i, g, goOn => goOn i g
  | .one negated members, i, g, goOn => if hasAt t negated members i then goOn (i + 1) g else none
  | .anything, i, g, goOn => (placesFrom t i).reverse.findSome? fun j => goOn j g
  | .at b, i, g, goOn => if b.holds t i then goOn i g else none
  | .next a b, i, g, goOn => walk t a i g fun j g => walk t b j g goOn
  | .either a b, i, g, goOn => walk t a i g goOn <|> walk t b i g goOn
  | .times least most a, i, g, goOn =>
    repeated (walk t a) least ((most.getD (least + t.size + 1)) - least) i g goOn
  | .group n a, i, g, goOn => walk t a i g fun j g => goOn j ((n, i, j) :: g.filter (·.1 != n))
  | .again n, i, g, goOn =>
    match Groups.text? t g n with
    | some cs => if (t.extract i (i + cs.length)).toList == cs then goOn (i + cs.length) g else none
    | none => none
  | .except a, i, g, goOn =>
    let matching := reach t a [i]
    ((placesFrom t i).filter fun j => !matching.contains j).findSome? fun j => goOn j g

/-- Whether a whole text matches. -/
def isMatch (m : Matcher) (t : Characters) : Bool := (m.reach t [0]).contains t.size

/-- The match from a place that is as long as can be, with its groups. -/
def matchAt? (m : Matcher) (t : Characters) (i : Nat) : Option (Nat × Nat × Groups) :=
  (m.reach t [i]).reverse.findSome? fun j =>
    (m.walk t i [] fun last g => if last == j then some g else none).map (i, j, ·)

/-- The match that begins first, as long as can be, with its groups. -/
def find? (m : Matcher) (t : Characters) : Option (Nat × Nat × Groups) :=
  (placesFrom t 0).findSome? (m.matchAt? t)

end Matcher

end Backtest.Shell
