import Backtest.Shell.CommandReading

/-!
# Lines of commands

Commands between brackets behind a dollar sign are written anew before they run, and their lines are those
that they then have: commands stand one behind the other, the bodies of compound commands on lines of
their own, and those of a function each on one.

* `Lines.breaks`, how many lines end within a word; `Lines.place`, a command on its lines;
* `Lines.ofText?`, the commands of a text on their lines.
-/

namespace Backtest.Shell.Lines

/-- So many lines together. -/
def total (ns : List Nat) : Nat := ns.foldl (· + ·) 0

section

variable (inner : Octets → Nat)

/-- How many lines end within parts; `inner` counts those of commands that are written anew. `fuel`
bounds how parts are nested. -/
def breaksFrom : Nat → Word → Nat
  | 0, _ => 0
  | fuel + 1, ps => total (ps.map fun p => match p with
    | .plain c => if c == '\n' then 1 else 0
    | .quoted o => o.count '\n'
    | .double ps | .arithmetic ps => breaksFrom fuel ps
    | .parameter _ p => total ((p.index.toList ++ p.words).map (breaksFrom fuel))
    | .output o kept => if kept then o.count '\n' else inner o
    | .process _ o => inner o
    | .names _ _ | .indexes _ _ | .bad _ => 0)

/-- How many lines end within a word. -/
def breaks (w : Word) : Nat := breaksFrom inner 1000 w

/-- How many lines end within an assignment. -/
def ofAssignment (a : Assignment) : Nat :=
  match a.value with
  | .text w => breaks inner w
  | .array items => total (items.map fun i => breaks inner i.value)

/-- How many lines a redirection takes: those that end within its word, and those of its document with
the one that ends it. -/
def ofRedirection : Redirection → Nat
  | .file _ _ _ w => breaks inner w
  | .text _ [.double w, .quoted ['\n']] => breaks inner w
  | .text _ parts => breaks inner parts + 1

/-- How many lines end within a condition. -/
def ofCondition : Condition → Nat
  | .unary _ w => breaks inner w
  | .binary _ a b => breaks inner a + breaks inner b
  | .negation c => ofCondition c
  | .both a b | .either a b => ofCondition a + ofCondition b

/-- How many lines end between commands and those before them; `inFunction` tells whether each has a line
of its own. -/
def gaps (inFunction : Bool) : List Command → List Nat
  | c :: d :: cs =>
    let gap := match c, d with
      | _, .onNewLine _ => 1
      | .background _, _ => 0
      | _, _ => if inFunction then 1 else 0
    gap :: gaps inFunction (d :: cs)
  | _ => []

/-- How many lines end before the bodies of clauses: those of a sign that ends the clause before, and of
the patterns. -/
def clauseGaps (first : Bool) : List (List Word × ClauseEnd) → List Nat
  | [] => []
  | (ws, _) :: clauses =>
    (total (ws.map (breaks inner)) + if first then 2 else 3) :: clauseGaps false clauses

mutual

/-- A command on the lines from one on, and its last line. -/
def place (inFunction : Bool) (n : Nat) : Command → Command × Nat
  | .simple _ assignments arguments rs =>
    let heights := assignments.map (ofAssignment inner) ++
      arguments.map (fun a => breaks inner a.word) ++ rs.map (ofRedirection inner)
    (.simple (n + total (heights.take 2)) assignments arguments rs, n + total heights)
  | .redirected _ body rs =>
    let (body, m) := place inFunction n body
    (.redirected m body rs, m + total (rs.map (ofRedirection inner)))
  | .define _ name body =>
    let (body, m) := placeBody (n + 2) body
    (.define n name body, m + 1)
  | .sequence list =>
    let ownLines := inFunction && list.length == 1
    let start := if ownLines then n + 1 else n
    let (list, m) := placeAll inFunction start (0 :: gaps inFunction list) list
    (.sequence list, if ownLines then m + 1 else m)
  | .onNewLine body =>
    let (body, m) := place inFunction n body
    (.onNewLine body, m)
  | .pipeline list =>
    let (list, m) := placeAll inFunction n [] list
    (.pipeline list, m)
  | .negation body =>
    let (body, m) := place inFunction n body
    (.negation body, m)
  | .andThen a b =>
    let (a, m) := place inFunction n a
    let (b, m) := place inFunction m b
    (.andThen a b, m)
  | .orElse a b =>
    let (a, m) := place inFunction n a
    let (b, m) := place inFunction m b
    (.orElse a b, m)
  | .background body =>
    let (body, m) := place inFunction n body
    (.background body, m)
  | .subshell body =>
    let (body, m) := place inFunction n body
    (.subshell body, m)
  | .branch condition success failure =>
    let (condition, m) := place inFunction n condition
    let (success, m) := place inFunction (m + 1) success
    let isThere := !(failure matches .sequence [])
    let (failure, k) := place inFunction (m + 2) failure
    (.branch condition success failure, (if isThere then k else m) + 1)
  | .loop untilIt condition body =>
    let (condition, m) := place inFunction n condition
    let (body, m) := place inFunction (m + 1) body
    (.loop untilIt condition body, m + 1)
  | .each _ name words body =>
    let height := total ((words.getD []).map (breaks inner))
    let (body, m) := place inFunction (n + height + 2) body
    (.each n name words body, m + 1)
  | .menu _ name words body =>
    let height := total ((words.getD []).map (breaks inner))
    let (body, m) := place inFunction (n + height + 2) body
    (.menu n name words body, m + 1)
  | .count _ start condition next body =>
    let height := breaks inner start + breaks inner condition + breaks inner next
    let (body, m) := place inFunction (n + height + 2) body
    (.count n start condition next body, m + 1)
  | .choice _ word patterns bodies =>
    let start := n + breaks inner word
    let (bodies, m) := placeAll inFunction start (clauseGaps inner true patterns) bodies
    (.choice n word patterns bodies, m + if bodies.isEmpty then 1 else 2)
  | .arithmetic _ e => (.arithmetic n e, n + breaks inner e)
  | .condition _ c => (.condition n c, n + ofCondition inner c)

/-- The body of a function on the lines from one on, and its last line. -/
def placeBody (n : Nat) : Command → Command × Nat
  | .sequence [body] =>
    let (body, m) := place true n body
    (.sequence [body], m)
  | .redirected _ (.sequence [body]) rs =>
    let (body, m) := place true n body
    (.redirected m (.sequence [body]) rs, m + total (rs.map (ofRedirection inner)))
  | body => place true n body

/-- Commands on the lines from one on, each behind so many lines, and the last line. -/
def placeAll (inFunction : Bool) (n : Nat) (gaps : List Nat) : List Command → List Command × Nat
  | [] => ([], n)
  | c :: cs =>
    let (c, m) := place inFunction (n + gaps.headD 0) c
    let (cs, m) := placeAll inFunction m gaps.tail cs
    (c :: cs, m)

end

end

/-- The commands of a text; nothing if it has none, or documents that are not ended. -/
def commandsOf? (o : Octets) : Option Command :=
  match (CommandReading.list o.length).run.run (Reader.ofText 1 o) with
  | (.ok c, r) =>
    if r.rest.all (fun c => isSpace c) && r.pending.isEmpty && r.openDocuments.isEmpty then some c else none
  | (.error _, _) => none

/-- Words of the language that may put commands on lines of their own. -/
def dividers : List String := ["\n", "do", "then", "case", "function", "()"]

/-- Whether one text is part of another. -/
def isPart (part : Octets) : Octets → Bool
  | [] => part.isEmpty
  | c :: cs => part.isPrefixOf (c :: cs) || isPart part cs

/-- How many lines end within the commands of a text, written anew. `fuel` bounds how they are nested. -/
def heightFrom : Nat → Octets → Nat
  | 0, _ => 0
  | fuel + 1, o =>
    if dividers.any fun s => isPart s.toList o then
      match commandsOf? o with
      | some c => (place (heightFrom fuel) false 0 c).2
      | none => o.count '\n'
    else 0

/-- The commands of a text on the lines from one on. -/
def ofText? (n : Nat) (o : Octets) : Option Command :=
  (commandsOf? o).map fun c => (place (heightFrom 1000) false n c).1

end Backtest.Shell.Lines
