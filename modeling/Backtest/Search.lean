import Backtest.Books
import Backtest.SearchSpace

/-!
# Searches

A search tries random parameters, each trial with a generator seeded by the next draw of the
search's own generator, and keeps the first of the best trials. It fails when no trial reaches the
least score that counts.

* `Best`, the best so far; `Best.consider`, after one more trial; `Best.result?`, the answer;
* `Trial`, how a candidate is tried; `Search.run`, a search; `Trial.pass`, a trial that is a pass.
-/

namespace Backtest

/-- The score below which the search for a best starts. -/
def initialBestScore : Float := -999999.0

/-- The least score that counts. -/
def minViableScore : Float := -999.99

/-- The best trial so far and the number of trials with a score. -/
structure Best where
  candidate : Option SearchSpace
  score : Float
  successful : Nat

namespace Best

/-- No trial yet. -/
def start : Best := { candidate := none, score := initialBestScore, successful := 0 }

/-- The best after one more trial; only a higher score replaces it. -/
def consider (b : Best) (candidate : SearchSpace) : Option Float → Best
  | none => b
  | some x =>
    let b := { b with successful := b.successful + 1 }
    if x > b.score then { b with candidate := some candidate, score := x } else b

end Best

/-- What a search found. -/
structure SearchResult where
  space : SearchSpace
  score : Float
  successful : Nat
  attempted : Int

/-- The answer of a search: the best trial, if there is one and it counts. -/
def Best.result? (b : Best) (attempted : Int) : Option SearchResult :=
  if b.successful == 0 then none
  else match b.candidate with
    | none => none
    | some space =>
      if b.score < minViableScore then none
      else some { space, score := b.score, successful := b.successful, attempted }

/-- How a candidate is tried: the number of the trial, from zero, and the candidate give a score or
none. -/
abbrev Trial := Nat → SearchSpace → Books → Except Fault (Option Float) × Books

/-- Where a search stands. -/
structure SearchState where
  generator : Twister
  books : Books
  best : Best
  candidates : Array SearchSpace

namespace Search

/-- A candidate: fresh values from a generator seeded by 64 bits of the search's own. -/
def candidate (space : SearchSpace) (g : Twister) : SearchSpace × Twister :=
  let (seed, g) := Twister.bits 64 g
  ((space.randomize (Twister.ofSeed seed)).1, g)

/-- The search after one more trial. -/
def step (space : SearchSpace) (trial : Trial) (number : Nat) (s : SearchState) :
    SearchState × Except Fault Unit :=
  let books := s.books.tell (.trial (number + 1))
  let (c, generator) := candidate space s.generator
  let (score, books) := trial number c books
  let s := { s with generator, books, candidates := s.candidates.push c }
  match score with
  | .error f => (s, .error f)
  | .ok score => ({ s with best := s.best.consider c score }, .ok ())

/-- The trials of a search: `left` of them from a number on, up to a failure. -/
def trials (space : SearchSpace) (trial : Trial) :
    Nat → Nat → SearchState → SearchState × Except Fault Unit
  | 0, _, s => (s, .ok ())
  | left + 1, number, s =>
    match step space trial number s with
    | (s, .error f) => (s, .error f)
    | (s, .ok ()) => trials space trial left (number + 1) s

/-- A search of so many trials. -/
def run (space : SearchSpace) (iterations : Int) (trial : Trial) (g : Twister) (books : Books) :
    SearchState × Except Fault (Option SearchResult) :=
  let start : SearchState := { generator := g, books, best := .start, candidates := #[] }
  match trials space trial iterations.toNat 0 start with
  | (s, .error f) => (s, .error f)
  | (s, .ok ()) =>
    match s.best.result? iterations with
    | none =>
      let notice := Notice.searchFailed s.best.successful iterations s.best.score
      ({ s with books := s.books.tell notice }, .ok none)
    | some r =>
      let notice := Notice.searchBest r.score r.successful iterations
      ({ s with books := s.books.tell notice }, .ok (some r))

end Search

/-- A trial that is an in-sample pass of a fresh strategy with the candidate's values. -/
def Trial.pass (strategy : Except Fault (Strategy Float)) (settings : Settings Float)
    (charts : List (Chart Float)) (ticks : List (Tick Float)) : Trial := fun _ candidate books =>
  match strategy with
  | .error f => (.error f, books)
  | .ok strategy =>
    let (p, books) := books.execute strategy settings charts .inSample ticks candidate.parameters
    (p.result.map Books.worth, books)

end Backtest
