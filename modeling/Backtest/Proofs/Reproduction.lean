import Backtest.Proofs.Renumbering
import Backtest.Proofs.Selection

/-!
# A score can be had again

The answer of a search tells a score that a pass of its own comes to, made with the parameters of the
answer in whatever books and for either sample. A trial is such a pass itself, in the books of its
search.

* `PassOutcome.worth_eq_some`, a pass that is worth a score;
* `Search.exists_trial`, the trial that an answer tells of;
* `Search.score_reproduced`, the main statement.
-/

namespace Backtest

theorem PassOutcome.worth_eq_some {o : PassOutcome Float} {y : Float} :
    o.worth = some y ↔ ∃ x, o.result = .ok (.scored x) ∧ x.toFloat = y := by
  unfold worth
  cases o.result with
  | error f => simp
  | ok v => cases v <;> simp [Books.worth]

namespace Search

variable {space : SearchSpace} {strategy : Strategy Float} {settings : Settings Float}
  {charts : List (Chart Float)} {ticks : List (Tick Float)} {iterations : ℤ} {g : Twister}
  {books : Books} {s : SearchState} {r : SearchResult}

/-- An answer tells of a trial: a pass with its parameters, made in the books of the search, that
came to its score. -/
theorem exists_trial
    (h : run space iterations (Trial.pass (.ok strategy) settings charts ticks) g books =
      (s, .ok (some r))) :
    ∃ (between : Books) (x : Score Float),
      (between.execute strategy settings charts .inSample ticks r.space.parameters).1.result =
        .ok (.scored x) ∧ x.toFloat = r.score := by
  obtain ⟨-, -, hparameters, hfound⟩ := run_passes h
  have hlength := congrArg List.length hparameters
  rw [List.length_map, List.length_map] at hlength
  obtain ⟨j, hj, hbest⟩ :=
    Best.exists_of_result? (by rw [List.length_map, hlength]) hfound.symm
  have hscore := hbest.score
  rw [List.getElem?_map, Option.map_eq_some_iff] at hscore
  obtain ⟨m, hm, hworth⟩ := hscore
  obtain ⟨hassignment, hmade⟩ := Books.of_getElem?_makeAll hm
  rw [assignments, List.getElem?_map, hj] at hassignment
  rw [hmade, ← Option.some.inj hassignment] at hworth
  exact ⟨_, PassOutcome.worth_eq_some.mp hworth⟩

/-- A pass makes the same calls and comes to the same result whatever ids are free, whatever is
logged, and for either sample, and its account is the same but for the numbers of the trades, which
are all moved alike. So the answer of a search tells a score that every pass over its ticks comes to
that is made with the parameters of the answer. -/
theorem score_reproduced (strategy : Strategy Float) (settings : Settings Float)
    (charts : List (Chart Float)) {ticks : List (Tick Float)} (hticks : ticks ≠ []) :
    (∀ books books' sample sample' parameters,
      let a := (Books.execute books strategy settings charts sample ticks parameters).1
      let b := (Books.execute books' strategy settings charts sample' ticks parameters).1
      b.result = a.result ∧ b.calls = a.calls ∧ b.processed = a.processed ∧
        b.simulation = a.simulation.inContext (books.context books' sample')) ∧
    ∀ space iterations g books s r,
      run space iterations (Trial.pass (.ok strategy) settings charts ticks) g books =
        (s, .ok (some r)) →
      ∀ (books' : Books) (sample : Sample), ∃ x,
        (books'.execute strategy settings charts sample ticks r.space.parameters).1.result =
          .ok (.scored x) ∧ x.toFloat = r.score := by
  refine ⟨fun books books' sample sample' parameters => Books.execute_inContext books books' strategy
    settings charts sample sample' hticks parameters, ?_⟩
  intro space iterations g books s r h books' sample
  obtain ⟨between, x, hx, hscore⟩ := exists_trial h
  obtain ⟨hresult, -⟩ := Books.execute_inContext between books' strategy settings charts .inSample
    sample hticks r.space.parameters
  exact ⟨x, hresult.trans hx, hscore⟩

/-- After a search of three passes that buy once, with three variables, a pass out of sample, without a log
and with other ids comes to the score of the answer. -/
theorem score_reproduced_daily :
    let settings : Settings Float := { deposit := 10000, drawdownLimit := -10, jpyQuote := false }
    let charts : List (Chart Float) := [.new "candlestick" .m1 2]
    let ticks := dailyTicks newYear 5
    let space : SearchSpace := ⟨[("flag", false)], [("x", ⟨0.25, 0.75, 0.0⟩)], [("n", ⟨3, 9, 0⟩)]⟩
    let other : Books := { ids := ⟨70, 40⟩, tradeLog := none, notices := #[], calls := #[] }
    ∃ s r x, run space 3 (Trial.pass (.ok .buyer) settings charts ticks) (Twister.ofSeed 1) .new =
        (s, .ok (some r)) ∧
      (other.execute .buyer settings charts .outOfSample ticks r.space.parameters).1.result =
        .ok (.scored x) ∧ x.toFloat = r.score := by
  intro settings charts ticks space other
  have h : ((run space 3 (Trial.pass (.ok .buyer) settings charts ticks) (Twister.ofSeed 1)
      .new).2.toOption.map Option.isSome) = some true := by
    decide +kernel
  obtain ⟨found, hfound, hsome⟩ := Option.map_eq_some_iff.mp h
  obtain ⟨r, rfl⟩ := Option.isSome_iff_exists.mp hsome
  have hrun : run space 3 (Trial.pass (.ok .buyer) settings charts ticks) (Twister.ofSeed 1) .new =
      (_, .ok (some r)) := Prod.ext rfl (toOption_eq_some.mp hfound)
  have hticks : ticks ≠ [] := by decide +kernel
  obtain ⟨x, hx, hscore⟩ :=
    (score_reproduced .buyer settings charts hticks).2 space 3 (Twister.ofSeed 1) .new _ r hrun other
      .outOfSample
  exact ⟨_, r, x, hrun, hx, hscore⟩

end Search

end Backtest
