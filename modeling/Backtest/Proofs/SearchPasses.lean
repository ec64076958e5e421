import Backtest.Proofs.PassSequence
import Backtest.Search

/-!
# Searches by passes

A search whose trials are passes makes one for each of its candidates, whatever these are worth, and
answers with the best of them. A pass does not read the notices between the passes.

* `PassMade`, a pass with what it was made with; `Books.makeAll`, passes one after the other;
* `Books.Through`, books behind passes and notices; `Books.Through.calls`, `Books.Through.setups`, what the
  calls in them come to;
* `Search.candidates`, the candidates of a search; `Best.among`, the best of candidates with scores;
* `Search.step_pass`, `Search.trials_pass`, `Search.run_passes`, a trial, trials, a search.
-/

namespace Backtest

/-! ### Passes made -/

/-- A pass that was made, with what it was made with. -/
structure PassMade where
  assignment : Assignment
  outcome : PassOutcome Float

/-- What a pass is worth to a search: nothing if it was given up or failed. -/
def PassOutcome.worth (p : PassOutcome Float) : Option Float :=
  match p.result with
  | .ok v => Books.worth v
  | .error _ => none

namespace Books

variable {b b' b'' : Books}

/-- Make passes one after the other. -/
def makeAll (b : Books) : List Assignment → List PassMade
  | [] => []
  | a :: as => ⟨a, (b.perform a).1⟩ :: makeAll (b.perform a).2 as

@[simp] theorem map_assignment_makeAll (b : Books) (as : List Assignment) :
    (b.makeAll as).map (·.assignment) = as := by
  induction as generalizing b with
  | nil => rfl
  | cons a as ih => rw [makeAll, List.map_cons, ih]

@[simp] theorem map_outcome_makeAll (b : Books) (as : List Assignment) :
    (b.makeAll as).map (·.outcome) = b.outcomes as := by
  induction as generalizing b with
  | nil => rfl
  | cons a as ih => rw [makeAll, List.map_cons, ih, outcomes_cons]

/-- A pass that is made is made with its own assignment, in the books behind the passes before it. -/
theorem of_getElem?_makeAll {as : List Assignment} {k : ℕ} {m : PassMade}
    (h : (b.makeAll as)[k]? = some m) :
    as[k]? = some m.assignment ∧ m.outcome = ((b.afterAll (as.take k)).perform m.assignment).1 := by
  induction as generalizing b k with
  | nil => simp [makeAll] at h
  | cons a as ih =>
    cases k with
    | zero =>
      obtain rfl := Option.some.inj h
      exact ⟨rfl, rfl⟩
    | succ k => exact ih h

theorem makeAll_append (b : Books) (as bs : List Assignment) :
    b.makeAll (as ++ bs) = b.makeAll as ++ (b.afterAll as).makeAll bs := by
  induction as generalizing b with
  | nil => rfl
  | cons a as ih => simp [makeAll, ih]

theorem makeAll_congr (h : b'.entries = b.entries) (as : List Assignment) :
    b'.makeAll as = b.makeAll as := by
  induction as generalizing b b' with
  | nil => rfl
  | cons a as ih =>
    obtain ⟨hfst, hsnd⟩ := perform_congr a h
    rw [makeAll, makeAll, hfst, ih hsnd]

/-- Books that came from others through passes, in order, and perhaps notices. -/
structure Through (b : Books) (ms : List PassMade) (b' : Books) : Prop where
  made : b.makeAll (ms.map (·.assignment)) = ms
  entries : b'.entries = (b.afterAll (ms.map (·.assignment))).entries

theorem through_makeAll (b : Books) (as : List Assignment) :
    b.Through (b.makeAll as) (b.afterAll as) := ⟨by simp, by simp⟩

theorem Through.refl (b : Books) : b.Through [] b := ⟨rfl, rfl⟩

theorem Through.of_entries {ms : List PassMade} (h : b.Through ms b')
    (hb : b''.entries = b'.entries) : b.Through ms b'' := ⟨h.made, hb.trans h.entries⟩

theorem Through.trans {ms ns : List PassMade} (h : b.Through ms b') (h' : b'.Through ns b'') :
    b.Through (ms ++ ns) b'' where
  made := by
    rw [List.map_append, makeAll_append, h.made, ← makeAll_congr h.entries, h'.made]
  entries := by
    rw [List.map_append, afterAll_append, h'.entries]
    exact (afterAll_congr _ h.entries).2

/-- Where the entries of two books agree, the same passes lead on from both. -/
theorem Through.congr {ms : List PassMade} (h : b.Through ms b'') (hb : b.entries = b'.entries) :
    b'.Through ms b'' := (Through.refl b' |>.of_entries hb).trans h

theorem Through.outcomes {ms : List PassMade} (h : b.Through ms b') :
    b.outcomes (ms.map (·.assignment)) = ms.map (·.outcome) := by
  rw [← map_outcome_makeAll, h.made]

/-- A pass that was made on the way is made in some books. -/
theorem Through.exists_of_mem {ms : List PassMade} (h : b.Through ms b') {m : PassMade} (hm : m ∈ ms) :
    ∃ between : Books, m.outcome = (between.perform m.assignment).1 := by
  rw [← h.made] at hm
  obtain ⟨k, hk⟩ := List.getElem?_of_mem hm
  exact ⟨_, (of_getElem?_makeAll hk).2⟩

/-- The calls that passes leave behind those before. -/
theorem Through.calls {ms : List PassMade} (h : b.Through ms b') :
    b'.calls.toList = b.calls.toList ++ ms.flatMap (·.outcome.calls.toList) := by
  have hcalls : b'.calls = _ := congrArg (·.2.2) h.entries
  rw [hcalls]
  refine (b.afterAll_calls _).trans ?_
  rw [h.outcomes, callsOf, List.flatMap_map]

/-- Passes over ticks set their strategies up once each. -/
theorem Through.setups {ms : List PassMade} (h : b.Through ms b')
    (hticks : ∀ m ∈ ms, m.assignment.ticks ≠ []) :
    setups (ms.flatMap (·.outcome.calls.toList)) = ms.map (·.assignment.parameters) := by
  have hsetups := setups_callsOf (ms.map (·.assignment)) b (List.forall_mem_map.mpr hticks)
  rw [h.outcomes, callsOf, List.flatMap_map, List.map_map] at hsetups
  exact hsetups

end Books

/-! ### Searches -/

/-- The best of candidates with scores, after it was another. -/
def Best.among (b : Best) (cs : List SearchSpace) (scores : List (Option Float)) : Best :=
  (cs.zip scores).foldl (fun b x => b.consider x.1 x.2) b

namespace Search

variable {space : SearchSpace} {strategy : Strategy Float} {settings : Settings Float}
  {charts : List (Chart Float)} {ticks : List (Tick Float)}

/-- The candidates of a search of so many trials. -/
def candidates (space : SearchSpace) : ℕ → Twister → List SearchSpace
  | 0, _ => []
  | n + 1, g => (candidate space g).1 :: candidates space n (candidate space g).2

@[simp] theorem length_candidates (n : ℕ) (g : Twister) : (candidates space n g).length = n := by
  induction n generalizing g with
  | zero => rfl
  | succ n ih => rw [candidates, List.length_cons, ih]

/-- The pass in which a candidate is tried. -/
def assignment (strategy : Strategy Float) (settings : Settings Float) (charts : List (Chart Float))
    (ticks : List (Tick Float)) (candidate : SearchSpace) : Assignment :=
  { strategy, settings, charts, sample := .inSample, ticks, parameters := candidate.parameters }

/-- A trial that is a pass makes it and considers what it is worth, or fails with it. -/
theorem step_pass {number : ℕ} {s s' : SearchState}
    (h : step space (Trial.pass (.ok strategy) settings charts ticks) number s = (s', .ok ())) :
    let a := assignment strategy settings charts ticks (candidate space s.generator).1
    let made := (s.books.tell (.trial (number + 1))).perform a
    made.1.Completed ∧ s'.books = made.2 ∧ s'.generator = (candidate space s.generator).2 ∧
      s'.best = s.best.consider (candidate space s.generator).1 made.1.worth := by
  intro a made
  have hpass : Trial.pass (.ok strategy) settings charts ticks number
      (candidate space s.generator).1 (s.books.tell (.trial (number + 1))) =
      (made.1.result.map Books.worth, made.2) := rfl
  simp only [step, hpass] at h
  cases hresult : made.1.result with
  | error f => simp [hresult, Except.map] at h
  | ok v =>
    simp only [hresult, Except.map, Prod.mk.injEq, and_true] at h
    refine ⟨⟨v, hresult⟩, by rw [← h], by rw [← h], ?_⟩
    rw [← h, PassOutcome.worth, hresult]

/-- Trials that are passes make them all and keep the best. -/
theorem trials_pass {n number : ℕ} {s s' : SearchState}
    (h : trials space (Trial.pass (.ok strategy) settings charts ticks) n number s =
      (s', .ok ())) :
    let cs := candidates space n s.generator
    let ms := s.books.makeAll (cs.map (assignment strategy settings charts ticks))
    s.books.Through ms s'.books ∧ (∀ m ∈ ms, m.outcome.Completed) ∧
      s'.best = s.best.among cs (ms.map (·.outcome.worth)) := by
  induction n generalizing number s with
  | zero =>
    obtain rfl := (Prod.mk.inj h).1
    exact ⟨.refl _, by simp [candidates, Books.makeAll], rfl⟩
  | succ n ih =>
    rw [trials] at h
    split at h
    · simp at h
    · rename_i u hstep
      obtain ⟨hcompleted, hbooks, hgenerator, hbest⟩ := step_pass hstep
      obtain ⟨hthrough, hall, hbest'⟩ := ih h
      -- the notice of the trial is the only entry of the step beside the pass
      obtain ⟨hfst, hsnd⟩ := Books.perform_congr (b := s.books)
        (assignment strategy settings charts ticks (candidate space s.generator).1)
        (Books.entries_tell s.books (.trial (number + 1)))
      rw [← hbooks] at hsnd
      rw [hgenerator] at hthrough hall hbest'
      rw [Books.makeAll_congr hsnd] at hthrough hall hbest'
      rw [hfst] at hcompleted hbest
      refine ⟨?_, ?_, ?_⟩
      · exact (Books.through_makeAll s.books [_]).trans (hthrough.congr hsnd)
      · simpa [candidates, Books.makeAll] using ⟨hcompleted, by simpa using hall⟩
      · rw [hbest', hbest]
        rfl

/-- The passes in which candidates are tried; there are none of a strategy that cannot be made. -/
def assignments (strategy : Except Fault (Strategy Float)) (settings : Settings Float)
    (charts : List (Chart Float)) (ticks : List (Tick Float)) (cs : List SearchSpace) :
    List Assignment :=
  match strategy with
  | .error _ => []
  | .ok strategy => cs.map (assignment strategy settings charts ticks)

/-- The passes in which candidates are tried are in sample, with the charts and over the ticks of the
search. -/
theorem of_mem_assignments {strategy : Except Fault (Strategy Float)} {cs : List SearchSpace}
    {a : Assignment} (h : a ∈ assignments strategy settings charts ticks cs) :
    a.sample = .inSample ∧ a.charts = charts ∧ a.ticks = ticks := by
  cases strategy with
  | error f => simp [assignments] at h
  | ok strategy =>
    obtain ⟨c, -, rfl⟩ := List.mem_map.mp h
    exact ⟨rfl, rfl, rfl⟩

/-- A search whose trials are passes makes one for each candidate and answers with the best. -/
theorem run_passes {strategy : Except Fault (Strategy Float)} {iterations : ℤ} {g : Twister}
    {books : Books} {s : SearchState} {found : Option SearchResult}
    (h : run space iterations (Trial.pass strategy settings charts ticks) g books = (s, .ok found)) :
    let cs := candidates space iterations.toNat g
    let ms := books.makeAll (assignments strategy settings charts ticks cs)
    books.Through ms s.books ∧ (∀ m ∈ ms, m.outcome.Completed) ∧
      ms.map (·.assignment.parameters) = cs.map (·.parameters) ∧
      found = (Best.start.among cs (ms.map (·.outcome.worth))).result? iterations := by
  intro cs ms
  let start : SearchState := { generator := g, books, best := .start, candidates := #[] }
  -- what is told of the answer is no entry
  have hend (u : SearchState)
      (hu : trials space (Trial.pass strategy settings charts ticks) iterations.toNat 0 start =
        (u, .ok ())) : s.books.entries = u.books.entries ∧ found = u.best.result? iterations := by
    simp only [run, start] at h hu
    rw [hu] at h
    simp only at h
    split at h <;> rename_i hresult <;>
      simp only [Prod.mk.injEq, Except.ok.injEq] at h <;> obtain ⟨rfl, rfl⟩ := h <;>
      exact ⟨rfl, hresult.symm⟩
  cases hstrategy : strategy with
  | error f =>
    subst hstrategy
    cases hn : iterations.toNat with
    | zero =>
      obtain ⟨hentries, hfound⟩ := hend start (by rw [hn]; rfl)
      have hnone : cs = [] := by simp [cs, hn, candidates]
      refine ⟨(Books.Through.refl books).of_entries hentries, by simp [ms, assignments, Books.makeAll],
        by simp [ms, hnone, assignments, Books.makeAll], ?_⟩
      rw [hfound, hnone]
      rfl
    | succ n => simp [run, hn, trials, step, Trial.pass] at h
  | ok strategy =>
    subst hstrategy
    rcases htrials : trials space (Trial.pass (.ok strategy) settings charts ticks) iterations.toNat 0
      start with ⟨u, f | _⟩
    · simp only [run, start] at h htrials
      rw [htrials] at h
      simp at h
    · obtain ⟨hentries, hfound⟩ := hend u htrials
      obtain ⟨hthrough, hall, hbest⟩ := trials_pass htrials
      refine ⟨hthrough.of_entries hentries, hall, ?_, ?_⟩
      · have hmap : ms.map (·.assignment.parameters) = (ms.map (·.assignment)).map (·.parameters) := by
          rw [List.map_map]
          rfl
        rw [hmap, books.map_assignment_makeAll, assignments, List.map_map]
        rfl
      · rw [hfound, hbest]
        rfl

end Search

end Backtest
