import Backtest.Proofs.Schedule

/-!
# All passes of a run

A run that meets a fault has made passes before it, and perhaps the one that met it. So has a
search. With these the entries behind any run, whatever its outcome, are those behind its passes,
step by step.

* `Search.trials_entries`, `Search.run_entries`, the books behind a search by passes, failed or not;
* `Walk.tries`, the passes in which a step has tried candidates; `Walk.made`, all passes of a step;
  `Walk.madeAll`, all passes of a run;
* `Walk.optimize_entries`, `Walk.execute_through`, `Walk.trade_through`, `Walk.step_through`, the
  books behind the parts of a step and behind a step;
* `Walk.exists_of_mem_made`, `Walk.parameters_made`, what the passes of a step are made with;
* `Walk.run_made`, the books behind a run.
-/

namespace Backtest

namespace Search

variable {strategy : Except Fault (Strategy Float)} {settings : Settings Float}
  {charts : List (Chart Float)} {ticks : List (Tick Float)} {books : Books}

theorem assignments_concat (cs : List SearchSpace) (c : SearchSpace) :
    assignments strategy settings charts ticks (cs ++ [c]) =
      assignments strategy settings charts ticks cs ++
        assignments strategy settings charts ticks [c] := by
  cases strategy with
  | error f => rfl
  | ok strategy => exact List.map_append

/-- A trial that is a pass leaves the entries behind this pass, failed or not. -/
theorem step_entries (space : SearchSpace) (number : ℕ) {s : SearchState}
    (h : s.books.entries =
      (books.afterAll (assignments strategy settings charts ticks s.candidates.toList)).entries) :
    let t := (step space (Trial.pass strategy settings charts ticks) number s).1
    t.books.entries =
      (books.afterAll (assignments strategy settings charts ticks t.candidates.toList)).entries := by
  cases strategy with
  | error f => exact h
  | ok strategy =>
    intro t
    let c := (candidate space s.generator).1
    let told := s.books.tell (.trial (number + 1))
    have ht : t.books = (told.perform (assignment strategy settings charts ticks c)).2 ∧
        t.candidates = s.candidates.push c := by
      simp only [t, step]
      split <;> exact ⟨rfl, rfl⟩
    have htold : told.entries = _ := h
    rw [ht.1, ht.2, Array.toList_push, assignments_concat, Books.afterAll_append]
    exact (Books.perform_congr _ htold).2

/-- Where trials are passes, the entries are those behind the passes of the candidates. -/
theorem trials_entries (space : SearchSpace) (n number : ℕ) {s : SearchState}
    (h : s.books.entries =
      (books.afterAll (assignments strategy settings charts ticks s.candidates.toList)).entries) :
    let t := (trials space (Trial.pass strategy settings charts ticks) n number s).1
    t.books.entries =
      (books.afterAll (assignments strategy settings charts ticks t.candidates.toList)).entries := by
  induction n generalizing number s with
  | zero => exact h
  | succ n ih =>
    have hstep := step_entries space number h
    rw [trials]
    split <;> rename_i hu <;> rw [hu] at hstep
    · exact hstep
    · exact ih _ hstep

/-- A search by passes leaves the entries behind the passes of its candidates. -/
theorem run_entries (space : SearchSpace) (strategy : Except Fault (Strategy Float))
    (settings : Settings Float) (charts : List (Chart Float)) (ticks : List (Tick Float)) (iterations : ℤ)
    (g : Twister) (books : Books) :
    let s := (run space iterations (Trial.pass strategy settings charts ticks) g books).1
    s.books.entries =
      (books.afterAll (assignments strategy settings charts ticks s.candidates.toList)).entries := by
  have hstart : books.entries =
      (books.afterAll (assignments strategy settings charts ticks [])).entries := by
    cases strategy <;> rfl
  have htrials := trials_entries space iterations.toNat 0
    (s := { generator := g, books, best := .start, candidates := #[] }) hstart
  simp only [run]
  split <;> rename_i hrun <;> rw [hrun] at htrials
  · exact htrials
  · split <;> exact htrials

end Search

namespace Walk

variable {w : Walk} {books : Books} {g : Twister}

/-! ### The passes of a step -/

/-- The candidates that a search has tried from a state on, also if it failed with the last. -/
def triedAt (w : Walk) (s : WalkState) (inSample : Stretch) : List SearchSpace :=
  (Search.run w.plan.space w.plan.iterations
    (Trial.pass w.strategy w.settings s.pristine inSample.window.ticks) s.generator
    (s.tell (.stage .optimizing)).books).1.candidates.toList

/-- The passes in which a step of a run has tried candidates; there are none if the step does not
come to its search. -/
def tries (w : Walk) (books : Books) (g : Twister) (k : ℕ) : List Assignment :=
  match w.prepared books g k with
  | none => []
  | some (s, inSample) => Search.assignments w.strategy w.settings s.pristine
      inSample.window.ticks (w.triedAt s inSample)

/-- The passes that a step of a run has made: those in which it has tried candidates, and then the
one out of sample, if it came to that. -/
def made (w : Walk) (books : Books) (g : Twister) (k : ℕ) : List PassMade :=
  (match w.prepared books g k with
  | none => []
  | some (s, _) => s.books.makeAll (w.tries books g k)) ++ (w.trade? books g k).toList

/-- The passes that a run has made, in order. -/
def madeAll (w : Walk) (books : Books) (g : Twister) : List PassMade :=
  (List.range w.plan.steps).flatMap fun k => w.made books g (k + 1)

/-- What the passes of a step are made with: the charts and the ticks with which the step comes to
its search, or those with which it comes to its trading. -/
theorem exists_of_mem_made {k : ℕ} {m : PassMade} (h : m ∈ w.made books g k) :
    (∃ s i, w.prepared books g k = some (s, i) ∧ m.assignment.charts = s.pristine ∧
      m.assignment.ticks = i.window.ticks) ∨
    ∃ s charts o, w.followed books g k = some (s, charts, o) ∧ m.assignment.charts = charts ∧
      m.assignment.ticks = o.window.ticks := by
  rcases List.mem_append.mp h with h | h
  · cases hprepared : w.prepared books g k with
    | none => simp [hprepared] at h
    | some a =>
      obtain ⟨s, i⟩ := a
      simp only [hprepared] at h
      have hm := List.mem_map_of_mem (f := PassMade.assignment) h
      rw [Books.map_assignment_makeAll, tries, hprepared] at hm
      exact .inl ⟨s, i, rfl, (Search.of_mem_assignments hm).2⟩
  · obtain ⟨⟨_, found⟩, -, h⟩ := Option.bind_eq_some_iff.mp (Option.mem_toList.mp h)
    obtain ⟨⟨s, charts, o⟩, hfollowed, h⟩ := Option.bind_eq_some_iff.mp h
    obtain ⟨a, ha, rfl⟩ := Option.map_eq_some_iff.mp h
    obtain ⟨strategy, -, rfl⟩ := Option.map_eq_some_iff.mp ha
    exact .inr ⟨s, charts, o, hfollowed, rfl, rfl⟩

/-- The passes of a step are made over ticks. -/
theorem ticks_of_mem_made {k : ℕ} {m : PassMade} (h : m ∈ w.made books g k) :
    m.assignment.ticks ≠ [] := by
  rcases exists_of_mem_made h with ⟨s, i, hprepared, -, hticks⟩ | ⟨s, charts, o, hfollowed, -, hticks⟩
  · obtain ⟨_, _, _, -, -, hprepare⟩ := prepared_eq_some.mp hprepared
    rw [hticks]
    exact ticks_ne_nil_of_stretch? (prepare_eq_ok hprepare).2.2
  · obtain ⟨_, _, _, _, -, -, hfollow⟩ := followed_eq_some.mp hfollowed
    rw [hticks]
    exact ticks_ne_nil_of_stretch? (follow_eq_ok hfollow).2.2

/-- The passes of a step are made with the parameters that it tries and then with those that it
trades. -/
theorem parameters_made (k : ℕ) :
    (w.made books g k).map (·.assignment.parameters) = (w.tries books g k).map (·.parameters) ++
      ((w.trade? books g k).map (·.assignment.parameters)).toList := by
  unfold made
  rw [List.map_append, Option.toList_map]
  congr 1
  cases hprepared : w.prepared books g k with
  | none => simp [tries, hprepared]
  | some a =>
    obtain ⟨s, i⟩ := a
    simp only
    conv_rhs => rw [← s.books.map_assignment_makeAll (w.tries books g k), List.map_map]
    rfl

/-! ### The books behind a step -/

/-- A search of a walk leaves the entries behind the passes of the candidates that it has tried. -/
theorem optimize_entries (k : ℕ) (inSample : Stretch) (s : WalkState) :
    (w.optimize k s.pristine inSample s).1.books.entries =
      (s.books.afterAll (Search.assignments w.strategy w.settings s.pristine inSample.window.ticks
        (w.triedAt s inSample))).entries := by
  have hsearch := Search.run_entries w.plan.space w.strategy w.settings s.pristine inSample.window.ticks
    w.plan.iterations s.generator (s.tell (.stage .optimizing)).books
  have htold := (Books.afterAll_congr (Search.assignments w.strategy w.settings s.pristine
    inSample.window.ticks (w.triedAt s inSample))
    (Books.entries_tell s.books (.stage .optimizing))).2
  refine Eq.trans ?_ (hsearch.trans htold)
  simp only [optimize]
  split <;> rename_i hfound <;> rw [← hfound] <;> rfl

/-- Trading parameters is one pass, failed or not, if a strategy can be made. -/
theorem execute_through (charts : List (Chart Float)) (outOfSample : Stretch) (parameters : Parameters)
    (s : WalkState) :
    s.books.Through (((w.tradeAt? charts outOfSample parameters).map fun a =>
        { assignment := a, outcome := (s.books.perform a).1 : PassMade }).toList)
      (w.execute charts outOfSample parameters s).1.books := by
  unfold execute tradeAt?
  simp only
  split <;> rename_i hstrategy <;> rw [hstrategy]
  · exact (Books.Through.refl s.books).of_entries rfl
  · rename_i strategy
    let a : Assignment :=
      { strategy, settings := w.settings, charts, sample := .outOfSample,
        ticks := outOfSample.window.ticks, parameters }
    have htold := (Books.perform_congr a (Books.entries_tell s.books (.stage .executing))).2
    exact (Books.through_makeAll s.books [a]).of_entries htold

/-- The part of a step behind its search makes a pass if it comes to its trading. -/
theorem trade_through (k : ℕ) (charts : List (Chart Float)) (inSample : Stretch) (found : SearchResult)
    (s : WalkState) :
    s.books.Through (((done? (w.follow k charts inSample s)).bind fun a =>
        (w.tradeAt? a.2.1 a.2.2 found.space.parameters).map fun b =>
          { assignment := b, outcome := (a.1.books.perform b).1 : PassMade }).toList)
      (w.trade k charts inSample found s).1.books := by
  have hfollowed := follow_entries (w := w) k charts inSample s
  unfold trade
  rcases hfollow : w.follow k charts inSample s with ⟨v, f | ⟨charts', o⟩⟩ <;> rw [hfollow] at hfollowed
  · exact (Books.Through.refl s.books).of_entries hfollowed
  · have hexecuted := (execute_through (w := w) charts' o found.space.parameters v).congr hfollowed
    rw [andThen_ok]
    simp only [done?, Option.bind_some]
    rcases hexecute : w.execute charts' o found.space.parameters v with ⟨v', f | _ | x⟩ <;>
      rw [hexecute] at hexecuted <;> exact hexecuted.of_entries rfl

/-- A step of a run makes the passes in which it tries candidates and the one with which it trades.
-/
theorem step_through {n : ℕ} {u : WalkState} (hn : n < w.plan.steps)
    (hu : w.reached books g n = some u) :
    u.books.Through (w.made books g (n + 1)) (w.step (n + 1) u).1.books := by
  have hbefore := prepare_entries (w := w) (n + 1) u
  unfold step
  rcases hprepare : w.prepare (n + 1) u with ⟨s, f | i⟩ <;> rw [hprepare] at hbefore
  · have hprepared : w.prepared books g (n + 1) = none := by simp [prepared, hn, hu, hprepare, done?]
    have hmade : w.made books g (n + 1) = [] := by simp [made, trade?, searched, hprepared]
    rw [hmade]
    exact (Books.Through.refl u.books).of_entries hbefore
  have hprepared : w.prepared books g (n + 1) = some (s, i) :=
    prepared_eq_some.mpr ⟨n, u, rfl, hn, hu, hprepare⟩
  have hmade : w.made books g (n + 1) = s.books.makeAll (w.tries books g (n + 1)) ++
      (w.trade? books g (n + 1)).toList := by
    simp only [made, hprepared]
  have htries : w.tries books g (n + 1) = Search.assignments w.strategy w.settings s.pristine
      i.window.ticks (w.triedAt s i) := by
    rw [tries, hprepared]
  have hsearch : u.books.Through (s.books.makeAll (w.tries books g (n + 1)))
      (w.optimize (n + 1) s.pristine i s).1.books := by
    refine Books.Through.congr ?_ hbefore
    refine (Books.through_makeAll s.books _).of_entries ?_
    rw [htries]
    exact optimize_entries (n + 1) i s
  rw [andThen_ok, hmade]
  simp only
  rcases hoptimize : w.optimize (n + 1) s.pristine i s with ⟨t, f | found⟩ <;> rw [hoptimize] at hsearch
  · have hsearched : w.searched books g (n + 1) = none := by
      simp [searched, hprepared, hoptimize, done?]
    rw [andThen_error, trade?, hsearched]
    simpa using hsearch
  · have hsearched := searched_eq hprepared hoptimize
    rw [andThen_ok]
    cases found with
    | none =>
      rw [trade?, hsearched, Option.map_none, Option.bind_none, Option.toList_none, List.append_nil]
      exact hsearch.of_entries rfl
    | some found =>
      have hfollowed : w.followed books g (n + 1) = done? (w.follow (n + 1) s.pristine i t) := by
        simp [followed, hprepared, hsearched]
      rw [trade?, hsearched, hfollowed, Option.map_some, Option.bind_some]
      exact hsearch.trans (trade_through (n + 1) s.pristine i found t)

/-! ### The books behind a run -/

/-- A run that does not come behind some steps does not come to the search of the next. -/
theorem prepared_eq_none {n : ℕ} (h : w.reached books g n = none) : w.prepared books g (n + 1) = none := by
  rw [prepared, h]
  split <;> rfl

theorem made_eq_nil {n : ℕ} (h : w.reached books g n = none) : w.made books g (n + 1) = [] := by
  simp [made, trade?, searched, prepared_eq_none h]

theorem reached_eq_none {m n : ℕ} (h : w.reached books g m = none) (hle : m ≤ n) :
    w.reached books g n = none := by
  induction n, hle using Nat.le_induction with
  | base => exact h
  | succ n _ ih => rw [reached_succ, ih, Option.bind_none]

/-- The passes that the steps have made to which a run has come. -/
theorem flatMap_made {m n : ℕ} (hle : m ≤ n) (h : w.reached books g m = none) :
    (List.range n).flatMap (fun k => w.made books g (k + 1)) =
      (List.range m).flatMap fun k => w.made books g (k + 1) := by
  induction n, hle using Nat.le_induction with
  | base => rfl
  | succ n hmn ih =>
    rw [List.range_succ, List.flatMap_append, ih, List.flatMap_singleton,
      made_eq_nil (reached_eq_none h hmn), List.append_nil]

/-- The steps that a run has completed have made their passes, one after the other. -/
theorem reached_made {n : ℕ} {u : WalkState} (hn : n ≤ w.plan.steps)
    (hu : w.reached books g n = some u) :
    books.Through ((List.range n).flatMap fun k => w.made books g (k + 1)) u.books := by
  refine reached_rule (I := fun n u => n ≤ w.plan.steps →
    books.Through ((List.range n).flatMap fun k => w.made books g (k + 1)) u.books) ?_ ?_ hu hn
  · intro s halign _
    have haligned := align_entries (w := w) (w.outset books g)
    rw [halign] at haligned
    exact (Books.Through.refl books).of_entries haligned
  · intro n v u r hv hr ih hn
    have hstep := step_through (Nat.lt_of_succ_le hn) hv
    rw [hr] at hstep
    rw [List.range_succ, List.flatMap_append, List.flatMap_singleton]
    exact (ih (Nat.le_of_succ_le hn)).trans hstep

/-- Behind a step that is not completed no pass is made in another step. -/
theorem made_of_last {n : ℕ} {t s : WalkState} {result : Except Fault StepEnd}
    (hn : n < w.plan.steps) (ht : w.reached books g n = some t) (hstep : w.step (n + 1) t = (s, result))
    (hlast : ∀ r, result ≠ .ok (.completed r)) : books.Through (w.madeAll books g) s.books := by
  have hnone : w.reached books g (n + 1) = none := by
    rw [reached_succ, ht, Option.bind_some, Option.eq_none_iff_forall_ne_some]
    intro v hv
    obtain ⟨r, hr⟩ := completed?_eq_some.mp hv
    rw [hstep] at hr
    exact hlast r (Prod.mk.inj hr).2
  have hmade := step_through hn ht
  rw [hstep] at hmade
  rw [madeAll, flatMap_made hn hnone, List.range_succ, List.flatMap_append, List.flatMap_singleton]
  exact (reached_made (Nat.le_of_lt hn) ht).trans hmade

/-- The entries behind a run, whatever its outcome, are those behind the passes that it has made. -/
theorem run_made (w : Walk) (books : Books) (g : Twister) :
    books.Through (w.madeAll books g) (w.run books g).1.books := by
  rcases hrun : w.run books g with ⟨s, f | r⟩
  · rcases run_eq_error hrun with halign | ⟨n, t, hn, ht, hstep⟩
    · have hnone : w.reached books g 0 = none := by simp [reached, halign, done?]
      have haligned := align_entries (w := w) (w.outset books g)
      rw [halign] at haligned
      rw [madeAll, flatMap_made (Nat.zero_le _) hnone]
      exact (Books.Through.refl books).of_entries haligned
    · exact made_of_last hn ht hstep (by simp)
  · obtain ⟨-, hle, t, t', ht, rfl, -, hend⟩ := run_eq_conclude hrun
    refine Books.Through.of_entries ?_ (conclude_entries r t')
    rcases hend with ⟨-, hall, rfl⟩ | ⟨f, -, hlt, hstep⟩
    · rw [madeAll, ← hall]
      exact reached_made hle ht
    · exact made_of_last hlt ht hstep (by simp)

end Walk

end Backtest
