import Backtest.Proofs.SearchPasses
import Backtest.Proofs.Tiling

/-!
# The passes of a walk

A step of a walk makes one pass for each candidate of its search and, unless that finds nothing, one
pass more, out of sample. Whatever else a step does leaves the entries of the books alone, so the
entries behind a run are those behind its passes, step by step.

* `Walk.candidates`, `Walk.trials`, `Walk.trade?`, the candidates and the passes of a step of a run;
  `Walk.passesUpTo`, the passes of its first steps;
* `Walk.optimize_eq_ok`, `Walk.execute_eq_ok`, the parts of a step that make passes;
* `Walk.Tried`, `Walk.Traded`, what a step of a run has made; `Walk.through_passes`, the books behind;
* `WalkResult.ends`, how the steps of a run ended; `Walk.run_through`, the books behind a run.
-/

namespace Backtest

/-! ### Steps -/

namespace Walk

variable {w : Walk} {books : Books} {g : Twister}

/-- The passes with which a step tries the candidates of its search. -/
def trialsAt (w : Walk) (s : WalkState) (inSample : Stretch) : List Assignment :=
  Search.assignments w.strategy w.settings s.pristine inSample.window.ticks
    (Search.candidates w.plan.space w.plan.iterations s.generator)

/-- The pass in which parameters are traded. -/
def tradeAt? (w : Walk) (charts : List (Chart Float)) (outOfSample : Stretch)
    (parameters : Parameters) : Option Assignment :=
  w.strategy.toOption.map fun strategy =>
    { strategy, settings := w.settings, charts, sample := .outOfSample,
      ticks := outOfSample.window.ticks, parameters }

/-- The candidates of the search of a step of a run. -/
def candidates (w : Walk) (books : Books) (g : Twister) (k : ℕ) : List SearchSpace :=
  match w.prepared books g k with
  | none => []
  | some (s, _) => Search.candidates w.plan.space w.plan.iterations s.generator

/-- The passes in sample of a step of a run. -/
def trials (w : Walk) (books : Books) (g : Twister) (k : ℕ) : List PassMade :=
  match w.prepared books g k with
  | none => []
  | some (s, inSample) => s.books.makeAll (w.trialsAt s inSample)

/-- The pass out of sample of a step of a run, if the step comes to it. -/
def trade? (w : Walk) (books : Books) (g : Twister) (k : ℕ) : Option PassMade :=
  (w.searched books g k).bind fun (_, found) =>
    (w.followed books g k).bind fun (s, charts, outOfSample) =>
      (w.tradeAt? charts outOfSample found.space.parameters).map fun a =>
        { assignment := a, outcome := (s.books.perform a).1 }

/-- The passes of a step of a run. -/
def passes (w : Walk) (books : Books) (g : Twister) (k : ℕ) : List PassMade :=
  w.trials books g k ++ (w.trade? books g k).toList

/-- The passes of the first steps of a run. -/
def passesUpTo (w : Walk) (books : Books) (g : Twister) (n : ℕ) : List PassMade :=
  (List.range n).flatMap fun k => w.passes books g (k + 1)

/-! ### What the parts of a step leave in the books -/

@[simp] theorem gather_entries (sample : Sample) (k : ℕ) (start : ℤ) (days : ℕ) (s : WalkState) :
    (w.gather sample k start days s).1.books.entries = s.books.entries := by
  unfold gather
  split
  · rfl
  · split <;> rfl

@[simp] theorem approach_entries (k : ℕ) (s : WalkState) :
    (w.approach k s).1.books.entries = s.books.entries := by
  unfold approach
  simp only
  split
  · rfl
  · split <;> rfl

@[simp] theorem align_entries (s : WalkState) :
    (w.align s).1.books.entries = s.books.entries := by
  unfold align
  refine (andThen_kept (·.books.entries) fun s _ => ?_).trans rfl
  exact (andThen_kept (·.books.entries) fun _ _ => rfl).trans rfl

theorem prepare_entries (k : ℕ) (s : WalkState) :
    (w.prepare k s).1.books.entries = s.books.entries := by
  unfold prepare
  refine (andThen_kept (·.books.entries) fun s _ => ?_).trans (approach_entries k s)
  exact gather_entries _ _ _ _ _

theorem follow_entries (k : ℕ) (charts : List (Chart Float)) (inSample : Stretch) (s : WalkState) :
    (w.follow k charts inSample s).1.books.entries = s.books.entries := by
  unfold follow
  refine (andThen_kept (·.books.entries) fun s _ => ?_).trans rfl
  exact (andThen_kept (·.books.entries) fun _ _ => rfl).trans (gather_entries _ _ _ _ _)

/-- A search of a walk makes a pass for each candidate and finds the best of them. -/
theorem optimize_eq_ok {k : ℕ} {s s' : WalkState} {inSample : Stretch}
    {found : Option SearchResult} (h : w.optimize k s.pristine inSample s = (s', .ok found)) :
    let cs := Search.candidates w.plan.space w.plan.iterations s.generator
    let ms := s.books.makeAll (w.trialsAt s inSample)
    s.books.Through ms s'.books ∧ (∀ m ∈ ms, m.outcome.Completed) ∧
      ms.map (·.assignment.parameters) = cs.map (·.parameters) ∧
      found = (Best.start.among cs (ms.map (·.outcome.worth))).result? w.plan.iterations := by
  simp only [optimize] at h
  rcases hrun : Search.run w.plan.space w.plan.iterations
      (Trial.pass w.strategy w.settings s.pristine inSample.window.ticks)
      (s.tell (.stage .optimizing)).generator (s.tell (.stage .optimizing)).books with ⟨u, f | answer⟩
  · simp [hrun] at h
  · have hpasses := Search.run_passes hrun
    have htell := Books.makeAll_congr (Books.entries_tell s.books (.stage .optimizing))
      (w.trialsAt s inSample)
    have hanswer : found = answer ∧ s'.books = u.books := by
      rw [hrun] at h
      cases answer <;> simp only [Prod.mk.injEq, Except.ok.injEq] at h <;> obtain ⟨rfl, rfl⟩ := h <;>
        exact ⟨rfl, rfl⟩
    obtain ⟨rfl, hbooks⟩ := hanswer
    rw [hbooks]
    simp only [trialsAt] at htell ⊢
    rw [← htell]
    exact ⟨hpasses.1.congr rfl, hpasses.2⟩

/-- Trading parameters is one pass. -/
theorem execute_eq_ok {charts : List (Chart Float)} {outOfSample : Stretch}
    {parameters : Parameters} {s s' : WalkState} {score : Option Float}
    (h : w.execute charts outOfSample parameters s = (s', .ok score)) :
    ∃ a, w.tradeAt? charts outOfSample parameters = some a ∧ (s.books.perform a).1.Completed ∧
      s.books.Through [⟨a, (s.books.perform a).1⟩] s'.books ∧
      score = (s.books.perform a).1.worth := by
  simp only [execute] at h
  split at h
  · simp at h
  · rename_i strategy hstrategy
    let a : Assignment :=
      { strategy, settings := w.settings, charts, sample := .outOfSample,
        ticks := outOfSample.window.ticks, parameters }
    obtain ⟨hfst, hsnd⟩ := Books.perform_congr a (Books.entries_tell s.books (.stage .executing))
    have hresult : (s.books.perform a).1.result.map Books.worth = .ok score := by
      rw [← hfst]
      exact (Prod.mk.inj h).2
    have hbooks : s'.books.entries = (s.books.perform a).2.entries := by
      rw [← hsnd, ← (Prod.mk.inj h).1]
      rfl
    refine ⟨a, by rw [tradeAt?, hstrategy]; rfl, ?_⟩
    cases hv : (s.books.perform a).1.result with
    | error f => simp [hv, Except.map] at hresult
    | ok v =>
      rw [hv] at hresult
      exact ⟨⟨v, hv⟩, (Books.through_makeAll s.books [a]).of_entries hbooks,
        by rw [PassOutcome.worth, hv]; exact (Except.ok.inj hresult).symm⟩

/-! ### Steps of a run -/

/-- What the search of a step of a run has made: a pass in sample for each candidate, and of the
candidates the best. -/
structure Tried (w : Walk) (books : Books) (g : Twister) (k : ℕ) : Prop where
  completed : ∀ m ∈ w.trials books g k, m.outcome.Completed
  ticks : ∀ m ∈ w.trials books g k, m.assignment.ticks ≠ []
  inSample : ∀ m ∈ w.trials books g k, m.assignment.sample = .inSample
  candidates : (w.candidates books g k).length = w.plan.iterations
  parameters : (w.trials books g k).map (·.assignment.parameters) =
    (w.candidates books g k).map (·.parameters)
  found : (w.searched books g k).map (·.2) =
    (Best.start.among (w.candidates books g k)
      ((w.trials books g k).map (·.outcome.worth))).result? w.plan.iterations

/-- What a step of a run that ends has made out of sample: a pass with the parameters that were found,
if some were. -/
structure Traded (w : Walk) (books : Books) (g : Twister) (k : ℕ) (e : StepEnd) : Prop where
  completed : ∀ m ∈ w.trade? books g k, m.outcome.Completed
  ticks : ∀ m ∈ w.trade? books g k, m.assignment.ticks ≠ []
  outOfSample : ∀ m ∈ w.trade? books g k, m.assignment.sample = .outOfSample
  parameters : (w.trade? books g k).map (·.assignment.parameters) =
    (w.searched books g k).map (·.2.space.parameters)
  ending : e = .failed .optimization ↔ w.trade? books g k = none
  result : ∀ r, e = .completed r → r.step = k ∧
    ∃ found, (w.searched books g k).map (·.2) = some found ∧
      r.parameters = found.space.parameters ∧ r.inSampleScore = found.score

theorem Tried.length {k : ℕ} (h : w.Tried books g k) :
    (w.trials books g k).length = w.plan.iterations := by
  rw [← h.candidates, ← List.length_map (·.assignment.parameters), h.parameters, List.length_map]

theorem searched_eq {k : ℕ} {s s' : WalkState} {inSample : Stretch} {found : Option SearchResult}
    (hprepared : w.prepared books g k = some (s, inSample))
    (h : w.optimize k s.pristine inSample s = (s', .ok found)) :
    w.searched books g k = found.map fun r => (s', r) := by
  simp [searched, hprepared, h, done?]

/-- The passes in sample of a step lead from its books before the search to those behind. -/
theorem through_trials {k : ℕ} {s s' : WalkState} {inSample : Stretch}
    {found : Option SearchResult} (hprepared : w.prepared books g k = some (s, inSample))
    (h : w.optimize k s.pristine inSample s = (s', .ok found)) :
    s.books.Through (w.trials books g k) s'.books ∧ w.Tried books g k := by
  obtain ⟨hthrough, hcompleted, hparameters, hfound⟩ := optimize_eq_ok h
  have htrials : w.trials books g k = s.books.makeAll (w.trialsAt s inSample) := by
    rw [trials, hprepared]
  have hcandidates : w.candidates books g k =
      Search.candidates w.plan.space w.plan.iterations s.generator := by
    rw [candidates, hprepared]
  have hmem (m : PassMade) (hm : m ∈ w.trials books g k) :
      m.assignment ∈ w.trialsAt s inSample := by
    rw [← s.books.map_assignment_makeAll (w.trialsAt s inSample), ← htrials]
    exact List.mem_map_of_mem hm
  obtain ⟨_, _, _, -, hprepare⟩ := prepared_eq_some.mp hprepared
  rw [← htrials] at hthrough hcompleted hparameters hfound
  rw [← hcandidates] at hparameters hfound
  refine ⟨hthrough, hcompleted, ?_, fun m hm => (Search.of_mem_assignments (hmem m hm)).1, ?_,
    hparameters, ?_⟩
  · intro m hm
    rw [(Search.of_mem_assignments (hmem m hm)).2.2]
    exact ticks_ne_nil_of_stretch? (prepare_eq_ok hprepare.2).2.2
  · rw [hcandidates, Search.length_candidates]
  · rw [searched_eq hprepared h, ← hfound, Option.map_map]
    exact Option.map_id'

/-- The pass out of sample of a step leads from its books before the trading to those behind. -/
theorem through_trade {k : ℕ} {s s' : WalkState} {charts : List (Chart Float)}
    {outOfSample : Stretch} {t : WalkState} {found : SearchResult} {score : Option Float}
    (hsearched : w.searched books g k = some (t, found))
    (hfollowed : w.followed books g k = some (s, charts, outOfSample))
    (h : w.execute charts outOfSample found.space.parameters s = (s', .ok score)) :
    ∃ m, w.trade? books g k = some m ∧ s.books.Through [m] s'.books ∧ m.outcome.Completed ∧
      m.assignment.ticks ≠ [] ∧ m.assignment.sample = .outOfSample ∧
      m.assignment.parameters = found.space.parameters := by
  obtain ⟨a, ha, hcompleted, hthrough, -⟩ := execute_eq_ok h
  obtain ⟨_, _, _, _, -, -, hfollow⟩ := followed_eq_some.mp hfollowed
  refine ⟨_, ?_, hthrough, hcompleted, ?_⟩
  · simp [trade?, hsearched, hfollowed, ha]
  · obtain ⟨strategy, -, rfl⟩ := Option.map_eq_some_iff.mp ha
    exact ⟨ticks_ne_nil_of_stretch? (follow_eq_ok hfollow).2.2, rfl, rfl⟩

/-- The passes of a step of a run lead from its books before to those behind. -/
theorem through_passes {n : ℕ} {u u' : WalkState} {e : StepEnd} (hn : n < w.plan.steps)
    (hu : w.reached books g n = some u) (h : w.step (n + 1) u = (u', .ok e)) :
    u.books.Through (w.passes books g (n + 1)) u'.books ∧ w.Tried books g (n + 1) ∧
      w.Traded books g (n + 1) e := by
  obtain ⟨s₁, i, s₂, found, hprepare, hoptimize, hend⟩ := step_eq_ok h
  have hprepared : w.prepared books g (n + 1) = some (s₁, i) :=
    prepared_eq_some.mpr ⟨n, u, rfl, hn, hu, hprepare⟩
  have hbefore : u.books.Through [] s₁.books := by
    refine (Books.Through.refl u.books).of_entries ?_
    rw [← prepare_entries (w := w) (n + 1) u, hprepare]
  have hsearched := searched_eq hprepared hoptimize
  obtain ⟨htrials, htried⟩ := through_trials hprepared hoptimize
  have hsearch := hbefore.trans htrials
  rw [List.nil_append] at hsearch
  rcases hend with ⟨rfl, rfl, rfl⟩ | ⟨r, s₃, charts, o, s₄, score, rfl, hfollow, hexecute, hend⟩
  · have htrade : w.trade? books g (n + 1) = none := by rw [trade?, hsearched]; rfl
    refine ⟨?_, htried, ?_⟩
    · rw [passes, htrade, Option.toList_none, List.append_nil]
      exact hsearch.of_entries rfl
    · constructor <;> simp [htrade, hsearched]
  · have hfollowed : w.followed books g (n + 1) = some (s₃, charts, o) :=
      followed_eq_some.mpr ⟨s₁, i, s₂, r, hprepared, hoptimize, hfollow⟩
    obtain ⟨m, htrade, hm, hcompleted, hticks, hsample, hparameters⟩ :=
      through_trade hsearched hfollowed hexecute
    have hmiddle : s₂.books.Through [] s₃.books := by
      refine (Books.Through.refl s₂.books).of_entries ?_
      rw [← follow_entries (w := w) (n + 1) s₁.pristine i s₂, hfollow]
    have hstep := hsearch.trans (hmiddle.trans hm)
    refine ⟨?_, htried, ?_⟩
    · rw [passes, htrade]
      rcases hend with ⟨-, -, rfl⟩ | ⟨x, -, -, rfl⟩ <;> exact hstep.of_entries rfl
    · refine ⟨by simpa [htrade] using hcompleted, by simpa [htrade] using hticks,
        by simpa [htrade] using hsample, by simp [htrade, hsearched, hparameters], ?_, fun q hq => ?_⟩
      · rcases hend with ⟨-, rfl, -⟩ | ⟨x, -, rfl, -⟩ <;> simp [htrade]
      · rcases hend with ⟨-, rfl, -⟩ | ⟨x, -, rfl, -⟩
        · simp at hq
        · obtain rfl := StepEnd.completed.inj hq
          exact ⟨rfl, r, by rw [hsearched]; rfl, rfl, rfl⟩

/-! ### Runs -/

@[simp] theorem passesUpTo_zero : w.passesUpTo books g 0 = [] := rfl

theorem passesUpTo_succ (n : ℕ) :
    w.passesUpTo books g (n + 1) = w.passesUpTo books g n ++ w.passes books g (n + 1) := by
  simp [passesUpTo, List.range_succ]

/-- The passes of the steps that a run has completed lead to its books. -/
theorem through_reached {n : ℕ} {u : WalkState} (hn : n ≤ w.plan.steps)
    (hu : w.reached books g n = some u) : books.Through (w.passesUpTo books g n) u.books := by
  induction n generalizing u with
  | zero =>
    obtain ⟨⟨s, x⟩, halign, hs⟩ := Option.bind_eq_some_iff.mp hu
    obtain rfl := Option.some.inj hs
    refine (Books.Through.refl books).of_entries ?_
    have := align_entries (w := w) (w.outset books g)
    rw [done?_eq_some.mp halign] at this
    exact this
  | succ n ih =>
    rw [reached_succ] at hu
    obtain ⟨v, hv, hstep⟩ := Option.bind_eq_some_iff.mp hu
    obtain ⟨r, hr⟩ := completed?_eq_some.mp hstep
    rw [passesUpTo_succ]
    exact (ih (by omega) hv).trans (through_passes (by omega) hv hr).1

/-- What is told of a result is no entry. -/
@[simp] theorem conclude_entries (r : WalkResult) (s : WalkState) :
    (conclude r s).books.entries = s.books.entries := by
  have hfold (ns : List Notice) (s : WalkState) :
      (ns.foldl WalkState.tell s).books.entries = s.books.entries := by
    induction ns generalizing s with
    | nil => rfl
    | cons n ns ih => exact ih (s.tell n)
  exact hfold _ s

end Walk

/-- How the steps ended that a walk has begun, in order. -/
def WalkResult.ends (r : WalkResult) : List StepEnd :=
  r.steps.map .completed ++ (r.failed.map fun f => .failed f.2).toList

theorem WalkResult.length_ends (r : WalkResult) :
    r.ends.length = r.steps.length + r.failed.toList.length := by
  cases h : r.failed <;> simp [ends, h]

/-- A step that a walk has begun was completed, or it is the one behind those that failed. -/
theorem WalkResult.getElem?_ends {r : WalkResult} {k : ℕ} {e : StepEnd} :
    r.ends[k]? = some e ↔ (∃ x, r.steps[k]? = some x ∧ e = .completed x) ∨
      k = r.steps.length ∧ ∃ f, r.failed.map (·.2) = some f ∧ e = .failed f := by
  rcases Nat.lt_or_ge k r.steps.length with hk | hk
  · rw [ends, List.getElem?_append_left (by simpa using hk), List.getElem?_map]
    simp [Nat.ne_of_lt hk, eq_comm (b := e)]
  · rw [ends, List.getElem?_append_right (by simpa using hk), List.length_map,
      List.getElem?_eq_none hk]
    cases hfailed : r.failed with
    | none => simp
    | some f =>
      rw [Option.map_some, Option.toList_some, List.getElem?_singleton]
      split
      · simp [show k = r.steps.length by omega, eq_comm]
      · simp [show k ≠ r.steps.length by omega]

namespace Walk

variable {w : Walk} {books : Books} {g : Twister}

/-- The passes of the steps that a run has begun lead to its books. -/
theorem run_through {s : WalkState} {r : WalkResult} (h : w.run books g = (s, .ok r)) :
    books.Through (w.passesUpTo books g r.ends.length) s.books ∧
      ∀ k e, r.ends[k]? = some e → w.Tried books g (k + 1) ∧ w.Traded books g (k + 1) e := by
  obtain ⟨hall, hle, t, t', ht, rfl, -, hend⟩ := run_eq_conclude h
  have hcompleted (k : ℕ) (x : StepResult) (hx : r.steps[k]? = some x) :
      w.Tried books g (k + 1) ∧ w.Traded books g (k + 1) (.completed x) := by
    obtain ⟨u, u', hu, hstep⟩ := hall k x hx
    have hk : k < r.steps.length := (List.getElem?_eq_some_iff.mp hx).1
    exact (through_passes (by omega) hu hstep).2
  have hreached := through_reached hle ht
  rw [WalkResult.length_ends]
  rcases hend with ⟨hfailed, -, rfl⟩ | ⟨f, hfailed, hlt, hstep⟩
  · rw [hfailed]
    refine ⟨hreached.of_entries (by simp), fun k e he => ?_⟩
    rcases WalkResult.getElem?_ends.mp he with ⟨x, hx, rfl⟩ | ⟨-, f, hf, -⟩
    · exact hcompleted k x hx
    · simp [hfailed] at hf
  · obtain ⟨hpasses, hmade⟩ := through_passes hlt ht hstep
    rw [hfailed, Option.toList_some, List.length_singleton, passesUpTo_succ]
    refine ⟨(hreached.trans hpasses).of_entries (by simp), fun k e he => ?_⟩
    rcases WalkResult.getElem?_ends.mp he with ⟨x, hx, rfl⟩ | ⟨rfl, f', hf', rfl⟩
    · exact hcompleted k x hx
    · rw [hfailed] at hf'
      obtain rfl := Option.some.inj hf'
      exact hmade

end Walk

end Backtest
