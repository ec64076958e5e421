import Backtest.Proofs.Accepted
import Backtest.Walk

/-!
# The course of a walk

A run fills its charts, moves on to a Sunday and takes its steps. What a step works with is named here
by the number of the step: the state and the window with which it comes to its search, and the charts
and the window with which it comes to its trading.

* `andThen_eq_ok`, one attempt after another; `done?`, what an attempt gives;
* `Walk.reached`, the state after so many completed steps; `Walk.prepared`, `Walk.searched`,
  `Walk.followed`, how far a step has come;
* `Walk.inSample?`, `Walk.outOfSample?`, `Walk.searchCharts?`, `Walk.tradeCharts?`, what it works with;
* `Walk.step_eq_ok`, all that a step can do; `Walk.step_eq_completed`, all that a completed one does;
* `Walk.steps_eq_ok`, `Walk.run_eq_conclude`, `Walk.run_eq_ok`, the steps of a run that gives a result;
  `Walk.run_eq_error`, those of a run that meets a fault;
* `WalkState.place`, the cursor and the charts of a state, which only the start of a step changes;
* `Walk.buying`, a walk over daily ticks.
-/

namespace Backtest

/-! ### Attempts -/

theorem andThen_eq_ok {σ β γ : Type} {a : σ × Except Fault β} {next : σ → β → σ × Except Fault γ}
    {s' : σ} {y : γ} :
    andThen a next = (s', .ok y) ↔ ∃ s x, a = (s, .ok x) ∧ next s x = (s', .ok y) := by
  obtain ⟨s, f | x⟩ := a
  · simp
  · constructor
    · intro h
      exact ⟨s, x, rfl, h⟩
    · rintro ⟨s₁, x₁, h, hnext⟩
      obtain ⟨rfl, hx⟩ := Prod.mk.inj h
      obtain rfl := Except.ok.inj hx
      exact hnext

/-- What an attempt gives that succeeds. -/
def done? {σ β : Type} : σ × Except Fault β → Option (σ × β)
  | (s, .ok x) => some (s, x)
  | (_, .error _) => none

@[simp] theorem done?_eq_some {σ β : Type} {a : σ × Except Fault β} {s : σ} {x : β} :
    done? a = some (s, x) ↔ a = (s, .ok x) := by
  obtain ⟨s', f | x'⟩ := a <;> simp [done?]

namespace Walk

variable {w : Walk} {books : Books} {g : Twister}

/-! ### Steps by number -/

/-- The state after a step that is completed. -/
def completed? (w : Walk) (k : ℕ) (s : WalkState) : Option WalkState :=
  match w.step k s with
  | (s', .ok (.completed _)) => some s'
  | _ => none

/-- The state after so many steps from a number on, if all of them are completed. -/
def after (w : Walk) (first : ℕ) (s : WalkState) : ℕ → Option WalkState
  | 0 => some s
  | n + 1 => (w.after first s n).bind (w.completed? (first + n))

/-- The state of a run after its first `n` steps, if it completes them. -/
def reached (w : Walk) (books : Books) (g : Twister) (n : ℕ) : Option WalkState :=
  (done? (w.align (w.outset books g))).bind fun a => w.after 1 a.1 n

/-- The state and the window in sample with which a step of a run comes to its search. -/
def prepared (w : Walk) (books : Books) (g : Twister) : ℕ → Option (WalkState × Stretch)
  | 0 => none
  | n + 1 =>
    if n < w.plan.steps then
      (w.reached books g n).bind fun s => done? (w.prepare (n + 1) s)
    else none

/-- The state of a step of a run behind its search, and what that found. -/
def searched (w : Walk) (books : Books) (g : Twister) (k : ℕ) :
    Option (WalkState × SearchResult) :=
  (w.prepared books g k).bind fun (s, inSample) =>
    (done? (w.optimize k s.pristine inSample s)).bind fun (s, found) => found.map fun r => (s, r)

/-- The state, the charts and the window out of sample with which a step of a run comes to its
trading. -/
def followed (w : Walk) (books : Books) (g : Twister) (k : ℕ) :
    Option (WalkState × List (Chart Float) × Stretch) :=
  (w.prepared books g k).bind fun (s, inSample) =>
    (w.searched books g k).bind fun (s', _) => done? (w.follow k s.pristine inSample s')

/-- The window in sample of a step of a run. -/
def inSample? (w : Walk) (books : Books) (g : Twister) (k : ℕ) : Option Window :=
  (w.prepared books g k).map (·.2.window)

/-- The window out of sample of a step of a run. -/
def outOfSample? (w : Walk) (books : Books) (g : Twister) (k : ℕ) : Option Window :=
  (w.followed books g k).map (·.2.2.window)

/-- The charts that the search of a step of a run is given. -/
def searchCharts? (w : Walk) (books : Books) (g : Twister) (k : ℕ) : Option (List (Chart Float)) :=
  (w.prepared books g k).map (·.1.pristine)

/-- The charts that the trading of a step of a run is given. -/
def tradeCharts? (w : Walk) (books : Books) (g : Twister) (k : ℕ) : Option (List (Chart Float)) :=
  (w.followed books g k).map (·.2.1)

/-! ### What a step does -/

theorem completed?_eq_some {k : ℕ} {s s' : WalkState} :
    w.completed? k s = some s' ↔ ∃ r, w.step k s = (s', .ok (.completed r)) := by
  unfold completed?
  match w.step k s with
  | (t, .error f) => simp
  | (t, .ok (.failed f)) => simp
  | (t, .ok (.completed r)) => simp

/-- All that a step can do that does not end the run with a fault. -/
theorem step_eq_ok {k : ℕ} {s s' : WalkState} {e : StepEnd} (h : w.step k s = (s', .ok e)) :
    ∃ s₁ inSample s₂ found, w.prepare k s = (s₁, .ok inSample) ∧
      w.optimize k s₁.pristine inSample s₁ = (s₂, .ok found) ∧
      ((found = none ∧ e = .failed .optimization ∧ s' = s₂.fail k .optimization) ∨
        ∃ r s₃ charts outOfSample s₄ score, found = some r ∧
          w.follow k s₁.pristine inSample s₂ = (s₃, .ok (charts, outOfSample)) ∧
          w.execute charts outOfSample r.space.parameters s₃ = (s₄, .ok score) ∧
          ((score = none ∧ e = .failed .execution ∧ s' = s₄.fail k .execution) ∨
            ∃ x, score = some x ∧ e = .completed (resultOf k inSample outOfSample r x) ∧
              s' = s₄.note (.executed k x r.space.parameters))) := by
  obtain ⟨s₁, inSample, hprepare, h⟩ := andThen_eq_ok.mp h
  obtain ⟨s₂, found, hoptimize, h⟩ := andThen_eq_ok.mp h
  refine ⟨s₁, inSample, s₂, found, hprepare, hoptimize, ?_⟩
  cases found with
  | none =>
    simp only [Prod.mk.injEq, Except.ok.injEq] at h
    exact .inl ⟨rfl, h.2.symm, h.1.symm⟩
  | some r =>
    obtain ⟨s₃, ⟨charts, outOfSample⟩, hfollow, h⟩ := andThen_eq_ok.mp h
    obtain ⟨s₄, score, hexecute, h⟩ := andThen_eq_ok.mp h
    refine .inr ⟨r, s₃, charts, outOfSample, s₄, score, rfl, hfollow, hexecute, ?_⟩
    cases score with
    | none =>
      simp only [Prod.mk.injEq, Except.ok.injEq] at h
      exact .inl ⟨rfl, h.2.symm, h.1.symm⟩
    | some x =>
      simp only [Prod.mk.injEq, Except.ok.injEq] at h
      exact .inr ⟨x, rfl, h.2.symm, h.1.symm⟩

/-- A completed step has gathered its window in sample, found parameters, gathered its window out of
sample and traded there. -/
theorem step_eq_completed {k : ℕ} {s s' : WalkState} {r : StepResult}
    (h : w.step k s = (s', .ok (.completed r))) :
    ∃ s₁ inSample s₂ found s₃ charts outOfSample s₄ score,
      w.prepare k s = (s₁, .ok inSample) ∧
      w.optimize k s₁.pristine inSample s₁ = (s₂, .ok (some found)) ∧
      w.follow k s₁.pristine inSample s₂ = (s₃, .ok (charts, outOfSample)) ∧
      w.execute charts outOfSample found.space.parameters s₃ = (s₄, .ok (some score)) ∧
      r = resultOf k inSample outOfSample found score ∧
      s' = s₄.note (.executed k score found.space.parameters) := by
  obtain ⟨s₁, inSample, s₂, _, hprepare, hoptimize, ⟨-, hend, -⟩ | hfound⟩ := step_eq_ok h
  · simp at hend
  · obtain ⟨found, s₃, charts, outOfSample, s₄, _, rfl, hfollow, hexecute, hend⟩ := hfound
    rcases hend with ⟨-, hend, -⟩ | ⟨score, rfl, hend, hs'⟩
    · simp at hend
    · exact ⟨s₁, inSample, s₂, found, s₃, charts, outOfSample, s₄, score, hprepare, hoptimize,
        hfollow, hexecute, StepEnd.completed.inj hend, hs'⟩

/-- A step whose parts all succeed is completed. -/
theorem step_of_parts {k : ℕ} {s s₁ s₂ s₃ s₄ : WalkState} {inSample outOfSample : Stretch}
    {found : SearchResult} {charts : List (Chart Float)} {score : Float}
    (hprepare : w.prepare k s = (s₁, .ok inSample))
    (hsearch : w.optimize k s₁.pristine inSample s₁ = (s₂, .ok (some found)))
    (hfollow : w.follow k s₁.pristine inSample s₂ = (s₃, .ok (charts, outOfSample)))
    (hexecute : w.execute charts outOfSample found.space.parameters s₃ = (s₄, .ok (some score))) :
    w.step k s = (s₄.note (.executed k score found.space.parameters),
      .ok (.completed (resultOf k inSample outOfSample found score))) := by
  refine andThen_eq_ok.mpr ⟨s₁, inSample, hprepare, ?_⟩
  refine andThen_eq_ok.mpr ⟨s₂, some found, hsearch, ?_⟩
  refine andThen_eq_ok.mpr ⟨s₃, (charts, outOfSample), hfollow, ?_⟩
  exact andThen_eq_ok.mpr ⟨s₄, some score, hexecute, rfl⟩

/-! ### Steps of a run -/

theorem after_succ_of_completed {k n : ℕ} {s s' : WalkState} (h : w.completed? k s = some s') :
    w.after k s (n + 1) = w.after (k + 1) s' n := by
  induction n with
  | zero => simpa [after] using h
  | succ n ih =>
    rw [after, ih, after, Nat.add_right_comm, Nat.add_assoc]

/-- The steps of an attempt that gives results are completed one after the other, up to the last or to
one that fails. -/
theorem steps_eq_ok {left number : ℕ} {s s' : WalkState} {rs : List StepResult}
    {failed : Option (ℕ × Failure)} (h : w.steps left number s = (s', .ok (rs, failed))) :
    (∀ j r, rs[j]? = some r → ∃ u u', w.after number s j = some u ∧
      w.step (number + j) u = (u', .ok (.completed r))) ∧
    rs.length ≤ left ∧
    ∃ t, w.after number s rs.length = some t ∧
      ((failed = none ∧ rs.length = left ∧ s' = t) ∨
        ∃ f, failed = some (number + rs.length, f) ∧ rs.length < left ∧
          w.step (number + rs.length) t = (s', .ok (.failed f))) := by
  -- along the steps that are left: those behind the first are steps from the state it leaves
  induction left generalizing number s rs with
  | zero =>
    simp only [steps, Prod.mk.injEq, Except.ok.injEq] at h
    obtain ⟨rfl, rfl, rfl⟩ := h
    exact ⟨by simp, Nat.le_refl 0, s, rfl, .inl ⟨rfl, rfl, rfl⟩⟩
  | succ left ih =>
    obtain ⟨u, stepEnd, hstep, h⟩ := andThen_eq_ok.mp h
    cases stepEnd with
    | failed f =>
      simp only [Prod.mk.injEq, Except.ok.injEq] at h
      obtain ⟨rfl, rfl, rfl⟩ := h
      exact ⟨by simp, by simp, s, rfl, .inr ⟨f, rfl, by simp, hstep⟩⟩
    | completed r =>
      obtain ⟨v, ⟨rest, failed'⟩, hrest, h⟩ := andThen_eq_ok.mp h
      simp only [Prod.mk.injEq, Except.ok.injEq] at h
      obtain ⟨rfl, rfl, rfl⟩ := h
      obtain ⟨hall, hle, t, ht, hend⟩ := ih hrest
      have hcons (n : ℕ) : w.after number s (n + 1) = w.after (number + 1) u n :=
        after_succ_of_completed (completed?_eq_some.mpr ⟨r, hstep⟩)
      refine ⟨?_, by simpa using hle, t, ?_, ?_⟩
      · intro j q hq
        cases j with
        | zero =>
          obtain rfl := Option.some.inj hq
          exact ⟨s, u, rfl, hstep⟩
        | succ j =>
          obtain ⟨a, b, ha, hb⟩ := hall j q hq
          refine ⟨a, b, by rw [hcons, ha], ?_⟩
          rw [← Nat.add_assoc, Nat.add_right_comm]
          exact hb
      · rw [List.length_cons, hcons, ht]
      · rw [List.length_cons, ← Nat.add_assoc, Nat.add_right_comm]
        rcases hend with ⟨rfl, hlen, rfl⟩ | ⟨f, rfl, hlt, hf⟩
        · exact .inl ⟨rfl, by rw [hlen], rfl⟩
        · exact .inr ⟨f, rfl, by omega, hf⟩

/-- Steps that meet a fault have completed those before the one that meets it. -/
theorem exists_of_steps_error {left number : ℕ} {s s' : WalkState} {f : Fault}
    (h : w.steps left number s = (s', .error f)) :
    ∃ n t, n < left ∧ w.after number s n = some t ∧ w.step (number + n) t = (s', .error f) := by
  induction left generalizing number s with
  | zero => simp [steps] at h
  | succ left ih =>
    rw [steps] at h
    rcases hstep : w.step number s with ⟨u, f' | stepEnd⟩ <;> rw [hstep] at h
    · obtain ⟨rfl, hf⟩ := Prod.mk.inj h
      obtain rfl := Except.error.inj hf
      exact ⟨0, s, Nat.succ_pos left, rfl, hstep⟩
    · rw [andThen_ok] at h
      cases stepEnd with
      | failed failure => simp at h
      | completed r =>
        rcases hrest : w.steps left (number + 1) u with ⟨v, f' | rest⟩ <;>
          simp only [hrest, andThen_error, andThen_ok, Prod.mk.injEq, Except.error.injEq,
            reduceCtorEq, and_false] at h
        obtain ⟨rfl, rfl⟩ := h
        obtain ⟨n, t, hn, ht, hfault⟩ := ih hrest
        refine ⟨n + 1, t, Nat.succ_lt_succ hn, ?_, ?_⟩
        · rw [after_succ_of_completed (completed?_eq_some.mpr ⟨r, hstep⟩), ht]
        · rw [← Nat.add_assoc, Nat.add_right_comm]
          exact hfault

theorem reached_succ (w : Walk) (books : Books) (g : Twister) (n : ℕ) :
    w.reached books g (n + 1) = (w.reached books g n).bind (w.completed? (n + 1)) := by
  unfold reached
  cases done? (w.align (w.outset books g)) with
  | none => rfl
  | some a => rw [Option.bind_some, Option.bind_some, after, Nat.add_comm 1 n]

/-- What holds behind the alignment, and is kept by every step of a run that is completed, holds behind the
steps that a run has completed. -/
theorem reached_rule {I : ℕ → WalkState → Prop}
    (hstart : ∀ s, w.align (w.outset books g) = (s, .ok ()) → I 0 s)
    (hstep : ∀ n u u' r, w.reached books g n = some u → w.step (n + 1) u = (u', .ok (.completed r)) →
      I n u → I (n + 1) u')
    {n : ℕ} {u : WalkState} (hu : w.reached books g n = some u) : I n u := by
  induction n generalizing u with
  | zero =>
    obtain ⟨⟨s, x⟩, halign, hs⟩ := Option.bind_eq_some_iff.mp hu
    obtain rfl := Option.some.inj hs
    exact hstart s (done?_eq_some.mp halign)
  | succ n ih =>
    rw [reached_succ] at hu
    obtain ⟨v, hv, hcompleted⟩ := Option.bind_eq_some_iff.mp hu
    obtain ⟨r, hr⟩ := completed?_eq_some.mp hcompleted
    exact hstep n v u r hv hr (ih hv)

/-- A run that has come behind a step has completed it. -/
theorem exists_completed_of_reached {j n : ℕ} {s : WalkState} (hj : j < n)
    (h : w.reached books g n = some s) :
    ∃ u u' r, w.reached books g j = some u ∧ w.step (j + 1) u = (u', .ok (.completed r)) := by
  induction n generalizing s with
  | zero => omega
  | succ n ih =>
    rw [reached_succ] at h
    obtain ⟨u, hu, hstep⟩ := Option.bind_eq_some_iff.mp h
    rcases Nat.lt_succ_iff_lt_or_eq.mp hj with hlt | rfl
    · exact ih hlt hu
    · obtain ⟨r, hr⟩ := completed?_eq_some.mp hstep
      exact ⟨u, s, r, hu, hr⟩

/-- A run that gives a result has aligned its charts, completed the steps of the result and then
taken no further step or failed at one; the result is told at the end. -/
theorem run_eq_conclude {s' : WalkState} {r : WalkResult} (h : w.run books g = (s', .ok r)) :
    (∀ j x, r.steps[j]? = some x → ∃ u u', w.reached books g j = some u ∧
      w.step (j + 1) u = (u', .ok (.completed x))) ∧
    r.steps.length ≤ w.plan.steps ∧
    ∃ t t', w.reached books g r.steps.length = some t ∧ s' = conclude r t' ∧
      r.chartTicks = t'.pristine.map (·.ticksProcessed) ∧
      ((r.failed = none ∧ r.steps.length = w.plan.steps ∧ t' = t) ∨
        ∃ f, r.failed = some (r.steps.length + 1, f) ∧ r.steps.length < w.plan.steps ∧
          w.step (r.steps.length + 1) t = (t', .ok (.failed f))) := by
  obtain ⟨s, _, halign, h⟩ := andThen_eq_ok.mp h
  obtain ⟨t', ⟨steps, failed⟩, hsteps, h⟩ := andThen_eq_ok.mp h
  simp only [Prod.mk.injEq, Except.ok.injEq] at h
  obtain ⟨hs', rfl⟩ := h
  have hreached (n : ℕ) : w.reached books g n = w.after 1 s n := by simp [reached, halign, done?]
  obtain ⟨hall, hle, t, ht, hend⟩ := steps_eq_ok hsteps
  simp only [hreached, Nat.add_comm _ 1]
  exact ⟨hall, hle, t, t', ht, hs'.symm, rfl, hend⟩

/-- A run that meets a fault meets it at its alignment or in a step behind those it has completed. -/
theorem run_eq_error {s' : WalkState} {f : Fault} (h : w.run books g = (s', .error f)) :
    w.align (w.outset books g) = (s', .error f) ∨
      ∃ n t, n < w.plan.steps ∧ w.reached books g n = some t ∧
        w.step (n + 1) t = (s', .error f) := by
  unfold run at h
  rcases halign : w.align (w.outset books g) with ⟨s, f' | _⟩ <;> rw [halign] at h
  · obtain ⟨rfl, hf⟩ := Prod.mk.inj h
    obtain rfl := Except.error.inj hf
    exact .inl rfl
  · rw [andThen_ok] at h
    rcases hsteps : w.steps w.plan.steps 1 s with ⟨t', f' | ⟨steps, failed⟩⟩ <;>
      simp only [hsteps, andThen_error, andThen_ok, Prod.mk.injEq, Except.error.injEq,
        reduceCtorEq, and_false] at h
    obtain ⟨rfl, rfl⟩ := h
    obtain ⟨n, t, hn, ht, hfault⟩ := exists_of_steps_error hsteps
    refine .inr ⟨n, t, hn, by simp [reached, halign, done?, ht], ?_⟩
    rw [Nat.add_comm n 1]
    exact hfault

theorem run_eq_ok {s' : WalkState} {r : WalkResult} (h : w.run books g = (s', .ok r)) :
    (∀ j x, r.steps[j]? = some x → ∃ u u', w.reached books g j = some u ∧
      w.step (j + 1) u = (u', .ok (.completed x))) ∧
    r.steps.length ≤ w.plan.steps ∧
    ∃ t t', w.reached books g r.steps.length = some t ∧
      r.chartTicks = t'.pristine.map (·.ticksProcessed) ∧
      ((r.failed = none ∧ r.steps.length = w.plan.steps ∧ t' = t) ∨
        ∃ f, r.failed = some (r.steps.length + 1, f) ∧ r.steps.length < w.plan.steps ∧
          w.step (r.steps.length + 1) t = (t', .ok (.failed f))) := by
  obtain ⟨hall, hle, t, t', ht, -, hend⟩ := run_eq_conclude h
  exact ⟨hall, hle, t, t', ht, hend⟩

/-- A step of a run comes to its search from the state behind the steps before it. -/
theorem prepared_eq_some {k : ℕ} {s : WalkState} {inSample : Stretch} :
    w.prepared books g k = some (s, inSample) ↔ ∃ n u, k = n + 1 ∧ n < w.plan.steps ∧
      w.reached books g n = some u ∧ w.prepare k u = (s, .ok inSample) := by
  cases k with
  | zero => simp [prepared]
  | succ n =>
    rw [prepared]
    split
    · rename_i hn
      simp only [Option.bind_eq_some_iff, done?_eq_some]
      constructor
      · rintro ⟨u, hu, hprepare⟩
        exact ⟨n, u, rfl, hn, hu, hprepare⟩
      · rintro ⟨m, u, hm, -, hu, hprepare⟩
        obtain rfl := Nat.succ.inj hm
        exact ⟨u, hu, hprepare⟩
    · rename_i hn
      simp only [false_iff, reduceCtorEq]
      rintro ⟨m, u, hm, hlt, -⟩
      omega

/-- A step of a run comes to its trading from its search. -/
theorem followed_eq_some {k : ℕ} {s : WalkState} {charts : List (Chart Float)} {o : Stretch} :
    w.followed books g k = some (s, charts, o) ↔ ∃ s₁ inSample s₂ found,
      w.prepared books g k = some (s₁, inSample) ∧
      w.optimize k s₁.pristine inSample s₁ = (s₂, .ok (some found)) ∧
      w.follow k s₁.pristine inSample s₂ = (s, .ok (charts, o)) := by
  simp only [followed, searched, Option.bind_eq_some_iff, done?_eq_some, Option.map_eq_some_iff]
  constructor
  · rintro ⟨⟨s₁, i⟩, hi, ⟨s₂, r⟩, ⟨⟨s₃, j⟩, hj, ⟨s₄, found⟩, hsearch, q, rfl, hq⟩, hfollow⟩
    rw [hi] at hj
    obtain ⟨rfl, rfl⟩ := Prod.mk.inj (Option.some.inj hj)
    obtain ⟨rfl, rfl⟩ := Prod.mk.inj hq
    exact ⟨s₁, i, s₄, q, hi, done?_eq_some.mp hsearch, hfollow⟩
  · rintro ⟨s₁, i, s₂, found, hi, hsearch, hfollow⟩
    exact ⟨(s₁, i), hi, (s₂, found),
      ⟨(s₁, i), hi, (s₂, some found), done?_eq_some.mpr hsearch, found, rfl, rfl⟩, hfollow⟩

/-- A completed step of a run has come to its search and to its trading, and its result tells of the
windows with which it came there. -/
theorem exists_followed_of_completed {n : ℕ} {u u' : WalkState} {r : StepResult}
    (hn : n < w.plan.steps) (hu : w.reached books g n = some u)
    (h : w.step (n + 1) u = (u', .ok (.completed r))) :
    ∃ s₁ i s₂ found s₃ charts o score,
      w.prepared books g (n + 1) = some (s₁, i) ∧
      w.optimize (n + 1) s₁.pristine i s₁ = (s₂, .ok (some found)) ∧
      w.followed books g (n + 1) = some (s₃, charts, o) ∧
      r = resultOf (n + 1) i o found score := by
  obtain ⟨s₁, i, s₂, found, s₃, charts, o, s₄, score, hprepare, hsearch, hfollow, -, hr, -⟩ :=
    step_eq_completed h
  have hi : w.prepared books g (n + 1) = some (s₁, i) :=
    prepared_eq_some.mpr ⟨n, u, rfl, hn, hu, hprepare⟩
  exact ⟨s₁, i, s₂, found, s₃, charts, o, score, hi, hsearch,
    followed_eq_some.mpr ⟨s₁, i, s₂, found, hi, hsearch, hfollow⟩, hr⟩

end Walk

/-! ### The place of a walk -/

/-- Where a walk stands in its source: the cursor, and the charts that saw every tick before it. -/
def WalkState.place (s : WalkState) : ℤ × List (Chart Float) := (s.cursor, s.pristine)

namespace Walk

variable {w : Walk}

/-- What goes on after an attempt keeps a part of the state if each thing that goes on does. -/
theorem andThen_kept {τ β γ : Type} (part : WalkState → τ) {a : WalkState × Except Fault β}
    {next : WalkState → β → WalkState × Except Fault γ}
    (h : ∀ s x, part (next s x).1 = part s) : part (andThen a next).1 = part a.1 := by
  obtain ⟨s, f | x⟩ := a
  · rfl
  · exact h s x

@[simp] theorem gather_place (sample : Sample) (k : ℕ) (start : ℤ) (days : ℕ) (s : WalkState) :
    (w.gather sample k start days s).1.place = s.place := by
  unfold gather
  split
  · rfl
  · split <;> rfl

@[simp] theorem optimize_place (k : ℕ) (charts : List (Chart Float)) (inSample : Stretch)
    (s : WalkState) : (w.optimize k charts inSample s).1.place = s.place := by
  unfold optimize
  simp only
  split <;> rfl

@[simp] theorem follow_place (k : ℕ) (charts : List (Chart Float)) (inSample : Stretch)
    (s : WalkState) : (w.follow k charts inSample s).1.place = s.place := by
  unfold follow
  refine (andThen_kept WalkState.place fun s _ => ?_).trans rfl
  exact (andThen_kept WalkState.place fun _ _ => rfl).trans (gather_place _ _ _ _ _)

@[simp] theorem execute_place (charts : List (Chart Float)) (outOfSample : Stretch)
    (parameters : Parameters) (s : WalkState) :
    (w.execute charts outOfSample parameters s).1.place = s.place := by
  unfold execute
  simp only
  split <;> rfl

/-- A step comes to its search at the place to which it moved on. -/
theorem prepare_place (k : ℕ) (s : WalkState) :
    (w.prepare k s).1.place = (w.approach k s).1.place :=
  andThen_kept WalkState.place fun _ _ => gather_place _ _ _ _ _

/-- A step ends at the place to which it moved on. -/
theorem step_place (k : ℕ) (s : WalkState) : (w.step k s).1.place = (w.approach k s).1.place := by
  refine (andThen_kept WalkState.place fun s inSample => ?_).trans (prepare_place k s)
  refine (andThen_kept WalkState.place fun s found => ?_).trans (optimize_place _ _ _ _)
  cases found with
  | none => rfl
  | some found =>
    refine (andThen_kept WalkState.place fun s x => ?_).trans (follow_place _ _ _ _)
    refine (andThen_kept WalkState.place fun s score => ?_).trans (execute_place _ _ _ _)
    cases score <;> rfl

/-- A step of a run that is completed or fails has come to its search, and ends at the place where it
did. -/
theorem exists_prepared_of_step {books : Books} {g : Twister} {n : ℕ} {u u' : WalkState} {e : StepEnd}
    (hn : n < w.plan.steps) (hu : w.reached books g n = some u)
    (h : w.step (n + 1) u = (u', .ok e)) :
    ∃ s i, w.prepared books g (n + 1) = some (s, i) ∧ u'.place = s.place := by
  have hplace := step_place (w := w) (n + 1) u
  rw [← prepare_place, h] at hplace
  obtain ⟨s, i, hprepare, -⟩ := andThen_eq_ok.mp h
  rw [hprepare] at hplace
  exact ⟨s, i, prepared_eq_some.mpr ⟨n, u, rfl, hn, hu, hprepare⟩, hplace⟩

end Walk

/-! ### A walk over daily ticks -/

/-- One tick at noon of each of so many days from a date on, but none on Saturdays; prices rise. -/
def dailyTicks (d : Date) (n : ℕ) : List (Tick Float) :=
  let ticks : List (Tick Float) := (List.range n).map fun k =>
    { time := .ofMoment (.ofSecondOfDay (d.addDays k) 43200)
      bid := Float.ofNat (100 + k)
      ask := Float.ofNat (101 + k) }
  ticks.filter fun t => t.time.weekday != 6

/-- A strategy that buys once. -/
def Strategy.buyer : Strategy Float where
  Memory := Bool
  fresh := false
  setup _ bought := .ok bought
  onTick _ bought := (.ok (if bought then .noop else .openLong), true)
  teardown := .ok

/-- A configuration with two weeks in sample and one week out of sample, and two trials with a variable of
each kind. -/
def Configuration.weekly (steps : ℤ) : Configuration where
  csvPath := "ticks.csv"
  strategyPath := "buyer.py"
  chartText := "candlestick,M1,2|sma,1"
  variableText := "flag,bool;x,float,0.25,0.75;n,int,3,9"
  inSample := "2 weeks"
  outOfSample := "1 week"
  iterations := 2
  steps
  postRunCommand := none
  deposit := 10000
  drawdownLimit := -10
  jpyQuote := some false
  seed := some 1
  outputDir := "output"
  auditLogPath := "output/audit.log"
  logLevel := "INFO"

/-- The walk of a plan that buys once in each pass. -/
def Walk.buying (p : Plan) (ticks : List (Tick Float)) : Walk where
  plan := p
  source := .memory ticks
  strategy := .ok .buyer
  settings := { deposit := 10000, drawdownLimit := -10, jpyQuote := false }

/-- The start of the daily ticks. -/
def newYear : Date := ⟨2014, 1, 1, by decide⟩

/-- Two steps over daily ticks. -/
theorem Walk.exists_run_weekly : ∃ p s r, (Configuration.weekly 2).plan = .ok p ∧
    (buying p (dailyTicks newYear 40)).run Books.new (Twister.ofSeed 1) = (s, .ok r) ∧
    r.steps.length = 2 := by
  have h : ((Configuration.weekly 2).plan.toOption.bind fun p =>
      (done? ((buying p (dailyTicks newYear 40)).run Books.new (Twister.ofSeed 1))).map
        fun a => a.2.steps.length) = some 2 := by
    decide +kernel
  obtain ⟨p, hp, h⟩ := Option.bind_eq_some_iff.mp h
  obtain ⟨⟨s, r⟩, hrun, hlen⟩ := Option.map_eq_some_iff.mp h
  exact ⟨p, s, r, toOption_eq_some.mp hp, done?_eq_some.mp hrun, hlen⟩

end Backtest
