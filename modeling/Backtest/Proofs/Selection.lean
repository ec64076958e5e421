import Backtest.Proofs.FloatOrder
import Backtest.Proofs.Numbering

/-!
# What a run trades

A search keeps the first of its best trials, also where scores are no numbers. So the parameters that a
step trades out of sample are those of its first best trial in sample, and a run makes no other passes
than the trials of the steps that it has begun and the tradings of what these found.

* `FirstBest`, the first of the best scores; `Best.Tracks`, what a best says of the scores before it;
* `Best.Tracks.consider`, `Best.Tracks.among`, one more score and many;
* `Best.exists_of_result?`, the answer of a search;
* `Walk.run_trades_best`, the passes of a run.
-/

namespace Backtest

/-- The first of the best scores: a number that every other score is equal to, or lies below, or is no
number, and that none before it is equal to. -/
structure FirstBest (scores : List (Option Float)) (j : ℕ) (x : Float) : Prop where
  score : scores[j]? = some (some x)
  isNumber : x.isNaN = false
  best : ∀ y, some y ∈ scores → y ≤ x ∨ y.isNaN = true
  first : ∀ i y, i < j → scores[i]? = some (some y) → (y == x) = false

namespace Best

/-- What a best says of the scores that were considered before: none exceeds its own, and its candidate,
if it has one, is the first with that score. -/
structure Tracks (b : Best) (cs : List SearchSpace) (scores : List (Option Float)) : Prop where
  bound : ∀ y, some y ∈ scores → ¬ b.score < y
  first : ∀ c ∈ b.candidate, ∃ j : ℕ, cs[j]? = some c ∧ scores[j]? = some (some b.score) ∧
    b.score.isNaN = false ∧ ∀ i y, i < j → scores[i]? = some (some y) → (y == b.score) = false

variable {b : Best} {cs ds : List SearchSpace} {scores others : List (Option Float)}

theorem tracks_start : start.Tracks [] [] := ⟨by simp, by simp [start]⟩

/-- A score that does not replace the best is one more score that does not exceed it. -/
theorem Tracks.keep (h : b.Tracks cs scores) (c : SearchSpace) {o : Option Float}
    (ho : ∀ y ∈ o, ¬ b.score < y) : b.Tracks (cs ++ [c]) (scores ++ [o]) where
  bound y hy := by
    rcases List.mem_append.mp hy with hy | hy
    · exact h.bound y hy
    · exact ho y (List.mem_singleton.mp hy).symm
  first d hd := by
    obtain ⟨j, hj, hscore, hnumber, hfirst⟩ := h.first d hd
    have hlt (i : ℕ) (hi : i ≤ j) : (scores ++ [o])[i]? = scores[i]? :=
      List.getElem?_append_left ((List.getElem?_eq_some_iff.mp hscore).1.trans_le' hi)
    refine ⟨j, ?_, by rw [hlt j (Nat.le_refl j), hscore], hnumber, fun i y hi hy => ?_⟩
    · rw [List.getElem?_append_left (List.getElem?_eq_some_iff.mp hj).1, hj]
    · exact hfirst i y hi (hlt i (Nat.le_of_lt hi) ▸ hy)

/-- A score that exceeds the best exceeds all before it. -/
theorem Tracks.replace (h : b.Tracks cs scores) (hlength : cs.length = scores.length)
    (c : SearchSpace) {x : Float} (hx : b.score < x) (n : ℕ) :
    Tracks ⟨some c, x, n⟩ (cs ++ [c]) (scores ++ [some x]) where
  bound y hy hlt := by
    rcases List.mem_append.mp hy with hy | hy
    · exact h.bound y hy (FloatOrder.lt_trans hx hlt)
    · obtain rfl := Option.some.inj (List.mem_singleton.mp hy)
      exact FloatOrder.lt_irrefl y hlt
  first d hd := by
    obtain rfl := Option.some.inj hd
    refine ⟨scores.length, by simp [← hlength], by simp, FloatOrder.isNaN_eq_false_of_lt hx,
      fun i y hi hy => ?_⟩
    rw [List.getElem?_append_left hi] at hy
    rw [Bool.eq_false_iff]
    intro heq
    exact h.bound y (List.mem_of_getElem? hy) (FloatOrder.lt_of_lt_of_beq hx heq)

theorem Tracks.consider (h : b.Tracks cs scores) (hlength : cs.length = scores.length)
    (c : SearchSpace) (o : Option Float) :
    (b.consider c o).Tracks (cs ++ [c]) (scores ++ [o]) := by
  cases o with
  | none => exact h.keep c (by simp)
  | some x =>
    simp only [Best.consider]
    split
    · rename_i hx
      exact h.replace hlength c hx _
    · rename_i hx
      have hkeep := h.keep c (o := some x) fun y hy hlt => hx (Option.some.inj hy ▸ hlt)
      exact ⟨hkeep.bound, hkeep.first⟩

theorem Tracks.among (h : b.Tracks cs scores) (hlength : cs.length = scores.length)
    (hothers : ds.length = others.length) :
    (b.among ds others).Tracks (cs ++ ds) (scores ++ others) := by
  induction ds generalizing b cs scores others with
  | nil =>
    obtain rfl := List.length_eq_zero_iff.mp hothers.symm
    simpa [Best.among] using h
  | cons d ds ih =>
    cases others with
    | nil => simp at hothers
    | cons o others =>
      have hnext := ih (h.consider hlength d o) (by simp [hlength]) (Nat.succ.inj hothers)
      rw [List.append_cons cs, List.append_cons scores]
      exact hnext

/-- A search answers with the candidate of the first of the best scores. -/
theorem exists_of_result? {n : ℤ} {r : SearchResult} (hlength : cs.length = scores.length)
    (h : (start.among cs scores).result? n = some r) :
    ∃ j : ℕ, cs[j]? = some r.space ∧ FirstBest scores j r.score := by
  have htracks := tracks_start.among (by rfl) hlength
  rw [List.nil_append, List.nil_append] at htracks
  unfold result? at h
  split at h
  · simp at h
  · split at h
    · simp at h
    · rename_i c hc
      split at h
      · simp at h
      · obtain rfl := Option.some.inj h
        obtain ⟨j, hj, hscore, hnumber, hfirst⟩ := htracks.first c hc
        refine ⟨j, hj, hscore, hnumber, fun y hy => ?_, hfirst⟩
        exact FloatOrder.le_or_isNaN hnumber (htracks.bound y hy)

end Best

/-! ### Runs -/

namespace Walk

variable {w : Walk} {books : Books} {g : Twister} {s : WalkState} {r : WalkResult}

/-- A pass is the trading of the first best of some trials: it has the parameters of that trial, whose
score is given. -/
def TradesBest (trials : List PassMade) (trade : PassMade) (score : Float) : Prop :=
  ∃ (j : ℕ) (t : PassMade), trials[j]? = some t ∧
    FirstBest (trials.map (·.outcome.worth)) j score ∧
    trade.assignment.parameters = t.assignment.parameters

/-- What a step of a run trades is what its search found, and that is the first best of its trials. -/
theorem Tried.tradesBest {k : ℕ} (h : w.Tried books g k) {found : SearchResult}
    (hfound : (w.searched books g k).map (·.2) = some found) {m : PassMade}
    (hm : m.assignment.parameters = found.space.parameters) :
    TradesBest (w.trials books g k) m found.score := by
  rw [h.found] at hfound
  have hlength : (w.candidates books g k).length =
      ((w.trials books g k).map (·.outcome.worth)).length := by
    rw [List.length_map, h.length, h.candidates]
  obtain ⟨j, hj, hbest⟩ := Best.exists_of_result? hlength hfound
  have hparameters := congrArg (·[j]?) h.parameters
  simp only [List.getElem?_map, hj, Option.map_some] at hparameters
  obtain ⟨t, ht, heq⟩ := Option.map_eq_some_iff.mp hparameters
  exact ⟨j, t, ht, hbest, hm.trans heq.symm⟩

/-- A run that gives a result fails at the step behind those of the result, or has taken all steps. -/
theorem failed_iff (h : w.run books g = (s, .ok r)) :
    (r.steps.length = w.plan.steps ↔ r.failed = none) ∧
      ∀ n f, r.failed = some (n, f) → n = r.steps.length + 1 := by
  obtain ⟨-, -, -, -, -, -, ⟨hnone, hlen, -⟩ | ⟨f, hsome, hlt, -⟩⟩ := run_eq_ok h
  · exact ⟨iff_of_true hlen hnone, by simp [hnone]⟩
  · refine ⟨iff_of_false (Nat.ne_of_lt hlt) (by simp [hsome]), fun n e he => ?_⟩
    rw [hsome] at he
    exact (Prod.mk.inj (Option.some.inj he)).1.symm

/-- The steps of a result are numbered from one on. -/
theorem steps_numbered (h : w.run books g = (s, .ok r)) :
    r.steps.map (·.step) = List.range' 1 r.steps.length := by
  refine List.ext_getElem (by simp) fun k hk _ => ?_
  rw [List.length_map] at hk
  have hx : r.steps[k]? = some r.steps[k] := List.getElem?_eq_getElem hk
  have hend : r.ends[k]? = some (.completed r.steps[k]) :=
    WalkResult.getElem?_ends.mpr (.inl ⟨_, hx, rfl⟩)
  rw [List.getElem_map, (((run_through h).2 k _ hend).2.result _ rfl).1]
  simp [Nat.add_comm]

/-- A step of a run does not come to a pass out of sample exactly if the run failed at its search. -/
theorem trade_eq_none_iff (h : w.run books g = (s, .ok r)) {k : ℕ} (hk : k < r.ends.length) :
    w.trade? books g (k + 1) = none ↔ r.failed = some (k + 1, .optimization) := by
  have hend : r.ends[k]? = some r.ends[k] := List.getElem?_eq_getElem hk
  rw [← ((run_through h).2 k _ hend).2.ending]
  rcases WalkResult.getElem?_ends.mp hend with ⟨x, hx, he⟩ | ⟨rfl, f, hf, he⟩
  · have hlt : k < r.steps.length := (List.getElem?_eq_some_iff.mp hx).1
    rw [he]
    refine iff_of_false (by simp) fun hfailed => ?_
    have := (failed_iff h).2 _ _ hfailed
    omega
  · obtain ⟨⟨n, f⟩, hfailed, rfl⟩ := Option.map_eq_some_iff.mp hf
    obtain rfl := (failed_iff h).2 n f hfailed
    simp [he, hfailed]

/-- A run makes the passes of the steps that it has begun and no others. A step makes so many trials in
sample as the search has iterations and, unless the run failed at its search, trades the first best of
them out of sample; the step's result tells of that trial. The steps of the result are numbered from one
on, and a failure comes at the step behind them. -/
theorem run_trades_best (h : w.run books g = (s, .ok r)) :
    let trials k := w.trials books g (k + 1)
    let trade? k := w.trade? books g (k + 1)
    s.books.calls.toList = books.calls.toList ++
      (List.range r.ends.length).flatMap (fun k =>
        (trials k ++ (trade? k).toList).flatMap (·.outcome.calls.toList)) ∧
    setups s.books.calls.toList = setups books.calls.toList ++
      (List.range r.ends.length).flatMap (fun k =>
        (trials k ++ (trade? k).toList).map (·.assignment.parameters)) ∧
    (∀ k < r.ends.length,
      (trials k).length = w.plan.iterations ∧
      (∀ t ∈ trials k, t.assignment.sample = .inSample) ∧
      (trade? k = none ↔ r.failed = some (k + 1, .optimization)) ∧
      ∀ m ∈ trade? k, m.assignment.sample = .outOfSample ∧
        ∃ score, TradesBest (trials k) m score ∧
          ∀ x ∈ r.steps[k]?, x.parameters = m.assignment.parameters ∧ x.inSampleScore = score) ∧
    r.ends.length = r.steps.length + r.failed.toList.length ∧
    r.steps.map (·.step) = List.range' 1 r.steps.length ∧
    (r.steps.length = w.plan.steps ↔ r.failed = none) ∧
    ∀ n f, r.failed = some (n, f) → n = r.steps.length + 1 := by
  intro trials trade?
  obtain ⟨hthrough, hmade⟩ := run_through h
  refine ⟨?_, ?_, fun k hk => ?_, r.length_ends, steps_numbered h, failed_iff h⟩
  · rw [hthrough.calls, passesUpTo, List.flatMap_assoc]
    rfl
  · rw [hthrough.calls, setups_append, hthrough.setups fun m hm => (completed_of_run h hm).2,
      passesUpTo, List.map_flatMap]
    rfl
  · have hend : r.ends[k]? = some r.ends[k] := List.getElem?_eq_getElem hk
    obtain ⟨htried, htraded⟩ := hmade k _ hend
    refine ⟨htried.length, htried.inSample, trade_eq_none_iff h hk, fun m hm =>
      ⟨htraded.outOfSample m hm, ?_⟩⟩
    -- the pass out of sample has the parameters that were found
    have hparameters := htraded.parameters
    rw [show w.trade? books g (k + 1) = some m from hm, Option.map_some] at hparameters
    obtain ⟨⟨t, found⟩, hsearched, hfound⟩ := Option.map_eq_some_iff.mp hparameters.symm
    have hfound' : (w.searched books g (k + 1)).map (·.2) = some found := by rw [hsearched]; rfl
    refine ⟨found.score, htried.tradesBest hfound' hfound.symm, fun x hx => ?_⟩
    rcases WalkResult.getElem?_ends.mp hend with ⟨y, hy, he⟩ | ⟨hlast, -⟩
    · obtain rfl := Option.some.inj (hx.symm.trans hy)
      obtain ⟨-, found', hfound'', hx₁, hx₂⟩ := htraded.result x he
      obtain rfl := Option.some.inj (hfound'.symm.trans hfound'')
      exact ⟨hx₁.trans hfound, hx₂⟩
    · rw [Option.mem_def, List.getElem?_eq_none (by omega)] at hx
      simp at hx

/-- Two steps over daily ticks, each with two trials of three variables. -/
theorem run_trades_best_weekly : ∃ p s r, (Configuration.weekly 2).plan = .ok p ∧
    p.space.size = 3 ∧ (buying p (dailyTicks newYear 40)).run Books.new (Twister.ofSeed 1) = (s, .ok r) ∧
    r.steps.length = 2 ∧ r.steps.map (·.step) = [1, 2] ∧ r.failed = none ∧
    ∀ k < 2, ((buying p (dailyTicks newYear 40)).trials Books.new (Twister.ofSeed 1) (k + 1)).length = 2 := by
  obtain ⟨p, s, r, hp, hrun, hlen⟩ := exists_run_weekly
  have hplan : p.steps = 2 ∧ p.iterations = 2 ∧ p.space.size = 3 := by
    have h : ((Configuration.weekly 2).plan.toOption.map fun p => (p.steps, p.iterations, p.space.size)) =
        some (2, 2, 3) := by
      decide +kernel
    rw [toOption_eq_some.mpr hp] at h
    simpa using h
  obtain ⟨hsteps, hiterations, hsize⟩ := hplan
  obtain ⟨-, -, htrials, hends, hnumbered, hall, -⟩ := run_trades_best hrun
  have hfailed : r.failed = none := hall.mp (hlen.trans hsteps.symm)
  rw [hlen] at hnumbered
  refine ⟨p, s, r, hp, hsize, hrun, hlen, hnumbered, hfailed, fun k hk => ?_⟩
  rw [(htrials k (by rw [hends, hlen, hfailed]; exact hk)).1]
  exact hiterations

end Walk

end Backtest
