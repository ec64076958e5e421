import Backtest.Proofs.LogAgreement
import Backtest.Proofs.Schedule

/-!
# The numbers in the trade log of a run

With `n` trials to a search, the passes of a step take `n + 1` simulation ids, the last of them for the
pass out of sample. Every pass of a run that gives a result has closed its trades, so no number is
missing in its trade log.

* `Books.Through.ids`, `Books.Through.tradeIds`, the numbers of passes and of their trades;
  `Books.Through.tradeLog`, what passes leave in the books;
* `PassMade.rows`, the rows of a pass; `PassMade.rows_sorted`, the order of rows;
* `Walk.length_passesUpTo`, `Walk.ids_trials`, `Walk.id_trade`, the simulation ids of a step;
* `Walk.run_numbered`, the trade log of a run.
-/

namespace Backtest

/-- The rows that a pass writes into the table of trades. -/
def PassMade.rows (m : PassMade) : List (TradeRow Float) := m.outcome.tradeRows

namespace Books

variable {b b' : Books} {ms : List PassMade}

/-- Passes take simulation ids in order. -/
theorem ids_makeAll (b : Books) (as : List Assignment) :
    (b.makeAll as).map (·.outcome.simulation.id) = List.range' b.ids.nextSimulation as.length := by
  induction as generalizing b with
  | nil => rfl
  | cons a as ih =>
    have hp := b.perform_accounted a
    rw [makeAll, List.map_cons, ih, perform_ids, hp.nextSimulation, List.length_cons,
      List.range'_succ, hp.id]
    rfl

/-- The account of a pass has the sample that the pass was made with. -/
theorem sample_of_mem_makeAll {as : List Assignment} {m : PassMade} (hm : m ∈ b.makeAll as) :
    m.outcome.simulation.sample = m.assignment.sample := by
  induction as generalizing b with
  | nil => simp [makeAll] at hm
  | cons a as ih =>
    rcases List.mem_cons.mp hm with rfl | hm
    · exact (b.perform_accounted a).sample
    · exact ih hm

theorem Through.ids (h : b.Through ms b') :
    ms.map (·.outcome.simulation.id) = List.range' b.ids.nextSimulation ms.length := by
  have hids := ids_makeAll b (ms.map (·.assignment))
  rwa [h.made, List.length_map] at hids

theorem Through.sample (h : b.Through ms b') {m : PassMade} (hm : m ∈ ms) :
    m.outcome.simulation.sample = m.assignment.sample :=
  sample_of_mem_makeAll (h.made.symm ▸ hm)

/-- The rows that passes leave in new books. -/
theorem Through.tradeLog (h : Books.new.Through ms b') :
    b'.tradeLog = some ⟨ms.flatMap (·.rows), ms.flatMap (·.outcome.tickRows)⟩ := by
  have hlog : b'.tradeLog = _ := congrArg (·.2.1) h.entries
  rw [hlog]
  refine (Books.new.afterAll_tradeLog _).trans ?_
  rw [h.outcomes]
  simp [Books.new, TradeLog.logAll, TradeLog.empty, PassMade.rows, List.flatMap_map]

/-- The trades of passes that had a result are numbered without gaps. -/
theorem Through.tradeIds (h : b.Through ms b') (hcompleted : ∀ m ∈ ms, m.outcome.Completed) :
    (ms.flatMap (·.rows)).map (·.trade.id) =
      idsFrom b.ids.nextTrade (openings (ms.flatMap (·.outcome.calls.toList))) := by
  have hids := (tradeIds_outcomes (ms.map (·.assignment)) b).2
  rw [h.outcomes, List.forall_mem_map, List.flatMap_map, callsOf, List.flatMap_map] at hids
  exact hids hcompleted

end Books

/-- The column of the sample is false in the rows of a pass out of sample. -/
theorem TradeRow.column_in_sample (row : TradeRow Float) :
    row.column? "in_sample" = some "false" ↔ row.sample = .outOfSample := by
  show some (Trade.flag (row.sample == .inSample)) = some "false" ↔ _
  cases row.sample <;> decide

namespace PassMade

variable {m : PassMade} {row : TradeRow Float}

/-- The rows of a pass have its simulation id and its sample. -/
theorem of_mem_rows (h : row ∈ m.rows) :
    row.simulation = m.outcome.simulation.id ∧ row.sample = m.outcome.simulation.sample := by
  unfold rows PassOutcome.tradeRows at h
  split at h
  · obtain ⟨r, -, rfl⟩ := List.mem_map.mp h
    exact ⟨rfl, rfl⟩
  · simp at h

/-- The rows of passes whose simulation ids increase have simulation ids that do not decrease. -/
theorem rows_sorted {ms : List PassMade} {first n : ℕ}
    (h : ms.map (·.outcome.simulation.id) = List.range' first n) :
    ((ms.flatMap rows).map (·.simulation)).Pairwise (· ≤ ·) := by
  have hids : ms.Pairwise fun m m' => m.outcome.simulation.id < m'.outcome.simulation.id := by
    rw [← List.pairwise_map, h]
    exact List.pairwise_lt_range'
  refine List.pairwise_map.mpr (List.pairwise_flatMap.mpr ⟨fun m _ => ?_, hids.imp ?_⟩)
  · refine List.pairwise_of_forall_mem_list fun row hrow row' hrow' => ?_
    rw [(of_mem_rows hrow).1, (of_mem_rows hrow').1]
  · intro m m' hlt row hrow row' hrow'
    rw [(of_mem_rows hrow).1, (of_mem_rows hrow').1]
    exact Nat.le_of_lt hlt

end PassMade

namespace Walk

variable {w : Walk} {books : Books} {g : Twister} {s : WalkState} {r : WalkResult}

/-- The steps of a run before the last that it has begun were completed. -/
theorem exists_trade_of_lt (h : w.run books g = (s, .ok r)) {k : ℕ} (hk : k + 1 < r.ends.length) :
    ∃ m, w.trade? books g (k + 1) = some m := by
  have hend : r.ends[k]? = some r.ends[k] := List.getElem?_eq_getElem (by omega)
  rcases WalkResult.getElem?_ends.mp hend with ⟨x, hx, he⟩ | ⟨hlast, -⟩
  · have htraded := ((run_through h).2 k _ hend).2
    refine Option.ne_none_iff_exists'.mp fun hnone => ?_
    rw [← htraded.ending, he] at hnone
    simp at hnone
  · rw [WalkResult.length_ends] at hk
    cases hfailed : r.failed <;> simp [hfailed] at hk <;> omega

/-- Before each step that a run has begun, every step has made a pass for each trial and one more. -/
theorem length_passesUpTo (h : w.run books g = (s, .ok r)) {k : ℕ} (hk : k < r.ends.length) :
    (w.passesUpTo books g k).length = k * (w.plan.iterations + 1) := by
  induction k with
  | zero => simp
  | succ k ih =>
    obtain ⟨m, hm⟩ := exists_trade_of_lt h hk
    have htried := ((run_through h).2 k _ (List.getElem?_eq_getElem (by omega))).1
    rw [passesUpTo_succ, List.length_append, ih (by omega), passes, hm, Option.toList_some,
      List.length_append, htried.length, List.length_singleton, Nat.succ_mul]

theorem passesUpTo_prefix {k n : ℕ} (h : k ≤ n) :
    w.passesUpTo books g k <+: w.passesUpTo books g n := by
  induction n, h using Nat.le_induction with
  | base => exact List.prefix_refl _
  | succ n _ ih => exact passesUpTo_succ (w := w) n ▸ ih.trans (List.prefix_append _ _)

/-- The simulation ids of a step that a run has begun follow those of the steps before it. -/
theorem ids_passes (h : w.run books g = (s, .ok r)) {k : ℕ} (hk : k < r.ends.length) :
    (w.passes books g (k + 1)).map (·.outcome.simulation.id) =
      List.range' (books.ids.nextSimulation + k * (w.plan.iterations + 1))
        (w.passes books g (k + 1)).length := by
  have hprefix : w.passesUpTo books g (k + 1) <+: w.passesUpTo books g r.ends.length :=
    passesUpTo_prefix hk
  obtain ⟨rest, hrest⟩ := hprefix
  have hids := (run_through h).1.ids
  rw [← hrest, passesUpTo_succ, List.append_assoc, List.length_append, ← List.range'_append_1,
    List.map_append, length_passesUpTo h hk] at hids
  have hids := (List.append_inj hids (by simp [length_passesUpTo h hk])).2
  rw [List.length_append, ← List.range'_append_1, List.map_append] at hids
  exact (List.append_inj hids (by simp)).1

theorem ids_trials (h : w.run books g = (s, .ok r)) {k : ℕ} (hk : k < r.ends.length) :
    (w.trials books g (k + 1)).map (·.outcome.simulation.id) =
      List.range' (books.ids.nextSimulation + k * (w.plan.iterations + 1)) w.plan.iterations := by
  have htried := ((run_through h).2 k _ (List.getElem?_eq_getElem hk)).1
  have hids := ids_passes h hk
  rw [passes, List.length_append, ← List.range'_append_1, List.map_append, htried.length] at hids
  exact (List.append_inj hids (by simp [htried.length])).1

theorem id_trade (h : w.run books g = (s, .ok r)) {k : ℕ} (hk : k < r.ends.length) {m : PassMade}
    (hm : w.trade? books g (k + 1) = some m) : m.outcome.simulation.id =
      books.ids.nextSimulation + k * (w.plan.iterations + 1) + w.plan.iterations := by
  have htried := ((run_through h).2 k _ (List.getElem?_eq_getElem hk)).1
  have hids := ids_passes h hk
  rw [passes, hm, List.length_append, ← List.range'_append_1, List.map_append, htried.length] at hids
  have hlast := (List.append_inj hids (by simp [htried.length])).2
  simpa using hlast

/-- A pass of a run is a trial of one of the steps that it has begun, or the pass out of sample of
one. -/
theorem mem_passesUpTo {n : ℕ} {m : PassMade} (h : m ∈ w.passesUpTo books g n) :
    ∃ k < n, m ∈ w.trials books g (k + 1) ∨ w.trade? books g (k + 1) = some m := by
  obtain ⟨k, hk, hm⟩ := List.mem_flatMap.mp h
  refine ⟨k, List.mem_range.mp hk, ?_⟩
  simpa [passes] using hm

/-- Every pass of a run that gives a result was made over ticks and has a result itself. -/
theorem completed_of_run (h : w.run books g = (s, .ok r)) {m : PassMade}
    (hm : m ∈ w.passesUpTo books g r.ends.length) :
    m.outcome.Completed ∧ m.assignment.ticks ≠ [] := by
  obtain ⟨k, hk, hm | hm⟩ := mem_passesUpTo hm <;>
    obtain ⟨htried, htraded⟩ := (run_through h).2 k _ (List.getElem?_eq_getElem hk)
  · exact ⟨htried.completed m hm, htried.ticks m hm⟩
  · exact ⟨htraded.completed m hm, htraded.ticks m hm⟩

/-- The sample of a pass of a run shows in its simulation id. -/
theorem outOfSample_iff (h : w.run Books.new g = (s, .ok r)) {m : PassMade}
    (hm : m ∈ w.passesUpTo Books.new g r.ends.length) :
    m.outcome.simulation.sample = .outOfSample ↔
      w.plan.iterations + 1 ∣ m.outcome.simulation.id := by
  rw [(run_through h).1.sample hm]
  obtain ⟨k, hk, hm | hm⟩ := mem_passesUpTo hm <;>
    obtain ⟨htried, htraded⟩ := (run_through h).2 k _ (List.getElem?_eq_getElem hk)
  · -- a trial comes after the passes of whole steps and before the pass out of sample
    rw [htried.inSample m hm]
    have hid := List.mem_map_of_mem (f := (·.outcome.simulation.id)) hm
    rw [ids_trials h hk, List.mem_range'_1] at hid
    have hfirst : Books.new.ids.nextSimulation = 1 := rfl
    simp only [reduceCtorEq, false_iff]
    rintro ⟨q, hq⟩
    rw [hq, hfirst] at hid
    rw [Nat.mul_comm (w.plan.iterations + 1) q] at hid
    have hlt : k < q := Nat.lt_of_mul_lt_mul_right (Nat.lt_of_lt_of_le (by omega) hid.1)
    have hle := Nat.mul_le_mul_right (w.plan.iterations + 1) hlt
    rw [Nat.succ_mul] at hle
    omega
  · rw [htraded.outOfSample m hm, id_trade h hk hm]
    refine iff_of_true rfl ⟨k + 1, ?_⟩
    have hfirst : Books.new.ids.nextSimulation = 1 := rfl
    rw [hfirst, Nat.mul_comm _ (k + 1), Nat.succ_mul]
    omega

/-- The trade log of a run that gives a result, with new books. The numbers of its trades are those from
one up to the number of decisions to open a trade; with `n` trials to a search, the trials of step
`k + 1` have the simulation ids behind `k * (n + 1)`, and its pass out of sample the multiple of `n + 1`
behind those. -/
theorem run_numbered (h : w.run Books.new g = (s, .ok r)) :
    let perStep := w.plan.iterations + 1
    ∃ log, s.books.tradeLog = some log ∧
      log.trades = (w.passesUpTo Books.new g r.ends.length).flatMap (·.rows) ∧
      log.trades.map (·.column? "trade_id") =
        (List.range' 1 (openings s.books.calls.toList)).map (fun n => some (toString n)) ∧
      (∀ k < r.ends.length,
        (w.trials Books.new g (k + 1)).map (·.outcome.simulation.id) =
          List.range' (k * perStep + 1) w.plan.iterations ∧
        ∀ m ∈ w.trade? Books.new g (k + 1), m.outcome.simulation.id = (k + 1) * perStep) ∧
      (∀ row ∈ log.trades, row.column? "in_sample" = some "false" ↔ perStep ∣ row.simulation) ∧
      (log.trades.map (·.simulation)).Pairwise (· ≤ ·) := by
  intro perStep
  let ms := w.passesUpTo Books.new g r.ends.length
  have hthrough : Books.new.Through ms s.books := (run_through h).1
  have hfirst : Books.new.ids.nextSimulation = 1 := rfl
  refine ⟨_, hthrough.tradeLog, rfl, ?_, fun k hk => ⟨?_, fun m hm => ?_⟩, fun row hrow => ?_, ?_⟩
  · have hids := hthrough.tradeIds fun m hm => (completed_of_run h hm).1
    have hnumbers := congrArg (List.map fun id : ℤ => some (toString id)) hids
    rw [idsFrom, List.map_map, List.map_map] at hnumbers
    rw [hthrough.calls]
    exact hnumbers
  · rw [ids_trials h hk, hfirst, Nat.add_comm]
  · show _ = (k + 1) * (w.plan.iterations + 1)
    rw [id_trade h hk hm, hfirst, Nat.succ_mul]
    omega
  · obtain ⟨m, hm, hrow⟩ := List.mem_flatMap.mp hrow
    rw [TradeRow.column_in_sample, (PassMade.of_mem_rows hrow).1, (PassMade.of_mem_rows hrow).2]
    exact outOfSample_iff h hm
  · exact PassMade.rows_sorted hthrough.ids

/-- Two steps over daily ticks. -/
theorem run_numbered_weekly : ∃ p s r, (Configuration.weekly 2).plan = .ok p ∧
    (buying p (dailyTicks newYear 40)).run Books.new (Twister.ofSeed 1) = (s, .ok r) ∧
    ∃ log, s.books.tradeLog = some log ∧
      log.trades.map (·.column? "trade_id") =
        (List.range' 1 (openings s.books.calls.toList)).map (fun n => some (toString n)) := by
  obtain ⟨p, s, r, hp, hrun, -⟩ := exists_run_weekly
  obtain ⟨log, hlog, -, hids, -⟩ := run_numbered hrun
  exact ⟨p, s, r, hp, hrun, log, hlog, hids⟩

end Walk

end Backtest
