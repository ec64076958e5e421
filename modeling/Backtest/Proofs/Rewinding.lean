import Backtest.Proofs.Accepted
import Backtest.Proofs.Itinerary

/-!
# Charts as if they were never rewound

The charts of a walk reach a step by being filled, aligned, advanced from an old cursor and shown a
window once more, and trials work on copies of them. All the same they are what fresh charts become
that are shown the records before the step one by one, and they publish nothing.

* `Chart.Dormant`, a chart that does not publish; `Chart.Dormant.process`, a tick does not wake it;
* `Walk.Unrewound`, a run whose charts are those of a plain reading of the stream;
* `Walk.unrewound_of_plan`, every run of an accepted configuration is one.
-/

namespace Backtest

variable {α : Type} [Price α]

/-! ### Dormant charts -/

omit [Price α] in
/-- A chart that does not publish and has not published. -/
structure Chart.Dormant (c : Chart α) : Prop where
  active : c.active = false
  published : ∀ i ∈ c.indicators, i.published = none

namespace Chart

theorem Dormant.openCandle {c : Chart α} (h : c.Dormant) (t : Tick α) (id : ℤ) :
    (c.openCandle t id).Dormant := by
  unfold Chart.openCandle
  simp only
  split
  · refine ⟨h.active, fun i hi => ?_⟩
    obtain ⟨j, hj, rfl⟩ := List.mem_map.mp hi
    rw [Indicator.update]
    simpa [h.active] using h.published j hj
  · exact ⟨h.active, h.published⟩

/-- A tick does not wake a chart. -/
theorem Dormant.process {c : Chart α} (h : c.Dormant) (t : Tick α) : (c.process t).Dormant := by
  have hin : (c.takeIn t).Dormant := by
    unfold Chart.takeIn
    simp only
    split
    · exact h.openCandle t _
    · split
      · have hclosed : ({ c with candles := c.closedCandles } : Chart α).Dormant :=
          ⟨h.active, h.published⟩
        exact hclosed.openCandle t _
      · exact ⟨h.active, h.published⟩
  exact ⟨hin.active, hin.published⟩

theorem Dormant.processAll {c : Chart α} (h : c.Dormant) (ts : List (Tick α)) :
    (c.processAll ts).Dormant := by
  induction ts generalizing c with
  | nil => exact h
  | cons t ts ih => exact ih (h.process t)

@[simp] theorem ticksProcessed_processAll (c : Chart α) (ts : List (Tick α)) :
    (c.processAll ts).ticksProcessed = c.ticksProcessed + ts.length := by
  induction ts generalizing c with
  | nil => rfl
  | cons t ts ih =>
    have h := ih (c.process t)
    rw [List.length_cons, Nat.add_comm ts.length, ← Nat.add_assoc]
    exact h

end Chart

/-- Fresh charts that are shown the ticks of records, one by one. -/
def Charts.shown (fresh : List (Chart Float)) (rs : List Record) : List (Chart Float) :=
  fresh.map fun c => c.processAll (rs.map (·.tick))

theorem Charts.dormant_shown {fresh : List (Chart Float)} (h : ∀ c ∈ fresh, c.Fresh)
    (rs : List Record) : ∀ c ∈ Charts.shown fresh rs, c.Dormant := by
  intro c hc
  obtain ⟨d, hd, rfl⟩ := List.mem_map.mp hc
  exact Chart.Dormant.processAll ⟨(h d hd).active, (h d hd).published⟩ _

namespace Walk

variable {w : Walk} {books : Books} {g : Twister}

/-- A run whose charts are those of a plain reading of its stream.

The charts that a search is given are fresh charts shown every record before its window in sample. The
charts that a trading is given are fresh charts shown every record before the end of that window.
Neither publish anything. A result counts for each chart the records before the window in sample of the
last step that was begun. -/
structure Unrewound (w : Walk) (books : Books) (g : Twister) (fresh : List (Chart Float)) : Prop where
  search : ∀ k cs, w.searchCharts? books g k = some cs → ∃ i, w.inSample? books g k = some i ∧
    cs = Charts.shown fresh (w.source.recordsBefore i.start) ∧ ∀ c ∈ cs, c.Dormant
  trade : ∀ k cs, w.tradeCharts? books g k = some cs → ∃ i, w.inSample? books g k = some i ∧
    cs = Charts.shown fresh (w.source.recordsBefore i.stop) ∧ ∀ c ∈ cs, c.Dormant
  count : ∀ s r, w.run books g = (s, .ok r) →
    ∃ i, w.inSample? books g ((r.failed.map (·.1)).getD r.steps.length) = some i ∧
      r.chartTicks = fresh.map fun _ => (w.source.recordsBefore i.start).length

/-- The last step that a run begins: a failed step if there is one, else the last completed one. Its
end is at the place where it came to its search. -/
theorem exists_prepared_of_run {s : WalkState} {r : WalkResult} (hsteps : 1 ≤ w.plan.steps)
    (h : w.run books g = (s, .ok r)) :
    ∃ u i, w.prepared books g ((r.failed.map (·.1)).getD r.steps.length) = some (u, i) ∧
      r.chartTicks = u.pristine.map (·.ticksProcessed) := by
  obtain ⟨hall, hle, t, t', ht, hticks, hend⟩ := run_eq_ok h
  rcases hend with ⟨hfailed, hlen, rfl⟩ | ⟨f, hfailed, hlt, hstep⟩
  · -- no step failed, and there is at least one, so the last is the completed one
    obtain ⟨n, hn⟩ := Nat.exists_eq_add_of_le hsteps
    have hlast : r.steps.length = n + 1 := by omega
    obtain ⟨v, v', hv, hstep⟩ := hall n r.steps[n] (List.getElem?_eq_getElem (by omega))
    obtain ⟨u, i, hprepared, hplace⟩ := exists_prepared_of_step (by omega) hv hstep
    have hnext : w.reached books g (n + 1) = some v' := by
      obtain ⟨a, ha, hva⟩ := Option.bind_eq_some_iff.mp hv
      rw [reached, ha, Option.bind_some, after, hva, Option.bind_some, Nat.add_comm 1 n]
      exact completed?_eq_some.mpr ⟨_, hstep⟩
    rw [hlast, hnext] at ht
    obtain rfl := Option.some.inj ht
    have hpristine : v'.pristine = u.pristine := congrArg Prod.snd hplace
    exact ⟨u, i, by rw [hfailed, hlast]; exact hprepared, by rw [hticks, hpristine]⟩
  · obtain ⟨u, i, hprepared, hplace⟩ := exists_prepared_of_step hlt ht hstep
    have hpristine : t'.pristine = u.pristine := congrArg Prod.snd hplace
    exact ⟨u, i, by rw [hfailed]; exact hprepared, by rw [hticks, hpristine]⟩

/-- The charts of every run of an accepted configuration are those of a plain reading of its stream,
on any source and with any strategy. -/
theorem unrewound_of_plan {c : Configuration} (hc : c.plan = .ok w.plan) (books : Books)
    (g : Twister) :
    ∃ fresh, readCharts c.chartText = .ok fresh ∧ w.Unrewound books g fresh := by
  obtain ⟨hsteps, -, -, -, hcharts, -⟩ := Configuration.plan_eq_ok hc
  have hfresh := fresh_of_readCharts hcharts
  obtain ⟨before, after, fault, hit⟩ := exists_itinerary w books g
  have hsearch (k : ℕ) (s : WalkState) (i : Stretch) (h : w.prepared books g k = some (s, i)) :
      i.window.start = s.cursor ∧
        s.pristine = Charts.shown w.plan.charts (w.source.recordsBefore s.cursor) := by
    obtain ⟨hstands, hcollect, -⟩ := hit.prepared k s i h
    obtain ⟨hstart, -⟩ := hstands.window hcollect
    exact ⟨hstart, by rw [hstands.cut.recordsBefore_eq, hstands.charts, Charts.processAll_eq_map]; rfl⟩
  refine ⟨w.plan.charts, hcharts, ?_, ?_, ?_⟩
  · intro k cs h
    obtain ⟨⟨s, i⟩, hprepared, rfl⟩ := Option.map_eq_some_iff.mp h
    obtain ⟨hstart, hcs⟩ := hsearch k s i hprepared
    refine ⟨i.window, by rw [inSample?, hprepared]; rfl, by rw [hstart]; exact hcs, ?_⟩
    simp only [hcs]
    exact Charts.dormant_shown hfresh _
  · intro k cs h
    obtain ⟨⟨s, charts, o⟩, hfollowed, rfl⟩ := Option.map_eq_some_iff.mp h
    obtain ⟨u, i, hprepared, hreplay, -⟩ := hit.followed k s charts o hfollowed
    obtain ⟨hstands, hcollect, -⟩ := hit.prepared k u i hprepared
    obtain ⟨-, -, -, hcut⟩ := hstands.window hcollect
    have hcs : charts = Charts.shown w.plan.charts (w.source.recordsBefore i.window.stop) := by
      rw [hreplay, hstands.replay hcollect, hcut.recordsBefore_eq, Charts.processAll_eq_map]
      rfl
    refine ⟨i.window, by rw [inSample?, hprepared]; rfl, hcs, ?_⟩
    simp only [hcs]
    exact Charts.dormant_shown hfresh _
  · intro s r h
    obtain ⟨u, i, hprepared, hticks⟩ := exists_prepared_of_run hsteps h
    obtain ⟨hstart, hcs⟩ := hsearch _ u i hprepared
    refine ⟨i.window, by rw [inSample?, hprepared]; rfl, ?_⟩
    rw [hticks, hcs, hstart, Charts.shown, List.map_map]
    refine List.map_congr_left fun d hd => ?_
    simp [(hfresh d hd).ticksProcessed]

/-- The charts of two steps over daily ticks, with one chart and an indicator, are those of a plain
reading. -/
theorem unrewound_of_plan_weekly : ∃ p s r fresh, (Configuration.weekly 2).plan = .ok p ∧
    (buying p (dailyTicks newYear 40)).run Books.new (Twister.ofSeed 1) = (s, .ok r) ∧
    r.steps.length = 2 ∧ readCharts (Configuration.weekly 2).chartText = .ok fresh ∧
    (buying p (dailyTicks newYear 40)).Unrewound Books.new (Twister.ofSeed 1) fresh := by
  obtain ⟨p, s, r, hp, hrun, hlen⟩ := exists_run_weekly
  obtain ⟨fresh, hfresh, hcharts⟩ :=
    unrewound_of_plan (w := buying p (dailyTicks newYear 40)) hp Books.new (Twister.ofSeed 1)
  exact ⟨p, s, r, fresh, hp, hrun, hlen, hfresh, hcharts⟩

end Walk

end Backtest
