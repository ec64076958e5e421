import Backtest.Proofs.Itinerary
import Mathlib.Data.List.Infix

/-!
# Windows out of sample tile the stream

The window out of sample of a step starts where that of the step before ended, although the step was
reached another way: over a window out of sample first and over the window in sample then. Taken
together the windows out of sample of a run are one stretch of the stream, which starts where the
first window in sample ended.

* `StepResult.Tells`, a result of two windows; `Walk.Tiled`, a result whose windows tile the stream;
* `Walk.Itinerary.outOfSample`, where a window out of sample stands;
* `Walk.run_tiled`, every run that gives a result is tiled.
-/

namespace Backtest

/-- The result of a step tells how many ticks its windows hold and when the first and the last of
these were. -/
structure StepResult.Tells (x : StepResult) (i o : Window) : Prop where
  inSampleTicks : x.inSampleTicks = i.ticks.length
  inSampleStart : i.ticks.head?.map (·.time) = some x.inSampleStart
  inSampleEnd : i.ticks.getLast?.map (·.time) = some x.inSampleEnd
  outOfSampleTicks : x.outOfSampleTicks = o.ticks.length
  outOfSampleStart : o.ticks.head?.map (·.time) = some x.outOfSampleStart
  outOfSampleEnd : o.ticks.getLast?.map (·.time) = some x.outOfSampleEnd

theorem resultOf_tells {k : ℕ} {i o : Stretch} {found : SearchResult} {score : Float}
    (hi : i.window.stretch? = some i) (ho : o.window.stretch? = some o) :
    (Walk.resultOf k i o found score).Tells i.window o.window := by
  obtain ⟨-, hifirst, hilast⟩ := Walk.stretch?_eq_some hi
  obtain ⟨-, hofirst, holast⟩ := Walk.stretch?_eq_some ho
  exact ⟨rfl, hifirst, hilast, rfl, hofirst, holast⟩

theorem ticks_ne_nil_of_stretch? {v : Window} {t : Stretch} (h : v.stretch? = some t) :
    v.ticks ≠ [] := by
  obtain ⟨-, hfirst, -⟩ := Walk.stretch?_eq_some h
  intro hnil
  simp [hnil] at hfirst

namespace Walk

variable {w : Walk} {books : Books} {g : Twister} {before after : List Record}
  {fault : Option Fault}

/-- The windows of the steps of a result tile the stream.

Each result of a step tells of the windows that the step gathered, and its window out of sample starts
where its window in sample stops. The window out of sample of the next step starts where it stops
itself. The ticks of all windows out of sample together are the ticks of one stretch of the stream;
what stands before it ends with the first window in sample. -/
structure Tiled (w : Walk) (books : Books) (g : Twister) (r : WalkResult) : Prop where
  gathered : ∀ k x, r.steps[k]? = some x → ∃ i o, w.inSample? books g (k + 1) = some i ∧
    w.outOfSample? books g (k + 1) = some o ∧ x.Tells i o ∧ o.start = i.stop
  joined : ∀ k o o', w.outOfSample? books g (k + 1) = some o →
    w.outOfSample? books g (k + 2) = some o' → o'.start = o.stop
  stretch : ∀ i, w.inSample? books g 1 = some i → ∃ before traded after,
    (w.source.readFrom 0).records.1 = before ++ traded ++ after ∧
    i.ticks <:+ before.map (·.tick) ∧
    (∀ q ∈ before, q.next ≤ i.stop) ∧
    (∀ q ∈ traded ++ after, i.stop ≤ q.position) ∧
    traded.map (·.tick) = (List.range r.steps.length).flatMap fun k =>
      ((w.outOfSample? books g (k + 1)).map (·.ticks)).getD []

/-- The window out of sample of a step stands behind its window in sample. -/
theorem Itinerary.outOfSample (h : w.Itinerary books g before after fault) {k : ℕ} {o : Window}
    (ho : w.outOfSample? books g k = some o) :
    let there := afterDays w.inSampleSpan (afterDays ((k - 1) * w.outOfSampleSpan) after)
    ∃ i, w.inSample? books g k = some i ∧ o.start = i.stop ∧
      o.ticks = (days w.outOfSampleSpan there).map (·.tick) ∧
      (∃ r rest, there = r :: rest ∧ i.stop = r.position) ∧
      walkEnd i.stop fault (days w.outOfSampleSpan there) (afterDays w.outOfSampleSpan there) =
        .ok o.stop := by
  intro there
  obtain ⟨⟨s, charts, t⟩, hfollowed, rfl⟩ := Option.map_eq_some_iff.mp ho
  obtain ⟨s₁, i, hprepared, -, hcollect, hstretch⟩ := h.followed k s charts t hfollowed
  obtain ⟨hstands, hcollecti, -⟩ := h.prepared k s₁ i hprepared
  obtain ⟨-, -, hend, hcut⟩ := hstands.window hcollecti
  obtain ⟨hstart, hticks, hstop, -⟩ := hcut.window hcollect
  refine ⟨i.window, by rw [inSample?, hprepared]; rfl, hstart, hticks, ?_, hstop⟩
  cases hthere : there with
  | nil =>
    -- a window out of sample that is gathered holds ticks, so the one in sample stops before some
    refine absurd ?_ (ticks_ne_nil_of_stretch? hstretch)
    rw [hticks]
    simp [there] at hthere
    simp [hthere]
  | cons r rest =>
    refine ⟨r, rest, rfl, ?_⟩
    have hpos : walkEnd s₁.cursor fault _ there = .ok i.window.stop := hend
    rw [hthere] at hpos
    exact (Except.ok.inj hpos).symm

/-- The cursors of the windows of a step are in order. -/
theorem Itinerary.order (h : w.Itinerary books g before after fault) {k : ℕ} {o : Window}
    (ho : w.outOfSample? books g k = some o) :
    ∃ i, w.inSample? books g k = some i ∧ 0 ≤ i.start ∧ i.start ≤ i.stop ∧ i.stop ≤ o.stop := by
  obtain ⟨⟨s, charts, t⟩, hfollowed, rfl⟩ := Option.map_eq_some_iff.mp ho
  obtain ⟨s₁, i, hprepared, -, hcollect, -⟩ := h.followed k s charts t hfollowed
  obtain ⟨hstands, hcollecti, -⟩ := h.prepared k s₁ i hprepared
  obtain ⟨hstart, -, -, hcut⟩ := hstands.window hcollecti
  refine ⟨i.window, by rw [inSample?, hprepared]; rfl, ?_, ?_, hcut.start_le_stop hcollect⟩
  · rw [hstart]
    exact hstands.cut.nonneg
  · rw [hstart]
    exact hstands.cut.start_le_stop hcollecti

/-- The windows out of sample of two steps are joined: both ways lead over as many days. -/
theorem Itinerary.joined (h : w.Itinerary books g before after fault) {k : ℕ} {o o' : Window}
    (ho : w.outOfSample? books g (k + 1) = some o)
    (ho' : w.outOfSample? books g (k + 2) = some o') : o'.start = o.stop := by
  obtain ⟨i, -, -, -, -, hstop⟩ := h.outOfSample ho
  obtain ⟨i', -, hstart', -, ⟨r, rest, hthere', hpos'⟩, -⟩ := h.outOfSample ho'
  -- over the windows out of sample first or over the window in sample first: the same days
  have hsame : afterDays w.outOfSampleSpan
      (afterDays w.inSampleSpan (afterDays (k * w.outOfSampleSpan) after)) = r :: rest := by
    rw [afterDays_comm, ← afterDays_add_comm (k * w.outOfSampleSpan), ← Nat.succ_mul]
    exact hthere'
  simp only [Nat.add_sub_cancel] at hstop
  rw [hsame] at hstop
  rw [hstart', hpos', ← Except.ok.inj hstop]

/-- The windows out of sample of the first `m` steps are one stretch of the stream, which starts where
the first window in sample stops. -/
theorem Itinerary.stretch (h : w.Itinerary books g before after fault) {m : ℕ} {i : Window}
    (hi : w.inSample? books g 1 = some i)
    (ho : ∀ k < m, ∃ o, w.outOfSample? books g (k + 1) = some o) :
    ∃ pre traded post, (w.source.readFrom 0).records.1 = pre ++ traded ++ post ∧
      i.ticks <:+ pre.map (·.tick) ∧ (∀ q ∈ pre, q.next ≤ i.stop) ∧
      (∀ q ∈ traded ++ post, i.stop ≤ q.position) ∧
      traded.map (·.tick) = (List.range m).flatMap fun k =>
        ((w.outOfSample? books g (k + 1)).map (·.ticks)).getD [] := by
  obtain ⟨⟨s, t⟩, hprepared, rfl⟩ := Option.map_eq_some_iff.mp hi
  obtain ⟨hstands, hcollect, -⟩ := h.prepared 1 s t hprepared
  obtain ⟨-, hticks, -, hcut⟩ := hstands.window hcollect
  simp only [Nat.sub_self, Nat.zero_mul, days_zero, afterDays_zero, List.append_nil]
    at hcut hticks
  let there := afterDays w.inSampleSpan after
  let traded := days (m * w.outOfSampleSpan) there
  let post := afterDays (m * w.outOfSampleSpan) there
  have hthere : traded ++ post = there := days_append_afterDays _ _
  refine ⟨before ++ days w.inSampleSpan after, traded, post, ?_, ?_, hcut.below, ?_, ?_⟩
  · rw [hcut.stream, List.append_assoc _ traded, hthere]
  · rw [hticks, List.map_append]
    exact List.suffix_append _ _
  · rw [hthere]
    exact hcut.above
  · rw [show traded = _ from days_mul m _ there, List.map_flatMap]
    refine List.flatMap_congr fun k hk => ?_
    obtain ⟨o, hok⟩ := ho k (List.mem_range.mp hk)
    obtain ⟨-, -, -, hoticks, -⟩ := h.outOfSample hok
    rw [hok, Option.map_some, Option.getD_some, hoticks, Nat.add_sub_cancel, afterDays_comm]

/-- A step that a result holds has gathered both windows, and its result tells of them. -/
theorem exists_windows_of_run {s : WalkState} {r : WalkResult} (h : w.run books g = (s, .ok r)) {k : ℕ}
    {x : StepResult} (hx : r.steps[k]? = some x) :
    ∃ i o, w.inSample? books g (k + 1) = some i ∧ w.outOfSample? books g (k + 1) = some o ∧
      x.Tells i o ∧ o.start = i.stop := by
  obtain ⟨before, after, fault, hit⟩ := exists_itinerary w books g
  obtain ⟨hall, hle, -⟩ := run_eq_ok h
  obtain ⟨u, u', hu, hstep⟩ := hall k x hx
  have hk : k < r.steps.length := (List.getElem?_eq_some_iff.mp hx).1
  obtain ⟨s₁, i, s₂, found, s₃, charts, o, score, hi, -, ho, rfl⟩ :=
    exists_followed_of_completed (hk.trans_le hle) hu hstep
  obtain ⟨-, -, hstretchi⟩ := hit.prepared _ _ _ hi
  obtain ⟨-, -, -, -, -, hstretcho⟩ := hit.followed _ _ _ _ ho
  have ho' : w.outOfSample? books g (k + 1) = some o.window := by rw [outOfSample?, ho]; rfl
  have hi' : w.inSample? books g (k + 1) = some i.window := by rw [inSample?, hi]; rfl
  obtain ⟨j, hj, hstart, -⟩ := hit.outOfSample ho'
  obtain rfl := Option.some.inj (hi'.symm.trans hj)
  exact ⟨i.window, o.window, hi', ho', resultOf_tells hstretchi hstretcho, hstart⟩

/-- The windows of every run that gives a result tile the stream, for any lengths of the samples and
whatever the days of its ticks are. -/
theorem run_tiled {s : WalkState} {r : WalkResult} (h : w.run books g = (s, .ok r)) :
    w.Tiled books g r := by
  obtain ⟨before, after, fault, hit⟩ := exists_itinerary w books g
  refine ⟨fun k x hx => exists_windows_of_run h hx, fun k o o' ho ho' => hit.joined ho ho',
    fun i hi => hit.stretch hi ?_⟩
  intro k hk
  obtain ⟨-, o, -, ho, -⟩ := exists_windows_of_run h (List.getElem?_eq_getElem hk)
  exact ⟨o, ho⟩

/-- Two steps over daily ticks, two weeks in sample and one week out of sample each, tile the stream. -/
theorem run_tiled_weekly : ∃ p s r, (Configuration.weekly 2).plan = .ok p ∧
    (buying p (dailyTicks newYear 40)).run Books.new (Twister.ofSeed 1) = (s, .ok r) ∧
    r.steps.length = 2 ∧ (buying p (dailyTicks newYear 40)).Tiled Books.new (Twister.ofSeed 1) r := by
  obtain ⟨p, s, r, hp, hrun, hlen⟩ := exists_run_weekly
  exact ⟨p, s, r, hp, hrun, hlen, run_tiled hrun⟩

end Walk

end Backtest
