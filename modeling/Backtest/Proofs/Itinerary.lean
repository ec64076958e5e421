import Backtest.Proofs.ChartFeed
import Backtest.Proofs.Course

/-!
# The itinerary of a walk

A run stands at a cut of its stream from its alignment on, with charts that saw what is before it. Each
step moves it on by the days of one window out of sample, gathers a window in sample there and a window
out of sample behind that. So the whole run is told by the cut at which it was aligned.

* `days_mul`, the days of several windows;
* `Walk.StandsAt`, a state at a cut of the stream, with charts that saw what is before it;
* `Walk.align_stands`, `Walk.approach_eq_ok`, `Walk.prepare_eq_ok`, `Walk.follow_eq_ok`, what the
  parts of a run leave;
* `Walk.Itinerary`, the cuts of a run, and `Walk.exists_itinerary`.
-/

namespace Backtest

/-- The days of several windows of one length are the days of each, one window behind the other. -/
theorem days_mul (m n : ℕ) (rs : List Record) :
    days (m * n) rs = (List.range m).flatMap fun k => days n (afterDays (k * n) rs) := by
  induction m with
  | zero => simp
  | succ m ih => rw [Nat.succ_mul, days_add, ih, List.range_succ, List.flatMap_append]; simp

namespace Walk

variable {w : Walk} {books : Books} {g : Twister}

/-- How many days a window in sample holds, counted by their ends. -/
def inSampleSpan (w : Walk) : ℕ := DayCounter.endsFor w.plan.inSampleDays

/-- How many days a window out of sample holds, counted by their ends. -/
def outOfSampleSpan (w : Walk) : ℕ := DayCounter.endsFor w.plan.outOfSampleDays

/-- A walk stands between two parts of its stream, with charts that saw the first. -/
structure StandsAt (w : Walk) (s : WalkState) (before after : List Record)
    (fault : Option Fault) : Prop where
  cut : w.source.Cut s.cursor before after fault
  charts : s.pristine = Charts.processAll w.plan.charts (before.map (·.tick))

variable {s s' : WalkState} {before after : List Record} {fault : Option Fault}

theorem StandsAt.of_place (h : w.StandsAt s before after fault) (hp : s'.place = s.place) :
    w.StandsAt s' before after fault := by
  obtain ⟨hc, hpr⟩ := Prod.mk.inj hp
  exact ⟨hc ▸ h.cut, hpr ▸ h.charts⟩

/-! ### The parts of a step -/

/-- A walk that is aligned has filled its charts and then found a Sunday. -/
theorem align_eq_ok (h : w.align s = (s', .ok ())) :
    ∃ charts cursor sunday, fillCharts w.source w.plan.charts 0 = (charts, .ok cursor) ∧
      advanceToSunday w.source charts cursor = (s'.pristine, .ok (s'.cursor, sunday)) := by
  rcases hfill : fillCharts w.source w.plan.charts 0 with ⟨charts, filled⟩
  simp only [align, hfill] at h
  obtain ⟨s₁, cursor, hfilled, hrest⟩ := andThen_eq_ok.mp h
  obtain ⟨-, rfl⟩ := Prod.mk.inj hfilled
  rcases hsunday : advanceToSunday w.source charts cursor with ⟨pristine, found⟩
  simp only [hsunday] at hrest
  obtain ⟨s₂, ⟨cursor', sunday⟩, hfound, hend⟩ := andThen_eq_ok.mp hrest
  obtain ⟨-, rfl⟩ := Prod.mk.inj hfound
  obtain ⟨rfl, -⟩ := Prod.mk.inj hend
  exact ⟨charts, cursor, sunday, rfl, hsunday⟩

theorem align_stands (h : w.align s = (s', .ok ())) :
    ∃ before after fault, w.StandsAt s' before after fault := by
  obtain ⟨charts, cursor, sunday, hfill, hsunday⟩ := align_eq_ok h
  obtain ⟨seen, rest, -, hcut, hcharts⟩ := w.source.cut_zero.fill hfill
  obtain ⟨seen', rest', -, hcut', hcharts', -⟩ := hcut.toSunday hsunday
  refine ⟨_, _, _, hcut', ?_⟩
  rw [hcharts', hcharts, List.nil_append, List.map_append, Charts.processAll_append]

/-- The first step starts where the walk stands, each other step one window out of sample later. -/
theorem approach_eq_ok {k : ℕ} (hs : w.StandsAt s before after fault)
    (h : w.approach k s = (s', .ok ())) :
    let n := (if k ≤ 1 then 0 else 1) * w.outOfSampleSpan
    w.StandsAt s' (before ++ days n after) (afterDays n after) fault := by
  unfold approach at h
  split at h
  · rename_i hk
    obtain ⟨rfl, -⟩ := Prod.mk.inj h
    simpa [hk] using hs
  · rename_i hk
    simp only at h
    match hadvance : advanceCharts w.source s.cursor w.plan.outOfSampleDays s.pristine with
    | (pristine, .error f) =>
      simp only [WalkState.tell, hadvance, Prod.mk.injEq, reduceCtorEq, and_false] at h
    | (pristine, .ok cursor) =>
      simp only [WalkState.tell, hadvance, Prod.mk.injEq, and_true] at h
      obtain ⟨hcharts, -, hcut⟩ := hs.cut.advance hadvance
      subst h
      simp only [hk, if_false, Nat.one_mul]
      refine ⟨hcut, ?_⟩
      rw [hcharts, hs.charts, List.map_append, Charts.processAll_append]
      rfl

theorem stretch?_eq_some {v : Window} {t : Stretch} (h : v.stretch? = some t) :
    t.window = v ∧ v.ticks.head?.map (·.time) = some t.first ∧
      v.ticks.getLast?.map (·.time) = some t.last := by
  unfold Window.stretch? at h
  split at h
  · rename_i first last hfirst hlast
    obtain rfl := Option.some.inj h
    exact ⟨rfl, by rw [hfirst]; rfl, by rw [hlast]; rfl⟩
  · simp at h

/-- A window that is gathered holds ticks. -/
theorem gather_eq_ok {sample : Sample} {k days : ℕ} {start : ℤ} {t : Stretch}
    (h : w.gather sample k start days s = (s', .ok t)) :
    collectWindow w.source start days = .ok t.window ∧ t.window.stretch? = some t := by
  unfold gather at h
  split at h
  · simp at h
  · rename_i window hwindow
    split at h
    · simp at h
    · rename_i t' ht
      simp only [Prod.mk.injEq, Except.ok.injEq] at h
      obtain ⟨-, rfl⟩ := h
      obtain ⟨rfl, -⟩ := stretch?_eq_some ht
      exact ⟨hwindow, ht⟩

theorem prepare_eq_ok {k : ℕ} {i : Stretch} (h : w.prepare k s = (s', .ok i)) :
    (∃ s₁, w.approach k s = (s₁, .ok ()) ∧ s'.place = s₁.place) ∧
      collectWindow w.source s'.cursor w.plan.inSampleDays = .ok i.window ∧
      i.window.stretch? = some i := by
  have hplace := prepare_place (w := w) k s
  obtain ⟨s₁, _, happroach, hgather⟩ := andThen_eq_ok.mp h
  rw [h, happroach] at hplace
  obtain ⟨hcollect, hstretch⟩ := gather_eq_ok hgather
  have hcursor : s'.cursor = s₁.cursor := congrArg Prod.fst hplace
  exact ⟨⟨s₁, happroach, hplace⟩, by rw [hcursor]; exact hcollect, hstretch⟩

theorem follow_eq_ok {k : ℕ} {charts charts' : List (Chart Float)} {i o : Stretch}
    (h : w.follow k charts i s = (s', .ok (charts', o))) :
    charts' = (replayCharts w.source i.window.start i.window.stop charts).1 ∧
      collectWindow w.source i.window.stop w.plan.outOfSampleDays = .ok o.window ∧
      o.window.stretch? = some o := by
  simp only [follow] at h
  obtain ⟨s₁, n, hreplay, h⟩ := andThen_eq_ok.mp h
  obtain ⟨s₂, o', hgather, h⟩ := andThen_eq_ok.mp h
  simp only [Prod.mk.injEq, Except.ok.injEq] at h
  obtain ⟨-, rfl, rfl⟩ := h
  obtain ⟨hcollect, hstretch⟩ := gather_eq_ok hgather
  exact ⟨rfl, hcollect, hstretch⟩

/-! ### Windows at a cut -/

/-- A window in sample that is gathered where a walk stands holds the days behind that place and stops
at the cut behind these. -/
theorem StandsAt.window {i : Window} (hs : w.StandsAt s before after fault)
    (h : collectWindow w.source s.cursor w.plan.inSampleDays = .ok i) :
    let n := w.inSampleSpan
    i.start = s.cursor ∧ i.ticks = (days n after).map (·.tick) ∧
      walkEnd s.cursor fault (days n after) (afterDays n after) = .ok i.stop ∧
      w.source.Cut i.stop (before ++ days n after) (afterDays n after) fault :=
  hs.cut.window h

/-- The charts that are shown a window in sample saw everything before its end. -/
theorem StandsAt.replay {i : Window} (hs : w.StandsAt s before after fault)
    (h : collectWindow w.source s.cursor w.plan.inSampleDays = .ok i) :
    (replayCharts w.source i.start i.stop s.pristine).1 =
      Charts.processAll w.plan.charts
        ((before ++ days w.inSampleSpan after).map (·.tick)) := by
  obtain ⟨hstart, -, hend, hcut⟩ := hs.window h
  obtain ⟨-, ts, -, hwalk⟩ := collectWindow_eq_ok h
  have hread := hs.cut.records_of_walk hwalk
  rw [← days_append_afterDays w.inSampleSpan after] at hread
  rw [hstart, hcut.replay (fault_of_walkEnd hend) hread, hs.charts, List.map_append,
    Charts.processAll_append]

/-! ### The cuts of a run -/

/-- Where a step stands that moves on from the steps before it. -/
theorem approach_stands {n : ℕ} {v : WalkState}
    (hs : let m := (n - 1) * w.outOfSampleSpan
      w.StandsAt s (before ++ days m after) (afterDays m after) fault)
    (h : w.approach (n + 1) s = (v, .ok ())) :
    let m := n * w.outOfSampleSpan
    w.StandsAt v (before ++ days m after) (afterDays m after) fault := by
  have hv := approach_eq_ok hs h
  simp only [List.append_assoc, ← days_add, ← afterDays_add_comm] at hv
  have hm : (n - 1) * w.outOfSampleSpan + (if n + 1 ≤ 1 then 0 else 1) * w.outOfSampleSpan =
      n * w.outOfSampleSpan := by
    rw [← Nat.add_mul]
    congr 1
    split <;> omega
  rwa [hm] at hv

/-- Where a run stands behind its first `n` steps: at the cut of its alignment, moved on by one window
out of sample for each step but the first. -/
theorem reached_stands {n : ℕ} {s₀ : WalkState} (h₀ : w.reached books g 0 = some s₀)
    (hs : w.StandsAt s₀ before after fault) (h : w.reached books g n = some s) :
    let m := (n - 1) * w.outOfSampleSpan
    w.StandsAt s (before ++ days m after) (afterDays m after) fault := by
  obtain ⟨⟨a, _⟩, ha, h₀⟩ := Option.bind_eq_some_iff.mp h₀
  obtain rfl := Option.some.inj h₀
  have hafter (n : ℕ) : w.reached books g n = w.after 1 a n := by rw [reached, ha]; rfl
  rw [hafter] at h
  induction n generalizing s with
  | zero =>
    obtain rfl := Option.some.inj h
    simpa using hs
  | succ n ih =>
    obtain ⟨u, hu, hstep⟩ := Option.bind_eq_some_iff.mp h
    rw [Nat.add_comm 1 n] at hstep
    obtain ⟨r, hr⟩ := completed?_eq_some.mp hstep
    obtain ⟨s₁, i, _, _, _, _, _, _, _, hprepare, -⟩ := step_eq_completed hr
    obtain ⟨⟨v, happroach, -⟩, -⟩ := prepare_eq_ok hprepare
    have hplace := step_place (w := w) (n + 1) u
    rw [hr, happroach] at hplace
    exact (approach_stands (ih hu) happroach).of_place hplace

theorem exists_reached_zero {n : ℕ} (h : w.reached books g n = some s) :
    ∃ s₀ before after fault, w.reached books g 0 = some s₀ ∧ w.StandsAt s₀ before after fault := by
  obtain ⟨⟨a, _⟩, ha, -⟩ := Option.bind_eq_some_iff.mp h
  obtain ⟨before, after, fault, hs⟩ := align_stands (done?_eq_some.mp ha)
  exact ⟨a, before, after, fault, by rw [reached, ha]; rfl, hs⟩

/-- The cuts of a run. It was aligned between two parts of its stream; a step comes to its search so
many windows out of sample further on, and to its trading behind its window in sample. -/
structure Itinerary (w : Walk) (books : Books) (g : Twister) (before after : List Record)
    (fault : Option Fault) : Prop where
  prepared : ∀ k s i, w.prepared books g k = some (s, i) →
    let m := (k - 1) * w.outOfSampleSpan
    w.StandsAt s (before ++ days m after) (afterDays m after) fault ∧
      collectWindow w.source s.cursor w.plan.inSampleDays = .ok i.window ∧
      i.window.stretch? = some i
  followed : ∀ k s charts o, w.followed books g k = some (s, charts, o) →
    ∃ s₁ i, w.prepared books g k = some (s₁, i) ∧
      charts = (replayCharts w.source i.window.start i.window.stop s₁.pristine).1 ∧
      collectWindow w.source i.window.stop w.plan.outOfSampleDays = .ok o.window ∧
      o.window.stretch? = some o

/-- Every run has an itinerary. -/
theorem exists_itinerary (w : Walk) (books : Books) (g : Twister) :
    ∃ before after fault, w.Itinerary books g before after fault := by
  have hfollowed (k : ℕ) (s : WalkState) (charts : List (Chart Float)) (o : Stretch)
      (h : w.followed books g k = some (s, charts, o)) :
      ∃ s₁ i, w.prepared books g k = some (s₁, i) ∧
        charts = (replayCharts w.source i.window.start i.window.stop s₁.pristine).1 ∧
        collectWindow w.source i.window.stop w.plan.outOfSampleDays = .ok o.window ∧
        o.window.stretch? = some o := by
    obtain ⟨s₁, i, s₂, found, hi, -, hfollow⟩ := followed_eq_some.mp h
    obtain ⟨hcharts, hcollect, hstretch⟩ := follow_eq_ok hfollow
    exact ⟨s₁, i, hi, hcharts, hcollect, hstretch⟩
  cases h₀ : w.reached books g 0 with
  | none =>
    -- a run that is not aligned comes to no step, so any cuts will do
    refine ⟨[], [], none, ?_, hfollowed⟩
    intro k s i h
    obtain ⟨n, u, -, -, hu, -⟩ := prepared_eq_some.mp h
    obtain ⟨s₀, -, -, -, hs₀, -⟩ := exists_reached_zero hu
    rw [h₀] at hs₀
    exact absurd hs₀ (by simp)
  | some s₀ =>
    obtain ⟨s₀', before, after, fault, h₀', hs⟩ := exists_reached_zero h₀
    obtain rfl := Option.some.inj (h₀.symm.trans h₀')
    refine ⟨before, after, fault, ?_, hfollowed⟩
    intro k s i h m
    obtain ⟨n, u, rfl, -, hu, hprepare⟩ := prepared_eq_some.mp h
    obtain ⟨⟨v, happroach, hplace⟩, hcollect, hstretch⟩ := prepare_eq_ok hprepare
    exact ⟨(approach_stands (reached_stands h₀ hs hu) happroach).of_place hplace, hcollect, hstretch⟩

end Walk

end Backtest
