import Backtest.Proofs.Course
import Backtest.Proofs.Memory
import Backtest.Proofs.Resumption
import Mathlib.Order.Bounds.Basic

/-!
# Boundaries between days

A record begins a day if its day of the month is not that of the record before it. A walk over days
stops at such a boundary, and which one that is depends on the target alone: the least number of them
that, with one more counted for every five behind the first, comes up to the target.

* `DayCounter.isLeast_endsFor`, the number of boundaries that a target asks for;
* `boundaries`, the places at which days begin; `getElem?_boundaries`, the days in front of one of them;
* `walkEnd_resume`, a walk that is resumed; `TickSource.Walks`, what a walk visits and where it ends;
  `TickSource.Fits.walks_then`, two walks one after the other;
* `TickSource.walks_to_boundary`, the main statement.
-/

namespace Backtest

/-- The ends of days that a target asks for are the least number whose count comes up to it. -/
theorem DayCounter.isLeast_endsFor (target : ℤ) :
    IsLeast {k : ℕ | 1 ≤ k ∧ target ≤ (k + (k - 1) / 5 : ℕ)} (endsFor target) := by
  have hcount {k : ℕ} (hk : 1 ≤ k) : target ≤ (k + (k - 1) / 5 : ℕ) ↔ endsFor target ≤ k := by
    rw [← daysAfter_eq hk, le_daysAfter_iff target hk]
  have hpos := endsFor_pos target
  exact ⟨⟨hpos, (hcount hpos).mpr (Nat.le_refl _)⟩, fun k hk => (hcount hk.1).mp hk.2⟩

/-! ### Places at which days begin -/

/-- The places of the records behind the first whose day of the month is not that of the record before
them. -/
def boundaries (rs : List Record) : List ℕ :=
  let dayAt (i : ℕ) := rs[i]?.map (·.tick.day)
  (List.range rs.length).filter fun i => 0 < i && dayAt i != dayAt (i - 1)

theorem boundaries_singleton (r : Record) : boundaries [r] = [] := rfl

theorem boundaries_cons (r : Record) (rs : List Record) :
    boundaries (r :: rs) = ((List.range rs.length).filter fun i =>
      rs[i]?.map (·.tick.day) != (r :: rs)[i]?.map (·.tick.day)).map (· + 1) := by
  simp [boundaries, List.range_succ_eq_map, List.filter_map, Function.comp_def]

theorem boundaries_cons_cons (r q : Record) (rs : List Record) :
    boundaries (r :: q :: rs) =
      (if q.tick.day = r.tick.day then [] else [1]) ++ (boundaries (q :: rs)).map (· + 1) := by
  rw [boundaries_cons, boundaries_cons, List.length_cons, List.range_succ_eq_map, List.filter_cons,
    List.filter_map]
  by_cases h : q.tick.day = r.tick.day <;> simp [h, Function.comp_def]

section

variable {r q : Record} {rs : List Record}

theorem firstDay_cons_of_eq (h : q.tick.day = r.tick.day) :
    firstDay (r :: q :: rs) = r :: firstDay (q :: rs) := by
  simp [firstDay, h]

theorem laterDays_cons_of_eq (h : q.tick.day = r.tick.day) :
    laterDays (r :: q :: rs) = laterDays (q :: rs) := by
  simp [laterDays, h]

theorem firstDay_cons_of_ne (h : q.tick.day ≠ r.tick.day) : firstDay (r :: q :: rs) = [r] := by
  simp [firstDay, h]

theorem laterDays_cons_of_ne (h : q.tick.day ≠ r.tick.day) :
    laterDays (r :: q :: rs) = q :: rs := by
  simp [laterDays, h]

end

/-- In front of each boundary stand as many days as there are boundaries up to it; there is none where
these days are all of the records. -/
theorem getElem?_boundaries (n : ℕ) (rs : List Record) :
    (boundaries rs)[n]? =
      if afterDays (n + 1) rs = [] then none else some (days (n + 1) rs).length := by
  -- along the records; a record of the day of the next one moves the boundaries by one place, any
  -- other one puts a boundary in front of them as well
  induction rs generalizing n with
  | nil => simp [boundaries]
  | cons r rs ih =>
    cases rs with
    | nil => simp [boundaries_singleton, afterDays_succ, laterDays]
    | cons q rs =>
      by_cases h : q.tick.day = r.tick.day
      · rw [boundaries_cons_cons, if_pos h, List.nil_append, List.getElem?_map, ih, afterDays_succ,
          days_succ, afterDays_succ, days_succ, laterDays_cons_of_eq h, firstDay_cons_of_eq h]
        split <;> simp
      · rw [boundaries_cons_cons, if_neg h, List.singleton_append, afterDays_succ, days_succ,
          laterDays_cons_of_ne h, firstDay_cons_of_ne h]
        cases n with
        | zero => simp
        | succ n =>
          rw [List.getElem?_cons_succ, List.getElem?_map, ih]
          split <;> simp [Nat.add_comm]

/-- Where a boundary stands, the days in front of it are the records up to there. -/
theorem of_getElem?_boundaries {n i : ℕ} {rs : List Record} (h : (boundaries rs)[n]? = some i) :
    days (n + 1) rs = rs.take i ∧
      ∃ r later, afterDays (n + 1) rs = r :: later ∧ rs[i]? = some r := by
  rw [getElem?_boundaries] at h
  split at h
  · cases h
  · rename_i hne
    obtain rfl := Option.some.inj h
    obtain ⟨r, later, hlater⟩ := List.exists_cons_of_ne_nil hne
    have hsplit := days_append_afterDays (n + 1) rs
    generalize days (n + 1) rs = seen at *
    rw [hlater] at hsplit
    subst hsplit
    exact ⟨by simp, r, later, hlater, by simp⟩

/-- With fewer boundaries than days asked for, these are all of the records. -/
theorem of_length_boundaries_le {n : ℕ} {rs : List Record} (h : (boundaries rs).length ≤ n) :
    days (n + 1) rs = rs ∧ afterDays (n + 1) rs = [] := by
  have hnone : afterDays (n + 1) rs = [] := by
    by_contra hne
    have hsome := getElem?_boundaries n rs
    rw [if_neg hne, List.getElem?_eq_none h] at hsome
    cases hsome
  have hsplit := days_append_afterDays (n + 1) rs
  rw [hnone, List.append_nil] at hsplit
  exact ⟨hsplit, hnone⟩

/-! ### Walks -/

theorem lastNext_eq (c : ℤ) (rs : List Record) :
    lastNext c rs = (rs.getLast?.map (·.next)).getD c := by
  rcases List.eq_nil_or_concat' rs with rfl | ⟨init, last, rfl⟩
  · rfl
  · simp

/-- A walk that is resumed where one has ended comes to where one walk over both stretches does. -/
theorem walkEnd_resume {c e : ℤ} {fault : Option Fault} {seen seen' rest : List Record}
    (h : walkEnd c fault seen (seen' ++ rest) = .ok e) :
    walkEnd e fault seen' rest = walkEnd c fault (seen ++ seen') rest := by
  cases rest with
  | cons r rest => rfl
  | nil =>
    cases fault with
    | some f => rfl
    | none =>
      rcases List.eq_nil_or_concat' seen' with rfl | ⟨init, last, rfl⟩
      · obtain rfl := Except.ok.inj h
        simp [walkEnd]
      · simp [walkEnd, ← List.append_assoc]

namespace TickSource

variable {source : TickSource} {start target : ℤ} {rs : List Record}

/-- Whatever is done with each tick, a walk over so many days does it with these records in turn, with
nothing else, and ends at a cursor. -/
def Walks (source : TickSource) (start target : ℤ) (fed : List Record) (stop : ℤ) : Prop :=
  ∀ (σ : Type) (onTick : σ → Tick Float → σ) (state : σ),
    walkDays source start target onTick state = ((fed.map (·.tick)).foldl onTick state, .ok stop)

/-- A walk over records without a fault behind them comes to its end. -/
theorem exists_walkEnd (start : ℤ) (seen rest : List Record) :
    ∃ e, walkEnd start none seen rest = .ok e := by
  cases rest with
  | nil => exact ⟨_, rfl⟩
  | cons r rest => exact ⟨_, rfl⟩

theorem walks_of_walkEnd {stop : ℤ} (hs : (source.readFrom start).records = (rs, none))
    (he : walkEnd start none (days (DayCounter.endsFor target) rs)
      (afterDays (DayCounter.endsFor target) rs) = .ok stop) :
    source.Walks start target (days (DayCounter.endsFor target) rs) stop := by
  intro σ onTick state
  rw [walkDays_eq onTick hs, he]

/-- Two walks, one after the other, visit the days of both and end where one walk over all these days
would. -/
theorem Fits.walks_then (hfits : source.Fits) (hstart : 0 ≤ start)
    (hs : (source.readFrom start).records = (rs, none)) (target target' : ℤ) :
    let n := DayCounter.endsFor target
    let n' := DayCounter.endsFor target'
    ∃ mid last, source.Walks start target (days n rs) mid ∧
      source.Walks mid target' (days n' (afterDays n rs)) last ∧
      walkEnd start none (days (n + n') rs) (afterDays (n + n') rs) = .ok last := by
  intro n n'
  obtain ⟨mid, hmid⟩ := exists_walkEnd start (days n rs) (afterDays n rs)
  obtain ⟨last, hlast⟩ := exists_walkEnd mid (days n' (afterDays n rs)) (afterDays n' (afterDays n rs))
  have hread := hfits.records_walkEnd hstart (by rw [hs, days_append_afterDays]) hmid
  refine ⟨mid, last, walks_of_walkEnd hs hmid, walks_of_walkEnd hread hlast, ?_⟩
  rw [← days_append_afterDays n' (afterDays n rs)] at hmid
  rw [days_add, afterDays_add_comm, ← walkEnd_resume hmid, hlast]

/-- A walk feeds its visitor exactly the records in front of a boundary and stops there, or feeds it all
of them where there are fewer boundaries. It feeds it something whenever there is something, and comes
past its start then. Which boundary it is depends on the target alone, as the least number of them that
comes up to it, so two walks one after the other stop at the same record in either order. -/
theorem walks_to_boundary (hfits : source.Fits) (hstart : 0 ≤ start)
    (hs : (source.readFrom start).records = (rs, none)) (target : ℤ) :
    let f := DayCounter.endsFor target
    IsLeast {k : ℕ | 1 ≤ k ∧ target ≤ (k + (k - 1) / 5 : ℕ)} f ∧
    (∀ i, (boundaries rs)[f - 1]? = some i →
      ∃ r, rs[i]? = some r ∧ source.Walks start target (rs.take i) r.position) ∧
    ((boundaries rs).length < f →
      source.Walks start target rs ((rs.getLast?.map (·.next)).getD start)) ∧
    (rs ≠ [] → ∃ fed stop, source.Walks start target fed stop ∧ fed ≠ [] ∧ start < stop) ∧
    ∀ target', ∃ fed mid later last fed' mid' later',
      source.Walks start target fed mid ∧ source.Walks mid target' later last ∧
      source.Walks start target' fed' mid' ∧ source.Walks mid' target later' last ∧
      fed ++ later = fed' ++ later' := by
  intro f
  obtain ⟨n, hn⟩ : ∃ n, f = n + 1 :=
    Nat.exists_eq_add_one.mpr (DayCounter.endsFor_pos target)
  refine ⟨DayCounter.isLeast_endsFor target, fun i hi => ?_, fun hfew => ?_, fun hne => ?_,
    fun target' => ?_⟩
  · rw [hn, Nat.add_sub_cancel] at hi
    obtain ⟨hseen, r, later, hlater, hr⟩ := of_getElem?_boundaries hi
    rw [← hn] at hseen hlater
    refine ⟨r, hr, ?_⟩
    rw [← hseen]
    exact walks_of_walkEnd hs (by rw [hlater]; rfl)
  · obtain ⟨hseen, hlater⟩ := of_length_boundaries_le (by omega : (boundaries rs).length ≤ n)
    rw [← hn] at hseen hlater
    rw [← lastNext_eq]
    have hwalk : source.Walks start target (days f rs) (lastNext start rs) :=
      walks_of_walkEnd hs (by rw [hseen, hlater]; rfl)
    rwa [hseen] at hwalk
  · obtain ⟨stop, hstop⟩ := exists_walkEnd start (days f rs) (afterDays f rs)
    have hfed : days f rs ≠ [] := by
      obtain ⟨r, rs, rfl⟩ := List.exists_cons_of_ne_nil hne
      simp [hn, days_succ, firstDay]
    have horder := source.inOrder_readFrom hstart
    rw [hs, ← days_append_afterDays f rs] at horder
    exact ⟨days f rs, stop, walks_of_walkEnd hs hstop, hfed, (horder.place_walkEnd hstop).2.2.2 hfed⟩
  · obtain ⟨mid, last, hfirst, hsecond, hlast⟩ := hfits.walks_then hstart hs target target'
    obtain ⟨mid', last', hfirst', hsecond', hlast'⟩ := hfits.walks_then hstart hs target' target
    obtain rfl : last = last' := by
      rw [Nat.add_comm, hlast'] at hlast
      exact (Except.ok.inj hlast).symm
    refine ⟨_, mid, _, last, _, mid', _, hfirst, hsecond, hfirst', hsecond', ?_⟩
    rw [← days_add, Nat.add_comm, days_add]

/-- Seven days are six ends of days, as the Saturday among them has no ticks. -/
theorem walks_to_boundary_week :
    let rs := numbered 0 (dailyTicks newYear 12)
    (memory (dailyTicks newYear 12)).Walks 0 7 (rs.take 6) 6 := by
  intro rs
  have hs := records_readFrom_memory (dailyTicks newYear 12) 0
  have hfits : (memory (dailyTicks newYear 12)).Fits := trivial
  obtain ⟨r, hr, hwalk⟩ :=
    (walks_to_boundary hfits (Int.le_refl 0) hs 7).2.1 6 (by decide +kernel)
  have hposition : rs[6]?.map (·.position) = some 6 := by decide +kernel
  rw [show rs[6]? = some r from hr, Option.map_some, Option.some.injEq] at hposition
  rwa [hposition] at hwalk

end TickSource

end Backtest
