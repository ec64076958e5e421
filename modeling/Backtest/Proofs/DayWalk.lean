import Backtest.Proofs.Stream
import Backtest.Window
import Mathlib.Logic.Function.Iterate

/-!
# Walks over days

A walk over days visits the ticks of whole days and stops at the first tick of the day behind them. How
many days these are depends on the target alone, so two walks made one after the other stop at the
same tick in either order.

* `DayCounter.daysAfter`, the count after so many ends of days, and its closed form;
  `DayCounter.endsFor`, the number of ends of days that a target asks for;
* `days`, `afterDays`, the records of the first days and those behind them; `afterDays_comm`,
  `days_add`;
* `walkDays_eq`, what a walk over days visits and where it stops; `collectWindow_eq`;
* `TickSource.Cut.walk`, `TickSource.Cut.window`, a walk leads from one cut of a stream to another.
-/

namespace Backtest

/-! ### The count -/

namespace DayCounter

/-- The count after so many ends of days. -/
def daysAfter (n : ℕ) : ℕ := succDays^[n] 0

theorem daysAfter_succ (n : ℕ) : daysAfter (n + 1) = succDays (daysAfter n) :=
  Function.iterate_succ_apply' succDays n 0

/-- From the first end of a day on, five ends count for six. The sixth end counts for two, but it is
the count and no longer the number of ends that is compared with six then. -/
theorem daysAfter_eq {n : ℕ} (h : 0 < n) : daysAfter n = n + (n - 1) / 5 := by
  induction n with
  | zero => omega
  | succ n ih =>
    rw [daysAfter_succ, succDays]
    rcases Nat.eq_zero_or_pos n with rfl | hn
    · rfl
    · rw [ih hn]
      simp only [beq_iff_eq]
      split <;> omega

/-- The number of ends of days at which a target is reached. -/
def endsFor (target : ℤ) : ℕ := (max 1 (target - (target - 1) / 6)).toNat

theorem endsFor_pos (target : ℤ) : 0 < endsFor target := by
  unfold endsFor
  omega

theorem le_daysAfter_iff (target : ℤ) {n : ℕ} (h : 0 < n) :
    target ≤ daysAfter n ↔ endsFor target ≤ n := by
  rw [daysAfter_eq h, endsFor]
  omega

end DayCounter

/-! ### Days of records -/

/-- The records of the first day. -/
def firstDay : List Record → List Record
  | [] => []
  | r :: rs => r :: rs.takeWhile fun q => q.tick.day == r.tick.day

/-- The records behind the first day. -/
def laterDays : List Record → List Record
  | [] => []
  | r :: rs => rs.dropWhile fun q => q.tick.day == r.tick.day

/-- The records of so many days. -/
def days : ℕ → List Record → List Record
  | 0, _ => []
  | n + 1, rs => firstDay rs ++ days n (laterDays rs)

/-- The records behind so many days. -/
def afterDays (n : ℕ) : List Record → List Record := laterDays^[n]

@[simp] theorem days_zero (rs : List Record) : days 0 rs = [] := rfl

theorem days_succ (n : ℕ) (rs : List Record) :
    days (n + 1) rs = firstDay rs ++ days n (laterDays rs) := rfl

@[simp] theorem laterDays_nil : laterDays [] = [] := rfl

@[simp] theorem days_nil (n : ℕ) : days n [] = [] := by
  induction n with
  | zero => rfl
  | succ n ih => rw [days_succ, laterDays_nil, ih]; rfl

@[simp] theorem afterDays_zero (rs : List Record) : afterDays 0 rs = rs := rfl

theorem afterDays_succ (n : ℕ) (rs : List Record) :
    afterDays (n + 1) rs = afterDays n (laterDays rs) := rfl

@[simp] theorem afterDays_nil (n : ℕ) : afterDays n [] = [] :=
  Function.iterate_fixed rfl n

theorem firstDay_append_laterDays (rs : List Record) : firstDay rs ++ laterDays rs = rs := by
  cases rs with
  | nil => rfl
  | cons r rs => rw [firstDay, laterDays, List.cons_append, List.takeWhile_append_dropWhile]

theorem days_append_afterDays (n : ℕ) (rs : List Record) : days n rs ++ afterDays n rs = rs := by
  induction n generalizing rs with
  | zero => rfl
  | succ n ih =>
    rw [days_succ, afterDays_succ, List.append_assoc, ih, firstDay_append_laterDays]

/-- Passing over days and then over more days is passing over all of them. -/
theorem afterDays_add (m n : ℕ) (rs : List Record) :
    afterDays (m + n) rs = afterDays m (afterDays n rs) := Function.iterate_add_apply laterDays m n rs

/-- The order in which days are passed over does not matter. -/
theorem afterDays_comm (m n : ℕ) (rs : List Record) :
    afterDays m (afterDays n rs) = afterDays n (afterDays m rs) := by
  rw [← afterDays_add, Nat.add_comm, afterDays_add]

/-- Passing over days is passing over some of them and then over the others. -/
theorem days_add (m n : ℕ) (rs : List Record) :
    days (m + n) rs = days m rs ++ days n (afterDays m rs) := by
  induction m generalizing rs with
  | zero => simp
  | succ m ih => rw [Nat.add_right_comm, days_succ, ih, days_succ, afterDays_succ, List.append_assoc]

theorem afterDays_add_comm (m n : ℕ) (rs : List Record) :
    afterDays (m + n) rs = afterDays n (afterDays m rs) := by
  rw [afterDays_add, afterDays_comm]

/-! ### Walks -/

/-- The cursor behind the last of some records, or the given one if there are none. -/
def lastNext (cursor : ℤ) (rs : List Record) : ℤ := rs.foldl (fun _ r => r.next) cursor

@[simp] theorem lastNext_nil (cursor : ℤ) : lastNext cursor [] = cursor := rfl

@[simp] theorem lastNext_cons (cursor : ℤ) (r : Record) (rs : List Record) :
    lastNext cursor (r :: rs) = lastNext r.next rs := rfl

@[simp] theorem lastNext_append_singleton (cursor : ℤ) (rs : List Record) (r : Record) :
    lastNext cursor (rs ++ [r]) = r.next := by
  simp [lastNext]

/-- How a walk ends that stops at the first of some records. -/
def endBefore (fault : Option Fault) : List Record → ScanEnd Int
  | [] => .ofFault fault
  | r :: _ => .stopped r.position

section

variable {σ : Type} (onTick : σ → Tick Float → σ) {fault : Option Fault} {r : Record}
  {target : ℤ} {count day : ℕ} {state : σ} {cursor : ℤ}

theorem visit_first : DayWalk.visit onTick ⟨state, ⟨target, count, none⟩, cursor⟩ r =
    (⟨onTick state r.tick, ⟨target, count, some r.tick.day⟩, r.next⟩, none) := rfl

theorem visit_sameDay (h : r.tick.day = day) :
    DayWalk.visit onTick ⟨state, ⟨target, count, some day⟩, cursor⟩ r =
      (⟨onTick state r.tick, ⟨target, count, some day⟩, r.next⟩, none) := by
  simp [DayWalk.visit, DayCounter.observe, h]

theorem visit_nextDay (h : r.tick.day ≠ day) (hgo : ¬ target ≤ DayCounter.succDays count) :
    DayWalk.visit onTick ⟨state, ⟨target, count, some day⟩, cursor⟩ r =
      (⟨onTick state r.tick, ⟨target, DayCounter.succDays count, some r.tick.day⟩, r.next⟩,
        none) := by
  simp [DayWalk.visit, DayCounter.observe, h, hgo]

theorem visit_lastDay (h : r.tick.day ≠ day) (hstop : target ≤ DayCounter.succDays count) :
    DayWalk.visit onTick ⟨state, ⟨target, count, some day⟩, cursor⟩ r =
      (⟨state, ⟨target, DayCounter.succDays count, some r.tick.day⟩, cursor⟩,
        some r.position) := by
  simp [DayWalk.visit, DayCounter.observe, h, hstop]

/-- A walk in the midst of a day, after `n` ends of days and with `k + 1` to come, visits the rest of
that day and `k` more days. -/
theorem scanRecords_visit (fault : Option Fault) (target : ℤ) (rs : List Record) {n k : ℕ} (day : ℕ)
    (state : σ) (cursor : ℤ) (h : n + k + 1 = DayCounter.endsFor target) :
    ∃ counter, scanRecords (DayWalk.visit onTick) fault rs
        ⟨state, ⟨target, DayCounter.daysAfter n, some day⟩, cursor⟩ =
      let later := rs.dropWhile fun q => q.tick.day == day
      let seen := rs.takeWhile (fun q => q.tick.day == day) ++ days k later
      (⟨(seen.map (·.tick)).foldl onTick state, counter, lastNext cursor seen⟩,
        endBefore fault (afterDays k later)) := by
  -- along the records; the ends of days behind and those to come make up the target all the way
  induction rs generalizing n k day state cursor with
  | nil =>
    refine ⟨⟨target, DayCounter.daysAfter n, some day⟩, ?_⟩
    simp [scanRecords, endBefore]
  | cons r rs ih =>
    by_cases hday : r.tick.day = day
    · obtain ⟨counter, ih⟩ := ih day (onTick state r.tick) r.next h
      refine ⟨counter, ?_⟩
      rw [scanRecords, visit_sameDay onTick hday]
      simpa [hday] using ih
    · have hle := DayCounter.le_daysAfter_iff target (Nat.succ_pos n)
      rw [DayCounter.daysAfter_succ] at hle
      rw [scanRecords]
      cases k with
      | zero =>
        -- this end of a day is the one that reaches the target: the record is not visited
        refine ⟨⟨target, DayCounter.succDays (DayCounter.daysAfter n), some r.tick.day⟩, ?_⟩
        rw [visit_lastDay onTick hday (hle.mpr (by omega))]
        simp [hday, endBefore]
      | succ k =>
        obtain ⟨counter, ih⟩ := ih (n := n + 1) (k := k) r.tick.day (onTick state r.tick) r.next
          (by omega)
        refine ⟨counter, ?_⟩
        rw [DayCounter.daysAfter_succ] at ih
        rw [visit_nextDay onTick hday (by rw [hle]; omega)]
        simpa [hday, days_succ, afterDays_succ, firstDay, laterDays] using ih

/-- The cursor at which a walk ends that visited some records and stands before others. -/
def walkEnd (start : ℤ) (fault : Option Fault) (seen : List Record) :
    List Record → Except Fault Int
  | r :: _ => .ok r.position
  | [] => match fault with
    | none => .ok (lastNext start seen)
    | some f => .error f

/-- A walk ends before a record, behind the last one, or where it began if there is none at all. -/
theorem of_walkEnd {start stop : ℤ} {seen rest : List Record}
    (h : walkEnd start fault seen rest = .ok stop) :
    (∃ r later, rest = r :: later ∧ stop = r.position) ∨
      rest = [] ∧ fault = none ∧
        ((∃ init last, seen = init ++ [last] ∧ stop = last.next) ∨ seen = [] ∧ stop = start) := by
  cases rest with
  | cons r later => exact .inl ⟨r, later, rfl, (Except.ok.inj h).symm⟩
  | nil =>
    cases fault with
    | some f => simp [walkEnd] at h
    | none =>
      obtain rfl := Except.ok.inj h
      refine .inr ⟨rfl, rfl, ?_⟩
      rcases List.eq_nil_or_concat' seen with rfl | ⟨init, last, rfl⟩
      · exact .inr ⟨rfl, rfl⟩
      · exact .inl ⟨init, last, rfl, lastNext_append_singleton start init last⟩

/-- A walk that ends with its stream has not met a fault there. -/
theorem fault_of_walkEnd {start stop : ℤ} {seen rest : List Record}
    (h : walkEnd start fault seen rest = .ok stop) (hrest : rest = []) : fault = none := by
  rcases of_walkEnd h with ⟨r, later, rfl, -⟩ | ⟨-, hnone, -⟩
  · cases hrest
  · exact hnone

/-- A walk visits the ticks of as many days as its target asks for and stops behind them. -/
theorem walkDays_eq {source : TickSource} {start : ℤ} {rs : List Record}
    (h : (source.readFrom start).records = (rs, fault)) :
    let n := DayCounter.endsFor target
    walkDays source start target onTick state =
      (((days n rs).map (·.tick)).foldl onTick state,
        walkEnd start fault (days n rs) (afterDays n rs)) := by
  obtain ⟨k, hk⟩ := Nat.exists_eq_add_of_le (DayCounter.endsFor_pos target)
  simp only [walkDays, Reader.scan_eq, h]
  cases rs with
  | nil => cases fault <;> simp [scanRecords, ScanEnd.ofFault, walkEnd]
  | cons r rs =>
    -- the first record begins a day without an end of one before it
    obtain ⟨counter, hs⟩ := scanRecords_visit onTick fault target rs (n := 0) (k := k)
      r.tick.day (onTick state r.tick) r.next (by omega)
    have hn : DayCounter.endsFor target = k + 1 := by omega
    rw [scanRecords, DayCounter.start, visit_first]
    simp only [DayCounter.daysAfter, Function.iterate_zero, id] at hs
    simp only [hs, hn, days_succ, afterDays_succ, firstDay, laterDays]
    cases hrest : afterDays k (rs.dropWhile fun q => q.tick.day == r.tick.day) with
    | nil => cases fault <;> simp [endBefore, ScanEnd.ofFault, walkEnd]
    | cons q rest => simp [endBefore, walkEnd]

/-- A window holds the ticks of as many days as its target asks for. -/
theorem collectWindow_eq {source : TickSource} {start : ℤ} {rs : List Record}
    (h : (source.readFrom start).records = (rs, fault)) :
    let n := DayCounter.endsFor target
    collectWindow source start target =
      (walkEnd start fault (days n rs) (afterDays n rs)).map fun stop =>
        { start, stop, ticks := (days n rs).map (·.tick) } := by
  simp [collectWindow, walkDays_eq _ h]

end

/-- A window has as its start the cursor at which it was gathered. -/
theorem collectWindow_eq_ok {source : TickSource} {start target : ℤ} {w : Window}
    (h : collectWindow source start target = .ok w) :
    w.start = start ∧ ∃ ts : Array (Tick Float), w.ticks = ts.toList ∧
      walkDays source start target (fun (ts : Array (Tick Float)) t => ts.push t) #[] =
        (ts, .ok w.stop) := by
  rw [collectWindow] at h
  match hwalk : walkDays source start target
      (fun (ts : Array (Tick Float)) t => ts.push t) #[] with
  | (ts, .error f) => simp [hwalk, Except.map] at h
  | (ts, .ok stop) =>
    rw [hwalk] at h
    obtain rfl := Except.ok.inj h
    exact ⟨rfl, ts, rfl, rfl⟩

/-! ### Walks from cut to cut -/

namespace TickSource

variable {source : TickSource} {c e : ℤ} {before after seen rest : List Record}
  {fault : Option Fault} {target : ℤ}

/-- The cursor at which a walk ends stands between what it has seen and the rest. -/
theorem Cut.to_walkEnd (h : source.Cut c before (seen ++ rest) fault)
    (he : walkEnd c fault seen rest = .ok e) :
    source.Cut e (before ++ seen) rest fault := by
  have hs := h.stream
  rcases of_walkEnd he with ⟨r, later, rfl, rfl⟩ | ⟨rfl, rfl, ⟨init, last, rfl, rfl⟩ | ⟨rfl, rfl⟩⟩
  · exact cut_position (by rw [hs, List.append_assoc])
  · rw [← List.append_assoc]
    exact cut_next (by simpa using hs)
  · simpa using h

/-- A walk does not end before the cut from which it starts. -/
theorem Cut.le_walkEnd (h : source.Cut c before (seen ++ rest) fault)
    (he : walkEnd c fault seen rest = .ok e) : c ≤ e := by
  rcases of_walkEnd he with ⟨r, later, rfl, rfl⟩ | ⟨rfl, rfl, ⟨init, last, rfl, rfl⟩ | ⟨rfl, rfl⟩⟩
  · exact h.above r (by simp)
  · have hle := h.above last (by simp)
    have hlt := (inOrder_of_stream h.stream).lt last (by simp)
    omega
  · exact Int.le_refl e

/-- What is read from a cut if a walk from it comes to an end. -/
theorem Cut.records_of_walk {σ : Type} {onTick : σ → Tick Float → σ} {state state' : σ}
    (h : source.Cut c before after fault)
    (hw : walkDays source c target onTick state = (state', .ok e)) :
    (source.readFrom c).records = (after, fault) := by
  rcases h.reads with hf | hr
  · have herr : (source.readFrom c).records = ([], some .cursorTooLarge) := by
      rw [hf]
      exact Reader.records_of_next_error rfl
    rw [walkDays_eq onTick herr] at hw
    simp [walkEnd] at hw
  · exact hr

/-- A walk from a cut moves it on by as many days as its target asks for. -/
theorem Cut.walk {σ : Type} {onTick : σ → Tick Float → σ} {state state' : σ}
    (h : source.Cut c before after fault)
    (hw : walkDays source c target onTick state = (state', .ok e)) :
    let n := DayCounter.endsFor target
    state' = ((days n after).map (·.tick)).foldl onTick state ∧
      walkEnd c fault (days n after) (afterDays n after) = .ok e ∧
      source.Cut e (before ++ days n after) (afterDays n after) fault := by
  intro n
  rw [walkDays_eq onTick (h.records_of_walk hw)] at hw
  obtain ⟨hs, he⟩ := Prod.mk.inj hw
  rw [← days_append_afterDays n after] at h
  exact ⟨hs.symm, he, h.to_walkEnd he⟩

/-- Gathering a window at a cut gives the ticks of as many days as its target asks for; the window
stops at the cut behind them. -/
theorem Cut.window {w : Window} (h : source.Cut c before after fault)
    (hw : collectWindow source c target = .ok w) :
    let n := DayCounter.endsFor target
    w.start = c ∧ w.ticks = (days n after).map (·.tick) ∧
      walkEnd c fault (days n after) (afterDays n after) = .ok w.stop ∧
      source.Cut w.stop (before ++ days n after) (afterDays n after) fault := by
  obtain ⟨hstart, ts, hts, hwalk⟩ := collectWindow_eq_ok hw
  obtain ⟨hs, he, hcut⟩ := h.walk hwalk
  refine ⟨hstart, ?_, he, hcut⟩
  rw [hts, hs]
  simp

/-- A window does not stop before it starts. -/
theorem Cut.start_le_stop {w : Window} (h : source.Cut c before after fault)
    (hw : collectWindow source c target = .ok w) : c ≤ w.stop := by
  obtain ⟨-, -, he, -⟩ := h.window hw
  rw [← days_append_afterDays (DayCounter.endsFor target) after] at h
  exact h.le_walkEnd he

end TickSource

end Backtest
