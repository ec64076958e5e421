import Backtest.TickSource
import Mathlib.Data.Int.Notation
import Mathlib.Data.List.Basic

/-!
# Streams

What a source gives from a cursor on is a list of records and, behind them, a fault or nothing. A scan
depends on these alone. Reading again from a cursor beside a record gives what stood behind it, and the
cursors of a stream never fall.

* `scanRecords`, a scan of a list of records; `Reader.scan_eq`, a scan of a reader is one of these;
  `scanRecords_of_stopAt?`, where it is stopped; `scanRecords_of_forall_stopAt?`, one that is not;
* `TickSource.Offers`, what is left of a source at some place in it; `TickSource.Offers.next`, one
  record further on;
* `InOrder`, cursors that never fall; `TickSource.inOrder_readFrom`;
* `TickSource.reads_split`, reading again in the midst of a stream;
* `TickSource.Cut`, a cursor between two parts of a stream; `TickSource.recordsBefore`, the first part.
-/

namespace Backtest

/-- The date of a record. -/
def Record.date (r : Record) : Date := r.tick.time.date

/-! ### Scans of lists -/

/-- How records come to an end: there are no more, or the next cannot be read. -/
def ScanEnd.ofFault {ρ : Type} : Option Fault → ScanEnd ρ
  | none => .ended
  | some f => .failed f

/-- Visit the records of a list one after the other; a fault or nothing stands behind them. -/
def scanRecords {σ ρ : Type} (visit : σ → Record → σ × Option ρ) (fault : Option Fault) :
    List Record → σ → σ × ScanEnd ρ
  | [], state => (state, .ofFault fault)
  | r :: rs, state => match visit state r with
    | (state, some result) => (state, .stopped result)
    | (state, none) => scanRecords visit fault rs state

namespace Reader

theorem records_of_next_none {s : Reader} (h : s.next = none) : s.records = ([], none) := by
  rw [records]
  split <;> simp_all

theorem records_of_next_error {s : Reader} {f : Fault} (h : s.next = some (.error f)) :
    s.records = ([], some f) := by
  rw [records]
  split <;> simp_all

theorem records_of_next_ok {s s' : Reader} {r : Record} (h : s.next = some (.ok (r, s'))) :
    s.records = (r :: s'.records.1, s'.records.2) := by
  rw [records]
  split <;> simp_all

/-- A scan of a reader visits its records and no others. -/
theorem scan_eq {σ ρ : Type} (visit : σ → Record → σ × Option ρ) (s : Reader) (state : σ) :
    s.scan visit state = scanRecords visit s.records.2 s.records.1 state := by
  fun_induction scan visit s state with
  | case1 s state h => rw [records_of_next_none h]; rfl
  | case2 s state f h => rw [records_of_next_error h]; rfl
  | case3 s state r rest h state' x hv =>
    rw [records_of_next_ok h, scanRecords, hv]
  | case4 s state r rest h state' hv ih =>
    rw [records_of_next_ok h, scanRecords, hv]
    exact ih

end Reader

section Scans

variable {σ ρ : Type} {visit : σ → Record → σ × Option ρ} {fault : Option Fault}

/-- The state of a scan that visits records without being stopped. -/
def visitAll (visit : σ → Record → σ × Option ρ) (rs : List Record) (state : σ) : σ :=
  rs.foldl (fun s r => (visit s r).1) state

/-- A scan that is stopped is stopped at one of the records. -/
theorem exists_of_scanRecords_stopped {rs : List Record} {state state' : σ} {x : ρ}
    (h : scanRecords visit fault rs state = (state', .stopped x)) :
    ∃ before r after, rs = before ++ r :: after ∧
      visit (visitAll visit before state) r = (state', some x) ∧
      ∀ fault' after', scanRecords visit fault' (before ++ r :: after') state = (state', .stopped x) := by
  induction rs generalizing state with
  | nil => cases fault <;> simp [scanRecords, ScanEnd.ofFault] at h
  | cons r rs ih =>
    rw [scanRecords] at h
    split at h
    case h_1 s y hv =>
      obtain ⟨rfl, hy⟩ := Prod.mk.inj h
      obtain rfl := ScanEnd.stopped.inj hy
      refine ⟨[], r, rs, rfl, hv, fun fault' after' => ?_⟩
      rw [List.nil_append, scanRecords, hv]
    case h_2 s hv =>
      obtain ⟨before, q, after, rfl, hq, hstop⟩ := ih h
      refine ⟨r :: before, q, after, rfl, ?_, fun fault' after' => ?_⟩
      · rw [visitAll, List.foldl_cons, hv]
        exact hq
      · rw [List.cons_append, scanRecords, hv]
        exact hstop fault' after'

/-- What a scan of records gives when it comes to the one at a place and is stopped there. -/
def stopAt? (visit : σ → Record → σ × Option ρ) (state : σ) (rs : List Record) (k : ℕ) : Option ρ :=
  rs[k]?.bind fun r => (visit (visitAll visit (rs.take k) state) r).2

theorem stopAt?_zero (r : Record) (rs : List Record) (state : σ) :
    stopAt? visit state (r :: rs) 0 = (visit state r).2 := rfl

theorem stopAt?_succ (r : Record) (rs : List Record) (state : σ) (k : ℕ) :
    stopAt? visit state (r :: rs) (k + 1) = stopAt? visit (visit state r).1 rs k := rfl

/-- A scan is stopped at the first place at which something stops it. -/
theorem scanRecords_of_stopAt? {rs : List Record} {state : σ} {k : ℕ} {x : ρ}
    (hk : stopAt? visit state rs k = some x) (hbefore : ∀ j < k, stopAt? visit state rs j = none) :
    scanRecords visit fault rs state = (visitAll visit (rs.take (k + 1)) state, .stopped x) := by
  induction rs generalizing state k with
  | nil => simp [stopAt?] at hk
  | cons r rs ih =>
    rw [scanRecords]
    cases k with
    | zero =>
      rw [stopAt?_zero] at hk
      rw [show visit state r = ((visit state r).1, some x) from Prod.ext rfl hk]
      rfl
    | succ k =>
      have hr : (visit state r).2 = none := hbefore 0 (Nat.succ_pos k)
      rw [show visit state r = ((visit state r).1, none) from Prod.ext rfl hr]
      exact ih hk fun j hj => hbefore (j + 1) (Nat.succ_lt_succ hj)

/-- A scan that no record stops visits all of them. -/
theorem scanRecords_of_forall_stopAt? {rs : List Record} {state : σ}
    (h : ∀ k < rs.length, stopAt? visit state rs k = none) :
    scanRecords visit fault rs state = (visitAll visit rs state, .ofFault fault) := by
  induction rs generalizing state with
  | nil => rfl
  | cons r rs ih =>
    have hr : (visit state r).2 = none := h 0 (Nat.succ_pos rs.length)
    rw [scanRecords, show visit state r = ((visit state r).1, none) from Prod.ext rfl hr]
    exact ih fun k hk => h (k + 1) (Nat.succ_lt_succ hk)

end Scans

/-! ### Reading again -/

namespace Reader

theorem drop_length_firstLine (bs : List UInt8) :
    bs.drop (firstLine bs).length = afterLine bs := by
  have h : (firstLine bs ++ afterLine bs).drop (firstLine bs).length = afterLine bs :=
    List.drop_left
  rwa [firstLine_append_afterLine] at h

theorem firstLine_length_pos {bs : List UInt8} (h : bs ≠ []) : 0 < (firstLine bs).length := by
  cases bs with
  | nil => exact absurd rfl h
  | cons b bs => unfold firstLine; split <;> simp

/-- A record of lines lies behind the place they are read from, and reading from its own place gives
it again. -/
theorem exists_of_nextLine {path : String} {offset stop : ℕ} {rest after : List UInt8} {r : Record}
    (h : nextLine path offset rest = some (.ok (r, stop, after))) :
    ∃ k m : ℕ, k < m ∧ r.position = (offset + k : ℕ) ∧ r.next = (offset + m : ℕ) ∧
      stop = offset + m ∧ after = rest.drop m ∧
      nextLine path (offset + k) (rest.drop k) = some (.ok (r, stop, after)) := by
  fun_induction nextLine path offset rest with
  | case1 => simp at h
  | case2 offset rest hne line next hb ih =>
    -- a blank line only moves both places on by its length
    obtain ⟨k, m, hkm, hp, hn, hs, ha, hagain⟩ := ih h
    have hdrop (i : ℕ) : rest.drop (line.length + i) = (afterLine rest).drop i := by
      rw [← List.drop_drop, drop_length_firstLine]
    refine ⟨line.length + k, line.length + m, by omega, ?_, ?_, ?_, ?_, ?_⟩
    · rw [hp, Nat.add_assoc]
    · rw [hn, Nat.add_assoc]
    · rw [hs, Nat.add_assoc]
    · rw [ha, hdrop]
    · rw [hdrop, ← Nat.add_assoc]
      exact hagain
  | case3 => simp at h
  | case4 offset rest hne line next hb tick ht =>
    have hagain := h
    simp only [Option.some.injEq, Except.ok.injEq, Prod.mk.injEq] at h
    obtain ⟨rfl, rfl, rfl⟩ := h
    refine ⟨0, line.length, firstLine_length_pos hne, rfl, rfl, rfl, ?_, ?_⟩
    · exact (drop_length_firstLine rest).symm
    · rw [Nat.add_zero, List.drop_zero, nextLine]
      simp [hne, hb, ht, line, next]

end Reader

namespace TickSource

/-- What is left of a source at a place in it. -/
inductive Offers : TickSource → ℕ → Reader → Prop
  | ticks (ts : List (Tick Float)) (n : ℕ) : Offers (.memory ts) n (.ticks n (ts.drop n))
  | lines (path : String) (bytes : List UInt8) (n : ℕ) :
      Offers (.file path bytes) n (.lines path n (bytes.drop n))

variable {source : TickSource} {s s' : Reader} {r : Record} {n : ℕ} {fault : Option Fault}

/-- The next record lies behind the place where a reader stands and leaves the reader behind it. -/
theorem Offers.next (h : source.Offers n s) (hn : s.next = some (.ok (r, s'))) :
    ∃ k m : ℕ, n ≤ k ∧ k < m ∧ r.position = k ∧ r.next = m ∧ source.Offers m s' ∧
      ∃ s₀, source.Offers k s₀ ∧ s₀.next = some (.ok (r, s')) := by
  cases h with
  | ticks ts =>
    cases hd : ts.drop n with
    | nil => simp [hd, Reader.next] at hn
    | cons t rest =>
      have hrest : ts.drop (n + 1) = rest := by rw [← List.drop_drop, hd]; rfl
      have hs := Offers.ticks ts n
      rw [hd] at hn hs
      have hagain := hn
      simp only [Reader.next, Option.some.injEq, Except.ok.injEq, Prod.mk.injEq] at hn
      obtain ⟨rfl, rfl⟩ := hn
      refine ⟨n, n + 1, Nat.le_refl n, by omega, rfl, rfl, ?_, _, hs, hagain⟩
      rw [← hrest]
      exact .ticks ts (n + 1)
  | lines path bytes =>
    simp only [Reader.next] at hn
    split at hn
    · simp at hn
    · simp at hn
    · rename_i q stop after hq
      simp only [Option.some.injEq, Except.ok.injEq, Prod.mk.injEq] at hn
      obtain ⟨rfl, rfl⟩ := hn
      obtain ⟨k, m, hkm, hp, hm, rfl, rfl, hagain⟩ := Reader.exists_of_nextLine hq
      rw [List.drop_drop] at hagain ⊢
      refine ⟨n + k, n + m, by omega, by omega, hp, hm, .lines path bytes _, _,
        .lines path bytes _, ?_⟩
      simp [Reader.next, hagain]

/-- Reading from a place gives what is left there, unless the offset is beyond all files. -/
theorem Offers.readFrom (h : source.Offers n s) :
    source.readFrom n = .failing .cursorTooLarge ∨ source.readFrom n = s := by
  cases h with
  | ticks ts => right; simp [TickSource.readFrom, ticksFrom]
  | lines path bytes =>
    simp only [TickSource.readFrom, linesFrom]
    split
    · exact .inl rfl
    · right; simp

/-- Reading from a cursor that is not below zero gives what is left there, or fails at once. -/
theorem readFrom_offers (source : TickSource) (n : ℕ) :
    source.Offers n (source.readFrom n) ∨ ∃ f, source.readFrom n = .failing f := by
  cases source with
  | memory ts => left; simpa [TickSource.readFrom, ticksFrom] using Offers.ticks ts n
  | file path bytes =>
    rcases (Offers.lines path bytes n).readFrom with h | h
    · exact .inr ⟨_, h⟩
    · left; rw [h]; exact .lines path bytes n
  | directory path => exact .inr ⟨_, rfl⟩

/-- A stream can be taken up in its midst, before a record and after it. -/
theorem Offers.split {before after : List Record} (h : source.Offers n s)
    (hs : s.records = (before ++ r :: after, fault)) :
    ∃ k m : ℕ, r.position = k ∧ r.next = m ∧
      (∃ s₁, source.Offers k s₁ ∧ s₁.records = (r :: after, fault)) ∧
      ∃ s₂, source.Offers m s₂ ∧ s₂.records = (after, fault) := by
  induction before generalizing n s with
  | nil =>
    match hn : s.next with
    | none => simp [Reader.records_of_next_none hn] at hs
    | some (.error f) => simp [Reader.records_of_next_error hn] at hs
    | some (.ok (q, s')) =>
      rw [Reader.records_of_next_ok hn] at hs
      simp only [List.nil_append, Prod.mk.injEq, List.cons.injEq] at hs
      obtain ⟨⟨rfl, ha⟩, hf⟩ := hs
      obtain ⟨k, m, -, -, hk, hm, hs', s₀, hs₀, hn₀⟩ := h.next hn
      refine ⟨k, m, hk, hm, ⟨s₀, hs₀, ?_⟩, s', hs', by rw [← ha, ← hf]⟩
      rw [Reader.records_of_next_ok hn₀, ha, hf]
  | cons b before ih =>
    match hn : s.next with
    | none => simp [Reader.records_of_next_none hn] at hs
    | some (.error f) => simp [Reader.records_of_next_error hn] at hs
    | some (.ok (q, s')) =>
      rw [Reader.records_of_next_ok hn] at hs
      simp only [List.cons_append, Prod.mk.injEq, List.cons.injEq] at hs
      obtain ⟨k, m, -, -, -, -, hs', -⟩ := h.next hn
      exact ih hs' (Prod.ext hs.1.2 hs.2)

/-- Reading from a cursor gives certain records and the fault behind them, unless the cursor is an
offset beyond all files. -/
def Reads (source : TickSource) (c : ℤ) (rs : List Record) (fault : Option Fault) : Prop :=
  source.readFrom c = .failing .cursorTooLarge ∨ (source.readFrom c).records = (rs, fault)

theorem Offers.reads (h : source.Offers n s) : source.Reads n s.records.1 s.records.2 := by
  rcases h.readFrom with hf | hf
  · exact .inl hf
  · right; rw [hf]

/-- Reading again from the cursors beside a record gives it and what stood behind it. -/
theorem reads_split {c : ℤ} (hc : 0 ≤ c) {before after : List Record}
    (h : (source.readFrom c).records = (before ++ r :: after, fault)) :
    source.Reads r.position (r :: after) fault ∧ source.Reads r.next after fault := by
  obtain ⟨n, rfl⟩ := Int.eq_ofNat_of_zero_le hc
  rcases source.readFrom_offers n with ho | ⟨f, hf⟩
  · obtain ⟨k, m, hk, hm, ⟨s₁, h₁, hs₁⟩, s₂, h₂, hs₂⟩ := ho.split h
    have r₁ := h₁.reads
    have r₂ := h₂.reads
    rw [hs₁] at r₁
    rw [hs₂] at r₂
    exact ⟨hk ▸ r₁, hm ▸ r₂⟩
  · rw [hf] at h
    rw [Reader.records_of_next_error rfl] at h
    simp at h

end TickSource

/-! ### The order of cursors -/

/-- Records that follow a cursor, each with its own cursors in order and all before those of the next
one. -/
structure InOrder (c : ℤ) (rs : List Record) : Prop where
  le : ∀ r ∈ rs, c ≤ r.position
  lt : ∀ r ∈ rs, r.position < r.next
  apart : rs.Pairwise fun q r => q.next ≤ r.position

theorem InOrder.nil (c : ℤ) : InOrder c [] := ⟨by simp, by simp, .nil⟩

theorem InOrder.cons {c : ℤ} {r : Record} {rs : List Record} (hc : c ≤ r.position)
    (hr : r.position < r.next) (h : InOrder r.next rs) : InOrder c (r :: rs) where
  le q hq := by
    rcases List.mem_cons.mp hq with rfl | hq
    · exact hc
    · have := h.le q hq
      omega
  lt q hq := by
    rcases List.mem_cons.mp hq with rfl | hq
    · exact hr
    · exact h.lt q hq
  apart := List.pairwise_cons.mpr ⟨h.le, h.apart⟩

/-- Of two records the one that stands before the other ends where that one begins, or before. -/
theorem InOrder.next_le {c : ℤ} {before after : List Record} (h : InOrder c (before ++ after))
    {q r : Record} (hq : q ∈ before) (hr : r ∈ after) : q.next ≤ r.position :=
  (List.pairwise_append.mp h.apart).2.2 q hq r hr

namespace TickSource

variable {source : TickSource}

theorem Offers.inOrder {n : ℕ} {s : Reader} (h : source.Offers n s) : InOrder n s.records.1 := by
  -- along the reader: the records behind the next one are those of a reader with less left
  match hn : s.next with
  | none => rw [Reader.records_of_next_none hn]; exact .nil n
  | some (.error f) => rw [Reader.records_of_next_error hn]; exact .nil n
  | some (.ok (r, s')) =>
    obtain ⟨k, m, hnk, hkm, hk, hm, hs', -⟩ := h.next hn
    rw [Reader.records_of_next_ok hn]
    refine .cons (by omega) (by omega) ?_
    rw [hm]
    exact hs'.inOrder
termination_by s.left
decreasing_by exact Reader.left_lt_of_next hn

theorem inOrder_readFrom (source : TickSource) {c : ℤ} (hc : 0 ≤ c) :
    InOrder c (source.readFrom c).records.1 := by
  obtain ⟨n, rfl⟩ := Int.eq_ofNat_of_zero_le hc
  rcases source.readFrom_offers n with h | ⟨f, hf⟩
  · exact h.inOrder
  · rw [hf, Reader.records_of_next_error rfl]
    exact .nil _

/-! ### Cuts -/

/-- A cursor between two parts of the stream of a source: the records before it end there or earlier,
those behind it begin there or later, and reading from it gives the latter. -/
structure Cut (source : TickSource) (c : ℤ) (before after : List Record) (fault : Option Fault) :
    Prop where
  nonneg : 0 ≤ c
  stream : (source.readFrom 0).records = (before ++ after, fault)
  below : ∀ r ∈ before, r.next ≤ c
  above : ∀ r ∈ after, c ≤ r.position
  reads : source.Reads c after fault

variable {c : ℤ} {before after : List Record} {r : Record} {fault : Option Fault}

/-- The cursor at the start of a source stands before all of its stream. -/
theorem cut_zero (source : TickSource) :
    source.Cut 0 [] (source.readFrom 0).records.1 (source.readFrom 0).records.2 where
  nonneg := Int.le_refl 0
  stream := rfl
  below := by simp
  above := (source.inOrder_readFrom (Int.le_refl 0)).le
  reads := .inr rfl

theorem inOrder_of_stream {rs : List Record} (h : (source.readFrom 0).records = (rs, fault)) :
    InOrder 0 rs := by
  have := source.inOrder_readFrom (Int.le_refl 0)
  rwa [h] at this

/-- The first cursor of a record stands right before it. -/
theorem cut_position (h : (source.readFrom 0).records = (before ++ r :: after, fault)) :
    source.Cut r.position before (r :: after) fault where
  nonneg := (inOrder_of_stream h).le r (by simp)
  stream := h
  below q hq := (inOrder_of_stream h).next_le hq List.mem_cons_self
  above q hq := by
    have ho := inOrder_of_stream h
    rcases List.mem_cons.mp hq with rfl | hq
    · exact Int.le_refl _
    · have hlt := ho.lt r (by simp)
      have hle := (List.pairwise_cons.mp (List.pairwise_append.mp ho.apart).2.1).1 q hq
      omega
  reads := (reads_split (Int.le_refl 0) h).1

/-- The second cursor of a record stands right behind it. -/
theorem cut_next (h : (source.readFrom 0).records = (before ++ r :: after, fault)) :
    source.Cut r.next (before ++ [r]) after fault where
  nonneg := by
    have ho := inOrder_of_stream h
    have hle := ho.le r (by simp)
    have hlt := ho.lt r (by simp)
    omega
  stream := by rw [h, List.append_assoc, List.singleton_append]
  below q hq := by
    have ho := inOrder_of_stream h
    rcases List.mem_append.mp hq with hq | hq
    · have hle := ho.next_le hq (r := r) List.mem_cons_self
      have hlt := ho.lt r (by simp)
      omega
    · obtain rfl := List.mem_singleton.mp hq
      exact Int.le_refl _
  above := by
    have ho := inOrder_of_stream h
    exact (List.pairwise_cons.mp (List.pairwise_append.mp ho.apart).2.1).1
  reads := (reads_split (Int.le_refl 0) h).2

/-- The records of a stream that stand before a cursor. -/
def recordsBefore (source : TickSource) (c : ℤ) : List Record :=
  (source.readFrom 0).records.1.filter fun r => r.position < c

theorem Cut.position_lt (h : source.Cut c before after fault) (hr : r ∈ before) :
    r.position < c := by
  have hlt := (inOrder_of_stream h.stream).lt r (List.mem_append_left after hr)
  have hle := h.below r hr
  omega

theorem Cut.recordsBefore_eq (h : source.Cut c before after fault) :
    source.recordsBefore c = before := by
  rw [recordsBefore, h.stream, List.filter_append, List.filter_eq_self.mpr, List.filter_eq_nil_iff.mpr,
    List.append_nil]
  · intro r hr
    have := h.above r hr
    simpa using this
  · intro r hr
    simpa using h.position_lt hr

end TickSource

end Backtest
