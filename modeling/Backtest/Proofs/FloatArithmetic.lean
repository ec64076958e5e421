import Backtest.Proofs.FloatGrid

/-!
# Float arithmetic and order

Sums, differences and products of floats are their exact values rounded, and rounding passes over no
float. So an operation keeps what its exact value says of the order: adding what is not below zero leads
to no float below, a float less one below it is not below zero, and neither is the product of two such
floats. A product with one or more keeps the side of zero on which the other factor is. Infinite
operands may give a value that is no number, and nothing else does.

* `FloatOrder.Rounded`, an unpacked float to which a signed value is rounded;
* `FloatOrder.add_rounded`, `FloatOrder.sub_rounded`, `FloatOrder.mul_rounded`, the operations;
* `FloatOrder.gridRank_le_iff`, points of the grid are ordered by value; `FloatOrder.Rounded.le_held`,
  a float that is not above a value is not above what the value is rounded to, and
  `FloatOrder.Rounded.held_le`, the same from above;
* `FloatOrder.le_add`, `FloatOrder.zero_le_sub`, `FloatOrder.zero_le_mul`, `FloatOrder.zero_lt_mul_iff`,
  the laws.
-/

namespace Backtest.FloatOrder

open Float.Model Float.Model.UnpackedFloat

variable {m n : ℕ} {e f : ℤ}

/-! ### Signed values -/

/-- A value of a sign. -/
def signed : Sign → ℚ → ℚ
  | .positive, q => q
  | .negative, q => -q

/-- What a value is rounded to is a float unless it is too large, and no float lies between the two. -/
structure RoundsTo (q : ℚ) (s : Sign) (m : ℕ) (e : ℤ) : Prop where
  onGrid : OnGrid m e
  le_of_le : ∀ s' n f, OnGrid n f → signed s' (magnitude n f) ≤ q →
    signed s' (magnitude n f) ≤ signed s (magnitude m e)
  ge_of_ge : ∀ s' n f, OnGrid n f → q ≤ signed s' (magnitude n f) →
    signed s (magnitude m e) ≤ signed s' (magnitude n f)

/-- An unpacked float to which a value is rounded. -/
def Rounded (q : ℚ) (u : UnpackedFloat) : Prop := ∃ s m e, RoundsTo q s m e ∧ u = ofGrid s m e

theorem rounded_self (s : Sign) (h : OnGrid m e) :
    Rounded (signed s (magnitude m e)) (ofGrid s m e) :=
  ⟨s, m, e, ⟨h, fun _ _ _ _ hle => hle, fun _ _ _ _ hle => hle⟩, rfl⟩

theorem rounded_zero (s : Sign) : Rounded 0 (.zero s) := by
  have h := rounded_self s onGrid_zero
  cases s <;> simpa [signed, ofGrid_zero] using h

theorem Rounds.roundsTo {q : ℚ} (h : Rounds q m e) (hq : 0 < q) (s : Sign) :
    RoundsTo (signed s q) s m e := by
  have hm := magnitude_nonneg m e
  refine ⟨h.onGrid, fun s' n f hn hle => ?_, fun s' n f hn hle => ?_⟩ <;>
    have hpos := magnitude_nonneg n f <;> cases s <;> cases s' <;> simp only [signed] at hle ⊢
  · linarith [h.ge_of_ge n f hn (by linarith)]
  · linarith
  · linarith
  · exact h.le_of_le n f hn hle
  · linarith [h.le_of_le n f hn (by linarith)]
  · linarith
  · linarith
  · exact h.ge_of_ge n f hn hle

/-- A whole number at an exponent is rounded. -/
theorem normalize_rounded (z : ℤ) (e : ℤ) (s : Sign) :
    Rounded (z * (2 : ℚ) ^ e) (UnpackedFloat.normalize .binary64 z e s) := by
  rcases lt_trichotomy z 0 with hz | rfl | hz
  · obtain ⟨n, f, hrounds, heq⟩ := round_rounds .negative (m := (-z).toNat) (by omega) e
    refine ⟨.negative, n, f, ?_, ?_⟩
    · have hcast : (((-z).toNat : ℕ) : ℚ) = -z := by
        rw [← Int.cast_natCast, Int.toNat_of_nonneg (by omega), Int.cast_neg]
      have hvalue : signed .negative (magnitude (-z).toNat e) = z * (2 : ℚ) ^ e := by
        rw [signed, magnitude, hcast]
        ring
      exact hvalue ▸ hrounds.roundsTo (magnitude_pos (by omega)) .negative
    · rw [UnpackedFloat.normalize, compare_lt_iff_lt.mpr hz]
      exact heq
  · rw [Int.cast_zero, zero_mul]
    exact rounded_zero s
  · obtain ⟨n, f, hrounds, heq⟩ := round_rounds .positive (m := z.toNat) (by omega) e
    refine ⟨.positive, n, f, ?_, ?_⟩
    · have hcast : ((z.toNat : ℕ) : ℚ) = z := by
        rw [← Int.cast_natCast, Int.toNat_of_nonneg (by omega)]
      have hvalue : signed .positive (magnitude z.toNat e) = z * (2 : ℚ) ^ e := by
        rw [signed, magnitude, hcast]
      exact hvalue ▸ hrounds.roundsTo (magnitude_pos (by omega)) .positive
    · rw [UnpackedFloat.normalize, compare_gt_iff_gt.mpr hz]
      exact heq

/-- A mantissa brought to a lower exponent. -/
theorem signed_shift (s : Sign) (m : ℕ) {e c : ℤ} (hc : c ≤ e) :
    (s.apply ((m <<< (e - c).toNat : ℕ) : ℤ) : ℤ) * (2 : ℚ) ^ c = signed s (magnitude m e) := by
  have hvalue : ((m <<< (e - c).toNat : ℕ) : ℚ) * (2 : ℚ) ^ c = magnitude m e := by
    rw [Nat.shiftLeft_eq, ← magnitude_shift m e (e - c).toNat, magnitude]
    congr 2
    omega
  cases s
  · rw [signed, ← hvalue, Sign.apply, Int.cast_neg, Int.cast_natCast, neg_mul]
  · rw [signed, ← hvalue, Sign.apply, Int.cast_natCast]

/-- A sum is rounded. -/
theorem add_rounded (s s' : Sign) (h : OnGrid m e) (h' : OnGrid n f) :
    Rounded (signed s (magnitude m e) + signed s' (magnitude n f))
      (UnpackedFloat.add .binary64 (ofGrid s m e) (ofGrid s' n f)) := by
  rcases Nat.eq_zero_or_pos m with rfl | hm <;> rcases Nat.eq_zero_or_pos n with rfl | hn
  · have hzero : signed s (magnitude 0 e) + signed s' (magnitude 0 f) = 0 := by
      cases s <;> cases s' <;> simp [signed]
    rw [hzero, ofGrid_zero, ofGrid_zero, UnpackedFloat.add]
    split <;> exact rounded_zero _
  · have hzero : signed s (magnitude 0 e) + signed s' (magnitude n f) = signed s' (magnitude n f) := by
      cases s <;> simp [signed]
    have hself := rounded_self s' h'
    rw [ofGrid_of_pos s' hn] at hself ⊢
    rw [hzero, ofGrid_zero]
    exact hself
  · have hzero : signed s (magnitude m e) + signed s' (magnitude 0 f) = signed s (magnitude m e) := by
      cases s' <;> simp [signed]
    have hself := rounded_self s h
    rw [ofGrid_of_pos s hm] at hself ⊢
    rw [hzero, ofGrid_zero]
    exact hself
  · rw [ofGrid_of_pos s hm, ofGrid_of_pos s' hn, ← signed_shift s m (min_le_left e f),
      ← signed_shift s' n (min_le_right e f), ← add_mul, ← Int.cast_add]
    exact normalize_rounded _ _ _

theorem sub_eq_add (u v : UnpackedFloat) :
    UnpackedFloat.sub .binary64 u v = UnpackedFloat.add .binary64 u v.neg := by
  have happly (s : Sign) (z : ℤ) : (-s).apply z = -s.apply z := by
    cases s
    · exact (neg_neg z).symm
    · rfl
  rcases u with s | _ | s | ⟨s, m, e, hm⟩ <;> rcases v with s' | _ | s' | ⟨s', n, f, hn⟩ <;> try rfl
  show UnpackedFloat.normalize _ (_ - _) _ _ = UnpackedFloat.normalize _ (_ + _) _ _
  rw [happly, Int.sub_eq_add_neg]

theorem neg_ofGrid (s : Sign) (m : ℕ) (e : ℤ) : (ofGrid s m e).neg = ofGrid (-s) m e := by
  unfold ofGrid
  split <;> rfl

/-- A difference is rounded. -/
theorem sub_rounded (s s' : Sign) (h : OnGrid m e) (h' : OnGrid n f) :
    Rounded (signed s (magnitude m e) - signed s' (magnitude n f))
      (UnpackedFloat.sub .binary64 (ofGrid s m e) (ofGrid s' n f)) := by
  have hneg : signed (-s') (magnitude n f) = -signed s' (magnitude n f) := by
    cases s'
    · exact (neg_neg _).symm
    · rfl
  rw [sub_eq_add, neg_ofGrid, sub_eq_add_neg, ← hneg]
  exact add_rounded s (-s') h h'

theorem signed_mul (s s' : Sign) (m n : ℕ) (e f : ℤ) :
    signed s (magnitude m e) * signed s' (magnitude n f) =
      signed (s * s') (magnitude (m * n) (e + f)) := by
  have hproduct : magnitude (m * n) (e + f) = magnitude m e * magnitude n f := by
    rw [magnitude, magnitude, magnitude, Nat.cast_mul, zpow_add₀ (by norm_num)]
    ring
  rw [hproduct]
  cases s <;> cases s' <;> simp [signed]

/-- A product is rounded. -/
theorem mul_rounded (s s' : Sign) (h : OnGrid m e) (h' : OnGrid n f) :
    Rounded (signed s (magnitude m e) * signed s' (magnitude n f))
      (UnpackedFloat.mul .binary64 (ofGrid s m e) (ofGrid s' n f)) := by
  rw [signed_mul]
  by_cases hzero : m * n = 0
  · have hproduct : UnpackedFloat.mul .binary64 (ofGrid s m e) (ofGrid s' n f) = .zero (s * s') := by
      unfold ofGrid
      rcases Nat.mul_eq_zero.mp hzero with rfl | rfl
      · rw [dif_pos rfl]
        split <;> rfl
      · rw [dif_pos rfl]
        split <;> rfl
    have hvalue : signed (s * s') (magnitude (m * n) (e + f)) = 0 := by
      rw [hzero, magnitude_zero]
      cases s * s' <;> simp [signed]
    rw [hproduct, hvalue]
    exact rounded_zero _
  obtain ⟨hm, hn⟩ := not_or.mp (mt Nat.mul_eq_zero.mpr hzero)
  have hexponent : e + f ≤ max (((m * n).log2 : ℤ) + (e + f) - 52) (-1074) := by
    -- a product of few bits is one of two numbers at the least exponent
    by_cases hfull : 52 ≤ (m * n).log2
    · omega
    have hfew : ¬ 2 ^ 52 ≤ m * n := fun hle => hfull ((Nat.le_log2 hzero).mpr hle)
    have hm' : m ≤ m * n := Nat.le_mul_of_pos_right m (Nat.pos_of_ne_zero hn)
    have hn' : n ≤ m * n := Nat.le_mul_of_pos_left n (Nat.pos_of_ne_zero hm)
    have := h.full.resolve_left (by omega)
    have := h'.full.resolve_left (by omega)
    omega
  obtain ⟨k, g, hrounds, heq⟩ := roundWithAccuracy_rounds (s * s') hzero hexponent
  have hpos : 0 < magnitude (m * n) (e + f) := magnitude_pos (Nat.pos_of_ne_zero hzero)
  refine ⟨s * s', k, g, hrounds.roundsTo hpos (s * s'), ?_⟩
  rw [ofGrid_of_pos s (Nat.pos_of_ne_zero hm), ofGrid_of_pos s' (Nat.pos_of_ne_zero hn)]
  exact heq

/-! ### Order -/

/-- The rank of a point of the grid. -/
def gridRank (s : Sign) (m : ℕ) (e : ℤ) : Rank :=
  if m = 0 then rankOf 0 0 0
  else match s with
    | .positive => rankOf 1 e m
    | .negative => rankOf (-1) (-e) (-m)

theorem rank_ofGrid (s : Sign) (m : ℕ) (e : ℤ) : unpackedRank? (ofGrid s m e) = some (gridRank s m e) := by
  unfold ofGrid gridRank
  split
  · rfl
  · cases s <;> rfl

theorem rankOf_le {k e m k' e' m' : ℤ} :
    rankOf k e m ≤ rankOf k' e' m' ↔ k < k' ∨ k = k' ∧ (e < e' ∨ e = e' ∧ m ≤ m') := by
  simp [rankOf, Prod.Lex.toLex_le_toLex]

/-- Points of the grid are ordered by value. -/
theorem gridRank_le_iff (s s' : Sign) (h : OnGrid m e) (h' : OnGrid n f) :
    gridRank s m e ≤ gridRank s' n f ↔ signed s (magnitude m e) ≤ signed s' (magnitude n f) := by
  unfold gridRank
  have key := h.le_iff h'
  have key' := h'.le_iff h
  rcases Nat.eq_zero_or_pos m with rfl | hm <;> rcases Nat.eq_zero_or_pos n with rfl | hn
  · cases s <;> cases s' <;> simp [signed]
  · have hpos := magnitude_pos (e := f) hn
    rw [if_pos rfl, if_neg hn.ne']
    cases s <;> cases s' <;> simp [signed, rankOf_le] <;> linarith
  · have hpos := magnitude_pos (e := e) hm
    rw [if_pos rfl, if_neg hm.ne']
    cases s <;> cases s' <;> simp [signed, rankOf_le] <;> linarith
  · have hpos := magnitude_pos (e := f) hn
    have hpos' := magnitude_pos (e := e) hm
    rw [if_neg hn.ne', if_neg hm.ne']
    cases s <;> cases s' <;> simp only [signed, rankOf_le]
    · rw [neg_le_neg_iff (a := magnitude m e), key']
      simp only [true_and]
      omega
    · exact iff_of_true (by omega) (by linarith)
    · exact iff_of_false (by omega) (by linarith)
    · rw [key]
      simp only [true_and]
      omega

/-- What an unpacked float is held as is not below a float that it is not below by value. -/
theorem le_held (s s' : Sign) (h : OnGrid m e) (he : e ≤ 971) (h' : OnGrid n f)
    (hle : signed s (magnitude m e) ≤ signed s' (magnitude n f)) :
    ∃ a, unpackedRank? (held (ofGrid s' n f)) = some a ∧ gridRank s m e ≤ a := by
  rw [held_ofGrid s' h']
  split
  · exact ⟨_, rank_ofGrid s' n f, (gridRank_le_iff s s' h h').mpr hle⟩
  · rename_i hf
    cases s' with
    | negative =>
      have hlt : magnitude m e < magnitude n f := by
        rw [← not_le, h'.le_iff h]
        omega
      have := magnitude_nonneg m e
      cases s <;> simp only [signed] at hle <;> linarith
    | positive =>
      refine ⟨rankOf 2 0 0, rfl, ?_⟩
      unfold gridRank
      split
      · simp [rankOf_le]
      · cases s <;> simp [rankOf_le]

theorem Rounded.le_held {q : ℚ} {u : UnpackedFloat} (hu : Rounded q u) (s : Sign) (h : OnGrid m e)
    (he : e ≤ 971) (hle : signed s (magnitude m e) ≤ q) :
    ∃ a, unpackedRank? (held u) = some a ∧ gridRank s m e ≤ a := by
  obtain ⟨s', n, f, hq, rfl⟩ := hu
  exact FloatOrder.le_held s s' h he hq.onGrid (hq.le_of_le s m e h hle)

/-- What an unpacked float is held as is not above a float that it is not above by value. -/
theorem held_le (s s' : Sign) (h : OnGrid m e) (he : e ≤ 971) (h' : OnGrid n f)
    (hle : signed s' (magnitude n f) ≤ signed s (magnitude m e)) :
    ∃ a, unpackedRank? (held (ofGrid s' n f)) = some a ∧ a ≤ gridRank s m e := by
  rw [held_ofGrid s' h']
  split
  · exact ⟨_, rank_ofGrid s' n f, (gridRank_le_iff s' s h' h).mpr hle⟩
  · rename_i hf
    cases s' with
    | positive =>
      have hlt : magnitude m e < magnitude n f := by
        rw [← not_le, h'.le_iff h]
        omega
      have := magnitude_nonneg m e
      cases s <;> simp only [signed] at hle <;> linarith
    | negative =>
      refine ⟨rankOf (-2) 0 0, rfl, ?_⟩
      unfold gridRank
      split
      · simp [rankOf_le]
      · cases s <;> simp [rankOf_le]

theorem Rounded.held_le {q : ℚ} {u : UnpackedFloat} (hu : Rounded q u) (s : Sign) (h : OnGrid m e)
    (he : e ≤ 971) (hle : q ≤ signed s (magnitude m e)) :
    ∃ a, unpackedRank? (held u) = some a ∧ a ≤ gridRank s m e := by
  obtain ⟨s', n, f, hq, rfl⟩ := hu
  exact FloatOrder.held_le s s' h he hq.onGrid (hq.ge_of_ge s m e h hle)

/-- No rank is above that of infinity. -/
theorem le_highest {u : UnpackedFloat} {a : Rank} (h : unpackedRank? u = some a) :
    a ≤ rankOf 2 0 0 := by
  rcases u with ⟨_ | _⟩ | _ | _ | ⟨_ | _, m, e, hm⟩
  case notANumber => exact absurd h (Option.some_ne_none a).symm
  all_goals
    obtain rfl := Option.some.inj h
    simp [rankOf_le]

variable {x y : Float}

/-- The kinds of floats. -/
theorem float_cases (x : Float) : x.toModel.unpack = .notANumber ∨
    (∃ s, x.toModel.unpack = .infinity s) ∨
    ∃ s m e, OnGrid m e ∧ e ≤ 971 ∧ x.toModel.unpack = ofGrid s m e :=
  unpack_cases x.toModel.toBits.toBitVec

theorem rank_add (x y : Float) : rank? (x + y) =
    unpackedRank? (held (UnpackedFloat.add .binary64 x.toModel.unpack y.toModel.unpack)) := rfl

theorem rank_sub (x y : Float) : rank? (x - y) =
    unpackedRank? (held (UnpackedFloat.sub .binary64 x.toModel.unpack y.toModel.unpack)) := rfl

theorem rank_mul (x y : Float) : rank? (x * y) =
    unpackedRank? (held (UnpackedFloat.mul .binary64 x.toModel.unpack y.toModel.unpack)) := rfl

theorem rank_zero : rank? 0.0 = some (gridRank .positive 0 (-1074)) := by decide +kernel

theorem zero_le_iff : 0.0 ≤ y ↔ ∃ b, rank? y = some b ∧ gridRank .positive 0 (-1074) ≤ b := by
  rw [le_iff]
  constructor
  · rintro ⟨a, b, ha, hb, hab⟩
    obtain rfl := Option.some.inj (rank_zero.symm.trans ha)
    exact ⟨b, hb, hab⟩
  · rintro ⟨b, hb, hab⟩
    exact ⟨_, b, rank_zero, hb, hab⟩

theorem zero_lt_iff : 0.0 < y ↔ ∃ b, rank? y = some b ∧ gridRank .positive 0 (-1074) < b := by
  rw [lt_iff]
  constructor
  · rintro ⟨a, b, ha, hb, hab⟩
    obtain rfl := Option.some.inj (rank_zero.symm.trans ha)
    exact ⟨b, hb, hab⟩
  · rintro ⟨b, hb, hab⟩
    exact ⟨_, b, rank_zero, hb, hab⟩

/-- The kinds of floats that are not below zero. -/
theorem nonneg_cases (hy : 0.0 ≤ y) : y.toModel.unpack = .infinity .positive ∨
    ∃ s m e, OnGrid m e ∧ e ≤ 971 ∧ 0 ≤ signed s (magnitude m e) ∧ y.toModel.unpack = ofGrid s m e := by
  obtain ⟨b, hb, hle⟩ := zero_le_iff.mp hy
  unfold rank? at hb
  rcases float_cases y with hy | ⟨s, hy⟩ | ⟨s, m, e, h, he, hy⟩ <;> rw [hy] at hb
  · exact absurd hb (Option.some_ne_none b).symm
  · cases s with
    | positive => exact .inl hy
    | negative =>
      obtain rfl := Option.some.inj hb
      exact absurd hle (by simp [gridRank, rankOf_le])
  · rw [rank_ofGrid] at hb
    obtain rfl := Option.some.inj hb
    have := (gridRank_le_iff .positive s onGrid_zero h).mp hle
    rw [magnitude_zero] at this
    exact .inr ⟨s, m, e, h, he, this, hy⟩

theorem unpack_of_isNaN (h : x.isNaN = true) : x.toModel.unpack = .notANumber := by
  have hrank := isNaN_iff.mp h
  unfold rank? at hrank
  rcases float_cases x with hx | ⟨s, hx⟩ | ⟨s, m, e, -, -, hx⟩
  · exact hx
  · rw [hx] at hrank
    cases s <;> exact absurd hrank (Option.some_ne_none _)
  · rw [hx, rank_ofGrid] at hrank
    exact absurd hrank (Option.some_ne_none _)

/-- A sum with what is no number is none. -/
theorem isNaN_add (h : x.isNaN = true ∨ y.isNaN = true) : (x + y).isNaN = true := by
  rw [isNaN_iff, rank_add]
  rcases h with h | h
  · have hsum (u : UnpackedFloat) : UnpackedFloat.add .binary64 .notANumber u = .notANumber := by
      cases u <;> simp [UnpackedFloat.add]
    rw [unpack_of_isNaN h, hsum]
    rfl
  · have hsum (u : UnpackedFloat) : UnpackedFloat.add .binary64 u .notANumber = .notANumber := by
      cases u <;> simp [UnpackedFloat.add]
    rw [unpack_of_isNaN h, hsum]
    rfl

/-- Adding what is not below zero leads to no float below. -/
theorem le_add (hx : x.isNaN = false) (hy : 0.0 ≤ y) : (x + y).isNaN = true ∨ x ≤ x + y := by
  have hadd := rank_add x y
  rcases float_cases x with hxu | ⟨s, hxu⟩ | ⟨s, m, e, h, he, hxu⟩
  · rw [isNaN_iff.mpr (congrArg unpackedRank? hxu)] at hx
    exact absurd hx (by decide)
  · have hrank : rank? x = unpackedRank? (.infinity s) := congrArg unpackedRank? hxu
    rcases nonneg_cases hy with hyu | ⟨s', n, f, h', hf, hpos, hyu⟩ <;> rw [hxu, hyu] at hadd
    · cases s with
      | positive => exact .inr (le_iff.mpr ⟨_, _, hrank, hadd, le_refl _⟩)
      | negative => exact .inl (isNaN_iff.mpr hadd)
    · have hsum : UnpackedFloat.add .binary64 (.infinity s) (ofGrid s' n f) = .infinity s := by
        unfold ofGrid
        split <;> rfl
      rw [hsum] at hadd
      cases s <;> exact .inr (le_iff.mpr ⟨_, _, hrank, hadd, le_refl _⟩)
  · have hrank : rank? x = some (gridRank s m e) := (congrArg unpackedRank? hxu).trans (rank_ofGrid s m e)
    rcases nonneg_cases hy with hyu | ⟨s', n, f, h', hf, hpos, hyu⟩ <;> rw [hxu, hyu] at hadd
    · have hsum : UnpackedFloat.add .binary64 (ofGrid s m e) (.infinity .positive) =
          .infinity .positive := by
        unfold ofGrid
        split <;> rfl
      rw [hsum] at hadd
      exact .inr (le_iff.mpr ⟨_, _, hrank, hadd, le_highest (rank_ofGrid s m e)⟩)
    · obtain ⟨a, ha, hle⟩ := (add_rounded s s' h h').le_held s h he (le_add_of_nonneg_right hpos)
      exact .inr (le_iff.mpr ⟨_, a, hrank, hadd.trans ha, hle⟩)

/-- A float less one below it is not below zero. -/
theorem zero_le_sub (h : y < x) : 0.0 ≤ x - y := by
  obtain ⟨a, b, hy, hx, hab⟩ := lt_iff.mp h
  have hsub := rank_sub x y
  rw [zero_le_iff, hsub]
  unfold rank? at hx hy
  rcases float_cases x with hxu | ⟨s, hxu⟩ | ⟨s, m, e, hm, he, hxu⟩ <;> rw [hxu] at hx ⊢
  · exact absurd hx (Option.some_ne_none b).symm
  · have hs : s = .positive := by
      cases s with
      | positive => rfl
      | negative =>
        obtain rfl := Option.some.inj hx
        exact absurd hab (not_lt_lowest hy)
    subst hs
    have hdifference : UnpackedFloat.sub .binary64 (.infinity .positive) y.toModel.unpack =
        .infinity .positive := by
      rcases float_cases y with hyu | ⟨s', hyu⟩ | ⟨s', n, f, hn, hf, hyu⟩ <;> rw [hyu] at hy ⊢
      · exact absurd hy (Option.some_ne_none a).symm
      · cases s' with
        | negative => rfl
        | positive =>
          obtain rfl := Option.some.inj (hx.symm.trans hy)
          exact absurd hab (Std.lt_irrefl)
      · unfold ofGrid
        split <;> rfl
    rw [hdifference]
    exact ⟨_, rfl, le_highest rank_zero⟩
  · rcases float_cases y with hyu | ⟨s', hyu⟩ | ⟨s', n, f, hn, hf, hyu⟩ <;> rw [hyu] at hy ⊢
    · exact absurd hy (Option.some_ne_none a).symm
    · cases s' with
      | positive =>
        obtain rfl := Option.some.inj hy
        exact absurd hab (not_lt.mpr (le_highest hx))
      | negative =>
        have hdifference : UnpackedFloat.sub .binary64 (ofGrid s m e) (.infinity .negative) =
            .infinity .positive := by
          unfold ofGrid
          split <;> rfl
        rw [hdifference]
        exact ⟨_, rfl, le_highest rank_zero⟩
    · rw [rank_ofGrid] at hx hy
      obtain rfl := Option.some.inj hx
      obtain rfl := Option.some.inj hy
      have hle := (gridRank_le_iff s' s hn hm).mp hab.le
      refine (sub_rounded s s' hm hn).le_held .positive onGrid_zero (by decide) ?_
      rw [magnitude_zero]
      exact sub_nonneg.mpr hle

/-- A product of floats not below zero is not below zero. -/
theorem zero_le_mul (hx : 0.0 ≤ x) (hy : 0.0 ≤ y) : (x * y).isNaN = true ∨ 0.0 ≤ x * y := by
  have hmul := rank_mul x y
  rw [isNaN_iff, zero_le_iff, hmul]
  have infinite (s : Sign) (m : ℕ) (e : ℤ) (hs : 0 ≤ signed s (magnitude m e)) (u : UnpackedFloat)
      (hu : u = if m = 0 then .notANumber else .infinity s) : unpackedRank? (held u) = none ∨
        ∃ b, unpackedRank? (held u) = some b ∧ gridRank .positive 0 (-1074) ≤ b := by
    subst hu
    split
    · exact .inl rfl
    · rename_i hm
      have hpos := magnitude_pos (e := e) (Nat.pos_of_ne_zero hm)
      cases s with
      | positive => exact .inr ⟨_, rfl, le_highest rank_zero⟩
      | negative =>
        simp only [signed] at hs
        linarith
  rcases nonneg_cases hx with hxu | ⟨s, m, e, hm, he, hpos, hxu⟩ <;>
    rcases nonneg_cases hy with hyu | ⟨s', n, f, hn, hf, hpos', hyu⟩ <;> rw [hxu, hyu]
  · exact .inr ⟨_, rfl, le_highest rank_zero⟩
  · refine infinite s' n f hpos' _ ?_
    unfold ofGrid
    split
    · rfl
    · cases s' <;> rfl
  · refine infinite s m e hpos _ ?_
    unfold ofGrid
    split
    · rfl
    · cases s <;> rfl
  · refine .inr ((mul_rounded s s' hm hn).le_held .positive onGrid_zero (by decide) ?_)
    rw [magnitude_zero]
    exact mul_nonneg hpos hpos'

/-- A product with a finite float of one or more is above zero just when the other factor is. -/
theorem zero_lt_mul_iff (hy : y.toModel.unpack = ofGrid .positive n f) (h' : OnGrid n f)
    (hone : 1 ≤ magnitude n f) : 0.0 < x * y ↔ 0.0 < x := by
  have hn : 0 < n := by
    rcases Nat.eq_zero_or_pos n with rfl | hn
    · rw [magnitude_zero] at hone
      linarith
    · exact hn
  have hmul := rank_mul x y
  rcases float_cases x with hx | ⟨s, hx⟩ | ⟨s, m, e, h, he, hx⟩ <;> rw [hx, hy] at hmul
  · have hproduct : UnpackedFloat.mul .binary64 .notANumber (ofGrid .positive n f) = .notANumber := by
      rw [ofGrid_of_pos _ hn]
      simp only [UnpackedFloat.mul]
    have hrank : rank? (x * y) = rank? x := by
      rw [hmul, hproduct, rank?, hx]
      rfl
    rw [zero_lt_iff, zero_lt_iff, hrank]
  · have hrank : rank? (x * y) = rank? x := by
      have hproduct : UnpackedFloat.mul .binary64 (.infinity s) (ofGrid .positive n f) = .infinity s := by
        rw [ofGrid_of_pos _ hn]
        cases s <;> rfl
      rw [hmul, hproduct, held_infinity, rank?, hx]
    rw [zero_lt_iff, zero_lt_iff, hrank]
  · have hrank : rank? x = some (gridRank s m e) := (congrArg unpackedRank? hx).trans (rank_ofGrid s m e)
    have hrounded := mul_rounded s .positive h h'
    have hzero : signed .positive (magnitude 0 (-1074)) = 0 := magnitude_zero _
    have hfactor : signed .positive (magnitude n f) = magnitude n f := rfl
    rw [hfactor] at hrounded
    rw [zero_lt_iff, zero_lt_iff, hmul, hrank]
    by_cases hpos : signed s (magnitude m e) ≤ 0
    · obtain ⟨a, ha, hle⟩ := hrounded.held_le .positive onGrid_zero (by decide)
        (by rw [hzero]; exact mul_nonpos_of_nonpos_of_nonneg hpos (by linarith))
      refine iff_of_false ?_ ?_
      · rintro ⟨b, hb, hlt⟩
        obtain rfl := Option.some.inj (ha.symm.trans hb)
        exact absurd hle (not_le_of_gt hlt)
      · rintro ⟨b, hb, hlt⟩
        obtain rfl := Option.some.inj hb
        have hle' := (gridRank_le_iff s .positive h onGrid_zero).mpr (by rwa [hzero])
        exact absurd hle' (not_le_of_gt hlt)
    · rw [not_le] at hpos
      have habove : gridRank .positive 0 (-1074) < gridRank s m e := by
        rw [← not_le, gridRank_le_iff s .positive h onGrid_zero, hzero, not_le]
        exact hpos
      obtain ⟨a, ha, hle⟩ := hrounded.le_held s h he (le_mul_of_one_le_right hpos.le hone)
      exact iff_of_true ⟨a, ha, habove.trans_le hle⟩ ⟨_, rfl, habove⟩

end Backtest.FloatOrder
