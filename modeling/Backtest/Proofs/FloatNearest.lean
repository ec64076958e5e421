import Backtest.Proofs.Generators

/-!
# The nearest float

A value that is rounded goes to the nearest point of the grid, and halfway between two points to the one
with an even mantissa. So the values that are rounded to a point fill an interval around it. What a
rounding sees of a value are a mantissa, one bit more, and whether anything is left; that is enough to
tell on which side of the ends of the interval the value lies.

* `FloatOrder.Nearest`, the values for which a point of the grid is the nearest;
* `FloatOrder.Shows`, what an extended mantissa tells of a value, and `FloatOrder.Shows.shiftRight`, what
  it still tells with fewer bits;
* `FloatOrder.Nearest.carried_eq`, the mantissa and exponent after rounding;
  `FloatOrder.Nearest.roundWithAccuracy_eq`, `FloatOrder.Nearest.mul_eq`, `FloatOrder.Nearest.div_eq`, the
  operations.
-/

namespace Backtest.FloatOrder

open Float.Model Float.Model.UnpackedFloat

variable {m n : ℕ} {e f t : ℤ} {v : ℚ}

/-! ### The interval of a point -/

/-- How far the interval of a point reaches down, in quarters of the step above it. Below a power of two
the points lie twice as close. -/
def reachBelow (m : ℕ) (e : ℤ) : ℕ := if m = 2 ^ 52 ∧ -1074 < e then 1 else 2

/-- The point of the grid is the nearest to the value; the ends of its interval belong to it if its
mantissa is even. -/
structure Nearest (v : ℚ) (m : ℕ) (e : ℤ) : Prop where
  onGrid : OnGrid m e
  pos : 0 < m
  low : magnitude (4 * m - reachBelow m e) (e - 2) ≤ v
  high : v ≤ magnitude (4 * m + 2) (e - 2)
  of_odd : m % 2 = 1 →
    magnitude (4 * m - reachBelow m e) (e - 2) < v ∧ v < magnitude (4 * m + 2) (e - 2)

theorem reachBelow_le (m : ℕ) (e : ℤ) : reachBelow m e ≤ 2 := by
  unfold reachBelow
  split <;> omega

theorem reachBelow_of_odd (h : m % 2 = 1) (e : ℤ) : reachBelow m e = 2 := by
  refine if_neg ?_
  rintro ⟨rfl, -⟩
  omega

/-- A magnitude at the next lower exponent. -/
theorem magnitude_double (m : ℕ) (e : ℤ) : magnitude (2 * m) (e - 1) = magnitude m e := by
  rw [Nat.mul_comm]
  exact magnitude_shift m e 1

theorem magnitude_quadruple (m : ℕ) (e : ℤ) : magnitude (2 * m) (e - 2) = magnitude m (e - 1) := by
  rw [← magnitude_double m (e - 1)]
  congr 1
  ring

/-- Powers of two are ordered by their exponents. -/
theorem lt_of_two_pow {j k : ℕ} (hle : magnitude (2 ^ j) e ≤ v) (hlt : v < magnitude (2 ^ k) f) :
    j + e < k + f := by
  have h := hle.trans_lt hlt
  rw [magnitude_two_pow, magnitude_two_pow] at h
  exact (zpow_lt_zpow_iff_right₀ (by norm_num)).mp h

namespace Nearest

theorem value_pos (h : Nearest v m e) : 0 < v := by
  have hpos := h.pos
  have hreach := reachBelow_le m e
  exact (magnitude_pos (by omega)).trans_le h.low

theorem lt_two_pow (h : Nearest v m e) : v < magnitude (2 ^ 55) (e - 2) := by
  refine h.high.trans_lt (magnitude_lt_iff.mpr ?_)
  have := h.onGrid.lt
  omega

/-- The ends of the interval, half a step away. -/
theorem half_low (h : Nearest v m e) : magnitude (2 * m - 1) (e - 1) ≤ v := by
  refine le_trans ?_ h.low
  rw [← magnitude_quadruple, magnitude_le_iff]
  have := reachBelow_le m e
  omega

theorem half_high (h : Nearest v m e) : v ≤ magnitude (2 * m + 1) (e - 1) := by
  have hdouble : 2 * (2 * m + 1) = 4 * m + 2 := by omega
  rw [← magnitude_quadruple, hdouble]
  exact h.high

theorem half_of_odd (h : Nearest v m e) (hodd : m % 2 = 1) :
    magnitude (2 * m - 1) (e - 1) < v ∧ v < magnitude (2 * m + 1) (e - 1) := by
  obtain ⟨hlow, hhigh⟩ := h.of_odd hodd
  rw [reachBelow_of_odd hodd] at hlow
  have hdouble : 2 * (2 * m - 1) = 4 * m - 2 := by omega
  have hdouble' : 2 * (2 * m + 1) = 4 * m + 2 := by omega
  rw [← magnitude_quadruple, ← magnitude_quadruple, hdouble, hdouble']
  exact ⟨hlow, hhigh⟩

end Nearest

/-! ### What is seen of a value -/

/-- The extended mantissa shows the value: it holds the bits down to the round bit, and the sticky bit
tells whether anything is left. -/
def Shows (v : ℚ) (x : ExtendedMantissa) (e : ℤ) : Prop :=
  if x.stickyBit then
    magnitude (2 * x.mantissa + x.roundBit.toNat) (e - 1) < v ∧
      v < magnitude (2 * x.mantissa + x.roundBit.toNat + 1) (e - 1)
  else v = magnitude (2 * x.mantissa + x.roundBit.toNat) (e - 1)

theorem shows_exact {r : Bool} :
    Shows v ⟨m, r, false⟩ e ↔ v = magnitude (2 * m + r.toNat) (e - 1) := Iff.rfl

theorem shows_inexact {r : Bool} : Shows v ⟨m, r, true⟩ e ↔
    magnitude (2 * m + r.toNat) (e - 1) < v ∧ v < magnitude (2 * m + r.toNat + 1) (e - 1) := Iff.rfl

namespace Shows

variable {x : ExtendedMantissa}

theorem exact (m : ℕ) (e : ℤ) : Shows (magnitude m e) ⟨m, false, false⟩ e :=
  shows_exact.mpr (magnitude_double m e).symm

/-- The mantissa holds the bits of the value that it has room for. -/
theorem floor (h : Shows v x e) : magnitude x.mantissa e ≤ v ∧ v < magnitude (x.mantissa + 1) e := by
  obtain ⟨m, r, s⟩ := x
  show magnitude m e ≤ v ∧ v < magnitude (m + 1) e
  have hbit := Bool.toNat_lt r
  rw [← magnitude_double m e, ← magnitude_double (m + 1) e]
  cases s with
  | false =>
    rw [shows_exact] at h
    rw [h, magnitude_le_iff, magnitude_lt_iff]
    omega
  | true =>
    obtain ⟨hlow, hhigh⟩ := shows_inexact.mp h
    refine ⟨le_trans (magnitude_le_iff.mpr ?_) hlow.le, hhigh.trans_le (magnitude_le_iff.mpr ?_)⟩ <;>
      omega

/-- One bit less: the last bit is the round bit, and what the bits behind it told is left. -/
theorem shiftRightOne (h : Shows v x e) : Shows v x.shiftRightOne (e + 1) := by
  have hfloor := h.floor
  obtain ⟨m, r, s⟩ := x
  have hfloor : magnitude m e ≤ v ∧ v < magnitude (m + 1) e := hfloor
  have hbits : 2 * (m / 2) + (m % 2 != 0).toNat = m := by
    rcases Nat.mod_two_eq_zero_or_one m with hm | hm <;> simp [hm] <;> omega
  have hpast : magnitude m e < magnitude (2 * m + 1) (e - 1) := by
    rw [← magnitude_double, magnitude_lt_iff]
    omega
  show Shows v ⟨m / 2, m % 2 != 0, r || s⟩ (e + 1)
  cases s with
  | false =>
    rw [shows_exact] at h
    cases r with
    | false =>
      rw [Bool.or_false, shows_exact, hbits, add_sub_cancel_right, h]
      exact magnitude_double m e
    | true =>
      rw [Bool.or_false, shows_inexact, hbits, add_sub_cancel_right]
      exact ⟨h ▸ hpast, hfloor.2⟩
  | true =>
    obtain ⟨hlow, -⟩ := shows_inexact.mp h
    rw [Bool.or_true, shows_inexact, hbits, add_sub_cancel_right]
    cases r with
    | false =>
      have hlow : magnitude (2 * m) (e - 1) < v := hlow
      rw [magnitude_double] at hlow
      exact ⟨hlow, hfloor.2⟩
    | true => exact ⟨hpast.trans hlow, hfloor.2⟩

theorem shiftRight (h : Shows v x e) (k : ℕ) : Shows v (x >>> k) (e + k) := by
  induction k with
  | zero =>
    rw [Nat.cast_zero, add_zero]
    exact h
  | succ k ih =>
    rw [shiftRight_succ]
    have hexp : e + ((k + 1 : ℕ) : ℤ) = e + k + 1 := by push_cast; ring
    rw [hexp]
    exact ih.shiftRightOne

/-- Rounding gives the number whose half steps on both sides hold the value, the ends for an even one. -/
theorem roundedMantissa_eq (h : Shows v x t) (hn : 0 < n) (hlow : magnitude (2 * n - 1) (t - 1) ≤ v)
    (hhigh : v ≤ magnitude (2 * n + 1) (t - 1))
    (hodd : n % 2 = 1 → magnitude (2 * n - 1) (t - 1) < v ∧ v < magnitude (2 * n + 1) (t - 1)) :
    x.roundedMantissa = n := by
  obtain ⟨m, r, s⟩ := x
  cases s with
  | false =>
    obtain rfl := shows_exact.mp h
    cases r with
    | false =>
      show m = n
      rw [magnitude_le_iff] at hlow hhigh
      simp only [Bool.toNat_false] at hlow hhigh
      omega
    | true =>
      -- halfway: the number is one of the two neighbours, and it is even
      show m + m % 2 = n
      simp only [Bool.toNat_true] at hlow hhigh hodd
      rw [magnitude_le_iff] at hlow hhigh
      rw [magnitude_lt_iff, magnitude_lt_iff] at hodd
      omega
  | true =>
    obtain ⟨hafter, hbefore⟩ := shows_inexact.mp h
    have hup := magnitude_lt_iff.mp (hlow.trans_lt hbefore)
    have hdown := magnitude_lt_iff.mp (hafter.trans_le hhigh)
    cases r with
    | false =>
      show m = n
      simp only [Bool.toNat_false] at hup hdown
      omega
    | true =>
      show m + 1 = n
      simp only [Bool.toNat_true] at hup hdown
      omega

end Shows

/-! ### Rounding to the nearest point -/

/-- The value is rounded at the exponent: it has 53 bits there, or fewer at the least exponent. -/
structure RoundedAt (v : ℚ) (t : ℤ) : Prop where
  lt : v < magnitude (2 ^ 53) t
  le : -1074 ≤ t
  full : -1074 < t → magnitude (2 ^ 52) t ≤ v

/-- The exponent that rounding takes from a mantissa which shows the value. -/
theorem Shows.roundedAt {x : ExtendedMantissa} (h : Shows v x e)
    (ht : t = max ((x.mantissa.log2 : ℤ) + e - 52) (-1074)) (he : e ≤ t) : RoundedAt v t := by
  obtain ⟨hlow, hhigh⟩ := h.floor
  constructor
  · refine hhigh.trans_le ?_
    have hbits : magnitude (x.mantissa + 1) e ≤ magnitude (2 ^ (x.mantissa.log2 + 1)) e :=
      magnitude_le_iff.mpr Nat.lt_log2_self
    refine hbits.trans ?_
    rw [magnitude_two_pow, magnitude_two_pow]
    refine zpow_le_zpow_right₀ (by norm_num) ?_
    push_cast
    omega
  · omega
  · intro hfull
    have hne : x.mantissa ≠ 0 := by
      intro hzero
      rw [hzero] at ht
      have : (Nat.log2 0 : ℤ) = 0 := rfl
      omega
    refine le_trans ?_ ((two_zpow_le_magnitude hne).trans hlow)
    rw [magnitude_two_pow]
    refine zpow_le_zpow_right₀ (by norm_num) ?_
    push_cast
    omega

namespace Nearest

/-- A value is rounded at the exponent of its nearest point, or just below a power of two. -/
theorem exponent (h : Nearest v m e) (ht : RoundedAt v t) : t = e ∨ t = e - 1 ∧ m = 2 ^ 52 ∧ -1074 < e := by
  have hgrid := h.onGrid.le
  have hbelow := ht.le
  rcases lt_trichotomy t e with hlt | heq | hgt
  · have hfull : 2 ^ 52 ≤ m := h.onGrid.full.resolve_right (by omega)
    by_cases hm : m = 2 ^ 52
    · have hlow : magnitude (2 ^ 53) (e - 2) ≤ v := by
        refine le_trans (magnitude_le_iff.mpr ?_) h.low
        rw [reachBelow, if_pos ⟨hm, by omega⟩]
        omega
      have := lt_of_two_pow hlow ht.lt
      omega
    · have hlow : magnitude (2 ^ 54) (e - 2) ≤ v := by
        refine le_trans (magnitude_le_iff.mpr ?_) h.low
        have := reachBelow_le m e
        omega
      have := lt_of_two_pow hlow ht.lt
      omega
  · exact .inl heq
  · have := lt_of_two_pow (ht.full (by omega)) h.lt_two_pow
    omega

/-- A value is rounded to its nearest point. -/
theorem carried_eq {x : ExtendedMantissa} (h : Nearest v m e) (ht : RoundedAt v t) (hx : Shows v x t) :
    carried x.roundedMantissa t = (m, e) := by
  rcases h.exponent ht with rfl | ⟨rfl, rfl, hlt⟩
  · rw [hx.roundedMantissa_eq h.pos h.half_low h.half_high h.half_of_odd]
    exact if_pos h.onGrid.lt
  · -- the value is rounded up to a power of two, which needs a bit more
    have hround : x.roundedMantissa = 2 ^ 53 := by
      refine hx.roundedMantissa_eq (by norm_num) ?_ ?_ fun hodd => absurd hodd (by decide)
      · have hlow := h.low
        rw [reachBelow, if_pos ⟨rfl, hlt⟩] at hlow
        have hexp : e - 1 - 1 = e - 2 := by ring
        rw [hexp]
        exact hlow
      · refine ht.lt.le.trans ?_
        rw [← magnitude_double, magnitude_le_iff]
        omega
    have hcarry : carried (2 ^ 53) (e - 1) = (2 ^ 52, e - 1 + 1) := rfl
    rw [hround, hcarry, sub_add_cancel]

/-- Rounding a mantissa that shows the value. -/
theorem roundWithAccuracy_eq (h : Nearest v n f) (s : Sign) {accuracy : Accuracy}
    (hv : Shows v (ExtendedMantissa.ofMantissaAndAccuracy m accuracy) e)
    (he : e ≤ max ((m.log2 : ℤ) + e - 52) (-1074)) :
    roundWithAccuracy .binary64 s m e accuracy = ofGrid s n f := by
  obtain ⟨t, ht⟩ : ∃ t : ℤ, t = max ((m.log2 : ℤ) + e - 52) (-1074) := ⟨_, rfl⟩
  rw [← ht] at he
  have hshifted := hv.shiftRight (t - e).toNat
  have hexp : e + ((t - e).toNat : ℤ) = t := by omega
  rw [hexp] at hshifted
  have hround : RoundedAt v t := hv.roundedAt (by rw [mantissa_ofMantissaAndAccuracy, ht]) he
  rw [(FloatOrder.roundWithAccuracy_eq s accuracy ht he rfl).2, h.carried_eq hround hshifted]

/-- A product with bits enough is rounded to its nearest point. -/
theorem mul_eq {i : ℕ} {g : ℤ} (h : Nearest (magnitude m e * magnitude n f) i g) (hm : 0 < m) (hn : 0 < n)
    (hbits : 52 ≤ (m * n).log2) (s s' : Sign) :
    UnpackedFloat.mul .binary64 (ofGrid s m e) (ofGrid s' n f) = ofGrid (s * s') i g := by
  have hvalue : magnitude m e * magnitude n f = magnitude (m * n) (e + f) := by
    rw [magnitude, magnitude, magnitude, Nat.cast_mul, zpow_add₀ (by norm_num)]
    ring
  rw [hvalue] at h
  rw [ofGrid_of_pos s hm, ofGrid_of_pos s' hn]
  have hexact : Shows (magnitude (m * n) (e + f)) (ExtendedMantissa.ofMantissaAndAccuracy (m * n) .exact) (e + f) :=
    .exact _ _
  exact h.roundWithAccuracy_eq (s * s') hexact (by omega)

end Nearest

/-- A quotient of whole numbers and what its remainder tells show the exact quotient. -/
theorem shows_quotient (m : ℕ) {d : ℕ} (hd : 0 < d) (t : ℤ) : Shows (magnitude m t / d)
    (ExtendedMantissa.ofMantissaAndAccuracy (m / d) (accuracyOfFraction (m % d) d)) t := by
  have hd' : (0 : ℚ) < d := by exact_mod_cast hd
  have hsplit : d * (m / d) + m % d = m := Nat.div_add_mod m d
  -- twice the dividend is compared with a multiple of the divisor
  have hmul (a : ℕ) : magnitude a (t - 1) * d = magnitude (a * d) (t - 1) := by
    rw [magnitude, magnitude, Nat.cast_mul, mul_right_comm]
  have hle {a : ℕ} : magnitude a (t - 1) ≤ magnitude m t / d ↔ a * d ≤ 2 * m := by
    rw [le_div_iff₀ hd', hmul, ← magnitude_double m, magnitude_le_iff]
  have hge {a : ℕ} : magnitude m t / d ≤ magnitude a (t - 1) ↔ 2 * m ≤ a * d := by
    rw [div_le_iff₀ hd', hmul, ← magnitude_double m, magnitude_le_iff]
  unfold accuracyOfFraction
  split
  · rename_i hzero
    refine shows_exact.mpr (le_antisymm (hge.mpr ?_) (hle.mpr ?_)) <;>
      simp only [Bool.toNat_false] <;> nlinarith
  · rename_i hne
    have hlt := Nat.mod_lt m hd
    cases hcmp : compare (2 * (m % d)) d with
    | lt =>
      have hless := Nat.compare_eq_lt.mp hcmp
      refine shows_inexact.mpr ⟨not_le.mp fun h => ?_, not_le.mp fun h => ?_⟩
      · have := hge.mp h
        simp only [Bool.toNat_false] at this
        have hpos := Nat.pos_of_ne_zero hne
        nlinarith
      · have := hle.mp h
        simp only [Bool.toNat_false] at this
        nlinarith
    | eq =>
      have heq := Nat.compare_eq_eq.mp hcmp
      refine shows_exact.mpr (le_antisymm (hge.mpr ?_) (hle.mpr ?_)) <;>
        simp only [Bool.toNat_true] <;> nlinarith
    | gt =>
      have hmore := Nat.compare_eq_gt.mp hcmp
      refine shows_inexact.mpr ⟨not_le.mp fun h => ?_, not_le.mp fun h => ?_⟩
      · have := hge.mp h
        simp only [Bool.toNat_true] at this
        nlinarith
      · have := hle.mp h
        simp only [Bool.toNat_true] at this
        nlinarith

/-- A quotient is rounded to its nearest point. -/
theorem Nearest.div_eq {i : ℕ} {g : ℤ} (h : Nearest (magnitude m e / magnitude n f) i g) (hm : 0 < m)
    (hn : 0 < n) (s s' : Sign) :
    UnpackedFloat.div .binary64 (ofGrid s m e) (ofGrid s' n f) = ofGrid (s / s') i g := by
  obtain ⟨c, hc⟩ : ∃ c : ℤ, c = min (e - f) (max ((m.log2 : ℤ) + e - n.log2 - f - 53) (-1074)) := ⟨_, rfl⟩
  obtain ⟨k, hk⟩ : ∃ k : ℕ, k = (e - f - c).toNat := ⟨_, rfl⟩
  have htarget : min (e - f) (Format.binary64.targetExponent (totalExponent m e - totalExponent n f)) = c := by
    rw [hc]
    simp only [Format.targetExponent, totalExponent, Format.mantissaBits, Format.minExponent]
    norm_num
    omega
  have hvalue : magnitude m e / magnitude n f = magnitude (m <<< k) c / n := by
    have hlow : magnitude m e = magnitude (m <<< k) c * (2 : ℚ) ^ f := by
      rw [Nat.shiftLeft_eq, magnitude, magnitude, mul_assoc, ← zpow_add₀ (by norm_num), Nat.cast_mul,
        Nat.cast_pow, Nat.cast_ofNat, ← zpow_natCast, mul_assoc, ← zpow_add₀ (by norm_num)]
      congr 2
      omega
    rw [hlow, magnitude]
    exact mul_div_mul_right _ _ (zpow_pos (by norm_num) f).ne'
  have hbits : c ≤ max (((m <<< k / n).log2 : ℤ) + c - 52) (-1074) := by
    by_cases hmin : c ≤ -1074
    · exact hmin.trans (le_max_right _ _)
    · have hlog : n.log2 + 53 ≤ m.log2 + k := by omega
      have hlow : 2 ^ (n.log2 + 53) ≤ m <<< k := by
        rw [Nat.shiftLeft_eq]
        refine (Nat.pow_le_pow_right (by decide) hlog).trans ?_
        rw [pow_add]
        exact Nat.mul_le_mul_right _ (Nat.log2_self_le hm.ne')
      have hfull : 2 ^ 52 ≤ m <<< k / n := by
        refine (Nat.le_div_iff_mul_le hn).mpr (le_trans ?_ hlow)
        have hsum : n.log2 + 53 = 52 + (n.log2 + 1) := by omega
        rw [hsum, pow_add]
        exact Nat.mul_le_mul_left _ Nat.lt_log2_self.le
      have := (Nat.le_log2 (by omega)).mpr hfull
      omega
  rw [hvalue] at h
  rw [ofGrid_of_pos s hm, ofGrid_of_pos s' hn, UnpackedFloat.div]
  simp only [divCore, htarget, ← hk]
  exact h.roundWithAccuracy_eq (s / s') (shows_quotient (m <<< k) hn c) hbits

end Backtest.FloatOrder
