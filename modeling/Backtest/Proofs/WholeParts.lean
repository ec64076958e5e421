import Backtest.Proofs.DecimalReading

/-!
# Whole parts of floats

Every value that is not too small has a nearest float. On its way there it passes over no whole number, and
from below it reaches a whole number only if it is close to it. So the whole part of a number of millionths
that is held as a float is the whole number below it or the next one.

* `FloatOrder.exists_nearest`, the nearest point of a value;
* `FloatOrder.Nearest.natCast_le`, `FloatOrder.Nearest.le_natCast`, whole numbers on both sides of a value;
  `FloatOrder.Nearest.lt_natCast`, a whole number that is far enough;
* `Decimal.wholePart?_ofDecimal`, the whole part of the float of a decimal; `Decimal.exists_wholePart`, that
  of millionths.
-/

namespace Backtest

namespace FloatOrder

variable {m k : ℕ} {e t : ℤ} {v : ℚ}

/-! ### The nearest point of a value -/

theorem magnitude_fourfold (m : ℕ) (e : ℤ) : magnitude (4 * m) (e - 2) = magnitude m e := by
  rw [← magnitude_double m e, ← magnitude_quadruple, ← Nat.mul_assoc]

/-- The half steps that a value reaches. -/
theorem exists_halfSteps (hv : 0 ≤ v) (t : ℤ) :
    ∃ k : ℕ, magnitude k (t - 1) ≤ v ∧ v < magnitude (k + 1) (t - 1) := by
  have htwo : (0 : ℚ) < 2 ^ (t - 1) := zpow_pos (by norm_num) _
  refine ⟨⌊v / 2 ^ (t - 1)⌋₊, ?_, ?_⟩
  · rw [magnitude, ← le_div_iff₀ htwo]
    exact Nat.floor_le (div_nonneg hv htwo.le)
  · rw [magnitude, ← div_lt_iff₀ htwo]
    push_cast
    exact Nat.lt_floor_add_one _

/-- A value below the middle of two points is the nearest to the lower one, and so is the middle if that one
is even. -/
theorem Nearest.of_low (ht : -1074 ≤ t) (hm : 2 ^ 52 ≤ m) (hm' : m < 2 ^ 53) (hlow : magnitude m t ≤ v)
    (hhigh : v ≤ magnitude (2 * m + 1) (t - 1)) (hodd : m % 2 = 1 → v < magnitude (2 * m + 1) (t - 1)) :
    Nearest v m t := by
  have hlow' : magnitude (4 * m) (t - 2) ≤ v := by rwa [magnitude_fourfold]
  rw [← magnitude_quadruple] at hhigh hodd
  refine ⟨⟨hm', ht, .inl hm⟩, by omega, ?_, ?_, fun h => ⟨?_, ?_⟩⟩
  · exact (magnitude_le_iff.mpr (Nat.sub_le _ _)).trans hlow'
  · exact hhigh.trans (magnitude_le_iff.mpr (by omega))
  · refine (magnitude_lt_iff.mpr ?_).trans_le hlow'
    rw [reachBelow_of_odd h]
    omega
  · exact (hodd h).trans_le (magnitude_le_iff.mpr (by omega))

/-- A value above the middle of two points is the nearest to the upper one, and so is the middle if that one
is even. -/
theorem exists_nearest_of_high (ht : -1074 ≤ t) (hm : 2 ^ 52 ≤ m) (hm' : m < 2 ^ 53)
    (hlow : magnitude (2 * m + 1) (t - 1) ≤ v) (hhigh : v < magnitude (m + 1) t)
    (heven : m % 2 = 0 → magnitude (2 * m + 1) (t - 1) < v) : ∃ n e, Nearest v n e := by
  by_cases hcarry : m + 1 = 2 ^ 53
  · -- the upper point is a power of two, and the lower one is half a step of it away
    refine ⟨2 ^ 52, t + 1, ⟨by norm_num, by omega, .inl le_rfl⟩, by norm_num, ?_, ?_, fun h => ?_⟩
    · refine le_trans ?_ hlow
      have hexp : t + 1 - 2 = t - 1 := by ring
      rw [reachBelow, if_pos ⟨rfl, by omega⟩, hexp, magnitude_le_iff]
      omega
    · refine hhigh.le.trans ?_
      have hdouble : magnitude (2 ^ 52) (t + 1) = magnitude (2 ^ 53) t := by
        have := magnitude_double (2 ^ 52) (t + 1)
        rw [add_sub_cancel_right] at this
        rw [← this]
        norm_num
      rw [hcarry, ← hdouble, ← magnitude_double, ← magnitude_quadruple, magnitude_le_iff]
      omega
    · exact absurd h (by norm_num)
  · have hreach : reachBelow (m + 1) t = 2 := if_neg fun h => by omega
    rw [← magnitude_quadruple] at hlow heven
    rw [← magnitude_double, ← magnitude_quadruple] at hhigh
    refine ⟨m + 1, t, ⟨by omega, ht, .inl (by omega)⟩, by omega, ?_, ?_, fun h => ⟨?_, ?_⟩⟩
    · exact (magnitude_le_iff.mpr (by omega)).trans hlow
    · exact hhigh.le.trans (magnitude_le_iff.mpr (by omega))
    · exact (magnitude_le_iff.mpr (by omega)).trans_lt (heven (by omega))
    · exact hhigh.trans_le (magnitude_le_iff.mpr (by omega))

/-- Every value that is not too small has a nearest point. -/
theorem exists_nearest (hv : (2 : ℚ) ^ (-1022 : ℤ) ≤ v) : ∃ m e, Nearest v m e := by
  have hpos : 0 < v := (zpow_pos (by norm_num) _).trans_le hv
  obtain ⟨t, ht⟩ : ∃ t, t = Int.log 2 v - 52 := ⟨_, rfl⟩
  have hfloor : magnitude (2 ^ 52) t ≤ v := by
    rw [magnitude_two_pow, ht]
    simpa using Int.zpow_log_le_self (b := 2) (by norm_num) hpos
  have hceil : v < magnitude (2 ^ 53) t := by
    rw [magnitude_two_pow, ht]
    have hexp : ((53 : ℕ) : ℤ) + (Int.log 2 v - 52) = Int.log 2 v + 1 := by omega
    rw [hexp]
    exact_mod_cast Int.lt_zpow_succ_log_self (b := 2) (by norm_num) v
  have hleast : -1074 ≤ t := by
    have := (zpow_lt_zpow_iff_right₀ (a := (2 : ℚ)) (by norm_num)).mp
      (hv.trans_lt (hceil.trans_eq (magnitude_two_pow 53 t)))
    push_cast at this
    omega
  obtain ⟨k, hk, hk'⟩ := exists_halfSteps hpos.le t
  have hleast' : 2 ^ 53 < k + 1 := by
    refine magnitude_lt_iff.mp (lt_of_le_of_lt ?_ hk')
    rw [← magnitude_double (2 ^ 52)] at hfloor
    exact hfloor
  have hmost : k < 2 ^ 54 := by
    rw [← magnitude_double (2 ^ 53)] at hceil
    exact magnitude_lt_iff.mp (hk.trans_lt hceil)
  obtain ⟨m, rfl | rfl⟩ : ∃ m, k = 2 * m ∨ k = 2 * m + 1 := ⟨k / 2, by omega⟩
  · rw [magnitude_double] at hk
    exact ⟨m, t, .of_low hleast (by omega) (by omega) hk hk'.le fun _ => hk'⟩
  · by_cases htie : v = magnitude (2 * m + 1) (t - 1) ∧ m % 2 = 0
    · refine ⟨m, t, .of_low hleast (by omega) (by omega) ?_ htie.1.le fun h => ?_⟩
      · rw [htie.1, ← magnitude_double, magnitude_le_iff]
        omega
      · omega
    · refine exists_nearest_of_high hleast (by omega) (by omega) hk ?_ fun h => ?_
      · rw [← magnitude_double]
        exact hk'
      · exact hk.lt_of_ne fun h' => htie ⟨h'.symm, h⟩

/-! ### Whole numbers beside a value -/

namespace Nearest

variable {s : ℕ}

/-- The points near small values lie no more than one apart. -/
theorem exponent_le (h : Nearest v m e) (hv : v < 2 ^ 52) : e ≤ 0 := by
  by_contra hlt
  have hfull : 2 ^ 52 ≤ m := h.onGrid.full.resolve_right (by omega)
  have hreach := reachBelow_le m e
  have hlow : magnitude (2 ^ 53) (e - 2) ≤ v :=
    (magnitude_le_iff.mpr (by omega)).trans h.low
  have hhigh : v < magnitude (2 ^ 52) 0 := by
    rw [magnitude_two_pow]
    exact_mod_cast hv
  have := lt_of_two_pow hlow hhigh
  omega

/-- A whole number in steps that are parts of one. -/
theorem natCast_eq (s : ℕ) (he : e ≤ 0) : (s : ℚ) = magnitude (s * 2 ^ (-e).toNat) e := by
  have hshift := magnitude_shift s 0 (-e).toNat
  have hexp : (0 : ℤ) - ((-e).toNat : ℤ) = e := by omega
  rw [hexp] at hshift
  rw [hshift, magnitude, zpow_zero, mul_one]

/-- The nearest point passes over no whole number below the value. -/
theorem natCast_le (h : Nearest v m e) (he : e ≤ 0) (hs : (s : ℚ) ≤ v) : (s : ℚ) ≤ magnitude m e := by
  have hle := hs.trans h.half_high
  rw [natCast_eq s he, ← magnitude_double, magnitude_le_iff] at hle
  rw [natCast_eq s he, magnitude_le_iff]
  omega

/-- The nearest point passes over no whole number above the value. -/
theorem le_natCast (h : Nearest v m e) (he : e ≤ 0) (hs : v ≤ s) : magnitude m e ≤ s := by
  have hle := h.half_low.trans hs
  rw [natCast_eq s he, ← magnitude_double (s * _), magnitude_le_iff] at hle
  rw [natCast_eq s he, magnitude_le_iff]
  omega

/-- A value that is far enough below a whole number has a nearest point below that number: the steps up to
a power of two are `2 ^ 53` times smaller than the power. -/
theorem lt_natCast (h : Nearest v m e) (he : e ≤ 0) {k : ℕ} (hs : s ≤ 2 ^ k)
    (hv : v + 2 ^ ((k : ℤ) - 54) < s) : magnitude m e < s := by
  have hgap : (0 : ℚ) < 2 ^ ((k : ℤ) - 54) := zpow_pos (by norm_num) _
  refine (h.le_natCast he (by linarith)).lt_of_ne fun heq => ?_
  have hreach := reachBelow_le m e
  have hm := h.pos
  have hfar : (2 : ℚ) ^ ((k : ℤ) - 54) < magnitude (reachBelow m e) (e - 2) := by
    have hsum : magnitude (4 * m - reachBelow m e) (e - 2) + magnitude (reachBelow m e) (e - 2) = s := by
      rw [← magnitude_add, Nat.sub_add_cancel (by omega), ← heq, magnitude_fourfold]
    have := h.low
    linarith
  have hlow : (k : ℤ) - 54 < 1 + (e - 2) := by
    refine (zpow_lt_zpow_iff_right₀ (a := (2 : ℚ)) (by norm_num)).mp (hfar.trans_le ?_)
    have htwo := magnitude_two_pow 1 (e - 2)
    rw [Nat.cast_one] at htwo
    rw [← htwo, magnitude_le_iff]
    omega
  have hpow : magnitude m e ≤ 2 ^ (k : ℤ) := by
    rw [heq, zpow_natCast]
    exact_mod_cast hs
  obtain rfl : e = (k : ℤ) - 52 := by
    have hsteps := (h.onGrid.two_zpow_le (by omega)).trans hpow
    rw [zpow_le_zpow_iff_right₀ (by norm_num)] at hsteps
    omega
  -- so the number is the power of two itself, below which the steps are halved
  have hle : magnitude m ((k : ℤ) - 52) ≤ magnitude (2 ^ 52) ((k : ℤ) - 52) := by
    have hexp : ((52 : ℕ) : ℤ) + ((k : ℤ) - 52) = k := by omega
    rwa [magnitude_two_pow, hexp]
  obtain rfl : m = 2 ^ 52 :=
    le_antisymm (magnitude_le_iff.mp hle) (h.onGrid.full.resolve_right (by omega))
  rw [reachBelow, if_pos ⟨rfl, by omega⟩, magnitude_one] at hfar
  have hexp : (k : ℤ) - 52 - 2 = k - 54 := by ring
  rw [hexp] at hfar
  exact hfar.false

end Nearest

end FloatOrder

namespace Decimal

open Float.Model Float.Model.UnpackedFloat FloatOrder

variable {m n : ℕ} {q e : ℤ} {negative : Bool}

theorem signOf_injective {a b : Bool} (h : signOf a = signOf b) : a = b := by
  cases a <;> cases b <;> first | rfl | exact Sign.noConfusion h

/-- The parts of a float are read from its unpacked form. -/
theorem ofFloat_of_unpack {x : Float} (h : x.toModel.unpack = ofGrid (signOf negative) m q) (hm : 0 < m) :
    Parts.ofFloat x = .finite negative m q := by
  rw [unpack_eq_unpacked, ofGrid_of_pos _ hm] at h
  cases hparts : Parts.ofFloat x with
  | nan =>
    rw [hparts] at h
    exact absurd h UnpackedFloat.noConfusion
  | infinite =>
    rw [hparts] at h
    exact absurd h UnpackedFloat.noConfusion
  | finite b i f =>
    rw [hparts] at h
    have h : ofGrid (signOf b) i f = _ := h
    rcases Nat.eq_zero_or_pos i with rfl | hi
    · rw [ofGrid_zero] at h
      exact absurd h UnpackedFloat.noConfusion
    · rw [ofGrid_of_pos _ hi] at h
      obtain ⟨hs, rfl, rfl⟩ := UnpackedFloat.finite.inj h
      rw [signOf_injective hs]

/-- The whole part of the float of a decimal. -/
theorem wholePart?_ofDecimal (h : Nearest (decimal n e) m q) (hq : q ≤ 971) (hn : n < 2 ^ 113) :
    wholePart? (ofDecimal negative n e) = some (signed negative ⌊magnitude m q⌋₊) := by
  rw [wholePart?, ofFloat_of_unpack (unpack_ofDecimal h hq hn) h.pos, magnitude_eq_div, Nat.floor_div_eq_div]

theorem lt_of_far {s k : ℕ} (h : 1000000 * 2 ^ k < (s * 1000000 - n) * 2 ^ 54) :
    (n : ℚ) / 1000000 + 2 ^ ((k : ℤ) - 54) < s := by
  have hle : n ≤ s * 1000000 := by omega
  have hgap : (0 : ℚ) < ((s : ℚ) * 1000000 - n) * 2 ^ 54 - 1000000 * 2 ^ k := by
    rw [← Nat.cast_lt (α := ℚ), Nat.cast_mul _ (2 ^ 54), Nat.cast_sub hle] at h
    push_cast at h
    linarith
  have hsplit : (s : ℚ) - (n / 1000000 + 2 ^ ((k : ℤ) - 54)) =
      (((s : ℚ) * 1000000 - n) * 2 ^ 54 - 1000000 * 2 ^ k) / (1000000 * 2 ^ 54) := by
    rw [zpow_sub₀ (by norm_num), zpow_natCast]
    field_simp
    ring
  rw [← sub_pos, hsplit]
  exact div_pos hgap (by norm_num)

/-- The whole part of a number of millionths, as a float: the whole number below it or the one above, and
the lower one, if the float can tell the value from the upper one. -/
theorem exists_wholePart (negative : Bool) {s : ℕ} (hn : 0 < n) (hlow : s * 1000000 ≤ n)
    (hhigh : n ≤ (s + 1) * 1000000) (hs : s + 1 < 2 ^ 52) :
    ∃ w, wholePart? (ofDecimal negative n (-6)) = some (signed negative w) ∧ (w = s ∨ w = s + 1) ∧
      ∀ k, s + 1 ≤ 2 ^ k → 1000000 * 2 ^ k < ((s + 1) * 1000000 - n) * 2 ^ 54 → w = s := by
  have hvalue : decimal n (-6) = n / 1000000 := by
    rw [decimal, div_eq_mul_inv]
    norm_num
  have hlow' : (s : ℚ) ≤ decimal n (-6) := by
    rw [hvalue, le_div_iff₀ (by norm_num)]
    exact_mod_cast hlow
  have hhigh' : decimal n (-6) ≤ (s + 1 : ℕ) := by
    rw [hvalue, div_le_iff₀ (by norm_num)]
    exact_mod_cast hhigh
  have hsmall : ((s + 1 : ℕ) : ℚ) < 2 ^ 52 := by exact_mod_cast hs
  have hleast : (2 : ℚ) ^ (-1022 : ℤ) ≤ decimal n (-6) := by
    have hone : (1 : ℚ) ≤ n := by exact_mod_cast hn
    calc (2 : ℚ) ^ (-1022 : ℤ) ≤ 2 ^ (-20 : ℤ) := zpow_le_zpow_right₀ (by norm_num) (by norm_num)
      _ ≤ 1 / 1000000 := by norm_num
      _ ≤ decimal n (-6) := by
        rw [hvalue]
        exact div_le_div_of_nonneg_right hone (by norm_num)
  obtain ⟨m, q, h⟩ := exists_nearest hleast
  have hq : q ≤ 0 := h.exponent_le (hhigh'.trans_lt hsmall)
  refine ⟨⌊magnitude m q⌋₊, wholePart?_ofDecimal h (by omega) (by omega), ?_, fun k hk hfar => ?_⟩
  · have hfloor := Nat.le_floor (h.natCast_le hq hlow')
    have hfloor' := Nat.floor_le_of_le (h.le_natCast hq hhigh')
    omega
  · refine (Nat.floor_eq_iff (magnitude_nonneg m q)).mpr ⟨h.natCast_le hq hlow', ?_⟩
    have hbelow := h.lt_natCast hq hk ?_
    · exact_mod_cast hbelow
    · exact hvalue ▸ lt_of_far hfar

end Decimal

end Backtest
