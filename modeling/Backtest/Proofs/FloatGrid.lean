import Backtest.Proofs.FloatOrder
import Mathlib

/-!
# The grid of floats

The magnitudes that floats hold lie on a grid: a mantissa of 53 bits at an exponent, or of fewer bits at
the least exponent, -1074. A magnitude that lies between two points is rounded to one of them, and so no
point lies between a magnitude and what it is rounded to. What floats keep of the order of exact values
rests on that alone, and not on which of the two points is chosen.

* `FloatOrder.magnitude`, `FloatOrder.OnGrid`, `FloatOrder.OnGrid.le_iff`, the grid and its order;
* `FloatOrder.Rounds`, no point of the grid is passed over; `FloatOrder.roundWithAccuracy_rounds`,
  `FloatOrder.round_rounds`, magnitudes are so rounded;
* `FloatOrder.unpack_cases`, the kinds of floats; `FloatOrder.held`, `FloatOrder.held_ofGrid`, a float is
  read as it was written unless its exponent is above 971.
-/

namespace Backtest.FloatOrder

open Float.Model Float.Model.UnpackedFloat

variable {m n : ℕ} {e f : ℤ}

/-! ### Magnitudes -/

/-- The magnitude `m · 2 ^ e`. -/
def magnitude (m : ℕ) (e : ℤ) : ℚ := m * (2 : ℚ) ^ e

theorem magnitude_pos (hm : 0 < m) : 0 < magnitude m e :=
  mul_pos (by exact_mod_cast hm) (zpow_pos (by norm_num) e)

theorem magnitude_nonneg (m : ℕ) (e : ℤ) : 0 ≤ magnitude m e :=
  mul_nonneg (Nat.cast_nonneg m) (zpow_pos (by norm_num) e).le

@[simp] theorem magnitude_zero (e : ℤ) : magnitude 0 e = 0 := by simp [magnitude]

theorem magnitude_one (e : ℤ) : magnitude 1 e = (2 : ℚ) ^ e := by rw [magnitude, Nat.cast_one, one_mul]

theorem magnitude_two_pow (k : ℕ) (e : ℤ) : magnitude (2 ^ k) e = (2 : ℚ) ^ (k + e) := by
  rw [magnitude, Nat.cast_pow, Nat.cast_ofNat, ← zpow_natCast, ← zpow_add₀ (by norm_num)]

theorem magnitude_add (m n : ℕ) (e : ℤ) : magnitude (m + n) e = magnitude m e + magnitude n e := by
  rw [magnitude, magnitude, magnitude, Nat.cast_add, add_mul]

theorem magnitude_le_iff : magnitude m e ≤ magnitude n e ↔ m ≤ n := by
  unfold magnitude
  rw [mul_le_mul_iff_left₀ (zpow_pos (by norm_num) e)]
  exact_mod_cast Iff.rfl

theorem magnitude_lt_iff : magnitude m e < magnitude n e ↔ m < n := by
  rw [← not_le, magnitude_le_iff, not_le]

theorem magnitude_shift (m : ℕ) (e : ℤ) (k : ℕ) : magnitude (m * 2 ^ k) (e - k) = magnitude m e := by
  unfold magnitude
  rw [Nat.cast_mul, Nat.cast_pow, Nat.cast_ofNat, ← zpow_natCast, mul_assoc, ← zpow_add₀ (by norm_num)]
  congr 2
  ring

theorem two_zpow_le_magnitude (hm : m ≠ 0) : (2 : ℚ) ^ (m.log2 + e) ≤ magnitude m e := by
  rw [zpow_add₀ (by norm_num), zpow_natCast]
  refine mul_le_mul_of_nonneg_right ?_ (zpow_pos (by norm_num) e).le
  exact_mod_cast Nat.log2_self_le hm

theorem magnitude_lt_two_zpow : magnitude m e < (2 : ℚ) ^ (m.log2 + 1 + e) := by
  rw [zpow_add₀ (by norm_num)]
  refine mul_lt_mul_of_pos_right ?_ (zpow_pos (by norm_num) e)
  exact_mod_cast Nat.lt_log2_self

/-! ### The grid -/

/-- A mantissa and an exponent as floats hold them: 53 bits, or fewer at the least exponent. -/
structure OnGrid (m : ℕ) (e : ℤ) : Prop where
  lt : m < 2 ^ 53
  le : -1074 ≤ e
  full : 2 ^ 52 ≤ m ∨ e = -1074

theorem onGrid_zero : OnGrid 0 (-1074) := ⟨by norm_num, le_refl _, .inr rfl⟩

theorem OnGrid.lt_two_zpow (h : OnGrid m e) : magnitude m e < (2 : ℚ) ^ (53 + e) := by
  have := magnitude_lt_iff (e := e) |>.mpr h.lt
  rwa [magnitude_two_pow] at this

theorem OnGrid.two_zpow_le (h : OnGrid m e) (he : -1074 < e) : (2 : ℚ) ^ (52 + e) ≤ magnitude m e := by
  have := magnitude_le_iff (e := e) |>.mpr (h.full.resolve_right (by omega))
  rwa [magnitude_two_pow] at this

/-- Points of the grid are ordered by exponent and mantissa. -/
theorem OnGrid.le_iff (h : OnGrid m e) (h' : OnGrid n f) :
    magnitude m e ≤ magnitude n f ↔ e < f ∨ e = f ∧ m ≤ n := by
  have below {m n : ℕ} {e f : ℤ} (h : OnGrid m e) (h' : OnGrid n f) (hlt : e < f) :
      magnitude m e < magnitude n f := by
    refine h.lt_two_zpow.trans_le (le_trans ?_ (h'.two_zpow_le (by have := h.le; omega)))
    exact zpow_le_zpow_right₀ (by norm_num) (by omega)
  rcases lt_trichotomy e f with hlt | rfl | hgt
  · exact iff_of_true (below h h' hlt).le (.inl hlt)
  · rw [magnitude_le_iff]
    omega
  · exact iff_of_false (below h' h hgt).not_ge (by omega)

/-! ### Rounding -/

/-- What a magnitude is rounded to lies on the grid, and no point of the grid lies between the two. -/
structure Rounds (q : ℚ) (m : ℕ) (e : ℤ) : Prop where
  onGrid : OnGrid m e
  le_of_le : ∀ n f, OnGrid n f → magnitude n f ≤ q → magnitude n f ≤ magnitude m e
  ge_of_ge : ∀ n f, OnGrid n f → q ≤ magnitude n f → magnitude m e ≤ magnitude n f

/-- A rounded mantissa that needs a bit more takes the next exponent. -/
def carried (r : ℕ) (t : ℤ) : ℕ × ℤ := if r < 2 ^ 53 then (r, t) else (2 ^ 52, t + 1)

theorem magnitude_carried {r : ℕ} {t : ℤ} (hr : r ≤ 2 ^ 53) :
    magnitude (carried r t).1 (carried r t).2 = magnitude r t := by
  unfold carried
  split
  · rfl
  · obtain rfl : r = 2 ^ 53 := by omega
    rw [magnitude_two_pow, magnitude_two_pow]
    congr 1
    push_cast
    ring

/-- A mantissa beside a magnitude, at the exponent at which the magnitude is rounded. -/
theorem rounds_carried (hm : m ≠ 0) {t : ℤ} (ht : t = max ((m.log2 : ℤ) + e - 52) (-1074)) {r : ℕ}
    (hup : magnitude r t < magnitude m e + (2 : ℚ) ^ t) (hlow : magnitude m e < magnitude (r + 1) t) :
    Rounds (magnitude m e) (carried r t).1 (carried r t).2 := by
  have hnear : magnitude m e < (2 : ℚ) ^ (53 + t) :=
    magnitude_lt_two_zpow.trans_le (zpow_le_zpow_right₀ (by norm_num) (by omega))
  have hfar : -1074 < t → (2 : ℚ) ^ (52 + t) ≤ magnitude m e := by
    intro h
    refine le_trans (zpow_le_zpow_right₀ (by norm_num) ?_) (two_zpow_le_magnitude hm)
    omega
  have hr : r ≤ 2 ^ 53 := by
    have : magnitude r t < magnitude (2 ^ 53 + 1) t := by
      rw [magnitude_add, magnitude_one, magnitude_two_pow]
      push_cast
      linarith
    have := magnitude_lt_iff.mp this
    omega
  have hfull : -1074 < t → 2 ^ 52 ≤ r := by
    intro h
    have : magnitude (2 ^ 52) t < magnitude (r + 1) t := by
      rw [magnitude_two_pow]
      exact (hfar h).trans_lt hlow
    have := magnitude_lt_iff.mp this
    omega
  -- at a lower exponent the grid ends before the magnitude, and else it has the same steps or wider ones
  have hbelow (k : ℕ) (g : ℤ) (hk : OnGrid k g) (hg : g < t) : magnitude k g < (2 : ℚ) ^ (52 + t) :=
    hk.lt_two_zpow.trans_le (zpow_le_zpow_right₀ (by norm_num) (by omega))
  have hwide (k : ℕ) (g : ℤ) (hg : t ≤ g) : magnitude k g = magnitude (k * 2 ^ (g - t).toNat) t := by
    rw [← magnitude_shift k g (g - t).toNat]
    congr 1
    omega
  constructor
  · unfold carried
    split
    · exact ⟨‹_›, by omega, by omega⟩
    · exact ⟨by norm_num, by show -1074 ≤ t + 1; omega, .inl (Nat.le_refl _)⟩
  · intro k g hk hle
    rw [magnitude_carried hr]
    rcases lt_or_ge g t with hg | hg
    · have hge : -1074 < t := lt_of_le_of_lt hk.le hg
      refine (hbelow k g hk hg).le.trans ?_
      have := magnitude_le_iff (e := t) |>.mpr (hfull hge)
      rwa [magnitude_two_pow] at this
    · rw [hwide k g hg] at hle ⊢
      exact magnitude_le_iff.mpr (Nat.lt_succ_iff.mp (magnitude_lt_iff.mp (hle.trans_lt hlow)))
  · intro k g hk hle
    rw [magnitude_carried hr]
    rcases lt_or_ge g t with hg | hg
    · have hge : -1074 < t := lt_of_le_of_lt hk.le hg
      exact absurd (hbelow k g hk hg) (not_lt.mpr ((hfar hge).trans hle))
    · rw [hwide k g hg] at hle ⊢
      have : magnitude r t < magnitude (k * 2 ^ (g - t).toNat + 1) t := by
        rw [magnitude_add, magnitude_one]
        linarith
      exact magnitude_le_iff.mpr (Nat.lt_succ_iff.mp (magnitude_lt_iff.mp this))

/-- The exponent at which a magnitude is rounded. -/
theorem targetExponent_eq (m : ℕ) (e : ℤ) :
    Format.binary64.targetExponent (totalExponent m e) = max (m.log2 + e - 52) (-1074) := by
  simp only [Format.targetExponent, totalExponent, Format.mantissaBits, Format.minExponent]
  norm_num
  omega

theorem shiftRight_succ (x : ExtendedMantissa) (k : ℕ) : x >>> (k + 1) = (x >>> k).shiftRightOne :=
  rfl

theorem mantissa_shiftRight (x : ExtendedMantissa) (k : ℕ) :
    (x >>> k).mantissa = x.mantissa / 2 ^ k := by
  induction k with
  | zero => exact (Nat.div_one _).symm
  | succ k ih =>
    rw [shiftRight_succ, ExtendedMantissa.shiftRightOne, ih, Nat.div_div_eq_div_mul, pow_succ]

/-- Nothing is lost of a mantissa whose last bits are zero. -/
theorem shiftRight_exact (n k : ℕ) :
    (⟨n * 2 ^ k, false, false⟩ : ExtendedMantissa) >>> k = ⟨n, false, false⟩ := by
  induction k generalizing n with
  | zero => exact congrArg (ExtendedMantissa.mk · false false) (Nat.mul_one n)
  | succ k ih =>
    rw [shiftRight_succ, pow_succ', ← mul_assoc, ih]
    simp [ExtendedMantissa.shiftRightOne]

theorem roundedMantissa_bounds (x : ExtendedMantissa) :
    x.mantissa ≤ x.roundedMantissa ∧ x.roundedMantissa ≤ x.mantissa + 1 := by
  obtain ⟨m, _ | _, _ | _⟩ := x
  · exact ⟨Nat.le_refl m, Nat.le_succ m⟩
  · exact ⟨Nat.le_refl m, Nat.le_succ m⟩
  · show m ≤ m + m % 2 ∧ m + m % 2 ≤ m + 1
    omega
  · exact ⟨Nat.le_succ m, Nat.le_refl _⟩

/-- A mantissa without its last bits is rounded to a neighbour. -/
theorem roundedMantissa_near (m k : ℕ) {r : ℕ}
    (hr : r = ((⟨m, false, false⟩ : ExtendedMantissa) >>> k).roundedMantissa) :
    r * 2 ^ k < m + 2 ^ k ∧ m < (r + 1) * 2 ^ k := by
  have hpos : 0 < 2 ^ k := Nat.two_pow_pos k
  obtain ⟨hlow, hhigh⟩ := roundedMantissa_bounds ((⟨m, false, false⟩ : ExtendedMantissa) >>> k)
  rw [← hr, mantissa_shiftRight] at hlow hhigh
  have hdiv : m / 2 ^ k * 2 ^ k + m % 2 ^ k = m := Nat.div_add_mod' m (2 ^ k)
  constructor
  · -- rounding up needs that something is left
    rcases Nat.eq_zero_or_pos (m % 2 ^ k) with hrest | hrest
    · rw [hrest, Nat.add_zero] at hdiv
      rw [← hdiv, shiftRight_exact] at hr
      have hr' : r = m / 2 ^ k := hr
      rw [hr', hdiv]
      exact Nat.lt_add_of_pos_right hpos
    · have : r * 2 ^ k ≤ (m / 2 ^ k + 1) * 2 ^ k := Nat.mul_le_mul_right _ hhigh
      rw [Nat.add_mul, Nat.one_mul] at this
      omega
  · have : m / 2 ^ k * 2 ^ k ≤ r * 2 ^ k := Nat.mul_le_mul_right _ hlow
    have := Nat.mod_lt m hpos
    rw [Nat.add_mul, Nat.one_mul]
    omega

/-- The unpacked float of a sign, a mantissa and an exponent. -/
def ofGrid (s : Sign) (m : ℕ) (e : ℤ) : UnpackedFloat :=
  if h : m = 0 then .zero s else .finite s m e (Nat.pos_of_ne_zero h)

theorem ofGrid_zero (s : Sign) (e : ℤ) : ofGrid s 0 e = .zero s := rfl

theorem ofGrid_of_pos (s : Sign) (hm : 0 < m) : ofGrid s m e = .finite s m e hm := dif_neg hm.ne'

theorem shiftToTargetExponent_eq (m : ℕ) (e : ℤ) (accuracy : Accuracy) {t : ℤ}
    (ht : t = max ((m.log2 : ℤ) + e - 52) (-1074)) :
    shiftToTargetExponent .binary64 m e accuracy =
      (ExtendedMantissa.ofMantissaAndAccuracy m accuracy >>> (t - e).toNat, e + (t - e).toNat) := by
  subst ht
  simp only [shiftToTargetExponent, shiftToExponent, targetExponent_eq]

theorem shift_carried {r : ℕ} {t : ℤ} (hr : r ≤ 2 ^ 53) (ht : -1074 ≤ t) :
    shiftToTargetExponent .binary64 r t .exact =
      (⟨(carried r t).1, false, false⟩, (carried r t).2) := by
  rw [shiftToTargetExponent_eq r t .exact rfl]
  show ((⟨r, false, false⟩ : ExtendedMantissa) >>> _, _) = _
  unfold carried
  split
  · rename_i hlt
    have hlog : r.log2 < 53 := by
      by_cases h : r = 0
      · subst h
        decide
      · exact (Nat.log2_lt h).mpr hlt
    have hshift : (max ((r.log2 : ℤ) + t - 52) (-1074) - t).toNat = 0 := by omega
    rw [hshift]
    exact Prod.ext rfl (by simp)
  · rename_i hge
    obtain rfl : r = 2 ^ 53 := by omega
    have hlog : (2 ^ 53 : ℕ).log2 = 53 := Nat.log2_two_pow
    have hshift : (max (((2 ^ 53 : ℕ).log2 : ℤ) + t - 52) (-1074) - t).toNat = 1 := by
      rw [hlog]
      omega
    rw [hshift]
    exact Prod.ext (shiftRight_exact (2 ^ 52) 1) rfl

@[simp] theorem mantissa_ofMantissaAndAccuracy (m : ℕ) (accuracy : Accuracy) :
    (ExtendedMantissa.ofMantissaAndAccuracy m accuracy).mantissa = m := by
  rcases accuracy with _ | _ | _ | _ <;> rfl

/-- Rounding, in two steps: the last bits go, and a mantissa that has become too long is carried. -/
theorem roundWithAccuracy_eq (s : Sign) {m : ℕ} (accuracy : Accuracy) {e t : ℤ}
    (ht : t = max ((m.log2 : ℤ) + e - 52) (-1074)) (he : e ≤ t) {r : ℕ}
    (hr : r = (ExtendedMantissa.ofMantissaAndAccuracy m accuracy >>> (t - e).toNat).roundedMantissa) :
    r ≤ 2 ^ 53 ∧ roundWithAccuracy .binary64 s m e accuracy =
      ofGrid s (carried r t).1 (carried r t).2 := by
  have hle : r ≤ 2 ^ 53 := by
    have hhigh : r ≤ m / 2 ^ (t - e).toNat + 1 := by
      have h := (roundedMantissa_bounds
        (ExtendedMantissa.ofMantissaAndAccuracy m accuracy >>> (t - e).toNat)).2
      rwa [← hr, mantissa_shiftRight, mantissa_ofMantissaAndAccuracy] at h
    have hlt : m < 2 ^ 53 * 2 ^ (t - e).toNat := by
      rw [← pow_add]
      refine Nat.lt_of_lt_of_le Nat.lt_log2_self (Nat.pow_le_pow_right (by decide) ?_)
      omega
    have : m / 2 ^ (t - e).toNat < 2 ^ 53 :=
      (Nat.div_lt_iff_lt_mul (Nat.two_pow_pos _)).mpr hlt
    omega
  refine ⟨hle, ?_⟩
  have hexp : e + ((t - e).toNat : ℤ) = t := by omega
  unfold roundWithAccuracy
  rw [shiftToTargetExponent_eq m e accuracy ht]
  simp only [hexp, ← hr, shift_carried hle (ht ▸ le_max_right _ _)]
  rfl

/-- A magnitude whose last bits are in excess is rounded. -/
theorem roundWithAccuracy_rounds (s : Sign) (hm : m ≠ 0)
    (he : e ≤ max ((m.log2 : ℤ) + e - 52) (-1074)) :
    ∃ n f, Rounds (magnitude m e) n f ∧ roundWithAccuracy .binary64 s m e .exact = ofGrid s n f := by
  obtain ⟨t, ht⟩ : ∃ t : ℤ, t = max ((m.log2 : ℤ) + e - 52) (-1074) := ⟨_, rfl⟩
  rw [← ht] at he
  obtain ⟨b, hb⟩ : ∃ b : ℕ, b = (t - e).toNat := ⟨_, rfl⟩
  obtain ⟨r, hr⟩ : ∃ r, r = ((⟨m, false, false⟩ : ExtendedMantissa) >>> b).roundedMantissa :=
    ⟨_, rfl⟩
  obtain ⟨hup, hlow⟩ := roundedMantissa_near m b hr
  have hunder (n : ℕ) : magnitude n t = magnitude (n * 2 ^ b) e := by
    rw [← magnitude_shift n t b]
    congr 1
    omega
  refine ⟨_, _, rounds_carried hm ht (r := r) ?_ ?_, (roundWithAccuracy_eq s .exact ht he (hb ▸ hr)).2⟩
  · rw [← magnitude_one, hunder, hunder, Nat.one_mul, ← magnitude_add]
    exact magnitude_lt_iff.mpr hup
  · rw [hunder]
    exact magnitude_lt_iff.mpr hlow

theorem log2_mul_two_pow (hm : m ≠ 0) (k : ℕ) : (m * 2 ^ k).log2 = m.log2 + k := by
  rw [Nat.log2_eq_iff (Nat.mul_ne_zero hm (Nat.two_pow_pos k).ne')]
  constructor
  · rw [pow_add]
    exact Nat.mul_le_mul_right _ (Nat.log2_self_le hm)
  · rw [Nat.add_right_comm, pow_add]
    exact Nat.mul_lt_mul_of_pos_right Nat.lt_log2_self (Nat.two_pow_pos k)

/-- A mantissa of too few bits is made longer before it is rounded. -/
theorem round_rounds (s : Sign) (hm : m ≠ 0) (e : ℤ) :
    ∃ n f, Rounds (magnitude m e) n f ∧ UnpackedFloat.round .binary64 s m e = ofGrid s n f := by
  obtain ⟨a, ha⟩ : ∃ a : ℕ, a = (e - max ((m.log2 : ℤ) + e - 52) (-1074)).toNat := ⟨_, rfl⟩
  have hshift : m <<< a = m * 2 ^ a := Nat.shiftLeft_eq m a
  have hne : m <<< a ≠ 0 := by
    rw [hshift]
    exact Nat.mul_ne_zero hm (Nat.two_pow_pos a).ne'
  have hlog : (m <<< a).log2 = m.log2 + a := by
    rw [hshift]
    exact log2_mul_two_pow hm a
  have hsame : magnitude (m <<< a) (e - a) = magnitude m e := by rw [hshift, magnitude_shift]
  obtain ⟨n, f, hrounds, heq⟩ := roundWithAccuracy_rounds s hne (e := e - a) (by omega)
  refine ⟨n, f, hsame ▸ hrounds, ?_⟩
  rw [UnpackedFloat.round, targetExponent_eq, decreaseExponent, ← ha]
  exact heq

/-! ### Packing -/

theorem toNat_one_append (mv : BitVec 52) : (1#1 ++ mv).toNat = 2 ^ 52 + mv.toNat := by
  rw [BitVec.toNat_append, ← Nat.shiftLeft_add_eq_or_of_lt mv.isLt]
  rfl

/-- The unpacked float of a sign, an exponent and a mantissa in bits. -/
def ofBits (s : Sign) (ev : BitVec 11) (mv : BitVec 52) : UnpackedFloat :=
  if ev = -1#11 then if mv = 0#52 then .infinity s else .notANumber
  else if ev = 0#11 then ofGrid s mv.toNat (-1074)
  else ofGrid s (2 ^ 52 + mv.toNat) (ev.toNat - 1075)

theorem unpack_eq (b : BitVec 64) : UnpackedFloat.unpack .binary64 b =
    ofBits (Sign.ofBitVec (@unpackSign .binary64 b)) (@unpackExponent .binary64 b)
      (@unpackMantissa .binary64 b) := by
  have hbias : (Format.binary64.exponentBias : ℤ) + (52 : ℕ) = 1075 := rfl
  simp only [UnpackedFloat.unpack, ofBits, hbias, toNat_one_append]
  refine if_congr Iff.rfl rfl (if_ctx_congr Iff.rfl (fun hev => ?_) fun _ => ?_)
  · rw [hev]
    unfold ofGrid
    by_cases hmv : @unpackMantissa .binary64 b = 0#52
    · rw [dif_pos hmv, dif_pos (by rw [hmv]; rfl)]
    · have hne : (@unpackMantissa .binary64 b).toNat ≠ 0 :=
        fun h => hmv (BitVec.toNat_inj.mp (by simpa using h))
      rw [dif_neg hmv, dif_neg hne]
      rfl
  · rw [ofGrid, dif_neg (by omega)]

theorem unpack_packComponents (s : Sign) (ev : BitVec 11) (mv : BitVec 52) :
    UnpackedFloat.unpack .binary64 (packComponents .binary64 s ev mv) = ofBits s ev mv := by
  rw [unpack_eq, unpackExponent_packComponents, unpackMantissa_packComponents, unpackSign_packComponents,
    Sign.ofBitVec_toBitVec]

/-- The kinds of floats: no number, infinite, or a point of the grid. -/
theorem unpack_cases (b : BitVec 64) :
    UnpackedFloat.unpack .binary64 b = .notANumber ∨
      (∃ s, UnpackedFloat.unpack .binary64 b = .infinity s) ∨
      ∃ s m e, OnGrid m e ∧ e ≤ 971 ∧ UnpackedFloat.unpack .binary64 b = ofGrid s m e := by
  rw [unpack_eq]
  generalize Sign.ofBitVec (@unpackSign .binary64 b) = s
  generalize @unpackExponent .binary64 b = ev
  generalize @unpackMantissa .binary64 b = mv
  have hmv : mv.toNat < 2 ^ 52 := mv.isLt
  unfold ofBits
  split
  · split
    · exact .inr (.inl ⟨s, rfl⟩)
    · exact .inl rfl
  · rename_i hinf
    refine .inr (.inr ?_)
    split
    · exact ⟨s, _, _, ⟨by omega, by omega, .inr rfl⟩, by omega, rfl⟩
    · rename_i hzero
      have hlt : ev.toNat < 2 ^ 11 := ev.isLt
      have htop : ev.toNat ≠ 2047 := fun h => hinf (BitVec.toNat_inj.mp h)
      have hbottom : ev.toNat ≠ 0 := fun h => hzero (BitVec.toNat_inj.mp h)
      exact ⟨s, _, _, ⟨by omega, by omega, .inl (by omega)⟩, by omega, rfl⟩

/-- The unpacked float that is read back after it was packed. -/
def held (u : UnpackedFloat) : UnpackedFloat :=
  UnpackedFloat.unpack .binary64 (UnpackedFloat.pack .binary64 u)

theorem held_infinity (s : Sign) : held (.infinity s) = .infinity s := by
  show UnpackedFloat.unpack .binary64 (packComponents .binary64 s (-1#11) 0#52) = _
  rw [unpack_packComponents]
  rfl

/-- A point of the grid is held as it is, unless its exponent is too large. -/
theorem held_ofGrid (s : Sign) (h : OnGrid m e) :
    held (ofGrid s m e) = if e ≤ 971 then ofGrid s m e else .infinity s := by
  by_cases hm : m = 0
  · obtain rfl : e = -1074 := h.full.resolve_left (by omega)
    subst hm
    cases s <;> rfl
  have hlt := h.lt
  have hle := h.le
  have hbias : (e + (Format.binary64.exponentBias : ℕ) + (52 : ℕ)).toNat = (e + 1075).toNat := by
    show (e + (1023 : ℕ) + (52 : ℕ)).toNat = _
    omega
  have hpack : UnpackedFloat.pack .binary64 (ofGrid s m e) =
      if 2 ^ 11 ≤ (e + 1075).toNat + 1 then packComponents .binary64 s (-1#11) 0
      else if m.log2 + 1 = 53 then
        packComponents .binary64 s (BitVec.ofNat 11 (e + 1075).toNat) (BitVec.ofNat 52 m)
      else packComponents .binary64 s 0#11 (BitVec.ofNat 52 m) := by
    unfold ofGrid
    rw [dif_neg hm, UnpackedFloat.pack, hbias]
    rfl
  rw [held, hpack]
  by_cases hover : 971 < e
  · have hout : 2 ^ 11 ≤ (e + 1075).toNat + 1 := by omega
    rw [if_pos hout, if_neg (not_le.mpr hover), unpack_packComponents]
    rfl
  have hin : ¬ 2 ^ 11 ≤ (e + 1075).toNat + 1 := by omega
  rw [if_neg hin, if_pos (not_lt.mp hover)]
  by_cases hfull : 2 ^ 52 ≤ m
  · have hlog : m.log2 + 1 = 53 := by
      have := (Nat.le_log2 hm).mpr hfull
      have := (Nat.log2_lt hm).mpr hlt
      omega
    have hev : (BitVec.ofNat 11 (e + 1075).toNat).toNat = (e + 1075).toNat := by
      rw [BitVec.toNat_ofNat]
      omega
    have hmv : (BitVec.ofNat 52 m).toNat = m - 2 ^ 52 := by
      rw [BitVec.toNat_ofNat]
      omega
    have htop : BitVec.ofNat 11 (e + 1075).toNat ≠ -1#11 := fun h => by
      have : (e + 1075).toNat = 2047 := hev.symm.trans (congrArg BitVec.toNat h)
      omega
    have hbottom : BitVec.ofNat 11 (e + 1075).toNat ≠ 0#11 := fun h => by
      have : (e + 1075).toNat = 0 := hev.symm.trans (congrArg BitVec.toNat h)
      omega
    have hmantissa : 2 ^ 52 + (m - 2 ^ 52) = m := by omega
    have hexponent : ((e + 1075).toNat : ℤ) - 1075 = e := by omega
    rw [if_pos hlog, unpack_packComponents, ofBits, if_neg htop, if_neg hbottom, hev, hmv, hmantissa,
      hexponent]
  · have hlog : m.log2 + 1 ≠ 53 := fun h => hfull ((Nat.le_log2 hm).mp (by omega))
    obtain rfl := h.full.resolve_left hfull
    have hmv : (BitVec.ofNat 52 m).toNat = m := by
      rw [BitVec.toNat_ofNat]
      omega
    rw [if_neg hlog, unpack_packComponents, ofBits, if_neg (by decide), if_pos rfl, hmv]

end Backtest.FloatOrder
