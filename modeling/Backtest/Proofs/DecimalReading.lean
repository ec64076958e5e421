import Backtest.Decimal.Reading
import Backtest.Proofs.FloatNearest

/-!
# Reading decimals

A decimal is read as the float that is nearest to it. Small decimals are read by one product or quotient
of floats that hold their operands exactly, all others in exact arithmetic, and either way the exact value
is rounded once. So a decimal within the interval of a float is read as that float.

* `Decimal.Parts.unpacked`, `Decimal.unpack_eq_unpacked`, the parts of a float and its unpacked form;
  `Decimal.eq_of_unpack`, a float is told by its unpacked form;
* `FloatOrder.Nearest.unpack_ofScientific`, the float of a decimal;
* `Decimal.unpack_ofDecimal`, `Decimal.ofDecimal_eq`, a decimal in the interval of a float is read as the
  float.
-/

namespace Backtest

open Float.Model Float.Model.UnpackedFloat FloatOrder

/-! ### Parts and unpacked floats -/

namespace Decimal

/-- The sign of a number. -/
def signOf (negative : Bool) : Sign := if negative then .negative else .positive

/-- The unpacked float of its parts. -/
def Parts.unpacked : Parts → UnpackedFloat
  | .nan => .notANumber
  | .infinite negative => .infinity (signOf negative)
  | .finite negative m q => ofGrid (signOf negative) m q

/-- The parts of a float are read from the bits from which it is unpacked. -/
theorem unpack_eq_unpacked (x : Float) : x.toModel.unpack = (Parts.ofFloat x).unpacked := by
  obtain ⟨b, hb⟩ : ∃ b : BitVec 64, b = x.toBits.toBitVec := ⟨_, rfl⟩
  have hunpack : x.toModel.unpack = UnpackedFloat.unpack .binary64 b := by rw [hb]; rfl
  have hbits : x.toBits.toNat = b.toNat := by rw [hb]; rfl
  have hexponent : (@unpackExponent .binary64 b).toNat = b.toNat / Nat.pow 2 52 % Nat.pow 2 11 := by
    change b.toNat >>> 52 % 2 ^ 11 = _
    rw [Nat.shiftRight_eq_div_pow]
  have hmantissa : (@unpackMantissa .binary64 b).toNat = b.toNat % Nat.pow 2 52 := by
    change b.toNat >>> 0 % 2 ^ 52 = _
    rw [Nat.shiftRight_zero]
  have hsign : Sign.ofBitVec (@unpackSign .binary64 b) = signOf (b.toNat / Nat.pow 2 63 == 1) := by
    have hlt : b.toNat < 2 ^ 64 := b.isLt
    have hbit : (@unpackSign .binary64 b).toNat = b.toNat / Nat.pow 2 63 := by
      change b.toNat >>> 63 % 2 ^ 1 = _
      rw [Nat.shiftRight_eq_div_pow]
      exact Nat.mod_eq_of_lt (by omega)
    unfold Sign.ofBitVec signOf
    by_cases hone : b.toNat / Nat.pow 2 63 = 1
    · rw [if_neg, if_pos (by simpa using hone)]
      intro hzero
      rw [hzero] at hbit
      have : (0#1).toNat = 0 := rfl
      omega
    · rw [if_pos, if_neg (by simpa using hone)]
      refine BitVec.toNat_inj.mp (hbit.trans ?_)
      have : (0#1).toNat = 0 := rfl
      change b.toNat / 9223372036854775808 = _
      change ¬ b.toNat / 9223372036854775808 = 1 at hone
      omega
  have hall : (-1#11).toNat = 2047 := rfl
  have hnone : (0#11).toNat = 0 := rfl
  have hempty : (0#52).toNat = 0 := rfl
  rw [hunpack, FloatOrder.unpack_eq, hsign, Parts.ofFloat, hbits]
  simp only [FloatOrder.ofBits, ← BitVec.toNat_inj, hexponent, hmantissa, hall, hnone, hempty, beq_iff_eq]
  split
  · split <;> rfl
  · split <;> rfl

/-- The mantissa and the exponent of a finite float. -/
theorem onGrid_of_ofFloat {x : Float} {negative : Bool} {m : ℕ} {q : ℤ}
    (h : Parts.ofFloat x = .finite negative m q) : OnGrid m q ∧ q ≤ 971 := by
  have hfraction : x.toBits.toNat % Nat.pow 2 52 < 2 ^ 52 := Nat.mod_lt _ (by decide)
  have hbiased : x.toBits.toNat / Nat.pow 2 52 % Nat.pow 2 11 < 2 ^ 11 := Nat.mod_lt _ (by decide)
  have hpow : Nat.pow 2 52 = 2 ^ 52 := rfl
  rw [Parts.ofFloat] at h
  simp only [beq_iff_eq] at h
  split_ifs at h with htop hzero hbottom
  · obtain ⟨-, rfl, rfl⟩ := Parts.finite.inj h
    exact ⟨⟨by omega, le_refl _, .inr rfl⟩, by norm_num⟩
  · obtain ⟨-, rfl, rfl⟩ := Parts.finite.inj h
    exact ⟨⟨by omega, by omega, .inl (by omega)⟩, by omega⟩

/-- A float is told by its unpacked form: there is only one that is no number. -/
theorem eq_of_unpack {x y : Float} (h : x.toModel.unpack = y.toModel.unpack) : x = y := by
  have hpack (z : Float.Model) : UnpackedFloat.pack .binary64 z.unpack = z.toBits.toBitVec := by
    refine (@pack_unpack .binary64 z.toBits.toBitVec (by decide)).trans ?_
    split
    · rename_i hnan
      obtain ⟨hexponent, hmantissa⟩ := of_decide_eq_true hnan
      exact (z.valid.eq_packedNaN hexponent hmantissa).symm
    · rfl
  obtain ⟨⟨⟨b⟩, hb⟩⟩ := x
  obtain ⟨⟨⟨c⟩, hc⟩⟩ := y
  have hbits : b = c := (hpack _).symm.trans ((congrArg _ h).trans (hpack _))
  subst hbits
  rfl

/-- A magnitude as a quotient of whole numbers. -/
theorem magnitude_eq_div (m : ℕ) (q : ℤ) : magnitude m q = magnitudeNum m q / magnitudeDen q := by
  have hnum : (magnitudeNum m q : ℚ) = m * (2 : ℚ) ^ (q.toNat : ℤ) := by
    rw [zpow_natCast]
    exact_mod_cast rfl
  have hden : (magnitudeDen q : ℚ) = (2 : ℚ) ^ ((-q).toNat : ℤ) := by
    rw [zpow_natCast]
    exact_mod_cast rfl
  rw [hnum, hden, mul_div_assoc, ← zpow_sub₀ (by norm_num), magnitude]
  congr 2
  omega

/-- Whether a float with all its bits is the power of ten. -/
def Parts.isPowerOfTen (k : ℕ) : Parts → Bool
  | .finite false m q => 2 ^ 52 ≤ m && magnitudeNum m q == 10 ^ k * magnitudeDen q
  | _ => false

end Decimal

namespace FloatOrder

open Decimal

variable {m n : ℕ} {q e : ℤ}

/-! ### The float of a decimal -/

/-- The value of a decimal. -/
def decimal (n : ℕ) (e : ℤ) : ℚ := n * (10 : ℚ) ^ e

theorem decimal_natCast (n k : ℕ) : decimal n k = magnitude n 0 * magnitude (10 ^ k) 0 := by
  rw [decimal, magnitude, magnitude, zpow_natCast, zpow_zero, mul_one, mul_one]
  push_cast
  rfl

theorem decimal_neg (n k : ℕ) : decimal n (-k) = magnitude n 0 / magnitude (10 ^ k) 0 := by
  rw [decimal, magnitude, magnitude, zpow_neg, zpow_natCast, zpow_zero, mul_one, mul_one, div_eq_mul_inv]
  push_cast
  rfl

/-- The powers of ten that floats hold exactly. -/
theorem exists_powerOfTen (k : ℕ) (hk : k < 23) : ∃ m e, 2 ^ 52 ≤ m ∧ magnitude m e = magnitude (10 ^ k) 0 ∧
    Float.exactlyRepresentablePowersOfTen[k].toModel.unpack = ofGrid .positive m e := by
  have htable : ∀ i, (hi : i < 23) →
      (Parts.ofFloat Float.exactlyRepresentablePowersOfTen[i]).isPowerOfTen i = true := by
    decide +kernel
  have hpower := htable k hk
  rw [unpack_eq_unpacked]
  unfold Parts.isPowerOfTen at hpower
  split at hpower
  · rename_i m q hparts
    rw [Bool.and_eq_true, decide_eq_true_iff, beq_iff_eq] at hpower
    refine ⟨m, q, hpower.1, ?_, by rw [hparts]; rfl⟩
    have hden : (0 : ℚ) < magnitudeDen q := by exact_mod_cast Nat.two_pow_pos _
    rw [magnitude_eq_div, hpower.2, Nat.cast_mul, mul_div_cancel_right₀ _ hden.ne', magnitude, zpow_zero,
      mul_one]
  · exact absurd hpower Bool.false_ne_true

theorem held_of_le (s : Sign) (h : OnGrid m q) (hq : q ≤ 971) : held (ofGrid s m q) = ofGrid s m q := by
  rw [held_ofGrid s h, if_pos hq]

namespace Nearest

theorem ne_zero_of_decimal (h : Nearest (decimal n e) m q) : n ≠ 0 := by
  rintro rfl
  have hpos := h.value_pos
  simp [decimal] at hpos

/-- A small decimal is read by one exact product. -/
theorem mul_powerOfTen (h : Nearest (decimal n e) m q) (hq : q ≤ 971) (hn : n < 2 ^ 53) {k : ℕ} (hk : k < 23)
    (he : e = k) : (n.toUInt64.toFloat *
      Float.exactlyRepresentablePowersOfTen[k]).toModel.unpack = ofGrid .positive m q := by
  obtain ⟨i, f, hfull, hvalue, hpower⟩ := exists_powerOfTen k hk
  have hne := h.ne_zero_of_decimal
  have hgrid := onGrid_lengthened hne hn
  have hlong : 2 ^ 52 ≤ n * 2 ^ (52 - n.log2) := hgrid.full.resolve_right (by omega)
  have hwhole : magnitude (n * 2 ^ (52 - n.log2)) (-((52 - n.log2 : ℕ) : ℤ)) = magnitude n 0 := by
    rw [← zero_sub, magnitude_shift]
  rw [he, decimal_natCast, ← hwhole, ← hvalue] at h
  show held (UnpackedFloat.mul .binary64 n.toUInt64.toFloat.toModel.unpack
    Float.exactlyRepresentablePowersOfTen[k].toModel.unpack) = _
  rw [unpack_toFloat hne hn, hpower, h.mul_eq (by omega) (by omega) ?_]
  · exact held_of_le _ h.onGrid hq
  · refine (Nat.le_log2 (Nat.mul_ne_zero (by omega) (by omega))).mpr ?_
    exact hlong.trans (Nat.le_mul_of_pos_right _ (by omega))

/-- A small decimal is read by one exact quotient. -/
theorem div_powerOfTen (h : Nearest (decimal n e) m q) (hq : q ≤ 971) (hn : n < 2 ^ 53) {k : ℕ} (hk : k < 23)
    (he : e = -k) : (n.toUInt64.toFloat /
      Float.exactlyRepresentablePowersOfTen[k]).toModel.unpack = ofGrid .positive m q := by
  obtain ⟨i, f, hfull, hvalue, hpower⟩ := exists_powerOfTen k hk
  have hne := h.ne_zero_of_decimal
  have hwhole : magnitude (n * 2 ^ (52 - n.log2)) (-((52 - n.log2 : ℕ) : ℤ)) = magnitude n 0 := by
    rw [← zero_sub, magnitude_shift]
  rw [he, decimal_neg, ← hwhole, ← hvalue] at h
  show held (UnpackedFloat.div .binary64 n.toUInt64.toFloat.toModel.unpack
    Float.exactlyRepresentablePowersOfTen[k].toModel.unpack) = _
  rw [unpack_toFloat hne hn, hpower, h.div_eq (Nat.mul_pos (by omega) (Nat.two_pow_pos _)) (by omega)]
  exact held_of_le _ h.onGrid hq

/-- Any other decimal is read in exact arithmetic. -/
theorem ofScientific_eq (h : Nearest (decimal n e) m q) (he : -2048 ≤ e) (he' : e ≤ 2048) :
    UnpackedFloat.ofScientific .binary64 n e = ofGrid .positive m q := by
  have hne := h.ne_zero_of_decimal
  have hpos : 0 < n := Nat.pos_of_ne_zero hne
  have hbits : (2 : ℤ) ^ Format.binary64.exponentBits = 2048 := rfl
  rw [UnpackedFloat.ofScientific, dif_neg hne, if_neg (by omega), if_neg (by omega)]
  by_cases hsign : 0 ≤ e
  · obtain ⟨k, rfl⟩ := Int.eq_ofNat_of_zero_le hsign
    have hlong : n <<< 53 = n * 2 ^ 53 := Nat.shiftLeft_eq n 53
    have hwhole : magnitude (n <<< 53) (-53) = magnitude n 0 := by
      rw [hlong]
      exact magnitude_shift n 0 53
    have hten : 0 < 10 ^ k := Nat.pow_pos (by decide)
    rw [decimal_natCast, ← hwhole] at h
    have hproduct := h.mul_eq (by rw [hlong]; omega) hten (?_) .positive .positive
    · rw [if_pos hsign]
      rw [ofGrid_of_pos _ (by rw [hlong]; omega), ofGrid_of_pos _ hten] at hproduct
      exact hproduct
    · rw [hlong]
      refine (Nat.le_log2 (Nat.mul_ne_zero (by omega) hten.ne')).mpr ?_
      exact le_trans (by omega) (Nat.le_mul_of_pos_right _ hten)
  · obtain ⟨k, rfl⟩ : ∃ k : ℕ, e = -k := ⟨(-e).toNat, by omega⟩
    have hten : 0 < 10 ^ k := Nat.pow_pos (by decide)
    rw [decimal_neg] at h
    have hquotient := h.div_eq hpos hten .positive .positive
    rw [ofGrid_of_pos _ hpos, ofGrid_of_pos _ hten] at hquotient
    have hexp : (-(-(k : ℤ))).toNat = k := by omega
    rw [if_neg hsign]
    simp only [hexp]
    exact hquotient

/-- A decimal is read as its nearest float. -/
theorem unpack_ofScientific (h : Nearest (decimal n e) m q) (hq : q ≤ 971) {k : ℕ} (negative : Bool)
    (he : e = if negative then -(k : ℤ) else k) (hk : k ≤ 2048) :
    (Float.ofScientific n negative k).toModel.unpack = ofGrid .positive m q := by
  rw [Float.ofScientific]
  split
  · rename_i hsmall
    cases negative with
    | false => exact h.mul_powerOfTen hq hsmall.1 (by omega) he
    | true => exact h.div_powerOfTen hq hsmall.1 (by omega) he
  · have hexp : (if negative then Int.negOfNat k else Int.ofNat k) = e := by
      cases negative with
      | false => exact he.symm
      | true => exact (Int.negOfNat_eq).trans he.symm
    show held (UnpackedFloat.ofScientific .binary64 n (if negative then _ else _)) = _
    rw [hexp, h.ofScientific_eq (by split at he <;> omega) (by split at he <;> omega)]
    exact held_of_le _ h.onGrid hq

end Nearest

end FloatOrder

namespace Decimal

variable {m n : ℕ} {q e : ℤ} {negative : Bool}

theorem eight_pow_le (k : ℕ) : (2 : ℚ) ^ (3 * (k : ℤ)) ≤ 10 ^ k := by
  have hpow : (2 : ℚ) ^ (3 * (k : ℤ)) = 8 ^ k := by
    rw [zpow_mul, zpow_natCast]
    norm_num
  rw [hpow]
  exact pow_le_pow_left₀ (by norm_num) (by norm_num) k

/-- The exponents of the decimals in the interval of a float. -/
theorem exponent_bounds (h : Nearest (decimal n e) m q) (hq : q ≤ 971) (hn : n < 2 ^ 113) :
    -397 < e ∧ e < 342 := by
  have hn' : (n : ℚ) < 2 ^ (113 : ℤ) := by exact_mod_cast hn
  have hpos := Nat.pos_of_ne_zero h.ne_zero_of_decimal
  by_cases hsign : 0 ≤ e
  · obtain ⟨k, rfl⟩ := Int.eq_ofNat_of_zero_le hsign
    refine ⟨by omega, ?_⟩
    have hone : (1 : ℚ) ≤ n := by exact_mod_cast hpos
    have hlow : (2 : ℚ) ^ (3 * (k : ℤ)) ≤ decimal n k := by
      rw [decimal, zpow_natCast]
      have hten : (0 : ℚ) ≤ 10 ^ k := by positivity
      nlinarith [eight_pow_le k]
    have hhigh := h.lt_two_pow
    rw [magnitude_two_pow] at hhigh
    have := (zpow_lt_zpow_iff_right₀ (by norm_num)).mp (hlow.trans_lt hhigh)
    push_cast at this
    omega
  · obtain ⟨k, rfl⟩ : ∃ k : ℕ, e = -k := ⟨(-e).toNat, by omega⟩
    refine ⟨?_, by omega⟩
    have hleast : (2 : ℚ) ^ (-1076 : ℤ) ≤ decimal n (-k) := by
      refine le_trans ?_ h.low
      have hreach := reachBelow_le m q
      have hm := h.pos
      have hgrid := h.onGrid.le
      rw [← magnitude_one]
      calc magnitude 1 (-1076) ≤ magnitude 1 (q - 2) := by
            rw [magnitude_one, magnitude_one]
            exact zpow_le_zpow_right₀ (by norm_num) (by omega)
        _ ≤ magnitude (4 * m - reachBelow m q) (q - 2) := magnitude_le_iff.mpr (by omega)
    have hten : (0 : ℚ) < 10 ^ k := by positivity
    have hscaled : (2 : ℚ) ^ (-1076 : ℤ) * 10 ^ k ≤ n := by
      have hvalue : decimal n (-k) * 10 ^ k = n := by
        rw [decimal, zpow_neg, zpow_natCast, mul_assoc, inv_mul_cancel₀ hten.ne', mul_one]
      rw [← hvalue]
      exact mul_le_mul_of_nonneg_right hleast hten.le
    have hpow : (2 : ℚ) ^ (-1076 + 3 * (k : ℤ)) < 2 ^ (113 : ℤ) := by
      rw [zpow_add₀ (by norm_num)]
      refine lt_of_le_of_lt (le_trans ?_ hscaled) hn'
      exact mul_le_mul_of_nonneg_left (eight_pow_le k) (by positivity)
    have := (zpow_lt_zpow_iff_right₀ (by norm_num)).mp hpow
    omega

/-- The sign of a number before its magnitude. -/
theorem unpack_signed {x : Float} (h : x.toModel.unpack = ofGrid .positive m q) (hgrid : OnGrid m q)
    (hq : q ≤ 971) : (if negative then -x else x).toModel.unpack = ofGrid (signOf negative) m q := by
  cases negative with
  | false => exact h
  | true =>
    show held (UnpackedFloat.neg x.toModel.unpack) = _
    rw [h, neg_ofGrid]
    exact held_of_le _ hgrid hq

/-- The float of a decimal, unpacked. -/
theorem unpack_ofDecimal (h : Nearest (decimal n e) m q) (hq : q ≤ 971) (hn : n < 2 ^ 113) :
    (ofDecimal negative n e).toModel.unpack = ofGrid (signOf negative) m q := by
  obtain ⟨hlow, hhigh⟩ := exponent_bounds h hq hn
  have hlog : n.log2 < 113 := (Nat.log2_lt h.ne_zero_of_decimal).mpr hn
  rw [ofDecimal]
  refine unpack_signed ?_ h.onGrid hq
  rw [if_neg, if_neg (by omega)]
  · by_cases hsign : 0 ≤ e
    · rw [if_pos hsign]
      exact h.unpack_ofScientific hq (k := e.toNat) false (by rw [if_neg Bool.false_ne_true]; omega) (by omega)
    · rw [if_neg hsign]
      exact h.unpack_ofScientific hq (k := (-e).toNat) true (by rw [if_pos rfl]; omega) (by omega)
  · simp only [Bool.or_eq_true, beq_iff_eq, decide_eq_true_eq]
    have := h.ne_zero_of_decimal
    omega

/-- A decimal in the interval of a float is read as the float. -/
theorem ofDecimal_eq {x : Float} (hx : Parts.ofFloat x = .finite negative m q)
    (h : Nearest (decimal n e) m q) (hn : n < 2 ^ 113) : ofDecimal negative n e = x := by
  refine eq_of_unpack ?_
  rw [unpack_ofDecimal h (onGrid_of_ofFloat hx).2 hn, unpack_eq_unpacked x, hx]
  rfl

/-- Zero is read with its sign. -/
theorem ofDecimal_zero {x : Float} (hx : Parts.ofFloat x = .finite negative 0 q) (e : ℤ) :
    ofDecimal negative 0 e = x := by
  obtain ⟨hgrid, hq⟩ := onGrid_of_ofFloat hx
  have hzero : (0.0 : Float).toModel.unpack = ofGrid .positive 0 q := by
    have hparts : Parts.ofFloat 0.0 = .finite false 0 (-1074) := by decide +kernel
    rw [unpack_eq_unpacked, hparts]
    rfl
  refine eq_of_unpack ?_
  rw [unpack_eq_unpacked x, hx, ofDecimal]
  exact unpack_signed hzero hgrid hq

end Decimal

end Backtest
