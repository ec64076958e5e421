import Backtest.Generator
import Backtest.Proofs.FloatArithmetic

/-!
# What generators give

A generator keeps to what it is asked for if its floats lie in the half-open unit interval and its whole
numbers in the range that is named. The generator of this library does: it divides a whole number of 53
bits by the count of such numbers, which is exact, and it draws a whole number anew until it is small
enough.

* `LawfulGenerator`, the law; the instance for `Twister`;
* `FloatOrder.Rounded.held_eq`, a value that a float can hold is not changed by rounding;
* `FloatOrder.unit_range`, the quotients lie in the half-open unit interval.
-/

namespace Backtest

/-- A generator that keeps to what it is asked for. -/
class LawfulGenerator (γ : Type) [Generator γ] : Prop where
  zero_le_unit : ∀ g : γ, 0.0 ≤ (Generator.unit g).1
  unit_lt_one : ∀ g : γ, (Generator.unit g).1 < 1.0
  between_mem : ∀ (low high : ℤ) (g : γ), low ≤ high →
    low ≤ (Generator.between low high g).1 ∧ (Generator.between low high g).1 ≤ high

namespace FloatOrder

open Float.Model Float.Model.UnpackedFloat

variable {m n : ℕ} {e f : ℤ}

/-- What is rounded to a point of the grid was that point, if it is one. -/
theorem Rounded.held_eq {s : Sign} {u : UnpackedFloat} (h : OnGrid m e) (he : e ≤ 971) (hm : 0 < m)
    (hu : Rounded (signed s (magnitude m e)) u) : held u = ofGrid s m e := by
  obtain ⟨s', n, f, hq, rfl⟩ := hu
  have hvalue : signed s' (magnitude n f) = signed s (magnitude m e) :=
    le_antisymm (hq.ge_of_ge s m e h le_rfl) (hq.le_of_le s m e h le_rfl)
  have hpos := magnitude_pos (e := e) hm
  have hnonneg := magnitude_nonneg n f
  have hsame : s' = s ∧ magnitude n f = magnitude m e := by
    cases s <;> cases s' <;> simp only [signed] at hvalue
    · exact ⟨rfl, neg_injective hvalue⟩
    · linarith
    · linarith
    · exact ⟨rfl, hvalue⟩
  have hle := (hq.onGrid.le_iff h).mp hsame.2.le
  have hge := (h.le_iff hq.onGrid).mp hsame.2.ge
  obtain rfl : f = e := by omega
  obtain rfl : n = m := by omega
  rw [hsame.1, held_ofGrid s h, if_pos he]

/-- A whole number of at most 53 bits, with all 53 of them. -/
theorem onGrid_lengthened (hn : n ≠ 0) (h : n < 2 ^ 53) :
    OnGrid (n * 2 ^ (52 - n.log2)) (-((52 - n.log2 : ℕ) : ℤ)) := by
  have hlog : n.log2 < 53 := (Nat.log2_lt hn).mpr h
  have hlow : 2 ^ n.log2 * 2 ^ (52 - n.log2) ≤ n * 2 ^ (52 - n.log2) :=
    Nat.mul_le_mul_right _ (Nat.log2_self_le hn)
  have hhigh : n * 2 ^ (52 - n.log2) < 2 ^ (n.log2 + 1) * 2 ^ (52 - n.log2) :=
    Nat.mul_lt_mul_of_pos_right Nat.lt_log2_self (Nat.two_pow_pos _)
  rw [← pow_add] at hlow hhigh
  have hexp : n.log2 + (52 - n.log2) = 52 := by omega
  have hexp' : n.log2 + 1 + (52 - n.log2) = 53 := by omega
  rw [hexp] at hlow
  rw [hexp'] at hhigh
  exact ⟨hhigh, by omega, .inl hlow⟩

theorem unpack_one : (1.0 : Float).toModel.unpack = ofGrid .positive (2 ^ 52) (-52) := by rfl

/-- A whole number of at most 53 bits is held exactly. -/
theorem unpack_toFloat (hn : n ≠ 0) (h : n < 2 ^ 53) : (n.toUInt64.toFloat).toModel.unpack =
    ofGrid .positive (n * 2 ^ (52 - n.log2)) (-((52 - n.log2 : ℕ) : ℤ)) := by
  have hpos : 0 < n * 2 ^ (52 - n.log2) := Nat.mul_pos (Nat.pos_of_ne_zero hn) (Nat.two_pow_pos _)
  refine Rounded.held_eq (onGrid_lengthened hn h) (by omega) hpos ?_
  have hvalue : magnitude (n * 2 ^ (52 - n.log2)) (-((52 - n.log2 : ℕ) : ℤ)) = n := by
    rw [← zero_sub, magnitude_shift, magnitude, zpow_zero, mul_one]
  have hn' : n.toUInt64.toNat = n := UInt64.toNat_ofNat_of_lt' (by
    show n < 2 ^ 64
    omega)
  have hwhole : UnpackedFloat.ofUInt64 .binary64 n.toUInt64 =
      UnpackedFloat.normalize .binary64 n 0 .positive := by
    show UnpackedFloat.normalize .binary64 n.toUInt64.toNat 0 .positive = _
    rw [hn']
  have hrounded := normalize_rounded n 0 .positive
  rw [zpow_zero, mul_one, Int.cast_natCast] at hrounded
  rw [signed, hvalue, hwhole]
  exact hrounded

/-- The float of such a number is its product with one. -/
theorem unpack_ofNat (hn : n ≠ 0) (h : n < 2 ^ 53) : (Float.ofNat n).toModel.unpack =
    ofGrid .positive (n * 2 ^ (52 - n.log2)) (-((52 - n.log2 : ℕ) : ℤ)) := by
  have hgrid := onGrid_lengthened hn h
  have hpos : 0 < n * 2 ^ (52 - n.log2) := Nat.mul_pos (Nat.pos_of_ne_zero hn) (Nat.two_pow_pos _)
  have hproduct : Float.ofNat n = n.toUInt64.toFloat * 1.0 := by
    show Float.ofScientific n false 0 = _
    rw [Float.ofScientific, dif_pos ⟨h, by omega⟩]
    rfl
  rw [hproduct]
  refine Rounded.held_eq hgrid (by omega) hpos ?_
  rw [unpack_toFloat hn h, unpack_one]
  have hone : magnitude (2 ^ 52) (-52) = 1 := by
    rw [magnitude_two_pow]
    norm_num
  have hrounded := mul_rounded .positive .positive hgrid (e := _) (f := -52) (n := 2 ^ 52)
    ⟨by norm_num, by norm_num, .inl (le_refl _)⟩
  simp only [signed, hone, mul_one] at hrounded
  exact hrounded

theorem unpack_two_pow : (Float.ofNat (Nat.pow 2 53)).toModel.unpack = ofGrid .positive (2 ^ 52) 1 := by
  rfl

/-- The quotient of a full mantissa by a power of two: twice the mantissa, and nothing is left. -/
theorem divCore_two_pow {k : ℕ} (hk : k ≤ 52) (hfull : 2 ^ 52 ≤ m) (hlt : m < 2 ^ 53) :
    divCore .binary64 m (-(k : ℤ)) (2 ^ 52) 1 = (m * 2, -(k : ℤ) - 54, .exact) := by
  have hlog : m.log2 = 52 := by
    have := (Nat.le_log2 (by omega)).mpr hfull
    have := (Nat.log2_lt (by omega)).mpr hlt
    omega
  have htarget : min (-(k : ℤ) - 1) (Format.binary64.targetExponent
      (totalExponent m (-(k : ℤ)) - totalExponent (2 ^ 52) 1)) = -(k : ℤ) - 54 := by
    simp only [Format.targetExponent, totalExponent, Format.mantissaBits, Format.minExponent, hlog,
      Nat.log2_two_pow]
    norm_num
    omega
  have hshift : (-(k : ℤ) - 1 - (-(k : ℤ) - 54)).toNat = 53 := by omega
  have hlong : m <<< 53 = m * 2 * 2 ^ 52 := by
    rw [Nat.shiftLeft_eq]
    omega
  rw [divCore]
  simp only [htarget, hshift, hlong]
  rw [Nat.mul_div_cancel _ (Nat.two_pow_pos 52), Nat.mul_mod_left]
  rfl

/-- A quotient by the count of numbers of 53 bits has the mantissa of the dividend. -/
theorem unpack_div_two_pow {x : Float} {k : ℕ} (hk : k ≤ 52) (hfull : 2 ^ 52 ≤ m) (hlt : m < 2 ^ 53)
    (hx : x.toModel.unpack = ofGrid .positive m (-(k : ℤ))) :
    (x / Float.ofNat (Nat.pow 2 53)).toModel.unpack = ofGrid .positive m (-(k : ℤ) - 53) := by
  have hpos : 0 < m := (Nat.two_pow_pos 52).trans_le hfull
  refine Rounded.held_eq ⟨hlt, by omega, .inl hfull⟩ (by omega) hpos ?_
  rw [hx, unpack_two_pow, ofGrid_of_pos _ hpos, ofGrid_of_pos _ (Nat.two_pow_pos 52)]
  simp only [UnpackedFloat.div, divCore_two_pow hk hfull hlt]
  have hlog : 53 ≤ (m * 2).log2 := (Nat.le_log2 (by omega)).mpr (by omega)
  obtain ⟨i, g, hrounds, heq⟩ := roundWithAccuracy_rounds (.positive / .positive) (m := m * 2)
    (e := -(k : ℤ) - 54) (by omega) (by omega)
  refine ⟨.positive, i, g, ?_, heq⟩
  have hvalue : magnitude (m * 2) (-(k : ℤ) - 54) = magnitude m (-(k : ℤ) - 53) := by
    rw [← magnitude_shift m (-(k : ℤ) - 53) 1]
    congr 1
    omega
  rw [hvalue] at hrounds
  exact hrounds.roundsTo (magnitude_pos hpos) .positive

/-- A whole number of at most 53 bits over their count of values is exact, and below one. -/
theorem unit_range (h : n < 2 ^ 53) :
    0.0 ≤ Float.ofNat n / Float.ofNat (Nat.pow 2 53) ∧
      Float.ofNat n / Float.ofNat (Nat.pow 2 53) < 1.0 := by
  by_cases hn : n = 0
  · subst hn
    decide +kernel
  obtain ⟨k, hk, hk'⟩ : ∃ k : ℕ, k = 52 - n.log2 ∧ k ≤ 52 := ⟨_, rfl, by omega⟩
  obtain ⟨m, hm⟩ : ∃ m, m = n * 2 ^ k := ⟨_, rfl⟩
  have hgrid : OnGrid m (-(k : ℤ)) := by
    subst hm hk
    exact onGrid_lengthened hn h
  have hdividend : (Float.ofNat n).toModel.unpack = ofGrid .positive m (-(k : ℤ)) := by
    subst hm hk
    exact unpack_ofNat hn h
  have hfull : 2 ^ 52 ≤ m := hgrid.full.resolve_right (by omega)
  have hgrid' : OnGrid m (-(k : ℤ) - 53) := ⟨hgrid.lt, by omega, .inl hfull⟩
  have hrank : rank? (Float.ofNat n / Float.ofNat (Nat.pow 2 53)) =
      some (gridRank .positive m (-(k : ℤ) - 53)) :=
    (congrArg unpackedRank? (unpack_div_two_pow hk' hfull hgrid.lt hdividend)).trans (rank_ofGrid _ _ _)
  constructor
  · refine zero_le_iff.mpr ⟨_, hrank, ?_⟩
    rw [gridRank_le_iff _ _ onGrid_zero hgrid', magnitude_zero]
    exact magnitude_nonneg _ _
  · have hone : OnGrid (2 ^ 52) (-52) := ⟨by norm_num, by norm_num, .inl (le_refl _)⟩
    refine lt_iff.mpr ⟨_, _, hrank, (congrArg unpackedRank? unpack_one).trans (rank_ofGrid _ _ _), ?_⟩
    rw [← not_le, gridRank_le_iff _ _ hone hgrid']
    show ¬ magnitude (2 ^ 52) (-52) ≤ magnitude m (-(k : ℤ) - 53)
    rw [hone.le_iff hgrid']
    omega

end FloatOrder

namespace Twister

theorem exists_unit (g : Twister) :
    ∃ n < 2 ^ 53, g.unit.1 = Float.ofNat n / Float.ofNat (Nat.pow 2 53) := by
  refine ⟨(g.word.1 >>> 5).toNat * Nat.pow 2 26 + (g.word.2.word.1 >>> 6).toNat, ?_, rfl⟩
  have hupper : (g.word.1 >>> 5).toNat < 2 ^ 27 := by
    have := g.word.1.toNat_lt
    show g.word.1.toNat >>> 5 < 2 ^ 27
    rw [Nat.shiftRight_eq_div_pow]
    omega
  have hlower : (g.word.2.word.1 >>> 6).toNat < 2 ^ 26 := by
    have := g.word.2.word.1.toNat_lt
    show g.word.2.word.1.toNat >>> 6 < 2 ^ 26
    rw [Nat.shiftRight_eq_div_pow]
    omega
  show _ * 67108864 + _ < _
  omega

theorem below_lt {n : ℕ} (hn : 0 < n) (k left : ℕ) (g : Twister) : (below n k left g).1 < n := by
  induction left generalizing g with
  | zero => exact hn
  | succ left ih =>
    unfold below
    simp only
    split
    · assumption
    · exact ih _

instance : LawfulGenerator Twister where
  zero_le_unit := by
    intro g
    obtain ⟨n, hn, heq⟩ := exists_unit g
    exact heq ▸ (FloatOrder.unit_range hn).1
  unit_lt_one := by
    intro g
    obtain ⟨n, hn, heq⟩ := exists_unit g
    exact heq ▸ (FloatOrder.unit_range hn).2
  between_mem := by
    intro low high g hle
    obtain ⟨n, hn⟩ : ∃ n : ℕ, n = (high - low + 1).toNat := ⟨_, rfl⟩
    have hlt := below_lt (n := n) (by omega) (n.log2 + 1) tries g
    have hdrawn : (Generator.between low high g).1 = low + ((below n (n.log2 + 1) tries g).1 : ℤ) := by
      rw [hn]
      rfl
    omega

end Twister

end Backtest
