import Backtest.Decimal.Shortest
import Backtest.Proofs.DecimalReading

/-!
# The shortest decimal

The decimal that is found for a float lies in the interval of the float. Every hit of the search does, by
the test that finds it, and on the seventeenth grid there is one: its points lie closer together than the
ends of the interval.

* `Decimal.Interval.holds_scale`, the test and the interval; `Decimal.Interval.onGrid?_holds`, a hit;
* `Decimal.log10Floor_bounds`, the decimal logarithm; `Decimal.Interval.onGrid?_isSome`, a grid with a hit;
* `Decimal.Interval.search_spec`, the search; `Decimal.Interval.onGrid?_last`, its last grid;
  `Decimal.shortest_nearest`, what is found.
-/

namespace Backtest.Decimal

open FloatOrder

variable {m n : ℕ} {q k e : ℤ}

/-! ### The interval of a float -/

theorem Interval.ofParts_low (m : ℕ) (q : ℤ) :
    (Interval.ofParts m q).low = (4 * m - reachBelow m q) * 2 ^ q.toNat := by
  have hbelow : (if m == Nat.pow 2 52 && q > -1074 then 1 else 2) = reachBelow m q := by
    simp only [reachBelow, Bool.and_eq_true, beq_iff_eq, decide_eq_true_eq]
    rfl
  show 4 * m * Nat.pow 2 q.toNat - (if _ then 1 else 2) * Nat.pow 2 q.toNat = _
  rw [hbelow, ← Nat.sub_mul]
  rfl

theorem Interval.ofParts_high (m : ℕ) (q : ℤ) :
    (Interval.ofParts m q).high = (4 * m + 2) * 2 ^ q.toNat := (Nat.add_mul _ _ _).symm

theorem Interval.ofParts_den_pos (m : ℕ) (q : ℤ) : 0 < (Interval.ofParts m q).den :=
  Nat.mul_pos (by decide) (Nat.two_pow_pos _)

/-- A quarter of a step, as a number over the denominator of the interval. -/
theorem Interval.magnitude_mul_den (m a : ℕ) (q : ℤ) :
    magnitude a (q - 2) * (Interval.ofParts m q).den = (a * 2 ^ q.toNat : ℕ) := by
  have hden : ((Interval.ofParts m q).den : ℚ) = 2 ^ (2 : ℤ) * (2 : ℚ) ^ ((-q).toNat : ℤ) := by
    have hfour : (Interval.ofParts m q).den = 4 * 2 ^ (-q).toNat := rfl
    rw [hfour, zpow_natCast]
    push_cast
    norm_num
  rw [hden, magnitude, mul_assoc, ← zpow_add₀ (by norm_num), ← zpow_add₀ (by norm_num), Nat.cast_mul,
    Nat.cast_pow, ← zpow_natCast]
  push_cast
  congr 2
  omega

/-- A decimal over the scaled denominator. -/
theorem decimal_mul_den (n d : ℕ) (k : ℤ) :
    decimal n k * (d * 10 ^ (-k).toNat : ℕ) = (n * (d * 10 ^ k.toNat) : ℕ) := by
  have hten : (10 : ℚ) ^ k * 10 ^ (-k).toNat = 10 ^ k.toNat := by
    rw [← zpow_natCast, ← zpow_natCast, ← zpow_add₀ (by norm_num)]
    congr 1
    omega
  rw [decimal]
  push_cast
  rw [← hten]
  ring

theorem Interval.scaled_den_pos (m : ℕ) (q k : ℤ) :
    (0 : ℚ) < ((Interval.ofParts m q).den * 10 ^ (-k).toNat : ℕ) := by
  exact_mod_cast Nat.mul_pos (Interval.ofParts_den_pos m q) (Nat.pow_pos (by decide))

theorem Interval.magnitude_mul_scaled_den (m a : ℕ) (q k : ℤ) :
    magnitude a (q - 2) * ((Interval.ofParts m q).den * 10 ^ (-k).toNat : ℕ) =
      (a * 2 ^ q.toNat * 10 ^ (-k).toNat : ℕ) := by
  rw [Nat.cast_mul, ← mul_assoc, magnitude_mul_den, Nat.cast_mul (a * 2 ^ q.toNat)]

/-- A decimal and a quarter of a step are compared over the scaled denominator. -/
theorem Interval.decimal_le_iff {a : ℕ} : decimal n k ≤ magnitude a (q - 2) ↔
    n * ((Interval.ofParts m q).den * 10 ^ k.toNat) ≤ a * 2 ^ q.toNat * 10 ^ (-k).toNat := by
  rw [← mul_le_mul_iff_left₀ (scaled_den_pos m q k), magnitude_mul_scaled_den, decimal_mul_den, Nat.cast_le]

theorem Interval.le_decimal_iff {a : ℕ} : magnitude a (q - 2) ≤ decimal n k ↔
    a * 2 ^ q.toNat * 10 ^ (-k).toNat ≤ n * ((Interval.ofParts m q).den * 10 ^ k.toNat) := by
  rw [← mul_le_mul_iff_left₀ (scaled_den_pos m q k), magnitude_mul_scaled_den, decimal_mul_den, Nat.cast_le]

theorem Interval.scale_low (m : ℕ) (q k : ℤ) : ((Interval.ofParts m q).scale k).low =
    (4 * m - reachBelow m q) * 2 ^ q.toNat * 10 ^ (-k).toNat := by
  rw [← ofParts_low]
  rfl

theorem Interval.scale_high (m : ℕ) (q k : ℤ) :
    ((Interval.ofParts m q).scale k).high = (4 * m + 2) * 2 ^ q.toNat * 10 ^ (-k).toNat := by
  rw [← ofParts_high]
  rfl

/-- A decimal that passes the test lies in the interval. -/
theorem Interval.holds_scale (hgrid : OnGrid m q) (hm : 0 < m)
    (h : ((Interval.ofParts m q).scale k).holds (n * ((Interval.ofParts m q).den * 10 ^ k.toNat)) = true) :
    Nearest (decimal n k) m q := by
  have hclosed : ((Interval.ofParts m q).scale k).closed = (m % 2 == 0) := rfl
  rw [holds, scale_low, scale_high, hclosed] at h
  by_cases heven : m % 2 = 0
  · rw [if_pos (by rw [heven]; rfl), Bool.and_eq_true, decide_eq_true_eq, decide_eq_true_eq] at h
    exact ⟨hgrid, hm, le_decimal_iff.mpr h.1, decimal_le_iff.mpr h.2, fun hodd => by omega⟩
  · rw [if_neg (by simpa using heven), Bool.and_eq_true, decide_eq_true_eq, decide_eq_true_eq] at h
    refine ⟨hgrid, hm, le_decimal_iff.mpr h.1.le, decimal_le_iff.mpr h.2.le,
      fun _ => ⟨not_le.mp ?_, not_le.mp ?_⟩⟩
    · rw [decimal_le_iff]
      exact not_le.mpr h.1
    · rw [le_decimal_iff]
      exact not_le.mpr h.2

/-! ### A grid -/

/-- A hit on a grid is no zero and passes the test. -/
theorem Interval.onGrid?_holds {i : Interval} (h : i.onGrid? k = some n) :
    (i.scale k).holds (n * (i.den * 10 ^ k.toNat)) = true := by
  have hpow : Nat.pow 10 k.toNat = 10 ^ k.toNat := rfl
  rw [onGrid?] at h
  simp only [hpow] at h
  have hnext (a b : ℕ) : a * b + b = (a + 1) * b := (Nat.succ_mul a b).symm
  split at h
  · rename_i hlower hupper
    have hlower := (Bool.and_eq_true_iff.mp hlower).1
    rw [hnext] at hupper
    split_ifs at h <;> obtain rfl := Option.some.inj h <;> assumption
  · rename_i hlower hupper
    obtain rfl := Option.some.inj h
    exact (Bool.and_eq_true_iff.mp hlower).1
  · rename_i hlower hupper
    obtain rfl := Option.some.inj h
    rw [hnext] at hupper
    exact hupper
  · exact absurd h (by simp)

/-- A grid whose points lie closer together than the ends of the interval has a hit. -/
theorem Interval.onGrid?_isSome {i : Interval} (hpos : 0 < i.den)
    (hvalue : i.den * 10 ^ k.toNat ≤ (i.scale k).value) (hlow : (i.scale k).low < (i.scale k).value)
    (hhigh : (i.scale k).value < (i.scale k).high)
    (hstep : (i.scale k).low + i.den * 10 ^ k.toNat < (i.scale k).high) : (i.onGrid? k).isSome = true := by
  obtain ⟨s, hs⟩ : ∃ s, s = i.den * 10 ^ k.toNat := ⟨_, rfl⟩
  obtain ⟨b, hb⟩ : ∃ b, b = (i.scale k).value / s := ⟨_, rfl⟩
  rw [← hs] at hvalue hstep
  have hspos : 0 < s := by
    rw [hs]
    exact Nat.mul_pos hpos (Nat.pow_pos (by decide))
  have hbpos : 0 < b := by
    rw [hb]
    exact Nat.div_pos hvalue hspos
  have hfloor : b * s ≤ (i.scale k).value := by
    rw [hb]
    exact Nat.div_mul_le_self _ _
  have hceil : (i.scale k).value < b * s + s := by
    rw [hb, ← Nat.succ_mul]
    exact (Nat.div_lt_iff_lt_mul hspos).mp (Nat.lt_succ_self _)
  -- if the lower point is not inside it is below the interval, and then the upper point is inside
  have hone : (i.scale k).holds (b * s) = true ∨ (i.scale k).holds (b * s + s) = true := by
    by_cases hinside : (i.scale k).low < b * s
    · left
      rw [holds]
      split <;> rw [Bool.and_eq_true, decide_eq_true_eq, decide_eq_true_eq] <;> omega
    · right
      rw [holds]
      split <;> rw [Bool.and_eq_true, decide_eq_true_eq, decide_eq_true_eq] <;> omega
  have hpow : Nat.pow 10 k.toNat = 10 ^ k.toNat := rfl
  rw [onGrid?]
  simp only [hpow, ← hs, ← hb]
  split
  · split_ifs <;> rfl
  · rfl
  · rfl
  · rename_i hlower hupper
    have hne : (b != 0) = true := by simpa using hbpos.ne'
    rw [hne, Bool.and_true] at hlower
    rcases hone with hone | hone
    · rw [hone] at hlower
      exact absurd hlower (by decide)
    · rw [hone] at hupper
      exact absurd hupper (by decide)

/-! ### The decimal logarithm -/

/-- The first estimate of the decimal logarithm of a number with so many bits. -/
def log10Guess (bits : ℤ) : ℤ := Int.fdiv ((bits - 1) * 30103) 100000

/-- The test by which a power of ten is compared with a quotient. -/
theorem ten_zpow_le_iff {num den : ℕ} (hden : 0 < den) (t : ℤ) :
    den * Nat.pow 10 t.toNat ≤ num * Nat.pow 10 (-t).toNat ↔ (10 : ℚ) ^ t ≤ num / den := by
  have hd : (0 : ℚ) < den := by exact_mod_cast hden
  have hscale : (0 : ℚ) < 10 ^ (-t).toNat := by positivity
  have hten : (10 : ℚ) ^ t * 10 ^ (-t).toNat = 10 ^ t.toNat := by
    rw [← zpow_natCast, ← zpow_natCast, ← zpow_add₀ (by norm_num)]
    congr 1
    omega
  rw [le_div_iff₀ hd, ← mul_le_mul_iff_left₀ hscale, mul_right_comm, hten, Nat.pow_eq, Nat.pow_eq,
    mul_comm, ← Nat.cast_le (α := ℚ)]
  push_cast
  rfl

/-- Whether the power of ten is at most the quotient. -/
def powerOfTenLe (num den : ℕ) (t : ℤ) : Bool := den * Nat.pow 10 t.toNat ≤ num * Nat.pow 10 (-t).toNat

theorem powerOfTenLe_iff {num den : ℕ} (hden : 0 < den) (t : ℤ) :
    powerOfTenLe num den t = true ↔ (10 : ℚ) ^ t ≤ num / den := by
  rw [powerOfTenLe, decide_eq_true_eq, ten_zpow_le_iff hden]

/-- Whether the estimate is at most one more, and less than two less, than the decimal logarithm of the
numbers with so many bits. -/
def guessHolds (b : ℤ) : Bool :=
  powerOfTenLe (Nat.pow 2 b.toNat) (Nat.pow 2 (-b).toNat) (log10Guess b - 1) &&
    !powerOfTenLe (Nat.pow 2 (b + 1).toNat) (Nat.pow 2 (-(b + 1)).toNat) (log10Guess b + 2)

/-- The estimate holds for all numbers of bits that floats have. -/
theorem guessHolds_range : ((List.range 2200).all fun i => guessHolds ((i : ℤ) - 1100)) = true := by
  decide +kernel

theorem log10Guess_bounds {b : ℤ} (hlow : -1100 ≤ b) (hhigh : b < 1100) :
    (10 : ℚ) ^ (log10Guess b - 1) ≤ 2 ^ b ∧ (2 : ℚ) ^ (b + 1) < 10 ^ (log10Guess b + 2) := by
  have htwo (c : ℤ) : ((Nat.pow 2 c.toNat : ℕ) : ℚ) / (Nat.pow 2 (-c).toNat : ℕ) = 2 ^ c := by
    rw [Nat.pow_eq, Nat.pow_eq, Nat.cast_pow, Nat.cast_pow, ← zpow_natCast, ← zpow_natCast, Nat.cast_ofNat,
      ← zpow_sub₀ (by norm_num)]
    congr 1
    omega
  have hpos (c : ℕ) : 0 < Nat.pow 2 c := Nat.two_pow_pos c
  have hentry := List.all_eq_true.mp guessHolds_range (b + 1100).toNat (List.mem_range.mpr (by omega))
  have hindex : ((b + 1100).toNat : ℤ) - 1100 = b := by omega
  simp only [hindex, guessHolds, Bool.and_eq_true, Bool.not_eq_true', ← Bool.not_eq_true,
    powerOfTenLe_iff (hpos _), htwo, not_le] at hentry
  exact hentry

/-- The decimal logarithm of the magnitude of a float, up to two. -/
theorem log10Floor_bounds (hgrid : OnGrid m q) (hq : q ≤ 971) (hm : 0 < m) :
    (10 : ℚ) ^ log10Floor (magnitudeNum m q) (magnitudeDen q) ≤ magnitude m q ∧
      magnitude m q < 10 ^ (log10Floor (magnitudeNum m q) (magnitudeDen q) + 3) := by
  have hden : 0 < magnitudeDen q := Nat.two_pow_pos _
  have hlow := hgrid.le
  have hbits : ((magnitudeNum m q).log2 : ℤ) - (magnitudeDen q).log2 = m.log2 + q := by
    have hnum : (magnitudeNum m q).log2 = m.log2 + q.toNat := log2_mul_two_pow hm.ne' _
    have hpow : (magnitudeDen q).log2 = (-q).toNat := Nat.log2_two_pow
    omega
  have hlog : m.log2 < 53 := (Nat.log2_lt hm.ne').mpr hgrid.lt
  obtain ⟨hbelow, habove⟩ := log10Guess_bounds (b := m.log2 + q) (by omega) (by omega)
  have hleast : (10 : ℚ) ^ (log10Guess (m.log2 + q) - 1) ≤ magnitude m q :=
    hbelow.trans (two_zpow_le_magnitude hm.ne')
  have hmost : magnitude m q < 10 ^ (log10Guess (m.log2 + q) + 2) := by
    refine lt_trans ?_ habove
    have hexp : (m.log2 : ℤ) + q + 1 = m.log2 + 1 + q := by ring
    rw [hexp]
    exact magnitude_lt_two_zpow
  have hmono {s t : ℤ} (hst : s ≤ t) : (10 : ℚ) ^ s ≤ 10 ^ t := zpow_le_zpow_right₀ (by norm_num) hst
  have hestimate : Int.fdiv (((m.log2 : ℤ) + q - 1) * 30103) 100000 = log10Guess (m.log2 + q) := rfl
  rw [log10Floor]
  simp only [hbits, hestimate, ten_zpow_le_iff hden, ← magnitude_eq_div, decide_eq_true_eq]
  split_ifs with hnext hafter hguess
  · exact ⟨hafter, hmost.trans_le (hmono (by omega))⟩
  · exact ⟨hnext, hmost.trans_le (hmono (by omega))⟩
  · exact ⟨hguess, hmost.trans_le (hmono (by omega))⟩
  · exact ⟨hleast, hmost.trans_le (hmono (by omega))⟩

/-! ### The search -/

/-- The first hit is returned, if there is one on the last grid. -/
theorem Interval.search_spec (i : Interval) (top : ℤ) {left : ℕ} : ∀ {tried : ℕ},
    (i.onGrid? (top - (tried + left : ℕ))).isSome = true → ∃ t : ℕ, t ≤ tried + left ∧
      (i.search top tried (left + 1)).2 = top - t ∧
      i.onGrid? (top - t) = some (i.search top tried (left + 1)).1 := by
  induction left with
  | zero =>
    intro tried h
    rw [Nat.add_zero] at h
    obtain ⟨n, hn⟩ := Option.isSome_iff_exists.mp h
    rw [search, hn]
    exact ⟨tried, le_refl _, rfl, hn⟩
  | succ left ih =>
    intro tried h
    rw [search]
    cases hhit : i.onGrid? (top - tried) with
    | some n => exact ⟨tried, by omega, rfl, hhit⟩
    | none =>
      have hnext : tried + 1 + left = tried + (left + 1) := by omega
      rw [← hnext] at h ⊢
      exact ih h

/-- The step of the seventeenth grid of a float is less than the width of its interval, and no more than the
float. -/
theorem last_step (hgrid : OnGrid m q) {top : ℤ} (htop : (10 : ℚ) ^ top ≤ magnitude m q) :
    decimal 1 (top - 16) ≤ magnitude (4 * m) (q - 2) ∧
      decimal 1 (top - 16) < magnitude (2 + reachBelow m q) (q - 2) := by
  have hquarter : magnitude (4 * m) (q - 2) = magnitude m q := by
    rw [mul_comm]
    exact magnitude_shift m q 2
  -- the step is one part in ten to the sixteenth of the value, and the value has at most 53 bits
  have hfine : decimal 1 (top - 16) * 10 ^ 16 ≤ magnitude (4 * m) (q - 2) := by
    have hstep : decimal 1 (top - 16) * 10 ^ 16 = 10 ^ top := by
      rw [decimal, Nat.cast_one, one_mul, ← zpow_natCast, ← zpow_add₀ (by norm_num)]
      congr 1
      omega
    rw [hstep, hquarter]
    exact htop
  have hpos : (0 : ℚ) < decimal 1 (top - 16) := by
    rw [decimal]
    positivity
  have hmany : magnitude (4 * m) (q - 2) < magnitude ((2 + reachBelow m q) * 10 ^ 16) (q - 2) := by
    have hlt := hgrid.lt
    refine magnitude_lt_iff.mpr ?_
    unfold reachBelow
    split <;> omega
  have hscaled : magnitude ((2 + reachBelow m q) * 10 ^ 16) (q - 2) =
      magnitude (2 + reachBelow m q) (q - 2) * 10 ^ 16 := by
    rw [magnitude, magnitude]
    push_cast
    ring
  constructor <;> linarith

/-- Seventeen digits suffice: the points of their grid lie closer together than the ends of the interval of
a float of that size. -/
theorem Interval.onGrid?_last (hgrid : OnGrid m q) (hm : 0 < m) {top : ℤ}
    (htop : (10 : ℚ) ^ top ≤ magnitude m q) :
    ((Interval.ofParts m q).onGrid? (top - 16)).isSome = true := by
  have hunit : 0 < 2 ^ q.toNat * 10 ^ (-(top - 16)).toNat := by positivity
  have hreach := reachBelow_le m q
  have hreach' : 1 ≤ reachBelow m q := by
    unfold reachBelow
    split <;> omega
  obtain ⟨hvalue, hstep⟩ := last_step hgrid htop
  rw [decimal_le_iff (m := m), one_mul] at hvalue
  rw [← not_le, le_decimal_iff (m := m), one_mul] at hstep
  have hmid : ((Interval.ofParts m q).scale (top - 16)).value =
      4 * m * 2 ^ q.toNat * 10 ^ (-(top - 16)).toNat := rfl
  simp only [mul_assoc _ (2 ^ q.toNat)] at hvalue hstep hmid
  refine onGrid?_isSome (ofParts_den_pos m q) ?_ ?_ ?_ ?_
  · rw [hmid]
    exact hvalue
  · rw [scale_low, hmid, mul_assoc _ (2 ^ q.toNat)]
    exact Nat.mul_lt_mul_of_pos_right (by omega) hunit
  · rw [scale_high, hmid, mul_assoc _ (2 ^ q.toNat)]
    exact Nat.mul_lt_mul_of_pos_right (by omega) hunit
  · rw [scale_low, scale_high, mul_assoc _ (2 ^ q.toNat), mul_assoc _ (2 ^ q.toNat)]
    have hsum : 4 * m + 2 = (4 * m - reachBelow m q) + (2 + reachBelow m q) := by omega
    rw [hsum, Nat.add_mul]
    omega

/-- A decimal in the interval of a float has few digits, unless it goes far behind the first digit of the
float. -/
theorem digits_lt (h : Nearest (decimal n k) m q) {top : ℤ} (htop : magnitude m q < 10 ^ (top + 3))
    (hk : top - 16 ≤ k) : n < 10 ^ 20 := by
  have hvalue : decimal n k < 10 ^ (top + 4) := by
    have hend : magnitude (4 * m + 2) (q - 2) ≤ magnitude (2 * m) q := by
      have hm := h.pos
      rw [← magnitude_shift (2 * m) q 2]
      exact magnitude_le_iff.mpr (by omega)
    have hdouble : magnitude (2 * m) q = 2 * magnitude m q := by
      rw [magnitude, magnitude]
      push_cast
      ring
    have hten : (10 : ℚ) ^ (top + 4) = 10 * 10 ^ (top + 3) := by
      have hexp : top + 4 = 1 + (top + 3) := by ring
      rw [hexp, zpow_add₀ (by norm_num), zpow_one]
    have hpos : (0 : ℚ) < 10 ^ (top + 3) := by positivity
    have hhigh := h.high
    linarith
  have hscale : (10 : ℚ) ^ (top - 16) ≤ 10 ^ k := zpow_le_zpow_right₀ (by norm_num) hk
  have hsplit : (10 : ℚ) ^ (top + 4) = 10 ^ 20 * 10 ^ (top - 16) := by
    rw [← zpow_natCast, ← zpow_add₀ (by norm_num)]
    congr 1
    omega
  have hpos : (0 : ℚ) < 10 ^ (top - 16) := by positivity
  have hdigits : (n : ℚ) < 10 ^ 20 := by
    refine lt_of_mul_lt_mul_right ?_ hpos.le
    rw [← hsplit]
    exact (mul_le_mul_of_nonneg_left hscale (Nat.cast_nonneg _)).trans_lt hvalue
  exact_mod_cast hdigits

/-- The decimal that stands for a float lies in the interval of the float and has few digits. -/
theorem shortest_nearest (hgrid : OnGrid m q) (hq : q ≤ 971) (hm : 0 < m) :
    Nearest (decimal (shortest m q).1 (shortest m q).2) m q ∧ (shortest m q).1 < 10 ^ 20 := by
  obtain ⟨top, htop⟩ : ∃ top, top = log10Floor (magnitudeNum m q) (magnitudeDen q) := ⟨_, rfl⟩
  have hfound : shortest m q = (Interval.ofParts m q).search top 0 (16 + 1) := by
    rw [htop]
    rfl
  obtain ⟨hlow, hhigh⟩ := log10Floor_bounds hgrid hq hm
  rw [← htop] at hlow hhigh
  have hlast : ((Interval.ofParts m q).onGrid? (top - (0 + 16 : ℕ))).isSome = true :=
    Interval.onGrid?_last hgrid hm hlow
  obtain ⟨t, ht, hexp, hhit⟩ := Interval.search_spec _ top hlast
  rw [← hfound] at hexp hhit
  have hnear := Interval.holds_scale hgrid hm (Interval.onGrid?_holds hhit)
  rw [← hexp] at hnear
  exact ⟨hnear, digits_lt hnear hhigh (by omega)⟩

end Backtest.Decimal
