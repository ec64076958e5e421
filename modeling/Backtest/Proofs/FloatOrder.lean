import Mathlib.Data.Prod.Lex
import Mathlib.Data.Int.Order.Basic

/-!
# The order of floats

Apart from the values that are no numbers, floats are compared by their sign and kind first, then by
exponent and mantissa, which a negative sign turns around. So they are ordered by a rank in a linear
order, and the two zeros share one.

* `FloatOrder.rank?`, the rank of a float; a value that is no number has none;
* `FloatOrder.compare_eq`, floats are compared by rank; `FloatOrder.lt_iff`, `FloatOrder.le_iff`,
  `FloatOrder.beq_iff`, `FloatOrder.isNaN_iff`;
* `FloatOrder.lt_trans`, `FloatOrder.le_or_isNaN`, `FloatOrder.lt_or_isNaN`, laws of the order;
* `FloatOrder.not_lt_of_beq_negInf`, nothing is below negative infinity.
-/

namespace Backtest.FloatOrder

open Float.Model

/-- Ranks: sign and kind, exponent, mantissa. -/
abbrev Rank := ℤ ×ₗ ℤ ×ₗ ℤ

/-- A rank from its parts. -/
def rankOf (kind exponent mantissa : ℤ) : Rank := toLex (kind, toLex (exponent, mantissa))

/-- The rank of an unpacked float. -/
def unpackedRank? : UnpackedFloat → Option Rank
  | .notANumber => none
  | .infinity .negative => some (rankOf (-2) 0 0)
  | .finite .negative m e _ => some (rankOf (-1) (-e) (-m))
  | .zero _ => some (rankOf 0 0 0)
  | .finite .positive m e _ => some (rankOf 1 e m)
  | .infinity .positive => some (rankOf 2 0 0)

/-- The rank of a float. -/
def rank? (x : Float) : Option Rank := unpackedRank? x.toModel.unpack

theorem compare_rankOf (k e m k' e' m' : ℤ) :
    compare (rankOf k e m) (rankOf k' e' m') =
      (compare k k').then ((compare e e').then (compare m m')) := rfl

theorem compare_neg_neg (a b : ℤ) : compare (-a) (-b) = (compare a b).swap := by
  rcases lt_trichotomy a b with h | rfl | h
  · rw [compare_lt_iff_lt.mpr h, compare_gt_iff_gt.mpr (by omega)]
    rfl
  · simp
  · rw [compare_gt_iff_gt.mpr h, compare_lt_iff_lt.mpr (by omega)]
    rfl

theorem compare_natCast (m n : ℕ) : compare (m : ℤ) (n : ℤ) = compare m n := by
  rcases lt_trichotomy m n with h | rfl | h
  · rw [compare_lt_iff_lt.mpr h, compare_lt_iff_lt.mpr (by omega)]
  · simp
  · rw [compare_gt_iff_gt.mpr h, compare_gt_iff_gt.mpr (by omega)]

/-- Unpacked floats are compared by rank. -/
theorem compare_eq (a b : UnpackedFloat) : a.compare b =
    (unpackedRank? a).bind fun x => (unpackedRank? b).map (compare x) := by
  -- only two finite floats of one sign need more than their kinds
  rcases a with ⟨_ | _⟩ | _ | _ | ⟨_ | _, m, e, hm⟩ <;>
    rcases b with ⟨_ | _⟩ | _ | _ | ⟨_ | _, n, f, hn⟩ <;> try rfl
  · show some ((compare e f).then (compare m n)).swap =
      some (compare (rankOf (-1) (-e) (-m)) (rankOf (-1) (-f) (-n)))
    rw [compare_rankOf, compare_neg_neg e f, compare_neg_neg m n, compare_natCast, Ordering.swap_then]
    rfl
  · show some ((compare e f).then (compare m n)) = some (compare (rankOf 1 e m) (rankOf 1 f n))
    rw [compare_rankOf, compare_natCast]
    rfl

variable {x y z : Float}

/-- The outcome of a comparison of floats. -/
theorem compare_beq_some {o : Ordering} :
    (x.toModel.unpack.compare y.toModel.unpack == some o) = true ↔
      ∃ a b, rank? x = some a ∧ rank? y = some b ∧ compare a b = o := by
  rw [compare_eq, beq_iff_eq]
  simp [rank?, Option.bind_eq_some_iff]

theorem lt_iff : x < y ↔ ∃ a b, rank? x = some a ∧ rank? y = some b ∧ a < b := by
  have h : x < y ↔ (x.toModel.unpack.compare y.toModel.unpack == some .lt) = true := by
    show decide (x.toModel < y.toModel) = true ↔ _
    rw [decide_eq_true_iff]
    rfl
  rw [h, compare_beq_some]
  simp only [compare_lt_iff_lt]

theorem beq_iff : (x == y) = true ↔ ∃ a b, rank? x = some a ∧ rank? y = some b ∧ a = b := by
  have h : (x == y) = (x.toModel.unpack.compare y.toModel.unpack == some .eq) := rfl
  rw [h, compare_beq_some]
  simp only [compare_eq_iff_eq]

theorem le_iff : x ≤ y ↔ ∃ a b, rank? x = some a ∧ rank? y = some b ∧ a ≤ b := by
  have h : x ≤ y ↔ (x.toModel.unpack.compare y.toModel.unpack).any (·.isLE) = true := by
    show decide (x.toModel ≤ y.toModel) = true ↔ _
    rw [decide_eq_true_iff]
    rfl
  rw [h, compare_eq]
  simp only [rank?]
  cases unpackedRank? x.toModel.unpack <;> cases unpackedRank? y.toModel.unpack <;>
    simp [← Ordering.ne_gt_iff_isLE, compare_le_iff_le]

theorem isNaN_iff : x.isNaN = true ↔ rank? x = none := by
  show x.toModel.unpack.isNaN = true ↔ unpackedRank? x.toModel.unpack = none
  rcases x.toModel.unpack with ⟨_ | _⟩ | _ | _ | ⟨_ | _, m, e, hm⟩
  case notANumber => exact iff_of_true rfl rfl
  all_goals exact iff_of_false Bool.false_ne_true (Option.some_ne_none _)

theorem lt_trans (hxy : x < y) (hyz : y < z) : x < z := by
  obtain ⟨a, b, ha, hb, hab⟩ := lt_iff.mp hxy
  obtain ⟨b', c, hb', hc, hbc⟩ := lt_iff.mp hyz
  obtain rfl := Option.some.inj (hb.symm.trans hb')
  exact lt_iff.mpr ⟨a, c, ha, hc, hab.trans hbc⟩

theorem lt_of_lt_of_beq (hxy : x < y) (hzy : (z == y) = true) : x < z := by
  obtain ⟨a, b, ha, hb, hab⟩ := lt_iff.mp hxy
  obtain ⟨c, b', hc, hb', rfl⟩ := beq_iff.mp hzy
  obtain rfl := Option.some.inj (hb.symm.trans hb')
  exact lt_iff.mpr ⟨a, b, ha, hc, hab⟩

theorem lt_of_lt_of_le (hxy : x < y) (hyz : y ≤ z) : x < z := by
  obtain ⟨a, b, ha, hb, hab⟩ := lt_iff.mp hxy
  obtain ⟨b', c, hb', hc, hbc⟩ := le_iff.mp hyz
  obtain rfl := Option.some.inj (hb.symm.trans hb')
  exact lt_iff.mpr ⟨a, c, ha, hc, hab.trans_le hbc⟩

theorem lt_irrefl (x : Float) : ¬ x < x := by
  intro h
  obtain ⟨a, b, ha, hb, hab⟩ := lt_iff.mp h
  obtain rfl := Option.some.inj (ha.symm.trans hb)
  exact Std.lt_irrefl hab

theorem exists_rank (hx : x.isNaN = false) : ∃ a, rank? x = some a := by
  refine Option.ne_none_iff_exists'.mp fun hnone => ?_
  exact Bool.false_ne_true (hx.symm.trans (isNaN_iff.mpr hnone))

theorem le_self (hx : x.isNaN = false) : x ≤ x := by
  obtain ⟨a, ha⟩ := exists_rank hx
  exact le_iff.mpr ⟨a, a, ha, ha, le_rfl⟩

/-- A number that another value does not exceed is at least that value, if it is a number too. -/
theorem le_or_isNaN (hx : x.isNaN = false) (h : ¬ x < y) : y ≤ x ∨ y.isNaN = true := by
  cases hb : rank? y with
  | none => exact .inr (isNaN_iff.mpr hb)
  | some b =>
    obtain ⟨a, ha⟩ := exists_rank hx
    refine .inl (le_iff.mpr ⟨b, a, hb, ha, not_lt.mp fun hab => ?_⟩)
    exact h (lt_iff.mpr ⟨a, b, ha, hb, hab⟩)

/-- A value that is not at most a number is above it, if it is a number too. -/
theorem lt_or_isNaN (hx : x.isNaN = false) (h : ¬ y ≤ x) : x < y ∨ y.isNaN = true := by
  cases hb : rank? y with
  | none => exact .inr (isNaN_iff.mpr hb)
  | some b =>
    obtain ⟨a, ha⟩ := exists_rank hx
    refine .inl (lt_iff.mpr ⟨a, b, ha, hb, not_le.mp fun hba => ?_⟩)
    exact h (le_iff.mpr ⟨b, a, hb, ha, hba⟩)

theorem beq_eq_false_of_lt (h : x < y) : (y == x) = false := by
  rw [Bool.eq_false_iff]
  intro hbeq
  obtain ⟨a, b, ha, hb, hab⟩ := lt_iff.mp h
  obtain ⟨b', a', hb', ha', rfl⟩ := beq_iff.mp hbeq
  obtain rfl := Option.some.inj (ha.symm.trans ha')
  obtain rfl := Option.some.inj (hb.symm.trans hb')
  exact Std.lt_irrefl hab

theorem beq_eq_false_of_isNaN (h : x.isNaN = true) : (x == y) = false := by
  rw [Bool.eq_false_iff]
  intro hbeq
  obtain ⟨a, -, ha, -, -⟩ := beq_iff.mp hbeq
  simp [isNaN_iff.mp h] at ha

theorem isNaN_eq_false_of_gt (h : x < y) : x.isNaN = false := by
  obtain ⟨a, -, ha, -, -⟩ := lt_iff.mp h
  rw [Bool.eq_false_iff, ne_eq, isNaN_iff, ha]
  simp

theorem isNaN_eq_false_of_lt (h : x < y) : y.isNaN = false := by
  obtain ⟨-, b, -, hb, -⟩ := lt_iff.mp h
  rw [Bool.eq_false_iff, ne_eq, isNaN_iff, hb]
  simp

/-- No rank is below that of negative infinity. -/
theorem not_lt_lowest {u : UnpackedFloat} {a : Rank} (h : unpackedRank? u = some a) :
    ¬ a < rankOf (-2) 0 0 := by
  rcases u with ⟨_ | _⟩ | _ | _ | ⟨_ | _, m, e, hm⟩
  case notANumber => exact absurd h (Option.some_ne_none a).symm
  all_goals
    obtain rfl := Option.some.inj h
    simp [rankOf, Prod.Lex.toLex_lt_toLex]

theorem not_lt_of_beq_negInf (h : (y == -(1.0 / 0.0)) = true) : ¬ x < y := by
  have hrank : rank? (-(1.0 / 0.0)) = some (rankOf (-2) 0 0) := by decide +kernel
  obtain ⟨b, c, hb, hc, rfl⟩ := beq_iff.mp h
  obtain rfl := Option.some.inj (hrank.symm.trans hc)
  intro hlt
  obtain ⟨a, b', ha, hb', hab⟩ := lt_iff.mp hlt
  obtain rfl := Option.some.inj (hb.symm.trans hb')
  exact not_lt_lowest ha hab

end Backtest.FloatOrder
