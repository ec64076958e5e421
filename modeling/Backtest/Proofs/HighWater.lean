import Backtest.Simulation
import Mathlib.Algebra.Order.Field.Basic
import Mathlib.Algebra.Order.Ring.Rat
import Mathlib.Data.List.Induction
import Mathlib.Order.Bounds.Basic
import Mathlib.Tactic.Linarith
import Mathlib.Tactic.Positivity
import Mathlib.Tactic.Ring

/-!
# The high-water mark

An account keeps three numbers of its equities: the high, the low since the high was last raised, and the
deepest drawdown. In exact arithmetic they tell of all equities that were noted, as if every equity had
been measured against the highest one up to it.

* `Price.exact`, rational numbers as prices, and what the operations on a drawdown are there;
* `Drawdown.drawdowns`, every equity measured against the highest up to it; `Drawdown.Measures`, what the
  three numbers are; `Measures.observe`, one more equity; `Drawdown.measures_foldl`, all of them;
* `Simulation.Noting`, an account that notes equities, whatever else happens to it;
* `Simulation.drawdown_measured`, the main statement.
-/

namespace Backtest

/-- Rational numbers as prices. -/
instance Price.exact : Price ℚ where
  ofNat n := n
  decideLT := inferInstance

namespace Price

theorem smaller_exact (a b : ℚ) : smaller a b = min a b := by
  unfold smaller
  by_cases h : b < a
  · rw [if_pos h, min_eq_right (le_of_lt h)]
  · rw [if_neg h, min_eq_left (not_lt.mp h)]

end Price

namespace Drawdown

variable {deposit : ℚ} {es : List ℚ} {d : Drawdown ℚ}

/-! ### Operations -/

theorem between_exact (high low : ℚ) : between high low = 100 * (low / high) - 100 := by
  show -((100 : ℕ) - low / high * (100 : ℕ)) = 100 * (low / high) - 100
  push_cast
  ring

theorem note_of_lt {e : ℚ} (h : d.high < e) : d.note e = { d with high := e, low := e } := if_pos h

theorem note_of_le {e : ℚ} (h : e ≤ d.high) : d.note e = { d with low := min d.low e } := by
  rw [← Price.smaller_exact]
  exact if_neg (not_lt.mpr h)

theorem high_note (d : Drawdown ℚ) (e : ℚ) : (d.note e).high = max e d.high := by
  rcases lt_or_ge d.high e with h | h
  · rw [note_of_lt h, max_eq_left (le_of_lt h)]
  · rw [note_of_le h, max_eq_right h]

theorem deepest_note (d : Drawdown ℚ) (e : ℚ) : (d.note e).deepest = d.deepest := by
  rcases lt_or_ge d.high e with h | h
  · rw [note_of_lt h]
  · rw [note_of_le h]

theorem observe_exact (d : Drawdown ℚ) (e : ℚ) :
    d.observe e = { d.note e with deepest := min (d.note e).current d.deepest } := by
  have hkept := deepest_note d e
  unfold observe
  simp only
  by_cases h : (d.note e).current < (d.note e).deepest
  · rw [if_pos h, min_eq_left (le_of_lt (hkept ▸ h))]
  · rw [if_neg h, min_eq_right (hkept ▸ not_lt.mp h), ← hkept]

/-! ### All equities -/

/-- The drawdowns of equities, each below the highest of the deposit and the equities up to it. -/
def drawdowns (deposit : ℚ) (es : List ℚ) : Set ℚ :=
  {x | ∃ (j : ℕ) (e high : ℚ), es[j]? = some e ∧
    IsGreatest {y | y ∈ deposit :: es.take (j + 1)} high ∧ x = 100 * (e / high) - 100}

/-- What a drawdown says of a deposit and the equities noted since. The high is the highest of them all.
The low is the lowest from where the high was first reached, which is the deposit if no equity raised it.
The deepest drawdown is the least of zero and the drawdowns of all equities. -/
structure Measures (deposit : ℚ) (es : List ℚ) (d : Drawdown ℚ) : Prop where
  high : IsGreatest {x | x ∈ deposit :: es} d.high
  low : ∃ before after, deposit :: es = before ++ d.high :: after ∧ (∀ x ∈ before, x < d.high) ∧
    IsLeast {x | x ∈ d.high :: after} d.low
  deepest : IsLeast (insert 0 (drawdowns deposit es)) d.deepest

theorem measures_start (deposit : ℚ) : (start deposit).Measures deposit [] where
  high := by simp [start]
  low := ⟨[], [], rfl, by simp, by simp [start]⟩
  deepest := by
    have hnone : drawdowns deposit [] = ∅ := by simp [drawdowns]
    rw [hnone]
    simp [start, Price.zero, Price.ofNat]

theorem setOf_mem_concat (xs : List ℚ) (e : ℚ) : {x | x ∈ xs ++ [e]} = insert e {x | x ∈ xs} := by
  ext x
  simp [or_comm]

/-- One more equity adds its drawdown. -/
theorem drawdowns_concat {e high : ℚ} (h : IsGreatest {x | x ∈ deposit :: (es ++ [e])} high) :
    drawdowns deposit (es ++ [e]) = insert (100 * (e / high) - 100) (drawdowns deposit es) := by
  ext x
  simp only [drawdowns, Set.mem_insert_iff, Set.mem_ofPred_eq]
  constructor
  · rintro ⟨j, f, g, hf, hg, rfl⟩
    rcases Nat.lt_or_ge j es.length with hj | hj
    · rw [List.getElem?_append_left hj] at hf
      rw [List.take_append_of_le_length hj] at hg
      exact .inr ⟨j, f, g, hf, hg, rfl⟩
    · -- the equity behind all others is the new one, and it is measured against the high of them all
      rw [List.getElem?_append_right hj, List.getElem?_singleton] at hf
      have hlast : j = es.length := by
        by_contra hne
        rw [if_neg (by omega)] at hf
        exact absurd hf (by simp)
      rw [hlast, Nat.sub_self, if_pos rfl] at hf
      rw [hlast, List.take_of_length_le (by simp)] at hg
      rw [Option.some.inj hf, h.unique hg]
      exact .inl rfl
  · rintro (rfl | ⟨j, f, g, hf, hg, rfl⟩)
    · refine ⟨es.length, e, high, by simp, ?_, rfl⟩
      rwa [List.take_of_length_le (by simp)]
    · have hj := (List.getElem?_eq_some_iff.mp hf).1
      refine ⟨j, f, g, ?_, ?_, rfl⟩
      · rwa [List.getElem?_append_left hj]
      · rwa [List.take_append_of_le_length hj]

namespace Measures

theorem high_note (h : d.Measures deposit es) (e : ℚ) :
    IsGreatest {x | x ∈ deposit :: (es ++ [e])} (d.note e).high := by
  rw [Drawdown.high_note, ← List.cons_append, setOf_mem_concat]
  exact h.high.insert e

theorem high_pos (h : d.Measures deposit es) (hdeposit : 0 < deposit) : 0 < d.high :=
  lt_of_lt_of_le hdeposit (h.high.2 List.mem_cons_self)

/-- An equity above the high raises it and is the low from then on; any other may lower the low. -/
theorem low_note (h : d.Measures deposit es) (e : ℚ) :
    ∃ before after, deposit :: (es ++ [e]) = before ++ (d.note e).high :: after ∧
      (∀ x ∈ before, x < (d.note e).high) ∧ IsLeast {x | x ∈ (d.note e).high :: after} (d.note e).low := by
  rcases lt_or_ge d.high e with he | he
  · rw [note_of_lt he]
    refine ⟨deposit :: es, [], rfl, fun x hx => lt_of_le_of_lt (h.high.2 hx) he, by simp⟩
  · obtain ⟨before, after, hsplit, hbefore, hleast⟩ := h.low
    rw [note_of_le he]
    refine ⟨before, after ++ [e], ?_, hbefore, ?_⟩
    · rw [← List.cons_append, hsplit, List.append_assoc, List.cons_append]
    · rw [← List.cons_append, setOf_mem_concat, min_comm]
      exact hleast.insert e

/-- The low decides whether an equity is the deepest fall so far. -/
theorem min_current_note (h : d.Measures deposit es) (hdeposit : 0 < deposit)
    (hcurrent : d.deepest ≤ d.current) (e : ℚ) :
    min (d.note e).current d.deepest = min (100 * (e / (d.note e).high) - 100) d.deepest := by
  rw [current, between_exact]
  rcases lt_or_ge d.high e with he | he
  · rw [note_of_lt he]
  · rw [note_of_le he]
    rcases le_total e d.low with hlow | hlow
    · rw [min_eq_right hlow]
    · -- neither the low nor the equity is below the deepest drawdown
      rw [current, between_exact] at hcurrent
      have hhigh := h.high_pos hdeposit
      have hdiv : d.low / d.high ≤ e / d.high := by gcongr
      rw [min_eq_left hlow, min_eq_right hcurrent, min_eq_right (by linarith)]

/-- The numbers are kept by one more equity. -/
theorem observe (h : d.Measures deposit es) (hdeposit : 0 < deposit)
    (hcurrent : d.deepest ≤ d.current) (e : ℚ) : (d.observe e).Measures deposit (es ++ [e]) := by
  rw [observe_exact]
  refine ⟨h.high_note e, h.low_note e, ?_⟩
  rw [h.min_current_note hdeposit hcurrent, drawdowns_concat (h.high_note e), Set.insert_comm]
  exact h.deepest.insert _

theorem deepest_nonpos (h : d.Measures deposit es) : d.deepest ≤ 0 :=
  h.deepest.2 (Set.mem_insert _ _)

end Measures

theorem deepest_observe_le (d : Drawdown ℚ) (e : ℚ) : (d.observe e).deepest ≤ d.deepest := by
  rw [observe_exact]
  exact min_le_right _ _

theorem deepest_le_current_observe (d : Drawdown ℚ) (e : ℚ) :
    (d.observe e).deepest ≤ (d.observe e).current := by
  rw [observe_exact]
  exact min_le_left _ _

/-- The equities that are noted from the deposit on are measured. -/
theorem measures_foldl (hdeposit : 0 < deposit) (es : List ℚ) :
    let d := es.foldl observe (start deposit)
    d.Measures deposit es ∧ d.deepest ≤ d.current := by
  induction es using List.reverseRecOn with
  | nil =>
    refine ⟨measures_start deposit, ?_⟩
    show (start deposit).deepest ≤ (start deposit).current
    rw [current, between_exact]
    simp [start, hdeposit.ne', Price.zero, Price.ofNat]
  | append_singleton es e ih =>
    rw [List.foldl_append]
    exact ⟨ih.1.observe hdeposit ih.2 e, deepest_le_current_observe _ e⟩

end Drawdown

namespace Simulation

/-- An account leads to another by noting some equities one after the other. Between the notes anything may
happen to it, except to the drawdown and the settings. -/
inductive Noting {α : Type} [Price α] (s : Simulation α) : List α → Simulation α → Prop
  | refl : Noting s [] s
  | meanwhile {es : List α} {s' s'' : Simulation α} (h : Noting s es s')
      (hdrawdown : s''.drawdown = s'.drawdown) (hsettings : s''.settings = s'.settings) : Noting s es s''
  | note {es : List α} {s' : Simulation α} (h : Noting s es s') :
      Noting s (es ++ [s'.equity]) s'.updateDrawdown

section

variable {α : Type} [Price α] {s s' : Simulation α} {es : List α}

/-- Trades are opened between the notes. -/
theorem Noting.openTrade (h : s.Noting es s') (ids : Ids) (d : Direction) (t : Tick α) :
    s.Noting es (s'.openTrade ids d t).2.1 :=
  h.meanwhile rfl rfl

/-- Ticks are observed between the notes. -/
theorem Noting.observe (h : s.Noting es s') (t : Tick α) : s.Noting es (s'.observe t) :=
  h.meanwhile rfl rfl

theorem Noting.settings (h : s.Noting es s') : s'.settings = s.settings := by
  induction h with
  | refl => rfl
  | meanwhile h hdrawdown hsettings ih => exact hsettings.trans ih
  | note h ih => exact ih

/-- What an account keeps of its equities is told by these alone. -/
theorem Noting.drawdown_eq (h : s.Noting es s') :
    s'.drawdown = es.foldl Drawdown.observe s.drawdown := by
  induction h with
  | refl => rfl
  | meanwhile h hdrawdown hsettings ih => exact hdrawdown.trans ih
  | note h ih =>
    rw [List.foldl_append, ← ih]
    rfl

end

variable {s s' : Simulation ℚ} {settings : Settings ℚ} {es : List ℚ}

/-- The deepest drawdown never becomes less deep. -/
theorem Noting.deepest_le (h : s.Noting es s') : s'.drawdown.deepest ≤ s.drawdown.deepest := by
  induction h with
  | refl => exact le_refl _
  | meanwhile h hdrawdown hsettings ih => exact hdrawdown ▸ ih
  | note h ih => exact (Drawdown.deepest_observe_le _ _).trans ih

/-- Over a deposit above zero and any equities, the three numbers are their high, the low since that was
last raised, and the least of zero and all drawdowns. They are what a new account keeps that has noted the
equities. Whatever it notes further, the deepest drawdown never rises, and an account that has fallen too
far has done so for good. -/
theorem drawdown_measured (hdeposit : 0 < settings.deposit) (es : List ℚ) :
    let d := es.foldl Drawdown.observe (Drawdown.start settings.deposit)
    d.Measures settings.deposit es ∧ d.deepest ≤ 0 ∧
      ∀ (id : ℕ) (sample : Sample) (charts : List (Chart ℚ)) (s : Simulation ℚ),
        (new id sample settings charts).Noting es s → s.drawdown = d ∧
          ∀ (further : List ℚ) (s' : Simulation ℚ), s.Noting further s' →
            s'.drawdown.deepest ≤ s.drawdown.deepest ∧ (s.exceeded = true → s'.exceeded = true) := by
  intro d
  obtain ⟨hmeasures, -⟩ := Drawdown.measures_foldl hdeposit es
  refine ⟨hmeasures, hmeasures.deepest_nonpos, ?_⟩
  intro id sample charts s hs
  refine ⟨hs.drawdown_eq, ?_⟩
  intro further s' hfurther
  have hdeepest := hfurther.deepest_le
  refine ⟨hdeepest, fun hexceeded => ?_⟩
  unfold exceeded at hexceeded ⊢
  rw [hfurther.settings]
  exact decide_eq_true (lt_of_le_of_lt hdeepest (of_decide_eq_true hexceeded))

/-- An account of 10000 that buys at one, and sees the bid rise to two and fall back to one and a half, has
fallen by a quarter, which is too far for good. -/
theorem drawdown_measured_fall :
    let settings : Settings ℚ := { deposit := 10000, drawdownLimit := -10, jpyQuote := false }
    ∃ s, (new 1 .inSample settings []).Noting [10000, 20000, 15000] s ∧
      s.drawdown.high = 20000 ∧ s.drawdown.low = 15000 ∧ s.drawdown.deepest = -25 ∧
      s.drawdown.Measures 10000 [10000, 20000, 15000] ∧
      ∀ (further : List ℚ) (s' : Simulation ℚ), s.Noting further s' → s'.exceeded = true := by
  intro settings
  let quote (x : ℚ) : Tick ℚ := { time := .ofMoment .epoch, bid := x, ask := x }
  let s₁ := (new 1 .inSample settings []).updateDrawdown
  let s₂ := (s₁.openTrade .first .long (quote 1)).2.1.observe (quote 2)
  let s₃ := s₂.updateDrawdown.observe (quote (3 / 2))
  have hnoting : (new 1 .inSample settings []).Noting
      ([] ++ [(new 1 .inSample settings []).equity] ++ [s₂.equity] ++ [s₃.equity]) s₃.updateDrawdown :=
    ((Noting.refl.note.openTrade _ _ _).observe _).note.observe _ |>.note
  have hequities : [] ++ [(new 1 .inSample settings []).equity] ++ [s₂.equity] ++ [s₃.equity] =
      [10000, 20000, 15000] := by
    decide +kernel
  rw [hequities] at hnoting
  have hdeposit : 0 < settings.deposit := by norm_num [settings]
  obtain ⟨hmeasures, -, hkept⟩ := drawdown_measured hdeposit [10000, 20000, 15000]
  obtain ⟨hdrawdown, hlater⟩ := hkept _ _ _ _ hnoting
  rw [← hdrawdown] at hmeasures
  refine ⟨s₃.updateDrawdown, hnoting, by decide +kernel, by decide +kernel, by decide +kernel, hmeasures, ?_⟩
  intro further s' hfurther
  exact (hlater further s' hfurther).2 (by decide +kernel)

end Simulation

end Backtest
