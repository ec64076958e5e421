import Backtest.Json.Reading
import Backtest.Json.Writing
import Backtest.Proofs.Pieces
import Backtest.Proofs.ShortestDecimal

/-!
# Numbers in JSON

A written number is read as the number that was written. A number has a sign, digits before a point, digits
behind it and an exponent; it ends where what follows can belong to none of them. Whole numbers have only
digits. A float is written by its shortest decimal, in one of four layouts that say the same decimal, and
that decimal is read as the float.

* `Decimal.Numeral`, the parts of a number; `Json.readNumber?_text`, the number that is read of them;
* `Decimal.Says`, the parts of the text of a decimal; `Decimal.exists_says`, every layout has them;
* `Json.PlainText`, the text of a value that is not nested; `Json.PlainText.readPlain?_eq`, what is read of
  it; `Json.plainText_whole`, `Json.plainText_real`, whole numbers and floats.
-/

namespace Backtest

open Text Decimal FloatOrder

namespace Decimal

variable {cs ds es : List Char} {n : ℕ}

/-! ### Digits -/

theorem foldl_digits (ds : List Char) (n : ℕ) :
    ds.foldl (fun n c => 10 * n + (c.toNat - 48)) n = n * 10 ^ ds.length + digitsValue ds := by
  induction ds generalizing n with
  | nil => simp [digitsValue]
  | cons d ds ih =>
    rw [digitsValue, List.foldl_cons, List.foldl_cons, ih, ih (10 * 0 + _), List.length_cons]
    ring

/-- The value of digits behind others. -/
theorem digitsValue_append (ds es : List Char) :
    digitsValue (ds ++ es) = digitsValue ds * 10 ^ es.length + digitsValue es := by
  rw [digitsValue, List.foldl_append, foldl_digits es]
  rfl

theorem digitsValue_zeros (k : ℕ) : digitsValue (List.replicate k '0') = 0 := by
  induction k with
  | zero => rfl
  | succ k ih => exact ih

theorem digitsValue_zeros_append (k : ℕ) (ds : List Char) :
    digitsValue (List.replicate k '0' ++ ds) = digitsValue ds := by
  rw [digitsValue_append, digitsValue_zeros, Nat.zero_mul, Nat.zero_add]

theorem digitsValue_append_zeros (ds : List Char) (k : ℕ) :
    digitsValue (ds ++ List.replicate k '0') = digitsValue ds * 10 ^ k := by
  rw [digitsValue_append, digitsValue_zeros, Nat.add_zero, List.length_replicate]

theorem digitsValue_repr (n : ℕ) : digitsValue n.repr.toList = n := by
  rw [Nat.toList_repr]
  exact Nat.ofDigitChars_ten_toDigits

theorem isPlainDigit_of_mem_zeros {k : ℕ} : ∀ c ∈ List.replicate k '0', isPlainDigit c = true := by
  intro c hc
  rw [List.eq_of_mem_replicate hc]
  rfl

/-- The digits of a number that is not zero start with none. -/
theorem exists_repr_cons (hn : n ≠ 0) : ∃ d ds, n.repr.toList = d :: ds ∧ d ≠ '0' := by
  rw [Nat.toList_repr]
  induction n using Nat.strong_induction_on with
  | _ n ih =>
    by_cases hsmall : n < 10
    · rw [Nat.toDigits_of_lt_base hsmall]
      have hone : ∀ i < 10, i ≠ 0 → Nat.digitChar i ≠ '0' := by decide
      exact ⟨_, [], rfl, hone n hsmall hn⟩
    · obtain ⟨d, ds, hds, hd⟩ := ih (n / 10) (by omega) (by omega)
      rw [Nat.toDigits_of_base_le (by decide) (by omega), hds]
      exact ⟨d, _, rfl, hd⟩

/-- The characters stop what a test goes through: the first of them, if there is one, fails it. -/
def Stops (p : Char → Bool) (cs : List Char) : Prop := ∀ c ∈ cs.head?, p c = false

theorem stops_cons {p : Char → Bool} {c : Char} : Stops p (c :: cs) ↔ p c = false := by
  simp [Stops]

theorem takeWhile_append_stops {p : Char → Bool} (hds : ∀ c ∈ ds, p c = true) (hcs : Stops p cs) :
    (ds ++ cs).takeWhile p = ds ∧ (ds ++ cs).dropWhile p = cs := by
  rw [List.takeWhile_append_of_pos hds, List.dropWhile_append_of_pos hds]
  cases cs with
  | nil => exact ⟨List.append_nil ds, rfl⟩
  | cons c cs =>
    have hc := stops_cons.mp hcs
    rw [List.takeWhile_cons_of_neg (by rw [hc]; decide), List.dropWhile_cons_of_neg (by rw [hc]; decide)]
    exact ⟨List.append_nil ds, rfl⟩

/-! ### The parts of a number -/

/-- A number as it is written: a sign, the digits before and behind the point, and an exponent. -/
structure Numeral where
  negative : Bool
  whole : List Char
  places : List Char
  /-- Whether the exponent is negative, and its digits. -/
  exponent : Option (Bool × List Char)

namespace Numeral

/-- The text of an exponent. -/
def exponentText : Option (Bool × List Char) → List Char
  | none => []
  | some (negative, ds) => 'e' :: (if negative then '-' else '+') :: ds

/-- The text of the digits behind the point. -/
def placesText (ds : List Char) : List Char := if ds.isEmpty then [] else '.' :: ds

/-- The text of a number without its sign. -/
def magnitudeText (w : Numeral) : List Char := w.whole ++ (placesText w.places ++ exponentText w.exponent)

/-- The digits of a number as one number. -/
def digits (w : Numeral) : ℕ := digitsValue (w.whole ++ w.places)

/-- The value of an exponent. -/
def exponentValue : Option (Bool × List Char) → ℤ
  | none => 0
  | some (negative, ds) => signed negative (digitsValue ds)

/-- The power of ten that the digits count. -/
def power (w : Numeral) : ℤ := exponentValue w.exponent - w.places.length

/-- Whether a number has only digits. -/
def isWhole (w : Numeral) : Bool := w.places.isEmpty && w.exponent.isNone

/-- The value of a number. -/
def value (w : Numeral) : Value :=
  if w.isWhole then .whole (signed w.negative (digitsValue w.whole))
  else .real (ofDecimal w.negative w.digits w.power)

/-- A number that is written as it should be: digits where they belong, at least one before the point, and
no zero in front of others. -/
structure Proper (w : Numeral) : Prop where
  whole : ∀ c ∈ w.whole, isPlainDigit c = true
  first : w.whole = ['0'] ∨ ∃ d ds, w.whole = d :: ds ∧ d ≠ '0'
  places : ∀ c ∈ w.places, isPlainDigit c = true
  exponent : ∀ x ∈ w.exponent, x.2 ≠ [] ∧ ∀ c ∈ x.2, isPlainDigit c = true

end Numeral

/-! ### The text of a decimal -/

/-- Taking trailing zeros away keeps the decimal. -/
theorem dropZeros_spec (fuel n : ℕ) (e : ℤ) :
    decimal (dropZeros fuel n e).1 (dropZeros fuel n e).2 = decimal n e ∧ (dropZeros fuel n e).1 ≤ n ∧
      (n ≠ 0 → (dropZeros fuel n e).1 ≠ 0) := by
  induction fuel generalizing n e with
  | zero => exact ⟨rfl, le_refl _, id⟩
  | succ fuel ih =>
    rw [dropZeros]
    split
    · rename_i hzero
      rw [Bool.and_eq_true, bne_iff_ne, beq_iff_eq] at hzero
      obtain ⟨hvalue, hle, hne⟩ := ih (n / 10) (e + 1)
      refine ⟨hvalue.trans ?_, by omega, fun _ => hne (by omega)⟩
      have hsplit : n = n / 10 * 10 := by omega
      have hcast : (n : ℚ) = (n / 10 : ℕ) * 10 := by exact_mod_cast hsplit
      rw [decimal, decimal, hcast, zpow_add₀ (by norm_num), zpow_one]
      ring
    · exact ⟨rfl, le_refl _, id⟩

/-- The text of a magnitude says the decimal: it has digits behind the point or an exponent, and not too
many digits. -/
structure Says (cs : List Char) (n : ℕ) (e : ℤ) (w : Numeral) : Prop where
  proper : w.Proper
  text : w.magnitudeText = cs
  real : w.isWhole = false
  value : decimal w.digits w.power = decimal n e
  bound : w.digits < 2 ^ 113

section Layouts

variable {m : ℕ} {e f : ℤ} (negative : Bool)

theorem length_repr_pos (m : ℕ) : 0 < m.repr.toList.length := by
  rw [Nat.toList_repr]
  exact Nat.length_toDigits_pos

theorem lt_pow_length (m : ℕ) : m < 10 ^ m.repr.toList.length := by
  have hpos := length_repr_pos m
  rw [Nat.toList_repr] at hpos ⊢
  exact (Nat.length_toDigits_le_iff (by decide) hpos).mp (le_refl _)

theorem isPlainDigit_append (hds : ∀ c ∈ ds, isPlainDigit c = true) (hes : ∀ c ∈ es, isPlainDigit c = true) :
    ∀ c ∈ ds ++ es, isPlainDigit c = true := by
  intro c hc
  rcases List.mem_append.mp hc with hc | hc
  · exact hds c hc
  · exact hes c hc

/-- A whole number: zeros behind the digits, and one behind the point. -/
theorem says_whole (hm : m ≠ 0) (hf : 0 ≤ f) (htop : f + m.repr.toList.length - 1 < 16) :
    ∃ w : Numeral, w.negative = negative ∧
      Says (m.repr.toList ++ List.replicate f.toNat '0' ++ ['.', '0']) m f w := by
  obtain ⟨d, ds, hcons, hd⟩ := exists_repr_cons hm
  have hdigits : digitsValue (m.repr.toList ++ List.replicate f.toNat '0' ++ ['0']) = m * 10 ^ (f.toNat + 1) := by
    rw [digitsValue_append, digitsValue_append_zeros, digitsValue_repr, pow_succ, ← mul_assoc]
    rfl
  refine ⟨⟨negative, m.repr.toList ++ List.replicate f.toNat '0', ['0'], none⟩, rfl, ⟨?_, .inr ?_, ?_, ?_⟩,
    rfl, rfl, ?_, ?_⟩
  · exact isPlainDigit_append (isPlainDigit_repr m) isPlainDigit_of_mem_zeros
  · rw [hcons]
    exact ⟨d, _, rfl, hd⟩
  · exact isPlainDigit_of_mem_zeros (k := 1)
  · intro x hx
    exact absurd hx (by simp)
  · show decimal (digitsValue _) (0 - (1 : ℕ)) = _
    rw [hdigits, decimal, decimal, Nat.cast_mul, Nat.cast_pow, mul_assoc, Nat.cast_ofNat, ← zpow_natCast,
      ← zpow_add₀ (by norm_num)]
    congr 2
    push_cast
    omega
  · show digitsValue _ < _
    rw [hdigits]
    calc m * 10 ^ (f.toNat + 1) < 10 ^ m.repr.toList.length * 10 ^ (f.toNat + 1) :=
          Nat.mul_lt_mul_of_pos_right (lt_pow_length m) (Nat.pow_pos (by decide))
      _ = 10 ^ (m.repr.toList.length + (f.toNat + 1)) := (pow_add _ _ _).symm
      _ ≤ 10 ^ 17 := Nat.pow_le_pow_right (by decide) (by omega)
      _ < 2 ^ 113 := by norm_num

/-- A point between the digits. -/
theorem says_mixed (hm : m ≠ 0) (hbound : m < 2 ^ 113) (hf : f < 0) {k : ℕ} (hk : 0 < k)
    (hlength : (k : ℤ) = m.repr.toList.length + f) :
    ∃ w : Numeral, w.negative = negative ∧
      Says (m.repr.toList.take k ++ '.' :: m.repr.toList.drop k) m f w := by
  obtain ⟨d, ds, hcons, hd⟩ := exists_repr_cons hm
  have hall := isPlainDigit_repr m
  have hrest : m.repr.toList.drop k ≠ [] := by
    intro hnil
    have := List.drop_eq_nil_iff.mp hnil
    omega
  have hrest' : (m.repr.toList.drop k).isEmpty = false := List.isEmpty_eq_false_iff.mpr hrest
  refine ⟨⟨negative, m.repr.toList.take k, m.repr.toList.drop k, none⟩, rfl, ⟨?_, .inr ?_, ?_, ?_⟩,
    ?_, ?_, ?_, ?_⟩
  · exact fun c hc => hall c (List.mem_of_mem_take hc)
  · obtain ⟨i, rfl⟩ : ∃ i, k = i + 1 := ⟨k - 1, by omega⟩
    rw [hcons]
    exact ⟨d, _, rfl, hd⟩
  · exact fun c hc => hall c (List.mem_of_mem_drop hc)
  · intro x hx
    exact absurd hx (by simp)
  · rw [Numeral.magnitudeText, Numeral.placesText, if_neg (by rw [hrest']; decide)]
    exact congrArg _ (List.append_nil _)
  · rw [Numeral.isWhole, hrest']
    rfl
  · show decimal (digitsValue _) (0 - (m.repr.toList.drop k).length) = _
    rw [List.take_append_drop, digitsValue_repr, List.length_drop]
    congr 1
    omega
  · show digitsValue _ < _
    rw [List.take_append_drop, digitsValue_repr]
    exact hbound

/-- A zero before the point, and zeros behind it. -/
theorem says_fraction (hbound : m < 2 ^ 113) {k : ℕ} (hlength : (k : ℤ) + m.repr.toList.length = -f) :
    ∃ w : Numeral, w.negative = negative ∧
      Says ('0' :: '.' :: (List.replicate k '0' ++ m.repr.toList)) m f w := by
  have hpos := length_repr_pos m
  have hrest : (List.replicate k '0' ++ m.repr.toList).isEmpty = false := by
    rw [List.isEmpty_eq_false_iff]
    intro hnil
    have := congrArg List.length hnil
    rw [List.length_append, List.length_nil] at this
    omega
  have hvalue : digitsValue ('0' :: (List.replicate k '0' ++ m.repr.toList)) = m := by
    have hzeros := digitsValue_zeros_append (k + 1) m.repr.toList
    rw [digitsValue_repr] at hzeros
    exact hzeros
  refine ⟨⟨negative, ['0'], List.replicate k '0' ++ m.repr.toList, none⟩, rfl, ⟨?_, .inl rfl, ?_, ?_⟩,
    ?_, ?_, ?_, ?_⟩
  · exact isPlainDigit_of_mem_zeros (k := 1)
  · exact isPlainDigit_append isPlainDigit_of_mem_zeros (isPlainDigit_repr m)
  · intro x hx
    exact absurd hx (by simp)
  · rw [Numeral.magnitudeText, Numeral.placesText, if_neg (by rw [hrest]; decide)]
    exact congrArg ('0' :: ·) (List.append_nil _)
  · rw [Numeral.isWhole, hrest]
    rfl
  · show decimal (digitsValue ('0' :: (List.replicate k '0' ++ m.repr.toList)))
      (0 - (List.replicate k '0' ++ m.repr.toList).length) = _
    rw [hvalue, List.length_append, List.length_replicate]
    congr 1
    push_cast
    omega
  · show digitsValue ('0' :: (List.replicate k '0' ++ m.repr.toList)) < _
    rw [hvalue]
    exact hbound

theorem digitsValue_paddedNat (width n : ℕ) : digitsValue (paddedNat width n) = n := by
  show digitsValue (List.replicate _ '0' ++ n.repr.toList) = n
  rw [digitsValue_zeros_append, digitsValue_repr]

theorem isPlainDigit_paddedNat (width n : ℕ) : ∀ c ∈ paddedNat width n, isPlainDigit c = true :=
  isPlainDigit_append isPlainDigit_of_mem_zeros (isPlainDigit_repr n)

theorem paddedNat_ne_nil (width n : ℕ) : paddedNat width n ≠ [] := by
  intro hnil
  have hpos := length_repr_pos n
  have hlength := congrArg List.length hnil
  change (List.replicate _ '0' ++ n.repr.toList).length = 0 at hlength
  rw [List.length_append] at hlength
  omega

/-- One digit before the point, and an exponent. -/
theorem says_exponent (hm : m ≠ 0) (hbound : m < 2 ^ 113) (width : ℕ) {top : ℤ}
    (htop : top = f + m.repr.toList.length - 1) :
    ∃ w : Numeral, w.negative = negative ∧
      Says ((if m.repr.toList.length == 1 then m.repr.toList
          else m.repr.toList.take 1 ++ '.' :: m.repr.toList.drop 1) ++
        'e' :: (if 0 ≤ top then '+' else '-') :: paddedNat width top.natAbs) m f w := by
  obtain ⟨d, ds, hcons, hd⟩ := exists_repr_cons hm
  have hall := isPlainDigit_repr m
  have hvalue := digitsValue_repr m
  rw [hcons] at hall hvalue htop ⊢
  refine ⟨⟨negative, [d], ds, some (decide (top < 0), paddedNat width top.natAbs)⟩, rfl,
    ⟨?_, .inr ⟨d, [], rfl, hd⟩, ?_, ?_⟩, ?_, ?_, ?_, ?_⟩
  · exact fun c hc => hall c (List.mem_cons.mpr (.inl (List.mem_singleton.mp hc)))
  · exact fun c hc => hall c (List.mem_cons_of_mem d hc)
  · intro x hx
    obtain rfl := Option.some.inj hx
    exact ⟨paddedNat_ne_nil _ _, isPlainDigit_paddedNat _ _⟩
  · have hsign : (if decide (top < 0) = true then '-' else '+') = if 0 ≤ top then '+' else '-' := by
      by_cases hneg : top < 0
      · rw [if_pos (decide_eq_true hneg), if_neg (by omega)]
      · rw [if_neg (by rw [decide_eq_true_iff]; exact hneg), if_pos (by omega)]
    rw [← hsign]
    cases ds with
    | nil => rfl
    | cons d' ds => rfl
  · rw [Numeral.isWhole]
    exact Bool.and_false _
  · show decimal (digitsValue (d :: ds)) (signed _ (digitsValue _) - ds.length) = _
    rw [hvalue, digitsValue_paddedNat]
    congr 1
    rw [List.length_cons] at htop
    unfold signed
    by_cases hneg : top < 0
    · rw [if_pos (decide_eq_true hneg)]
      omega
    · rw [if_neg (by rw [decide_eq_true_iff]; exact hneg)]
      omega
  · show digitsValue (d :: ds) < _
    rw [hvalue]
    exact hbound

/-- The text of a decimal says the decimal. -/
theorem exists_says (hn : n ≠ 0) (hbound : n < 2 ^ 113) (e : ℤ) :
    ∃ w : Numeral, w.negative = negative ∧ Says (Layout.full.text n e) n e w := by
  obtain ⟨hvalue, hle, hne⟩ := dropZeros_spec n.log2 n e
  obtain ⟨m, hm⟩ : ∃ m, m = (dropZeros n.log2 n e).1 := ⟨_, rfl⟩
  obtain ⟨f, hf⟩ : ∃ f, f = (dropZeros n.log2 n e).2 := ⟨_, rfl⟩
  rw [← hm] at hvalue hle hne
  rw [← hf] at hvalue
  have hm0 := hne hn
  obtain ⟨top, htop⟩ : ∃ top : ℤ, top = f + m.repr.toList.length - 1 := ⟨_, rfl⟩
  -- it is enough to say the decimal without its trailing zeros
  suffices h : ∃ w : Numeral, w.negative = negative ∧ Says (Layout.full.text n e) m f w by
    obtain ⟨w, hsign, htells⟩ := h
    exact ⟨w, hsign, htells.proper, htells.text, htells.real, htells.value.trans hvalue, htells.bound⟩
  have htext : Layout.full.text n e =
      if decide (-4 ≤ top) && decide (top < 16) then
        if 0 ≤ f then m.repr.toList ++ List.replicate f.toNat '0' ++ ['.', '0']
        else if 0 ≤ top then m.repr.toList.take (top.toNat + 1) ++ '.' :: m.repr.toList.drop (top.toNat + 1)
        else '0' :: '.' :: (List.replicate ((-top).toNat - 1) '0' ++ m.repr.toList)
      else (if m.repr.toList.length == 1 then m.repr.toList
          else m.repr.toList.take 1 ++ '.' :: m.repr.toList.drop 1) ++
        'e' :: (if 0 ≤ top then '+' else '-') :: paddedNat 2 top.natAbs := by
    rw [htop, hm, hf]
    rfl
  rw [htext]
  split
  · rename_i hrange
    rw [Bool.and_eq_true, decide_eq_true_iff, decide_eq_true_iff] at hrange
    split
    · exact says_whole negative hm0 ‹_› (by omega)
    · split
      · exact says_mixed negative hm0 (by omega) (by omega) (by omega) (by omega)
      · exact says_fraction negative (by omega) (by omega)
  · exact says_exponent negative hm0 (by omega) 2 htop

end Layouts

end Decimal

namespace Json

variable {w : Numeral} {rest cs : List Char}

/-- What follows a written value: the end, a comma or a closing bracket. -/
def Follows (rest : List Char) : Prop := ∀ c ∈ rest.head?, c = ',' ∨ c = ']' ∨ c = '\x7d'

theorem follows_nil : Follows [] := by simp [Follows]

theorem Follows.stops (h : Follows rest) {p : Char → Bool} (hcomma : p ',' = false)
    (hbracket : p ']' = false) (hbrace : p '\x7d' = false) : Stops p rest := by
  intro c hc
  rcases h c hc with rfl | rfl | rfl
  · exact hcomma
  · exact hbracket
  · exact hbrace

theorem takeWhole_append (hdigits : ∀ c ∈ w.whole, isPlainDigit c = true)
    (hfirst : w.whole = ['0'] ∨ ∃ d ds, w.whole = d :: ds ∧ d ≠ '0') (hcs : Stops isPlainDigit cs) :
    takeWhole (w.whole ++ cs) = (w.whole, cs) := by
  rcases hfirst with hzero | ⟨d, ds, hcons, hd⟩
  · rw [hzero]
    rfl
  · obtain ⟨htake, hdrop⟩ := takeWhile_append_stops hdigits hcs
    rw [takeWhole.eq_2, htake, hdrop]
    rw [hcons]
    rintro rest hzero
    exact hd (List.cons.inj hzero).1

theorem takeDecimals_append {ds : List Char} (hds : ∀ c ∈ ds, isPlainDigit c = true)
    (hdigit : Stops isPlainDigit cs) (hpoint : Stops (· == '.') cs) :
    takeDecimals (Numeral.placesText ds ++ cs) = (Numeral.placesText ds, cs) := by
  cases ds with
  | nil =>
    show takeDecimals cs = ([], cs)
    rw [takeDecimals.eq_2]
    rintro rest rfl
    exact absurd (stops_cons.mp hpoint) (by decide)
  | cons d ds =>
    obtain ⟨htake, hdrop⟩ := takeWhile_append_stops hds hdigit
    show takeDecimals ('.' :: (d :: ds ++ cs)) = _
    rw [takeDecimals]
    simp only [htake, hdrop]
    rfl

theorem takeExponent_append {x : Option (Bool × List Char)}
    (hx : ∀ y ∈ x, y.2 ≠ [] ∧ ∀ c ∈ y.2, isPlainDigit c = true) (hdigit : Stops isPlainDigit cs)
    (hletter : Stops (fun c => c == 'e' || c == 'E') cs) :
    takeExponent (Numeral.exponentText x ++ cs) = (Numeral.exponentText x, cs) := by
  cases x with
  | none =>
    show takeExponent cs = ([], cs)
    cases cs with
    | nil => rfl
    | cons c cs =>
      have hother : (c == 'e' || c == 'E') = false := stops_cons.mp hletter
      exact if_neg (by rw [hother]; decide)
  | some y =>
    obtain ⟨negative, ds⟩ := y
    obtain ⟨hne, hds⟩ := hx _ rfl
    obtain ⟨htake, hdrop⟩ := takeWhile_append_stops hds hdigit
    have hempty : ds.isEmpty = false := List.isEmpty_eq_false_iff.mpr hne
    have hmark : ('e' == 'e' || 'e' == 'E') = true := by decide
    cases negative with
    | false =>
      show takeExponent ('e' :: '+' :: (ds ++ cs)) = _
      rw [takeExponent, if_pos hmark]
      simp only [htake, hdrop, hempty]
      rfl
    | true =>
      show takeExponent ('e' :: '-' :: (ds ++ cs)) = _
      rw [takeExponent, if_pos hmark]
      simp only [htake, hdrop, hempty]
      rfl

theorem readExponent?_text {x : Option (Bool × List Char)}
    (hx : ∀ y ∈ x, y.2 ≠ [] ∧ ∀ c ∈ y.2, isPlainDigit c = true) :
    readExponent? (Numeral.exponentText x) = some (Numeral.exponentValue x) := by
  cases x with
  | none => rfl
  | some y =>
    obtain ⟨negative, ds⟩ := y
    obtain ⟨hne, hds⟩ := hx _ rfl
    have hempty : ds.isEmpty = false := List.isEmpty_eq_false_iff.mpr hne
    have hall : ds.all isPlainDigit = true := List.all_eq_true.mpr hds
    cases negative with
    | false =>
      show (if ds.isEmpty || !ds.all isPlainDigit then none else some (signed false (digitsValue ds))) = _
      rw [hempty, hall]
      rfl
    | true =>
      show (if ds.isEmpty || !ds.all isPlainDigit then none else some (signed true (digitsValue ds))) = _
      rw [hempty, hall]
      rfl

/-- A number is read up to where it ends. -/
theorem readNumber?_text (h : w.Proper) (hrest : Follows rest) :
    readNumber? ((if w.negative then ['-'] else []) ++ (w.magnitudeText ++ rest)) = some (w.value, rest) := by
  have hdigit : Stops isPlainDigit rest := hrest.stops (by decide) (by decide) (by decide)
  have hpoint : Stops (· == '.') rest := hrest.stops (by decide) (by decide) (by decide)
  have hletter : Stops (fun c => c == 'e' || c == 'E') rest := hrest.stops (by decide) (by decide) (by decide)
  -- what stands behind the digits before the point, and behind the point
  obtain ⟨tail, htail⟩ : ∃ tail, tail = Numeral.exponentText w.exponent ++ rest := ⟨_, rfl⟩
  obtain ⟨behind, hbehind⟩ : ∃ behind, behind = Numeral.placesText w.places ++ tail := ⟨_, rfl⟩
  have htext : w.magnitudeText ++ rest = w.whole ++ behind := by
    rw [Numeral.magnitudeText, hbehind, htail, List.append_assoc, List.append_assoc]
  have htailDigit : Stops isPlainDigit tail ∧ Stops (· == '.') tail := by
    rw [htail]
    cases w.exponent with
    | none => exact ⟨hdigit, hpoint⟩
    | some x => exact ⟨stops_cons.mpr (by decide), stops_cons.mpr (by decide)⟩
  have hbehindDigit : Stops isPlainDigit behind := by
    rw [hbehind]
    cases w.places with
    | nil => exact htailDigit.1
    | cons d ds => exact stops_cons.mpr (by decide)
  have hwhole : takeWhole (w.whole ++ behind) = (w.whole, behind) :=
    takeWhole_append h.whole h.first hbehindDigit
  have hplaces : takeDecimals behind = (Numeral.placesText w.places, tail) := by
    rw [hbehind]
    exact takeDecimals_append h.places htailDigit.1 htailDigit.2
  have hexponent : takeExponent tail = (Numeral.exponentText w.exponent, rest) := by
    rw [htail]
    exact takeExponent_append h.exponent hdigit hletter
  have hne : w.whole.isEmpty = false := by
    rcases h.first with hzero | ⟨d, ds, hcons, -⟩
    · rw [hzero]
      rfl
    · rw [hcons]
      rfl
  have hkind : ((Numeral.placesText w.places).isEmpty && (Numeral.exponentText w.exponent).isEmpty) = w.isWhole := by
    unfold Numeral.isWhole
    cases w.places <;> cases w.exponent <;> rfl
  have hdrop : (Numeral.placesText w.places).drop 1 = w.places := by
    cases w.places <;> rfl
  have hpower : (readExponent? (Numeral.exponentText w.exponent)).getD 0 = Numeral.exponentValue w.exponent := by
    rw [readExponent?_text h.exponent]
    rfl
  rw [htext, Numeral.value]
  cases hsign : w.negative with
  | true =>
    show readNumber? ('-' :: (w.whole ++ behind)) = _
    rw [readNumber?]
    simp only [hwhole, hne, hplaces, hexponent, hkind, hdrop, hpower, Bool.false_eq_true, if_false]
    split <;> rfl
  | false =>
    show readNumber? (w.whole ++ behind) = _
    rw [readNumber?.eq_2]
    · simp only [hwhole, hne, hplaces, hexponent, hkind, hdrop, hpower, Bool.false_eq_true, if_false]
      split <;> rfl
    · intro r hminus
      rcases h.first with hzero | ⟨d, ds, hcons, -⟩
      · rw [hzero] at hminus
        exact absurd (List.cons.inj hminus).1 (by decide)
      · have hd := h.whole d (by rw [hcons]; exact List.mem_cons_self)
        rw [hcons] at hminus
        rw [(List.cons.inj hminus).1] at hd
        exact absurd hd (by decide)

/-! ### Values that are not nested -/

theorem readPlain?_name {word : String} {v : Value} (h : (word, v) ∈ names) (rest : List Char) :
    readPlain? (word.toList ++ rest) = some (v, rest) := by
  simp only [names, List.mem_cons, List.not_mem_nil, or_false, Prod.mk.injEq] at h
  rcases h with ⟨rfl, rfl⟩ | ⟨rfl, rfl⟩ | ⟨rfl, rfl⟩ | ⟨rfl, rfl⟩ | ⟨rfl, rfl⟩ | ⟨rfl, rfl⟩ <;> rfl

/-- A number is no name: none starts with a digit, also not behind a minus. -/
theorem readPlain?_text (h : w.Proper) (hrest : Follows rest) :
    readPlain? ((if w.negative then ['-'] else []) ++ (w.magnitudeText ++ rest)) = some (w.value, rest) := by
  obtain ⟨d, tail, hcons, hd⟩ : ∃ d tail, w.magnitudeText ++ rest = d :: tail ∧ isPlainDigit d = true := by
    have hall := h.whole
    rw [Numeral.magnitudeText]
    rcases h.first with hzero | ⟨d, ds, hcons, -⟩
    · rw [hzero]
      exact ⟨'0', _, rfl, by decide⟩
    · rw [hcons] at hall ⊢
      exact ⟨d, _, rfl, hall d List.mem_cons_self⟩
  have hne {a : Char} (ha : isPlainDigit a = false) : ¬ a = d := (ne_of_isPlainDigit hd ha).symm
  have hnumber := readNumber?_text h hrest
  rw [hcons] at hnumber ⊢
  rw [← hnumber]
  cases w.negative with
  | false =>
    simp [readPlain?, names, afterWord?, hne (a := 'n') (by decide), hne (a := 't') (by decide),
      hne (a := 'f') (by decide), hne (a := 'N') (by decide), hne (a := 'I') (by decide),
      hne (a := '-') (by decide)]
  | true => simp [readPlain?, names, afterWord?, hne (a := 'I') (by decide)]

/-- The text of a value that is not nested: its name, or the parts of a number. -/
inductive PlainText : List Char → Value → Prop
  | name (word : String) {v : Value} (h : (word, v) ∈ names) : PlainText word.toList v
  | number {w : Numeral} (h : w.Proper) :
      PlainText ((if w.negative then ['-'] else []) ++ w.magnitudeText) w.value

/-- The text of a value that is not nested is read as the value. -/
theorem PlainText.readPlain?_eq {v : Value} (h : PlainText cs v) (hrest : Follows rest) :
    readPlain? (cs ++ rest) = some (v, rest) := by
  cases h with
  | name word h => exact readPlain?_name h rest
  | number h =>
    rw [List.append_assoc]
    exact readPlain?_text h hrest

/-- A whole number. -/
theorem plainText_whole (n : ℤ) : PlainText (toString n).toList (.whole n) := by
  have hplain (negative : Bool) (k : ℕ) :
      PlainText ((if negative then ['-'] else []) ++ k.repr.toList) (.whole (signed negative k)) := by
    obtain ⟨w, hw⟩ : ∃ w : Numeral, w = ⟨negative, k.repr.toList, [], none⟩ := ⟨_, rfl⟩
    have hproper : w.Proper := by
      rw [hw]
      refine ⟨isPlainDigit_repr k, ?_, fun c hc => absurd hc (by simp), fun x hx => absurd hx (by simp)⟩
      by_cases hk : k = 0
      · subst hk
        exact .inl rfl
      · exact .inr (exists_repr_cons hk)
    have htext : w.magnitudeText = k.repr.toList := by
      rw [hw]
      exact List.append_nil _
    have hvalue : w.value = .whole (signed negative k) := by
      rw [hw]
      show Value.whole (signed negative (digitsValue k.repr.toList)) = _
      rw [digitsValue_repr]
    have hnumber := PlainText.number hproper
    rw [htext, hvalue, hw] at hnumber
    exact hnumber
  rw [Int.toString_eq_repr, Int.repr_eq_if]
  by_cases hsign : 0 ≤ n
  · have hback : signed false n.toNat = n := by
      show (n.toNat : ℤ) = n
      omega
    have hnumber := hplain false n.toNat
    rw [hback] at hnumber
    rw [if_pos hsign]
    exact hnumber
  · have hback : signed true (-n).toNat = n := by
      show -((-n).toNat : ℤ) = n
      omega
    have hnumber := hplain true (-n).toNat
    rw [hback] at hnumber
    rw [if_neg hsign, String.toList_append]
    exact hnumber

theorem toList_withSign (negative : Bool) (cs : List Char) :
    (withSign negative cs).toList = (if negative then ['-'] else []) ++ cs := by
  rw [withSign, String.toList_ofList]
  cases negative <;> rfl

/-- A decimal in the interval of a float. -/
theorem plainText_decimal {x : Float} {negative : Bool} {m n : ℕ} {q e : ℤ}
    (hx : Parts.ofFloat x = .finite negative m q) (hm : Nearest (decimal n e) m q) (hn : n < 2 ^ 113) :
    PlainText (withSign negative (Layout.full.text n e)).toList (.real x) := by
  obtain ⟨w, hsign, htells⟩ := exists_says negative hm.ne_zero_of_decimal hn e
  have hvalue : w.value = .real x := by
    have hdecimal : Nearest (decimal w.digits w.power) m q := by
      rw [htells.value]
      exact hm
    rw [Numeral.value, htells.real, hsign, ofDecimal_eq hx hdecimal htells.bound]
    rfl
  have hnumber := PlainText.number htells.proper
  rw [htells.text, hvalue, hsign] at hnumber
  rw [toList_withSign]
  exact hnumber

/-- Zero, with its sign. -/
theorem plainText_zero {x : Float} {negative : Bool} {q : ℤ} (hx : Parts.ofFloat x = .finite negative 0 q) :
    PlainText (withSign negative "0.0".toList).toList (.real x) := by
  have hzero : Numeral.Proper ⟨negative, ['0'], ['0'], none⟩ :=
    ⟨isPlainDigit_of_mem_zeros (k := 1), .inl rfl, isPlainDigit_of_mem_zeros (k := 1),
      fun y hy => absurd hy (by simp)⟩
  have hvalue : Numeral.value ⟨negative, ['0'], ['0'], none⟩ = .real (ofDecimal negative 0 (-1)) := rfl
  have hnumber := PlainText.number hzero
  rw [hvalue, ofDecimal_zero hx] at hnumber
  rw [toList_withSign]
  exact hnumber

/-- A float. -/
theorem plainText_real (x : Float) : PlainText (writeReal x).toList (.real x) := by
  have hname {y : Float} (h : Parts.ofFloat x = Parts.ofFloat y) : x = y :=
    eq_of_unpack (by rw [unpack_eq_unpacked, unpack_eq_unpacked, h])
  rw [writeReal]
  cases hx : Parts.ofFloat x with
  | nan =>
    obtain rfl : x = 0.0 / 0.0 := hname (hx.trans (by decide +kernel))
    exact .name "NaN" (by simp [names])
  | infinite negative =>
    cases negative with
    | false =>
      obtain rfl : x = 1.0 / 0.0 := hname (hx.trans (by decide +kernel))
      exact .name "Infinity" (by simp [names])
    | true =>
      obtain rfl : x = -(1.0 / 0.0) := hname (hx.trans (by decide +kernel))
      exact .name "-Infinity" (by simp [names])
  | finite negative m q =>
    show PlainText (floatText x).toList _
    rw [floatText, hx]
    cases m with
    | zero => exact plainText_zero hx
    | succ m =>
      obtain ⟨hgrid, hq⟩ := onGrid_of_ofFloat hx
      obtain ⟨hnear, hdigits⟩ := shortest_nearest hgrid hq (Nat.succ_pos m)
      exact plainText_decimal hx hnear (hdigits.trans (by norm_num))

end Json

end Backtest
