import Backtest.Definition
import Mathlib.Algebra.Group.Nat.Defs
import Mathlib.Data.Int.Notation
import Mathlib.Data.List.DropRight

/-!
# Pieces of a text

A text is cut at separators into pieces, some of which say nothing and some of which stand for one thing
each; around the parts of a piece there may be blanks. What is read of such a text are the things, in order,
and stripping the text takes nothing from them.

* `Text.piecesBy_append_cons`, `Text.stripBy_append_cons`, cutting and stripping around a separator;
* `Text.Padded`, a part between blanks; `Text.Padded.stripBy_eq`, what is left of it;
* `Text.Series`, a text that stands for a list of things; `Text.Series.mapM_eq`, what is read of it;
* `definitionLines_append`, the lines of two texts; `Decimal.readInt?_repr`, a number in plain digits.
-/

namespace Backtest

namespace Text

/-! ### Cutting and stripping -/

section Cut

variable {p : Char → Bool} {c : Char}

theorem piecesBy_cons_of_pos (hc : p c = true) (cs : List Char) :
    piecesBy p (c :: cs) = [] :: piecesBy p cs := by
  rw [piecesBy, if_pos hc]

theorem exists_piecesBy_cons (hc : p c = false) (cs : List Char) :
    ∃ w ws, piecesBy p cs = w :: ws ∧ piecesBy p (c :: cs) = (c :: w) :: ws := by
  obtain ⟨w, ws, h⟩ := List.exists_cons_of_ne_nil (piecesBy_ne_nil p cs)
  refine ⟨w, ws, h, ?_⟩
  rw [piecesBy, if_neg (by simp [hc]), h]

/-- A separator cuts a text in two. -/
theorem piecesBy_append_cons (hc : p c = true) (xs ys : List Char) :
    piecesBy p (xs ++ c :: ys) = piecesBy p xs ++ piecesBy p ys := by
  induction xs with
  | nil => exact piecesBy_cons_of_pos hc ys
  | cons x xs ih =>
    rw [List.cons_append]
    cases hx : p x with
    | true => rw [piecesBy_cons_of_pos hx, ih, piecesBy_cons_of_pos hx, List.cons_append]
    | false =>
      obtain ⟨w, ws, h, hcons⟩ := exists_piecesBy_cons hx xs
      obtain ⟨w', ws', h', hcons'⟩ := exists_piecesBy_cons hx (xs ++ c :: ys)
      rw [ih, h, List.cons_append] at h'
      obtain ⟨rfl, rfl⟩ := List.cons.inj h'
      rw [hcons', hcons, List.cons_append]

theorem piecesBy_of_forall {cs : List Char} (h : ∀ c ∈ cs, p c = false) : piecesBy p cs = [cs] := by
  induction cs with
  | nil => rfl
  | cons c cs ih =>
    rw [piecesBy, if_neg (by simp [h c List.mem_cons_self]),
      ih fun d hd => h d (List.mem_cons_of_mem c hd)]

theorem stripBy_eq (cs : List Char) : stripBy p cs = (cs.dropWhile p).rdropWhile p := rfl

theorem dropWhile_append_cons (hc : p c = false) (xs ys : List Char) :
    (xs ++ c :: ys).dropWhile p = xs.dropWhile p ++ c :: ys := by
  induction xs with
  | nil => exact List.dropWhile_cons_of_neg (by simp [hc])
  | cons x xs ih =>
    rw [List.cons_append]
    by_cases hx : p x = true
    · rw [List.dropWhile_cons_of_pos hx, List.dropWhile_cons_of_pos hx, ih]
    · rw [List.dropWhile_cons_of_neg hx, List.dropWhile_cons_of_neg hx, List.cons_append]

theorem rdropWhile_append_cons (hc : p c = false) (xs ys : List Char) :
    (xs ++ c :: ys).rdropWhile p = xs ++ c :: ys.rdropWhile p := by
  rw [List.rdropWhile, List.reverse_append, List.reverse_cons, List.append_assoc, List.singleton_append,
    dropWhile_append_cons hc, List.reverse_append, List.reverse_cons, List.reverse_reverse,
    List.append_assoc, List.singleton_append, List.rdropWhile]

/-- What is stripped at the two sides of a character that stays. -/
theorem stripBy_append_cons (hc : p c = false) (xs ys : List Char) :
    stripBy p (xs ++ c :: ys) = xs.dropWhile p ++ c :: ys.rdropWhile p := by
  rw [stripBy_eq, dropWhile_append_cons hc, rdropWhile_append_cons hc]

theorem dropWhile_of_forall {cs : List Char} (h : ∀ c ∈ cs, p c = false) : cs.dropWhile p = cs := by
  cases cs with
  | nil => rfl
  | cons c cs => exact List.dropWhile_cons_of_neg (by simp [h c List.mem_cons_self])

theorem rdropWhile_append_of_forall {b : List Char} (xs : List Char) (h : ∀ c ∈ b, p c = true) :
    (xs ++ b).rdropWhile p = xs.rdropWhile p := by
  rw [List.rdropWhile, List.reverse_append,
    List.dropWhile_append_of_pos fun c hc => h c (List.mem_reverse.mp hc), List.rdropWhile]

theorem rdropWhile_of_forall {cs : List Char} (h : ∀ c ∈ cs, p c = false) : cs.rdropWhile p = cs := by
  rw [List.rdropWhile, dropWhile_of_forall fun c hc => h c (List.mem_reverse.mp hc), List.reverse_reverse]

theorem stripBy_of_forall {cs : List Char} (h : ∀ c ∈ cs, p c = false) : stripBy p cs = cs := by
  rw [stripBy_eq, dropWhile_of_forall h, rdropWhile_of_forall h]

end Cut

/-! ### Parts between blanks -/

/-- A blank that may stand around a part of a line. -/
def IsGap (c : Char) : Prop := isBlank c = true ∧ c ≠ '\n'

/-- The part stands in the text between gaps. -/
def Padded (part text : List Char) : Prop :=
  ∃ a b, (∀ c ∈ a, IsGap c) ∧ (∀ c ∈ b, IsGap c) ∧ text = a ++ (part ++ b)

namespace Padded

variable {part text : List Char}

theorem self (part : List Char) : Padded part part := ⟨[], [], by simp, by simp, by simp⟩

theorem dropWhile (h : Padded part text) (hpart : ∀ c ∈ part, isBlank c = false) :
    Padded part (text.dropWhile isBlank) := by
  obtain ⟨a, b, ha, hb, rfl⟩ := h
  rw [List.dropWhile_append_of_pos fun c hc => (ha c hc).1]
  cases part with
  | nil =>
    refine ⟨[], b.dropWhile isBlank, by simp, fun c hc => hb c ?_, rfl⟩
    exact (List.dropWhile_suffix _).subset hc
  | cons c cs =>
    rw [List.cons_append, List.dropWhile_cons_of_neg (by simp [hpart c List.mem_cons_self])]
    exact ⟨[], b, by simp, hb, rfl⟩

theorem rdropWhile (h : Padded part text) (hpart : ∀ c ∈ part, isBlank c = false) :
    Padded part (text.rdropWhile isBlank) := by
  obtain ⟨a, b, ha, hb, rfl⟩ := h
  rw [← List.append_assoc, rdropWhile_append_of_forall _ fun c hc => (hb c hc).1]
  cases part using List.reverseRecOn with
  | nil =>
    refine ⟨a.rdropWhile isBlank, [], fun c hc => ha c ?_, by simp, by simp⟩
    exact (List.rdropWhile_prefix _ _).subset hc
  | append_singleton cs c =>
    have hc : isBlank c = false := hpart c (by simp)
    refine ⟨a, [], ha, by simp, ?_⟩
    rw [← List.append_assoc, rdropWhile_append_cons hc, List.rdropWhile_nil]
    simp

theorem exists_dropWhile {c : Char} {cs : List Char} (h : Padded (c :: cs) text) (hc : isBlank c = false) :
    ∃ rest, text.dropWhile isBlank = c :: rest := by
  obtain ⟨a, b, ha, -, rfl⟩ := h
  rw [List.dropWhile_append_of_pos fun c hc => (ha c hc).1, List.cons_append,
    List.dropWhile_cons_of_neg (by simp [hc])]
  exact ⟨_, rfl⟩

/-- Stripping leaves the part. -/
theorem stripBy_eq (h : Padded part text) (hpart : ∀ c ∈ part, isBlank c = false) :
    stripBy isBlank text = part := by
  obtain ⟨a, b, ha, hb, rfl⟩ := h
  rw [Text.stripBy_eq, List.dropWhile_append_of_pos fun c hc => (ha c hc).1]
  cases part with
  | nil =>
    rw [List.nil_append, List.dropWhile_eq_nil_iff.mpr fun c hc => (hb c hc).1, List.rdropWhile_nil]
  | cons c cs =>
    rw [List.cons_append, List.dropWhile_cons_of_neg (by simp [hpart c List.mem_cons_self]),
      ← List.cons_append, rdropWhile_append_of_forall _ fun c hc => (hb c hc).1,
      rdropWhile_of_forall hpart]

theorem mem_or (h : Padded part text) {c : Char} (hc : c ∈ text) : c ∈ part ∨ IsGap c := by
  obtain ⟨a, b, ha, hb, rfl⟩ := h
  rcases List.mem_append.mp hc with hc | hc
  · exact .inr (ha c hc)
  · rcases List.mem_append.mp hc with hc | hc
    · exact .inl hc
    · exact .inr (hb c hc)

end Padded

/-! ### Series of pieces -/

/-- The text stands for the list: of its pieces between separators some are idle, and the others stand for
the members, in order. -/
inductive Series {β : Type} (sep : Char → Bool) (Idle : List Char → Prop)
    (Stands : β → List Char → Prop) : List β → List Char → Prop
  | idle {w : List Char} : Idle w → Series sep Idle Stands [] w
  | one {x : β} {w : List Char} : Stands x w → Series sep Idle Stands [x] w
  | skip {w : List Char} {c : Char} {xs : List β} {text : List Char} : Idle w → sep c = true →
    Series sep Idle Stands xs text → Series sep Idle Stands xs (w ++ c :: text)
  | cons {x : β} {w : List Char} {c : Char} {xs : List β} {text : List Char} : Stands x w →
    sep c = true → Series sep Idle Stands xs text → Series sep Idle Stands (x :: xs) (w ++ c :: text)

namespace Series

variable {β : Type} {sep : Char → Bool} {Idle : List Char → Prop} {Stands : β → List Char → Prop}
  {xs : List β} {text : List Char}

/-- What is read of the pieces that are kept, if those that stand for something are, and only they. -/
theorem mapM_eq {ε δ : Type} {keep : List Char → Bool} {read : List Char → Except ε δ} {made : β → δ}
    (hidle : ∀ w, Idle w → (∀ c ∈ w, sep c = false) ∧ keep w = false)
    (hstands : ∀ x ∈ xs, ∀ w, Stands x w →
      (∀ c ∈ w, sep c = false) ∧ keep w = true ∧ read w = .ok (made x))
    (h : Series sep Idle Stands xs text) :
    ((piecesBy sep text).filter keep).mapM read = .ok (xs.map made) := by
  induction h with
  | idle hw =>
    obtain ⟨hsep, hkeep⟩ := hidle _ hw
    rw [piecesBy_of_forall hsep, List.filter_cons_of_neg (by simp [hkeep])]
    rfl
  | one hw =>
    obtain ⟨hsep, hkeep, hread⟩ := hstands _ List.mem_cons_self _ hw
    rw [piecesBy_of_forall hsep, List.filter_cons_of_pos hkeep, List.filter_nil, List.mapM_cons, hread]
    rfl
  | skip hw hc _ ih =>
    obtain ⟨hsep, hkeep⟩ := hidle _ hw
    rw [piecesBy_append_cons hc, piecesBy_of_forall hsep, List.singleton_append,
      List.filter_cons_of_neg (by simp [hkeep]), ih hstands]
  | cons hw hc _ ih =>
    obtain ⟨hsep, hkeep, hread⟩ := hstands _ List.mem_cons_self _ hw
    rw [piecesBy_append_cons hc, piecesBy_of_forall hsep, List.singleton_append,
      List.filter_cons_of_pos hkeep, List.mapM_cons, hread, List.map_cons,
      ih fun x hx => hstands x (List.mem_cons_of_mem _ hx)]
    rfl

/-- The texts of all members, one after the other. -/
theorem of_intercalate {c : Char} (hc : sep c = true) (hidle : Idle []) {f : β → List Char}
    (h : ∀ x ∈ xs, Stands x (f x)) : Series sep Idle Stands xs ([c].intercalate (xs.map f)) := by
  induction xs with
  | nil => exact .idle hidle
  | cons x xs ih =>
    have hx := h x List.mem_cons_self
    cases xs with
    | nil =>
      rw [List.map_singleton, List.intercalate_singleton]
      exact .one hx
    | cons y ys =>
      rw [List.map_cons, List.map_cons, List.intercalate_cons_cons, List.append_assoc,
        List.singleton_append]
      exact .cons hx hc (ih fun z hz => h z (List.mem_cons_of_mem x hz))

/-- A series is one without the blanks at its end, if its pieces are so. -/
theorem rdropWhile (hsep : ∀ c, sep c = true → isBlank c = false)
    (hidle : ∀ w, Idle w → Idle (w.rdropWhile isBlank))
    (hstands : ∀ x w, Stands x w → Stands x (w.rdropWhile isBlank))
    (h : Series sep Idle Stands xs text) : Series sep Idle Stands xs (text.rdropWhile isBlank) := by
  induction h with
  | idle hw => exact .idle (hidle _ hw)
  | one hw => exact .one (hstands _ _ hw)
  | skip hw hc _ ih =>
    rw [rdropWhile_append_cons (hsep _ hc)]
    exact .skip hw hc ih
  | cons hw hc _ ih =>
    rw [rdropWhile_append_cons (hsep _ hc)]
    exact .cons hw hc ih

/-- What holds of every character of a piece and of every separator holds of every character. -/
theorem forall_mem {P : Char → Prop} (hsep : ∀ c, sep c = true → P c)
    (hidle : ∀ w, Idle w → ∀ c ∈ w, P c) (hstands : ∀ x w, Stands x w → ∀ c ∈ w, P c)
    (h : Series sep Idle Stands xs text) : ∀ c ∈ text, P c := by
  induction h with
  | idle hw => exact hidle _ hw
  | one hw => exact hstands _ _ hw
  | skip hw hc _ ih =>
    intro d hd
    rcases List.mem_append.mp hd with hd | hd
    · exact hidle _ hw d hd
    · rcases List.mem_cons.mp hd with rfl | hd
      · exact hsep _ hc
      · exact ih d hd
  | cons hw hc _ ih =>
    intro d hd
    rcases List.mem_append.mp hd with hd | hd
    · exact hstands _ _ hw d hd
    · rcases List.mem_cons.mp hd with rfl | hd
      · exact hsep _ hc
      · exact ih d hd

end Series

theorem isEmpty_strip (cs : List Char) :
    (strip (String.ofList cs)).isEmpty = (stripBy isBlank cs).isEmpty := by
  rw [strip, String.toList_ofList, Bool.eq_iff_iff, String.isEmpty_iff, List.isEmpty_iff,
    String.ofList_eq_empty_iff]

theorem stripBy_of_blank {cs : List Char} (h : ∀ c ∈ cs, isBlank c = true) : stripBy isBlank cs = [] := by
  rw [stripBy_eq, List.dropWhile_eq_nil_iff.mpr h, List.rdropWhile_nil]

/-- The parts of a text by its pieces. -/
theorem parts_ofList (separator : Char) (cs : List Char) : parts separator (String.ofList cs) =
    (piecesBy (· == separator) cs).map fun w => String.ofList (stripBy isBlank w) := by
  unfold parts splitOn
  rw [List.map_map, String.toList_ofList]
  refine List.map_congr_left fun w _ => ?_
  rw [Function.comp_apply, strip, String.toList_ofList]

end Text

open Text

/-- The lines of two texts with a separator between them. -/
theorem definitionLines_append {c : Char} (hc : isSeparator c = true) (a b : String) :
    definitionLines (a ++ String.singleton c ++ b) = definitionLines a ++ definitionLines b := by
  unfold definitionLines
  rw [String.toList_append, String.toList_append, String.toList_singleton, List.append_assoc,
    List.singleton_append, piecesBy_append_cons hc, List.map_append, List.filter_append, List.map_append]

/-! ### Names and numbers -/

/-- A name: at least one character, and none but ASCII letters, digits, underscores and hyphens. -/
def IsName (name : String) : Prop := name ≠ "" ∧ ∀ c ∈ name.toList, isNameChar c = true

theorem checkName_iff {name name' : String} :
    checkName name = .ok name' ↔ IsName name ∧ name' = name := by
  unfold checkName IsName
  by_cases hempty : name = ""
  · simp [hempty]
  · rw [if_neg (by simpa [String.isEmpty_iff] using hempty)]
    by_cases hall : name.toList.all isNameChar = true
    · rw [if_pos hall, Except.ok.injEq]
      exact ⟨fun h => ⟨⟨hempty, List.all_eq_true.mp hall⟩, h.symm⟩, fun h => h.2.symm⟩
    · rw [if_neg hall]
      refine ⟨fun h => by simp at h, ?_⟩
      rintro ⟨⟨-, h⟩, -⟩
      exact absurd (List.all_eq_true.mpr h) hall

theorem readReal_eq_ok {label text : String} {x : Float} :
    readReal label text = .ok x ↔ Decimal.readFloat? text = some x := by
  unfold readReal
  cases Decimal.readFloat? text <;> simp

theorem readWhole_eq_ok {label text : String} {n : ℤ} :
    readWhole label text = .ok n ↔ Decimal.readInt? text = some n := by
  unfold readWhole
  cases Decimal.readInt? text <;> simp

theorem isBlank_of_ascii {c : Char} (h : 32 < c.toNat) (h' : c.toNat < 127) : isBlank c = false := by
  rw [isBlank, List.contains_eq_mem, decide_eq_false_iff_not]
  simp only [blankPoints, List.mem_cons, List.not_mem_nil, or_false]
  omega

/-- A character between two others of which a name may hold all, in the order of code points. -/
theorem toNat_between {c lower upper : Char} :
    (lower ≤ c && c ≤ upper) = true ↔ lower.toNat ≤ c.toNat ∧ c.toNat ≤ upper.toNat := by
  rw [Bool.and_eq_true, decide_eq_true_iff, decide_eq_true_iff]
  exact Iff.rfl

/-- Characters that a name may hold are no blanks. -/
theorem isBlank_of_isNameChar {c : Char} (h : isNameChar c = true) : isBlank c = false := by
  unfold isNameChar at h
  simp only [Bool.or_eq_true, toNat_between, beq_iff_eq] at h
  rcases h with (((⟨h, h'⟩ | ⟨h, h'⟩) | ⟨h, h'⟩) | rfl) | rfl
  · exact isBlank_of_ascii (lt_of_lt_of_le (by decide) h) (lt_of_le_of_lt h' (by decide))
  · exact isBlank_of_ascii (lt_of_lt_of_le (by decide) h) (lt_of_le_of_lt h' (by decide))
  · exact isBlank_of_ascii (lt_of_lt_of_le (by decide) h) (lt_of_le_of_lt h' (by decide))
  · decide
  · decide

namespace Decimal

variable {cs : List Char}

theorem isPlainDigit_iff {c : Char} : isPlainDigit c = true ↔ 48 ≤ c.toNat ∧ c.toNat ≤ 57 :=
  toNat_between

theorem isNameChar_of_isPlainDigit {c : Char} (h : isPlainDigit c = true) : isNameChar c = true := by
  unfold isPlainDigit at h
  rw [isNameChar, h, Bool.or_true, Bool.true_or, Bool.true_or]

theorem isPlainDigit_repr (n : ℕ) : ∀ c ∈ n.repr.toList, isPlainDigit c = true := by
  intro c hc
  rw [Nat.toList_repr] at hc
  exact Nat.isDigit_of_mem_toDigits (by omega) (le_refl 10) hc

theorem plainDigits_of_forall (h : ∀ c ∈ cs, isPlainDigit c = true) : plainDigits cs = cs := by
  unfold plainDigits
  refine (List.map_congr_left fun c hc => ?_).trans (List.map_id cs)
  have hrange := isPlainDigit_iff.mp (h c hc)
  exact if_pos (by omega)

theorem ne_of_isPlainDigit {c d : Char} (h : isPlainDigit c = true) (hd : isPlainDigit d = false) :
    c ≠ d := by
  rintro rfl
  rw [h] at hd
  exact Bool.false_ne_true hd.symm

theorem dropUnderscores?_of_forall (afterDigit : Bool) (h : ∀ c ∈ cs, isPlainDigit c = true) :
    dropUnderscores? afterDigit cs = some cs := by
  induction cs generalizing afterDigit with
  | nil => rfl
  | cons c cs ih =>
    have hne : c ≠ '_' := ne_of_isPlainDigit (h c List.mem_cons_self) (by decide)
    rw [dropUnderscores?, ih _ fun d hd => h d (List.mem_cons_of_mem c hd)]
    · rfl
    · simp [hne]
    · simp [hne]

theorem takeSign_of_forall (h : ∀ c ∈ cs, isPlainDigit c = true) : takeSign cs = (false, cs) := by
  cases cs with
  | nil => rfl
  | cons c cs =>
    have hminus : c ≠ '-' := ne_of_isPlainDigit (h c List.mem_cons_self) (by decide)
    have hplus : c ≠ '+' := ne_of_isPlainDigit (h c List.mem_cons_self) (by decide)
    simp [takeSign, hminus, hplus]

/-- A number in plain digits is read as that number, unless it has too many. -/
theorem readInt?_repr {n : ℕ} (h : n < 10 ^ digitLimit) : readInt? n.repr = some (n : ℤ) := by
  have hlength : n.repr.toList.length ≤ digitLimit := by
    rw [String.length_toList]
    exact (Nat.length_repr_le_iff (by decide)).mpr h
  have hdigits := isPlainDigit_repr n
  have hblank : ∀ c ∈ n.repr.toList, isNumberBlank c = false := by
    intro c hc
    rw [isNumberBlank, isBlank_of_isNameChar (isNameChar_of_isPlainDigit (hdigits c hc)), Bool.false_and]
  have hchars : numberChars? n.repr = some n.repr.toList := by
    rw [numberChars?, plainDigits_of_forall hdigits, stripBy_of_forall hblank,
      dropUnderscores?_of_forall false hdigits]
  have hne : n.repr.toList.isEmpty = false := by
    rw [Nat.toList_repr, List.isEmpty_eq_false_iff]
    exact Nat.toDigits_ne_nil
  have hvalue : digitsValue n.repr.toList = n := by
    rw [Nat.toList_repr]
    exact Nat.ofDigitChars_ten_toDigits
  have hall : n.repr.toList.all isPlainDigit = true := List.all_eq_true.mpr hdigits
  unfold readInt?
  rw [hchars]
  show (if (takeSign n.repr.toList).2.isEmpty || digitLimit < (takeSign n.repr.toList).2.length ||
      !(takeSign n.repr.toList).2.all isPlainDigit then none
    else some (signed (takeSign n.repr.toList).1 (digitsValue (takeSign n.repr.toList).2))) = _
  rw [takeSign_of_forall hdigits, hne, hall, hvalue, decide_eq_false (Nat.not_lt.mpr hlength)]
  rfl

end Decimal

end Backtest
