import Backtest.Proofs.Accepted
import Backtest.Proofs.Pieces
import Mathlib.Data.Set.List

/-!
# The text of charts

A list of charts can be written as text in many ways: with blanks around the parts of a definition, with
semicolons or newlines between the definitions, and with blank lines and remarks among them. Every one of
them is read as the charts that were written, and what is read of any text can be written and read again.

* `ChartSpec`, what a definition says of a chart; `ChartSpec.chart`, the chart;
* `ChartText`, `IdleLine`, the lines of a text; `Writes`, the texts of a list of charts;
* `ChartText.ofLine_eq`, a definition is read as its chart; `readCharts_of_writes`, a text as its charts;
* `Chart.definition`, `chartsText`, the plain text of charts; `ChartSpec.exists_of_readCharts`, charts that
  are read are those of a definition;
* `charts_round_trip`, the main statement.
-/

namespace Backtest

open Text

/-- What a definition says of a chart: its period, how many candles it completes, which the chart must be
able to keep beside the one being built, and how far its averages look back. -/
structure ChartSpec where
  period : Period
  count : ℕ
  lookbacks : List ℕ
  one_le_count : 1 ≤ count
  count_lt : count < maxCapacity
  one_le_lookback : ∀ l ∈ lookbacks, 1 ≤ l
  lookback_le : ∀ l ∈ lookbacks, l ≤ count

namespace ChartSpec

variable {α : Type}

/-- The name of a chart. -/
def name (s : ChartSpec) : String := s!"candlestick_{s.period.word}"

/-- An average of a chart. -/
def indicator (s : ChartSpec) (lookback : ℕ) : Indicator α :=
  Indicator.new s!"{s.name}_sma_{lookback}" lookback .sma

/-- The chart of a definition: without candles, for one candle more than it completes. -/
def chart (s : ChartSpec) : Chart α :=
  { Chart.new s.name s.period (s.count + 1) with indicators := s.lookbacks.map s.indicator }

end ChartSpec

/-! ### Texts of charts -/

/-- An average is written as its kind and how far it looks back. -/
inductive IndicatorText (lookback : ℕ) : List Char → Prop
  | mk {kind count : List Char} : Padded "sma".toList kind → Padded lookback.repr.toList count →
    IndicatorText lookback (kind ++ ',' :: count)

/-- The first part of a definition: the kind of the chart, the period and the number of candles. -/
inductive HeadText (s : ChartSpec) : List Char → Prop
  | mk {kind period count : List Char} : Padded "candlestick".toList kind →
    Padded s.period.word.toList period → Padded s.count.repr.toList count →
    HeadText s (kind ++ ',' :: (period ++ ',' :: count))

/-- A chart is written as the first part and, behind a bar, its averages between colons. Without averages
the bar may be left out. -/
inductive ChartText (s : ChartSpec) : List Char → Prop
  | plain {head : List Char} : HeadText s head → s.lookbacks = [] → ChartText s head
  | barred {head tail : List Char} : HeadText s head →
    Series (· == ':') (fun w => ∀ c ∈ w, IsGap c) IndicatorText s.lookbacks tail →
    ChartText s (head ++ '|' :: tail)

/-- A line that says nothing: a blank one or a remark. -/
inductive IdleLine : List Char → Prop
  | blank {w : List Char} : (∀ c ∈ w, IsGap c) → IdleLine w
  | remark {a rest : List Char} : (∀ c ∈ a, IsGap c) → (∀ c ∈ rest, isSeparator c = false) →
    IdleLine (a ++ '/' :: '/' :: rest)

/-- The text writes the charts: between semicolons and newlines stand their definitions, in order, and lines
that say nothing. -/
def Writes (specs : List ChartSpec) (text : String) : Prop :=
  Series isSeparator IdleLine ChartText specs text.toList

/-! ### Characters of a definition -/

/-- A character that may stand in a padded part. -/
def IsPartChar (c : Char) : Prop := isNameChar c = true ∨ IsGap c

theorem IsPartChar.ne {c d : Char} (h : IsPartChar c) (hname : isNameChar d = false)
    (hblank : isBlank d = false) : c ≠ d := by
  rintro rfl
  rcases h with h | ⟨h, -⟩
  · rw [h] at hname
    exact Bool.false_ne_true hname.symm
  · rw [h] at hblank
    exact Bool.false_ne_true hblank.symm

/-- The characters of a padded part and the commas between parts are no other signs. -/
theorem ne_of_part_or_comma {c d : Char} (h : IsPartChar c ∨ c = ',') (hname : isNameChar d = false)
    (hblank : isBlank d = false) (hcomma : ',' ≠ d) : c ≠ d := by
  rcases h with h | rfl
  · exact h.ne hname hblank
  · exact hcomma

theorem IsPartChar.isSeparator_eq {c : Char} (h : IsPartChar c) : isSeparator c = false := by
  have hsemicolon : c ≠ ';' := h.ne (by decide) (by decide)
  have hnewline : c ≠ '\n' := by
    rcases h with h | ⟨-, h⟩
    · rintro rfl
      exact absurd h (by decide)
    · exact h
  simp [isSeparator, hsemicolon, hnewline]

theorem Text.Padded.isPartChar {part text : List Char} (h : Padded part text)
    (hpart : ∀ c ∈ part, isNameChar c = true) : ∀ c ∈ text, IsPartChar c :=
  fun c hc => (h.mem_or hc).imp_left (hpart c)

theorem isNameChar_repr (n : ℕ) : ∀ c ∈ n.repr.toList, isNameChar c = true :=
  fun c hc => Decimal.isNameChar_of_isPlainDigit (Decimal.isPlainDigit_repr n c hc)

theorem isNameChar_word (p : Period) : ∀ c ∈ p.word.toList, isNameChar c = true := by
  cases p <;> exact List.all_eq_true.mp rfl

theorem isNameChar_candlestick : ∀ c ∈ "candlestick".toList, isNameChar c = true :=
  List.all_eq_true.mp rfl

theorem isNameChar_sma : ∀ c ∈ "sma".toList, isNameChar c = true := List.all_eq_true.mp rfl

section Parts

variable {part text : List Char}

theorem isBlank_of_forall (hpart : ∀ c ∈ part, isNameChar c = true) : ∀ c ∈ part, isBlank c = false :=
  fun c hc => isBlank_of_isNameChar (hpart c hc)

theorem not_comma (h : Padded part text) (hpart : ∀ c ∈ part, isNameChar c = true) :
    ∀ c ∈ text, (c == ',') = false :=
  fun c hc => beq_eq_false_iff_ne.mpr ((h.isPartChar hpart c hc).ne (by decide) (by decide))

theorem parts_one (h : Padded part text) (hpart : ∀ c ∈ part, isNameChar c = true) :
    parts ',' (String.ofList text) = [String.ofList part] := by
  rw [parts_ofList, piecesBy_of_forall (not_comma h hpart), List.map_singleton,
    h.stripBy_eq (isBlank_of_forall hpart)]

/-- The first part of a text, before a comma. -/
theorem parts_cons (h : Padded part text) (hpart : ∀ c ∈ part, isNameChar c = true) (rest : List Char) :
    parts ',' (String.ofList (text ++ ',' :: rest)) =
      String.ofList part :: parts ',' (String.ofList rest) := by
  rw [parts_ofList, piecesBy_append_cons (p := (· == ',')) rfl, piecesBy_of_forall (not_comma h hpart),
    List.singleton_append, List.map_cons, h.stripBy_eq (isBlank_of_forall hpart), parts_ofList]

end Parts

namespace IndicatorText

variable {l : ℕ} {w : List Char}

theorem parts_eq (h : IndicatorText l w) : parts ',' (String.ofList w) = ["sma", l.repr] := by
  obtain ⟨hkind, hcount⟩ := h
  rw [parts_cons hkind isNameChar_sma, parts_one hcount (isNameChar_repr l), String.ofList_toList,
    String.ofList_toList]

theorem rdropWhile (h : IndicatorText l w) : IndicatorText l (w.rdropWhile isBlank) := by
  obtain ⟨hkind, hcount⟩ := h
  rw [rdropWhile_append_cons (by decide)]
  exact ⟨hkind, hcount.rdropWhile (isBlank_of_forall (isNameChar_repr l))⟩

theorem stripBy_ne_nil (h : IndicatorText l w) : (stripBy isBlank w).isEmpty = false := by
  obtain ⟨hkind, hcount⟩ := h
  rw [stripBy_append_cons (by decide)]
  exact List.isEmpty_eq_false_iff.mpr (by simp)

theorem forall_mem (h : IndicatorText l w) : ∀ c ∈ w, IsPartChar c ∨ c = ',' := by
  obtain ⟨hkind, hcount⟩ := h
  intro c hc
  rcases List.mem_append.mp hc with hc | hc
  · exact .inl (hkind.isPartChar isNameChar_sma c hc)
  · rcases List.mem_cons.mp hc with rfl | hc
    · exact .inr rfl
    · exact .inl (hcount.isPartChar (isNameChar_repr l) c hc)

end IndicatorText

namespace HeadText

variable {s : ChartSpec} {w : List Char}

theorem parts_eq (h : HeadText s w) :
    parts ',' (String.ofList w) = ["candlestick", s.period.word, s.count.repr] := by
  obtain ⟨hkind, hperiod, hcount⟩ := h
  rw [parts_cons hkind isNameChar_candlestick, parts_cons hperiod (isNameChar_word s.period),
    parts_one hcount (isNameChar_repr s.count), String.ofList_toList, String.ofList_toList,
    String.ofList_toList]

theorem dropWhile (h : HeadText s w) : HeadText s (w.dropWhile isBlank) := by
  obtain ⟨hkind, hperiod, hcount⟩ := h
  rw [dropWhile_append_cons (by decide)]
  exact ⟨hkind.dropWhile (isBlank_of_forall isNameChar_candlestick), hperiod, hcount⟩

theorem rdropWhile (h : HeadText s w) : HeadText s (w.rdropWhile isBlank) := by
  obtain ⟨hkind, hperiod, hcount⟩ := h
  rw [rdropWhile_append_cons (by decide), rdropWhile_append_cons (by decide)]
  exact ⟨hkind, hperiod, hcount.rdropWhile (isBlank_of_forall (isNameChar_repr s.count))⟩

theorem exists_dropWhile (h : HeadText s w) : ∃ rest, w.dropWhile isBlank = 'c' :: rest := by
  obtain ⟨hkind, -, -⟩ := h
  obtain ⟨rest, hrest⟩ := hkind.exists_dropWhile (by decide)
  rw [dropWhile_append_cons (by decide), hrest]
  exact ⟨_, rfl⟩

theorem forall_mem (h : HeadText s w) : ∀ c ∈ w, IsPartChar c ∨ c = ',' := by
  obtain ⟨hkind, hperiod, hcount⟩ := h
  intro c hc
  simp only [List.mem_append, List.mem_cons] at hc
  rcases hc with hc | rfl | hc | rfl | hc
  · exact .inl (hkind.isPartChar isNameChar_candlestick c hc)
  · exact .inr rfl
  · exact .inl (hperiod.isPartChar (isNameChar_word s.period) c hc)
  · exact .inr rfl
  · exact .inl (hcount.isPartChar (isNameChar_repr s.count) c hc)

end HeadText

/-! ### Reading a definition -/

theorem ChartSpec.isName (s : ChartSpec) : IsName s.name := by
  have hname : s.name = "candlestick_" ++ s.period.word := rfl
  refine ⟨fun hempty => ?_, fun c hc => ?_⟩
  · rw [hname] at hempty
    exact absurd (congrArg String.toList hempty) (by simp)
  · rw [hname, String.toList_append, List.mem_append] at hc
    have hbegin : "candlestick_".toList.all isNameChar = true := rfl
    rcases hc with hc | hc
    · exact List.all_eq_true.mp hbegin c hc
    · exact isNameChar_word s.period c hc

theorem ChartSpec.isName_indicator (s : ChartSpec) (l : ℕ) : IsName s!"{s.name}_sma_{l}" := by
  have hname : s!"{s.name}_sma_{l}" = s.name ++ "_sma_" ++ l.repr := rfl
  rw [hname]
  refine ⟨fun hempty => ?_, fun c hc => ?_⟩
  · exact absurd (congrArg String.toList hempty) (by simp)
  · simp only [String.toList_append, List.mem_append] at hc
    have hmiddle : "_sma_".toList.all isNameChar = true := rfl
    rcases hc with (hc | hc) | hc
    · exact s.isName.2 c hc
    · exact List.all_eq_true.mp hmiddle c hc
    · exact isNameChar_repr l c hc

/-- Numbers of candles have few digits. -/
theorem ChartSpec.lt_of_le_count {s : ChartSpec} {n : ℕ} (h : n ≤ s.count) :
    n < 10 ^ Decimal.digitLimit := by
  have hcapacity : maxCapacity < 10 ^ 19 := by decide
  have hpow : 10 ^ 19 ≤ 10 ^ Decimal.digitLimit := Nat.pow_le_pow_right (by decide) (by decide)
  have hcount := s.count_lt
  omega

theorem ChartSpec.indicatorName_eq (s : ChartSpec) (l : ℕ) :
    s.name ++ "_" ++ "sma" ++ "_" ++ l.repr = s!"{s.name}_sma_{l}" := by
  have hmiddle : s.name ++ "_" ++ "sma" ++ "_" = s.name ++ "_sma_" := by
    rw [String.append_assoc, String.append_assoc]
    rfl
  rw [hmiddle]
  rfl

variable {α : Type}

/-- An average is read as it is defined. -/
theorem IndicatorText.ofText_eq {s : ChartSpec} {l : ℕ} {w : List Char} (h : IndicatorText l w)
    (hl : 1 ≤ l) (hle : l ≤ s.count) :
    Indicator.ofText s.name s.count (String.ofList w) = .ok (s.indicator l : Indicator α) := by
  have hread : configured (readWhole "indicator lookback" l.repr) = .ok (l : ℤ) :=
    configured_eq_ok.mpr (readWhole_eq_ok.mpr (Decimal.readInt?_repr (ChartSpec.lt_of_le_count hle)))
  have hname : configured (checkName (s.name ++ "_" ++ "sma" ++ "_" ++ l.repr)) =
      .ok s!"{s.name}_sma_{l}" := by
    rw [s.indicatorName_eq]
    exact configured_eq_ok.mpr (checkName_iff.mpr ⟨s.isName_indicator l, rfl⟩)
  unfold Indicator.ofText
  rw [h.parts_eq]
  refine bind_eq_ok.mpr ⟨_, hread, ?_⟩
  rw [if_neg (by omega), if_neg (by omega)]
  exact bind_eq_ok.mpr ⟨_, hname, rfl⟩

/-- Behind the bar stand the averages. -/
theorem indicators_eq {s : ChartSpec} {tail : List Char}
    (h : Series (· == ':') (fun w => ∀ c ∈ w, IsGap c) IndicatorText s.lookbacks tail) :
    (indicatorTexts (String.ofList tail)).mapM (Indicator.ofText s.name s.count) =
      (.ok (s.lookbacks.map s.indicator) : Except Fault (List (Indicator α))) := by
  have hclean (w : List Char) (hw : ∀ c ∈ w, IsPartChar c ∨ c = ',') : ∀ c ∈ w, (c == ':') = false := by
    intro c hc
    exact beq_eq_false_iff_ne.mpr (ne_of_part_or_comma (hw c hc) (by decide) (by decide) (by decide))
  unfold indicatorTexts splitOn
  rw [String.toList_ofList, List.filter_map, List.mapM_map]
  refine h.mapM_eq (fun w hw => ⟨?_, ?_⟩) fun l hl w hw => ⟨?_, ?_, ?_⟩
  · exact hclean w fun c hc => .inl (.inr (hw c hc))
  · rw [Function.comp_apply, isEmpty_strip, stripBy_of_blank fun c hc => (hw c hc).1]
    rfl
  · exact hclean w hw.forall_mem
  · rw [Function.comp_apply, isEmpty_strip, hw.stripBy_ne_nil]
    rfl
  · exact hw.ofText_eq (s.one_le_lookback l hl) (s.lookback_le l hl)

theorem splitAtBar_of_not_mem {w : List Char} (h : ∀ c ∈ w, c ≠ '|') :
    splitAtBar (String.ofList w) = (String.ofList w, "") := by
  have hkeep : ∀ c ∈ w, (c != '|') = true := fun c hc => bne_iff_ne.mpr (h c hc)
  simp only [splitAtBar, String.toList_ofList]
  rw [List.takeWhile_eq_self_iff.mpr hkeep, List.dropWhile_eq_nil_iff.mpr hkeep]
  rfl

theorem splitAtBar_append {head tail : List Char} (h : ∀ c ∈ head, c ≠ '|') :
    splitAtBar (String.ofList (head ++ '|' :: tail)) = (String.ofList head, String.ofList tail) := by
  have hkeep : ∀ c ∈ head, (c != '|') = true := fun c hc => bne_iff_ne.mpr (h c hc)
  simp only [splitAtBar, String.toList_ofList]
  rw [List.takeWhile_append_of_pos hkeep, List.dropWhile_append_of_pos hkeep,
    List.takeWhile_cons_of_neg (by decide), List.dropWhile_cons_of_neg (by decide), List.append_nil]
  rfl

theorem Period.ofWord_word (p : Period) : Period.ofWord p.word = .ok p := by
  cases p <;> rfl

/-- A line is read as its chart if its first part says so and the averages are read behind the bar. -/
theorem ofLine_of_head {s : ChartSpec} {line : String} {head : List Char} {tail : String}
    (hsplit : splitAtBar line = (String.ofList head, tail)) (h : HeadText s head)
    (htail : (indicatorTexts tail).mapM (Indicator.ofText s.name s.count) =
      (.ok (s.lookbacks.map s.indicator) : Except Fault (List (Indicator α)))) :
    Chart.ofLine line = .ok (s.chart : Chart α) := by
  have hread : configured (readWhole "chart candle count" s.count.repr) = .ok (s.count : ℤ) :=
    configured_eq_ok.mpr (readWhole_eq_ok.mpr (Decimal.readInt?_repr (ChartSpec.lt_of_le_count le_rfl)))
  have hname : configured (checkName ("candlestick" ++ "_" ++ s.period.word)) = .ok s.name :=
    configured_eq_ok.mpr (checkName_iff.mpr ⟨s.isName, rfl⟩)
  have hchart : Chart.ofWord s.name s.period.word s.count =
      .ok (Chart.new s.name s.period (s.count + 1) : Chart α) := by
    have hcountable : isUncountable ((s.count : ℤ) + 1) = false := by
      have hlt := s.count_lt
      rw [isUncountable, Bool.or_eq_false_iff, decide_eq_false_iff_not, decide_eq_false_iff_not]
      have hlow : -Int.pow 2 63 < 0 := by decide
      omega
    refine bind_eq_ok.mpr ⟨_, Period.ofWord_word s.period, ?_⟩
    rw [hcountable, if_neg Bool.false_ne_true, if_neg (by omega)]
    rfl
  have hpos := s.one_le_count
  unfold Chart.ofLine
  rw [hsplit]
  simp only [h.parts_eq]
  refine bind_eq_ok.mpr ⟨_, hread, ?_⟩
  rw [if_neg (by omega)]
  refine bind_eq_ok.mpr ⟨_, hname, ?_⟩
  refine bind_eq_ok.mpr ⟨_, hchart, ?_⟩
  exact bind_eq_ok.mpr ⟨_, htail, rfl⟩

/-- A definition is read as its chart. -/
theorem ChartText.ofLine_eq {s : ChartSpec} {w : List Char} (h : ChartText s w) :
    Chart.ofLine (String.ofList w) = .ok (s.chart : Chart α) := by
  have hbar (head : List Char) (hhead : HeadText s head) : ∀ c ∈ head, c ≠ '|' := by
    intro c hc
    exact ne_of_part_or_comma (hhead.forall_mem c hc) (by decide) (by decide) (by decide)
  cases h with
  | plain hhead hnone =>
    refine ofLine_of_head (splitAtBar_of_not_mem (hbar w hhead)) hhead ?_
    rw [hnone]
    rfl
  | barred hhead htail =>
    exact ofLine_of_head (splitAtBar_append (hbar _ hhead)) hhead (indicators_eq htail)

/-! ### Reading a text -/

namespace ChartText

variable {s : ChartSpec} {w : List Char}

/-- A definition without the blanks at its ends is one. -/
theorem stripBy (h : ChartText s w) : ChartText s (stripBy isBlank w) := by
  cases h with
  | plain hhead hnone => exact .plain hhead.dropWhile.rdropWhile hnone
  | barred hhead htail =>
    rw [stripBy_append_cons (by decide)]
    refine .barred hhead.dropWhile (htail.rdropWhile ?_ ?_ fun _ _ => IndicatorText.rdropWhile)
    · intro c hc
      obtain rfl := eq_of_beq hc
      decide
    · exact fun w hw c hc => hw c ((List.rdropWhile_prefix _ _).subset hc)

/-- A definition is no remark. -/
theorem isRemark_eq (h : ChartText s w) : isRemark (Text.stripBy isBlank w) = false := by
  obtain ⟨rest, hrest⟩ : ∃ rest, w.dropWhile isBlank = 'c' :: rest := by
    cases h with
    | plain hhead => exact hhead.exists_dropWhile
    | barred hhead =>
      obtain ⟨rest, hrest⟩ := hhead.exists_dropWhile
      rw [dropWhile_append_cons (by decide), hrest]
      exact ⟨_, rfl⟩
  have hkept : ('c' :: rest).rdropWhile isBlank = 'c' :: rest.rdropWhile isBlank :=
    rdropWhile_append_cons (by decide) [] rest
  rw [Text.stripBy_eq, hrest, hkept]
  rfl

theorem forall_mem (h : ChartText s w) : ∀ c ∈ w, isSeparator c = false := by
  have hcomma (w : List Char) (hw : ∀ c ∈ w, IsPartChar c ∨ c = ',') : ∀ c ∈ w, isSeparator c = false := by
    intro c hc
    rcases hw c hc with hc | rfl
    · exact hc.isSeparator_eq
    · decide
  cases h with
  | plain hhead => exact hcomma w hhead.forall_mem
  | barred hhead htail =>
    intro c hc
    rcases List.mem_append.mp hc with hc | hc
    · exact hcomma _ hhead.forall_mem c hc
    rcases List.mem_cons.mp hc with rfl | hc
    · decide
    refine htail.forall_mem (P := fun c => isSeparator c = false) (fun c hc => ?_) (fun w hw c hc => ?_)
      (fun l w hw => hcomma w hw.forall_mem) c hc
    · obtain rfl := eq_of_beq hc
      decide
    · exact IsPartChar.isSeparator_eq (.inr (hw c hc))

end ChartText

namespace IdleLine

variable {w : List Char}

theorem forall_mem (h : IdleLine w) : ∀ c ∈ w, isSeparator c = false := by
  cases h with
  | blank hw => exact fun c hc => IsPartChar.isSeparator_eq (.inr (hw c hc))
  | remark ha hrest =>
    intro c hc
    simp only [List.mem_append, List.mem_cons] at hc
    rcases hc with hc | rfl | rfl | hc
    · exact IsPartChar.isSeparator_eq (.inr (ha c hc))
    · decide
    · decide
    · exact hrest c hc

theorem isRemark_eq (h : IdleLine w) : isRemark (stripBy isBlank w) = true := by
  cases h with
  | blank hw =>
    rw [stripBy_of_blank fun c hc => (hw c hc).1]
    rfl
  | @remark a rest ha hrest =>
    have hkept : ('/' :: rest).rdropWhile isBlank = '/' :: rest.rdropWhile isBlank :=
      rdropWhile_append_cons (by decide) [] rest
    rw [stripBy_append_cons (by decide), List.dropWhile_eq_nil_iff.mpr fun c hc => (ha c hc).1, hkept]
    rfl

end IdleLine

/-- A text is read as the charts that it writes. -/
theorem readCharts_of_writes {specs : List ChartSpec} {text : String} (h : Writes specs text) :
    readCharts text = .ok (specs.map ChartSpec.chart : List (Chart α)) := by
  unfold readCharts definitionLines
  rw [List.filter_map, List.map_map, List.mapM_map]
  refine h.mapM_eq (fun w hw => ⟨hw.forall_mem, ?_⟩) fun s _ w hw => ⟨hw.forall_mem, ?_, ?_⟩
  · rw [Function.comp_apply, hw.isRemark_eq, Bool.not_true]
  · rw [Function.comp_apply, hw.isRemark_eq, Bool.not_false]
  · rw [Function.comp_apply, Function.comp_apply]
    exact hw.stripBy.ofLine_eq

/-! ### Writing charts -/

/-- The definition of an average. -/
def Indicator.definition (i : Indicator α) : String := s!"{i.kind.word},{i.lookback}"

/-- The definition of a chart in its plain form. -/
def Chart.definition (c : Chart α) : String :=
  let head := s!"{c.kind.word},{c.period.word},{c.capacity - 1}"
  if c.indicators.isEmpty then head
  else head ++ "|" ++ ":".intercalate (c.indicators.map Indicator.definition)

/-- The definitions of charts, one after the other. -/
def chartsText (cs : List (Chart α)) : String := ";".intercalate (cs.map Chart.definition)

theorem ChartSpec.indicatorText (s : ChartSpec) (l : ℕ) :
    IndicatorText l (s.indicator l : Indicator α).definition.toList := by
  have htext : (s.indicator l : Indicator α).definition = "sma" ++ "," ++ l.repr := rfl
  rw [htext, String.toList_append, String.toList_append, List.append_assoc]
  exact .mk (.self _) (.self _)

theorem ChartSpec.headText (s : ChartSpec) :
    HeadText s s!"candlestick,{s.period.word},{s.count}".toList := by
  have htext : s!"candlestick,{s.period.word},{s.count}" =
      "candlestick," ++ s.period.word ++ "," ++ s.count.repr := rfl
  have hkind : "candlestick,".toList = "candlestick".toList ++ [','] := rfl
  rw [htext, String.toList_append, String.toList_append, String.toList_append, hkind, List.append_assoc,
    List.append_assoc, List.append_assoc]
  exact .mk (.self _) (.self _) (.self _)

theorem ChartSpec.chartText (s : ChartSpec) : ChartText s (s.chart : Chart α).definition.toList := by
  have htext : (s.chart : Chart α).definition =
      if (s.lookbacks.map (s.indicator : ℕ → Indicator α)).isEmpty then
        s!"candlestick,{s.period.word},{s.count}"
      else s!"candlestick,{s.period.word},{s.count}" ++ "|" ++
        ":".intercalate ((s.lookbacks.map (s.indicator : ℕ → Indicator α)).map Indicator.definition) := rfl
  rw [htext]
  split
  · rename_i hempty
    exact .plain s.headText (List.map_eq_nil_iff.mp (List.isEmpty_iff.mp hempty))
  · rw [String.toList_append, String.toList_append, List.append_assoc, String.toList_intercalate,
      List.map_map, List.map_map]
    exact .barred s.headText (Series.of_intercalate rfl (by simp) fun l _ => s.indicatorText l)

/-- The plain text of charts writes them. -/
theorem writes_chartsText (specs : List ChartSpec) :
    Writes specs (chartsText (specs.map ChartSpec.chart : List (Chart α))) := by
  unfold Writes chartsText
  rw [String.toList_intercalate, List.map_map, List.map_map]
  exact Series.of_intercalate rfl (.blank (by simp)) fun s _ => s.chartText

/-- Averages that are defined for a chart are those of its definition. -/
theorem ChartSpec.indicator_of_definedFor (s : ChartSpec) {i : Indicator α}
    (h : i.DefinedFor s.name s.count) :
    s.indicator i.lookback = i ∧ 1 ≤ i.lookback ∧ i.lookback ≤ s.count := by
  obtain ⟨⟨⟩, n, hpos, hle, rfl⟩ := h
  obtain ⟨l, rfl⟩ := Int.eq_ofNat_of_zero_le (show 0 ≤ n by omega)
  refine ⟨?_, Int.ofNat_le.mp hpos, Int.ofNat_le.mp hle⟩
  exact congrArg (fun name => Indicator.new name l .sma) (s.indicatorName_eq l).symm

/-- A chart that is read is that of a definition. -/
theorem ChartSpec.exists_of_ofLine {line : String} {c : Chart α} (h : Chart.ofLine line = .ok c) :
    ∃ s : ChartSpec, s.chart = c := by
  obtain ⟨p, count, indicators, hcount, hlt, hindicators, rfl⟩ := ofLine_eq_ok h
  have hdefined := forall_of_mapM_eq_ok (fun _ _ => definedFor_of_ofText) hindicators
  -- the definition without averages already has the name and the count that they need
  let bare : ChartSpec := ⟨p, count, [], hcount, hlt, by simp, by simp⟩
  have hbare : ∀ i ∈ indicators,
      bare.indicator i.lookback = i ∧ 1 ≤ i.lookback ∧ i.lookback ≤ count :=
    fun i hi => bare.indicator_of_definedFor (hdefined i hi)
  refine ⟨⟨p, count, indicators.map (·.lookback), hcount, hlt, ?_, ?_⟩, ?_⟩
  · intro l hl
    obtain ⟨i, hi, rfl⟩ := List.mem_map.mp hl
    exact (hbare i hi).2.1
  · intro l hl
    obtain ⟨i, hi, rfl⟩ := List.mem_map.mp hl
    exact (hbare i hi).2.2
  · have hindicators : (indicators.map (·.lookback)).map bare.indicator = indicators := by
      rw [List.map_map]
      exact (List.map_congr_left fun i hi => (hbare i hi).1).trans (List.map_id _)
    exact congrArg (fun is => ({ Chart.new bare.name p (count + 1) with indicators := is } : Chart α))
      hindicators

/-- The charts that are read are those of definitions. -/
theorem ChartSpec.exists_of_readCharts {text : String} {cs : List (Chart α)}
    (h : readCharts text = .ok cs) : ∃ specs : List ChartSpec, specs.map ChartSpec.chart = cs := by
  have hall : ∀ c ∈ cs, c ∈ Set.range (ChartSpec.chart : ChartSpec → Chart α) :=
    forall_of_mapM_eq_ok (fun _ _ => ChartSpec.exists_of_ofLine) h
  have hmap : cs ∈ Set.range (List.map (ChartSpec.chart : ChartSpec → Chart α)) := by
    rw [Set.range_list_map]
    exact hall
  exact hmap

/-- The charts of two texts are those of the two with a semicolon between them. -/
theorem readCharts_append {a b : String} {cs ds : List (Chart α)} (ha : readCharts a = .ok cs)
    (hb : readCharts b = .ok ds) : readCharts (a ++ ";" ++ b) = .ok (cs ++ ds) := by
  have hlines : definitionLines (a ++ ";" ++ b) = definitionLines a ++ definitionLines b :=
    definitionLines_append (c := ';') rfl a b
  unfold readCharts at ha hb ⊢
  rw [hlines, List.mapM_append, ha, hb]
  rfl

/-- Charts and their text. Every text that writes charts is read as these charts, in order. What is read of
any text is one chart for each of its lines, and is read again of the plain text of the charts. Two texts
with a semicolon between them are read as the charts of the first and then those of the second. -/
theorem charts_round_trip :
    (∀ (specs : List ChartSpec) (text : String), Writes specs text →
      readCharts text = .ok (specs.map ChartSpec.chart : List (Chart α))) ∧
    (∀ (text : String) (cs : List (Chart α)), readCharts text = .ok cs →
      cs.length = (definitionLines text).length ∧ readCharts (chartsText cs) = .ok cs) ∧
    ∀ (a b : String) (cs ds : List (Chart α)), readCharts a = .ok cs → readCharts b = .ok ds →
      readCharts (a ++ ";" ++ b) = .ok (cs ++ ds) := by
  refine ⟨fun _ _ => readCharts_of_writes, fun text cs h => ⟨length_of_mapM_eq_ok h, ?_⟩,
    fun _ _ _ _ => readCharts_append⟩
  obtain ⟨specs, rfl⟩ := ChartSpec.exists_of_readCharts h
  exact readCharts_of_writes (writes_chartsText specs)

/-- The plain text of a chart with two averages. -/
example : chartsText [(ChartSpec.chart ⟨.m5, 20, [5, 10], by decide, by decide, by decide, by decide⟩ :
    Chart Float)] = "candlestick,M5,20|sma,5:sma,10" := rfl

end Backtest
