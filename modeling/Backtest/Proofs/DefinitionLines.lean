import Backtest.Proofs.ChartText

/-!
# The lines of a definition text

The lines that say something are a normal form of a definition text. They are found piece by piece, so
that a separator between two texts parts their lines, and none of them can be shortened or cut further.
So a text that is put together from them, with any separators and with idle lines anywhere between them,
has the same lines again.

* `Text.not_of_mem_piecesBy`, no piece holds a separator; `Text.stripBy_idem`, stripping a stripped text;
* `IsDefinitionLine`, what every line is; `isDefinitionLine_of_mem`, every line of a text is so;
* `Rejoins`, the texts that are put together from lines; `Rejoins.definitionLines_eq`, their lines;
* `definitionLines_compose`, the main statement.
-/

namespace Backtest

namespace Text

variable {p : Char → Bool} {cs w : List Char}

/-- No piece holds a separator. -/
theorem not_of_mem_piecesBy (h : w ∈ piecesBy p cs) : ∀ c ∈ w, p c = false := by
  induction cs generalizing w with
  | nil =>
    obtain rfl := List.mem_singleton.mp h
    simp
  | cons c cs ih =>
    by_cases hc : p c = true
    · rw [piecesBy_cons_of_pos hc] at h
      rcases List.mem_cons.mp h with rfl | h
      · simp
      · exact ih h
    · have hc : p c = false := by simpa using hc
      obtain ⟨v, vs, hpieces, hcons⟩ := exists_piecesBy_cons hc cs
      rw [hcons] at h
      rcases List.mem_cons.mp h with rfl | h
      · intro d hd
        rcases List.mem_cons.mp hd with rfl | hd
        · exact hc
        · exact ih (hpieces ▸ List.mem_cons_self) d hd
      · exact ih (hpieces ▸ List.mem_cons_of_mem v h)

theorem mem_of_mem_stripBy {c : Char} (h : c ∈ stripBy p cs) : c ∈ cs := by
  rw [stripBy_eq] at h
  exact (List.dropWhile_suffix p).subset ((List.rdropWhile_prefix p _).subset h)

/-- Nothing is left to strip of a stripped text. -/
theorem stripBy_idem (p : Char → Bool) (cs : List Char) : stripBy p (stripBy p cs) = stripBy p cs := by
  -- a text that starts with a character that stays still does so when its end is stripped
  have hfront : ((cs.dropWhile p).rdropWhile p).dropWhile p = (cs.dropWhile p).rdropWhile p := by
    cases hcs : cs.dropWhile p with
    | nil => rfl
    | cons c ds =>
      have hc : p c = false := by
        have h := List.head_dropWhile_not p (l := cs) (by simp [hcs])
        simpa only [hcs, List.head_cons] using h
      have hkept : (c :: ds).rdropWhile p = c :: ds.rdropWhile p := rdropWhile_append_cons hc [] ds
      rw [hkept]
      exact List.dropWhile_cons_of_neg (by simp [hc])
  rw [stripBy_eq, stripBy_eq, hfront, List.rdropWhile_idempotent]

end Text

open Text

/-! ### What lines are -/

/-- A line that says something: it is not empty, has no blank at either end and no separator, and is no
remark. -/
structure IsDefinitionLine (line : String) : Prop where
  ne_empty : line ≠ ""
  strip_eq : strip line = line
  not_separator : ∀ c ∈ line.toList, c ≠ ';' ∧ c ≠ '\n'
  not_remark : ¬ ['/', '/'] <+: line.toList

theorem isSeparator_eq_false {c : Char} : isSeparator c = false ↔ c ≠ ';' ∧ c ≠ '\n' := by
  simp [isSeparator]

/-- A stripped line says nothing if it is empty or a remark, and only then. -/
theorem isRemark_iff (line : List Char) : isRemark line = true ↔ line = [] ∨ ['/', '/'] <+: line := by
  unfold isRemark
  split
  · simp
  · simp
  · rename_i hnil hremark
    refine iff_of_false (by simp) ?_
    rintro (rfl | ⟨rest, rfl⟩)
    · exact hnil rfl
    · exact hremark rest rfl

/-- The lines of a text say something. -/
theorem isDefinitionLine_of_mem {text line : String} (h : line ∈ definitionLines text) :
    IsDefinitionLine line := by
  obtain ⟨l, hl, rfl⟩ := List.mem_map.mp h
  obtain ⟨hl, htells⟩ := List.mem_filter.mp hl
  obtain ⟨w, hw, rfl⟩ := List.mem_map.mp hl
  have htells : ¬ isRemark (stripBy isBlank w) = true := by simpa using htells
  rw [isRemark_iff, not_or] at htells
  constructor
  · exact fun hempty => htells.1 (String.ofList_eq_empty_iff.mp hempty)
  · rw [strip, String.toList_ofList, stripBy_idem]
  · intro c hc
    rw [String.toList_ofList] at hc
    exact isSeparator_eq_false.mp (not_of_mem_piecesBy hw c (mem_of_mem_stripBy hc))
  · rw [String.toList_ofList]
    exact htells.2

/-! ### Texts put together from lines -/

/-- The text is put together from the lines: between semicolons and newlines stand the lines, in order,
and lines that say nothing. -/
def Rejoins (lines : List String) (text : String) : Prop :=
  Series isSeparator IdleLine (fun line w => w = line.toList) lines text.toList

namespace IsDefinitionLine

variable {line : String}

theorem stripBy_eq (h : IsDefinitionLine line) : stripBy isBlank line.toList = line.toList := by
  have hstrip := congrArg String.toList h.strip_eq
  rwa [strip, String.toList_ofList] at hstrip

theorem isRemark_eq (h : IsDefinitionLine line) : isRemark line.toList = false := by
  have htells : ¬ isRemark line.toList = true := by
    rw [isRemark_iff, not_or]
    exact ⟨fun hnil => h.ne_empty (String.toList_eq_nil_iff.mp hnil), h.not_remark⟩
  simpa using htells

end IsDefinitionLine

/-- A text that is put together from lines has these lines. -/
theorem Rejoins.definitionLines_eq {lines : List String} {text : String} (h : Rejoins lines text)
    (hlines : ∀ line ∈ lines, IsDefinitionLine line) : definitionLines text = lines := by
  have hread : ((piecesBy isSeparator text.toList).filter fun w => !isRemark (stripBy isBlank w)).mapM
      (fun w => (pure (String.ofList (stripBy isBlank w)) : Except Unit String)) =
        .ok (lines.map id) := by
    refine Series.mapM_eq (fun w hw => ⟨hw.forall_mem, by rw [hw.isRemark_eq]; rfl⟩) ?_ h
    rintro line hline w rfl
    have hl := hlines line hline
    refine ⟨fun c hc => isSeparator_eq_false.mpr (hl.not_separator c hc), ?_, ?_⟩
    · rw [hl.stripBy_eq, hl.isRemark_eq]
      rfl
    · rw [hl.stripBy_eq, String.ofList_toList]
      rfl
  rw [List.mapM_pure, List.map_id] at hread
  rw [definitionLines, List.filter_map, List.map_map]
  exact Except.ok.inj hread

/-- The lines of definition texts. A separator between two texts parts their lines; every line says
something; and a text that is put together from the lines of a text, by separators and with idle lines
between them, has the same lines. -/
theorem definitionLines_compose :
    (∀ (a b : String) (c : Char), c = ';' ∨ c = '\n' →
      definitionLines (a ++ String.singleton c ++ b) = definitionLines a ++ definitionLines b) ∧
    (∀ text, ∀ line ∈ definitionLines text, IsDefinitionLine line) ∧
    ∀ text joined, Rejoins (definitionLines text) joined →
      definitionLines joined = definitionLines text := by
  refine ⟨fun a b c hc => ?_, fun text line => isDefinitionLine_of_mem, fun text joined h => ?_⟩
  · apply definitionLines_append
    rcases hc with rfl | rfl <;> rfl
  · exact h.definitionLines_eq fun line => isDefinitionLine_of_mem

/-- Lines and a remark, with both kinds of separators and a blank line between them. -/
theorem definitionLines_compose_remarks :
    (';' = ';' ∨ ';' = '\n') ∧ "b,bool" ∈ definitionLines " a,bool ;// a; b,bool" ∧
    Rejoins (definitionLines " a,bool ;// a; b,bool") "a,bool\n \n//;b,bool" ∧
    definitionLines ("a,bool" ++ String.singleton ';' ++ "b,bool") = ["a,bool", "b,bool"] ∧
    IsDefinitionLine "b,bool" ∧ definitionLines "a,bool\n \n//;b,bool" = ["a,bool", "b,bool"] := by
  have hlines : definitionLines " a,bool ;// a; b,bool" = ["a,bool", "b,bool"] := by decide +kernel
  have hmem : "b,bool" ∈ definitionLines " a,bool ;// a; b,bool" := by
    rw [hlines]
    exact List.mem_cons_of_mem _ List.mem_cons_self
  have hjoined : Rejoins (definitionLines " a,bool ;// a; b,bool") "a,bool\n \n//;b,bool" := by
    have hremark : IdleLine ['/', '/'] := @IdleLine.remark [] [] (by simp) (by simp)
    have hblank : IdleLine [' '] := by
      refine .blank fun c hc => ?_
      obtain rfl := List.mem_singleton.mp hc
      exact ⟨rfl, by decide⟩
    have htext : "a,bool\n \n//;b,bool".toList = "a,bool".toList ++ '\n' :: ([' '] ++ '\n' ::
        (['/', '/'] ++ ';' :: "b,bool".toList)) := rfl
    rw [hlines, Rejoins, htext]
    exact .cons rfl rfl (.skip hblank rfl (.skip hremark rfl (.one rfl)))
  obtain ⟨hparts, htells, hagain⟩ := definitionLines_compose
  refine ⟨.inl rfl, hmem, hjoined, ?_, htells _ _ hmem, (hagain _ _ hjoined).trans hlines⟩
  rw [hparts "a,bool" "b,bool" ';' (.inl rfl)]
  decide +kernel

end Backtest
