import Backtest.SearchSpace.Definition
import Backtest.Proofs.Accepted
import Backtest.Proofs.Pieces
import Mathlib.Data.List.Forall2
import Mathlib.Data.List.Nodup

/-!
# Declared variables

The texts that define variables are those whose lines each declare one, no two of a kind under one name.
The space of such a text lists the variables of each kind in the order of their lines, so that how the
kinds are mixed does not matter.

* `Declaration`, a variable as it is declared; `Declares`, the lines that declare it;
  `Declaration.Distinct`, two variables that do not clash;
* `SearchSpace.ofDeclarations`, the space of a list of declarations; `SearchSpace.declarations`, what a
  space has been declared with;
* `SearchSpace.addLine_eq_ok`, what a line adds; `readVariables_eq_ok`, what a text gives;
* `readVariables_exact`, the main statement.
-/

namespace Backtest

theorem Table.has_eq_false {β : Type} {t : Table β} {name : String} :
    t.has name = false ↔ name ∉ t.map (·.1) := by
  simp only [Table.has, List.any_eq_false, beq_iff_eq, List.mem_map, not_exists, not_and]

/-- A variable as it is declared: its name, its kind and its bounds. -/
inductive Declaration
  | bool (name : String)
  | real (name : String) (lower upper : Float)
  | whole (name : String) (lower upper : ℤ)

namespace Declaration

/-- The name of a variable. -/
def name : Declaration → String
  | bool name => name
  | real name _ _ => name
  | whole name _ _ => name

/-- The kind of a variable. -/
def kind : Declaration → VariableKind
  | bool _ => .bool
  | real _ _ _ => .real
  | whole _ _ _ => .whole

@[simp] theorem name_bool (n : String) : (bool n).name = n := rfl
@[simp] theorem name_real (n : String) (l u : Float) : (real n l u).name = n := rfl
@[simp] theorem name_whole (n : String) (l u : ℤ) : (whole n l u).name = n := rfl
@[simp] theorem kind_bool (n : String) : (bool n).kind = .bool := rfl
@[simp] theorem kind_real (n : String) (l u : Float) : (real n l u).kind = .real := rfl
@[simp] theorem kind_whole (n : String) (l u : ℤ) : (whole n l u).kind = .whole := rfl

/-- The bounds of a variable are in order: the lower one is not at or above the upper one. -/
def Ordered : Declaration → Prop
  | bool _ => True
  | real _ lower upper => ¬ lower ≥ upper
  | whole _ lower upper => ¬ lower ≥ upper

/-- The names of the variables of a kind, in order. -/
def namesOf (k : VariableKind) (ds : List Declaration) : List String :=
  (ds.filter (·.kind == k)).map name

theorem namesOf_append (k : VariableKind) (ds es : List Declaration) :
    namesOf k (ds ++ es) = namesOf k ds ++ namesOf k es := by
  rw [namesOf, List.filter_append, List.map_append]
  rfl

/-- One more variable repeats no name of its kind if it has a new one. -/
theorem nodup_concat {ds : List Declaration} {d : Declaration} :
    (∀ k, (namesOf k (ds ++ [d])).Nodup) ↔ (∀ k, (namesOf k ds).Nodup) ∧ d.name ∉ namesOf d.kind ds := by
  have hone : namesOf d.kind [d] = [d.name] := by simp [namesOf]
  constructor
  · intro h
    refine ⟨fun k => ?_, fun hmem => ?_⟩
    · have hk := h k
      rw [namesOf_append] at hk
      exact hk.of_append_left
    · have hk := h d.kind
      rw [namesOf_append, hone] at hk
      exact List.disjoint_of_nodup_append hk hmem (List.mem_singleton.mpr rfl)
  · rintro ⟨h, hnew⟩ k
    rw [namesOf_append]
    by_cases hk : d.kind = k
    · subst hk
      rw [hone]
      rw [← List.concat_eq_append]
      exact (h d.kind).concat hnew
    · have hnone : namesOf k [d] = [] := by simp [namesOf, hk]
      rw [hnone, List.append_nil]
      exact h k

theorem mem_namesOf {k : VariableKind} {ds : List Declaration} {n : String} :
    n ∈ namesOf k ds ↔ ∃ d ∈ ds, d.kind = k ∧ d.name = n := by
  simp only [namesOf, List.mem_map, List.mem_filter, beq_iff_eq, and_assoc]

/-- Names that are unique within each kind are unique if none occurs in two kinds. -/
theorem nodup_names {ds : List Declaration} (h : ∀ k, (namesOf k ds).Nodup) :
    (ds.map name).Nodup ↔ ∀ d ∈ ds, ∀ e ∈ ds, d.name = e.name → d.kind = e.kind := by
  induction ds with
  | nil => simp
  | cons d ds ih =>
    have hsplit (k : VariableKind) : namesOf k (d :: ds) = namesOf k [d] ++ namesOf k ds :=
      namesOf_append k [d] ds
    have htail : ∀ k, (namesOf k ds).Nodup := by
      intro k
      have hk := h k
      rw [hsplit] at hk
      exact hk.of_append_right
    have hnew : d.name ∉ namesOf d.kind ds := by
      have hk := h d.kind
      rw [hsplit] at hk
      exact List.disjoint_of_nodup_append hk (mem_namesOf.mpr ⟨d, List.mem_singleton_self d, rfl, rfl⟩)
    rw [List.map_cons, List.nodup_cons, ih htail]
    constructor
    · rintro ⟨hfresh, hds⟩ a ha b hb hname
      rcases List.mem_cons.mp ha with rfl | hmem <;> rcases List.mem_cons.mp hb with rfl | hmem'
      · rfl
      · exact absurd (hname ▸ List.mem_map_of_mem hmem') hfresh
      · exact absurd (hname ▸ List.mem_map_of_mem hmem) hfresh
      · exact hds a hmem b hmem' hname
    · intro hall
      refine ⟨fun hmem => ?_, fun a ha b hb => ?_⟩
      · obtain ⟨e, he, hname⟩ := List.mem_map.mp hmem
        have hkind := hall e (List.mem_cons_of_mem d he) d List.mem_cons_self hname
        exact hnew (mem_namesOf.mpr ⟨e, he, hkind, hname⟩)
      · exact hall a (List.mem_cons_of_mem d ha) b (List.mem_cons_of_mem d hb)

/-- The entry of a declared truth value. -/
def bool? : Declaration → Option (String × Bool)
  | bool name => some (name, false)
  | _ => none

/-- The entry of a declared float. -/
def real? : Declaration → Option (String × RealRange)
  | real name lower upper => some (name, { lower, upper, value := 0.0 })
  | _ => none

/-- The entry of a declared whole number. -/
def whole? : Declaration → Option (String × WholeRange)
  | whole name lower upper => some (name, { lower, upper, value := 0 })
  | _ => none

end Declaration

/-- A line declares a variable: between its commas stand a name, the type and, for a number, two bounds
that are numbers of the type, the lower one not at or above the upper one. What stands behind the type of
a truth value does not matter. -/
inductive Declares (line : String) : Declaration → Prop
  | bool {name : String} {more : List String} :
    parts ',' line = name :: "bool" :: more → IsName name → Declares line (.bool name)
  | real {name lower upper : String} {l u : Float} :
    parts ',' line = [name, "float", lower, upper] → IsName name → Decimal.readFloat? lower = some l →
      Decimal.readFloat? upper = some u → ¬ l ≥ u → Declares line (.real name l u)
  | whole {name lower upper : String} {l u : ℤ} :
    parts ',' line = [name, "int", lower, upper] → IsName name → Decimal.readInt? lower = some l →
      Decimal.readInt? upper = some u → ¬ l ≥ u → Declares line (.whole name l u)

/-- A line of the text declares the variable. -/
def Declared (text : String) (d : Declaration) : Prop := ∃ line ∈ definitionLines text, Declares line d

/-- The lines of a text whose second part is the word of a kind. -/
def linesOfKind (k : VariableKind) (text : String) : List String :=
  (definitionLines text).filter fun line => (parts ',' line)[1]? == some k.word

namespace Declares

variable {line : String} {d e : Declaration}

theorem second_part (h : Declares line d) : (parts ',' line)[1]? = some d.kind.word := by
  cases h with
  | bool hparts => simp [hparts, VariableKind.word]
  | real hparts => simp [hparts, VariableKind.word]
  | whole hparts => simp [hparts, VariableKind.word]

theorem ordered (h : Declares line d) : d.Ordered := by
  cases h with
  | bool => exact trivial
  | real _ _ _ _ hbounds => exact hbounds
  | whole _ _ _ _ hbounds => exact hbounds

theorem exists_of_mem {lines : List String} {ds : List Declaration} (h : List.Forall₂ Declares lines ds)
    (hd : d ∈ ds) : ∃ line ∈ lines, Declares line d := by
  induction h with
  | nil => exact absurd hd List.not_mem_nil
  | @cons line e lines ds hline _ ih =>
    rcases List.mem_cons.mp hd with rfl | hd
    · exact ⟨line, List.mem_cons_self, hline⟩
    · obtain ⟨line', hmem, hline'⟩ := ih hd
      exact ⟨line', List.mem_cons_of_mem line hmem, hline'⟩

theorem exists_of_line {lines : List String} {ds : List Declaration}
    (h : List.Forall₂ Declares lines ds) (hline : line ∈ lines) : ∃ d ∈ ds, Declares line d := by
  induction h with
  | nil => exact absurd hline List.not_mem_nil
  | @cons line' d lines ds hd _ ih =>
    rcases List.mem_cons.mp hline with rfl | hline
    · exact ⟨d, List.mem_cons_self, hd⟩
    · obtain ⟨e, hmem, he⟩ := ih hline
      exact ⟨e, List.mem_cons_of_mem d hmem, he⟩

/-- A line declares one variable at most. -/
theorem unique (h : Declares line d) (h' : Declares line e) : d = e := by
  cases h with
  | bool hparts _ =>
    cases h' with
    | bool hparts' _ => simp_all
    | real hparts' _ _ _ _ => simp [hparts] at hparts'
    | whole hparts' _ _ _ _ => simp [hparts] at hparts'
  | real hparts _ hl hu _ =>
    cases h' with
    | bool hparts' _ => simp [hparts] at hparts'
    | real hparts' _ hl' hu' _ => simp_all
    | whole hparts' _ _ _ _ => simp [hparts] at hparts'
  | whole hparts _ hl hu _ =>
    cases h' with
    | bool hparts' _ => simp [hparts] at hparts'
    | real hparts' _ _ _ _ => simp [hparts] at hparts'
    | whole hparts' _ hl' hu' _ => simp_all

end Declares

namespace SearchSpace

/-- The space of a list of declarations, each kind in their order, before any draw. -/
def ofDeclarations (ds : List Declaration) : SearchSpace where
  bools := ds.filterMap Declaration.bool?
  reals := ds.filterMap Declaration.real?
  wholes := ds.filterMap Declaration.whole?

/-- What a space has been declared with: its names and bounds, kind after kind. -/
def declarations (s : SearchSpace) : List Declaration :=
  s.bools.map (fun e => .bool e.1) ++ s.reals.map (fun e => .real e.1 e.2.lower e.2.upper) ++
    s.wholes.map (fun e => .whole e.1 e.2.lower e.2.upper)

variable {s s' : SearchSpace} {name : String}

theorem mem_declarations {d : Declaration} : d ∈ s.declarations ↔
    (∃ e ∈ s.bools, .bool e.1 = d) ∨ (∃ e ∈ s.reals, .real e.1 e.2.lower e.2.upper = d) ∨
      ∃ e ∈ s.wholes, .whole e.1 e.2.lower e.2.upper = d := by
  simp only [declarations, List.mem_append, List.mem_map, or_assoc]

theorem size_eq : s.size = s.declarations.length := by simp [size, declarations, Nat.add_assoc]

theorem namesOf_declarations_bool : Declaration.namesOf .bool s.declarations = s.bools.map (·.1) := by
  simp [Declaration.namesOf, declarations, List.filter_map, Function.comp_def,
    beq_eq_decide]

theorem namesOf_declarations_real : Declaration.namesOf .real s.declarations = s.reals.map (·.1) := by
  simp [Declaration.namesOf, declarations, List.filter_map, Function.comp_def,
    beq_eq_decide]

theorem namesOf_declarations_whole :
    Declaration.namesOf .whole s.declarations = s.wholes.map (·.1) := by
  simp [Declaration.namesOf, declarations, List.filter_map, Function.comp_def,
    beq_eq_decide]

theorem realRange_eq_ok {l u : Float} {r : RealRange} :
    RealRange.of l u = .ok r ↔ ¬ l ≥ u ∧ r = { lower := l, upper := u, value := 0.0 } := by
  unfold RealRange.of
  by_cases h : l ≥ u
  · simp [h]
  · simp only [h, if_false, Except.ok.injEq, not_false_eq_true, true_and]
    exact eq_comm

theorem wholeRange_eq_ok {l u : ℤ} {r : WholeRange} :
    WholeRange.of l u = .ok r ↔ ¬ l ≥ u ∧ r = { lower := l, upper := u, value := 0 } := by
  unfold WholeRange.of
  by_cases h : l ≥ u
  · simp [h]
  · simp only [h, if_false, Except.ok.injEq, not_false_eq_true, true_and]
    exact eq_comm

theorem addBool_eq_ok : s.addBool name = .ok s' ↔
    name ∉ s.bools.map (·.1) ∧ s' = { s with bools := s.bools ++ [(name, false)] } := by
  rw [← Table.has_eq_false]
  unfold addBool
  cases s.bools.has name with
  | true => simp
  | false =>
    simp only [Bool.false_eq_true, if_false, Except.ok.injEq, true_and]
    exact eq_comm

theorem addReal_eq_ok {l u : Float} : s.addReal name l u = .ok s' ↔
    name ∉ s.reals.map (·.1) ∧ ¬ l ≥ u ∧
      s' = { s with reals := s.reals ++ [(name, { lower := l, upper := u, value := 0.0 })] } := by
  rw [← Table.has_eq_false]
  unfold addReal
  cases s.reals.has name with
  | true => simp
  | false =>
    simp only [Bool.false_eq_true, if_false, true_and, bind_eq_ok, realRange_eq_ok]
    constructor
    · rintro ⟨r, ⟨h, rfl⟩, heq⟩
      exact ⟨h, (Except.ok.inj heq).symm⟩
    · rintro ⟨h, rfl⟩
      exact ⟨_, ⟨h, rfl⟩, rfl⟩

theorem addWhole_eq_ok {l u : ℤ} : s.addWhole name l u = .ok s' ↔
    name ∉ s.wholes.map (·.1) ∧ ¬ l ≥ u ∧
      s' = { s with wholes := s.wholes ++ [(name, { lower := l, upper := u, value := 0 })] } := by
  rw [← Table.has_eq_false]
  unfold addWhole
  cases s.wholes.has name with
  | true => simp
  | false =>
    simp only [Bool.false_eq_true, if_false, true_and, bind_eq_ok, wholeRange_eq_ok]
    constructor
    · rintro ⟨r, ⟨h, rfl⟩, heq⟩
      exact ⟨h, (Except.ok.inj heq).symm⟩
    · rintro ⟨h, rfl⟩
      exact ⟨_, ⟨h, rfl⟩, rfl⟩

variable {ds : List Declaration}

theorem names_bools : (ofDeclarations ds).bools.map (·.1) = Declaration.namesOf .bool ds := by
  induction ds with
  | nil => rfl
  | cons d ds ih =>
    cases d with
    | bool name => exact congrArg (name :: ·) ih
    | real => exact ih
    | whole => exact ih

theorem names_reals : (ofDeclarations ds).reals.map (·.1) = Declaration.namesOf .real ds := by
  induction ds with
  | nil => rfl
  | cons d ds ih =>
    cases d with
    | bool => exact ih
    | real name _ _ => exact congrArg (name :: ·) ih
    | whole => exact ih

theorem names_wholes : (ofDeclarations ds).wholes.map (·.1) = Declaration.namesOf .whole ds := by
  induction ds with
  | nil => rfl
  | cons d ds ih =>
    cases d with
    | bool => exact ih
    | real => exact ih
    | whole name _ _ => exact congrArg (name :: ·) ih

theorem addBool_ofDeclarations : (ofDeclarations ds).addBool name = .ok s' ↔
    name ∉ Declaration.namesOf .bool ds ∧ s' = ofDeclarations (ds ++ [.bool name]) := by
  rw [addBool_eq_ok, names_bools]
  simp [ofDeclarations, List.filterMap_cons, Declaration.bool?, Declaration.real?, Declaration.whole?]

theorem addReal_ofDeclarations {l u : Float} : (ofDeclarations ds).addReal name l u = .ok s' ↔
    name ∉ Declaration.namesOf .real ds ∧ ¬ l ≥ u ∧
      s' = ofDeclarations (ds ++ [.real name l u]) := by
  rw [addReal_eq_ok, names_reals]
  simp [ofDeclarations, List.filterMap_cons, Declaration.bool?, Declaration.real?, Declaration.whole?]

theorem addWhole_ofDeclarations {l u : ℤ} : (ofDeclarations ds).addWhole name l u = .ok s' ↔
    name ∉ Declaration.namesOf .whole ds ∧ ¬ l ≥ u ∧
      s' = ofDeclarations (ds ++ [.whole name l u]) := by
  rw [addWhole_eq_ok, names_wholes]
  simp [ofDeclarations, List.filterMap_cons, Declaration.bool?, Declaration.real?, Declaration.whole?]

theorem exists_declares {line type : String} {bounds : List String}
    (hparts : parts ',' line = name :: type :: bounds) (hname : IsName name)
    (h : (ofDeclarations ds).addVariable name type bounds = .ok s') :
    ∃ d, Declares line d ∧ d.name ∉ Declaration.namesOf d.kind ds ∧
      s' = ofDeclarations (ds ++ [d]) := by
  unfold addVariable at h
  split at h
  · rename_i htype
    obtain rfl := eq_of_beq htype
    obtain ⟨hnew, rfl⟩ := addBool_ofDeclarations.mp h
    exact ⟨_, .bool hparts hname, hnew, rfl⟩
  split at h
  · rename_i htype
    obtain rfl := eq_of_beq htype
    split at h
    · obtain ⟨l, hl, h⟩ := bind_eq_ok.mp h
      obtain ⟨u, hu, h⟩ := bind_eq_ok.mp h
      obtain ⟨hnew, hbounds, rfl⟩ := addReal_ofDeclarations.mp h
      exact ⟨_, .real hparts hname (readReal_eq_ok.mp hl) (readReal_eq_ok.mp hu) hbounds, hnew, rfl⟩
    · simp at h
  split at h
  · rename_i htype
    obtain rfl := eq_of_beq htype
    split at h
    · obtain ⟨l, hl, h⟩ := bind_eq_ok.mp h
      obtain ⟨u, hu, h⟩ := bind_eq_ok.mp h
      obtain ⟨hnew, hbounds, rfl⟩ := addWhole_ofDeclarations.mp h
      exact ⟨_, .whole hparts hname (readWhole_eq_ok.mp hl) (readWhole_eq_ok.mp hu) hbounds, hnew, rfl⟩
    · simp at h
  · simp at h

/-- What a line adds to the space of some declarations: the variable that it declares, unless there is one
of its kind and name. -/
theorem addLine_eq_ok {line : String} :
    (ofDeclarations ds).addLine line = .ok s' ↔ ∃ d, Declares line d ∧
      d.name ∉ Declaration.namesOf d.kind ds ∧ s' = ofDeclarations (ds ++ [d]) := by
  constructor
  · intro h
    unfold addLine at h
    split at h
    · rename_i hparts
      obtain ⟨name, hname, hadded⟩ := bind_eq_ok.mp h
      obtain ⟨hname, rfl⟩ := checkName_iff.mp hname
      exact exists_declares hparts hname hadded
    · simp at h
  · rintro ⟨d, hd, hnew, rfl⟩
    unfold addLine
    cases hd with
    | bool hparts hname =>
      rw [hparts]
      exact bind_eq_ok.mpr ⟨_, checkName_iff.mpr ⟨hname, rfl⟩, addBool_ofDeclarations.mpr ⟨hnew, rfl⟩⟩
    | real hparts hname hl hu hbounds =>
      rw [hparts]
      exact bind_eq_ok.mpr ⟨_, checkName_iff.mpr ⟨hname, rfl⟩,
        bind_eq_ok.mpr ⟨_, readReal_eq_ok.mpr hl,
          bind_eq_ok.mpr ⟨_, readReal_eq_ok.mpr hu, addReal_ofDeclarations.mpr ⟨hnew, hbounds, rfl⟩⟩⟩⟩
    | whole hparts hname hl hu hbounds =>
      rw [hparts]
      exact bind_eq_ok.mpr ⟨_, checkName_iff.mpr ⟨hname, rfl⟩,
        bind_eq_ok.mpr ⟨_, readWhole_eq_ok.mpr hl,
          bind_eq_ok.mpr ⟨_, readWhole_eq_ok.mpr hu, addWhole_ofDeclarations.mpr ⟨hnew, hbounds, rfl⟩⟩⟩⟩

/-- The space of a list of declarations has been declared with these. -/
theorem mem_declarations_ofDeclarations {d : Declaration} :
    d ∈ (ofDeclarations ds).declarations ↔ d ∈ ds := by
  rw [mem_declarations]
  constructor
  · rintro (⟨e, he, rfl⟩ | ⟨e, he, rfl⟩ | ⟨e, he, rfl⟩) <;>
      obtain ⟨a, ha, hentry⟩ := List.mem_filterMap.mp he
    · cases a with
      | bool name =>
        obtain rfl := Option.some.inj hentry
        exact ha
      | _ => simp [Declaration.bool?] at hentry
    · cases a with
      | real name lower upper =>
        obtain rfl := Option.some.inj hentry
        exact ha
      | _ => simp [Declaration.real?] at hentry
    · cases a with
      | whole name lower upper =>
        obtain rfl := Option.some.inj hentry
        exact ha
      | _ => simp [Declaration.whole?] at hentry
  · intro hd
    cases d with
    | bool => exact .inl ⟨_, List.mem_filterMap.mpr ⟨_, hd, rfl⟩, rfl⟩
    | real => exact .inr (.inl ⟨_, List.mem_filterMap.mpr ⟨_, hd, rfl⟩, rfl⟩)
    | whole => exact .inr (.inr ⟨_, List.mem_filterMap.mpr ⟨_, hd, rfl⟩, rfl⟩)

/-- The names of a kind in the space of a list of declarations. -/
theorem namesOf_ofDeclarations (k : VariableKind) :
    Declaration.namesOf k (ofDeclarations ds).declarations = Declaration.namesOf k ds := by
  cases k with
  | bool => rw [namesOf_declarations_bool, names_bools]
  | real => rw [namesOf_declarations_real, names_reals]
  | whole => rw [namesOf_declarations_whole, names_wholes]

theorem size_ofDeclarations : (ofDeclarations ds).size = ds.length := by
  induction ds with
  | nil => rfl
  | cons d ds ih =>
    cases d <;>
      simp only [size, ofDeclarations, List.filterMap_cons, Declaration.bool?, Declaration.real?,
        Declaration.whole?, List.length_cons] at ih ⊢ <;>
      omega

/-- A space depends on the declarations of each kind alone. -/
theorem ofDeclarations_congr {es : List Declaration}
    (h : ∀ k, ds.filter (·.kind == k) = es.filter (·.kind == k)) :
    ofDeclarations ds = ofDeclarations es := by
  have hpart : ∀ {β : Type} (part : Declaration → Option β) (k : VariableKind),
      (∀ d, d.kind ≠ k → part d = none) → ds.filterMap part = es.filterMap part := by
    intro β part k hpart
    have hfilter : ∀ l : List Declaration, (l.filter (·.kind == k)).filterMap part = l.filterMap part := by
      intro l
      rw [List.filterMap_filter]
      refine List.filterMap_congr fun d _ => ?_
      by_cases hd : d.kind = k
      · simp [hd]
      · simp [hd, hpart d hd]
    rw [← hfilter ds, h k, hfilter es]
  unfold ofDeclarations
  rw [hpart Declaration.bool? .bool, hpart Declaration.real? .real, hpart Declaration.whole? .whole]
  all_goals
    intro d hd
    cases d <;> simp_all [Declaration.bool?, Declaration.real?, Declaration.whole?]

end SearchSpace

open SearchSpace

/-- The lines that are accepted after some declarations are those that declare more variables, no two of a
kind under one name. -/
theorem foldlM_addLine_eq_ok {lines : List String} {ds : List Declaration} {s : SearchSpace}
    (hds : ∀ k, (Declaration.namesOf k ds).Nodup) :
    lines.foldlM SearchSpace.addLine (ofDeclarations ds) = .ok s ↔
      ∃ es, List.Forall₂ Declares lines es ∧ (∀ k, (Declaration.namesOf k (ds ++ es)).Nodup) ∧
        s = ofDeclarations (ds ++ es) := by
  induction lines generalizing ds s with
  | nil =>
    rw [List.foldlM_nil]
    constructor
    · intro h
      refine ⟨[], .nil, ?_, ?_⟩
      · rwa [List.append_nil]
      · rw [List.append_nil]
        exact (Except.ok.inj h).symm
    · rintro ⟨es, hes, -, rfl⟩
      obtain rfl := List.forall₂_nil_left_iff.mp hes
      rw [List.append_nil]
      rfl
  | cons line lines ih =>
    rw [List.foldlM_cons, bind_eq_ok]
    constructor
    · rintro ⟨s', hline, hlines⟩
      obtain ⟨d, hd, hnew, rfl⟩ := addLine_eq_ok.mp hline
      obtain ⟨es, hes, hnodup, rfl⟩ := (ih (Declaration.nodup_concat.mpr ⟨hds, hnew⟩)).mp hlines
      rw [List.append_assoc] at hnodup ⊢
      exact ⟨d :: es, .cons hd hes, hnodup, rfl⟩
    · rintro ⟨es, hes, hnodup, rfl⟩
      obtain ⟨d, es, hd, hrest, rfl⟩ := List.forall₂_cons_left_iff.mp hes
      rw [List.append_cons] at hnodup ⊢
      have hprefix : ∀ k, (Declaration.namesOf k (ds ++ [d])).Nodup := by
        intro k
        have hk := hnodup k
        rw [Declaration.namesOf_append] at hk
        exact hk.of_append_left
      refine ⟨_, addLine_eq_ok.mpr ⟨d, hd, (Declaration.nodup_concat.mp hprefix).2, rfl⟩, ?_⟩
      rw [ih hprefix]
      exact ⟨es, hrest, hnodup, rfl⟩

/-- A text is accepted if each of its lines declares a variable and no two of a kind have one name; its
space is that of the declarations. -/
theorem readVariables_eq_ok {text : String} {s : SearchSpace} : readVariables text = .ok s ↔
    ∃ ds, List.Forall₂ Declares (definitionLines text) ds ∧ (∀ k, (Declaration.namesOf k ds).Nodup) ∧
      s = ofDeclarations ds := by
  have hnone : ∀ k, (Declaration.namesOf k []).Nodup := fun _ => List.nodup_nil
  exact foldlM_addLine_eq_ok hnone

/-- An accepted text has declared what its space has been declared with. -/
theorem mem_declarations_of_readVariables {text : String} {s : SearchSpace}
    (h : readVariables text = .ok s) {d : Declaration} : d ∈ s.declarations ↔ Declared text d := by
  obtain ⟨ds, hds, -, rfl⟩ := readVariables_eq_ok.mp h
  rw [mem_declarations_ofDeclarations]
  constructor
  · exact Declares.exists_of_mem hds
  · rintro ⟨line, hline, hd⟩
    obtain ⟨e, he, hdeclares⟩ := Declares.exists_of_line hds hline
    exact hd.unique hdeclares ▸ he

/-- The lines of a kind declare the variables of that kind. -/
theorem declares_ofKind {text : String} {ds : List Declaration}
    (h : List.Forall₂ Declares (definitionLines text) ds) (k : VariableKind) :
    List.Forall₂ Declares (linesOfKind k text) (ds.filter (·.kind == k)) := by
  unfold linesOfKind
  refine List.rel_filter (fun line d hline => ?_) h
  simp only [hline.second_part, beq_iff_eq, Option.some.injEq]
  cases k <;> cases d.kind <;> decide

/-- The grammar of variable definitions. A text is accepted exactly if each of its lines declares a variable
and no two of a kind have one name; all others are refused. The space of an accepted text lists the
variables of each kind in the order of their lines, before any draw, and holds as many as there are lines.
Texts with the same lines of each kind give the same space, and so the same draws from one generator. -/
theorem readVariables_exact (text : String) :
    ((∃ s, readVariables text = .ok s) ↔
      ∃ ds, List.Forall₂ Declares (definitionLines text) ds ∧
        ∀ k, (Declaration.namesOf k ds).Nodup) ∧
    ((¬∃ s, readVariables text = .ok s) → ∃ f : ConfigFault, readVariables text = .error f) ∧
    ∀ s, readVariables text = .ok s →
      (∃ ds, List.Forall₂ Declares (definitionLines text) ds ∧ s = ofDeclarations ds) ∧
      s.size = (definitionLines text).length ∧
      ∀ text' s', readVariables text' = .ok s' →
        (∀ k, linesOfKind k text' = linesOfKind k text) →
          s' = s ∧ ∀ {γ : Type} [Generator γ] (g : γ), s'.randomize g = s.randomize g := by
  refine ⟨⟨?_, ?_⟩, ?_, ?_⟩
  · rintro ⟨s, h⟩
    obtain ⟨ds, hds, hnodup, -⟩ := readVariables_eq_ok.mp h
    exact ⟨ds, hds, hnodup⟩
  · rintro ⟨ds, hds, hnodup⟩
    exact ⟨_, readVariables_eq_ok.mpr ⟨ds, hds, hnodup, rfl⟩⟩
  · intro h
    cases hread : readVariables text with
    | ok s => exact absurd ⟨s, hread⟩ h
    | error f => exact ⟨f, rfl⟩
  · intro s h
    obtain ⟨ds, hds, -, rfl⟩ := readVariables_eq_ok.mp h
    refine ⟨⟨ds, hds, rfl⟩, ?_, ?_⟩
    · rw [size_ofDeclarations, hds.length_eq]
    · intro text' s' h' hlines
      obtain ⟨ds', hds', -, rfl⟩ := readVariables_eq_ok.mp h'
      have hsame : ofDeclarations ds' = ofDeclarations ds := by
        refine ofDeclarations_congr fun k => ?_
        have hunique : Relator.RightUnique Declares := fun _ _ _ => Declares.unique
        have hk := declares_ofKind hds' k
        rw [hlines k] at hk
        exact hunique.forall₂ hk (declares_ofKind hds k)
      exact ⟨hsame, fun g => by rw [hsame]⟩

end Backtest
