import Backtest.Proofs.Declarations
import Mathlib.Data.List.Dedup
import Mathlib.Data.List.Perm.Basic

/-!
# The parameters that a strategy receives

A strategy receives the values of a search space in one table by name. Names are unique within a kind only,
so a truth value, a float and a whole number may bear one name; then the later kind stands in the table, and
the values of the others do not reach the strategy. Each variable has an entry of its own exactly if no name
is declared in two kinds.

* `Table.get?_merge`, `Table.mem_names_merge`, `Table.nodup_names_merge`, what a merged table holds;
* `SearchSpace.value?`, the value of a variable; `SearchSpace.standing?`, that of the last kind;
* `parameters_declared`, the main statement; `not_all_entered`, a name of two kinds.
-/

namespace Backtest

namespace Table

variable {β : Type} {t u : Table β} {m : String}

theorem get?_eq_none : t.get? m = none ↔ m ∉ t.map (·.1) := by
  rw [get?, Option.map_eq_none_iff, List.find?_eq_none]
  simp only [beq_iff_eq, List.mem_map, not_exists, not_and]

theorem get?_of_mem (hnodup : (t.map (·.1)).Nodup) {e : String × β} (he : e ∈ t) :
    t.get? e.1 = some e.2 := by
  induction t with
  | nil => exact absurd he List.not_mem_nil
  | cons d t ih =>
    obtain ⟨n, v⟩ := d
    rw [List.map_cons, List.nodup_cons] at hnodup
    rw [get?_cons]
    rcases List.mem_cons.mp he with rfl | hrest
    · exact if_pos rfl
    · have hne : n ≠ e.1 := by
        rintro rfl
        exact hnodup.1 (List.mem_map.mpr ⟨e, hrest, rfl⟩)
      rw [if_neg hne, ih hnodup.2 hrest]

theorem get?_map {δ : Type} (t : Table β) (f : β → δ) (m : String) :
    Table.get? (t.map fun e => (e.1, f e.2)) m = (t.get? m).map f := by
  induction t with
  | nil => rfl
  | cons d t ih =>
    obtain ⟨n, v⟩ := d
    rw [List.map_cons, get?_cons, get?_cons, ih]
    split <;> rfl

/-- The entries of the second table stand, and those of the first that it does not name. -/
theorem get?_merge (t : Table β) (hu : (u.map (·.1)).Nodup) (m : String) :
    (t.merge u).get? m = (u.get? m).or (t.get? m) := by
  by_cases hm : m ∈ u.map (·.1)
  · obtain ⟨e, he, rfl⟩ := List.mem_map.mp hm
    have hall : ∀ d ∈ u, d.1 = e.1 → d.2 = e.2 := by
      intro d hd hname
      have hfound := get?_of_mem hu hd
      rw [hname, get?_of_mem hu he] at hfound
      exact (Option.some.inj hfound).symm
    rw [get?_merge_of_forall t hall hm, get?_of_mem hu he, Option.some_or]
  · rw [get?_merge_of_not_mem t hm, get?_eq_none.mpr hm, Option.none_or]

theorem mem_names_put {name : String} {value : β} :
    m ∈ (t.put name value).map (·.1) ↔ m ∈ t.map (·.1) ∨ m = name := by
  rw [map_fst_put]
  split
  · rename_i hhas
    have hmem : name ∈ t.map (·.1) := by
      by_contra hnot
      rw [has_eq_false.mpr hnot] at hhas
      exact Bool.false_ne_true hhas
    constructor
    · exact .inl
    · rintro (h | rfl)
      · exact h
      · exact hmem
  · rw [List.mem_append, List.mem_singleton]

theorem mem_names_merge : m ∈ (t.merge u).map (·.1) ↔ m ∈ t.map (·.1) ∨ m ∈ u.map (·.1) := by
  induction u generalizing t with
  | nil => simp
  | cons e u ih => rw [merge_cons, ih, mem_names_put, List.map_cons, List.mem_cons, or_assoc]

theorem nodup_names_put (ht : (t.map (·.1)).Nodup) (name : String) (value : β) :
    ((t.put name value).map (·.1)).Nodup := by
  rw [map_fst_put]
  split
  · exact ht
  · rename_i hhas
    rw [← List.concat_eq_append]
    exact ht.concat (has_eq_false.mp (Bool.eq_false_iff.mpr hhas))

theorem nodup_names_merge (ht : (t.map (·.1)).Nodup) : ((t.merge u).map (·.1)).Nodup := by
  induction u generalizing t with
  | nil => exact ht
  | cons e u ih => exact ih (nodup_names_put ht e.1 e.2)

end Table

namespace SearchSpace

variable {s : SearchSpace}

/-- The current value of the variable of a kind and name. -/
def value? (s : SearchSpace) (k : VariableKind) (name : String) : Option Value :=
  match k with
  | .bool => (s.bools.get? name).map .bool
  | .real => (s.reals.get? name).map fun r => .real r.value
  | .whole => (s.wholes.get? name).map fun r => .whole r.value

/-- The value that stands under a name: that of the last kind that has a variable of the name. -/
def standing? (s : SearchSpace) (name : String) : Option Value :=
  (s.value? .whole name).or ((s.value? .real name).or (s.value? .bool name))

variable {name : String} {k : VariableKind}

theorem value?_eq_none : s.value? k name = none ↔ name ∉ Declaration.namesOf k s.declarations := by
  cases k with
  | bool => rw [value?, Option.map_eq_none_iff, Table.get?_eq_none, namesOf_declarations_bool]
  | real => rw [value?, Option.map_eq_none_iff, Table.get?_eq_none, namesOf_declarations_real]
  | whole => rw [value?, Option.map_eq_none_iff, Table.get?_eq_none, namesOf_declarations_whole]

/-- Under each name stands the value of the last kind. -/
theorem get?_parameters (h : ∀ k, (Declaration.namesOf k s.declarations).Nodup) (name : String) :
    s.parameters.get? name = s.standing? name := by
  have hreals := h .real
  have hwholes := h .whole
  rw [namesOf_declarations_real] at hreals
  rw [namesOf_declarations_whole] at hwholes
  have hbool : Table.get? (s.bools.map fun e => (e.1, Value.bool e.2)) name = s.value? .bool name :=
    Table.get?_map s.bools Value.bool name
  have hreal : Table.get? (s.reals.map fun e => (e.1, Value.real e.2.value)) name =
      s.value? .real name := Table.get?_map s.reals (fun r => Value.real r.value) name
  have hwhole : Table.get? (s.wholes.map fun e => (e.1, Value.whole e.2.value)) name =
      s.value? .whole name := Table.get?_map s.wholes (fun r => Value.whole r.value) name
  unfold parameters standing?
  rw [Table.get?_merge _ (by rwa [List.map_map]), Table.get?_merge _ (by rwa [List.map_map]), hbool,
    hreal, hwhole]

theorem nodup_parameters (h : ∀ k, (Declaration.namesOf k s.declarations).Nodup) :
    (s.parameters.map (·.1)).Nodup := by
  have hbools := h .bool
  rw [namesOf_declarations_bool] at hbools
  unfold parameters
  refine Table.nodup_names_merge (Table.nodup_names_merge ?_)
  rwa [List.map_map]

/-- The names of the parameters are those that are declared. -/
theorem mem_names_parameters :
    name ∈ s.parameters.map (·.1) ↔ name ∈ s.declarations.map Declaration.name := by
  unfold parameters declarations
  rw [Table.mem_names_merge, Table.mem_names_merge]
  simp only [List.map_append, List.map_map, List.mem_append]
  rfl

theorem length_parameters (h : ∀ k, (Declaration.namesOf k s.declarations).Nodup) :
    s.parameters.length = s.size ↔ (s.declarations.map Declaration.name).Nodup := by
  have hperm : (s.parameters.map (·.1)).Perm (s.declarations.map Declaration.name).dedup := by
    rw [List.perm_ext_iff_of_nodup (nodup_parameters h) (List.nodup_dedup _)]
    intro name
    rw [List.mem_dedup, mem_names_parameters]
  have hlength := hperm.length_eq
  rw [List.length_map] at hlength
  have hsize : s.size = (s.declarations.map Declaration.name).length := by
    rw [List.length_map, size_eq]
  rw [hlength, hsize]
  constructor
  · intro heq
    exact List.dedup_eq_self.mp ((List.dedup_sublist _).eq_of_length heq)
  · intro hnodup
    rw [hnodup.dedup]

/-- If no name occurs in two kinds, the value of a variable stands under its name. -/
theorem standing?_of_single {d : Declaration}
    (h : ∀ e ∈ s.declarations, e.name = d.name → e.kind = d.kind) :
    s.standing? d.name = s.value? d.kind d.name := by
  have hnone : ∀ k, k ≠ d.kind → s.value? k d.name = none := by
    intro k hk
    rw [value?_eq_none, Declaration.mem_namesOf]
    rintro ⟨e, he, rfl, hname⟩
    exact hk (h e he hname)
  unfold standing?
  cases hkind : d.kind <;> rw [hkind] at hnone
  case bool => rw [hnone .whole (by decide), hnone .real (by decide), Option.none_or, Option.none_or]
  case real =>
    rw [hnone .whole (by decide), hnone .bool (by decide), Option.none_or, Option.or_none]
  case whole =>
    rw [hnone .real (by decide), hnone .bool (by decide), Option.none_or, Option.or_none]

end SearchSpace

/-- No name of the text is declared in two kinds. -/
def SingleKinds (text : String) : Prop :=
  ∀ d e, Declared text d → Declared text e → d.name = e.name → d.kind = e.kind

/-- The parameters of an accepted text, whatever its values are by now. They hold each declared name once,
and under it the value of the last kind in which it is declared; each declared variable has a value. There
are as many as variables, one for each line, exactly if no name is declared in two kinds, and then each
variable has its own value under its name. -/
theorem parameters_declared {text : String} {start s : SearchSpace}
    (hstart : readVariables text = .ok start) (hs : s.declarations = start.declarations) :
    (s.parameters.map (·.1)).Nodup ∧
    (∀ name, s.parameters.get? name = s.standing? name) ∧
    (∀ d, Declared text d → ∃ v, s.value? d.kind d.name = some v) ∧
    s.size = (definitionLines text).length ∧
    (s.parameters.length = s.size ↔ SingleKinds text) ∧
    (SingleKinds text → ∀ d, Declared text d → s.parameters.get? d.name = s.value? d.kind d.name) := by
  have hmem : ∀ d, d ∈ s.declarations ↔ Declared text d := by
    intro d
    rw [hs, mem_declarations_of_readVariables hstart]
  obtain ⟨ds, hds, hnodup, rfl⟩ := readVariables_eq_ok.mp hstart
  have hnames : ∀ k, (Declaration.namesOf k s.declarations).Nodup := by
    intro k
    rw [hs, SearchSpace.namesOf_ofDeclarations]
    exact hnodup k
  refine ⟨s.nodup_parameters hnames, s.get?_parameters hnames, ?_, ?_, ?_, ?_⟩
  · intro d hd
    refine Option.ne_none_iff_exists'.mp fun hnone => ?_
    exact SearchSpace.value?_eq_none.mp hnone
      (Declaration.mem_namesOf.mpr ⟨d, (hmem d).mpr hd, rfl, rfl⟩)
  · rw [SearchSpace.size_eq, hs, ← SearchSpace.size_eq, SearchSpace.size_ofDeclarations, hds.length_eq]
  · rw [SearchSpace.length_parameters hnames, Declaration.nodup_names hnames]
    constructor
    · intro h d e hd he
      exact h d ((hmem d).mpr hd) e ((hmem e).mpr he)
    · intro h d hd e he
      exact h d e ((hmem d).mp hd) ((hmem e).mp he)
  · intro h d hd
    rw [SearchSpace.get?_parameters hnames]
    exact SearchSpace.standing?_of_single fun e he => h e d ((hmem e).mp he) hd

/-- A float and a whole number of one name after some draw: the whole number stands. -/
theorem parameters_declared_drawn :
    ∃ start s : SearchSpace, readVariables "b,bool;x,float,0.25,0.75;x,int,3,9" = .ok start ∧
      s.declarations = start.declarations ∧ s.parameters.get? "x" = some (.whole 4) := by
  have hstart : readVariables "b,bool;x,float,0.25,0.75;x,int,3,9" =
      .ok ⟨[("b", false)], [("x", ⟨0.25, 0.75, 0.0⟩)], [("x", ⟨3, 9, 0⟩)]⟩ := rfl
  let s : SearchSpace := ⟨[("b", true)], [("x", ⟨0.25, 0.75, 0.5⟩)], [("x", ⟨3, 9, 4⟩)]⟩
  exact ⟨_, s, hstart, rfl, (parameters_declared (s := s) hstart rfl).2.1 "x"⟩

/-- A name of two kinds: both definitions are accepted, and one value reaches the strategy. -/
theorem not_all_entered : ∃ s, readVariables "a,bool;a,int,1,2" = .ok s ∧
    (definitionLines "a,bool;a,int,1,2").length = 2 ∧ s.size = 2 ∧ s.parameters.length = 1 :=
  ⟨⟨[("a", false)], [], [("a", ⟨1, 2, 0⟩)]⟩, rfl, rfl, rfl, rfl⟩

end Backtest
