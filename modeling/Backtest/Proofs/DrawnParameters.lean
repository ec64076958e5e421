import Backtest.Proofs.Bounds
import Backtest.Proofs.ParameterTable

/-!
# What a strategy receives of a draw

A draw goes through the variables of a space in the order of their kinds: truth values first, then floats,
then whole numbers, each kind as it was declared. Every variable takes what the generator gives where its
turn comes. A strategy receives the values by name, and under a name of two kinds the one drawn last.

* `Declaration.draw`, the value that a variable takes; `Declaration.drawAll`, those of variables one after
  the other;
* `DrawnFrom`, a table of what is drawn; `Table.get?_append`, `Table.get?_reverse`, tables read from their
  end;
* `SearchSpace.drawAll_declarations`, a draw variable by variable; `SearchSpace.drawnFrom_randomize`, the
  parameters of a space after a draw.
-/

namespace Backtest

namespace Table

variable {β : Type} {t : Table β}

theorem get?_append (t u : Table β) (m : String) : get? (t ++ u) m = (t.get? m).or (u.get? m) := by
  rw [get?, get?, get?, List.find?_append, Option.map_or]

/-- A table with unique names holds the same from its end. -/
theorem get?_reverse (h : (t.map (·.1)).Nodup) (m : String) : get? t.reverse m = t.get? m := by
  induction t with
  | nil => rfl
  | cons e t ih =>
    obtain ⟨n, x⟩ := e
    rw [List.map_cons, List.nodup_cons] at h
    rw [List.reverse_cons, get?_append, ih h.2, get?_cons, get?_cons]
    by_cases hm : n = m
    · subst hm
      rw [if_pos rfl, get?_eq_none.mpr h.1, Option.none_or, if_pos rfl]
    · rw [if_neg hm, if_neg hm]
      exact Option.or_none

end Table

/-! ### Draws -/

section Draw

variable {γ : Type} [Generator γ]

/-- The value that a variable takes from a generator, and the generator after it. -/
def Declaration.draw (g : γ) : Declaration → Value × γ
  | .bool _ => (.bool ((Generator.unit g).1 < 0.5), (Generator.unit g).2)
  | .real _ lower upper =>
    let x := lower + (upper - lower) * (Generator.unit g).1
    (.real (if x < upper then x else lower), (Generator.unit g).2)
  | .whole _ lower upper =>
    (.whole (Generator.between lower upper g).1, (Generator.between lower upper g).2)

/-- The values that variables take one after the other, and the generator after them. -/
def Declaration.drawAll : List Declaration → γ → Table Value × γ
  | [], g => ([], g)
  | d :: ds, g =>
    ((d.name, (d.draw g).1) :: (drawAll ds (d.draw g).2).1, (drawAll ds (d.draw g).2).2)

/-- A table holds what variables take from a generator one after the other: each name once, and under it
the value that was drawn last for it. -/
structure DrawnFrom (ds : List Declaration) (g : γ) (p : Parameters) : Prop where
  nodup : (p.map (·.1)).Nodup
  value : ∀ name, p.get? name = Table.get? (Declaration.drawAll ds g).1.reverse name

theorem Declaration.drawAll_append (ds es : List Declaration) (g : γ) :
    drawAll (ds ++ es) g =
      ((drawAll ds g).1 ++ (drawAll es (drawAll ds g).2).1, (drawAll es (drawAll ds g).2).2) := by
  induction ds generalizing g with
  | nil => rfl
  | cons d ds ih => simp only [List.cons_append, drawAll, ih]

namespace SearchSpace

variable {s : SearchSpace} {β : Type} {draw : β → γ → β × γ} {label : String × β → Declaration}

/-- A kind of variables is drawn entry by entry. -/
theorem drawAll_map (value : β → Value) (hname : ∀ e, (label e).name = e.1)
    (hdraw : ∀ e g, (label e).draw g = (value (draw e.2 g).1, (draw e.2 g).2)) (t : Table β) (g : γ) :
    Declaration.drawAll (t.map label) g =
      ((drawEach draw t g).1.map fun e => (e.1, value e.2), (drawEach draw t g).2) := by
  induction t generalizing g with
  | nil => rfl
  | cons e t ih =>
    obtain ⟨name, x⟩ := e
    simp only [List.map_cons, Declaration.drawAll, hname, hdraw, ih]
    rfl

/-- What is drawn variable by variable is what a space holds after a draw, kind by kind. -/
theorem drawAll_declarations (s : SearchSpace) (g : γ) :
    (Declaration.drawAll s.declarations g).1 =
      (s.randomize g).1.bools.map (fun e => (e.1, .bool e.2)) ++
        (s.randomize g).1.reals.map (fun e => (e.1, .real e.2.value)) ++
        (s.randomize g).1.wholes.map (fun e => (e.1, .whole e.2.value)) := by
  have hbools (g : γ) : Declaration.drawAll (s.bools.map fun e => .bool e.1) g =
      ((drawEach (fun _ => drawBool) s.bools g).1.map fun e => (e.1, .bool e.2),
        (drawEach (fun _ => drawBool) s.bools g).2) :=
    drawAll_map .bool (fun _ => rfl) (fun _ _ => rfl) s.bools g
  have hreals (g : γ) :
      Declaration.drawAll (s.reals.map fun e => .real e.1 e.2.lower e.2.upper) g =
        ((drawEach RealRange.draw s.reals g).1.map fun e => (e.1, .real e.2.value),
          (drawEach RealRange.draw s.reals g).2) :=
    drawAll_map (fun r => .real r.value) (fun _ => rfl) (fun _ _ => rfl) s.reals g
  have hwholes (g : γ) :
      Declaration.drawAll (s.wholes.map fun e => .whole e.1 e.2.lower e.2.upper) g =
        ((drawEach WholeRange.draw s.wholes g).1.map fun e => (e.1, .whole e.2.value),
          (drawEach WholeRange.draw s.wholes g).2) :=
    drawAll_map (fun r => .whole r.value) (fun _ => rfl) (fun _ _ => rfl) s.wholes g
  rw [declarations, Declaration.drawAll_append, Declaration.drawAll_append, hbools, hreals, hwholes]
  rfl

/-- The parameters of a space after a draw are what its variables take one after the other. -/
theorem drawnFrom_randomize (h : ∀ k, (Declaration.namesOf k s.declarations).Nodup) (g : γ) :
    DrawnFrom s.declarations g (s.randomize g).1.parameters := by
  have hnames : ∀ k, (Declaration.namesOf k (s.randomize g).1.declarations).Nodup := by
    intro k
    rw [declarations_randomize]
    exact h k
  refine ⟨nodup_parameters hnames, fun name => ?_⟩
  have hbools := hnames .bool
  have hreals := hnames .real
  have hwholes := hnames .whole
  rw [namesOf_declarations_bool] at hbools
  rw [namesOf_declarations_real] at hreals
  rw [namesOf_declarations_whole] at hwholes
  rw [get?_parameters hnames, drawAll_declarations, List.reverse_append, List.reverse_append,
    Table.get?_append, Table.get?_append, Table.get?_reverse (by rwa [List.map_map]),
    Table.get?_reverse (by rwa [List.map_map]), Table.get?_reverse (by rwa [List.map_map])]
  rw [Table.get?_map _ Value.bool, Table.get?_map _ fun r : RealRange => Value.real r.value,
    Table.get?_map _ fun r : WholeRange => Value.whole r.value]
  rfl

end SearchSpace

end Draw

end Backtest
