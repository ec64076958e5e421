import Backtest.Proofs.Declarations
import Backtest.Proofs.Generators

/-!
# Bounds of drawn values

A search space is built from a text or variable by variable, and its values are drawn again and again. A
variable that cannot be added leaves the space as it is, and so does a value that is not found. After a draw
every value lies within the bounds of its variable, however large they are, unless a bound is no number: a
lower bound that is no number is not at or above any upper one, so it is accepted, and then the lower bound
is what is drawn.

* `SpaceStep`, what is done with a space; `SearchSpace.step`, `SearchSpace.after`;
* `RealRange.Drawn`, `WholeRange.Drawn`, a number within its bounds; `SearchSpace.Drawn`, all numbers are;
* `RealRange.drawn_draw`, the draw of a float; `SearchSpace.Sound`, the bounds of a space are in order;
* `SearchSpace.draws_keep_bounds`, the main statement; `SearchSpace.not_drawn_nan`, a bound that is no
  number.
-/

namespace Backtest

open FloatOrder

/-! ### Ranges -/

/-- A float within its bounds, the upper one excluded. If a bound is no number, it is the lower one. -/
structure RealRange.Drawn (r : RealRange) : Prop where
  within : r.lower.isNaN = false → r.upper.isNaN = false → r.lower ≤ r.value ∧ r.value < r.upper
  fallback : r.lower.isNaN = true ∨ r.upper.isNaN = true → r.value = r.lower

/-- A whole number within its bounds, both included. -/
structure WholeRange.Drawn (r : WholeRange) : Prop where
  lower_le : r.lower ≤ r.value
  le_upper : r.value ≤ r.upper

section Draw

variable {γ : Type} [Generator γ] [LawfulGenerator γ]

/-- What a float is drawn as is not below its lower bound, if it is a number. -/
theorem RealRange.lower_le_sum {lower upper u : Float} (hlower : lower.isNaN = false)
    (hbounds : lower < upper) (hu : 0.0 ≤ u) :
    (lower + (upper - lower) * u).isNaN = true ∨ lower ≤ lower + (upper - lower) * u := by
  rcases zero_le_mul (zero_le_sub hbounds) hu with hproduct | hproduct
  · exact .inl (isNaN_add (.inr hproduct))
  · exact le_add hlower hproduct

theorem RealRange.drawn_draw {r : RealRange} (h : ¬ r.lower ≥ r.upper) (g : γ) : (r.draw g).1.Drawn := by
  obtain ⟨x, hx⟩ : ∃ x, x = r.lower + (r.upper - r.lower) * (Generator.unit g).1 := ⟨_, rfl⟩
  have hvalue : (r.draw g).1 = { r with value := if x < r.upper then x else r.lower } := by
    rw [hx]
    rfl
  rw [hvalue]
  constructor
  · intro hlower hupper
    have hlt : r.lower < r.upper :=
      (lt_or_isNaN hlower h).resolve_right (by rw [hupper]; exact Bool.false_ne_true)
    show r.lower ≤ (if x < r.upper then x else r.lower) ∧ (if x < r.upper then x else r.lower) < r.upper
    by_cases hbelow : x < r.upper
    · rw [if_pos hbelow]
      refine ⟨?_, hbelow⟩
      have hle := lower_le_sum hlower hlt (LawfulGenerator.zero_le_unit g)
      rw [← hx] at hle
      refine hle.resolve_left ?_
      rw [isNaN_eq_false_of_gt hbelow]
      exact Bool.false_ne_true
    · rw [if_neg hbelow]
      exact ⟨le_self hlower, hlt⟩
  · intro hnan
    refine if_neg fun hbelow => ?_
    rcases hnan with hnan | hnan
    · have hsum : x.isNaN = true := hx ▸ isNaN_add (.inl hnan)
      rw [isNaN_eq_false_of_gt hbelow] at hsum
      exact Bool.false_ne_true hsum
    · rw [isNaN_eq_false_of_lt hbelow] at hnan
      exact Bool.false_ne_true hnan

theorem WholeRange.drawn_draw {r : WholeRange} (h : r.lower < r.upper) (g : γ) : (r.draw g).1.Drawn :=
  ⟨(LawfulGenerator.between_mem r.lower r.upper g h.le).1,
    (LawfulGenerator.between_mem r.lower r.upper g h.le).2⟩

end Draw

namespace SearchSpace

variable {s s' : SearchSpace}

/-! ### One draw -/

/-- All numbers of a space are within their bounds. -/
structure Drawn (s : SearchSpace) : Prop where
  reals : ∀ e ∈ s.reals, e.2.Drawn
  wholes : ∀ e ∈ s.wholes, e.2.Drawn

/-- The bounds of a space are in order: no lower bound is at or above its upper bound. -/
def Sound (s : SearchSpace) : Prop := ∀ d ∈ s.declarations, d.Ordered

theorem sound_iff : s.Sound ↔ (∀ e ∈ s.reals, ¬ e.2.lower ≥ e.2.upper) ∧
    ∀ e ∈ s.wholes, ¬ e.2.lower ≥ e.2.upper := by
  constructor
  · intro h
    refine ⟨fun e he => ?_, fun e he => ?_⟩
    · exact h (.real e.1 e.2.lower e.2.upper) (mem_declarations.mpr (.inr (.inl ⟨e, he, rfl⟩)))
    · exact h (.whole e.1 e.2.lower e.2.upper) (mem_declarations.mpr (.inr (.inr ⟨e, he, rfl⟩)))
  · rintro ⟨hreals, hwholes⟩ d hd
    rcases mem_declarations.mp hd with ⟨e, he, rfl⟩ | ⟨e, he, rfl⟩ | ⟨e, he, rfl⟩
    · exact trivial
    · exact hreals e he
    · exact hwholes e he

section Draws

variable {γ β δ : Type} {draw : β → γ → β × γ}

theorem forall_drawEach {P : β → Prop} {t : Table β} (h : ∀ e ∈ t, ∀ g, P (draw e.2 g).1) (g : γ) :
    ∀ e ∈ (drawEach draw t g).1, P e.2 := by
  induction t generalizing g with
  | nil => exact fun e he => absurd he List.not_mem_nil
  | cons d t ih =>
    obtain ⟨name, x⟩ := d
    intro e he
    rcases List.mem_cons.mp he with rfl | he
    · exact h (name, x) List.mem_cons_self g
    · exact ih (fun d hd => h d (List.mem_cons_of_mem _ hd)) _ e he

/-- What the draws leave of each entry they leave of all. -/
theorem map_drawEach {label : String × β → δ} (h : ∀ name x g, label (name, (draw x g).1) = label (name, x))
    (t : Table β) (g : γ) : (drawEach draw t g).1.map label = t.map label := by
  induction t generalizing g with
  | nil => rfl
  | cons d t ih =>
    obtain ⟨name, x⟩ := d
    exact congrArg₂ List.cons (h name x g) (ih (draw x g).2)

variable [Generator γ]

/-- A draw leaves names, their order and bounds. -/
theorem declarations_randomize (s : SearchSpace) (g : γ) :
    (s.randomize g).1.declarations = s.declarations := by
  obtain ⟨g', hbools⟩ : ∃ g', (s.randomize g).1.bools = (drawEach (fun _ => drawBool) s.bools g').1 :=
    ⟨g, rfl⟩
  obtain ⟨h, hreals⟩ : ∃ h, (s.randomize g).1.reals = (drawEach RealRange.draw s.reals h).1 := ⟨_, rfl⟩
  obtain ⟨k, hwholes⟩ : ∃ k, (s.randomize g).1.wholes = (drawEach WholeRange.draw s.wholes k).1 :=
    ⟨_, rfl⟩
  unfold declarations
  rw [hbools, hreals, hwholes, map_drawEach fun _ _ _ => rfl, map_drawEach fun _ _ _ => rfl,
    map_drawEach fun _ _ _ => rfl]

variable [LawfulGenerator γ]

/-- A draw puts all numbers within their bounds. -/
theorem Sound.drawn_randomize (h : s.Sound) (g : γ) : (s.randomize g).1.Drawn where
  reals := forall_drawEach (fun e he => RealRange.drawn_draw ((sound_iff.mp h).1 e he)) _
  wholes := forall_drawEach (fun e he => WholeRange.drawn_draw (not_le.mp ((sound_iff.mp h).2 e he))) _

end Draws

/-! ### Many steps -/

end SearchSpace

/-- What is done with a space. The draws may come from any generator that keeps to what it is asked for. -/
inductive SpaceStep : Type 1
  | addBool (name : String)
  | addReal (name : String) (lower upper : Float)
  | addWhole (name : String) (lower upper : ℤ)
  | getBool (name : String)
  | getReal (name : String)
  | getWhole (name : String)
  | randomize {γ : Type} [Generator γ] [LawfulGenerator γ] (g : γ)

namespace SearchSpace

variable {s s' : SearchSpace}

/-- The space that an addition gives, or the one there was if it is refused. -/
def orKept (s : SearchSpace) : Except ConfigFault SearchSpace → SearchSpace × Except Fault Unit
  | .ok s' => (s', .ok ())
  | .error f => (s, .error (.config f))

/-- The space after a step, and how the step ends. -/
def step (s : SearchSpace) : SpaceStep → SearchSpace × Except Fault Unit
  | .addBool name => s.orKept (s.addBool name)
  | .addReal name lower upper => s.orKept (s.addReal name lower upper)
  | .addWhole name lower upper => s.orKept (s.addWhole name lower upper)
  | .getBool name => (s, (s.getBool name).map fun _ => ())
  | .getReal name => (s, (s.getReal name).map fun _ => ())
  | .getWhole name => (s, (s.getWhole name).map fun _ => ())
  | @SpaceStep.randomize _ _ _ g => ((s.randomize g).1, .ok ())

/-- The space after steps that come one after the other, whether they fail or not. -/
def after (s : SearchSpace) (steps : List SpaceStep) : SearchSpace :=
  steps.foldl (fun s a => (s.step a).1) s

theorem orKept_error {x : Except ConfigFault SearchSpace} {f : Fault} (h : (s.orKept x).2 = .error f) :
    (s.orKept x).1 = s := by
  cases x with
  | ok s' => simp [orKept] at h
  | error f' => rfl

/-- A step that fails leaves the space as it was. -/
theorem step_error {a : SpaceStep} {f : Fault} (h : (s.step a).2 = .error f) : (s.step a).1 = s := by
  cases a with
  | addBool name => exact orKept_error h
  | addReal name lower upper => exact orKept_error h
  | addWhole name lower upper => exact orKept_error h
  | getBool name => rfl
  | getReal name => rfl
  | getWhole name => rfl
  | randomize g => simp [step] at h

theorem sound_empty : empty.Sound := fun _ hd => absurd hd List.not_mem_nil

theorem sound_of_readVariables {text : String} (h : readVariables text = .ok s) : s.Sound := by
  obtain ⟨ds, hds, -, rfl⟩ := readVariables_eq_ok.mp h
  intro d hd
  obtain ⟨line, -, hline⟩ := Declares.exists_of_mem hds (mem_declarations_ofDeclarations.mp hd)
  exact hline.ordered

theorem Sound.orKept (h : s.Sound) {x : Except ConfigFault SearchSpace}
    (hx : ∀ s', x = .ok s' → s'.Sound) : (s.orKept x).1.Sound := by
  cases x with
  | ok s' => exact hx s' rfl
  | error f => exact h

/-- Every step keeps the bounds in order. -/
theorem Sound.step (h : s.Sound) (a : SpaceStep) : (s.step a).1.Sound := by
  cases a with
  | addBool name =>
    refine h.orKept fun s' hs' => ?_
    obtain ⟨-, rfl⟩ := addBool_eq_ok.mp hs'
    have hnumbers := sound_iff.mp h
    exact sound_iff.mpr hnumbers
  | addReal name lower upper =>
    refine h.orKept fun s' hs' => ?_
    obtain ⟨-, hbounds, rfl⟩ := addReal_eq_ok.mp hs'
    obtain ⟨hreals, hwholes⟩ := sound_iff.mp h
    refine sound_iff.mpr ⟨List.forall_mem_append.mpr ⟨hreals, ?_⟩, hwholes⟩
    exact List.forall_mem_singleton.mpr hbounds
  | addWhole name lower upper =>
    refine h.orKept fun s' hs' => ?_
    obtain ⟨-, hbounds, rfl⟩ := addWhole_eq_ok.mp hs'
    obtain ⟨hreals, hwholes⟩ := sound_iff.mp h
    refine sound_iff.mpr ⟨hreals, List.forall_mem_append.mpr ⟨hwholes, ?_⟩⟩
    exact List.forall_mem_singleton.mpr hbounds
  | getBool name => exact h
  | getReal name => exact h
  | getWhole name => exact h
  | randomize g =>
    show ∀ d ∈ (s.randomize g).1.declarations, d.Ordered
    rw [declarations_randomize]
    exact h

theorem Sound.after (h : s.Sound) (steps : List SpaceStep) : (s.after steps).Sound := by
  induction steps generalizing s with
  | nil => exact h
  | cons a steps ih => exact ih (h.step a)

/-- The bounds of drawn values. However a space was read from a text or built, and whatever was drawn, asked
for or refused before: a draw puts every number within its bounds, and leaves the names, their order and
the bounds as they are; and a step that fails leaves the whole space as it was. -/
theorem draws_keep_bounds {start : SearchSpace}
    (hstart : start = .empty ∨ ∃ text, readVariables text = .ok start) (steps : List SpaceStep) :
    (∀ {γ : Type} [Generator γ] [LawfulGenerator γ] (g : γ),
      ((start.after steps).randomize g).1.Drawn ∧
        ((start.after steps).randomize g).1.declarations = (start.after steps).declarations) ∧
    ∀ (a : SpaceStep) (f : Fault), ((start.after steps).step a).2 = .error f →
      ((start.after steps).step a).1 = start.after steps := by
  have hsound : start.Sound := by
    rcases hstart with rfl | ⟨text, htext⟩
    · exact sound_empty
    · exact sound_of_readVariables htext
  refine ⟨fun g => ⟨?_, declarations_randomize _ g⟩, fun a f => step_error⟩
  exact (hsound.after steps).drawn_randomize g

/-- A space read from a text, to which a variable is added, another refused and values are asked for. -/
theorem draws_keep_bounds_built :
    ∃ start, readVariables "x,float,0.25,0.75;n,int,3,9" = .ok start ∧
      ∀ g : Twister, ((start.after [.addBool "b", .addReal "x" 0.0 1.0, .getWhole "k",
        .randomize (Twister.ofSeed 7)]).randomize g).1.Drawn := by
  have hstart : readVariables "x,float,0.25,0.75;n,int,3,9" =
      .ok ⟨[], [("x", ⟨0.25, 0.75, 0.0⟩)], [("n", ⟨3, 9, 0⟩)]⟩ := rfl
  exact ⟨_, hstart, fun g => ((draws_keep_bounds (.inr ⟨_, hstart⟩) _).1 g).1⟩

/-- A lower bound that is no number is accepted, and what is drawn is not within the bounds. -/
theorem not_drawn_nan : ∃ s, empty.addReal "x" (0.0 / 0.0) 1.0 = .ok s ∧
    ∃ e ∈ (s.randomize (Twister.ofSeed 7)).1.reals,
      ¬ (e.2.lower ≤ e.2.value ∧ e.2.value < e.2.upper) := by
  have hbounds : ¬ (0.0 / 0.0 : Float) ≥ 1.0 := by decide +kernel
  refine ⟨_, addReal_eq_ok.mpr ⟨List.not_mem_nil, hbounds, rfl⟩, _, List.mem_cons_self, ?_⟩
  have hdrawn := RealRange.drawn_draw (r := ⟨0.0 / 0.0, 1.0, 0.0⟩) hbounds (Twister.ofSeed 7)
  have hvalue := hdrawn.fallback (.inl (by decide +kernel))
  rintro ⟨hle, -⟩
  obtain ⟨value, hdraw⟩ : ∃ value,
      (RealRange.draw ⟨0.0 / 0.0, 1.0, 0.0⟩ (Twister.ofSeed 7)).1.value = value := ⟨_, rfl⟩
  have hself : (0.0 / 0.0 : Float) ≤ value := hdraw ▸ hle
  obtain rfl : value = 0.0 / 0.0 := hdraw.symm.trans hvalue
  exact absurd hself (by decide +kernel)

end SearchSpace

end Backtest
