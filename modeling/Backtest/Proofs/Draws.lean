import Backtest.Proofs.DrawnParameters
import Backtest.Proofs.PassesMade

/-!
# What searches draw

The candidates of the searches of a run are drawn one after the other: each is what a generator of its own
gives, seeded by the next 64 bits of the generator of the run. No trial has a say in that, and a step
comes to its search when the steps before it have tried all their candidates. So the seed, the space and
the number of trials fix with which parameters the strategies are set up in sample.

* `Search.seedAt`, `Search.drawn`, the seeds that a generator gives and the parameters of each;
  `Search.drawnFrom_drawn`, how these are drawn;
* `Search.trials_drawn`, `Search.run_drawn`, the candidates of trials and of a search, failed or not;
* `Walk.run_setups`, the parameters with which a run has set strategies up;
* `Walk.reached_generator`, the generator after some steps; `Walk.tries_drawn`, what a step tries;
* `Walk.triedAll`, what a run tries, in order; `Walk.exists_triedUpTo`, all that is drawn up to a number;
* `Walk.run_draws`, the main statement.
-/

namespace Backtest

theorem of_getElem?_map_range {β : Type} {f : ℕ → β} {m j : ℕ} {x : β}
    (h : ((List.range m).map f)[j]? = some x) : j < m ∧ x = f j := by
  obtain ⟨hlt, rfl⟩ := List.getElem?_eq_some_iff.mp h
  rw [List.length_map, List.length_range] at hlt
  exact ⟨hlt, by rw [List.getElem_map, List.getElem_range]⟩

namespace Search

variable {space : SearchSpace} {trial : Trial} {strategy : Except Fault (Strategy Float)}
  {settings : Settings Float} {charts : List (Chart Float)} {ticks : List (Tick Float)}

/-! ### Seeds -/

/-- The generator after the draw of a seed. -/
def advance (g : Twister) : Twister := (Twister.bits 64 g).2

/-- The seeds that a generator gives, by their number from zero on. -/
def seedAt (g : Twister) (n : ℕ) : ℕ := (Twister.bits 64 (advance^[n] g)).1

/-- The parameters that a generator of its own draws for each seed. -/
def drawn (space : SearchSpace) (g : Twister) (n : ℕ) : Parameters :=
  (space.randomize (Twister.ofSeed (seedAt g n))).1.parameters

theorem drawn_advance (space : SearchSpace) (g : Twister) (m n : ℕ) :
    drawn space (advance^[m] g) n = drawn space g (m + n) := by
  unfold drawn seedAt
  rw [← Function.iterate_add_apply, Nat.add_comm n m]

/-- What is drawn for a seed is what the variables of a text take one after the other. -/
theorem drawnFrom_drawn {text : String} (h : readVariables text = .ok space) (g : Twister) (n : ℕ) :
    DrawnFrom space.declarations (Twister.ofSeed (seedAt g n)) (drawn space g n) := by
  obtain ⟨ds, -, hnodup, rfl⟩ := readVariables_eq_ok.mp h
  refine SearchSpace.drawnFrom_randomize (fun k => ?_) _
  rw [SearchSpace.namesOf_ofDeclarations]
  exact hnodup k

/-- Candidates have the parameters that are drawn one after the other. -/
theorem parameters_candidates (space : SearchSpace) (n : ℕ) (g : Twister) :
    (candidates space n g).map (·.parameters) = (List.range n).map (drawn space g) := by
  induction n generalizing g with
  | zero => rfl
  | succ n ih =>
    have hnext (k : ℕ) : drawn space (advance g) k = drawn space g (k + 1) := by
      rw [Nat.add_comm]
      exact drawn_advance space g 1 k
    rw [candidates, List.map_cons, List.range_succ_eq_map, List.map_cons, List.map_map]
    congr 1
    refine (ih (advance g)).trans (List.map_congr_left ?_)
    intro k _
    exact hnext k

/-! ### Trials -/

/-- Trials take candidates one after the other, all of them unless one fails. -/
theorem trials_drawn {n number : ℕ} {s s' : SearchState} {result : Except Fault Unit}
    (h : trials space trial n number s = (s', result)) :
    ∃ m, m ≤ n ∧ s'.candidates.toList = s.candidates.toList ++ candidates space m s.generator ∧
      s'.generator = advance^[m] s.generator ∧ (result = .ok () → m = n) := by
  induction n generalizing number s with
  | zero =>
    obtain ⟨rfl, rfl⟩ := Prod.mk.inj h
    exact ⟨0, Nat.le_refl 0, (List.append_nil _).symm, rfl, fun _ => rfl⟩
  | succ n ih =>
    have hcandidates : (step space trial number s).1.candidates.toList =
        s.candidates.toList ++ [(candidate space s.generator).1] := by
      simp only [step]
      split <;> simp
    have hgenerator : (step space trial number s).1.generator = advance s.generator := by
      simp only [step]
      split <;> rfl
    rw [trials] at h
    split at h <;> rename_i u hstep <;> rw [hstep] at hcandidates hgenerator
    · obtain ⟨rfl, rfl⟩ := Prod.mk.inj h
      exact ⟨1, by omega, hcandidates, hgenerator, by simp⟩
    · obtain ⟨m, hm, hrest, hg, hall⟩ := ih h
      refine ⟨m + 1, by omega, ?_, ?_, fun hok => by rw [hall hok]⟩
      · rw [hrest, hcandidates, hgenerator, List.append_assoc]
        rfl
      · rw [hg, hgenerator]
        rfl

/-- A search takes candidates one after the other, all of them unless it fails. -/
theorem run_drawn {n : ℕ} {g : Twister} {books : Books} {s : SearchState}
    {result : Except Fault (Option SearchResult)} (h : run space n trial g books = (s, result)) :
    ∃ m, m ≤ n ∧ s.candidates.toList = candidates space m g ∧ s.generator = advance^[m] g ∧
      (∀ found, result = .ok found → m = n) := by
  simp only [run, Int.toNat_natCast] at h
  split at h
  · rename_i htrials
    obtain ⟨rfl, rfl⟩ := Prod.mk.inj h
    obtain ⟨m, hm, hcandidates, hgenerator, -⟩ := trials_drawn htrials
    exact ⟨m, hm, hcandidates, hgenerator, by simp⟩
  · rename_i u htrials
    obtain ⟨m, hm, hcandidates, hgenerator, hall⟩ := trials_drawn htrials
    have hs : s.candidates = u.candidates ∧ s.generator = u.generator := by
      split at h <;> obtain rfl := (Prod.mk.inj h).1 <;> exact ⟨rfl, rfl⟩
    rw [hs.1, hs.2]
    exact ⟨m, hm, hcandidates, hgenerator, fun _ _ => hall rfl⟩

end Search

namespace Walk

variable {w : Walk} {books : Books} {g : Twister}

/-! ### The generator -/

@[simp] theorem gather_generator (sample : Sample) (k : ℕ) (start : ℤ) (days : ℕ) (s : WalkState) :
    (w.gather sample k start days s).1.generator = s.generator := by
  unfold gather
  split
  · rfl
  · split <;> rfl

@[simp] theorem approach_generator (k : ℕ) (s : WalkState) :
    (w.approach k s).1.generator = s.generator := by
  unfold approach
  simp only
  split
  · rfl
  · split <;> rfl

@[simp] theorem align_generator (s : WalkState) : (w.align s).1.generator = s.generator := by
  unfold align
  refine (andThen_kept WalkState.generator fun s _ => ?_).trans rfl
  exact (andThen_kept WalkState.generator fun _ _ => rfl).trans rfl

theorem prepare_generator (k : ℕ) (s : WalkState) : (w.prepare k s).1.generator = s.generator := by
  unfold prepare
  refine (andThen_kept WalkState.generator fun s _ => ?_).trans (approach_generator k s)
  exact gather_generator _ _ _ _ _

theorem follow_generator (k : ℕ) (charts : List (Chart Float)) (inSample : Stretch) (s : WalkState) :
    (w.follow k charts inSample s).1.generator = s.generator := by
  unfold follow
  refine (andThen_kept WalkState.generator fun s _ => ?_).trans rfl
  exact (andThen_kept WalkState.generator fun _ _ => rfl).trans (gather_generator _ _ _ _ _)

theorem execute_generator (charts : List (Chart Float)) (outOfSample : Stretch)
    (parameters : Parameters) (s : WalkState) :
    (w.execute charts outOfSample parameters s).1.generator = s.generator := by
  unfold execute
  simp only
  split <;> rfl

/-! ### The candidates of a step -/

/-- A search tries candidates one after the other, and moves the generator on by their number: that of all
trials unless the search failed. -/
theorem optimize_drawn {k : ℕ} {s s' : WalkState} {inSample : Stretch}
    {result : Except Fault (Option SearchResult)}
    (h : w.optimize k s.pristine inSample s = (s', result)) :
    ∃ m, m ≤ w.plan.iterations ∧
      w.triedAt s inSample = Search.candidates w.plan.space m s.generator ∧
      s'.generator = Search.advance^[m] s.generator ∧
      (∀ found, result = .ok found → m = w.plan.iterations) := by
  rcases hrun : Search.run w.plan.space w.plan.iterations
      (Trial.pass w.strategy w.settings s.pristine inSample.window.ticks) s.generator
      (s.tell (.stage .optimizing)).books with ⟨u, answer⟩
  obtain ⟨m, hm, hcandidates, hgenerator, hall⟩ := Search.run_drawn hrun
  have htried : w.triedAt s inSample = u.candidates.toList := by
    unfold triedAt
    rw [hrun]
  have hkept : s'.generator = u.generator ∧
      ∀ found, result = .ok found → ∃ found, answer = .ok found := by
    have hg : (s.tell (.stage .optimizing)).generator = s.generator := rfl
    simp only [optimize, hg] at h
    rw [hrun] at h
    rcases answer with f | _ | r <;> simp only at h <;> obtain ⟨rfl, rfl⟩ := Prod.mk.inj h <;>
      simp [WalkState.note]
  obtain ⟨hg, hok⟩ := hkept
  refine ⟨m, hm, htried.trans hcandidates, hg.trans hgenerator, ?_⟩
  intro found hfound
  obtain ⟨answered, hanswered⟩ := hok found hfound
  exact hall answered hanswered

/-! ### Runs -/

/-- The steps that a run has completed have drawn a seed for each of their trials. -/
theorem reached_generator {n : ℕ} {u : WalkState} (hu : w.reached books g n = some u) :
    u.generator = Search.advance^[n * w.plan.iterations] g := by
  refine reached_rule (I := fun n u => u.generator = Search.advance^[n * w.plan.iterations] g) ?_ ?_ hu
  · intro s halign
    have haligned := align_generator (w := w) (w.outset books g)
    rw [halign] at haligned
    rw [Nat.zero_mul]
    exact haligned
  · intro n v u r _ hr ih
    obtain ⟨s₁, i, s₂, found, s₃, charts, o, s₄, score, hprepare, hoptimize, hfollow, hexecute, -, rfl⟩ :=
      step_eq_completed hr
    obtain ⟨m, -, -, hsearch, hall⟩ := optimize_drawn hoptimize
    have hprepared := prepare_generator (w := w) (n + 1) v
    have hfollowed := follow_generator (w := w) (n + 1) s₁.pristine i s₂
    have hexecuted := execute_generator (w := w) charts o found.space.parameters s₃
    rw [hprepare] at hprepared
    rw [hfollow] at hfollowed
    rw [hexecute] at hexecuted
    calc s₄.generator = s₂.generator := hexecuted.trans hfollowed
      _ = Search.advance^[w.plan.iterations] v.generator := by
        rw [hsearch, hall _ rfl]
        exact congrArg _ hprepared
      _ = Search.advance^[(n + 1) * w.plan.iterations] g := by
        rw [ih, ← Function.iterate_add_apply, Nat.succ_mul, Nat.add_comm]

/-- A run that has come behind a step has come to its search, which ended, with a strategy that can be
made. -/
theorem exists_searched_of_reached {n : ℕ} {v : WalkState} (hn : n < w.plan.steps)
    (hv : w.reached books g (n + 1) = some v) :
    ∃ s i t found strategy, w.prepared books g (n + 1) = some (s, i) ∧
      w.optimize (n + 1) s.pristine i s = (t, .ok found) ∧ w.strategy = .ok strategy := by
  rw [reached_succ] at hv
  obtain ⟨u, hu, hcompleted⟩ := Option.bind_eq_some_iff.mp hv
  obtain ⟨r, hr⟩ := completed?_eq_some.mp hcompleted
  obtain ⟨s, i, t, found, s₃, charts, o, s₄, score, hprepare, hoptimize, -, hexecute, -⟩ :=
    step_eq_completed hr
  cases hstrategy : w.strategy with
  | error f => simp [execute, hstrategy] at hexecute
  | ok strategy =>
    exact ⟨s, i, t, some found, strategy, prepared_eq_some.mpr ⟨n, u, rfl, hn, hu, hprepare⟩, hoptimize,
      rfl⟩

/-- A step that comes to its search has tried the candidates that are drawn behind those of the steps
before it. -/
theorem triedAt_drawn {n : ℕ} {s : WalkState} {i : Stretch}
    (h : w.prepared books g (n + 1) = some (s, i)) :
    ∃ m, m ≤ w.plan.iterations ∧ (w.triedAt s i).map (·.parameters) =
        (List.range m).map (fun j => Search.drawn w.plan.space g (n * w.plan.iterations + j)) ∧
      ∀ t found, w.optimize (n + 1) s.pristine i s = (t, .ok found) → m = w.plan.iterations := by
  obtain ⟨n', u, hk, -, hu, hprepare⟩ := prepared_eq_some.mp h
  obtain rfl := Nat.succ.inj hk
  have hgenerator : s.generator = Search.advance^[n * w.plan.iterations] g := by
    rw [← reached_generator hu, ← prepare_generator (w := w) (n + 1) u, hprepare]
  rcases hoptimize : w.optimize (n + 1) s.pristine i s with ⟨t, result⟩
  obtain ⟨m, hm, htried, -, hall⟩ := optimize_drawn hoptimize
  refine ⟨m, hm, ?_, ?_⟩
  · rw [htried, Search.parameters_candidates, hgenerator]
    exact List.map_congr_left fun j _ => Search.drawn_advance _ _ _ _
  · intro t' found hfound
    exact hall found (Prod.mk.inj hfound).2

/-- A step has tried the candidates that are drawn behind those of the steps before it, all of them if it
is completed. -/
theorem tries_drawn (books : Books) (g : Twister) {n : ℕ} (hn : n < w.plan.steps) :
    ∃ m, m ≤ w.plan.iterations ∧ (w.tries books g (n + 1)).map (·.parameters) =
        (List.range m).map (fun j => Search.drawn w.plan.space g (n * w.plan.iterations + j)) ∧
      ∀ v, w.reached books g (n + 1) = some v → m = w.plan.iterations := by
  cases hprepared : w.prepared books g (n + 1) with
  | none =>
    refine ⟨0, Nat.zero_le _, by simp [tries, hprepared], ?_⟩
    intro v hv
    obtain ⟨s, i, t, found, strategy, hsome, -⟩ := exists_searched_of_reached hn hv
    simp [hprepared] at hsome
  | some a =>
    obtain ⟨s, i⟩ := a
    cases hstrategy : w.strategy with
    | error f =>
      refine ⟨0, Nat.zero_le _, by simp [tries, hprepared, hstrategy, Search.assignments], ?_⟩
      intro v hv
      obtain ⟨_, _, _, _, strategy, -, -, hok⟩ := exists_searched_of_reached hn hv
      simp [hstrategy] at hok
    | ok strategy =>
      obtain ⟨m, hm, htried, hall⟩ := triedAt_drawn hprepared
      have hmap : (w.tries books g (n + 1)).map (·.parameters) = (w.triedAt s i).map (·.parameters) := by
        rw [tries, hprepared, hstrategy]
        exact List.map_map
      refine ⟨m, hm, hmap.trans htried, ?_⟩
      intro v hv
      obtain ⟨s', i', t, found, _, hprepared', hoptimize, -⟩ := exists_searched_of_reached hn hv
      obtain ⟨rfl, rfl⟩ := Prod.mk.inj (Option.some.inj (hprepared.symm.trans hprepared'))
      exact hall t found hoptimize

/-- The parameters of all candidates that the first steps of a run have tried, in order. -/
def triedUpTo (w : Walk) (books : Books) (g : Twister) (n : ℕ) : List Parameters :=
  (List.range n).flatMap fun k => (w.tries books g (k + 1)).map (·.parameters)

theorem triedUpTo_succ (n : ℕ) : w.triedUpTo books g (n + 1) =
    w.triedUpTo books g n ++ (w.tries books g (n + 1)).map (·.parameters) := by
  rw [triedUpTo, List.range_succ, List.flatMap_append, List.flatMap_singleton]
  rfl

/-- A run tries what is drawn, from the first draw on and leaving none out. -/
theorem exists_triedUpTo (w : Walk) (books : Books) (g : Twister) {n : ℕ} (hn : n ≤ w.plan.steps) :
    ∃ count, w.triedUpTo books g n = (List.range count).map (Search.drawn w.plan.space g) ∧
      ∀ v, w.reached books g n = some v → count = n * w.plan.iterations := by
  induction n with
  | zero => exact ⟨0, rfl, fun _ _ => (Nat.zero_mul _).symm⟩
  | succ n ih =>
    obtain ⟨count, hbefore, hcount⟩ := ih (by omega)
    rw [triedUpTo_succ, hbefore]
    cases hreached : w.reached books g n with
    | none =>
      have htries : w.tries books g (n + 1) = [] := by rw [tries, prepared_eq_none hreached]
      refine ⟨count, by rw [htries, List.map_nil, List.append_nil], ?_⟩
      intro v hv
      simp [reached_eq_none hreached (Nat.le_succ n)] at hv
    | some u =>
      obtain rfl := hcount u hreached
      obtain ⟨m, -, htries, hall⟩ := tries_drawn books g (Nat.lt_of_succ_le hn)
      refine ⟨n * w.plan.iterations + m, ?_, ?_⟩
      · rw [htries, List.range_add, List.map_append, List.map_map]
        rfl
      · intro v hv
        rw [hall v hv, Nat.succ_mul]

/-- The parameters of all candidates that a run has tried, in order. -/
def triedAll (w : Walk) (books : Books) (g : Twister) : List Parameters :=
  w.triedUpTo books g w.plan.steps

theorem of_getElem?_triedAll {n : ℕ} {p : Parameters} (h : (w.triedAll books g)[n]? = some p) :
    p = Search.drawn w.plan.space g n := by
  obtain ⟨count, hcount, -⟩ := exists_triedUpTo w books g (Nat.le_refl _)
  rw [triedAll, hcount] at h
  exact (of_getElem?_map_range h).2

/-- Candidates are tried in sample. -/
theorem sample_of_mem_tries {k : ℕ} {a : Assignment} (h : a ∈ w.tries books g k) :
    a.sample = .inSample := by
  unfold tries at h
  split at h
  · simp at h
  · exact (Search.of_mem_assignments h).1

/-- A run sets strategies up step by step, whatever its outcome. -/
theorem run_setups (w : Walk) (books : Books) (g : Twister) :
    setups (w.run books g).1.books.calls.toList = setups books.calls.toList ++
      (List.range w.plan.steps).flatMap (fun k =>
        (w.tries books g (k + 1)).map (·.parameters) ++
          ((w.trade? books g (k + 1)).map (·.assignment.parameters)).toList) := by
  have hmade := run_made w books g
  have hticks : ∀ m ∈ w.madeAll books g, m.assignment.ticks ≠ [] := by
    intro m hm
    obtain ⟨k, -, hm⟩ := List.mem_flatMap.mp hm
    exact ticks_of_mem_made hm
  rw [hmade.calls, setups_append, hmade.setups hticks, madeAll, List.map_flatMap]
  simp only [parameters_made]

/-- Whatever its outcome, a run sets strategies up step by step: in sample with what is drawn, trial by
trial, and then out of sample. What is drawn for a trial its variables take one after the other from a
generator of their own, seeded by the next draw; the trials of a step have the draws behind those of all
trials of the steps before it. So two runs with one generator and one space try the same, as far as both
go. -/
theorem run_draws {text : String} (w : Walk) (books : Books) (g : Twister)
    (hspace : readVariables text = .ok w.plan.space) :
    setups (w.run books g).1.books.calls.toList = setups books.calls.toList ++
      (List.range w.plan.steps).flatMap (fun k =>
        (w.tries books g (k + 1)).map (·.parameters) ++
          ((w.trade? books g (k + 1)).map (·.assignment.parameters)).toList) ∧
    (∀ (k j : ℕ) (a : Assignment), (w.tries books g (k + 1))[j]? = some a →
      a.sample = .inSample ∧ j < w.plan.iterations ∧
        DrawnFrom w.plan.space.declarations
          (Twister.ofSeed (Search.seedAt g (k * w.plan.iterations + j))) a.parameters) ∧
    ∀ (w' : Walk) (books' : Books), w'.plan.space = w.plan.space →
      ∀ (n : ℕ) (p p' : Parameters), (w.triedAll books g)[n]? = some p →
        (w'.triedAll books' g)[n]? = some p' → p = p' := by
  refine ⟨run_setups w books g, ?_, ?_⟩
  · intro k j a ha
    have hk : k < w.plan.steps := by
      by_contra hk
      have hprepared : w.prepared books g (k + 1) = none := if_neg hk
      simp [tries, hprepared] at ha
    obtain ⟨m, hm, htries, -⟩ := tries_drawn books g hk
    have hparameters : ((w.tries books g (k + 1)).map (·.parameters))[j]? = some a.parameters := by
      rw [List.getElem?_map, ha, Option.map_some]
    rw [htries] at hparameters
    obtain ⟨hj, hdrawn⟩ := of_getElem?_map_range hparameters
    rw [hdrawn]
    exact ⟨sample_of_mem_tries (List.mem_of_getElem? ha), Nat.lt_of_lt_of_le hj hm,
      Search.drawnFrom_drawn hspace g _⟩
  · intro w' books' hspace n p p' hp hp'
    rw [of_getElem?_triedAll hp, of_getElem?_triedAll hp', hspace]

/-- The trials of steps that a run has completed. -/
theorem length_tries {n : ℕ} {v : WalkState} (hn : n < w.plan.steps)
    (hv : w.reached books g (n + 1) = some v) :
    (w.tries books g (n + 1)).length = w.plan.iterations := by
  obtain ⟨m, -, htries, hall⟩ := tries_drawn books g hn
  have hlength := congrArg List.length htries
  rw [List.length_map, List.length_map, List.length_range] at hlength
  rw [hlength, hall v hv]

/-- The second trial of the second step takes the fourth draw. What is tried second is the same in a run
over fewer ticks. -/
theorem run_draws_weekly : ∃ p a q q', (Configuration.weekly 2).plan = .ok p ∧
    ((buying p (dailyTicks newYear 40)).tries Books.new (Twister.ofSeed 1) 2)[1]? = some a ∧
    DrawnFrom [.bool "flag", .real "x" 0.25 0.75, .whole "n" 3 9]
      (Twister.ofSeed (Search.seedAt (Twister.ofSeed 1) 3)) a.parameters ∧
    ((buying p (dailyTicks newYear 40)).triedAll Books.new (Twister.ofSeed 1))[1]? = some q ∧
    ((buying p (dailyTicks newYear 33)).triedAll Books.new (Twister.ofSeed 1))[1]? = some q' ∧ q = q' := by
  obtain ⟨p, s, r, hp, hrun, hlen⟩ := exists_run_weekly
  have h : ((Configuration.weekly 2).plan.toOption.map fun p => (p.steps, p.iterations,
      ((buying p (dailyTicks newYear 33)).reached Books.new (Twister.ofSeed 1) 1).isSome)) =
        some (2, 2, true) := by
    decide +kernel
  rw [toOption_eq_some.mpr hp, Option.map_some, Option.some.injEq, Prod.mk.injEq, Prod.mk.injEq] at h
  obtain ⟨hsteps, hiterations, hfewer⟩ := h
  obtain ⟨u, hu⟩ := Option.isSome_iff_exists.mp hfewer
  obtain ⟨-, -, t, -, ht, -⟩ := run_eq_ok hrun
  rw [hlen] at ht
  -- the variables of the plan are those of its text
  have hspace : readVariables "flag,bool;x,float,0.25,0.75;n,int,3,9" = .ok p.space :=
    (Configuration.plan_eq_ok hp).2.2.2.2.2.2
  have hread : readVariables "flag,bool;x,float,0.25,0.75;n,int,3,9" =
      .ok ⟨[("flag", false)], [("x", ⟨0.25, 0.75, 0.0⟩)], [("n", ⟨3, 9, 0⟩)]⟩ := rfl
  have hvariables := Except.ok.inj (hspace.symm.trans hread)
  have htwo {ticks : List (Tick Float)} {n : ℕ} {v : WalkState} (hn : n < 2)
      (hv : (buying p ticks).reached Books.new (Twister.ofSeed 1) (n + 1) = some v) :
      ((buying p ticks).tries Books.new (Twister.ofSeed 1) (n + 1)).length = 2 :=
    (length_tries (hsteps.symm ▸ hn) hv).trans hiterations
  have hsecond {ticks : List (Tick Float)} {v : WalkState}
      (hv : (buying p ticks).reached Books.new (Twister.ofSeed 1) 1 = some v) :
      ∃ q, ((buying p ticks).triedAll Books.new (Twister.ofSeed 1))[1]? = some q := by
    have hbound : 1 < ((buying p ticks).triedAll Books.new (Twister.ofSeed 1)).length := by
      rw [triedAll, show (buying p ticks).plan.steps = 1 + 1 from hsteps, triedUpTo_succ, triedUpTo_succ,
        List.length_append, List.length_append, List.length_map, htwo (by decide) hv]
      omega
    exact ⟨_, List.getElem?_eq_getElem hbound⟩
  obtain ⟨-, hdrawn, hsame⟩ := run_draws (buying p (dailyTicks newYear 40)) Books.new (Twister.ofSeed 1)
    hspace
  obtain ⟨v, hv⟩ : ∃ v, (buying p (dailyTicks newYear 40)).reached Books.new (Twister.ofSeed 1) 1 =
      some v := Option.ne_none_iff_exists'.mp fun hnone => by
    simp [reached_eq_none hnone (by decide : 1 ≤ 2)] at ht
  obtain ⟨q, hq⟩ := hsecond hv
  obtain ⟨q', hq'⟩ := hsecond hu
  have hlast : 1 < ((buying p (dailyTicks newYear 40)).tries Books.new (Twister.ofSeed 1) 2).length := by
    rw [htwo (by decide) ht]
    decide
  have ha := List.getElem?_eq_getElem hlast
  obtain ⟨-, -, ha'⟩ := hdrawn 1 1 _ ha
  rw [show (buying p (dailyTicks newYear 40)).plan.iterations = 2 from hiterations,
    show (buying p (dailyTicks newYear 40)).plan.space = _ from hvariables] at ha'
  exact ⟨p, _, q, q', hp, ha, ha', hq, hq',
    hsame (buying p (dailyTicks newYear 33)) Books.new rfl 1 q q' hq hq'⟩

end Walk

end Backtest
