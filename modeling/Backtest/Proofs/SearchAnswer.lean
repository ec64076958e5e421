import Backtest.Proofs.Selection

/-!
# The answer of a search

A search whose trials all end answers with the first of the best scores, whatever numbers or other values
they are, if one reaches the least that counts. Trials without a score, and those with a score that lies
above no other, may come and go: the answer keeps its candidate and its score.

* `Search.scores`, what the trials of a search give; `Trial.giving`, trials that give known scores;
* `Outcome`, a candidate with its score; `Outcome.isActive`, whether it can win; `Best.after`,
  `Search.answer`, the best of outcomes and the answer to them;
* `Best.Counted`, what a best says of the number of scores before it; `Best.Alike`, two bests with one
  candidate and one score;
* `Search.answer_congr`, `Search.answer_eq_none`, answers to outcomes; `Search.trials_scores`, what trials
  come to;
* `Search.run_answers`, the main statement.
-/

namespace Backtest

/-! ### Scores -/

namespace Search

/-- What the trials of a search give, so many of them from a number on: their scores, up to a trial that
fails. -/
def scores (space : SearchSpace) (trial : Trial) : ℕ → ℕ → Twister → Books → List (Option Float)
  | 0, _, _, _ => []
  | left + 1, number, g, books =>
    match trial number (candidate space g).1 (books.tell (.trial (number + 1))) with
    | (.error _, _) => []
    | (.ok score, books) => score :: scores space trial left (number + 1) (candidate space g).2 books

end Search

/-- Trials that give known scores. -/
def Trial.giving (scores : List (Option Float)) : Trial := fun number _ books =>
  (.ok (scores[number]?.getD none), books)

/-- A search with trials that give known scores has these. -/
theorem Search.scores_giving (space : SearchSpace) (before scores : List (Option Float)) (g : Twister)
    (books : Books) :
    Search.scores space (.giving (before ++ scores)) scores.length before.length g books = scores := by
  induction scores generalizing before g books with
  | nil => rfl
  | cons score rest ih =>
    have hscore : (before ++ score :: rest)[before.length]?.getD none = score := by simp
    have hrest := ih (before ++ [score]) (Search.candidate space g).2
      (books.tell (.trial (before.length + 1)))
    rw [List.append_assoc, List.length_append] at hrest
    rw [List.length_cons, Search.scores]
    simp only [Trial.giving, hscore]
    exact congrArg (score :: ·) hrest

/-- An outcome of a trial: its candidate, and its score if it has one. -/
abbrev Outcome := SearchSpace × Option Float

/-- Whether an outcome can win: not without a score, nor with one that is no number or negative
infinity. -/
def Outcome.isActive (x : Outcome) : Bool :=
  match x.2 with
  | none => false
  | some y => !(y.isNaN || y == -(1.0 / 0.0))

/-- The best after more outcomes. -/
def Best.after (b : Best) (xs : List Outcome) : Best := xs.foldl (fun b x => b.consider x.1 x.2) b

/-- The answer to outcomes. -/
def Search.answer (xs : List Outcome) : Option SearchResult := (Best.start.after xs).result? xs.length

namespace Best

variable {b b' : Best} {scores : List (Option Float)}

/-! ### Counters -/

/-- What a best says of the number of scores before it. -/
structure Counted (b : Best) (scores : List (Option Float)) : Prop where
  successful : b.successful = scores.countP (·.isSome)
  fresh : b.candidate = none → b.score = initialBestScore
  won : b.candidate ≠ none → b.successful ≠ 0

theorem counted_start : start.Counted [] := ⟨rfl, fun _ => rfl, fun h => absurd rfl h⟩

theorem Counted.consider (h : b.Counted scores) (c : SearchSpace) (o : Option Float) :
    (b.consider c o).Counted (scores ++ [o]) := by
  have hcount : (scores ++ [o]).countP (·.isSome) = scores.countP (·.isSome) + o.isSome.toNat := by
    cases o <;> simp
  rw [← h.successful] at hcount
  cases o with
  | none => exact ⟨hcount.symm, h.fresh, h.won⟩
  | some x =>
    simp only [Best.consider]
    split
    · exact ⟨hcount.symm, by simp, by simp⟩
    · exact ⟨hcount.symm, h.fresh, by simp⟩

theorem Counted.after (h : b.Counted scores) (xs : List Outcome) :
    (b.after xs).Counted (scores ++ xs.map (·.2)) := by
  induction xs generalizing b scores with
  | nil =>
    rw [List.map_nil, List.append_nil]
    exact h
  | cons x xs ih =>
    have hnext := ih (h.consider x.1 x.2)
    rw [List.append_assoc] at hnext
    exact hnext

/-- The candidate and the score of an answer do not depend on how many scores there were. -/
theorem Counted.map_result? (h : b.Counted scores) (attempted : ℤ) :
    (b.result? attempted).map (fun r => (r.space, r.score)) =
      b.candidate.bind fun c => if b.score < minViableScore then none else some (c, b.score) := by
  unfold result?
  cases hc : b.candidate with
  | none => split <;> rfl
  | some c =>
    have hwon : (b.successful == 0) = false := by
      rw [beq_eq_false_iff_ne]
      exact h.won (by simp [hc])
    rw [hwon]
    simp only [Bool.false_eq_true, if_false, Option.bind_some]
    split <;> rfl

/-- An answer tells how many scores there were, and how many trials. -/
theorem counters_of_result? {n : ℤ} {r : SearchResult} (h : b.result? n = some r) :
    r.successful = b.successful ∧ r.attempted = n := by
  unfold result? at h
  split at h
  · simp at h
  · split at h
    · simp at h
    · split at h
      · simp at h
      · obtain rfl := Option.some.inj h
        exact ⟨rfl, rfl⟩

/-! ### Outcomes that cannot win -/

/-- Two bests with one candidate and one score. -/
structure Alike (b b' : Best) : Prop where
  candidate : b'.candidate = b.candidate
  score : b'.score = b.score

theorem Alike.consider (h : b.Alike b') (c : SearchSpace) (o : Option Float) :
    (b.consider c o).Alike (b'.consider c o) := by
  cases o with
  | none => exact h
  | some x =>
    simp only [Best.consider, h.score]
    split
    · exact ⟨rfl, rfl⟩
    · exact ⟨h.candidate, rfl⟩

/-- An outcome that cannot win leaves the candidate and the score. -/
theorem alike_consider (b : Best) {x : Outcome} (h : x.isActive = false) :
    (b.consider x.1 x.2).Alike b := by
  obtain ⟨c, _ | y⟩ := x
  · exact ⟨rfl, rfl⟩
  · have hidle : y.isNaN = true ∨ (y == -(1.0 / 0.0)) = true := by
      cases hy : y.isNaN <;> simp_all [Outcome.isActive]
    have hlt : ¬ b.score < y := by
      rcases hidle with hnan | hinf
      · intro hlt
        have hnumber := FloatOrder.isNaN_eq_false_of_lt hlt
        exact Bool.false_ne_true (hnumber.symm.trans hnan)
      · exact FloatOrder.not_lt_of_beq_negInf hinf
    simp only [Best.consider]
    rw [if_neg hlt]
    exact ⟨rfl, rfl⟩

/-- Outcomes that cannot win may be left out. -/
theorem Alike.after (h : b.Alike b') (xs : List Outcome) :
    (b.after xs).Alike (b'.after (xs.filter Outcome.isActive)) := by
  induction xs generalizing b b' with
  | nil => exact h
  | cons x xs ih =>
    cases hx : x.isActive with
    | false =>
      have hidle := alike_consider b hx
      rw [List.filter_cons_of_neg (by simp [hx])]
      exact ih ⟨h.candidate.trans hidle.candidate, h.score.trans hidle.score⟩
    | true =>
      rw [List.filter_cons_of_pos hx]
      exact ih (h.consider x.1 x.2)

end Best

namespace Search

variable {space : SearchSpace} {trial : Trial}

/-- Outcomes of which the same can win, in the same order, have answers with the same candidate and the
same score. -/
theorem answer_congr {xs ys : List Outcome}
    (h : xs.filter Outcome.isActive = ys.filter Outcome.isActive) :
    (answer xs).map (fun r => (r.space, r.score)) = (answer ys).map fun r => (r.space, r.score) := by
  have hxs : (Best.start.after xs).Alike _ := Best.Alike.after ⟨rfl, rfl⟩ xs
  have hys : (Best.start.after ys).Alike _ := Best.Alike.after ⟨rfl, rfl⟩ ys
  rw [answer, answer, (Best.counted_start.after xs).map_result?, (Best.counted_start.after ys).map_result?,
    ← hxs.candidate, ← hxs.score, ← hys.candidate, ← hys.score, h]

/-- A search has no answer exactly if no score counts. -/
theorem answer_eq_none {cs : List SearchSpace} {scores : List (Option Float)}
    (hlength : cs.length = scores.length) :
    answer (cs.zip scores) = none ↔ ∀ y, some y ∈ scores → ¬ minViableScore ≤ y := by
  have hviable : minViableScore.isNaN = false := by decide +kernel
  have htracks : (Best.start.after (cs.zip scores)).Tracks cs scores :=
    Best.tracks_start.among rfl hlength
  have hcounted := Best.counted_start.after (cs.zip scores)
  generalize hb : Best.start.after (cs.zip scores) = b at htracks hcounted
  have hanswer := hcounted.map_result? (cs.zip scores).length
  constructor
  · -- a score that counts exceeds the one at the start and whatever does not count
    intro hnone y hy hle
    rw [← hb, ← answer, hnone, hb] at hanswer
    cases hc : b.candidate with
    | none =>
      have hstart : initialBestScore < y :=
        FloatOrder.lt_of_lt_of_le (by decide +kernel) hle
      rw [← hcounted.fresh hc] at hstart
      exact htracks.bound y hy hstart
    | some c =>
      rw [hc] at hanswer
      by_cases hlow : b.score < minViableScore
      · exact htracks.bound y hy (FloatOrder.lt_of_lt_of_le hlow hle)
      · simp [hlow] at hanswer
  · intro hlow
    rw [Option.eq_none_iff_forall_ne_some]
    intro r hr
    rw [← hb, ← answer, hr, hb] at hanswer
    obtain ⟨c, hc, hscore⟩ := Option.bind_eq_some_iff.mp hanswer.symm
    obtain ⟨j, -, hj, hnumber, -⟩ := htracks.first c hc
    by_cases hbelow : b.score < minViableScore
    · simp [hbelow] at hscore
    · rcases FloatOrder.le_or_isNaN hnumber hbelow with hle | hnan
      · exact hlow b.score (List.mem_of_getElem? hj) hle
      · exact Bool.false_ne_true (hviable.symm.trans hnan)

/-- Trials that all give a score or none come to the best of their candidates. -/
theorem trials_scores {left number : ℕ} {s : SearchState}
    (h : (scores space trial left number s.generator s.books).length = left) :
    ∃ s', trials space trial left number s = (s', .ok ()) ∧
      s'.best = s.best.after ((candidates space left s.generator).zip
        (scores space trial left number s.generator s.books)) := by
  induction left generalizing number s with
  | zero => exact ⟨s, rfl, rfl⟩
  | succ left ih =>
    rw [scores] at h ⊢
    rcases htrial : trial number (candidate space s.generator).1
        (s.books.tell (.trial (number + 1))) with ⟨f | score, books⟩
    · simp [htrial] at h
    · simp only [htrial, List.length_cons, Nat.succ.injEq] at h
      let next : SearchState :=
        { generator := (candidate space s.generator).2
          books
          best := s.best.consider (candidate space s.generator).1 score
          candidates := s.candidates.push (candidate space s.generator).1 }
      have hstep : step space trial number s = (next, .ok ()) := by
        simp only [step, htrial]
        rfl
      obtain ⟨s', htrials, hbest⟩ := ih (s := next) h
      refine ⟨s', ?_, ?_⟩
      · rw [trials, hstep]
        exact htrials
      · rw [hbest]
        rfl

/-- A search whose trials all give a score or none has an answer exactly if a score counts. Then it is the
first of the best scores with its candidate, the number of scores, and the number of trials. Whichever
outcomes that cannot win are put in or left out, the answer keeps its candidate and its score. -/
theorem run_answers {n : ℕ} {g : Twister} {books : Books}
    (h : (scores space trial n 0 g books).length = n) :
    let outcomes := (candidates space n g).zip (scores space trial n 0 g books)
    ∃ s found, run space n trial g books = (s, .ok found) ∧ found = answer outcomes ∧
      (found = none ↔ ∀ y, some y ∈ scores space trial n 0 g books → ¬ minViableScore ≤ y) ∧
      (∀ r, found = some r →
        (∃ j : ℕ, (candidates space n g)[j]? = some r.space ∧
          FirstBest (scores space trial n 0 g books) j r.score) ∧
        r.successful = (scores space trial n 0 g books).countP (·.isSome) ∧ r.attempted = n) ∧
      ∀ xs : List Outcome, xs.filter Outcome.isActive = outcomes.filter Outcome.isActive →
        (answer xs).map (fun r => (r.space, r.score)) = found.map fun r => (r.space, r.score) := by
  intro outcomes
  have hlength : (candidates space n g).length = (scores space trial n 0 g books).length := by
    rw [length_candidates, h]
  have houtcomes : outcomes.length = n := by
    rw [List.length_zip, length_candidates, h, Nat.min_self]
  obtain ⟨s', htrials, hbest⟩ := trials_scores
    (s := { generator := g, books, best := .start, candidates := #[] }) h
  have hfound : s'.best.result? n = answer outcomes := by
    rw [hbest, answer, houtcomes]
  obtain ⟨s, hrun⟩ : ∃ s, run space n trial g books = (s, .ok (answer outcomes)) := by
    simp only [run, Int.toNat_natCast, htrials, hfound]
    cases answer outcomes with
    | none => exact ⟨_, rfl⟩
    | some r => exact ⟨_, rfl⟩
  refine ⟨s, answer outcomes, hrun, rfl, answer_eq_none hlength, ?_, fun xs hxs => answer_congr hxs⟩
  intro r hr
  have hcounted := Best.counted_start.after outcomes
  rw [List.nil_append, List.map_snd_zip (Nat.le_of_eq hlength.symm)] at hcounted
  obtain ⟨hsuccessful, hattempted⟩ := Best.counters_of_result? hr
  refine ⟨Best.exists_of_result? hlength hr, hsuccessful.trans hcounted.successful, ?_⟩
  rw [hattempted, houtcomes]

/-- Five trials with the scores one, none, no number, four and four have an answer. Without the second and
the third it keeps its candidate and its score. -/
theorem run_answers_five :
    let space : SearchSpace := { bools := [("long", false)], reals := [], wholes := [] }
    let given : List (Option Float) := [some 1.0, none, some (0.0 / 0.0), some 4.0, some 4.0]
    let outcomes := (candidates space 5 ⟨#[], 0⟩).zip given
    ∃ s r j, run space 5 (.giving given) ⟨#[], 0⟩ .new = (s, .ok (some r)) ∧
      (candidates space 5 ⟨#[], 0⟩)[j]? = some r.space ∧ FirstBest given j r.score ∧
      r.successful = 4 ∧ r.attempted = 5 ∧
      (answer (outcomes.filter Outcome.isActive)).map (fun r => (r.space, r.score)) =
        some (r.space, r.score) := by
  intro space given outcomes
  have hscores : scores space (.giving given) 5 0 ⟨#[], 0⟩ .new = given :=
    scores_giving space [] given ⟨#[], 0⟩ .new
  have hlength : (scores space (.giving given) 5 0 ⟨#[], 0⟩ .new).length = 5 := by
    rw [hscores]
    rfl
  obtain ⟨s, found, hrun, -, hnone, hsome, hactive⟩ := run_answers hlength
  rw [hscores] at hnone hsome hactive
  cases found with
  | none => exact absurd (by decide +kernel) (hnone.mp rfl 4.0 (by simp [given]))
  | some r =>
    obtain ⟨⟨j, hj, hbest⟩, hsuccessful, hattempted⟩ := hsome r rfl
    exact ⟨s, r, j, hrun, hj, hbest, hsuccessful, hattempted, hactive _ (by simp [outcomes])⟩

end Search

end Backtest
