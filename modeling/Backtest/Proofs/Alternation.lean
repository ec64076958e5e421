import Backtest.Proofs.Ledger

/-!
# One trade at a time

A strategy that opens a trade only when it is shown none, and closes only when it is shown one, holds at
most one trade, whatever else it goes by. In each pass it opens and closes in turn, and opens first. What
is open at any tick is told by how often it has acted.

* `acts`, what was done in turns; `Strategy.Single`, a strategy that holds one trade at most;
* `PassState.length_carryOut`, how many trades are open once a decision is carried out;
* `Pass.Alternates`, a pass that opens and closes in turn; `Pass.Alternates.turn`, every turn of such a
  strategy keeps it so.
-/

namespace Backtest

variable {α Memory : Type}

/-- What was done in turns: their decisions, but for those to do nothing. -/
def acts (turns : List (Turn α)) : List Decision := (turns.map (·.decision)).filter (· ≠ .noop)

theorem acts_concat_of_noop (turns : List (Turn α)) {u : Turn α} (h : u.decision = .noop) :
    acts (turns ++ [u]) = acts turns := by
  rw [acts, List.map_append, List.filter_append, List.map_singleton, acts, h]
  exact List.append_nil _

theorem acts_concat_of_ne_noop (turns : List (Turn α)) {u : Turn α} (h : u.decision ≠ .noop) :
    acts (turns ++ [u]) = acts turns ++ [u.decision] := by
  rw [acts, List.map_append, List.filter_append, List.map_singleton, acts]
  simp [h]

/-- A decision is to do nothing, to open a trade, or to close all. -/
theorem Decision.eq_noop_or (d : Decision) :
    d = .noop ∨ d.direction?.isSome = true ∨ d = .closeAll := by
  cases d
  · exact .inl rfl
  · exact .inr (.inl rfl)
  · exact .inr (.inl rfl)
  · exact .inr (.inr rfl)

theorem Decision.ne_noop_of_direction? {d : Decision} (h : d.direction?.isSome = true) : d ≠ .noop := by
  rintro rfl
  exact Bool.false_ne_true h

/-- What is done was answered. -/
theorem Turn.answer_of_ne_noop {u : Turn α} (h : u.decision ≠ .noop) :
    u.answer = some (.ok u.decision) := by
  unfold decision at h ⊢
  split
  · assumption
  · rename_i hnot
    split at h
    · rename_i d hd
      exact absurd hd (hnot d)
    · exact absurd rfl h

/-- A strategy that opens a trade only when none is open, and closes all only when some are. -/
def Strategy.Single (strategy : Strategy α) : Prop :=
  ∀ view memory d, (strategy.onTick view memory).1 = .ok d →
    (d.direction?.isSome = true → view.hasOpenTrades = false) ∧
      (d = .closeAll → view.hasOpenTrades = true)

/-- How many trades are open once a decision is carried out. -/
theorem PassState.length_carryOut {p : PassState α Memory} (h : p.simulation.AllOpen) (t : Tick α)
    (d : Decision) :
    (p.carryOut t d).1.simulation.openTrades.length =
      if d = .noop then p.simulation.openTrades.length
      else if d = .closeAll then 0 else p.simulation.openTrades.length + 1 := by
  cases d with
  | noop => rfl
  | openLong => exact List.length_append
  | openShort => exact List.length_append
  | closeAll =>
    rw [carryOut, Simulation.closeAll_of_allOpen h]
    rfl

variable [Price α]

/-- How many trades are open after a turn. -/
theorem PassState.length_turn (onTick : MarketView α → Memory → Except Fault Decision × Memory)
    (p : PassState α Memory) (t : Tick α) :
    let taken := p.turn onTick t
    taken.2.simulation.openTrades.length =
      if taken.1.decision = .noop then taken.1.account.openTrades.length
      else if taken.1.decision = .closeAll then 0 else taken.1.account.openTrades.length + 1 := by
  intro taken
  have haccount : taken.1.account = (p.advance t).simulation := (turn_shown onTick p t).2.1
  have hasked : ((p.advance t).ask onTick t).1.simulation.AllOpen := p.allOpen_advance t
  rw [haccount]
  rcases turn_cases onTick p t with ⟨hnone, hp⟩ | ⟨-, -, -, hp⟩
  · have hnoop : taken.1.decision = .noop := by rw [Turn.decision, hnone]
    rw [if_pos hnoop, hp]
  · rw [hp, length_carryOut hasked]
    rfl

namespace Pass

/-- A pass that opens and closes in turn. At every tick as many trades are open as it has opened more
often than closed before, which is one or none. -/
structure Alternates (turns : List (Turn α)) (p : PassState α Memory) : Prop where
  allOpen : p.simulation.AllOpen
  held : p.simulation.openTrades.length = (acts turns).length % 2
  shown : ∀ k u, turns[k]? = some u →
    u.account.openTrades.length = (acts (turns.take k)).length % 2
  alternate : ∀ n d, (acts turns)[n]? = some d →
    n % 2 = 0 ∧ d.direction?.isSome = true ∨ n % 2 = 1 ∧ d = .closeAll

theorem alternates_begun (strategy : Strategy α) (id : ℕ) (sample : Sample) (settings : Settings α)
    (charts : List (Chart α)) (ids : Ids) (parameters : Parameters) (memory : strategy.Memory) :
    Alternates [] (begun strategy (.new id sample settings charts) ids parameters memory) :=
  ⟨Simulation.allOpen_new id sample settings charts, rfl, by simp, by simp [acts]⟩

namespace Alternates

variable {turns : List (Turn α)}

omit [Price α] in
/-- No more than one trade is open at any tick. -/
theorem length_le {p : PassState α Memory} (h : Alternates turns p) :
    ∀ u ∈ turns, u.account.openTrades.length ≤ 1 := by
  intro u hu
  obtain ⟨k, hk⟩ := List.getElem?_of_mem hu
  rw [h.shown k u hk]
  omega

/-- The next turn finds as many trades as are told by what was done before. -/
theorem length_next {p : PassState α Memory} (h : Alternates turns p)
    (onTick : MarketView α → Memory → Except Fault Decision × Memory) (t : Tick α) :
    (p.turn onTick t).1.account.openTrades.length = (acts turns).length % 2 := by
  rw [(PassState.turn_shown onTick p t).2.1, (PassState.trades_advance h.allOpen t).1, List.length_map,
    h.held]

/-- What a strategy that holds one trade at most does in its turn suits the trades that it finds. -/
theorem of_single {strategy : Strategy α} (hsingle : strategy.Single)
    (p : PassState α strategy.Memory) (t : Tick α) :
    let u := (p.turn strategy.onTick t).1
    (u.decision.direction?.isSome = true → u.account.openTrades.length = 0) ∧
      (u.decision = .closeAll → u.account.openTrades.length ≠ 0) := by
  intro u
  have haccount : u.account = (p.advance t).simulation := (PassState.turn_shown strategy.onTick p t).2.1
  have hview : (u.account.view t).hasOpenTrades = !u.account.openTrades.isEmpty := rfl
  have hgoes (hd : u.decision ≠ .noop) :
      (u.decision.direction?.isSome = true → (u.account.view t).hasOpenTrades = false) ∧
        (u.decision = .closeAll → (u.account.view t).hasOpenTrades = true) := by
    rcases PassState.turn_cases strategy.onTick p t with ⟨hnone, -⟩ | ⟨-, -, hasked, -⟩
    · rw [Turn.answer_of_ne_noop hd] at hnone
      exact absurd hnone (Option.some_ne_none _)
    · rw [Turn.answer_of_ne_noop hd] at hasked
      rw [haccount]
      exact hsingle _ p.memory _ (Option.some.inj hasked).symm
  constructor
  · intro hopens
    have hidle := (hgoes (Decision.ne_noop_of_direction? hopens)).1 hopens
    rwa [hview, Bool.not_eq_false', List.isEmpty_iff_length_eq_zero] at hidle
  · intro hcloses
    have hbusy := (hgoes (by rw [hcloses]; decide)).2 hcloses
    rw [hview, Bool.not_eq_true'] at hbusy
    rwa [Ne, ← List.isEmpty_iff_length_eq_zero, Bool.not_eq_true]

/-- Every turn of a strategy that holds one trade at most keeps a pass alternating. -/
theorem turn {strategy : Strategy α} (hsingle : strategy.Single) {p : PassState α strategy.Memory}
    (h : Alternates turns p) (t : Tick α) :
    Alternates (turns ++ [(p.turn strategy.onTick t).1]) (p.turn strategy.onTick t).2 := by
  have hlength := h.length_next strategy.onTick t
  have hafter := PassState.length_turn strategy.onTick p t
  simp only at hafter
  obtain ⟨hopens, hcloses⟩ := of_single hsingle p t
  generalize (p.turn strategy.onTick t).1 = u at *
  refine ⟨p.allOpen_turn strategy.onTick t, ?_, fun k v hv => ?_, fun n d hd => ?_⟩
  -- an act is to open where the number of acts is even, and to close where it is odd
  · rw [hafter]
    rcases u.decision.eq_noop_or with hd | hd | hd
    · rw [if_pos hd, acts_concat_of_noop turns hd, hlength]
    · have hclose : u.decision ≠ .closeAll := by
        intro hclose
        rw [hclose] at hd
        exact Bool.false_ne_true hd
      have hnoop := Decision.ne_noop_of_direction? hd
      rw [if_neg hnoop, if_neg hclose, acts_concat_of_ne_noop turns hnoop, List.length_append,
        List.length_singleton]
      have := hopens hd
      omega
    · have hnoop : u.decision ≠ .noop := by rw [hd]; decide
      rw [if_neg hnoop, if_pos hd, acts_concat_of_ne_noop turns hnoop, List.length_append,
        List.length_singleton]
      have := hcloses hd
      omega
  · rcases getElem?_concat_eq_some.mp hv with hv | ⟨rfl, rfl⟩
    · rw [List.take_append_of_le_length (Nat.le_of_lt (List.getElem?_eq_some_iff.mp hv).1)]
      exact h.shown k v hv
    · rw [List.take_left, hlength]
  · by_cases hnoop : u.decision = .noop
    · rw [acts_concat_of_noop turns hnoop] at hd
      exact h.alternate n d hd
    · rw [acts_concat_of_ne_noop turns hnoop] at hd
      rcases getElem?_concat_eq_some.mp hd with hd | ⟨rfl, rfl⟩
      · exact h.alternate n d hd
      · rcases u.decision.eq_noop_or with hd | hd | hd
        · exact absurd hd hnoop
        · have := hopens hd
          exact .inl ⟨by omega, hd⟩
        · have := hcloses hd
          exact .inr ⟨by omega, hd⟩

end Alternates

end Pass

end Backtest
