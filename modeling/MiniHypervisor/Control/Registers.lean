import Mathlib.Logic.Function.Basic
import MiniHypervisor.Control.Refinement

/-!
# Registers that hold the last write

A system shows a value at each of its locations, and each of its steps writes at most one of them.
Along a run every location then holds the last value written to it, or the initial one.

## Main definitions

* `lastWrite` : the last value written to a location.

## Main results

* `holds_lastWrite` : what a location holds after a run.
-/

namespace MiniHypervisor.Control

variable {σ ο ι β : Type} [DecidableEq ι]

/-- The contents after a write, if there is one. -/
def applyWrite (contents : ι → β) : Option (ι × β) → ι → β
  | none => contents
  | some write => Function.update contents write.1 write.2

/-- The values written to a location, in order. -/
def writesTo (i : ι) (writes : List (Option (ι × β))) : List β :=
  writes.filterMap fun write => write.bind fun write => if write.1 = i then some write.2 else none

/-- The last value written to a location. -/
def lastWrite (i : ι) (writes : List (Option (ι × β))) : Option β := (writesTo i writes).getLast?

theorem lastWrite_concat (i : ι) (writes : List (Option (ι × β))) (write : Option (ι × β))
    (contents : ι → β) :
    (lastWrite i (writes ++ [write])).getD (contents i) =
      applyWrite (fun j => (lastWrite j writes).getD (contents j)) write i := by
  rw [lastWrite, writesTo, List.filterMap_append]
  cases write with
  | none => simp [applyWrite, lastWrite, writesTo]
  | some write =>
      by_cases hi : write.1 = i
      · subst hi
        simp [applyWrite]
      · simp [applyWrite, hi, Function.update_of_ne (Ne.symm hi), lastWrite, writesTo]

/-- **Registers along a run.** If every step changes the contents by at most one write, then a
location holds the last write to it, or what it held first. -/
theorem holds_lastWrite {step : σ → ο → σ} {written : σ → ο → Option (ι × β)} {view : σ → ι → β}
    (hstep : ∀ s op, view (step s op) = applyWrite (view s) (written s op)) (s : σ) (ops : List ο)
    (i : ι) :
    view (runSteps step s ops) i = (lastWrite i (eventsOf step written s ops)).getD (view s i) := by
  induction ops using List.reverseRecOn generalizing i with
  | nil => rfl
  | append_singleton ops op ih =>
      rw [runSteps_concat, eventsOf_concat, hstep, lastWrite_concat]
      exact congrFun (congrArg (applyWrite · _) (funext ih)) i

end MiniHypervisor.Control
