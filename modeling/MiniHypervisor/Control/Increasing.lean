import Mathlib.Data.List.Pairwise
import Mathlib.Data.Option.Basic
import MiniHypervisor.Control.Outcome

/-!
# Strictly increasing lists

A loop that compares each element with the one before it accepts exactly the lists whose keys
increase strictly.  The state of such a loop is the key seen last, if any.

## Main definitions

* `checkAfter` : the comparison with the key seen last.
* `IncreasingFrom` : the keys of a list increase strictly from a given one on.

## Main results

* `increasingFrom_none_iff` : without a first key this is being pairwise increasing.
-/

namespace MiniHypervisor.Control

variable {ε α κ : Type} [LE κ]

/-- Fail unless `current` comes after the key seen last. -/
def checkAfter [DecidableLE κ] (error : κ → κ → ε) (previous : Option κ) (current : κ) :
    Except ε Unit :=
  match previous with
  | some previous => rejectIf (current ≤ previous) (error previous current)
  | none => .ok ()

theorem checkAfter_eq_ok [DecidableLE κ] {error : κ → κ → ε} {previous : Option κ} {current : κ}
    {u : Unit} :
    checkAfter error previous current = .ok u ↔ ∀ p ∈ previous, ¬ current ≤ p := by
  cases previous with
  | none => simp [checkAfter]
  | some p => simp [checkAfter, rejectIf_eq_ok]

/-- The keys of the list increase strictly, and come after `previous`. -/
def IncreasingFrom (key : α → κ) : Option κ → List α → Prop
  | _, [] => True
  | previous, x :: l => (∀ p ∈ previous, ¬ key x ≤ p) ∧ IncreasingFrom key (some (key x)) l

section Order

variable [LT κ] [Std.IsLinearOrder κ] [Std.LawfulOrderLT κ] {key : α → κ}

theorem increasingFrom_iff {previous : Option κ} {l : List α} :
    IncreasingFrom key previous l ↔
      (∀ p ∈ previous, ∀ x ∈ l, p < key x) ∧ l.Pairwise fun x y => key x < key y := by
  induction l generalizing previous with
  | nil => simp [IncreasingFrom]
  | cons x l ih =>
      rw [IncreasingFrom, ih, List.pairwise_cons]
      simp only [Option.mem_def, Option.some.injEq, forall_eq', List.forall_mem_cons,
        Std.not_le]
      constructor
      · rintro ⟨hprev, hx, hl⟩
        exact ⟨fun p hp => ⟨hprev p hp, fun y hy => Std.lt_trans (hprev p hp) (hx y hy)⟩, hx, hl⟩
      · rintro ⟨hprev, hx, hl⟩
        exact ⟨fun p hp => (hprev p hp).1, hx, hl⟩

theorem increasingFrom_none_iff {l : List α} :
    IncreasingFrom key none l ↔ l.Pairwise fun x y => key x < key y := by
  simp [increasingFrom_iff]

end Order

end MiniHypervisor.Control
