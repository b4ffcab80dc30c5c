import MiniHypervisor.Control.Outcome
import MiniHypervisor.Control.Refinement

/-!
# Computations that answer alike

Two systems with different states run the same calls.  They answer alike along a relation between
their states when related states give the same result or the same error, and related states again.
The judgement follows the shape of the program, with one rule for each way of building it, and one
call at a time gives whole runs: the two systems then give the same answers to every list of calls,
where a call that fails does not end the run.

## Main definitions

* `Alike` : two outcomes a caller cannot tell apart, in related states.
* `Simulates` : two computations with outcomes alike from related states.
* `answers`, `runCalls` : the answers to a list of calls and the state they leave.

## Main results

* `Simulates.bind`, `Simulates.within` : the rules for programs.
* `answers_eq_of_simulates` : the same answers to every list of calls.
-/

namespace MiniHypervisor.Control

variable {ε σ τ α β : Type}

/-- The same result or the same error, in related states. -/
inductive Alike (R : σ → τ → Prop) : EStateM.Result ε σ α → EStateM.Result ε τ α → Prop
  | ok (a : α) {s : σ} {t : τ} (h : R s t) : Alike R (.ok a s) (.ok a t)
  | error (e : ε) {s : σ} {t : τ} (h : R s t) : Alike R (.error e s) (.error e t)

/-- From related states the two computations have outcomes alike. -/
def Simulates (R : σ → τ → Prop) (x : EStateM ε σ α) (y : EStateM ε τ α) : Prop :=
  ∀ s t, R s t → Alike R (x.run s) (y.run t)

section Simulates

variable {R : σ → τ → Prop} {x : EStateM ε σ α} {y : EStateM ε τ α} {f : α → EStateM ε σ β}
  {g : α → EStateM ε τ β}

theorem Simulates.pure (a : α) :
    Simulates R (Pure.pure a : EStateM ε σ α) (Pure.pure a : EStateM ε τ α) :=
  fun _ _ h => .ok a h

theorem Simulates.bind (hx : Simulates R x y) (hf : ∀ a, Simulates R (f a) (g a)) :
    Simulates R (x >>= f) (y >>= g) := by
  intro s t hR
  have hrun := hx s t hR
  generalize hxs : x.run s = xs at hrun
  generalize hyt : y.run t = yt at hrun
  cases hrun with
  | ok a h =>
      rw [run_bind_of_ok hxs, run_bind_of_ok hyt]
      exact hf a _ _ h
  | error e h =>
      rw [run_bind_of_error hxs, run_bind_of_error hyt]
      exact .error e h

theorem Simulates.reads {p : σ → Except ε α} {q : τ → Except ε α}
    (h : ∀ s t, R s t → p s = q t) : Simulates R (reads p) (reads q) := by
  intro s t hR
  cases hp : p s with
  | ok a =>
      rw [run_reads_of_ok hp, run_reads_of_ok ((h s t hR).symm.trans hp)]
      exact .ok a hR
  | error e =>
      rw [run_reads_of_error hp, run_reads_of_error ((h s t hR).symm.trans hp)]
      exact .error e hR

theorem Simulates.get_bind {f : σ → EStateM ε σ β} {g : τ → EStateM ε τ β}
    (h : ∀ s t, R s t → Simulates R (f s) (g t)) : Simulates R (get >>= f) (get >>= g) :=
  fun s t hR => h s t hR s t hR

theorem Simulates.modify {u : σ → σ} {v : τ → τ} (h : ∀ s t, R s t → R (u s) (v t)) :
    Simulates R (modify u : EStateM ε σ PUnit) (modify v : EStateM ε τ PUnit) :=
  fun s t hR => .ok _ (h s t hR)

/-- One computation on a part that related states share. -/
theorem Simulates.within {ρ ε' : Type} {get : σ → ρ} {get' : τ → ρ} {set : σ → ρ → σ}
    {set' : τ → ρ → τ} {wrap : ε' → ε} {z : EStateM ε' ρ α}
    (hget : ∀ s t, R s t → get s = get' t)
    (hset : ∀ s t, R s t → R (set s (finalState (z.run (get s))))
      (set' t (finalState (z.run (get s))))) :
    Simulates R (within get set wrap z) (within get' set' wrap z) := by
  intro s t hR
  have hafter := hset s t hR
  cases hz : z.run (get s) with
  | ok a p =>
      rw [run_within_of_ok hz, run_within_of_ok (hget s t hR ▸ hz)]
      rw [hz] at hafter
      exact .ok a hafter
  | error e p =>
      rw [run_within_of_error hz, run_within_of_error (hget s t hR ▸ hz)]
      rw [hz] at hafter
      exact .error _ hafter

end Simulates

/-! ### Runs -/

/-- What a caller sees of an outcome. -/
def answer : EStateM.Result ε σ α → Except ε α
  | .ok a _ => .ok a
  | .error e _ => .error e

theorem Alike.answer_eq {R : σ → τ → Prop} {r : EStateM.Result ε σ α} {q : EStateM.Result ε τ α}
    (h : Alike R r q) : answer r = answer q := by
  cases h <;> rfl

theorem Alike.finalState {R : σ → τ → Prop} {r : EStateM.Result ε σ α}
    {q : EStateM.Result ε τ α} (h : Alike R r q) : R (finalState r) (Control.finalState q) := by
  cases h with
  | ok _ h => exact h
  | error _ h => exact h

section Runs

variable {ο : Type}

/-- The state that a list of calls leaves. -/
def runCalls (call : ο → EStateM ε σ α) (s : σ) (calls : List ο) : σ :=
  runSteps (fun s op => finalState ((call op).run s)) s calls

/-- The answers to a list of calls. -/
def answers (call : ο → EStateM ε σ α) : σ → List ο → List (Except ε α)
  | _, [] => []
  | s, op :: calls =>
      answer ((call op).run s) :: answers call (finalState ((call op).run s)) calls

/-- **Simulation along runs.** Systems whose calls answer alike give the same answers to every
list of calls and end in related states. -/
theorem answers_eq_of_simulates {R : σ → τ → Prop} {call : ο → EStateM ε σ α}
    {call' : ο → EStateM ε τ α} (h : ∀ op, Simulates R (call op) (call' op)) (calls : List ο)
    {s : σ} {t : τ} (hR : R s t) :
    answers call s calls = answers call' t calls ∧
      R (runCalls call s calls) (runCalls call' t calls) := by
  induction calls generalizing s t with
  | nil => exact ⟨rfl, hR⟩
  | cons op calls ih =>
      have hop := h op s t hR
      obtain ⟨hanswers, hend⟩ := ih hop.finalState
      exact ⟨congrArg₂ List.cons hop.answer_eq hanswers, hend⟩

end Runs

end MiniHypervisor.Control
