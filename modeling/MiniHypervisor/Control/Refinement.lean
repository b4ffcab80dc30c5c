import Mathlib.Data.List.Induction

/-!
# Refinement along runs

A system takes a step for every operation, and each step shows an event.  It refines an abstract
object when the abstraction of the state after a step is the abstraction before it with the
shown event applied.  One step at a time gives whole runs: the abstraction of the reached state
is the initial one with the events of the run applied in order.

Properties that speak about the past of a run are invariants of its history, the events in order.

## Main definitions

* `runSteps` : the state reached by a list of operations.
* `ShowsRun` : the events a run shows.
* `eventsOf` : the events of a run whose steps show one event each.

## Main results

* `runSteps_invariant` : what every step keeps holds along every run.
* `exists_showsRun` : every run shows some events if every step does.
* `refines_run` : the abstraction of the reached state.
* `runSteps_filter` : operations that an observer does not see.
* `length_le_of_ranked` : a bound for the length of a run.
* `history_invariant` : what every step keeps, given the events before it.
* `always_iff_never` : a property that exactly the bad steps break.
-/

namespace MiniHypervisor.Control

variable {σ ο η δ : Type}

/-- The state reached from `s` by the operations in order. -/
def runSteps (step : σ → ο → σ) (s : σ) (ops : List ο) : σ := ops.foldl step s

@[simp] theorem runSteps_nil (step : σ → ο → σ) (s : σ) : runSteps step s [] = s := rfl

@[simp] theorem runSteps_cons (step : σ → ο → σ) (s : σ) (op : ο) (ops : List ο) :
    runSteps step s (op :: ops) = runSteps step (step s op) ops := rfl

/-- A run shows a list of events, one for each of its operations. -/
inductive ShowsRun (step : σ → ο → σ) (shows : σ → ο → η → Prop) : σ → List ο → List η → Prop
  | nil (s : σ) : ShowsRun step shows s [] []
  | cons {s : σ} {op : ο} {event : η} {ops : List ο} {events : List η}
      (head : shows s op event) (tail : ShowsRun step shows (step s op) ops events) :
      ShowsRun step shows s (op :: ops) (event :: events)

section Runs

variable {step : σ → ο → σ} {shows : σ → ο → η → Prop} {inv : σ → Prop}

theorem runSteps_invariant (hinv : ∀ s op, inv s → inv (step s op)) (ops : List ο) {s : σ}
    (hs : inv s) : inv (runSteps step s ops) := by
  induction ops generalizing s with
  | nil => exact hs
  | cons op ops ih => exact ih (hinv s op hs)

theorem exists_showsRun (hinv : ∀ s op, inv s → inv (step s op))
    (hshows : ∀ s op, inv s → ∃ event, shows s op event) (ops : List ο) {s : σ} (hs : inv s) :
    ∃ events, ShowsRun step shows s ops events := by
  induction ops generalizing s with
  | nil => exact ⟨[], .nil s⟩
  | cons op ops ih =>
      obtain ⟨event, hevent⟩ := hshows s op hs
      obtain ⟨events, hevents⟩ := ih (hinv s op hs)
      exact ⟨event :: events, .cons hevent hevents⟩

/-- **Refinement along runs.** If every step changes the abstraction as its event says, then the
abstraction of the reached state is the initial one with the events applied in order. -/
theorem refines_run (abs : σ → δ) {apply : δ → η → δ} (hinv : ∀ s op, inv s → inv (step s op))
    (hstep : ∀ s op event, inv s → shows s op event → abs (step s op) = apply (abs s) event)
    {s : σ} {ops : List ο} {events : List η} (hs : inv s)
    (h : ShowsRun step shows s ops events) :
    abs (runSteps step s ops) = events.foldl apply (abs s) := by
  induction h with
  | nil s => rfl
  | cons head tail ih =>
      rw [runSteps_cons, List.foldl_cons, ← hstep _ _ _ hs head]
      exact ih (hinv _ _ hs)

/-- **Unwinding.** Operations that change nothing an observer sees can be left out of a run, if what
the observer sees after one of the others depends only on what it saw before. -/
theorem runSteps_filter (obs : σ → δ) {keep : ο → Bool}
    (hinv : ∀ s op, inv s → inv (step s op))
    (hkeep : ∀ s t op, inv s → inv t → obs s = obs t → obs (step s op) = obs (step t op))
    (hskip : ∀ s op, inv s → keep op = false → obs (step s op) = obs s) (ops : List ο) {s t : σ}
    (hs : inv s) (ht : inv t) (hobs : obs s = obs t) :
    obs (runSteps step s ops) = obs (runSteps step t (ops.filter keep)) := by
  induction ops generalizing s t with
  | nil => exact hobs
  | cons op ops ih =>
      cases h : keep op with
      | true =>
          rw [List.filter_cons_of_pos h]
          exact ih (hinv s op hs) (hinv t op ht) (hkeep s t op hs ht hobs)
      | false =>
          rw [List.filter_cons_of_neg (by rw [h]; exact Bool.false_ne_true)]
          exact ih (hinv s op hs) ht ((hskip s op hs h).trans hobs)

end Runs

/-! ### Ranks -/

/-- Every operation of the run changes the state. -/
def Effective (step : σ → ο → σ) : σ → List ο → Prop
  | _, [] => True
  | s, op :: ops => step s op ≠ s ∧ Effective step (step s op) ops

/-- It is enough that every operation changes what is observed of the state. -/
theorem effective_of_observe {β : Type} {step : σ → ο → σ} (observe : σ → β) {s : σ} {ops : List ο}
    (h : ∀ k < ops.length, observe (runSteps step s (ops.take (k + 1))) ≠
      observe (runSteps step s (ops.take k))) : Effective step s ops := by
  induction ops generalizing s with
  | nil => trivial
  | cons op ops ih =>
      refine ⟨fun hsame => h 0 (Nat.zero_lt_succ _) (congrArg observe hsame), ih fun k hk => ?_⟩
      exact h (k + 1) (Nat.succ_lt_succ hk)

section Ranks

variable {step : σ → ο → σ} {inv : ℕ → σ → Prop}
  (hstep : ∀ n s op, inv n s → step s op = s ∨ ∃ n' < n, inv n' (step s op))

include hstep

theorem ranked_runSteps (ops : List ο) {n : ℕ} {s : σ} (hs : inv n s) :
    ∃ n', inv n' (runSteps step s ops) := by
  induction ops generalizing n s with
  | nil => exact ⟨n, hs⟩
  | cons op ops ih =>
      rw [runSteps_cons]
      rcases hstep n s op hs with hsame | ⟨n', -, hnext⟩
      · rw [hsame]
        exact ih hs
      · exact ih hnext

/-- If every operation that changes the state lowers the rank, then no run is longer than it. -/
theorem length_le_of_ranked {ops : List ο} {n : ℕ} {s : σ} (h : Effective step s ops)
    (hs : inv n s) : ops.length ≤ n := by
  induction ops generalizing n s with
  | nil => exact Nat.zero_le n
  | cons op ops ih =>
      rcases hstep n s op hs with hsame | ⟨n', hlt, hnext⟩
      · exact absurd hsame h.1
      · exact Nat.le_trans (Nat.succ_le_succ (ih h.2 hnext)) hlt

end Ranks

/-! ### Histories -/

/-- The events of a run in order, where each step shows one event. -/
def eventsOf (step : σ → ο → σ) (event : σ → ο → η) : σ → List ο → List η
  | _, [] => []
  | s, op :: ops => event s op :: eventsOf step event (step s op) ops

section Histories

variable {step : σ → ο → σ} {event : σ → ο → η} {s : σ}

theorem runSteps_concat (ops : List ο) (op : ο) :
    runSteps step s (ops ++ [op]) = step (runSteps step s ops) op :=
  List.foldl_append

theorem eventsOf_concat (ops : List ο) (op : ο) :
    eventsOf step event s (ops ++ [op]) =
      eventsOf step event s ops ++ [event (runSteps step s ops) op] := by
  induction ops generalizing s with
  | nil => rfl
  | cons op' ops ih => exact congrArg (event s op' :: ·) ih

/-- **Invariants of the history.** What holds initially, with no event, and is kept by every step
holds of every run and its events. -/
theorem history_invariant {inv : List η → σ → Prop} (hs : inv [] s)
    (hstep : ∀ events s op, inv events s → inv (events ++ [event s op]) (step s op))
    (ops : List ο) : inv (eventsOf step event s ops) (runSteps step s ops) := by
  induction ops using List.reverseRecOn with
  | nil => exact hs
  | append_singleton ops op ih =>
      rw [eventsOf_concat, runSteps_concat]
      exact hstep _ _ op ih

/-- **A property that exactly the bad steps break.** If an invariant that implies the property is
kept by every step that is not bad, and a bad step leads out of the property, then the property
holds all along a run exactly when no step of the run is bad. -/
theorem always_iff_never {inv good : List η → σ → Prop} {bad : σ → ο → Prop} (hs : inv [] s)
    (hgood : ∀ events s, inv events s → good events s)
    (hstep : ∀ events s op, inv events s → ¬ bad s op → inv (events ++ [event s op]) (step s op))
    (hbad : ∀ events s op, inv events s → bad s op → ¬ good (events ++ [event s op]) (step s op))
    (ops : List ο) :
    (∀ ran, ran <+: ops → good (eventsOf step event s ran) (runSteps step s ran)) ↔
      ∀ ran op, ran ++ [op] <+: ops → ¬ bad (runSteps step s ran) op := by
  constructor
  · intro h
    have hinv : ∀ ran, ran <+: ops → inv (eventsOf step event s ran) (runSteps step s ran) := by
      intro ran
      induction ran using List.reverseRecOn with
      | nil => exact fun _ => hs
      | append_singleton ran op ih =>
          intro hran
          have hbefore := ih ((List.prefix_append ran [op]).trans hran)
          have hafter := h _ hran
          rw [eventsOf_concat, runSteps_concat] at hafter ⊢
          exact hstep _ _ op hbefore fun hb => hbad _ _ op hbefore hb hafter
    intro ran op hran hb
    have hafter := h _ hran
    rw [eventsOf_concat, runSteps_concat] at hafter
    exact hbad _ _ op (hinv ran ((List.prefix_append ran [op]).trans hran)) hb hafter
  · intro h ran hran
    refine hgood _ _ ?_
    induction ran using List.reverseRecOn with
    | nil => exact hs
    | append_singleton ran op ih =>
        rw [eventsOf_concat, runSteps_concat]
        exact hstep _ _ op (ih ((List.prefix_append ran [op]).trans hran)) (h ran op hran)

end Histories

end MiniHypervisor.Control
