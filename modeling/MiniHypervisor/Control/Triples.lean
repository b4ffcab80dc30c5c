import MiniHypervisor.Control.Outcome

/-!
# Triples for stateful computations

Judgements about a computation on a state.  `Throws P x` bounds the errors of `x`: every error
it can end with satisfies `P`.  `Gives Q x` says so of its results.  `Yields view x v a w` is a
triple of total correctness, read through an observation `view` of the state: from every state that
shows `v`, the computation returns `a` and leaves a state that shows `w`; `Aborts view x v w` says
that it fails instead.  `Ensures P x Q E` is a triple with a postcondition for each outcome, `Q` for
a result and `E` for a failure.  All follow the shape of the program, with one rule for each way of
building it.

## Main definitions

* `Refuses` : a bound on the error of a computation without effects.
* `Throws` : a bound on the errors of a computation on a state.
* `Gives` : what every result of a computation satisfies.
* `Yields`, `Aborts` : the result or the failure of a computation and the observation it leaves.
* `Ensures` : what a computation leaves when it succeeds and when it fails.

## Main results

* `Throws.bind`, `Throws.within` : the rules for errors.
* `Yields.bind`, `Yields.within` : the rules for triples.
* `Ensures.bind`, `Ensures.attempt_bind` : the rules for triples with two postconditions.
-/

namespace MiniHypervisor.Control

variable {ε σ α β : Type}

/-! ### Bounds on errors -/

/-- The error of `x`, if any, satisfies `P`. -/
def Refuses (P : ε → Prop) (x : Except ε α) : Prop := ∀ e, x = .error e → P e

/-- Every error of `x` satisfies `P`. -/
def Throws (P : ε → Prop) (x : EStateM ε σ α) : Prop := ∀ s e s', x.run s = .error e s' → P e

section Refuses

variable {P : ε → Prop} {x : Except ε α} {f : α → Except ε β}

theorem Refuses.pure (a : α) : Refuses P (Pure.pure a : Except ε α) := nofun

theorem Refuses.error {e : ε} (h : P e) : Refuses P (.error e : Except ε α) := by
  rintro _ ⟨⟩
  exact h

theorem Refuses.ite {c : Prop} [Decidable c] {y : Except ε α} (hx : Refuses P x)
    (hy : Refuses P y) : Refuses P (if c then x else y) := by
  split_ifs
  · exact hx
  · exact hy

theorem Refuses.bind (hx : Refuses P x) (hf : ∀ a, Refuses P (f a)) : Refuses P (x >>= f) := by
  intro e h
  cases x with
  | error e' => exact hx e (congrArg Except.error (Except.error.inj h))
  | ok a => exact hf a e h

theorem Refuses.rejectIf {c : Prop} [Decidable c] {e : ε} (h : P e) :
    Refuses P (rejectIf c e) :=
  .ite (.error h) (.pure ())

theorem Refuses.guard {c : Prop} [Decidable c] {e : ε} {f : Unit → Except ε β} (h : P e)
    (hf : Refuses P (f ())) : Refuses P (Control.rejectIf c e >>= f) :=
  (Refuses.rejectIf h).bind fun _ => hf

theorem Refuses.mapError_of {ε' : Type} {Q : ε' → Prop} {y : Except ε' α} {wrap : ε' → ε}
    (hy : Refuses Q y) (h : ∀ e, Q e → P (wrap e)) : Refuses P (y.mapError wrap) := by
  cases y with
  | error e =>
      rintro e' ⟨⟩
      exact h e (hy e rfl)
  | ok a => nofun

theorem Refuses.mapError {ε' : Type} {y : Except ε' α} {wrap : ε' → ε} (h : ∀ e, P (wrap e)) :
    Refuses P (y.mapError wrap) :=
  .mapError_of (Q := fun _ => True) (fun _ _ => trivial) fun e _ => h e

theorem Refuses.mapM {g : β → Except ε α} (h : ∀ b, Refuses P (g b)) (l : List β) :
    Refuses P (l.mapM g) := by
  induction l with
  | nil => exact .pure _
  | cons b l ih =>
      rw [List.mapM_cons]
      exact (h b).bind fun _ => ih.bind fun _ => .pure _

end Refuses

section Throws

variable {P : ε → Prop} {x : EStateM ε σ α} {f : α → EStateM ε σ β}

theorem Throws.pure (a : α) : Throws P (Pure.pure a : EStateM ε σ α) := nofun

theorem Throws.throw {e : ε} (h : P e) : Throws P (throw e : EStateM ε σ α) := by
  rintro _ _ _ ⟨⟩
  exact h

theorem Throws.modify {u : σ → σ} : Throws P (modify u : EStateM ε σ PUnit) := nofun

theorem Throws.get_bind {f : σ → EStateM ε σ β} (h : ∀ s, Throws P (f s)) :
    Throws P (get >>= f) := fun s => h s s

theorem Throws.bind (hx : Throws P x) (hf : ∀ a, Throws P (f a)) : Throws P (x >>= f) := by
  intro s e s' h
  cases hrun : x.run s with
  | ok a t =>
      rw [run_bind_of_ok hrun] at h
      exact hf a t e s' h
  | error e' t =>
      rw [run_bind_of_error hrun] at h
      cases h
      exact hx s e s' hrun

theorem Throws.reads {g : σ → Except ε α} (h : ∀ s, Refuses P (g s)) : Throws P (reads g) := by
  intro s e s' hrun
  cases hg : g s with
  | ok a =>
      rw [run_reads_of_ok hg] at hrun
      cases hrun
  | error e' =>
      rw [run_reads_of_error hg] at hrun
      cases hrun
      exact h s e hg

/-- The errors of a computation on a part of the state, from its own errors. -/
theorem Throws.within {τ ε' : Type} {Q : ε' → Prop} {get : σ → τ} {set : σ → τ → σ}
    {wrap : ε' → ε} {y : EStateM ε' τ α} (hy : Throws Q y) (h : ∀ e, Q e → P (wrap e)) :
    Throws P (within get set wrap y) := by
  intro s e s' hrun
  cases hrun' : y.run (get s) with
  | ok a t =>
      rw [run_within_of_ok hrun'] at hrun
      cases hrun
  | error e' t =>
      rw [run_within_of_error hrun'] at hrun
      cases hrun
      exact h e' (hy _ e' t hrun')

/-- The errors of a computation on a part of the state, from how they are wrapped. -/
theorem Throws.within_wrap {τ ε' : Type} {get : σ → τ} {set : σ → τ → σ} {wrap : ε' → ε}
    {y : EStateM ε' τ α} (h : ∀ e, P (wrap e)) : Throws P (Control.within get set wrap y) :=
  Throws.within (Q := fun _ => True) (fun _ _ _ _ => trivial) fun e _ => h e

theorem Throws.forM {step : β → EStateM ε σ PUnit} (h : ∀ b, Throws P (step b)) (l : List β) :
    Throws P (l.forM step) := by
  induction l with
  | nil => exact .pure _
  | cons b l ih => exact (h b).bind fun _ => ih

end Throws

/-! ### Results -/

/-- Every result of `x` satisfies `Q`. -/
def Gives (Q : α → Prop) (x : EStateM ε σ α) : Prop := ∀ s a s', x.run s = .ok a s' → Q a

section Gives

variable {Q : α → Prop} {x : EStateM ε σ α}

theorem Gives.pure {a : α} (h : Q a) : Gives Q (Pure.pure a : EStateM ε σ α) := by
  rintro _ _ _ ⟨⟩
  exact h

theorem Gives.throw (e : ε) : Gives Q (throw e : EStateM ε σ α) := nofun

theorem Gives.bind {R : β → Prop} {y : EStateM ε σ β} {f : β → EStateM ε σ α} (hy : Gives R y)
    (hf : ∀ b, R b → Gives Q (f b)) : Gives Q (y >>= f) := by
  intro s a s' h
  obtain ⟨b, t, hrun, hrest⟩ := run_bind_eq_ok.mp h
  exact hf b (hy s b t hrun) t a s' hrest

/-- The result of what comes last, whatever comes first. -/
theorem Gives.then {y : EStateM ε σ β} {f : β → EStateM ε σ α} (hf : ∀ b, Gives Q (f b)) :
    Gives Q (y >>= f) :=
  Gives.bind (R := fun _ => True) (fun _ _ _ _ => trivial) fun b _ => hf b

theorem Gives.ite {c : Prop} [Decidable c] {y : EStateM ε σ α} (hx : c → Gives Q x)
    (hy : ¬ c → Gives Q y) : Gives Q (if c then x else y) := by
  split_ifs with hc
  · exact hx hc
  · exact hy hc

theorem Gives.reads {g : σ → Except ε α} (h : ∀ s a, g s = .ok a → Q a) : Gives Q (reads g) :=
  fun s a _ hrun => h s a (run_reads_eq_ok.mp hrun).1

theorem Gives.within {τ ε' : Type} {get : σ → τ} {set : σ → τ → σ} {wrap : ε' → ε}
    {y : EStateM ε' τ α} (hy : Gives Q y) : Gives Q (within get set wrap y) := by
  intro s a s' h
  obtain ⟨t, hrun, -⟩ := run_within_eq_ok.mp h
  exact hy _ a t hrun

end Gives

/-! ### Results and what they leave -/

/-- From every state that shows `v`, the computation returns `a` and leaves a state that shows
`w`. -/
def Yields {γ : Type} (view : σ → γ) (x : EStateM ε σ α) (v : γ) (a : α) (w : γ) : Prop :=
  ∀ s, view s = v → ∃ s', x.run s = .ok a s' ∧ view s' = w

section Yields

variable {γ : Type} {view : σ → γ} {x : EStateM ε σ α} {f : α → EStateM ε σ β} {u v w : γ} {a : α}
  {b : β}

theorem Yields.pure (a : α) (v : γ) : Yields view (Pure.pure a : EStateM ε σ α) v a v :=
  fun s hs => ⟨s, rfl, hs⟩

theorem Yields.bind (hx : Yields view x u a v) (hf : Yields view (f a) v b w) :
    Yields view (x >>= f) u b w := by
  intro s hs
  obtain ⟨t, hrun, ht⟩ := hx s hs
  rw [run_bind_of_ok hrun]
  exact hf t ht

theorem Yields.reads {g : σ → Except ε α} (h : ∀ s, view s = v → g s = .ok a) :
    Yields view (reads g) v a v :=
  fun s hs => ⟨s, run_reads_of_ok (h s hs), hs⟩

theorem Yields.modify {u : σ → σ} (h : ∀ s, view s = v → view (u s) = w) :
    Yields view (modify u : EStateM ε σ PUnit) v ⟨⟩ w :=
  fun s hs => ⟨u s, rfl, h s hs⟩

theorem Yields.guard {c : Prop} [Decidable c] {e : ε} (h : ¬ c) :
    Yields view (Control.reads fun _ => rejectIf c e) v () v :=
  .reads fun _ _ => rejectIf_eq_ok.mpr h

/-- A computation on a part of the state, from the observations of the part before and after. -/
theorem Yields.within {τ ε' δ : Type} {get : σ → τ} {set : σ → τ → σ} {wrap : ε' → ε}
    {y : EStateM ε' τ α} {part : τ → δ} {p q : δ} (hy : Yields part y p a q)
    (hget : ∀ s, view s = v → part (get s) = p)
    (hset : ∀ s t, view s = v → part t = q → view (set s t) = w) :
    Yields view (within get set wrap y) v a w := by
  intro s hs
  obtain ⟨t, hrun, ht⟩ := hy (get s) (hget s hs)
  exact ⟨set s t, run_within_of_ok hrun, hset s t hs ht⟩

end Yields

/-- From every state that shows `v`, the computation fails and leaves a state that shows `w`. -/
def Aborts {γ : Type} (view : σ → γ) (x : EStateM ε σ α) (v w : γ) : Prop :=
  ∀ s, view s = v → ∃ e s', x.run s = .error e s' ∧ view s' = w

section Aborts

variable {γ : Type} {view : σ → γ} {x : EStateM ε σ α} {f : α → EStateM ε σ β} {u v w : γ} {a : α}

theorem Aborts.bind (hx : Aborts view x v w) : Aborts view (x >>= f) v w := by
  intro s hs
  obtain ⟨e, t, hrun, ht⟩ := hx s hs
  exact ⟨e, t, run_bind_of_error hrun, ht⟩

theorem Yields.bind_aborts (hx : Yields view x u a v) (hf : Aborts view (f a) v w) :
    Aborts view (x >>= f) u w := by
  intro s hs
  obtain ⟨t, hrun, ht⟩ := hx s hs
  rw [run_bind_of_ok hrun]
  exact hf t ht

theorem Aborts.reads {g : σ → Except ε α} {e : ε} (h : ∀ s, view s = v → g s = .error e) :
    Aborts view (reads g) v v :=
  fun s hs => ⟨e, s, run_reads_of_error (h s hs), hs⟩

theorem Aborts.within {τ ε' δ : Type} {get : σ → τ} {set : σ → τ → σ} {wrap : ε' → ε}
    {y : EStateM ε' τ α} {part : τ → δ} {p q : δ} (hy : Aborts part y p q)
    (hget : ∀ s, view s = v → part (get s) = p)
    (hset : ∀ s t, view s = v → part t = q → view (set s t) = w) :
    Aborts view (within get set wrap y) v w := by
  intro s hs
  obtain ⟨e, t, hrun, ht⟩ := hy (get s) (hget s hs)
  exact ⟨wrap e, set s t, run_within_of_error hrun, hset s t hs ht⟩

end Aborts

/-! ### What either outcome leaves -/

/-- From every state with `P`, a success leaves a result and a state with `Q`, and a failure leaves
a state with `E`. -/
def Ensures (P : σ → Prop) (x : EStateM ε σ α) (Q : α → σ → Prop) (E : σ → Prop) : Prop :=
  ∀ s, P s → (∀ a s', x.run s = .ok a s' → Q a s') ∧ ∀ e s', x.run s = .error e s' → E s'

/-- The outcome is a result. -/
def succeeded : EStateM.Result ε σ α → Bool
  | .ok _ _ => true
  | .error _ _ => false

section Ensures

variable {P E : σ → Prop} {Q : α → σ → Prop} {x : EStateM ε σ α}

/-- The two outcomes of one run. -/
theorem Ensures.outcome {Q : σ → Prop} {s : σ} (h : Ensures P x (fun _ => Q) E) (hs : P s) :
    (succeeded (x.run s) = true ∧ Q (finalState (x.run s))) ∨
      (succeeded (x.run s) = false ∧ E (finalState (x.run s))) := by
  cases hrun : x.run s with
  | ok a t => exact .inl ⟨rfl, (h s hs).1 a t hrun⟩
  | error e t => exact .inr ⟨rfl, (h s hs).2 e t hrun⟩

theorem Ensures.pure {a : α} (h : ∀ s, P s → Q a s) :
    Ensures P (Pure.pure a : EStateM ε σ α) Q E := by
  refine fun s hs => ⟨?_, nofun⟩
  rintro _ _ ⟨⟩
  exact h s hs

theorem Ensures.throw {e : ε} (h : ∀ s, P s → E s) :
    Ensures P (throw e : EStateM ε σ α) Q E := by
  refine fun s hs => ⟨nofun, ?_⟩
  rintro _ _ ⟨⟩
  exact h s hs

theorem Ensures.modify {u : σ → σ} {Q : PUnit → σ → Prop} (h : ∀ s, P s → Q ⟨⟩ (u s)) :
    Ensures P (modify u : EStateM ε σ PUnit) Q E := by
  refine fun s hs => ⟨?_, nofun⟩
  rintro _ _ ⟨⟩
  exact h s hs

theorem Ensures.set {t : σ} {Q : PUnit → σ → Prop} (h : Q ⟨⟩ t) :
    Ensures P (set t : EStateM ε σ PUnit) Q E := by
  refine fun s _ => ⟨?_, nofun⟩
  rintro _ _ ⟨⟩
  exact h

/-- What follows a read of the state knows the state. -/
theorem Ensures.get_bind {f : σ → EStateM ε σ α}
    (h : ∀ s, P s → Ensures (fun t => t = s) (f s) Q E) : Ensures P (get >>= f) Q E :=
  fun s hs => h s hs s rfl

theorem Ensures.ite {c : Prop} [Decidable c] {y : EStateM ε σ α} (hx : c → Ensures P x Q E)
    (hy : ¬ c → Ensures P y Q E) : Ensures P (if c then x else y) Q E := by
  split_ifs with hc
  · exact hx hc
  · exact hy hc

theorem Ensures.bind {S : β → σ → Prop} {f : α → EStateM ε σ β} (hx : Ensures P x Q E)
    (hf : ∀ a, Ensures (Q a) (f a) S E) : Ensures P (x >>= f) S E := by
  intro s hs
  cases hrun : x.run s with
  | ok a t =>
      rw [run_bind_of_ok hrun]
      exact hf a t ((hx s hs).1 a t hrun)
  | error e t =>
      rw [run_bind_of_error hrun]
      refine ⟨nofun, ?_⟩
      rintro _ _ ⟨⟩
      exact (hx s hs).2 e t hrun

theorem Ensures.weaken {Q' : α → σ → Prop} (hx : Ensures P x Q E)
    (h : ∀ a s, Q a s → Q' a s) : Ensures P x Q' E :=
  fun s hs => ⟨fun a t hrun => h a t ((hx s hs).1 a t hrun), (hx s hs).2⟩

theorem Ensures.strengthen {P' : σ → Prop} (hx : Ensures P x Q E) (h : ∀ s, P' s → P s) :
    Ensures P' x Q E :=
  fun s hs => hx s (h s hs)

theorem Ensures.weaken_error {E' : σ → Prop} (hx : Ensures P x Q E) (h : ∀ s, E s → E' s) :
    Ensures P x Q E' :=
  fun s hs => ⟨(hx s hs).1, fun e t hrun => h t ((hx s hs).2 e t hrun)⟩

/-- A fact in the precondition that does not depend on the state. -/
theorem Ensures.of_fact {p : Prop} (h : p → Ensures P x Q E) :
    Ensures (fun s => p ∧ P s) x Q E :=
  fun s hs => h hs.1 s hs.2

theorem Ensures.reads {g : σ → Except ε α} (hok : ∀ s a, P s → g s = .ok a → Q a s)
    (herror : ∀ s, P s → E s) : Ensures P (reads g) Q E := by
  intro s hs
  cases hg : g s with
  | ok a =>
      rw [run_reads_of_ok hg]
      refine ⟨?_, nofun⟩
      rintro _ _ ⟨⟩
      exact hok s a hs hg
  | error e =>
      rw [run_reads_of_error hg]
      refine ⟨nofun, ?_⟩
      rintro _ _ ⟨⟩
      exact herror s hs

/-- A computation that keeps an observation leaves it, whatever its outcome. -/
theorem Ensures.of_keeps {γ : Type} {view : σ → γ} {v : γ} (h : Keeps view x) :
    Ensures (fun s => view s = v) x (fun _ s => view s = v) fun s => view s = v := by
  intro s hs
  have hend := (h s).trans hs
  refine ⟨fun a t hrun => ?_, fun e t hrun => ?_⟩
  · rwa [hrun] at hend
  · rwa [hrun] at hend

/-- What follows a failure that is a result starts from the postcondition of a failure. -/
theorem Ensures.attempt_bind {ε' : Type} {F : σ → Prop} {S : β → σ → Prop}
    {f : Except ε α → EStateM ε' σ β} (hx : Ensures P x Q E)
    (hok : ∀ a, Ensures (Q a) (f (.ok a)) S F) (herror : ∀ e, Ensures E (f (.error e)) S F) :
    Ensures P (attempt x >>= f) S F := by
  intro s hs
  cases hrun : x.run s with
  | ok a t =>
      rw [run_bind_of_ok (run_attempt_of_ok hrun)]
      exact hok a t ((hx s hs).1 a t hrun)
  | error e t =>
      rw [run_bind_of_ok (run_attempt_of_error hrun)]
      exact herror e t ((hx s hs).2 e t hrun)

/-- A computation on a part of the state, with assertions about that part. -/
theorem Ensures.within {τ ε' : Type} {get : σ → τ} {set : σ → τ → σ} {wrap : ε' → ε}
    {y : EStateM ε' τ α} {P E : τ → Prop} {Q : α → τ → Prop} (hy : Ensures P y Q E)
    (hget : ∀ s t, get (set s t) = t) :
    Ensures (fun s => P (get s)) (Control.within get set wrap y) (fun a s => Q a (get s))
      fun s => E (get s) := by
  intro s hs
  cases hrun : y.run (get s) with
  | ok a t =>
      rw [run_within_of_ok hrun]
      refine ⟨?_, nofun⟩
      rintro _ _ ⟨⟩
      exact (hget s t).symm ▸ (hy _ hs).1 a t hrun
  | error e t =>
      rw [run_within_of_error hrun]
      refine ⟨nofun, ?_⟩
      rintro _ _ ⟨⟩
      exact (hget s t).symm ▸ (hy _ hs).2 e t hrun

end Ensures

end MiniHypervisor.Control
