import Mathlib.Algebra.Ring.Nat
import Mathlib.Data.List.Basic
import Mathlib.Tactic.SplitIfs

/-!
# Fallible computations with and without state

Rules for reading a fallible computation backwards.  A computation without effects is a value
of `Except ε`; one that updates a state is a value of `EStateM ε σ`, whose error outcome keeps
the state reached so far, as an early return from a procedure that borrows its state mutably
does.  Success of a sequence is success of its parts (`bind_eq_ok`, `run_bind_eq_ok`), and a loop
keeps whatever each of its steps keeps (`foldlM_induction`, `run_forM_induction`).

## Main definitions

* `hexText` : a number as error texts show it.
* `rejectIf` : the guard that fails with a given error when its condition holds.
* `reads` : a computation on the state that does not change it.
* `within` : a computation on a part of the state.
* `attempt` : a computation whose failure is a result.
* `Keeps` : an observation of the state that a computation keeps, whatever its outcome.
* `Preserves` : a property of the state that a computation preserves, whatever its outcome.

## Main results

* `bind_eq_ok`, `rejectIf_bind_eq_ok` : inversion of a sequence and of a guard.
* `foldlM_induction` : what a successful loop establishes, from what one step establishes.
* `foldlM_append_eq_ok` : when a loop that appends succeeds, from when one step does.
* `checkedSum_eq_ok` : a chain of checked additions succeeds exactly when the sum fits.
* `run_forM_induction` : a stateful loop succeeds and keeps its invariant if every step does.
-/

namespace MiniHypervisor.Control

variable {ε σ α β : Type}

/-- A number in hexadecimal with its marker, as error texts show it. -/
def hexText (n : ℕ) : String := "0x" ++ String.ofList (Nat.toDigits 16 n)

/-! ### Computations without effects -/

/-- Fail with `e` when `c` holds. -/
def rejectIf (c : Prop) [Decidable c] (e : ε) : Except ε Unit :=
  if c then .error e else .ok ()

theorem bind_eq_ok {x : Except ε α} {f : α → Except ε β} {b : β} :
    x >>= f = .ok b ↔ ∃ a, x = .ok a ∧ f a = .ok b := by
  cases x with
  | error e => exact ⟨nofun, fun ⟨_, h, _⟩ => nomatch h⟩
  | ok a => exact ⟨fun h => ⟨a, rfl, h⟩, fun ⟨_, h, hf⟩ => by cases h; exact hf⟩

/-- The outcome of a value that is put into another form. -/
theorem bind_pure_eq_ok {x : Except ε α} {f : α → β} {g : β → α} {b : β}
    (hgf : Function.LeftInverse g f) (hfg : Function.RightInverse g f) :
    (x >>= fun a => pure (f a)) = .ok b ↔ x = .ok (g b) := by
  simp only [bind_eq_ok, pure, Except.pure, Except.ok.injEq]
  constructor
  · rintro ⟨a, ha, rfl⟩
    rw [ha, hgf]
  · intro hx
    exact ⟨g b, hx, hfg b⟩

theorem mapError_eq_ok {ε' : Type} {x : Except ε α} {f : ε → ε'} {a : α} :
    x.mapError f = .ok a ↔ x = .ok a := by
  cases x <;> simp [Except.mapError]

theorem bind_of_ok {x : Except ε α} {a : α} (h : x = .ok a) (f : α → Except ε β) :
    x >>= f = f a := by
  rw [h]; rfl

section Guards

variable {c : Prop} [Decidable c] {e : ε}

theorem rejectIf_eq_ok {u : Unit} : rejectIf c e = .ok u ↔ ¬ c := by
  unfold rejectIf
  split_ifs with h <;> simp [h]

theorem rejectIf_bind_eq_ok {f : Unit → Except ε β} {b : β} :
    rejectIf c e >>= f = .ok b ↔ ¬ c ∧ f () = .ok b := by
  unfold rejectIf
  split_ifs with h
  · exact ⟨nofun, fun hn => absurd h hn.1⟩
  · exact ⟨fun hf => ⟨h, hf⟩, fun hn => hn.2⟩

end Guards

/-- A loop without an accumulator succeeds exactly when every step does. -/
theorem forM_eq_ok {step : α → Except ε Unit} {l : List α} :
    l.forM step = .ok () ↔ ∀ x ∈ l, step x = .ok () := by
  induction l with
  | nil => exact ⟨fun _ => nofun, fun _ => rfl⟩
  | cons x l ih =>
      have hcons : (x :: l).forM step = step x >>= fun _ => l.forM step := rfl
      rw [hcons, bind_eq_ok, List.forall_mem_cons, ih]
      exact ⟨fun ⟨_, hx, hl⟩ => ⟨hx, hl⟩, fun ⟨hx, hl⟩ => ⟨(), hx, hl⟩⟩

/-- A loop that checks each element against those before it: the elements are accepted one by one
and no key occurs twice. -/
theorem forM_zipIdx_eq_ok {κ : Type} {check : List α → α → Except ε Unit} {P : α → Prop}
    {key : α → κ}
    (hcheck : ∀ previous x, check previous x = .ok () ↔ P x ∧ ∀ p ∈ previous, key p ≠ key x)
    {l : List α} :
    (l.zipIdx.forM fun entry => check (l.take entry.2) entry.1) = .ok () ↔
      (∀ x ∈ l, P x) ∧ (l.map key).Nodup := by
  simp only [forM_eq_ok, hcheck, Prod.forall, List.mem_zipIdx_iff_getElem?]
  constructor
  · intro h
    refine ⟨fun x hx => ?_, ?_⟩
    · obtain ⟨i, hi⟩ := List.mem_iff_getElem?.mp hx
      exact (h x i hi).1
    · rw [List.nodup_iff_pairwise_ne, List.pairwise_map, List.pairwise_iff_getElem]
      intro i j hi hj hij
      exact (h l[j] j (List.getElem?_eq_getElem hj)).2 l[i]
        (List.mem_take_iff_getElem.mpr ⟨i, by omega, rfl⟩)
  · rintro ⟨hall, hnodup⟩ x j hx
    refine ⟨hall x (List.mem_of_getElem? hx), fun p hp => ?_⟩
    obtain ⟨hj, rfl⟩ := List.getElem?_eq_some_iff.mp hx
    obtain ⟨i, hi, rfl⟩ := List.mem_take_iff_getElem.mp hp
    rw [List.nodup_iff_pairwise_ne, List.pairwise_map, List.pairwise_iff_getElem] at hnodup
    exact hnodup i j (by omega) hj (by omega)

/-- **What a successful loop establishes.** The motive speaks about the elements consumed so
far and the accumulator. -/
theorem foldlM_induction {step : β → α → Except ε β} (motive : List α → β → Prop) {l : List α}
    {init out : β} (base : motive [] init)
    (next : ∀ done, ∀ x ∈ l, ∀ acc acc', motive done acc → step acc x = .ok acc' →
      motive (done ++ [x]) acc')
    (h : l.foldlM step init = .ok out) : motive l out := by
  suffices key : ∀ rest done acc, (∀ x ∈ rest, x ∈ l) → motive done acc →
      rest.foldlM step acc = .ok out → motive (done ++ rest) out from
    key l [] init (fun _ hx => hx) base h
  intro rest
  induction rest with
  | nil =>
      intro done acc _ hm hout
      obtain rfl : acc = out := by simpa [pure, Except.pure] using hout
      simpa using hm
  | cons x rest ih =>
      intro done acc hsub hm hout
      rw [List.foldlM_cons] at hout
      obtain ⟨acc', hstep, hrest⟩ := bind_eq_ok.mp hout
      have hm' := next done x (hsub x List.mem_cons_self) acc acc' hm hstep
      simpa using ih (done ++ [x]) acc' (fun y hy => hsub y (List.mem_cons_of_mem _ hy)) hm' hrest

/-- **A loop that appends.** When a step succeeds exactly by appending `add x`, provided `x` is
acceptable and the new list is still good, the loop succeeds exactly by appending everything. -/
theorem foldlM_append_eq_ok {step : List β → α → Except ε (List β)} {add : α → List β}
    {P : α → Prop} {Q : List β → Prop} (hinitial : ∀ l l', Q (l ++ l') → Q l)
    (hstep : ∀ acc x acc', Q acc →
      (step acc x = .ok acc' ↔ acc' = acc ++ add x ∧ P x ∧ Q acc'))
    {l : List α} {acc out : List β} (hacc : Q acc) :
    l.foldlM step acc = .ok out ↔ out = acc ++ l.flatMap add ∧ (∀ x ∈ l, P x) ∧ Q out := by
  induction l generalizing acc with
  | nil =>
      simp only [List.foldlM_nil, pure, Except.pure, Except.ok.injEq, List.flatMap_nil,
        List.append_nil, List.not_mem_nil, false_implies, implies_true, true_and]
      exact ⟨fun h => ⟨h.symm, h ▸ hacc⟩, fun h => h.1.symm⟩
  | cons x l ih =>
      rw [List.foldlM_cons, bind_eq_ok, List.flatMap_cons, ← List.append_assoc,
        List.forall_mem_cons]
      constructor
      · rintro ⟨acc', hfirst, hrest⟩
        obtain ⟨rfl, hx, hacc'⟩ := (hstep acc x acc' hacc).mp hfirst
        obtain ⟨hout, hl, hgood⟩ := (ih hacc').mp hrest
        exact ⟨hout, ⟨hx, hl⟩, hgood⟩
      · rintro ⟨hout, ⟨hx, hl⟩, hgood⟩
        have hacc' : Q (acc ++ add x) := hinitial _ (l.flatMap add) (hout ▸ hgood)
        exact ⟨_, (hstep acc x _ hacc).mpr ⟨rfl, hx, hacc'⟩, (ih hacc').mpr ⟨hout, hl, hgood⟩⟩

/-- A loop inside a loop is one loop over all the elements. -/
theorem foldlM_flatMap {γ : Type} {step : β → α → Except ε β} {f : γ → List α} {l : List γ}
    {init : β} :
    (l.flatMap f).foldlM step init = l.foldlM (fun acc c => (f c).foldlM step acc) init := by
  induction l generalizing init with
  | nil => rfl
  | cons c l ih => simp only [List.flatMap_cons, List.foldlM_append, List.foldlM_cons, ih]

/-! ### Checked sums -/

/-- The sum of the parts in order, or an error as soon as a partial sum does not fit 64 bits. -/
def checkedSum (overflow : ε) (parts : List ℕ) : Except ε ℕ :=
  parts.foldlM (fun total n => do
    rejectIf (2 ^ 64 ≤ total + n) overflow
    return total + n) 0

theorem checkedSum_eq_ok {overflow : ε} {parts : List ℕ} {n : ℕ} :
    checkedSum overflow parts = .ok n ↔ parts.sum < 2 ^ 64 ∧ n = parts.sum := by
  suffices key : ∀ total < 2 ^ 64, ∀ parts : List ℕ,
      parts.foldlM (fun total n => (do
        rejectIf (2 ^ 64 ≤ total + n) overflow
        return total + n : Except ε ℕ)) total = .ok n ↔
      total + parts.sum < 2 ^ 64 ∧ n = total + parts.sum by
    have hzero := key 0 (by decide) parts
    rwa [Nat.zero_add] at hzero
  intro total htotal parts
  induction parts generalizing total with
  | nil =>
      simp only [List.foldlM_nil, pure, Except.pure, Except.ok.injEq, List.sum_nil, Nat.add_zero]
      exact ⟨fun h => ⟨htotal, h.symm⟩, fun h => h.2.symm⟩
  | cons m parts ih =>
      rw [List.foldlM_cons, List.sum_cons, bind_eq_ok, ← Nat.add_assoc]
      simp only [rejectIf_bind_eq_ok, pure, Except.pure, Except.ok.injEq]
      constructor
      · rintro ⟨_, ⟨hlt, rfl⟩, hrest⟩
        exact (ih _ (by omega)).mp hrest
      · rintro ⟨hlt, hn⟩
        exact ⟨_, ⟨by omega, rfl⟩, (ih _ (by omega)).mpr ⟨hlt, hn⟩⟩

/-! ### Computations on a state -/

/-- Run `g` on the current state and leave the state as it is. -/
def reads (g : σ → Except ε α) : EStateM ε σ α := fun s =>
  match g s with
  | .ok a => .ok a s
  | .error e => .error e s

section Run

variable {x : EStateM ε σ α} {f : α → EStateM ε σ β} {s s' s'' : σ} {a : α} {b : β} {e : ε}

theorem run_bind_of_ok (h : x.run s = .ok a s') : (x >>= f).run s = (f a).run s' := by
  change EStateM.bind x f s = f a s'
  change x s = _ at h
  simp only [EStateM.bind, h]

theorem run_bind_of_error (h : x.run s = .error e s') : (x >>= f).run s = .error e s' := by
  change EStateM.bind x f s = _
  change x s = _ at h
  simp only [EStateM.bind, h]

theorem run_bind_eq_ok :
    (x >>= f).run s = .ok b s'' ↔
      ∃ a s', x.run s = .ok a s' ∧ (f a).run s' = .ok b s'' := by
  cases h : x.run s with
  | ok a s' =>
      rw [run_bind_of_ok h]
      exact ⟨fun hf => ⟨a, s', rfl, hf⟩, fun ⟨_, _, hx, hf⟩ => by cases hx; exact hf⟩
  | error e s' =>
      rw [run_bind_of_error h]
      exact ⟨nofun, fun ⟨_, _, hx, _⟩ => nomatch hx⟩

theorem run_reads_of_ok {g : σ → Except ε α} (h : g s = .ok a) : (reads g).run s = .ok a s := by
  change reads g s = _
  simp only [reads, h]

theorem run_reads_of_error {g : σ → Except ε α} (h : g s = .error e) :
    (reads g).run s = .error e s := by
  change reads g s = _
  simp only [reads, h]

theorem run_guard_of_not {c : Prop} [Decidable c] (h : ¬ c) :
    (reads fun _ => rejectIf c e).run s = .ok () s :=
  run_reads_of_ok (rejectIf_eq_ok.mpr h)

theorem run_guard_of {c : Prop} [Decidable c] (h : c) :
    (reads fun _ => rejectIf c e).run s = .error e s :=
  run_reads_of_error (if_pos h)

theorem run_reads_eq_ok {g : σ → Except ε α} :
    (reads g).run s = .ok a s' ↔ g s = .ok a ∧ s' = s := by
  cases h : g s with
  | ok a' =>
      rw [run_reads_of_ok h, EStateM.Result.ok.injEq, Except.ok.injEq, eq_comm (a := s)]
  | error e =>
      rw [run_reads_of_error h]
      exact ⟨nofun, fun hok => nomatch hok.1⟩

/-- **A stateful loop keeps its invariant.** If every step succeeds and carries the motive over
one more element, then the loop succeeds and ends with the motive of all elements. -/
theorem run_forM_induction (step : α → EStateM ε σ Unit) (motive : List α → σ → Prop)
    {l : List α} (base : motive [] s)
    (next : ∀ done, ∀ x ∈ l, ∀ t, motive done t →
      ∃ t', (step x).run t = .ok () t' ∧ motive (done ++ [x]) t') :
    ∃ t, (l.forM step).run s = .ok () t ∧ motive l t := by
  suffices key : ∀ rest done t, (∀ x ∈ rest, x ∈ l) → motive done t →
      ∃ t', (rest.forM step).run t = .ok () t' ∧ motive (done ++ rest) t' from
    key l [] s (fun _ hx => hx) base
  intro rest
  induction rest with
  | nil => exact fun done t _ hm => ⟨t, rfl, by simpa using hm⟩
  | cons x rest ih =>
      intro done t hsub hm
      obtain ⟨t', hstep, hm'⟩ := next done x (hsub x List.mem_cons_self) t hm
      obtain ⟨t'', hrest, hm''⟩ :=
        ih (done ++ [x]) t' (fun y hy => hsub y (List.mem_cons_of_mem _ hy)) hm'
      refine ⟨t'', ?_, by simpa using hm''⟩
      rw [← hrest]
      exact run_bind_of_ok hstep

end Run

/-! ### Computations on a part of the state -/

section Within

variable {τ ε' : Type}

/-- Run `x` on the part of the state that `get` selects and `set` puts back, with its errors
carried over by `wrap`. -/
def within (get : σ → τ) (set : σ → τ → σ) (wrap : ε' → ε) (x : EStateM ε' τ α) :
    EStateM ε σ α := fun s =>
  match x.run (get s) with
  | .ok a t => .ok a (set s t)
  | .error e t => .error (wrap e) (set s t)

variable {get : σ → τ} {set : σ → τ → σ} {wrap : ε' → ε} {x : EStateM ε' τ α} {s : σ} {t : τ}
  {a : α} {e : ε'}

theorem run_within_of_ok (h : x.run (get s) = .ok a t) :
    (within get set wrap x).run s = .ok a (set s t) := by
  change within get set wrap x s = _
  simp only [within, h]

theorem run_within_of_error (h : x.run (get s) = .error e t) :
    (within get set wrap x).run s = .error (wrap e) (set s t) := by
  change within get set wrap x s = _
  simp only [within, h]

theorem run_within_eq_ok {s' : σ} :
    (within get set wrap x).run s = .ok a s' ↔ ∃ t, x.run (get s) = .ok a t ∧ s' = set s t := by
  cases h : x.run (get s) with
  | ok a' t =>
      rw [run_within_of_ok h, EStateM.Result.ok.injEq]
      constructor
      · rintro ⟨rfl, rfl⟩
        exact ⟨t, rfl, rfl⟩
      · rintro ⟨_, ⟨⟩, rfl⟩
        exact ⟨rfl, rfl⟩
  | error e t =>
      rw [run_within_of_error h]
      exact ⟨nofun, fun ⟨_, hok, _⟩ => nomatch hok⟩

end Within

/-! ### Failures as results -/

/-- Run `x` and return its result or its error; the state is the one `x` leaves. -/
def attempt {ε' : Type} (x : EStateM ε σ α) : EStateM ε' σ (Except ε α) := fun s =>
  match x.run s with
  | .ok a t => .ok (.ok a) t
  | .error e t => .ok (.error e) t

section Attempt

variable {ε' : Type} {x : EStateM ε σ α} {s t : σ}

theorem run_attempt_of_ok {a : α} (h : x.run s = .ok a t) :
    (attempt x : EStateM ε' σ (Except ε α)).run s = .ok (.ok a) t := by
  change attempt x s = _
  simp only [attempt, h]

theorem run_attempt_of_error {e : ε} (h : x.run s = .error e t) :
    (attempt x : EStateM ε' σ (Except ε α)).run s = .ok (.error e) t := by
  change attempt x s = _
  simp only [attempt, h]

end Attempt

/-! ### What a computation keeps -/

/-- The state a computation ends in, whether it succeeds or fails. -/
def finalState : EStateM.Result ε σ α → σ
  | .ok _ s => s
  | .error _ s => s

/-- The computation keeps the observation `g` of the state, whatever its outcome. -/
def Keeps (g : σ → β) (x : EStateM ε σ α) : Prop := ∀ s, g (finalState (x.run s)) = g s

section Keeps

variable {γ : Type} {g : σ → γ} {x : EStateM ε σ α} {f : α → EStateM ε σ β}

theorem Keeps.pure (a : α) : Keeps g (Pure.pure a : EStateM ε σ α) := fun _ => rfl

theorem Keeps.throw (e : ε) : Keeps g (throw e : EStateM ε σ α) := fun _ => rfl

theorem Keeps.bind (hx : Keeps g x) (hf : ∀ a, Keeps g (f a)) : Keeps g (x >>= f) := by
  intro s
  have hs := hx s
  cases h : x.run s with
  | ok a t =>
      rw [run_bind_of_ok h, hf a t]
      rwa [h] at hs
  | error e t =>
      rw [run_bind_of_error h]
      rwa [h] at hs

theorem Keeps.reads (r : σ → Except ε α) : Keeps g (reads r) := by
  intro s
  cases h : r s with
  | ok a => rw [run_reads_of_ok h]; rfl
  | error e => rw [run_reads_of_error h]; rfl

theorem Keeps.get_bind {f : σ → EStateM ε σ β} (h : ∀ s, g (finalState ((f s).run s)) = g s) :
    Keeps g (get >>= f) := h

theorem Keeps.modify {u : σ → σ} (h : ∀ s, g (u s) = g s) :
    Keeps g (modify u : EStateM ε σ PUnit) := h

theorem Keeps.ite {c : Prop} [Decidable c] {y : EStateM ε σ α} (hx : Keeps g x)
    (hy : Keeps g y) : Keeps g (if c then x else y) := by
  split_ifs
  · exact hx
  · exact hy

theorem Keeps.comp {δ : Type} (hx : Keeps g x) (h : γ → δ) : Keeps (fun s => h (g s)) x :=
  fun s => congrArg h (hx s)

/-- A computation on a part of the state keeps what does not depend on that part. -/
theorem Keeps.within {τ ε' : Type} {get : σ → τ} {set : σ → τ → σ} {wrap : ε' → ε}
    {y : EStateM ε' τ α} (h : ∀ s t, g (set s t) = g s) : Keeps g (within get set wrap y) := by
  intro s
  cases hy : y.run (get s) with
  | ok a t =>
      rw [run_within_of_ok hy]
      exact h s t
  | error e t =>
      rw [run_within_of_error hy]
      exact h s t

/-- A computation on a part of the state keeps of that part what it keeps on its own. -/
theorem Keeps.within_get {τ ε' : Type} {get : σ → τ} {set : σ → τ → σ} {wrap : ε' → ε}
    {y : EStateM ε' τ α} {k : τ → γ} (hy : Keeps k y) (hget : ∀ s t, k (get (set s t)) = k t)
    (hg : ∀ s, g s = k (get s)) : Keeps g (Control.within get set wrap y) := by
  intro s
  have ht := hy (get s)
  rw [hg, hg]
  cases hrun : y.run (get s) with
  | ok a t =>
      rw [hrun] at ht
      rw [run_within_of_ok hrun]
      exact (hget s t).trans ht
  | error e t =>
      rw [hrun] at ht
      rw [run_within_of_error hrun]
      exact (hget s t).trans ht

theorem Keeps.forM {step : β → EStateM ε σ PUnit} (h : ∀ b, Keeps g (step b)) (l : List β) :
    Keeps g (l.forM step) := by
  induction l with
  | nil => exact .pure _
  | cons b l ih => exact (h b).bind fun _ => ih

theorem Keeps.prod {δ : Type} {h : σ → δ} (hg : Keeps g x) (hh : Keeps h x) :
    Keeps (fun s => (g s, h s)) x := fun s => Prod.ext (hg s) (hh s)

end Keeps

/-- The computation preserves the property `P` of the state, whatever its outcome. -/
def Preserves (P : σ → Prop) (x : EStateM ε σ α) : Prop := ∀ s, P s → P (finalState (x.run s))

section Preserves

variable {γ : Type} {P : σ → Prop} {x : EStateM ε σ α} {f : α → EStateM ε σ β}

theorem Preserves.throw (e : ε) : Preserves P (throw e : EStateM ε σ α) := fun _ h => h

theorem Preserves.pure (a : α) : Preserves P (Pure.pure a : EStateM ε σ α) := fun _ h => h

theorem Preserves.bind (hx : Preserves P x) (hf : ∀ a, Preserves P (f a)) :
    Preserves P (x >>= f) := by
  intro s hP
  have hs := hx s hP
  cases h : x.run s with
  | ok a t =>
      rw [h] at hs
      rw [run_bind_of_ok h]
      exact hf a t hs
  | error e t =>
      rw [h] at hs
      rw [run_bind_of_error h]
      exact hs

/-- A computation on a part of the state preserves what an observation of the rest shows. -/
theorem Preserves.within_rest {τ ε' : Type} {get : σ → τ} {set : σ → τ → σ} {wrap : ε' → ε}
    {y : EStateM ε' τ α} {view : σ → γ} {c : γ} (h : ∀ s t, view (set s t) = view s) :
    Preserves (fun s => view s = c) (within get set wrap y) :=
  fun s hs => (Keeps.within h s).trans hs

/-- A computation on a part of the state preserves of that part what it preserves on its own. -/
theorem Preserves.within_get {τ ε' : Type} {get : σ → τ} {set : σ → τ → σ} {wrap : ε' → ε}
    {y : EStateM ε' τ α} {Q : τ → Prop} (hy : Preserves Q y) (hget : ∀ s t, get (set s t) = t)
    (hP : ∀ s, P s ↔ Q (get s)) : Preserves P (within get set wrap y) := by
  intro s hs
  have ht := hy (get s) ((hP s).mp hs)
  rw [hP]
  cases hrun : y.run (get s) with
  | ok a t =>
      rw [hrun] at ht
      rw [run_within_of_ok hrun]
      exact (hget s t).symm ▸ ht
  | error e t =>
      rw [hrun] at ht
      rw [run_within_of_error hrun]
      exact (hget s t).symm ▸ ht

end Preserves

end MiniHypervisor.Control
