import Mathlib.Data.List.GetD
import MiniHypervisor.Control.Outcome

/-!
# Programs that can panic

A program indexes lists and computes with 64-bit words.  An index outside the list, a sum or a
product past the last word, a difference below zero and a remainder by zero stop the program for
good: they are an outcome of their own, next to the errors that the program returns.  A program in
the monad `m` that can also panic is one in `OptionT m`, where `none` is the panic.

`RunsAs x y` says that `x` does not panic and otherwise does what `y` does.  The rules follow the
program: an operation whose operands are in range yields its mathematical result.

## Main definitions

* `indexed`, `sliced`, `addWord`, `subWord`, `mulWord`, `remWord` : the operations that can panic.
* `RunsAs` : a program that does not panic, and what it does.

## Main results

* `RunsAs.bind`, `RunsAs.bind_of_ok`, `RunsAs.value`, `RunsAs.guard` : sequences.
* `RunsAs.forM`, `RunsAs.foldlM`, `RunsAs.mapM`, `RunsAs.anyM` : loops.
-/

namespace MiniHypervisor.Control

variable {m : Type → Type} [Monad m] {α β ε : Type}

/-! ### Operations -/

/-- The value `a`, or a panic unless `c` holds. -/
def orPanic (c : Prop) [Decidable c] (a : α) : OptionT m α := if c then pure a else failure

/-- The element `l[i]`. -/
def indexed (l : List α) (i : ℕ) : OptionT m α := (l[i]?).elim failure pure

/-- The slice `l[i..j]`. -/
def sliced (l : List α) (i j : ℕ) : OptionT m (List α) :=
  orPanic (i ≤ j ∧ j ≤ l.length) ((l.drop i).take (j - i))

/-- The sum of two words. -/
def addWord (a b : ℕ) : OptionT m ℕ := orPanic (a + b < 2 ^ 64) (a + b)

/-- The difference of two words. -/
def subWord (a b : ℕ) : OptionT m ℕ := orPanic (b ≤ a) (a - b)

/-- The product of two words. -/
def mulWord (a b : ℕ) : OptionT m ℕ := orPanic (a * b < 2 ^ 64) (a * b)

/-- The remainder of two words. -/
def remWord (a b : ℕ) : OptionT m ℕ := orPanic (b ≠ 0) (a % b)

/-- A guard that returns an error. -/
def refuseIf (c : Prop) [Decidable c] (e : ε) : OptionT (Except ε) Unit := liftM (rejectIf c e)

/-! ### Programs that do not panic -/

/-- The program `x` does not panic, and does what `y` does. -/
def RunsAs (x : OptionT m α) (y : m α) : Prop := x.run = some <$> y

namespace RunsAs

variable [LawfulMonad m] {x : OptionT m α} {y : m α} {f : α → OptionT m β} {g : α → m β}
  {z : m β} {a : α}

theorem pure (a : α) : RunsAs (Pure.pure a : OptionT m α) (Pure.pure a) := by
  rw [RunsAs, OptionT.run_pure, map_pure]

theorem lift (y : m α) : RunsAs (liftM y : OptionT m α) y := by
  rw [RunsAs, map_eq_pure_bind]
  rfl

theorem bind (hx : RunsAs x y) (hf : ∀ a, RunsAs (f a) (g a)) : RunsAs (x >>= f) (y >>= g) := by
  unfold RunsAs at hx hf ⊢
  rw [OptionT.run_bind, hx]
  simp only [Option.elimM, bind_map_left, Option.elim, hf, map_bind]

/-- A program that only computes a value. -/
theorem value (hx : RunsAs x (Pure.pure a)) (hf : RunsAs (f a) z) : RunsAs (x >>= f) z := by
  unfold RunsAs at hx hf ⊢
  rw [OptionT.run_bind, hx]
  simp only [Option.elimM, map_pure, pure_bind, Option.elim, hf]

omit [LawfulMonad m] in
theorem ite {c : Prop} [Decidable c] {x x' : OptionT m α} {y y' : m α}
    (h : c → RunsAs x y) (h' : ¬ c → RunsAs x' y') :
    RunsAs (if c then x else x') (if c then y else y') := by
  split_ifs with hc
  · exact h hc
  · exact h' hc

/-! ### Operations in range -/

theorem orPanic {c : Prop} [Decidable c] (h : c) :
    RunsAs (Control.orPanic c a : OptionT m α) (Pure.pure a) := by
  rw [Control.orPanic, if_pos h]
  exact pure a

theorem indexed {l : List α} {i : ℕ} (d : α) (h : i < l.length) :
    RunsAs (Control.indexed l i : OptionT m α) (Pure.pure (l.getD i d)) := by
  rw [Control.indexed, List.getElem?_eq_getElem h, List.getD_eq_getElem _ _ h]
  exact pure _

theorem addWord {a b : ℕ} (h : a + b < 2 ^ 64) :
    RunsAs (Control.addWord a b : OptionT m ℕ) (Pure.pure (a + b)) := orPanic h

theorem subWord {a b : ℕ} (h : b ≤ a) :
    RunsAs (Control.subWord a b : OptionT m ℕ) (Pure.pure (a - b)) := orPanic h

theorem mulWord {a b : ℕ} (h : a * b < 2 ^ 64) :
    RunsAs (Control.mulWord a b : OptionT m ℕ) (Pure.pure (a * b)) := orPanic h

theorem remWord {a b : ℕ} (h : b ≠ 0) :
    RunsAs (Control.remWord a b : OptionT m ℕ) (Pure.pure (a % b)) := orPanic h

theorem sliced {l : List α} {i j : ℕ} (h : i ≤ j) (hj : j ≤ l.length) :
    RunsAs (Control.sliced l i j : OptionT m (List α)) (Pure.pure ((l.drop i).take (j - i))) :=
  orPanic ⟨h, hj⟩

/-! ### Loops -/

theorem forM {f : α → OptionT m Unit} {g : α → m Unit} {l : List α}
    (h : ∀ a ∈ l, RunsAs (f a) (g a)) : RunsAs (l.forM f) (l.forM g) := by
  induction l with
  | nil => exact pure ()
  | cons a l ih =>
      obtain ⟨ha, hl⟩ := List.forall_mem_cons.mp h
      exact ha.bind fun _ => ih hl

/-- A loop that computes one value for each element. -/
theorem mapM {f : α → OptionT m β} {g : α → β} {l : List α}
    (h : ∀ a ∈ l, RunsAs (f a) (Pure.pure (g a))) :
    RunsAs (l.mapM f) (Pure.pure (l.map g)) := by
  induction l with
  | nil => exact pure []
  | cons a l ih =>
      obtain ⟨ha, hl⟩ := List.forall_mem_cons.mp h
      rw [List.mapM_cons]
      exact ha.value ((ih hl).value (pure _))

/-- A search that stops at the first element with the property. -/
theorem anyM {f : α → OptionT m Bool} {p : α → Bool} {l : List α}
    (h : ∀ a ∈ l, RunsAs (f a) (Pure.pure (p a))) : RunsAs (l.anyM f) (Pure.pure (l.any p)) := by
  induction l with
  | nil => exact pure false
  | cons a l ih =>
      obtain ⟨ha, hl⟩ := List.forall_mem_cons.mp h
      rw [List.anyM, List.any_cons]
      refine ha.value ?_
      cases p a with
      | true => exact pure true
      | false => exact ih hl

/-! ### Programs that return errors -/

section Errors

variable {x : OptionT (Except ε) α} {y : Except ε α} {f : α → OptionT (Except ε) β}
  {g : α → Except ε β}

/-- The second part may rely on the result of the first. -/
theorem bind_of_ok (hx : RunsAs x y) (hf : ∀ a, y = .ok a → RunsAs (f a) (g a)) :
    RunsAs (x >>= f) (y >>= g) := by
  cases y with
  | ok a => exact value (a := a) hx (hf a rfl)
  | error e =>
      unfold RunsAs at hx ⊢
      rw [OptionT.run_bind, hx]
      rfl

/-- What follows a guard may rely on it. -/
theorem guard {c : Prop} [Decidable c] {e : ε} {f : Unit → OptionT (Except ε) β}
    {g : Unit → Except ε β} (hf : ¬ c → RunsAs (f ()) (g ())) :
    RunsAs (refuseIf c e >>= f) (rejectIf c e >>= g) :=
  (lift _).bind_of_ok fun _ h => hf (rejectIf_eq_ok.mp h)

/-- A loop whose accumulator keeps an invariant. -/
theorem foldlM {step : β → α → OptionT (Except ε) β} {step' : β → α → Except ε β}
    (inv : β → Prop) {l : List α} {acc : β} (hacc : inv acc)
    (hstep : ∀ a ∈ l, ∀ acc, inv acc → RunsAs (step acc a) (step' acc a))
    (hinv : ∀ a ∈ l, ∀ acc acc', inv acc → step' acc a = .ok acc' → inv acc') :
    RunsAs (l.foldlM step acc) (l.foldlM step' acc) := by
  induction l generalizing acc with
  | nil => exact pure acc
  | cons a l ih =>
      obtain ⟨ha, hl⟩ := List.forall_mem_cons.mp hstep
      obtain ⟨ha', hl'⟩ := List.forall_mem_cons.mp hinv
      rw [List.foldlM_cons, List.foldlM_cons]
      exact (ha acc hacc).bind_of_ok fun acc' h => ih (ha' acc acc' hacc h) hl hl'

end Errors

/-- A program that only looks at the state. -/
theorem reads {σ : Type} {f : σ → OptionT (Except ε) α} {g : σ → Except ε α}
    (h : ∀ s, RunsAs (f s) (g s)) :
    RunsAs (OptionT.mk (Control.reads fun s => (f s).run)) (Control.reads g) := by
  have hruns : (fun s => (f s).run) = fun s => some <$> g s := funext h
  rw [hruns]
  funext s
  change Control.reads (fun s => some <$> g s) s = EStateM.map some (Control.reads g) s
  simp only [Control.reads, EStateM.map]
  cases g s <;> rfl

end RunsAs

end MiniHypervisor.Control
