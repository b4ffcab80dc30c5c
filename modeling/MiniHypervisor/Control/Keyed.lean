import Mathlib.Data.List.Nodup
import MiniHypervisor.Control.Triples

/-!
# Lists searched by a key

A list whose elements carry a key, searched from the front: the first element with a key
(`findKey`) and its position (`indexOfKey`).  Replacing an element by one with the same key moves
nothing: every position stays where it was, and only the search for that key finds the new element.

A procedure can borrow the first element that satisfies a predicate (`onFirst`).  It changes no
other element, and no key that it keeps.

A loop can also collect elements into such a list, each key once (`AddsByKey`).

## Main results

* `findKey_eq_some_iff` : the element that is found is the one at the position that is found.
* `indexOfKey_set` : replacing an element by one with its key keeps all positions.
* `findKey_set_self`, `findKey_set_of_ne` : what is found afterwards.
* `AddsByKey.exists_foldlM_iff` : when collecting elements meets no conflict.
* `onFirst_keeps_map`, `onFirst_preserves` : what a procedure on the first match does to the list.
-/

namespace MiniHypervisor.Control

variable {α κ : Type} {key : α → κ} {l : List α} {i j : ℕ}

section Search

variable [DecidableEq κ] {k k' : κ} {x : α}

/-- The first element with the key `k`. -/
def findKey (key : α → κ) (k : κ) (l : List α) : Option α := l.find? fun x => key x = k

/-- The position of the first element with the key `k`. -/
def indexOfKey (key : α → κ) (k : κ) (l : List α) : Option ℕ := l.findIdx? fun x => key x = k

theorem key_of_findKey (h : findKey key k l = some x) : key x = k := by
  have hkey := List.find?_some h
  exact of_decide_eq_true hkey

theorem findKey_eq_some_iff :
    findKey key k l = some x ↔ ∃ i, indexOfKey key k l = some i ∧ l[i]? = some x := by
  rw [findKey, List.find?_eq_some_iff_getElem]
  simp only [Bool.not_eq_true']
  constructor
  · rintro ⟨hkey, i, hi, rfl, hbefore⟩
    refine ⟨i, ?_, List.getElem?_eq_getElem hi⟩
    exact List.findIdx?_eq_some_iff_getElem.mpr
      ⟨hi, hkey, fun j hj => ne_true_of_eq_false (hbefore j hj)⟩
  · rintro ⟨i, hindex, hget⟩
    obtain ⟨hi, hkey, hbefore⟩ := List.findIdx?_eq_some_iff_getElem.mp hindex
    rw [List.getElem?_eq_getElem hi, Option.some.injEq] at hget
    subst hget
    exact ⟨hkey, i, hi, rfl, fun j hj => eq_false_of_ne_true (hbefore j hj)⟩

theorem key_of_indexOfKey (h : indexOfKey key k l = some i) : (l[i]?).map key = some k := by
  obtain ⟨hi, hkey, -⟩ := List.findIdx?_eq_some_iff_getElem.mp h
  rw [List.getElem?_eq_getElem hi, Option.map_some, of_decide_eq_true hkey]

theorem lt_of_indexOfKey (h : indexOfKey key k l = some i) : i < l.length := by
  obtain ⟨x, hx, -⟩ := Option.map_eq_some_iff.mp (key_of_indexOfKey h)
  exact (List.getElem?_eq_some_iff.mp hx).1

/-- Different keys are at different positions. -/
theorem indexOfKey_ne (hne : k ≠ k') (h : indexOfKey key k l = some i)
    (h' : indexOfKey key k' l = some j) : i ≠ j := by
  rintro rfl
  exact hne (Option.some.inj ((key_of_indexOfKey h).symm.trans (key_of_indexOfKey h')))

/-! ### Replacing an element by one with the same key -/

theorem map_key_set (h : indexOfKey key (key x) l = some i) : (l.set i x).map key = l.map key := by
  have hget := key_of_indexOfKey h
  rw [List.map_set]
  refine List.ext_getElem? fun n => ?_
  rw [List.getElem?_set, List.getElem?_map, List.length_map]
  split_ifs with hn hlen
  · subst hn
    exact hget.symm
  · subst hn
    rw [List.getElem?_eq_none (Nat.le_of_not_lt hlen), Option.map_none]
  · rfl

theorem indexOfKey_eq_map (k : κ) (l : List α) :
    indexOfKey key k l = (l.map key).findIdx? fun c => c = k := by
  rw [indexOfKey, List.findIdx?_map]
  rfl

theorem indexOfKey_set (h : indexOfKey key (key x) l = some i) (k : κ) :
    indexOfKey key k (l.set i x) = indexOfKey key k l := by
  rw [indexOfKey_eq_map, indexOfKey_eq_map, map_key_set h]

theorem findKey_set_self (h : indexOfKey key (key x) l = some i) :
    findKey key (key x) (l.set i x) = some x := by
  obtain ⟨hi, -⟩ := List.findIdx?_eq_some_iff_getElem.mp h
  exact findKey_eq_some_iff.mpr ⟨i, (indexOfKey_set h _).trans h, List.getElem?_set_self hi⟩

theorem findKey_set_of_ne (h : indexOfKey key (key x) l = some i) (hne : k ≠ key x) :
    findKey key k (l.set i x) = findKey key k l := by
  refine Option.ext fun y => ?_
  rw [findKey_eq_some_iff, findKey_eq_some_iff, indexOfKey_set h]
  refine exists_congr fun j => and_congr_right fun hj => ?_
  rw [List.getElem?_set_ne (indexOfKey_ne hne hj h).symm]

/-! ### Collecting elements by their keys -/

section Collect

variable {ε : Type} {add : List α → α → Except ε (List α)} {xs out : List α}

/-- A procedure that appends an element unless it is there already, and that refuses an element
when another one has its key. -/
def AddsByKey (key : α → κ) (add : List α → α → Except ε (List α)) : Prop :=
  ∀ l x l', add l x = .ok l' ↔
    (l' = l ∧ findKey key (key x) l = some x) ∨ (l' = l ++ [x] ∧ findKey key (key x) l = none)

namespace AddsByKey

/-- Everything is collected, and every key once. -/
theorem collected (hadd : AddsByKey key add) (h : xs.foldlM add [] = .ok out) :
    (∀ y, y ∈ out ↔ y ∈ xs) ∧ (out.map key).Nodup := by
  refine foldlM_induction (fun done acc => (∀ y, y ∈ acc ↔ y ∈ done) ∧ (acc.map key).Nodup)
    ⟨fun _ => Iff.rfl, List.nodup_nil⟩ ?_ h
  rintro done x - acc acc' ⟨hmem, hnodup⟩ hstep
  rcases (hadd acc x acc').mp hstep with ⟨rfl, hfind⟩ | ⟨rfl, hfind⟩
  · have hx : x ∈ done := (hmem x).mp (List.mem_of_find?_eq_some hfind)
    refine ⟨fun y => (hmem y).trans ?_, hnodup⟩
    rw [List.mem_append, List.mem_singleton]
    exact ⟨Or.inl, fun hy => hy.elim id fun hyx => hyx ▸ hx⟩
  · have hfresh : ∀ y ∈ acc, key y ≠ key x := by simpa [findKey] using hfind
    refine ⟨fun y => by rw [List.mem_append, List.mem_append, hmem y], ?_⟩
    rw [List.map_append, List.nodup_append]
    refine ⟨hnodup, List.nodup_singleton _, fun c hc d hd => ?_⟩
    obtain ⟨y, hy, rfl⟩ := List.mem_map.mp hc
    rw [List.mem_singleton.mp hd]
    exact hfresh y hy

/-- Elements that their keys determine are collected without a conflict. -/
theorem foldlM_of_injOn (hadd : AddsByKey key add) {P : α → Prop}
    (hinj : ∀ x, P x → ∀ y, P y → key x = key y → x = y) (hxs : ∀ x ∈ xs, P x) {acc : List α}
    (hacc : ∀ x ∈ acc, P x) : ∃ out, xs.foldlM add acc = .ok out := by
  induction xs generalizing acc with
  | nil => exact ⟨acc, rfl⟩
  | cons x xs ih =>
      obtain ⟨hx, hxs⟩ := List.forall_mem_cons.mp hxs
      have hstep : ∃ acc', add acc x = .ok acc' ∧ ∀ y ∈ acc', P y := by
        cases hfind : findKey key (key x) acc with
        | none =>
            refine ⟨acc ++ [x], (hadd acc x _).mpr (.inr ⟨rfl, hfind⟩), fun y hy => ?_⟩
            rcases List.mem_append.mp hy with hold | hnew
            · exact hacc y hold
            · rwa [List.mem_singleton.mp hnew]
        | some y =>
            obtain rfl : y = x :=
              hinj y (hacc y (List.mem_of_find?_eq_some hfind)) x hx (key_of_findKey hfind)
            exact ⟨acc, (hadd acc y _).mpr (.inl ⟨rfl, hfind⟩), hacc⟩
      obtain ⟨acc', hadd', hacc'⟩ := hstep
      obtain ⟨out, hout⟩ := ih hxs hacc'
      exact ⟨out, by rw [List.foldlM_cons, hadd']; exact hout⟩

/-- **Collecting succeeds** exactly when the keys determine the elements. -/
theorem exists_foldlM_iff (hadd : AddsByKey key add) :
    (∃ out, xs.foldlM add [] = .ok out) ↔ ∀ x ∈ xs, ∀ y ∈ xs, key x = key y → x = y := by
  constructor
  · rintro ⟨out, hout⟩ x hx y hy hkey
    obtain ⟨hmem, hnodup⟩ := hadd.collected hout
    exact List.inj_on_of_nodup_map hnodup ((hmem x).mpr hx) ((hmem y).mpr hy) hkey
  · intro hinj
    exact hadd.foldlM_of_injOn (P := (· ∈ xs)) hinj (fun _ hx => hx) nofun

end AddsByKey

end Collect

end Search

/-! ### A procedure on the first match -/

section OnFirst

variable {ε ρ β : Type} {p : α → Bool} {f : EStateM ε (α × ρ) β} {a : α}

/-- A procedure that needs nothing but the element. -/
def alone (f : EStateM ε α β) : EStateM ε (α × Unit) β :=
  within Prod.fst (fun s a => (a, s.2)) id f

theorem alone_keeps {f : EStateM ε α β} (hf : Keeps key f) :
    Keeps (fun s : α × Unit => key s.1) (alone f) :=
  hf.within_get (fun _ _ => rfl) fun _ => rfl

/-- The first element that satisfies `p`, with its position. -/
def firstMatch (p : α → Bool) (l : List α) : Option (ℕ × α) :=
  (l.findIdx? p).bind fun i => (l[i]?).map fun a => (i, a)

theorem of_firstMatch (h : firstMatch p l = some (i, a)) : l[i]? = some a ∧ p a = true := by
  obtain ⟨j, hj, hmap⟩ := Option.bind_eq_some_iff.mp h
  obtain ⟨b, hb, hpair⟩ := Option.map_eq_some_iff.mp hmap
  obtain ⟨rfl, rfl⟩ := Prod.mk.inj hpair
  obtain ⟨hlt, hp, -⟩ := List.findIdx?_eq_some_iff_getElem.mp hj
  rw [List.getElem?_eq_getElem hlt, Option.some.injEq] at hb
  exact ⟨by rw [List.getElem?_eq_getElem hlt, hb], hb ▸ hp⟩

theorem exists_firstMatch (ha : a ∈ l) (hp : p a = true) :
    ∃ i b, firstMatch p l = some (i, b) := by
  obtain ⟨i, hi⟩ := Option.isSome_iff_exists.mp (List.findIdx?_isSome.trans
    (List.any_eq_true.mpr ⟨a, ha, hp⟩))
  obtain ⟨hlt, -⟩ := List.findIdx?_eq_some_iff_getElem.mp hi
  exact ⟨i, l[i], by rw [firstMatch, hi, Option.bind_some, List.getElem?_eq_getElem hlt]; rfl⟩

/-- Run `f` on the element `a`, which is at position `i`, and on the rest of the state. -/
def runAt (i : ℕ) (a : α) (f : EStateM ε (α × ρ) β) : EStateM ε (List α × ρ) (Option β) :=
  within (fun s => (a, s.2)) (fun s t => (s.1.set i t.1, t.2)) id (some <$> f)

theorem run_runAt_of_ok {s : List α × ρ} {b : β} {t : α × ρ} (h : f.run (a, s.2) = .ok b t) :
    (runAt i a f).run s = .ok (some b) (s.1.set i t.1, t.2) := by
  have hsome : (some <$> f).run (a, s.2) = .ok (some b) t := run_bind_of_ok h
  exact run_within_of_ok (s := s) hsome

theorem run_runAt_of_error {s : List α × ρ} {e : ε} {t : α × ρ}
    (h : f.run (a, s.2) = .error e t) :
    (runAt i a f).run s = .error e (s.1.set i t.1, t.2) := by
  have hsome : (some <$> f).run (a, s.2) = .error e t := run_bind_of_error h
  exact run_within_of_error (s := s) hsome

/-- Run `f` on the first element that satisfies `p` and on the rest of the state; nothing happens
when there is no such element. -/
def onFirst (p : α → Bool) (f : EStateM ε (α × ρ) β) : EStateM ε (List α × ρ) (Option β) := do
  match firstMatch p (← get).1 with
  | some (i, a) => runAt i a f
  | none => return none

theorem run_onFirst_of_some {s : List α × ρ} (h : firstMatch p s.1 = some (i, a)) :
    (onFirst p f).run s = (runAt i a f).run s := by
  have hrun : (onFirst p f).run s = (match firstMatch p s.1 with
      | some (i, a) => runAt i a f
      | none => pure none).run s := rfl
  rw [hrun, h]

theorem run_onFirst_of_none {s : List α × ρ} (h : firstMatch p s.1 = none) :
    (onFirst p f).run s = .ok none s := by
  have hrun : (onFirst p f).run s = (match firstMatch p s.1 with
      | some (i, a) => runAt i a f
      | none => pure none).run s := rfl
  rw [hrun, h]
  rfl

/-- The list after a procedure on the first match. -/
theorem onFirst_cases (s : List α × ρ) :
    (finalState ((onFirst p f).run s)).1 = s.1 ∨
      ∃ i a, s.1[i]? = some a ∧ p a = true ∧
        (finalState ((onFirst p f).run s)).1 = s.1.set i (finalState (f.run (a, s.2))).1 := by
  cases hmatch : firstMatch p s.1 with
  | none =>
      rw [run_onFirst_of_none hmatch]
      exact .inl rfl
  | some pair =>
      obtain ⟨i, a⟩ := pair
      obtain ⟨hget, hp⟩ := of_firstMatch hmatch
      refine .inr ⟨i, a, hget, hp, ?_⟩
      rw [run_onFirst_of_some hmatch]
      cases hf : f.run (a, s.2) with
      | ok b t => rw [run_runAt_of_ok hf]; rfl
      | error e t => rw [run_runAt_of_error hf]; rfl

/-- The outcome of a procedure on the first element of a list that is part of a larger state: the
element is replaced, whether the procedure succeeds or fails. -/
theorem run_within_onFirst {σ ε' : Type} {get : σ → List α × Unit}
    {set : σ → List α × Unit → σ} {wrap : ε → ε'} {f : EStateM ε α β} {s : σ}
    (h : firstMatch p (get s).1 = some (i, a)) :
    (∃ b a', f.run a = .ok b a' ∧ (within get set wrap (onFirst p (alone f))).run s =
      .ok (some b) (set s ((get s).1.set i a', ()))) ∨
    ∃ e a', f.run a = .error e a' ∧ (within get set wrap (onFirst p (alone f))).run s =
      .error (wrap e) (set s ((get s).1.set i a', ())) := by
  cases hf : f.run a with
  | ok b a' =>
      have halone : (alone f).run (a, (get s).2) = .ok b (a', (get s).2) := run_within_of_ok hf
      have hfirst := (run_onFirst_of_some h).trans (run_runAt_of_ok halone)
      exact .inl ⟨b, a', rfl, run_within_of_ok hfirst⟩
  | error e a' =>
      have halone : (alone f).run (a, (get s).2) = .error e (a', (get s).2) :=
        run_within_of_error hf
      have hfirst := (run_onFirst_of_some h).trans (run_runAt_of_error halone)
      exact .inr ⟨e, a', rfl, run_within_of_error hfirst⟩

theorem run_within_onFirst_of_none {σ ε' : Type} {get : σ → List α × ρ}
    {set : σ → List α × ρ → σ} {wrap : ε → ε'} {s : σ} (h : firstMatch p (get s).1 = none) :
    (within get set wrap (onFirst p f)).run s = .ok none (set s (get s)) :=
  run_within_of_ok (run_onFirst_of_none h)

/-- The result of a procedure on the first match, if there is a match. -/
theorem Gives.onFirst {Q : β → Prop} (hf : Gives Q f) :
    Gives (fun result => ∀ b, result = some b → Q b) (onFirst p f) := by
  rintro s result s' h b rfl
  cases hmatch : firstMatch p s.1 with
  | none =>
      rw [run_onFirst_of_none hmatch] at h
      cases h
  | some pair =>
      rw [run_onFirst_of_some hmatch] at h
      obtain ⟨t, hrun, -⟩ := run_within_eq_ok.mp h
      obtain ⟨a, t', hrun', hsome⟩ := run_bind_eq_ok.mp hrun
      cases hsome
      exact hf _ _ _ hrun'

/-- A key that the procedure keeps stays at its position. -/
theorem onFirst_keeps_map (hf : Keeps (fun s => key s.1) f) :
    Keeps (fun s => s.1.map key) (onFirst p f) := by
  intro s
  dsimp only
  rcases onFirst_cases (p := p) (f := f) s with hsame | ⟨i, a, hget, -, hset⟩
  · rw [hsame]
  · have hkey : key (finalState (f.run (a, s.2))).1 = key a := hf (a, s.2)
    obtain ⟨hi, rfl⟩ := List.getElem?_eq_some_iff.mp hget
    rw [hset, List.map_set, hkey, ← List.getElem_map key, List.set_getElem_self]
    rwa [List.length_map]

/-- An element that does not match stays as it is. -/
theorem onFirst_preserves (h : p a = false) :
    Preserves (fun s => s.1[i]? = some a) (onFirst p f) := by
  intro s hi
  rcases onFirst_cases (p := p) (f := f) s with hsame | ⟨j, b, hget, hb, hset⟩
  · rwa [hsame]
  · rw [hset, List.getElem?_set_ne, hi]
    rintro rfl
    rw [hget, Option.some.injEq] at hi
    exact Bool.false_ne_true (h.symm.trans (hi ▸ hb))

/-- The same for a list that is part of a larger state, where the observation `view` shows the
element at position `i` as a value of another type. -/
theorem within_onFirst_preserves {σ δ ε' : Type} {get : σ → List α × ρ} {set : σ → List α × ρ → σ}
    {wrap : ε → ε'} {view : σ → Option δ} {c : α → δ} {d : δ}
    (hget : ∀ s t, get (set s t) = t) (hview : ∀ s, view s = ((get s).1[i]?).map c)
    (h : ∀ a, d = c a → p a = false) :
    Preserves (fun s => view s = some d) (within get set wrap (onFirst p f)) := by
  intro s hs
  obtain ⟨a, ha, hca⟩ := Option.map_eq_some_iff.mp ((hview s).symm.trans hs)
  have hlist : Preserves (fun s => (get s).1[i]? = some a) (within get set wrap (onFirst p f)) :=
    (onFirst_preserves (h a hca.symm)).within_get hget fun _ => Iff.rfl
  exact (hview _).trans (Option.map_eq_some_iff.mpr ⟨a, hlist s ha, hca⟩)

end OnFirst

end MiniHypervisor.Control
