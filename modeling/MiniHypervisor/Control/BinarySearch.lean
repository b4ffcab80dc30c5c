import Mathlib.Data.List.Pairwise
import Mathlib.Order.Lattice

/-!
# Binary search by a key

The search of a list for a key between two positions, which compares the key with that of the
element in the middle and goes on in one half.  In a list whose keys increase strictly it finds the
element with the key, if there is one.

## Main definitions

* `bisect` : the search between two positions.
* `binarySearchByKey` : the search of the whole list.

## Main results

* `bisect_eq_some_iff` : a search between two positions finds the elements there with the key.
* `getElem?_binarySearchByKey_iff` : the element that a search of the whole list finds.
-/

namespace MiniHypervisor.Control

variable {α κ : Type} [LinearOrder κ]

/-- The position of an element with the key, from position `left` on and before position `right`.
Each step shortens the distance of the two positions, which the first argument bounds. -/
def bisect (key : α → κ) (k : κ) (l : List α) : ℕ → ℕ → ℕ → Option ℕ
  | 0, _, _ => none
  | fuel + 1, left, right =>
      if left < right then
        let mid := left + (right - left) / 2
        match l[mid]? with
        | none => none
        | some x =>
            if key x < k then bisect key k l fuel (mid + 1) right
            else if k < key x then bisect key k l fuel left mid
            else some mid
      else none

/-- The position of an element with the key. -/
def binarySearchByKey (key : α → κ) (k : κ) (l : List α) : Option ℕ :=
  bisect key k l l.length 0 l.length

variable {key : α → κ} {k : κ} {l : List α}

theorem key_lt_of_lt (hs : l.Pairwise fun x y => key x < key y) {i j : ℕ} {x y : α}
    (hx : l[i]? = some x) (hy : l[j]? = some y) (h : i < j) : key x < key y := by
  obtain ⟨hi, rfl⟩ := List.getElem?_eq_some_iff.mp hx
  obtain ⟨hj, rfl⟩ := List.getElem?_eq_some_iff.mp hy
  exact List.pairwise_iff_getElem.mp hs i j hi hj h

theorem lt_of_key_lt (hs : l.Pairwise fun x y => key x < key y) {i j : ℕ} {x y : α}
    (hx : l[i]? = some x) (hy : l[j]? = some y) (h : key x < key y) : i < j := by
  rcases Nat.lt_trichotomy i j with hij | rfl | hji
  · exact hij
  · cases hx.symm.trans hy
    exact absurd h (lt_irrefl _)
  · exact absurd h (lt_asymm (key_lt_of_lt hs hy hx hji))

theorem eq_of_key_eq (hs : l.Pairwise fun x y => key x < key y) {i j : ℕ} {x y : α}
    (hx : l[i]? = some x) (hy : l[j]? = some y) (h : key x = key y) : i = j := by
  rcases Nat.lt_trichotomy i j with hij | rfl | hji
  · exact absurd h (ne_of_lt (key_lt_of_lt hs hx hy hij))
  · rfl
  · exact absurd h (ne_of_gt (key_lt_of_lt hs hy hx hji))

/-- **A search between two positions** finds a position there exactly if its element has the
key. -/
theorem bisect_eq_some_iff (hs : l.Pairwise fun x y => key x < key y) {fuel left right i : ℕ}
    (hfuel : right ≤ left + fuel) (hright : right ≤ l.length) :
    bisect key k l fuel left right = some i ↔
      left ≤ i ∧ i < right ∧ ∃ x, l[i]? = some x ∧ key x = k := by
  induction fuel generalizing left right with
  | zero => exact ⟨nofun, fun h => by omega⟩
  | succ fuel ih =>
      by_cases hge : right ≤ left
      · rw [bisect, if_neg (Nat.not_lt.mpr hge)]
        exact ⟨nofun, fun h => by omega⟩
      have hlt : left < right := Nat.lt_of_not_le hge
      obtain ⟨mid, hmid⟩ : ∃ mid, mid = left + (right - left) / 2 := ⟨_, rfl⟩
      obtain ⟨x, hx⟩ : ∃ x, l[mid]? = some x := ⟨_, List.getElem?_eq_getElem (by omega)⟩
      rw [bisect, if_pos hlt]
      simp only [← hmid, hx]
      rcases lt_trichotomy (key x) k with hless | rfl | hgreater
      -- the key is to the right of the middle
      · rw [if_pos hless, ih (by omega) hright]
        refine ⟨fun ⟨hi, h⟩ => ⟨by omega, h⟩, fun ⟨_, hi, y, hy, heq⟩ => ⟨?_, hi, y, hy, heq⟩⟩
        exact lt_of_key_lt hs hx hy (heq ▸ hless)
      · rw [if_neg (lt_irrefl _), if_neg (lt_irrefl _), Option.some.injEq]
        constructor
        · rintro rfl
          exact ⟨by omega, by omega, x, hx, rfl⟩
        · rintro ⟨-, -, y, hy, heq⟩
          exact eq_of_key_eq hs hx hy heq.symm
      -- the key is to the left of the middle
      · rw [if_neg (lt_asymm hgreater), if_pos hgreater, ih (by omega) (by omega)]
        refine ⟨fun ⟨hi, hj, h⟩ => ⟨hi, by omega, h⟩, fun ⟨hi, _, y, hy, heq⟩ => ?_⟩
        exact ⟨hi, lt_of_key_lt hs hy hx (heq ▸ hgreater), y, hy, heq⟩

theorem binarySearchByKey_eq_some_iff (hs : l.Pairwise fun x y => key x < key y) {i : ℕ} :
    binarySearchByKey key k l = some i ↔ ∃ x, l[i]? = some x ∧ key x = k := by
  rw [binarySearchByKey, bisect_eq_some_iff hs (Nat.le_add_left _ _) (Nat.le_refl _)]
  refine ⟨fun h => h.2.2, fun ⟨x, hx, hk⟩ => ⟨Nat.zero_le _, ?_, x, hx, hk⟩⟩
  exact (List.getElem?_eq_some_iff.mp hx).1

/-- **A search of a list whose keys increase** finds an element exactly if it has the key. -/
theorem getElem?_binarySearchByKey_iff (hs : l.Pairwise fun x y => key x < key y) {x : α} :
    (binarySearchByKey key k l).bind (l[·]?) = some x ↔ x ∈ l ∧ key x = k := by
  simp only [Option.bind_eq_some_iff, binarySearchByKey_eq_some_iff hs]
  constructor
  · rintro ⟨i, ⟨y, hy, hk⟩, hx⟩
    cases hy.symm.trans hx
    exact ⟨List.mem_of_getElem? hx, hk⟩
  · rintro ⟨hmem, hk⟩
    obtain ⟨i, hi⟩ := List.mem_iff_getElem?.mp hmem
    exact ⟨i, ⟨x, hi, hk⟩, hi⟩

end MiniHypervisor.Control
