import Mathlib.Data.List.GetD
import MiniHypervisor.Bytes.LittleEndian

/-!
# Byte maps

A byte map gives every address a byte.  A write replaces the bytes of a range and keeps the
rest; a read lists the bytes of a range.  Reads after writes are decided by whether the two
ranges are the same or disjoint.

## Main definitions

* `ByteMap` : a byte at every address.
* `ByteMap.read`, `ByteMap.write` : the bytes of a range, and a map with a range replaced.

## Main results

* `ByteMap.write_apply_inside`, `ByteMap.write_apply_outside` : a write, byte by byte.
* `ByteMap.read_write_same` : a read after a write.
-/

namespace MiniHypervisor.Bytes

/-- A byte at every address. -/
abbrev ByteMap : Type := ℕ → UInt8

namespace ByteMap

variable (m : ByteMap) {a b n i : ℕ} {data : List UInt8}

/-- The `n` bytes from address `a` on. -/
def read (a n : ℕ) : List UInt8 := (List.range n).map fun i => m (a + i)

/-- The map `m` with the bytes from address `a` on replaced by `data`. -/
def write (a : ℕ) (data : List UInt8) : ByteMap := fun i =>
  if a ≤ i ∧ i < a + data.length then data.getD (i - a) 0 else m i

@[simp] theorem length_read (a n : ℕ) : (m.read a n).length = n := by
  simp only [read, List.length_map, List.length_range]

theorem getD_read (h : i < n) : (m.read a n).getD i 0 = m (a + i) := by
  simp [read, List.getD_eq_getElem?_getD, h]

theorem read_succ (a n : ℕ) : m.read a (n + 1) = m a :: m.read (a + 1) n := by
  simp only [read, List.range_succ_eq_map, List.map_cons, List.map_map, Function.comp_def,
    Nat.add_zero, Nat.succ_eq_add_one, Nat.add_assoc, Nat.add_comm 1]

/-- Two reads agree when the maps agree on the range. -/
theorem read_congr {m m' : ByteMap} (h : ∀ i < n, m (a + i) = m' (a + i)) :
    m.read a n = m'.read a n :=
  List.map_congr_left fun i hi => h i (List.mem_range.mp hi)

/-- A list is read back when the map holds its bytes. -/
theorem read_eq_of_getD {m : ByteMap} (h : ∀ i < data.length, m (a + i) = data.getD i 0) :
    m.read a data.length = data := by
  refine List.ext_getElem (length_read m a _) fun i hi hi' => ?_
  have := h i hi'
  rw [List.getD_eq_getElem _ _ hi'] at this
  simpa only [read, List.getElem_map, List.getElem_range] using this

@[simp] theorem write_nil (a : ℕ) : m.write a [] = m := by
  funext i
  exact if_neg (by simp only [List.length_nil]; omega)

theorem write_apply_inside (h : i < data.length) : m.write a data (a + i) = data.getD i 0 := by
  rw [write, if_pos ⟨Nat.le_add_right a i, by omega⟩, Nat.add_sub_cancel_left]

theorem write_apply_outside (h : i < a ∨ a + data.length ≤ i) : m.write a data i = m i :=
  if_neg (by omega)

theorem read_write_same (data : List UInt8) : (m.write a data).read a data.length = data :=
  read_eq_of_getD fun _ hi => write_apply_inside m hi

end ByteMap

end MiniHypervisor.Bytes
