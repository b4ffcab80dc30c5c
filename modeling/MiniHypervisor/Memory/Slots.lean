import Mathlib.Algebra.Order.Group.Nat
import MiniHypervisor.Memory.GuestMemory

/-!
# Tables in guest memory

A table is an aligned range of guest memory cut into slots of one width.  Its owner clears the
pages that hold it and then writes some of the slots, each at most once.  The slots that were
written read back as they were written, and every other slot reads as zeros: two different slots of
one width never meet, so the order of the writes does not matter.

## Main definitions

* `GuestMemory.zeroed` : memory with ranges of one length cleared.
* `GuestMemory.SlotWrites` : writes to different slots of one width.
* `GuestMemory.setBits` : memory with some bits of single bytes set.

## Main results

* `GuestMemory.run_forM_write` : a loop of writes.
* `GuestMemory.Writes.seq` : programs that only write.
* `GuestMemory.read_zeroed` : a range that was cleared reads as zeros.
* `GuestMemory.SlotWrites.read_of_mem`, `GuestMemory.SlotWrites.read_of_not_mem` : the slots that
  were written and those that were not.
-/

namespace MiniHypervisor.Memory.GuestMemory

open Bytes Control

variable {mem : GuestMemory} {a b n : ℕ} {data : List UInt8} {ws : List (ℕ × List UInt8)}

/-! ### Writes in order -/

theorem overwriteAll_cons (mem : GuestMemory) (w : ℕ × List UInt8) (ws : List (ℕ × List UInt8)) :
    mem.overwriteAll (w :: ws) = (mem.overwrite w.1 w.2).overwriteAll ws := rfl

theorem overwriteAll_append (mem : GuestMemory) (ws vs : List (ℕ × List UInt8)) :
    mem.overwriteAll (ws ++ vs) = (mem.overwriteAll ws).overwriteAll vs :=
  List.foldl_append

/-- A loop of writes inside the region performs them in order. -/
theorem run_forM_write {α : Type} {f : α → ℕ × List UInt8} {l : List α}
    (h : ∀ x ∈ l, mem.region.Contains (f x).1 (f x).2.length) :
    (l.forM fun x => write (f x).1 (f x).2).run mem = .ok () (mem.overwriteAll (l.map f)) := by
  induction l generalizing mem with
  | nil => rfl
  | cons x l ih =>
      rw [List.forall_mem_cons] at h
      have hin : ∀ y ∈ l, (mem.overwrite (f x).1 (f x).2).region.Contains (f y).1 (f y).2.length :=
        h.2
      exact (run_bind_of_ok (run_write_of_contains h.1)).trans (ih hin)

/-- On memory of the region the program succeeds and performs the writes in order. -/
def Writes (region : GuestMemoryRegion) (x : EStateM GuestMemoryError GuestMemory Unit)
    (ws : List (ℕ × List UInt8)) : Prop :=
  ∀ mem : GuestMemory, mem.region = region → x.run mem = .ok () (mem.overwriteAll ws)

section Writes

variable {region : GuestMemoryRegion} {x y : EStateM GuestMemoryError GuestMemory Unit}
  {vs : List (ℕ × List UInt8)}

theorem Writes.write (h : region.Contains a data.length) :
    Writes region (GuestMemory.write a data) [(a, data)] := by
  rintro mem rfl
  exact run_write_of_contains h

theorem Writes.seq (hx : Writes region x ws) (hy : Writes region y vs) :
    Writes region (do x; y) (ws ++ vs) := by
  intro mem hmem
  rw [run_bind_of_ok (hx mem hmem), hy _ (by rwa [region_overwriteAll]), overwriteAll_append]

theorem Writes.forM {α : Type} {f : α → ℕ × List UInt8} {l : List α}
    (h : ∀ x ∈ l, region.Contains (f x).1 (f x).2.length) :
    Writes region (l.forM fun x => GuestMemory.write (f x).1 (f x).2) (l.map f) := by
  rintro mem rfl
  exact run_forM_write h

end Writes

theorem read_of_byteAt (hin : mem.region.Contains a n) (hlen : data.length = n)
    (h : ∀ i < n, mem.byteAt (a + i) = data.getD i 0) : mem.read a n = .ok data := by
  subst hlen
  refine read_eq_ok.mpr ⟨hin, (ByteMap.read_eq_of_getD fun i hi => ?_).symm⟩
  have hbyte := h i hi
  rwa [byteAt, Nat.sub_add_comm hin.1] at hbyte

/-! ### Cleared ranges -/

/-- The memory with the `k` bytes from each of the addresses on cleared. -/
def zeroed (mem : GuestMemory) (k : ℕ) (starts : List ℕ) : GuestMemory :=
  mem.overwriteAll (starts.map fun a => (a, List.replicate k 0))

@[simp] theorem region_zeroed (mem : GuestMemory) (k : ℕ) (starts : List ℕ) :
    (mem.zeroed k starts).region = mem.region := region_overwriteAll _ _

/-- A byte in a range that is cleared, or that was zero before, is zero. -/
theorem byteAt_zeroed {k : ℕ} {starts : List ℕ} (hbase : ∀ a ∈ starts, mem.region.base ≤ a)
    (hb : mem.region.base ≤ b)
    (h : mem.byteAt b = 0 ∨ ∃ a ∈ starts, a ≤ b ∧ b < a + k) :
    (mem.zeroed k starts).byteAt b = 0 := by
  induction starts generalizing mem with
  | nil =>
      rcases h with h | ⟨a, ha, -⟩
      · exact h
      · cases ha
  | cons a starts ih =>
      rw [List.forall_mem_cons] at hbase
      have hrest : ∀ b ∈ starts, (mem.overwrite a (List.replicate k 0)).region.base ≤ b := hbase.2
      refine ih hrest hb ?_
      by_cases hin : a ≤ b ∧ b < a + k
      · obtain ⟨i, rfl⟩ := Nat.exists_eq_add_of_le hin.1
        refine Or.inl ?_
        rw [byteAt_overwrite_inside hbase.1 (by rw [List.length_replicate]; omega),
          List.getD_replicate _ (by omega)]
      · rcases h with h | ⟨a', ha', hin'⟩
        · refine Or.inl ?_
          rw [byteAt_overwrite_outside hbase.1 hb (by rw [List.length_replicate]; omega), h]
        · rcases List.mem_cons.mp ha' with rfl | ha'
          · exact absurd hin' hin
          · exact Or.inr ⟨a', ha', hin'⟩

/-- A range inside one that was cleared reads as zeros. -/
theorem read_zeroed {k : ℕ} {starts : List ℕ} (hbase : ∀ a ∈ starts, mem.region.base ≤ a)
    (hin : mem.region.Contains b n) (ha : a ∈ starts) (hlow : a ≤ b) (hhigh : b + n ≤ a + k) :
    (mem.zeroed k starts).read b n = .ok (List.replicate n 0) := by
  refine read_of_byteAt (by rwa [region_zeroed]) List.length_replicate fun i hi => ?_
  have hb := hin.1
  rw [List.getD_replicate _ hi]
  exact byteAt_zeroed hbase (by omega) (Or.inr ⟨a, ha, by omega, by omega⟩)

theorem byteAt_zeroed_outside {k : ℕ} {starts : List ℕ}
    (hbase : ∀ a ∈ starts, mem.region.base ≤ a) (hb : mem.region.base ≤ b)
    (h : ∀ a ∈ starts, b < a ∨ a + k ≤ b) : (mem.zeroed k starts).byteAt b = mem.byteAt b := by
  refine byteAt_overwriteAll_outside hb ?_ ?_ <;> rw [List.forall_mem_map]
  · exact hbase
  · simpa only [List.length_replicate] using h

/-! ### Slots -/

/-- Different multiples of the width are a width apart. -/
theorem rangesApart_of_aligned (ha : n ∣ a) (hb : n ∣ b) (hne : a ≠ b) :
    a + n ≤ b ∨ b + n ≤ a := by
  rcases Nat.lt_or_gt_of_ne hne with hlt | hlt
  · exact Or.inl (Nat.add_le_of_le_sub' hlt.le (Nat.le_of_dvd (by omega) (Nat.dvd_sub hb ha)))
  · exact Or.inr (Nat.add_le_of_le_sub' hlt.le (Nat.le_of_dvd (by omega) (Nat.dvd_sub ha hb)))

/-- Writes inside the region to different slots of width `n`. -/
structure SlotWrites (mem : GuestMemory) (n : ℕ) (ws : List (ℕ × List UInt8)) : Prop where
  contained : ∀ w ∈ ws, mem.region.Contains w.1 n
  aligned : ∀ w ∈ ws, n ∣ w.1
  width : ∀ w ∈ ws, w.2.length = n
  nodup : (ws.map Prod.fst).Nodup

/-- A slot that was written reads back as it was written. -/
theorem SlotWrites.read_of_mem (h : mem.SlotWrites n ws) {w : ℕ × List UInt8} (hw : w ∈ ws) :
    (mem.overwriteAll ws).read w.1 n = .ok w.2 := by
  have hapart : (ws.map writtenRange).Pairwise RangesApart := by
    have hne := List.pairwise_map.mp (List.nodup_iff_pairwise_ne.mp h.nodup)
    refine List.pairwise_map.mpr (hne.imp_of_mem fun {v u} hv hu hvu => ?_)
    simp only [RangesApart, writtenRange, h.width v hv, h.width u hu]
    exact rangesApart_of_aligned (h.aligned v hv) (h.aligned u hu) hvu
  have hin : ∀ v ∈ ws, mem.region.Contains v.1 v.2.length := fun v hv => by
    rw [h.width v hv]
    exact h.contained v hv
  have hread := read_overwriteAll_of_mem hin hapart hw
  rwa [h.width w hw] at hread

/-- A slot that was not written reads as before. -/
theorem SlotWrites.read_of_not_mem (h : mem.SlotWrites n ws) (ha : n ∣ a)
    (hin : mem.region.Contains a n) (hnot : ∀ w ∈ ws, w.1 ≠ a) :
    (mem.overwriteAll ws).read a n = mem.read a n := by
  refine read_overwriteAll_disjoint hin (fun w hw => (h.contained w hw).1) fun w hw => ?_
  rw [h.width w hw]
  exact rangesApart_of_aligned ha (h.aligned w hw) (hnot w hw).symm

/-! ### Bits that are set -/

/-- The memory with some bits of single bytes set. -/
def setBits (mem : GuestMemory) (bits : List (ℕ × UInt8)) : GuestMemory :=
  bits.foldl (fun mem p => mem.overwrite p.1 [mem.byteAt p.1 ||| p.2]) mem

/-- The bits that are set in one byte. -/
def bitsAt : List (ℕ × UInt8) → ℕ → UInt8
  | [], _ => 0
  | p :: bits, a => (if p.1 = a then p.2 else 0) ||| bitsAt bits a

section Bits

variable {bits : List (ℕ × UInt8)}

theorem bitsAt_append (bits bits' : List (ℕ × UInt8)) (a : ℕ) :
    bitsAt (bits ++ bits') a = bitsAt bits a ||| bitsAt bits' a := by
  induction bits with
  | nil => rw [List.nil_append, bitsAt, UInt8.zero_or]
  | cons p bits ih => rw [List.cons_append, bitsAt, bitsAt, ih, UInt8.or_assoc]

theorem bitsAt_induction {P : UInt8 → Prop} (hzero : P 0) (hor : ∀ x y, P x → P y → P (x ||| y))
    (h : ∀ p ∈ bits, p.1 = a → P p.2) : P (bitsAt bits a) := by
  induction bits with
  | nil => exact hzero
  | cons p bits ih =>
      rw [List.forall_mem_cons] at h
      refine hor _ _ ?_ (ih h.2)
      split_ifs with heq
      · exact h.1 heq
      · exact hzero

theorem bitsAt_eq_zero (h : ∀ p ∈ bits, p.1 ≠ a) : bitsAt bits a = 0 :=
  bitsAt_induction (P := fun x => x = 0) rfl (by rintro _ _ rfl rfl; rfl)
    fun p hp heq => absurd heq (h p hp)

@[simp] theorem region_setBits (mem : GuestMemory) (bits : List (ℕ × UInt8)) :
    (mem.setBits bits).region = mem.region := by
  induction bits generalizing mem with
  | nil => rfl
  | cons p bits ih => exact ih _

theorem byteAt_setBits (hbase : ∀ p ∈ bits, mem.region.base ≤ p.1) (ha : mem.region.base ≤ a) :
    (mem.setBits bits).byteAt a = mem.byteAt a ||| bitsAt bits a := by
  induction bits generalizing mem with
  | nil => rw [bitsAt, UInt8.or_zero]; rfl
  | cons p bits ih =>
      rw [List.forall_mem_cons] at hbase
      have hrest : ∀ q ∈ bits, (mem.overwrite p.1 [mem.byteAt p.1 ||| p.2]).region.base ≤ q.1 :=
        hbase.2
      refine (ih hrest ha).trans ?_
      rw [bitsAt, ← UInt8.or_assoc]
      refine congrArg (· ||| bitsAt bits a) ?_
      split_ifs with heq
      · subst heq
        exact byteAt_overwrite_inside (i := 0) hbase.1 Nat.one_pos
      · rw [UInt8.or_zero]
        refine byteAt_overwrite_outside hbase.1 ha ?_
        rw [List.length_singleton]
        omega

end Bits

end MiniHypervisor.Memory.GuestMemory
