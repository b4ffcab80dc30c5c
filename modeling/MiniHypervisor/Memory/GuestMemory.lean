import MiniHypervisor.Bytes.ByteMap
import MiniHypervisor.Control.Outcome

/-!
# Guest memory

One contiguous range of guest physical addresses backed by host memory (`src/memory.rs`).  A
region is page aligned, not empty and does not wrap the 64-bit address space.  Reads and writes
are admitted when the whole accessed range lies in the region, and a refused access changes
nothing.  The host is 64-bit, so the conversions between `usize` and `u64` cannot fail.
-/

namespace MiniHypervisor.Memory

open Bytes Control

/-- The alignment of guest physical bases and memory sizes. -/
def kvmMemoryAlignment : ℕ := 4096

/-- Why a region or an access to it is refused. -/
inductive GuestMemoryError where
  | zeroSizedRegion
  | misalignedRegion (field : String) (value alignment : ℕ)
  | addressSpaceOverflow (base size : ℕ)
  | accessOverflow (address length : ℕ)
  | accessOutOfBounds (address length regionBase regionSize : ℕ)
  deriving DecidableEq, Repr

/-- `Display` of `GuestMemoryError`. -/
def GuestMemoryError.text : GuestMemoryError → String
  | zeroSizedRegion => "guest RAM region must be non-zero"
  | misalignedRegion field value alignment =>
      "guest RAM " ++ field ++ " " ++ hexText value ++ " is not aligned to " ++
        hexText alignment ++ " bytes"
  | addressSpaceOverflow base size =>
      "guest RAM range overflows the physical address space: base=" ++ hexText base ++ ", size=" ++
        hexText size
  | accessOverflow address length =>
      "guest-memory access overflows: address=" ++ hexText address ++ ", length=" ++
        toString length
  | accessOutOfBounds address length regionBase regionSize =>
      "guest-memory access is outside RAM: address=" ++ hexText address ++ ", length=" ++
        toString length ++ ", region=" ++ hexText regionBase ++ "+" ++ hexText regionSize

/-- A non-empty page-aligned range of guest physical addresses below `2 ^ 64`. -/
structure GuestMemoryRegion where
  base : ℕ
  size : ℕ
  size_pos : 0 < size
  base_aligned : base % kvmMemoryAlignment = 0
  size_aligned : size % kvmMemoryAlignment = 0
  end_lt : base + size < 2 ^ 64
  deriving DecidableEq, Repr

namespace GuestMemoryRegion

/-- `GuestMemoryRegion::new` (lines 30-56). -/
def new (base size : ℕ) : Except GuestMemoryError GuestMemoryRegion :=
  if hsize : size = 0 then
    .error .zeroSizedRegion
  else if hbase : base % kvmMemoryAlignment ≠ 0 then
    .error (.misalignedRegion "guest physical base" base kvmMemoryAlignment)
  else if hlen : size % kvmMemoryAlignment ≠ 0 then
    .error (.misalignedRegion "memory size" size kvmMemoryAlignment)
  else if hend : 2 ^ 64 ≤ base + size then
    .error (.addressSpaceOverflow base size)
  else
    .ok ⟨base, size, Nat.pos_of_ne_zero hsize, not_not.mp hbase, not_not.mp hlen, not_le.mp hend⟩

variable (r : GuestMemoryRegion) {a n off : ℕ}

/-- The exclusive end of the region. -/
def endAddr : ℕ := r.base + r.size

/-- `GuestMemoryRegion::checked_offset` (lines 83-112). -/
def checkedOffset (address length : ℕ) : Except GuestMemoryError ℕ := do
  rejectIf (2 ^ 64 ≤ address + length) (.accessOverflow address length)
  rejectIf (address < r.base ∨ r.endAddr < address + length ∨
      (length ≠ 0 ∧ r.endAddr ≤ address))
    (.accessOutOfBounds address length r.base r.size)
  return address - r.base

/-- The `n` bytes from address `a` on lie in the region. -/
def Contains (a n : ℕ) : Prop := r.base ≤ a ∧ a + n ≤ r.endAddr

instance (a n : ℕ) : Decidable (r.Contains a n) := inferInstanceAs (Decidable (_ ∧ _))

variable {r}

theorem checkedOffset_eq_ok :
    r.checkedOffset a n = .ok off ↔ r.Contains a n ∧ off = a - r.base := by
  have hend : r.endAddr < 2 ^ 64 := r.end_lt
  simp only [checkedOffset, rejectIf_bind_eq_ok, pure, Except.pure, Except.ok.injEq, Contains]
  omega

theorem checkedOffset_of_not_contains (h : ¬ r.Contains a n) :
    ∃ e, r.checkedOffset a n = .error e := by
  cases hoff : r.checkedOffset a n with
  | error e => exact ⟨e, rfl⟩
  | ok off => exact absurd (checkedOffset_eq_ok.mp hoff).1 h

end GuestMemoryRegion

/-- A region and the bytes of its backing, by offset from the base of the region.  Offsets at
or past the size of the region are never accessed. -/
@[ext] structure GuestMemory where
  region : GuestMemoryRegion
  mapping : ByteMap

namespace GuestMemory

variable (mem : GuestMemory) {a b n : ℕ} {data source : List UInt8}

/-- `GuestMemory::read` (lines 137-151), with the filled destination as its result. -/
def read (address length : ℕ) : Except GuestMemoryError (List UInt8) := do
  let offset ← mem.region.checkedOffset address length
  if length = 0 then return []
  return mem.mapping.read offset length

/-- `GuestMemory::write` (lines 153-167). -/
def write (address : ℕ) (source : List UInt8) : EStateM GuestMemoryError GuestMemory Unit := do
  let offset ← reads fun mem => mem.region.checkedOffset address source.length
  if source.isEmpty then return ()
  modify fun mem => { mem with mapping := mem.mapping.write offset source }

/-- The byte stored at a guest physical address. -/
def byteAt (a : ℕ) : UInt8 := mem.mapping (a - mem.region.base)

/-- The memory with the bytes from guest physical address `a` on replaced. -/
def overwrite (a : ℕ) (source : List UInt8) : GuestMemory :=
  { mem with mapping := mem.mapping.write (a - mem.region.base) source }

@[simp] theorem region_overwrite (a : ℕ) (source : List UInt8) :
    (mem.overwrite a source).region = mem.region := rfl

variable {mem}

theorem read_eq_ok :
    mem.read a n = .ok data ↔
      mem.region.Contains a n ∧ data = mem.mapping.read (a - mem.region.base) n := by
  simp only [read, bind_eq_ok, GuestMemoryRegion.checkedOffset_eq_ok]
  constructor
  · rintro ⟨off, ⟨hin, rfl⟩, hread⟩
    refine ⟨hin, ?_⟩
    split_ifs at hread with hn
    · subst hn
      exact (Except.ok.inj hread).symm
    · exact (Except.ok.inj hread).symm
  · rintro ⟨hin, rfl⟩
    refine ⟨_, ⟨hin, rfl⟩, ?_⟩
    split_ifs with hn
    · subst hn
      rfl
    · rfl

theorem run_write_of_contains (h : mem.region.Contains a source.length) :
    (write a source).run mem = .ok () (mem.overwrite a source) := by
  have hoff : (reads fun mem : GuestMemory => mem.region.checkedOffset a source.length).run mem =
      .ok (a - mem.region.base) mem :=
    run_reads_of_ok (GuestMemoryRegion.checkedOffset_eq_ok.mpr ⟨h, rfl⟩)
  rw [write, run_bind_of_ok hoff]
  cases source with
  | nil =>
      have hsame : mem.overwrite a [] = mem := by
        rw [overwrite, ByteMap.write_nil]
      rw [hsame]
      rfl
  | cons b source => rfl

theorem run_write_of_not_contains (h : ¬ mem.region.Contains a source.length) :
    ∃ e, (write a source).run mem = .error e mem := by
  obtain ⟨e, he⟩ := GuestMemoryRegion.checkedOffset_of_not_contains h
  exact ⟨e, run_bind_of_error (run_reads_of_error he)⟩

/-- A write succeeds exactly when its range lies in the region, and then replaces that range. -/
theorem run_write_eq_ok {mem' : GuestMemory} {u : Unit} :
    (write a source).run mem = .ok u mem' ↔
      mem.region.Contains a source.length ∧ mem' = mem.overwrite a source := by
  by_cases h : mem.region.Contains a source.length
  · rw [run_write_of_contains h]
    exact ⟨fun hok => ⟨h, by cases hok; rfl⟩, fun hok => by rw [hok.2]⟩
  · obtain ⟨e, he⟩ := run_write_of_not_contains h
    rw [he]
    exact ⟨nofun, fun hok => absurd hok.1 h⟩

theorem length_of_read (h : mem.read a n = .ok data) : data.length = n := by
  rw [(read_eq_ok.mp h).2, ByteMap.length_read]

theorem read_overwrite_same (h : mem.region.Contains a source.length) :
    (mem.overwrite a source).read a source.length = .ok source :=
  read_eq_ok.mpr ⟨h, (ByteMap.read_write_same mem.mapping source).symm⟩

theorem byteAt_overwrite_inside {i : ℕ} (hbase : mem.region.base ≤ a) (h : i < source.length) :
    (mem.overwrite a source).byteAt (a + i) = source.getD i 0 := by
  rw [byteAt, overwrite, Nat.sub_add_comm hbase]
  exact ByteMap.write_apply_inside mem.mapping h

theorem byteAt_overwrite_outside (hbase : mem.region.base ≤ a) (hb : mem.region.base ≤ b)
    (h : b < a ∨ a + source.length ≤ b) : (mem.overwrite a source).byteAt b = mem.byteAt b := by
  rw [byteAt, byteAt, region_overwrite]
  exact ByteMap.write_apply_outside mem.mapping (by omega)

theorem read_congr {mem' : GuestMemory} (hregion : mem'.region = mem.region)
    (hin : mem.region.Contains a n) (h : ∀ i < n, mem'.byteAt (a + i) = mem.byteAt (a + i)) :
    mem'.read a n = mem.read a n := by
  rw [read_eq_ok.mpr ⟨hin, rfl⟩, read_eq_ok, hregion]
  refine ⟨hin, ByteMap.read_congr fun i hi => ?_⟩
  have hbyte := h i hi
  rw [byteAt, byteAt, hregion, Nat.sub_add_comm hin.1] at hbyte
  exact hbyte.symm

theorem read_succ (hin : mem.region.Contains a (n + 1)) :
    mem.read a (n + 1) = (mem.read (a + 1) n).map (mem.byteAt a :: ·) := by
  obtain ⟨hbase, hend⟩ := hin
  have hin' : mem.region.Contains (a + 1) n := ⟨by omega, by omega⟩
  rw [read_eq_ok.mpr ⟨hin', rfl⟩, read_eq_ok.mpr ⟨⟨hbase, hend⟩, rfl⟩, ByteMap.read_succ,
    Nat.sub_add_comm hbase]
  rfl

theorem read_overwrite_disjoint (ha : mem.region.base ≤ a) (hb : mem.region.Contains b n)
    (h : b + n ≤ a ∨ a + source.length ≤ b) :
    (mem.overwrite a source).read b n = mem.read b n := by
  have hbase := hb.1
  exact read_congr rfl hb fun i hi => byteAt_overwrite_outside ha (by omega) (by omega)

theorem eq_of_byteAt {mem' : GuestMemory} (hregion : mem'.region = mem.region)
    (h : ∀ a, mem.region.base ≤ a → mem'.byteAt a = mem.byteAt a) : mem' = mem := by
  refine GuestMemory.ext hregion (funext fun off => ?_)
  have hbyte := h (mem.region.base + off) (Nat.le_add_right _ _)
  rwa [byteAt, byteAt, hregion, Nat.add_sub_cancel_left] at hbyte

theorem overwrite_eq_self_iff (hbase : mem.region.base ≤ a) :
    mem.overwrite a source = mem ↔ ∀ i < source.length, mem.byteAt (a + i) = source.getD i 0 := by
  constructor
  · intro h i hi
    rw [← byteAt_overwrite_inside hbase hi, h]
  · intro h
    refine eq_of_byteAt rfl fun b hb => ?_
    by_cases hin : a ≤ b ∧ b < a + source.length
    · obtain ⟨i, rfl⟩ := Nat.exists_eq_add_of_le hin.1
      rw [byteAt_overwrite_inside hbase (by omega), h i (by omega)]
    · exact byteAt_overwrite_outside hbase hb (by omega)

/-- Two writes change nothing when the bytes of the second are there already, and those of the first
where the second does not reach. -/
theorem overwrite_overwrite_eq_self_iff (ha : mem.region.base ≤ a) (hb : mem.region.base ≤ b) :
    (mem.overwrite a source).overwrite b data = mem ↔
      (∀ i < source.length, a + i < b ∨ b + data.length ≤ a + i →
        mem.byteAt (a + i) = source.getD i 0) ∧
      ∀ i < data.length, mem.byteAt (b + i) = data.getD i 0 := by
  have hb' : (mem.overwrite a source).region.base ≤ b := hb
  constructor
  · intro h
    refine ⟨fun i hi hout => ?_, fun i hi => ?_⟩
    · rw [← byteAt_overwrite_inside ha hi,
        ← byteAt_overwrite_outside hb' (ha.trans (Nat.le_add_right a i)) hout, h]
    · rw [← byteAt_overwrite_inside hb' hi, h]
  · rintro ⟨hsource, hdata⟩
    refine eq_of_byteAt rfl fun c hc => ?_
    by_cases hin : b ≤ c ∧ c < b + data.length
    · obtain ⟨i, rfl⟩ := Nat.exists_eq_add_of_le hin.1
      rw [byteAt_overwrite_inside hb' (by omega), hdata i (by omega)]
    · rw [byteAt_overwrite_outside hb' hc (by omega)]
      by_cases hfirst : a ≤ c ∧ c < a + source.length
      · obtain ⟨i, rfl⟩ := Nat.exists_eq_add_of_le hfirst.1
        rw [byteAt_overwrite_inside ha (by omega), hsource i (by omega) (by omega)]
      · exact byteAt_overwrite_outside ha hc (by omega)

/-! ### Several writes -/

/-- The memory after several ranges were replaced in order. -/
def overwriteAll (mem : GuestMemory) (ws : List (ℕ × List UInt8)) : GuestMemory :=
  ws.foldl (fun mem w => mem.overwrite w.1 w.2) mem

/-- Two ranges, each given by its first address and its length, do not meet. -/
def RangesApart (x y : ℕ × ℕ) : Prop := x.1 + x.2 ≤ y.1 ∨ y.1 + y.2 ≤ x.1

/-- The range that a write replaces. -/
def writtenRange (w : ℕ × List UInt8) : ℕ × ℕ := (w.1, w.2.length)

@[simp] theorem region_overwriteAll (mem : GuestMemory) (ws : List (ℕ × List UInt8)) :
    (mem.overwriteAll ws).region = mem.region := by
  induction ws generalizing mem with
  | nil => rfl
  | cons w ws ih => exact ih _

theorem read_overwriteAll_disjoint {ws : List (ℕ × List UInt8)} (hb : mem.region.Contains b n)
    (hbase : ∀ w ∈ ws, mem.region.base ≤ w.1)
    (h : ∀ w ∈ ws, b + n ≤ w.1 ∨ w.1 + w.2.length ≤ b) :
    (mem.overwriteAll ws).read b n = mem.read b n := by
  induction ws generalizing mem with
  | nil => rfl
  | cons w ws ih =>
      rw [List.forall_mem_cons] at hbase h
      rw [← read_overwrite_disjoint hbase.1 hb h.1]
      exact ih hb hbase.2 h.2

theorem read_overwriteAll_of_mem {ws : List (ℕ × List UInt8)} {w : ℕ × List UInt8}
    (hin : ∀ w ∈ ws, mem.region.Contains w.1 w.2.length)
    (h : (ws.map writtenRange).Pairwise RangesApart) (hw : w ∈ ws) :
    (mem.overwriteAll ws).read w.1 w.2.length = .ok w.2 := by
  induction ws generalizing mem with
  | nil => cases hw
  | cons v ws ih =>
      rw [List.forall_mem_cons] at hin
      obtain ⟨hv, hws⟩ := List.pairwise_cons.mp h
      rw [List.forall_mem_map] at hv
      rcases List.mem_cons.mp hw with rfl | hw
      · have hfirst : (mem.overwrite w.1 w.2).region.Contains w.1 w.2.length := hin.1
        rw [← read_overwrite_same hin.1]
        exact read_overwriteAll_disjoint hfirst (fun u hu => (hin.2 u hu).1) hv
      · exact ih hin.2 hws hw

theorem byteAt_overwriteAll_outside {ws : List (ℕ × List UInt8)} (hb : mem.region.base ≤ b)
    (hbase : ∀ w ∈ ws, mem.region.base ≤ w.1)
    (h : ∀ w ∈ ws, b < w.1 ∨ w.1 + w.2.length ≤ b) :
    (mem.overwriteAll ws).byteAt b = mem.byteAt b := by
  induction ws generalizing mem with
  | nil => rfl
  | cons w ws ih =>
      rw [List.forall_mem_cons] at hbase h
      rw [← byteAt_overwrite_outside hbase.1 hb h.1]
      exact ih hb hbase.2 h.2

end GuestMemory

end MiniHypervisor.Memory
