import MiniHypervisor.Control.Simulation
import MiniHypervisor.Memory.GuestMemory

/-!
# Guest memory as a bounded array of bytes

What guest memory is for: an array of bytes with bounds.  A caller reads and writes ranges at any
address and of any length, in any order, and goes on after an access that is refused.  An access is
refused exactly when its range leaves the region, as integers; a refused access changes nothing; and
a byte that is read is the one that the last accepted write to its address stored, or zero if there
was none.

The history of a run is the list of its accesses with their answers, so which writes were accepted
is read off the run itself.
-/

namespace MiniHypervisor.Memory

open Bytes Control

/-- `GuestMemoryRegion::overlaps` (lines 79-81). -/
def GuestMemoryRegion.overlaps (r other : GuestMemoryRegion) : Bool :=
  r.base < other.endAddr && other.base < r.endAddr

theorem GuestMemoryRegion.overlaps_iff {r other : GuestMemoryRegion} :
    r.overlaps other ↔ ∃ a, r.Contains a 1 ∧ other.Contains a 1 := by
  have hsize := r.size_pos
  have hother := other.size_pos
  rw [overlaps, Bool.and_eq_true, decide_eq_true_eq, decide_eq_true_eq]
  simp only [Contains, endAddr]
  constructor
  · rintro ⟨hbefore, hafter⟩
    exact ⟨max r.base other.base, by omega, by omega⟩
  · rintro ⟨a, hin, hin'⟩
    omega

/-- `GuestMemory::new` (lines 122-130), on a host that has the memory: the mapping is anonymous, so
its bytes are zero. -/
def GuestMemory.new (base size : ℕ) : Except GuestMemoryError GuestMemory := do
  let region ← GuestMemoryRegion.new base size
  return ⟨region, fun _ => 0⟩

theorem GuestMemoryRegion.eq_of_new {base size : ℕ} {region : GuestMemoryRegion}
    (h : GuestMemoryRegion.new base size = .ok region) :
    region.base = base ∧ region.size = size := by
  unfold GuestMemoryRegion.new at h
  split_ifs at h
  cases h
  exact ⟨rfl, rfl⟩

/-! ### Accesses and their history -/

/-- An access to guest memory. -/
inductive Access where
  | read (address length : ℕ)
  | write (address : ℕ) (source : List UInt8)
  deriving DecidableEq, Repr

namespace Access

/-- The first address of the accessed range. -/
def address : Access → ℕ
  | read address _ => address
  | write address _ => address

/-- The length of the accessed range. -/
def length : Access → ℕ
  | read _ length => length
  | write _ source => source.length

/-- The access as a call.  A write has no bytes to answer with. -/
def call : Access → EStateM GuestMemoryError GuestMemory (List UInt8)
  | read address length => reads fun mem => mem.read address length
  | write address source => do
      GuestMemory.write address source
      return []

/-- The byte that an access with this answer stores at an address. -/
def stored (access : Access) (answer : Except GuestMemoryError (List UInt8)) (a : ℕ) :
    Option UInt8 :=
  match access, answer with
  | write address source, .ok _ => if address ≤ a then source[a - address]? else none
  | _, _ => none

end Access

/-- Accesses with their answers, in order. -/
abbrev History := List (Access × Except GuestMemoryError (List UInt8))

/-- The byte that the last write of the history to an address stored, if there was one. -/
def History.stored (history : History) (a : ℕ) : Option UInt8 :=
  history.reverse.findSome? fun entry => entry.1.stored entry.2 a

/-- The byte that a history leaves at an address of cleared memory. -/
def History.lastWritten (history : History) (a : ℕ) : UInt8 := (history.stored a).getD 0

/-- The history of a run. -/
def historyOf (mem : GuestMemory) (accesses : List Access) : History :=
  accesses.zip (answers Access.call mem accesses)

section Runs

variable {mem : GuestMemory} {access : Access} {a : ℕ}

theorem Access.run_read_of_contains {n : ℕ} (h : mem.region.Contains a n) :
    (read a n).call.run mem = .ok (mem.mapping.read (a - mem.region.base) n) mem :=
  run_reads_of_ok (GuestMemory.read_eq_ok.mpr ⟨h, rfl⟩)

theorem Access.run_write_of_contains {source : List UInt8}
    (h : mem.region.Contains a source.length) :
    (write a source).call.run mem = .ok [] (mem.overwrite a source) :=
  run_bind_of_ok (GuestMemory.run_write_of_contains h)

theorem Access.run_call_of_not_contains
    (h : ¬ mem.region.Contains access.address access.length) :
    ∃ e, access.call.run mem = .error e mem := by
  cases access with
  | read address length =>
      cases hread : mem.read address length with
      | error e => exact ⟨e, run_reads_of_error hread⟩
      | ok data => exact absurd (GuestMemory.read_eq_ok.mp hread).1 h
  | write address source =>
      obtain ⟨e, he⟩ := GuestMemory.run_write_of_not_contains h
      exact ⟨e, run_bind_of_error he⟩

theorem Access.call_succeeds_iff :
    (∃ data mem', access.call.run mem = .ok data mem') ↔
      mem.region.Contains access.address access.length := by
  constructor
  · rintro ⟨data, mem', hok⟩
    by_contra hnot
    obtain ⟨e, he⟩ := run_call_of_not_contains hnot
    rw [he] at hok
    cases hok
  · intro hin
    cases access with
    | read address length => exact ⟨_, _, run_read_of_contains hin⟩
    | write address source => exact ⟨_, _, run_write_of_contains hin⟩

theorem Access.eq_of_call_error {e : GuestMemoryError} {mem' : GuestMemory}
    (h : access.call.run mem = .error e mem') : mem' = mem := by
  by_cases hin : mem.region.Contains access.address access.length
  · obtain ⟨data, mem'', hok⟩ := call_succeeds_iff.mpr hin
    rw [hok] at h
    cases h
  · obtain ⟨e', he⟩ := run_call_of_not_contains hin
    rw [he] at h
    cases h
    rfl

theorem Access.region_finalState (access : Access) (mem : GuestMemory) :
    (finalState (access.call.run mem)).region = mem.region := by
  by_cases hin : mem.region.Contains access.address access.length
  · cases access with
    | read address length =>
        change mem.region.Contains address length at hin
        rw [run_read_of_contains hin, finalState]
    | write address source =>
        change mem.region.Contains address source.length at hin
        rw [run_write_of_contains hin, finalState, GuestMemory.region_overwrite]
  · obtain ⟨e, he⟩ := run_call_of_not_contains hin
    rw [he, finalState]

theorem Access.byteAt_finalState (ha : mem.region.base ≤ a) :
    (finalState (access.call.run mem)).byteAt a =
      (access.stored (answer (access.call.run mem)) a).getD (mem.byteAt a) := by
  by_cases hin : mem.region.Contains access.address access.length
  · cases access with
    | read address length =>
        change mem.region.Contains address length at hin
        rw [run_read_of_contains hin]
        rfl
    | write address source =>
        change mem.region.Contains address source.length at hin
        rw [run_write_of_contains hin]
        simp only [finalState, answer, stored]
        split_ifs with hle
        · obtain ⟨i, rfl⟩ := Nat.exists_eq_add_of_le hle
          rw [Nat.add_sub_cancel_left]
          by_cases hi : i < source.length
          · rw [GuestMemory.byteAt_overwrite_inside hin.1 hi, List.getElem?_eq_getElem hi,
              List.getD_eq_getElem _ _ hi, Option.getD_some]
          · rw [List.getElem?_eq_none (not_lt.mp hi), Option.getD_none,
              GuestMemory.byteAt_overwrite_outside hin.1 ha (by omega)]
        · rw [Option.getD_none, GuestMemory.byteAt_overwrite_outside hin.1 ha (by omega)]
  · obtain ⟨e, he⟩ := run_call_of_not_contains hin
    rw [he]
    cases access <;> rfl

/-! ### Runs -/

theorem region_runCalls (accesses : List Access) (mem : GuestMemory) :
    (runCalls Access.call mem accesses).region = mem.region := by
  induction accesses generalizing mem with
  | nil => rfl
  | cons access accesses ih => exact (ih _).trans (access.region_finalState mem)

theorem byteAt_runCalls (accesses : List Access) (ha : mem.region.base ≤ a) :
    (runCalls Access.call mem accesses).byteAt a =
      ((historyOf mem accesses).stored a).getD (mem.byteAt a) := by
  induction accesses generalizing mem with
  | nil => rfl
  | cons access accesses ih =>
      have hstep : (runCalls Access.call mem (access :: accesses)).byteAt a =
          ((historyOf (finalState (access.call.run mem)) accesses).stored a).getD
            ((finalState (access.call.run mem)).byteAt a) :=
        ih (by rwa [access.region_finalState mem])
      have hhistory : historyOf mem (access :: accesses) =
          (access, answer (access.call.run mem)) ::
            historyOf (finalState (access.call.run mem)) accesses := rfl
      rw [hstep, hhistory, Access.byteAt_finalState ha, History.stored, History.stored,
        List.reverse_cons, List.findSome?_append]
      cases (historyOf (finalState (access.call.run mem)) accesses).reverse.findSome?
        fun entry => entry.1.stored entry.2 a with
      | some byte => rfl
      | none => simp

end Runs

/-- **Guest memory is a bounded array of bytes.** In every run of accesses to new memory, the next
access succeeds exactly when its range lies in the region, as integers; a read that succeeds answers
the bytes that the last accepted writes to its addresses stored, and zeros where there was none; an
access that fails changes nothing.  Two regions overlap exactly when they share an address. -/
theorem GuestMemory.bounded_byte_array {base size : ℕ} {memory : GuestMemory}
    (h : GuestMemory.new base size = .ok memory) (accesses : List Access) :
    (∀ access : Access,
      ((∃ data mem', access.call.run (runCalls Access.call memory accesses) = .ok data mem') ↔
        base ≤ access.address ∧ access.address + access.length ≤ base + size) ∧
      ∀ e mem', access.call.run (runCalls Access.call memory accesses) = .error e mem' →
        mem' = runCalls Access.call memory accesses) ∧
    (∀ a n data, (runCalls Access.call memory accesses).read a n = .ok data →
      data.length = n ∧
        ∀ i < n, data.getD i 0 = (historyOf memory accesses).lastWritten (a + i)) ∧
    ∀ r r' : GuestMemoryRegion, r.overlaps r' ↔ ∃ a, r.Contains a 1 ∧ r'.Contains a 1 := by
  obtain ⟨region, hregion, hmemory⟩ := bind_eq_ok.mp h
  obtain rfl := Except.ok.inj hmemory
  obtain ⟨rfl, rfl⟩ := GuestMemoryRegion.eq_of_new hregion
  have hafter := region_runCalls accesses ⟨region, fun _ => 0⟩
  refine ⟨fun access => ⟨?_, fun e mem' => Access.eq_of_call_error⟩, fun a n data hread => ?_,
    fun r r' => GuestMemoryRegion.overlaps_iff⟩
  · rw [Access.call_succeeds_iff, hafter]
    rfl
  · refine ⟨length_of_read hread, fun i hi => ?_⟩
    obtain ⟨hin, rfl⟩ := read_eq_ok.mp hread
    rw [ByteMap.getD_read _ hi, hafter]
    rw [hafter] at hin
    have hbase : region.base ≤ a := hin.1
    have hbyte : (runCalls Access.call ⟨region, fun _ => 0⟩ accesses).byteAt (a + i) =
        (historyOf ⟨region, fun _ => 0⟩ accesses).lastWritten (a + i) :=
      byteAt_runCalls accesses (hbase.trans (Nat.le_add_right a i))
    rwa [byteAt, hafter, Nat.sub_add_comm hbase] at hbyte

/-- At the end of one page: a write past the end is refused, the bytes before it stay as the earlier
write left them, and an empty read at the exclusive end succeeds. -/
theorem GuestMemory.bounded_byte_array_onePage :
    ∃ memory, GuestMemory.new 0x1000 0x1000 = .ok memory ∧
      (∃ data mem', (Access.read 0x2000 0).call.run (runCalls Access.call memory
        [.write 0x1ffe [1, 2], .write 0x1fff [3, 4]]) = .ok data mem') ∧
      ∀ data, (runCalls Access.call memory
        [.write 0x1ffe [1, 2], .write 0x1fff [3, 4]]).read 0x1ffe 2 = .ok data →
        data.getD 1 0 = 2 := by
  obtain ⟨memory, hmemory⟩ : ∃ memory, GuestMemory.new 0x1000 0x1000 = .ok memory := ⟨_, rfl⟩
  have harray := bounded_byte_array hmemory [.write 0x1ffe [1, 2], .write 0x1fff [3, 4]]
  refine ⟨memory, hmemory, (harray.1 (.read 0x2000 0)).1.mpr (by decide), fun data hdata => ?_⟩
  rw [(harray.2.1 _ _ _ hdata).2 1 (by norm_num)]
  cases hmemory
  rfl

end MiniHypervisor.Memory
