import MiniHypervisor.Bytes.Slices
import MiniHypervisor.LongMode.AddressSpace

/-!
# Interrupt tables of a long-mode layout

A layout for guests that take interrupts (`src/interrupt.rs`) adds a page for the global descriptor
table and a page for the interrupt descriptor table above the four page tables, and a list of
interrupt gates.  The constructor checks the gates and finds the highest vector, which gives the
limit of the table; the installation writes the page tables, clears the two pages and writes the
descriptors and one gate for each vector of the list.  Gates are slots of 16 bytes, and no vector
is listed twice, so every gate reads back as it was written and every other vector is not present.

On the delivery of an interrupt the processor aligns the stack pointer down to a multiple of 16
before it pushes the frame.  The constructor checks the 40 bytes below the stack pointer itself, so
for a stack pointer that is not aligned the frame may lie up to 8 bytes below what was checked.
-/

namespace MiniHypervisor.LongMode

open Bytes Control Memory

/-! ### Constants -/

def longModeInterruptGdtAddr : ℕ := 0x5000

def longModeInterruptIdtAddr : ℕ := 0x6000

def longModeInterruptTableEnd : ℕ := 0x7000

def x86ExceptionVectorCount : UInt8 := 32

def x86InterruptGateSize : ℕ := 16

def x86LongModeCodeSelector : ℕ := 0x8

def x86InterruptGatePresentRing0 : UInt8 := 0x8e

def x86MaxInterruptFrameBytes : ℕ := 5 * 8

/-- `GDT_BYTES`: the null descriptor, a ring-0 code descriptor and a ring-0 data descriptor. -/
def gdtBytes : List UInt8 :=
  [0, 0, 0, 0, 0, 0, 0, 0,
   0xff, 0xff, 0x00, 0x00, 0x00, 0x9b, 0xaf, 0x00,
   0xff, 0xff, 0x00, 0x00, 0x00, 0x93, 0x8f, 0x00]

def isInterruptTableAddress (address : ℕ) : Bool :=
  longModeInterruptGdtAddr ≤ address && address < longModeInterruptTableEnd

def isReservedTableAddress (address : ℕ) : Bool :=
  longModePml4Addr ≤ address && address < longModeInterruptTableEnd

theorem isReservedTableAddress_iff {a : ℕ} :
    isReservedTableAddress a = true ↔ 0x1000 ≤ a ∧ a < 0x7000 := by
  simp only [isReservedTableAddress, Bool.and_eq_true, decide_eq_true_eq]
  exact Iff.rfl

/-! ### Gates -/

/-- An interrupt vector and the address of its handler. -/
structure LongModeInterruptGate where
  vector : UInt8
  handler : ℕ
  deriving DecidableEq, Repr

/-- Why a layout is refused (lines 80-107). -/
inductive LongModeInterruptConfigurationError where
  | boot (error : LongModeConfigurationError)
  | noInterruptGates
  | vectorReservedForExceptions (vector : UInt8)
  | duplicateInterruptVector (vector : UInt8)
  | entryOverlapsInterruptTables (entry : ℕ)
  | handlerOutsideIdentityMap (handler mappedSize : ℕ)
  | handlerOverlapsReservedTables (handler : ℕ)
  | interruptStackFrameOutsideIdentityMap (stackPointer frameBytes : ℕ)
  | interruptStackFrameOverlapsReservedTables (stackPointer frameStart : ℕ)
  deriving DecidableEq, Repr

/-- The checks of the loop of `with_gates`: `previous` are the gates before this one. -/
def checkGate (previous : List LongModeInterruptGate) (gate : LongModeInterruptGate) :
    Except LongModeInterruptConfigurationError Unit := do
  rejectIf (gate.vector < x86ExceptionVectorCount) (.vectorReservedForExceptions gate.vector)
  rejectIf (previous.any fun existing => existing.vector == gate.vector)
    (.duplicateInterruptVector gate.vector)
  rejectIf (longModeIdentityMapSize ≤ gate.handler)
    (.handlerOutsideIdentityMap gate.handler longModeIdentityMapSize)
  rejectIf (isReservedTableAddress gate.handler) (.handlerOverlapsReservedTables gate.handler)

/-- The loop of `with_gates`, which finds the highest vector. -/
def checkGates (gates : List LongModeInterruptGate) :
    Except LongModeInterruptConfigurationError UInt8 :=
  gates.zipIdx.foldlM (fun maxVector entry => do
    checkGate (gates.take entry.2) entry.1
    return max maxVector entry.1.vector) 0

/-- A vector that is no exception, and a handler in the low 2 MiB off the tables. -/
structure LongModeInterruptGate.Admissible (gate : LongModeInterruptGate) : Prop where
  vector_ge : 32 ≤ gate.vector
  handler_lt : gate.handler < 0x200000
  handler_off : gate.handler < 0x1000 ∨ 0x7000 ≤ gate.handler

theorem checkGate_eq_ok {previous : List LongModeInterruptGate} {gate : LongModeInterruptGate} :
    checkGate previous gate = .ok () ↔
      gate.Admissible ∧ ∀ p ∈ previous, p.vector ≠ gate.vector := by
  simp only [checkGate, rejectIf_bind_eq_ok, rejectIf_eq_ok]
  simp only [isReservedTableAddress_iff, List.any_eq_true, beq_iff_eq, not_exists, not_and,
    x86ExceptionVectorCount, longModeIdentityMapSize, UInt8.not_lt, not_le, not_lt]
  constructor
  · rintro ⟨h₁, h₂, h₃, h₄⟩
    exact ⟨⟨h₁, by omega, by omega⟩, h₂⟩
  · rintro ⟨⟨h₁, h₃, h₄⟩, h₂⟩
    exact ⟨h₁, h₂, by omega, by omega⟩

/-- The loop of `with_gates` accepts admissible gates of different vectors, and its result is the
highest vector. -/
theorem checkGates_eq_ok {gates : List LongModeInterruptGate} {maxVector : UInt8}
    (h : checkGates gates = .ok maxVector) (hne : gates ≠ []) :
    ((∀ g ∈ gates, g.Admissible) ∧ (gates.map LongModeInterruptGate.vector).Nodup) ∧
      (∀ g ∈ gates, g.vector ≤ maxVector) ∧ ∃ g ∈ gates, g.vector = maxVector := by
  -- every gate so far passed its check, and the accumulator is the highest of their vectors
  have hloop := foldlM_induction (fun done acc =>
      (∀ e ∈ done, checkGate (gates.take e.2) e.1 = .ok () ∧ e.1.vector ≤ acc) ∧
        (acc = 0 ∨ ∃ e ∈ done, e.1.vector = acc)) ⟨nofun, Or.inl rfl⟩ ?_ h
  · obtain ⟨hdone, hmax⟩ := hloop
    have hchecks := (forM_zipIdx_eq_ok fun _ _ => checkGate_eq_ok).mp
      (forM_eq_ok.mpr fun e he => (hdone e he).1)
    have hle : ∀ g ∈ gates, g.vector ≤ maxVector := fun g hg => by
      obtain ⟨i, hi⟩ := List.mem_iff_getElem?.mp hg
      exact (hdone (g, i) (List.mem_zipIdx_iff_getElem?.mpr hi)).2
    refine ⟨hchecks, hle, ?_⟩
    rcases hmax with rfl | ⟨e, he, hmax⟩
    · obtain ⟨g, hg⟩ := List.exists_mem_of_ne_nil gates hne
      have hge : (32 : UInt8) ≤ 0 := UInt8.le_trans (hchecks.1 g hg).vector_ge (hle g hg)
      exact absurd hge (by decide)
    · exact ⟨e.1, List.mem_of_getElem? (List.mem_zipIdx_iff_getElem?.mp he), hmax⟩
  · rintro done e - acc acc' ⟨hdone, hmax⟩ hstep
    obtain ⟨_, hcheck, hstep⟩ := bind_eq_ok.mp hstep
    obtain rfl := Except.ok.inj hstep
    have hvalue : max acc e.1.vector = if acc ≤ e.1.vector then e.1.vector else acc := rfl
    simp only [List.mem_append, List.mem_singleton, hvalue]
    split_ifs with hle
    · refine ⟨?_, Or.inr ⟨e, Or.inr rfl, rfl⟩⟩
      rintro e' (he' | rfl)
      · exact ⟨(hdone e' he').1, UInt8.le_trans (hdone e' he').2 hle⟩
      · exact ⟨hcheck, UInt8.le_refl _⟩
    · refine ⟨?_, hmax.imp_right ?_⟩
      · rintro e' (he' | rfl)
        · exact hdone e' he'
        · exact ⟨hcheck, (UInt8.le_total _ _).resolve_left hle⟩
      · rintro ⟨e', he', hacc⟩
        exact ⟨e', Or.inl he', hacc⟩

/-! ### Layouts -/

/-- An accepted layout.  Its boot layout has no alias page. -/
structure LongModeInterruptLayout where
  boot : LongModeBootLayout
  gates : List LongModeInterruptGate
  idtLimit : ℕ
  boot_pageMappings : boot.pageMappings = []
  gates_ne : gates ≠ []
  limit_ok : ∃ maxVector, checkGates gates = .ok maxVector ∧
    idtLimit = (maxVector.toNat + 1) * x86InterruptGateSize - 1

/-- The check of `with_gates` on the stack pointer (lines 215-231): the 40 bytes below it. -/
def checkInterruptFrame (stackPointer : ℕ) : Except LongModeInterruptConfigurationError Unit := do
  rejectIf (stackPointer < x86MaxInterruptFrameBytes)
    (.interruptStackFrameOutsideIdentityMap stackPointer x86MaxInterruptFrameBytes)
  let frameStart := stackPointer - x86MaxInterruptFrameBytes
  rejectIf (rangesOverlap frameStart stackPointer longModePml4Addr longModeInterruptTableEnd)
    (.interruptStackFrameOverlapsReservedTables stackPointer frameStart)

theorem checkInterruptFrame_eq_ok {sp : ℕ} :
    checkInterruptFrame sp = .ok () ↔ 40 ≤ sp ∧ (sp ≤ 0x1000 ∨ 0x7028 ≤ sp) := by
  simp only [checkInterruptFrame, rejectIf_bind_eq_ok, rejectIf_eq_ok]
  simp only [rangesOverlap_iff, x86MaxInterruptFrameBytes, longModePml4Addr,
    longModeInterruptTableEnd]
  omega

/-- `encode_interrupt_gate` (lines 441-450). -/
def encodeInterruptGate (handler : ℕ) : List UInt8 :=
  leBytes 2 (handler % 2 ^ 16) ++ leBytes 2 x86LongModeCodeSelector ++
    [0, x86InterruptGatePresentRing0] ++ leBytes 2 (handler / 2 ^ 16 % 2 ^ 16) ++
    leBytes 4 (handler / 2 ^ 32 % 2 ^ 32) ++ [0, 0, 0, 0]

/-- The address of the gate of a vector. -/
def gateAddress (vector : UInt8) : ℕ :=
  longModeInterruptIdtAddr + vector.toNat * x86InterruptGateSize

namespace LongModeInterruptLayout

/-- `LongModeInterruptLayout::with_gates` (lines 193-279).  The limit of the table is computed with
checked operations on 16 bits, which never fail: the highest vector gives 4095. -/
def withGates (memory : GuestMemoryRegion) (entry stackPointer : ℕ)
    (gates : List LongModeInterruptGate) :
    Except LongModeInterruptConfigurationError LongModeInterruptLayout :=
  match hboot : LongModeBootLayout.new memory entry stackPointer with
  | .ok boot =>
      if hgates : gates = [] then .error .noInterruptGates
      else do
        rejectIf (isInterruptTableAddress entry) (.entryOverlapsInterruptTables entry)
        checkInterruptFrame stackPointer
        match hloop : checkGates gates with
        | .ok maxVector => .ok {
            boot
            gates
            idtLimit := (maxVector.toNat + 1) * x86InterruptGateSize - 1
            boot_pageMappings := LongModeBootLayout.pageMappings_of_new hboot
            gates_ne := hgates
            limit_ok := ⟨maxVector, hloop, rfl⟩ }
        | .error e => .error e
  | .error e => .error (.boot e)

/-- `LongModeInterruptLayout::new` (lines 178-191). -/
def new (memory : GuestMemoryRegion) (entry stackPointer : ℕ) (vector : UInt8) (handler : ℕ) :
    Except LongModeInterruptConfigurationError LongModeInterruptLayout :=
  withGates memory entry stackPointer [⟨vector, handler⟩]

/-- `LongModeInterruptLayout::install_tables` (lines 321-338). -/
def installTables (layout : LongModeInterruptLayout) :
    EStateM GuestMemoryError GuestMemory Unit := do
  layout.boot.installPageTables
  let zeroPage := List.replicate longModePageSize 0
  GuestMemory.write longModeInterruptGdtAddr zeroPage
  GuestMemory.write longModeInterruptIdtAddr zeroPage
  GuestMemory.write longModeInterruptGdtAddr gdtBytes
  layout.gates.forM fun gate =>
    GuestMemory.write (gateAddress gate.vector) (encodeInterruptGate gate.handler)

variable {memory : GuestMemoryRegion} {entry sp : ℕ} {gates : List LongModeInterruptGate}
  {layout : LongModeInterruptLayout}

theorem of_withGates (h : withGates memory entry sp gates = .ok layout) :
    layout.boot.memory = memory ∧ layout.gates = gates ∧
      validateMemoryAndStack memory sp = .ok () ∧ checkInterruptFrame sp = .ok () := by
  unfold withGates at h
  split at h
  · rename_i boot hboot
    split at h
    · cases h
    · obtain ⟨_, -, h⟩ := bind_eq_ok.mp h
      obtain ⟨_, hframe, h⟩ := bind_eq_ok.mp h
      split at h
      · obtain rfl := Except.ok.inj h
        exact ⟨(LongModeBootLayout.eq_of_new hboot).1, rfl,
          LongModeBootLayout.validateMemoryAndStack_of_new hboot, hframe⟩
      · cases h
  · cases h

end LongModeInterruptLayout

/-! ### Gates as the architecture reads them -/

/-- The fields of a 16-byte gate. -/
structure DecodedGate where
  present : Bool
  privilege : ℕ
  gateType : ℕ
  selector : ℕ
  stackTable : ℕ
  handler : ℕ
  deriving DecidableEq, Repr

/-- A gate of a 64-bit interrupt descriptor table as the architecture reads it.  The type has five
bits, the upper of which is the one that is clear in a system descriptor. -/
def decodeInterruptGate (bytes : List UInt8) : DecodedGate where
  present := (bytes.getD 5 0).toNat / 2 ^ 7 = 1
  privilege := (bytes.getD 5 0).toNat / 2 ^ 5 % 4
  gateType := (bytes.getD 5 0).toNat % 2 ^ 5
  selector := ofLE (slice bytes 2 2)
  stackTable := (bytes.getD 4 0).toNat % 8
  handler := ofLE (slice bytes 0 2) + 2 ^ 16 * ofLE (slice bytes 6 2) +
    2 ^ 32 * ofLE (slice bytes 8 4)

/-- A present 64-bit interrupt gate of ring 0 for the code segment. -/
def presentGate (handler : ℕ) : DecodedGate where
  present := true
  privilege := 0
  gateType := 0xe
  selector := x86LongModeCodeSelector
  stackTable := 0
  handler

theorem length_encodeInterruptGate (handler : ℕ) : (encodeInterruptGate handler).length = 16 := by
  simp [encodeInterruptGate]

theorem decodeInterruptGate_encodeInterruptGate {handler : ℕ} (h : handler < 2 ^ 64) :
    decodeInterruptGate (encodeInterruptGate handler) = presentGate handler := by
  have hlow : ofLE (leBytes 2 (handler % 2 ^ 16)) = handler % 2 ^ 16 := ofLE_leBytes (by omega)
  have hmiddle : ofLE (leBytes 2 (handler / 2 ^ 16 % 2 ^ 16)) = handler / 2 ^ 16 % 2 ^ 16 :=
    ofLE_leBytes (by omega)
  have hhigh : ofLE (leBytes 4 (handler / 2 ^ 32 % 2 ^ 32)) = handler / 2 ^ 32 % 2 ^ 32 :=
    ofLE_leBytes (by omega)
  have hpieces : handler % 2 ^ 16 + 2 ^ 16 * (handler / 2 ^ 16 % 2 ^ 16) +
      2 ^ 32 * (handler / 2 ^ 32 % 2 ^ 32) = handler := by omega
  have hslice : slice (encodeInterruptGate handler) 0 2 = leBytes 2 (handler % 2 ^ 16) := rfl
  have hslice' : slice (encodeInterruptGate handler) 6 2 =
      leBytes 2 (handler / 2 ^ 16 % 2 ^ 16) := rfl
  have hslice'' : slice (encodeInterruptGate handler) 8 4 =
      leBytes 4 (handler / 2 ^ 32 % 2 ^ 32) := rfl
  have hselector : ofLE (slice (encodeInterruptGate handler) 2 2) = x86LongModeCodeSelector := rfl
  have hstack : (encodeInterruptGate handler).getD 4 0 = 0 := rfl
  have hattributes : (encodeInterruptGate handler).getD 5 0 = 0x8e := rfl
  rw [decodeInterruptGate, hslice, hslice', hslice'', hselector, hstack, hattributes, hlow, hmiddle,
    hhigh, hpieces]
  rfl

/-! ### The tables -/

/-- What memory holds after the tables of a layout were installed over `before`. -/
structure InterruptTables (gates : List LongModeInterruptGate) (limit : ℕ)
    (before after : GuestMemory) : Prop where
  /-- A vector of the list has the gate of its handler, every other vector has none. -/
  gate : ∀ vector, ∃ bytes,
    after.read (longModeInterruptIdtAddr + x86InterruptGateSize * vector.toNat)
      x86InterruptGateSize = .ok bytes ∧
    (∀ g ∈ gates, g.vector = vector → decodeInterruptGate bytes = presentGate g.handler) ∧
    ((∀ g ∈ gates, g.vector ≠ vector) → (decodeInterruptGate bytes).present = false)
  /-- The last byte of every gate of the list is within the limit. -/
  covered : ∀ g ∈ gates, x86InterruptGateSize * (g.vector.toNat + 1) ≤ limit + 1
  /-- The limit is the last byte of some gate of the list. -/
  tight : ∃ g ∈ gates, x86InterruptGateSize * (g.vector.toNat + 1) = limit + 1
  descriptors : after.read longModeInterruptGdtAddr gdtBytes.length = .ok gdtBytes
  identity : ∀ va < longModeIdentityMapSize, pageWalk after longModePml4Addr va = some va
  region : after.region = before.region
  frame : ∀ a, a < longModePml4Addr ∨ longModeInterruptTableEnd ≤ a →
    after.byteAt a = before.byteAt a

/-- The writes of `install_tables` after those of the page tables, up to the gates. -/
def descriptorWrites : List (ℕ × List UInt8) :=
  [(0x5000, List.replicate 4096 0), (0x6000, List.replicate 4096 0), (0x5000, gdtBytes)]

/-- The write of a gate. -/
def gateWrite (gate : LongModeInterruptGate) : ℕ × List UInt8 :=
  (gateAddress gate.vector, encodeInterruptGate gate.handler)

/-- The memory with page tables and descriptors, without gates. -/
def withDescriptors (mem : GuestMemory) : GuestMemory :=
  (withTables mem identityEntries).overwriteAll descriptorWrites

/-- The memory after the installation. -/
def withInterruptTables (mem : GuestMemory) (gates : List LongModeInterruptGate) : GuestMemory :=
  (withTables mem identityEntries).overwriteAll (descriptorWrites ++ gates.map gateWrite)

section Tables

variable {mem : GuestMemory} {gates : List LongModeInterruptGate}

theorem gateAddress_bounds (vector : UInt8) :
    0x6000 ≤ gateAddress vector ∧ gateAddress vector + 16 ≤ 0x7000 := by
  have hlt : vector.toNat < 256 := UInt8.toNat_lt vector
  simp only [gateAddress, longModeInterruptIdtAddr, x86InterruptGateSize]
  omega

theorem gateAddress_injective : Function.Injective gateAddress := fun v w h => by
  simp only [gateAddress, longModeInterruptIdtAddr, x86InterruptGateSize] at h
  exact UInt8.toNat_inj.mp (by omega)

theorem interruptWrites_bounds {w : ℕ × List UInt8}
    (h : w ∈ descriptorWrites ++ gates.map gateWrite) :
    0x5000 ≤ w.1 ∧ w.1 + w.2.length ≤ 0x7000 := by
  rcases List.mem_append.mp h with h | h
  · simp only [descriptorWrites, List.mem_cons, List.not_mem_nil, or_false] at h
    rcases h with rfl | rfl | rfl <;> simp only [List.length_replicate] <;> decide
  · obtain ⟨g, -, rfl⟩ := List.mem_map.mp h
    have hbounds := gateAddress_bounds g.vector
    simp only [gateWrite, length_encodeInterruptGate]
    omega

theorem withInterruptTables_eq :
    withInterruptTables mem gates = (withDescriptors mem).overwriteAll (gates.map gateWrite) :=
  GuestMemory.overwriteAll_append _ _ _

theorem withDescriptors_eq : withDescriptors mem =
    ((withTables mem identityEntries).zeroed 4096 [0x5000, 0x6000]).overwrite 0x5000 gdtBytes := rfl

theorem region_withDescriptors : (withDescriptors mem).region = mem.region :=
  (GuestMemory.region_overwriteAll _ _).trans (region_withTables _ _)

variable (hlow : CoversLow mem)

include hlow

theorem read_withInterruptTables_low {a n : ℕ} (h : a + n ≤ 0x5000) :
    (withInterruptTables mem gates).read a n = (withTables mem identityEntries).read a n := by
  have hbase := (hlow.of_region_eq (region_withTables mem identityEntries)).base_le
  refine GuestMemory.read_overwriteAll_disjoint ?_ (fun w _ => hbase w.1) fun w hw => ?_
  · rw [region_withTables]
    exact hlow.contains (by omega)
  · have hbounds := interruptWrites_bounds hw
    omega

theorem byteAt_withInterruptTables_outside {a : ℕ} (h : a < 0x1000 ∨ 0x7000 ≤ a) :
    (withInterruptTables mem gates).byteAt a = mem.byteAt a := by
  have hbase := (hlow.of_region_eq (region_withTables mem identityEntries)).base_le
  rw [withInterruptTables,
    GuestMemory.byteAt_overwriteAll_outside (hbase a) (fun w _ => hbase w.1) fun w hw => ?_]
  · exact tableEntries_identityEntries.byteAt_outside hlow (by omega)
  · have hbounds := interruptWrites_bounds hw
    omega

theorem slotWrites_gates (hnodup : (gates.map LongModeInterruptGate.vector).Nodup) :
    (withDescriptors mem).SlotWrites 16 (gates.map gateWrite) where
  contained := List.forall_mem_map.mpr fun g _ => by
    have hbounds := gateAddress_bounds g.vector
    exact (hlow.of_region_eq region_withDescriptors).contains (by simp only [gateWrite]; omega)
  aligned := List.forall_mem_map.mpr fun g _ => by
    simp only [gateWrite, gateAddress, longModeInterruptIdtAddr, x86InterruptGateSize]
    omega
  width := List.forall_mem_map.mpr fun g _ => length_encodeInterruptGate g.handler
  nodup := by
    have hkeys : (gates.map gateWrite).map Prod.fst =
        (gates.map LongModeInterruptGate.vector).map gateAddress := by
      rw [List.map_map, List.map_map]
      rfl
    rw [hkeys]
    exact hnodup.map gateAddress_injective

theorem read_withInterruptTables_gate (hnodup : (gates.map LongModeInterruptGate.vector).Nodup)
    {g : LongModeInterruptGate} (hg : g ∈ gates) :
    (withInterruptTables mem gates).read (gateAddress g.vector) 16 =
      .ok (encodeInterruptGate g.handler) := by
  rw [withInterruptTables_eq]
  exact (slotWrites_gates hlow hnodup).read_of_mem (List.mem_map_of_mem hg)

theorem read_withDescriptors_gate (vector : UInt8) :
    (withDescriptors mem).read (gateAddress vector) 16 = .ok (List.replicate 16 0) := by
  have hbounds := gateAddress_bounds vector
  have htables := hlow.of_region_eq (region_withTables mem identityEntries)
  have hcleared := htables.of_region_eq (GuestMemory.region_zeroed _ 4096 [0x5000, 0x6000])
  have hlength : gdtBytes.length = 24 := rfl
  rw [withDescriptors_eq, GuestMemory.read_overwrite_disjoint (hcleared.base_le _)
    (hcleared.contains (by omega)) (by omega)]
  exact GuestMemory.read_zeroed (fun a _ => htables.base_le a) (htables.contains (by omega))
    (List.mem_cons_of_mem _ (List.mem_singleton_self _)) hbounds.1 (by omega)

theorem read_withInterruptTables_empty (hnodup : (gates.map LongModeInterruptGate.vector).Nodup)
    {vector : UInt8} (hnot : ∀ g ∈ gates, g.vector ≠ vector) :
    (withInterruptTables mem gates).read (gateAddress vector) 16 = .ok (List.replicate 16 0) := by
  have hbounds := gateAddress_bounds vector
  have hin : (withDescriptors mem).region.Contains (gateAddress vector) 16 :=
    (hlow.of_region_eq region_withDescriptors).contains (by omega)
  have haligned : 16 ∣ gateAddress vector := by
    simp only [gateAddress, longModeInterruptIdtAddr, x86InterruptGateSize]
    omega
  rw [withInterruptTables_eq, (slotWrites_gates hlow hnodup).read_of_not_mem haligned hin ?_,
    read_withDescriptors_gate hlow]
  exact List.forall_mem_map.mpr fun g hg heq => hnot g hg (gateAddress_injective heq)

theorem read_withInterruptTables_descriptors :
    (withInterruptTables mem gates).read 0x5000 gdtBytes.length = .ok gdtBytes := by
  have hlow' := hlow.of_region_eq region_withDescriptors
  have hlength : gdtBytes.length = 24 := rfl
  rw [withInterruptTables_eq, GuestMemory.read_overwriteAll_disjoint
    (hlow'.contains (by omega)) (fun w _ => hlow'.base_le w.1) ?_]
  · have htables := hlow.of_region_eq (region_withTables mem identityEntries)
    have hcleared := htables.of_region_eq (GuestMemory.region_zeroed _ 4096 [0x5000, 0x6000])
    rw [withDescriptors_eq]
    exact GuestMemory.read_overwrite_same (hcleared.contains (by omega))
  · refine List.forall_mem_map.mpr fun g _ => ?_
    have hbounds := gateAddress_bounds g.vector
    simp only [gateWrite]
    omega

theorem pageWalk_withInterruptTables {va : ℕ} (hva : va < 0x200000) :
    pageWalk (withInterruptTables mem gates) longModePml4Addr va = some va := by
  rw [((exactTables_identityEntries hlow).of_read_eq fun _ _ ha =>
    read_withInterruptTables_low hlow ha).pageWalk_eq (Or.inl (by omega)), if_pos hva]

end Tables

namespace LongModeInterruptLayout

variable (layout : LongModeInterruptLayout) {mem : GuestMemory}

/-- **The installation succeeds.** -/
theorem run_installTables_eq (hregion : mem.region = layout.boot.memory) :
    layout.installTables.run mem = .ok () (withInterruptTables mem layout.gates) := by
  have hlow := layout.boot.coversLow hregion
  have hwrite : ∀ {m : GuestMemory} {a : ℕ} {data : List UInt8}, m.region = mem.region →
      a + data.length ≤ 0x200000 → (GuestMemory.write a data).run m = .ok () (m.overwrite a data) :=
    fun hm ha => GuestMemory.run_write_of_contains ((hlow.of_region_eq hm).contains ha)
  have hzero : (List.replicate longModePageSize (0 : UInt8)).length = 4096 :=
    List.length_replicate
  have hgates : ∀ g ∈ layout.gates, (withDescriptors mem).region.Contains (gateWrite g).1
      (gateWrite g).2.length := fun g _ => by
    have hbounds := gateAddress_bounds g.vector
    refine (hlow.of_region_eq region_withDescriptors).contains ?_
    simp only [gateWrite, length_encodeInterruptGate]
    omega
  have hloop := GuestMemory.run_forM_write hgates
  have hdescriptors : withDescriptors mem =
      (((withTables mem identityEntries).overwrite longModeInterruptGdtAddr
        (List.replicate longModePageSize 0)).overwrite longModeInterruptIdtAddr
        (List.replicate longModePageSize 0)).overwrite longModeInterruptGdtAddr gdtBytes := rfl
  have hpages := layout.boot.run_installPageTables_eq hregion
  rw [show layout.boot.entries = identityEntries from ?_] at hpages
  · rw [hdescriptors] at hloop
    rw [installTables, run_bind_of_ok hpages, withInterruptTables_eq, hdescriptors]
    exact (run_bind_of_ok (hwrite (by simp) (by rw [hzero]; decide))).trans <|
      (run_bind_of_ok (hwrite (by simp) (by rw [hzero]; decide))).trans <|
      (run_bind_of_ok (hwrite (by simp) (by decide))).trans <|
      hloop
  · rw [LongModeBootLayout.entries, layout.boot_pageMappings]
    exact List.append_nil _

theorem gates_spec :
    ((∀ g ∈ layout.gates, g.Admissible) ∧
      (layout.gates.map LongModeInterruptGate.vector).Nodup) ∧
    (∀ g ∈ layout.gates, x86InterruptGateSize * (g.vector.toNat + 1) ≤ layout.idtLimit + 1) ∧
      ∃ g ∈ layout.gates, x86InterruptGateSize * (g.vector.toNat + 1) = layout.idtLimit + 1 := by
  obtain ⟨maxVector, hloop, hlimit⟩ := layout.limit_ok
  obtain ⟨hgates, hle, g, hg, hmax⟩ := checkGates_eq_ok hloop layout.gates_ne
  simp only [x86InterruptGateSize] at hlimit ⊢
  refine ⟨hgates, fun g' hg' => ?_, g, hg, ?_⟩
  · have hvector : g'.vector.toNat ≤ maxVector.toNat := UInt8.le_iff_toNat_le.mp (hle g' hg')
    omega
  · rw [hmax]
    omega

variable {memory : GuestMemoryRegion} {entry sp : ℕ} {gates : List LongModeInterruptGate}
  {layout}

/-- **The interrupt tables are exact.** For every list of gates that `with_gates` accepts and every
content of the memory, the installation succeeds; after it the vectors of the list have their gates
and no other vector has one, the limit ends with the highest vector, the descriptors are in place,
the low 2 MiB are mapped to themselves, and no byte outside the tables has changed. -/
theorem exact_interrupt_tables (h : withGates memory entry sp gates = .ok layout)
    (mem : GuestMemory) (hregion : mem.region = memory) :
    ∃ mem', layout.installTables.run mem = .ok () mem' ∧
      InterruptTables gates layout.idtLimit mem mem' := by
  obtain ⟨rfl, rfl, -⟩ := of_withGates h
  have hlow := layout.boot.coversLow hregion
  obtain ⟨⟨hadm, hnodup⟩, hcovered, htight⟩ := layout.gates_spec
  refine ⟨_, layout.run_installTables_eq hregion, ?_, hcovered, htight,
    read_withInterruptTables_descriptors hlow, fun va hva => pageWalk_withInterruptTables hlow hva,
    ?_, fun a ha => byteAt_withInterruptTables_outside hlow ha⟩
  · intro vector
    have haddr : longModeInterruptIdtAddr + x86InterruptGateSize * vector.toNat =
        gateAddress vector := by rw [gateAddress, Nat.mul_comm]
    rw [haddr]
    by_cases hlisted : ∃ g ∈ layout.gates, g.vector = vector
    · obtain ⟨g, hg, rfl⟩ := hlisted
      refine ⟨_, read_withInterruptTables_gate hlow hnodup hg, fun g' hg' heq => ?_,
        fun hnot => absurd rfl (hnot g hg)⟩
      rw [List.inj_on_of_nodup_map hnodup hg' hg heq]
      have hhandler := (hadm g hg).handler_lt
      exact decodeInterruptGate_encodeInterruptGate (by omega)
    · refine ⟨_, read_withInterruptTables_empty hlow hnodup fun g hg heq => hlisted ⟨g, hg, heq⟩,
        fun g hg heq => absurd ⟨g, hg, heq⟩ hlisted, fun _ => rfl⟩
  · rw [withInterruptTables_eq, GuestMemory.region_overwriteAll, region_withDescriptors]

/-- Two gates in the order of the larger vector first: both are in place, the vector between them is
not present, and the limit is the last byte of the gate of vector `0x50`. -/
theorem exact_interrupt_tables_twoGates :
    ∃ region layout, GuestMemoryRegion.new 0 0x200000 = .ok region ∧
      withGates region 0x10000 0x1ff000 [⟨0x50, 0x12345⟩, ⟨0x40, 0x11000⟩] = .ok layout ∧
      layout.idtLimit = 0x50f ∧
      ∃ mem', layout.installTables.run ⟨region, fun _ => 0xff⟩ = .ok () mem' ∧
        ∃ bytes, mem'.read 0x6500 16 = .ok bytes ∧
          decodeInterruptGate bytes = presentGate 0x12345 := by
  obtain ⟨region, hregion⟩ : ∃ region, GuestMemoryRegion.new 0 0x200000 = .ok region := ⟨_, rfl⟩
  obtain ⟨layout, hlayout, hlimit⟩ : ∃ layout, withGates region 0x10000 0x1ff000
      [⟨0x50, 0x12345⟩, ⟨0x40, 0x11000⟩] = .ok layout ∧ layout.idtLimit = 0x50f := by
    cases hregion
    exact ⟨_, rfl, rfl⟩
  obtain ⟨mem', hrun, htables⟩ := exact_interrupt_tables hlayout ⟨region, fun _ => 0xff⟩ rfl
  obtain ⟨bytes, hread, hgate, -⟩ := htables.gate 0x50
  exact ⟨region, layout, hregion, hlayout, hlimit, mem', hrun, bytes, hread,
    hgate ⟨0x50, 0x12345⟩ List.mem_cons_self rfl⟩

end LongModeInterruptLayout

/-! ### The frame of the first interrupt -/

/-- The addresses that a 64-bit processor writes when it delivers an interrupt with this stack
pointer: it aligns the stack pointer down to a multiple of 16 and pushes five words. -/
def interruptFrame (rsp : ℕ) : List ℕ :=
  (List.range 40).map fun i => (rsp / 16 * 16 + 2 ^ 64 - 40 + i) % 2 ^ 64

namespace LongModeInterruptLayout

variable {memory : GuestMemoryRegion} {entry sp : ℕ} {gates : List LongModeInterruptGate}
  {layout : LongModeInterruptLayout}

/-- **When the frame of the first interrupt stays off the tables.** For every accepted layout it
lies in the low 2 MiB and off the tables exactly when the stack pointer is neither in `40..48` nor
in `0x7028..0x7030`: there the alignment takes the frame below the range that was checked, around
the end of the address space or into the tables. -/
theorem interruptFrame_safe_iff (h : withGates memory entry sp gates = .ok layout) :
    (∀ a ∈ interruptFrame sp, a < longModeIdentityMapSize ∧ ¬ isReservedTableAddress a) ↔
      ¬ (40 ≤ sp ∧ sp < 48) ∧ ¬ (0x7028 ≤ sp ∧ sp < 0x7030) := by
  obtain ⟨-, -, hstack, hframe⟩ := of_withGates h
  obtain ⟨-, -, -, hmax, -⟩ := validateMemoryAndStack_eq_ok.mp hstack
  obtain ⟨hmin, hoff⟩ := checkInterruptFrame_eq_ok.mp hframe
  simp only [interruptFrame, List.forall_mem_map, List.mem_range, isReservedTableAddress_iff,
    longModeIdentityMapSize]
  constructor
  · intro hsafe
    -- the first byte of the frame is the one that is pushed last
    have hfirst := hsafe 0 (by norm_num)
    omega
  · intro hsp i hi
    omega

/-- A stack pointer in the middle of RAM. -/
theorem interruptFrame_safe_middle :
    ∃ region layout, GuestMemoryRegion.new 0 0x200000 = .ok region ∧
      withGates region 0x10000 0x1ff008 [⟨0x40, 0x11000⟩] = .ok layout ∧
      ∀ a ∈ interruptFrame 0x1ff008, a < longModeIdentityMapSize ∧ ¬ isReservedTableAddress a := by
  obtain ⟨region, hregion⟩ : ∃ region, GuestMemoryRegion.new 0 0x200000 = .ok region := ⟨_, rfl⟩
  obtain ⟨layout, hlayout⟩ : ∃ layout, withGates region 0x10000 0x1ff008
      [⟨0x40, 0x11000⟩] = .ok layout := by
    cases hregion
    exact ⟨_, rfl⟩
  exact ⟨region, layout, hregion, hlayout, (interruptFrame_safe_iff hlayout).mpr (by decide)⟩

/-- With the stack pointer 40 bytes above the tables the frame starts 8 bytes below their end. -/
theorem interruptFrame_hits_tables :
    ∃ region layout, GuestMemoryRegion.new 0 0x200000 = .ok region ∧
      withGates region 0x10000 0x7028 [⟨0x40, 0x11000⟩] = .ok layout ∧
      0x6ff8 ∈ interruptFrame 0x7028 ∧ isReservedTableAddress 0x6ff8 := by
  obtain ⟨region, hregion⟩ : ∃ region, GuestMemoryRegion.new 0 0x200000 = .ok region := ⟨_, rfl⟩
  refine ⟨region, ?_⟩
  cases hregion
  exact ⟨_, rfl, rfl, by decide, by decide⟩

end LongModeInterruptLayout

end MiniHypervisor.LongMode
