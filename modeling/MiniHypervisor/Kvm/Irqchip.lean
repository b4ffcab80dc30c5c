import MiniHypervisor.Bytes.Slices

/-!
# Snapshots of the interrupt controllers

The state of the in-kernel PICs and of the IOAPIC as KVM passes it in a payload of 512 bytes
(`src/kvm/irqchip_snapshot.rs`), the bytes of it that checkpoints store, and the registers of a
local APIC (`src/kvm/lapic_uapi.rs`).
-/

namespace MiniHypervisor.Kvm

open Bytes

def kvmIrqchipPayloadSize : ℕ := 512

def kvmPicStateSize : ℕ := 16

def kvmIoapicNumPins : ℕ := 24

def kvmIoapicStateSize : ℕ := 216

def kvmApicRegSize : ℕ := 0x400

/-! ### The PIC -/

structure KvmPicState where
  lastIrr : UInt8
  irr : UInt8
  imr : UInt8
  isr : UInt8
  priorityAdd : UInt8
  irqBase : UInt8
  readRegSelect : UInt8
  poll : UInt8
  specialMask : UInt8
  initState : UInt8
  autoEoi : UInt8
  rotateOnAutoEoi : UInt8
  specialFullyNestedMode : UInt8
  init4 : UInt8
  elcr : UInt8
  elcrMask : UInt8
  deriving DecidableEq, Inhabited, Repr

/-- The bytes of a PIC state. -/
def KvmPicState.block (state : KvmPicState) : List UInt8 :=
  [state.lastIrr, state.irr, state.imr, state.isr, state.priorityAdd, state.irqBase,
    state.readRegSelect, state.poll, state.specialMask, state.initState, state.autoEoi,
    state.rotateOnAutoEoi, state.specialFullyNestedMode, state.init4, state.elcr, state.elcrMask]

/-- `encode_pic_state` (lines 330-349). -/
def encodePicState (state : KvmPicState) (bytes : FixedBytes kvmIrqchipPayloadSize) :
    FixedBytes kvmIrqchipPayloadSize :=
  bytes.splice 0 state.block

/-- `decode_pic_state` (lines 309-328). -/
def decodePicState (bytes : FixedBytes kvmIrqchipPayloadSize) : KvmPicState where
  lastIrr := bytes.1.getD 0 0
  irr := bytes.1.getD 1 0
  imr := bytes.1.getD 2 0
  isr := bytes.1.getD 3 0
  priorityAdd := bytes.1.getD 4 0
  irqBase := bytes.1.getD 5 0
  readRegSelect := bytes.1.getD 6 0
  poll := bytes.1.getD 7 0
  specialMask := bytes.1.getD 8 0
  initState := bytes.1.getD 9 0
  autoEoi := bytes.1.getD 10 0
  rotateOnAutoEoi := bytes.1.getD 11 0
  specialFullyNestedMode := bytes.1.getD 12 0
  init4 := bytes.1.getD 13 0
  elcr := bytes.1.getD 14 0
  elcrMask := bytes.1.getD 15 0

theorem decodePicState_eq_iff {bytes : FixedBytes kvmIrqchipPayloadSize} {state : KvmPicState} :
    decodePicState bytes = state ↔ slice bytes.1 0 kvmPicStateSize = state.block := by
  have hlen : 0 + kvmPicStateSize ≤ bytes.1.length := by
    rw [bytes.2]
    decide
  rw [slice_eq_map_getD hlen]
  obtain ⟨_⟩ := state
  simp [decodePicState, KvmPicState.block, kvmPicStateSize, List.range_succ]

/-- The semantic bytes of a PIC state: the start of its payload. -/
def picSemanticBytes (state : KvmPicState) : FixedBytes kvmPicStateSize :=
  ⟨slice (encodePicState state (.zeros _)).1 0 kvmPicStateSize, length_slice (by
    rw [(encodePicState state (.zeros _)).2]
    decide)⟩

/-- The PIC state with given semantic bytes. -/
def picFromSemanticBytes (bytes : FixedBytes kvmPicStateSize) : KvmPicState :=
  decodePicState ((FixedBytes.zeros kvmIrqchipPayloadSize).splice 0 bytes.1)

theorem slice_payload {n : ℕ} {l : List UInt8} (hle : n ≤ kvmIrqchipPayloadSize)
    (hlen : l.length = n) :
    slice ((FixedBytes.zeros kvmIrqchipPayloadSize).splice 0 l).1 0 n = l := by
  obtain rfl := hlen
  exact FixedBytes.slice_splice_same ((Nat.zero_add _).trans_le hle)

theorem val_picSemanticBytes (state : KvmPicState) : (picSemanticBytes state).1 = state.block :=
  slice_payload (by decide) rfl

theorem picFromSemanticBytes_eq_iff {bytes : FixedBytes kvmPicStateSize} {state : KvmPicState} :
    picFromSemanticBytes bytes = state ↔ (picSemanticBytes state).1 = bytes.1 := by
  rw [picFromSemanticBytes, decodePicState_eq_iff, slice_payload (by decide) bytes.2,
    val_picSemanticBytes, eq_comm]

structure MasterPicStateSnapshot where
  state : KvmPicState
  deriving DecidableEq, Repr

def MasterPicStateSnapshot.semanticBytes (snapshot : MasterPicStateSnapshot) :
    FixedBytes kvmPicStateSize :=
  picSemanticBytes snapshot.state

def MasterPicStateSnapshot.fromSemanticBytes (bytes : FixedBytes kvmPicStateSize) :
    MasterPicStateSnapshot :=
  ⟨picFromSemanticBytes bytes⟩

structure SlavePicStateSnapshot where
  state : KvmPicState
  deriving DecidableEq, Repr

def SlavePicStateSnapshot.semanticBytes (snapshot : SlavePicStateSnapshot) :
    FixedBytes kvmPicStateSize :=
  picSemanticBytes snapshot.state

def SlavePicStateSnapshot.fromSemanticBytes (bytes : FixedBytes kvmPicStateSize) :
    SlavePicStateSnapshot :=
  ⟨picFromSemanticBytes bytes⟩

theorem MasterPicStateSnapshot.fromSemanticBytes_eq_iff {bytes : FixedBytes kvmPicStateSize}
    {snapshot : MasterPicStateSnapshot} :
    fromSemanticBytes bytes = snapshot ↔ snapshot.semanticBytes.1 = bytes.1 := by
  obtain ⟨state⟩ := snapshot
  rw [fromSemanticBytes, mk.injEq, picFromSemanticBytes_eq_iff, semanticBytes]

theorem SlavePicStateSnapshot.fromSemanticBytes_eq_iff {bytes : FixedBytes kvmPicStateSize}
    {snapshot : SlavePicStateSnapshot} :
    fromSemanticBytes bytes = snapshot ↔ snapshot.semanticBytes.1 = bytes.1 := by
  obtain ⟨state⟩ := snapshot
  rw [fromSemanticBytes, mk.injEq, picFromSemanticBytes_eq_iff, semanticBytes]

/-! ### The IOAPIC -/

structure KvmIoapicState where
  baseAddress : UInt64
  ioregsel : UInt32
  id : UInt32
  irr : UInt32
  pad : UInt32
  redirtbl : List UInt64
  redirtbl_length : redirtbl.length = kvmIoapicNumPins
  deriving DecidableEq, Repr

/-- The bytes of an IOAPIC state. -/
def KvmIoapicState.block (state : KvmIoapicState) : List UInt8 :=
  u64Bytes state.baseAddress ++ (u32Bytes state.ioregsel ++ (u32Bytes state.id ++
    (u32Bytes state.irr ++ (u32Bytes state.pad ++ state.redirtbl.flatMap u64Bytes))))

/-- `encode_ioapic_state` (lines 371-382). -/
def encodeIoapicState (state : KvmIoapicState) (bytes : FixedBytes kvmIrqchipPayloadSize) :
    FixedBytes kvmIrqchipPayloadSize :=
  bytes.splice 0 state.block

/-- `decode_ioapic_state` (lines 351-369). -/
def decodeIoapicState (bytes : FixedBytes kvmIrqchipPayloadSize) : KvmIoapicState where
  baseAddress := u64At bytes.1 0
  ioregsel := u32At bytes.1 8
  id := u32At bytes.1 12
  irr := u32At bytes.1 16
  pad := u32At bytes.1 20
  redirtbl := (List.range kvmIoapicNumPins).map fun index => u64At bytes.1 (24 + 8 * index)
  redirtbl_length := by rw [List.length_map, List.length_range]

theorem length_flatMap_u64Bytes (words : List UInt64) :
    (words.flatMap u64Bytes).length = 8 * words.length := by
  simp [List.length_flatMap, Nat.mul_comm]

theorem KvmIoapicState.length_table (state : KvmIoapicState) :
    (state.redirtbl.flatMap u64Bytes).length = 192 := by
  rw [length_flatMap_u64Bytes, state.redirtbl_length]
  rfl

theorem KvmIoapicState.length_block (state : KvmIoapicState) :
    state.block.length = kvmIoapicStateSize := by
  simp only [block, List.length_append, length_u64Bytes, length_u32Bytes, state.length_table]
  rfl

theorem decodeIoapicState_eq_iff {bytes : FixedBytes kvmIrqchipPayloadSize}
    {state : KvmIoapicState} :
    decodeIoapicState bytes = state ↔ slice bytes.1 0 kvmIoapicStateSize = state.block := by
  have hlen : bytes.1.length = 512 := bytes.2
  have hcount : state.redirtbl.length = 24 := state.redirtbl_length
  have htable : slice bytes.1 24 (8 * state.redirtbl.length) =
      state.redirtbl.flatMap u64Bytes ↔ _ := slice_eq_flatMap_u64Bytes_iff (by omega)
  rw [hcount] at htable
  rw [show kvmIoapicStateSize = 216 from rfl, KvmIoapicState.block]
  -- the block is taken apart field by field; what is left is the redirection table
  rw [slice_eq_append_iff (by simp [hcount]) (by omega),
    slice_eq_append_iff (by simp [hcount]) (by simp; omega),
    slice_eq_append_iff (by simp [hcount]) (by simp; omega),
    slice_eq_append_iff (by simp [hcount]) (by simp; omega),
    slice_eq_append_iff (by simp [hcount]) (by simp; omega)]
  simp only [length_u64Bytes, length_u32Bytes, Nat.zero_add, Nat.reduceAdd, state.length_table]
  rw [slice_eq_u64Bytes_iff (by omega), slice_eq_u32Bytes_iff (by omega),
    slice_eq_u32Bytes_iff (by omega), slice_eq_u32Bytes_iff (by omega),
    slice_eq_u32Bytes_iff (by omega), htable]
  obtain ⟨_⟩ := state
  rw [decodeIoapicState, KvmIoapicState.mk.injEq]
  rfl

structure IoapicStateSnapshot where
  state : KvmIoapicState
  deriving DecidableEq, Repr

namespace IoapicStateSnapshot

variable {snapshot : IoapicStateSnapshot} {bytes : FixedBytes kvmIoapicStateSize}

def pad (snapshot : IoapicStateSnapshot) : UInt32 := snapshot.state.pad

def semanticBytes (snapshot : IoapicStateSnapshot) : FixedBytes kvmIoapicStateSize :=
  ⟨slice (encodeIoapicState snapshot.state (.zeros _)).1 0 kvmIoapicStateSize, length_slice (by
    rw [(encodeIoapicState snapshot.state (.zeros _)).2]
    decide)⟩

def fromSemanticBytes (bytes : FixedBytes kvmIoapicStateSize) : IoapicStateSnapshot :=
  ⟨decodeIoapicState ((FixedBytes.zeros kvmIrqchipPayloadSize).splice 0 bytes.1)⟩

theorem val_semanticBytes : snapshot.semanticBytes.1 = snapshot.state.block :=
  slice_payload (by decide) snapshot.state.length_block

theorem fromSemanticBytes_eq_iff :
    fromSemanticBytes bytes = snapshot ↔ snapshot.semanticBytes.1 = bytes.1 := by
  obtain ⟨state⟩ := snapshot
  rw [fromSemanticBytes, mk.injEq, decodeIoapicState_eq_iff, slice_payload (by decide) bytes.2,
    val_semanticBytes, eq_comm]

end IoapicStateSnapshot

/-! ### The local APIC -/

structure KvmLapicState where
  regs : FixedBytes kvmApicRegSize
  deriving DecidableEq, Repr

end MiniHypervisor.Kvm
