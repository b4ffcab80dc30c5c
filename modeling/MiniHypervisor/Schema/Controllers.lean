import MiniHypervisor.Bytes.Envelope
import MiniHypervisor.Schema.VcpuState

/-!
# The controller schemas

The versioned byte formats of one vCPU with its pages and the interrupt controllers
(`src/state_snapshot/page_set/full_controller_schema_v1.rs`) and of two vCPUs with the interrupt
controllers (`src/state_snapshot/two_vcpu_checkpoint_schema_v1.rs`).

## Main results

* `VersionedFullControllerCheckpointV1.encode_eq_ok`, `decode_eq_ok` and
  `VersionedTwoVcpuFullControllerCheckpointV1.encode_eq_ok`, `decode_eq_ok` : what the encoders
  write and the decoders accept, in terms of the nested formats.
-/

namespace MiniHypervisor.Schema

open Bytes Checkpoint Control Kvm

/-! ### The states of the controllers -/

/-- The states of both PICs and of the IOAPIC. -/
@[ext]
structure ControllerStates where
  masterPic : MasterPicStateSnapshot
  slavePic : SlavePicStateSnapshot
  ioapic : IoapicStateSnapshot
  deriving DecidableEq, Repr

namespace ControllerStates

/-- The stored bytes. -/
def block (states : ControllerStates) : List UInt8 :=
  states.masterPic.semanticBytes.1 ++ (states.slavePic.semanticBytes.1 ++
    states.ioapic.semanticBytes.1)

/-- The states at an offset of a string. -/
def at_ (bytes : List UInt8) (offset : ℕ) : ControllerStates where
  masterPic := .fromSemanticBytes (.at_ bytes offset _)
  slavePic := .fromSemanticBytes (.at_ bytes (offset + kvmPicStateSize) _)
  ioapic := .fromSemanticBytes (.at_ bytes (offset + kvmPicStateSize + kvmPicStateSize) _)

theorem length_block (states : ControllerStates) : states.block.length = 248 := by
  rw [block, List.length_append, List.length_append, states.masterPic.semanticBytes.2,
    states.slavePic.semanticBytes.2, states.ioapic.semanticBytes.2]
  rfl

theorem at_eq_iff {bytes : List UInt8} {offset : ℕ} {states : ControllerStates}
    (h : offset + 248 ≤ bytes.length) :
    at_ bytes offset = states ↔ slice bytes offset 248 = states.block := by
  have hpic : kvmPicStateSize = 16 := rfl
  have hioapic : kvmIoapicStateSize = 216 := rfl
  have hmaster := states.masterPic.semanticBytes.2
  have hslave := states.slavePic.semanticBytes.2
  have hlast := states.ioapic.semanticBytes.2
  rw [block, slice_eq_append_iff (by rw [List.length_append]; omega) h,
    slice_eq_append_iff (by rw [List.length_append]) (by rw [List.length_append]; omega)]
  rw [ControllerStates.ext_iff, at_, MasterPicStateSnapshot.fromSemanticBytes_eq_iff,
    SlavePicStateSnapshot.fromSemanticBytes_eq_iff, IoapicStateSnapshot.fromSemanticBytes_eq_iff,
    FixedBytes.val_at (by omega), FixedBytes.val_at (by omega), FixedBytes.val_at (by omega)]
  simp only [hmaster, hslave, hlast, eq_comm]

end ControllerStates

/-! ### One vCPU -/

inductive VersionedFullControllerCheckpointError where
  | invalidMagic
  | unsupportedVersion (version : UInt16)
  | unsupportedArchitecture (architecture : UInt16)
  | invalidHeaderLength (length : UInt32)
  | invalidTotalLength (declared : UInt64) (actual : ℕ)
  | invalidGuestLength (length : UInt64)
  | nonZeroFlags (flags : UInt32)
  | nonZeroReserved (value : UInt32)
  | lengthOverflow
  | nonZeroIoapicPad (pad : UInt32)
  | guest (error : VersionedPageVcpuCheckpointError)
  deriving DecidableEq, Repr

def fullControllerSchemaStateLen : ℕ :=
  2 * kvmPicStateSize + kvmIoapicStateSize + kvmApicRegSize

/-- The magic `MHVFCTL`, version, architecture and header length of the schema. -/
def fullControllerEnvelope : Envelope where
  magic := asciiBytes ['M', 'H', 'V', 'F', 'C', 'T', 'L', '\x00']
  version := 1
  architecture := 1
  headerLen := 40
  magic_length := rfl
  opening_le := Nat.le_of_ble_eq_true rfl

/-- The header of the schema: the length of the guest, flags and a reserved word. -/
def fullControllerFrame : Frame VersionedFullControllerCheckpointError Unit where
  envelope := fullControllerEnvelope
  errors := {
    invalidMagic := .invalidMagic
    unsupportedVersion := .unsupportedVersion
    unsupportedArchitecture := .unsupportedArchitecture
    invalidHeaderLength := .invalidHeaderLength
    invalidTotalLength := .invalidTotalLength }
  invalidFirstLength := .invalidGuestLength
  lengthOverflow := .lengthOverflow
  read := fun _ => ()
  checkBefore := fun bytes => do
    rejectIf (u32At bytes 32 ≠ 0) (.nonZeroFlags (u32At bytes 32))
    rejectIf (u32At bytes 36 ≠ 0) (.nonZeroReserved (u32At bytes 36))
  checkAfter := fun _ => .ok ()
  words := fun _ => u32Bytes 0 ++ u32Bytes 0
  Valid := fun _ => True
  restLens := fun _ => [fullControllerSchemaStateLen]
  length_words := fun _ => by simp [fullControllerEnvelope]
  words_iff := fun bytes d h => by
    have hlen : 40 ≤ bytes.length := h
    rw [slice_eq_append_iff (by simp) (by simp; omega)]
    simp only [rejectIf_bind_eq_ok, rejectIf_eq_ok, not_not, length_u32Bytes, Nat.reduceAdd,
      true_and, and_true]
    rw [slice_eq_u32Bytes_iff (by omega), slice_eq_u32Bytes_iff (by omega)]

structure VersionedFullControllerCheckpointV1 where
  guest : VersionedPageVcpuCheckpointV1
  masterPic : MasterPicStateSnapshot
  slavePic : SlavePicStateSnapshot
  ioapic : IoapicStateSnapshot
  lapic : KvmLapicState
  deriving DecidableEq, Repr

namespace VersionedFullControllerCheckpointV1

/-- `VersionedFullControllerCheckpointV1::from_checkpoint` (lines 92-108). -/
def fromCheckpoint (checkpoint : BoundedFullControllerCheckpoint) :
    Except VersionedFullControllerCheckpointError VersionedFullControllerCheckpointV1 := do
  let guest ← (VersionedPageVcpuCheckpointV1.fromCheckpoint checkpoint.base.guest).mapError .guest
  rejectIf (checkpoint.ioapic.pad ≠ 0) (.nonZeroIoapicPad checkpoint.ioapic.pad)
  return {
    guest
    masterPic := checkpoint.base.masterPic
    slavePic := checkpoint.slavePic
    ioapic := checkpoint.ioapic
    lapic := checkpoint.base.lapic }

variable (v : VersionedFullControllerCheckpointV1)

/-- The states of the PICs and the IOAPIC. -/
def states : ControllerStates := ⟨v.masterPic, v.slavePic, v.ioapic⟩

/-- `VersionedFullControllerCheckpointV1::encode` (lines 125-154). -/
def encode : Except VersionedFullControllerCheckpointError (List UInt8) := do
  rejectIf (v.ioapic.pad ≠ 0) (.nonZeroIoapicPad v.ioapic.pad)
  let guest ← v.guest.encode.mapError .guest
  fullControllerFrame.join () guest [v.states.block, v.lapic.regs.1]

/-- `VersionedFullControllerCheckpointV1::decode` (lines 156-271). -/
def decode (bytes : List UInt8) :
    Except VersionedFullControllerCheckpointError VersionedFullControllerCheckpointV1 := do
  let ⟨_, guestBytes, rest⟩ ← fullControllerFrame.split bytes
  let guest ← (VersionedPageVcpuCheckpointV1.decode guestBytes).mapError .guest
  let states := ControllerStates.at_ rest 0
  rejectIf (states.ioapic.pad ≠ 0) (.nonZeroIoapicPad states.ioapic.pad)
  return {
    guest
    masterPic := states.masterPic
    slavePic := states.slavePic
    ioapic := states.ioapic
    lapic := ⟨.at_ rest 248 _⟩ }

/-- `VersionedFullControllerCheckpointV1::materialize` (lines 273-292). -/
def materialize (hostMsrs : HostMsrIndexList) :
    Except VersionedFullControllerCheckpointError BoundedFullControllerCheckpoint := do
  let guest ← (v.guest.materialize hostMsrs).mapError .guest
  rejectIf (v.ioapic.pad ≠ 0) (.nonZeroIoapicPad v.ioapic.pad)
  return {
    base := {
      guest
      masterPic := v.masterPic
      lapic := v.lapic }
    slavePic := v.slavePic
    ioapic := v.ioapic }

variable {v} {bytes : List UInt8}

/-- What follows the guest is the block of the states and the registers of the local APIC. -/
theorem tail_iff {rest : List UInt8} {states : ControllerStates}
    {regs : FixedBytes kvmApicRegSize} (h : rest.length = 1272) :
    ControllerStates.at_ rest 0 = states ∧ FixedBytes.at_ rest 248 _ = regs ↔
      rest = states.block ++ regs.1 := by
  have hsize : kvmApicRegSize = 1024 := rfl
  have hregs := regs.2
  have hstates := states.length_block
  have hall : slice rest 0 1272 = rest := h ▸ slice_zero_length
  rw [ControllerStates.at_eq_iff (by omega), FixedBytes.at_eq_iff (by omega)]
  nth_rewrite 3 [← hall]
  rw [slice_eq_append_iff (by omega) (by omega), hstates, hregs, Nat.zero_add]

theorem length_tail : (v.states.block ++ v.lapic.regs.1).length = 1272 := by
  rw [List.length_append, v.states.length_block, v.lapic.regs.2]
  rfl

theorem split_assemble {guest : List UInt8} (hguest : guest ≠ [])
    (hlt : 40 + guest.length + 1272 < 2 ^ 64) :
    fullControllerFrame.split (fullControllerFrame.assemble () guest
        (v.states.block ++ v.lapic.regs.1)) =
      .ok ((), guest, v.states.block ++ v.lapic.regs.1) :=
  Frame.split_eq_ok.mpr ⟨hguest, trivial, length_tail, by rw [length_tail]; exact hlt, rfl⟩

theorem encode_eq_ok :
    v.encode = .ok bytes ↔
      v.ioapic.pad = 0 ∧ ∃ guest, v.guest.encode = .ok guest ∧
        40 + guest.length + 1272 < 2 ^ 64 ∧
        bytes = fullControllerFrame.assemble () guest (v.states.block ++ v.lapic.regs.1) := by
  have hlapic := v.lapic.regs.2
  have hstates := v.states.length_block
  rw [encode, rejectIf_bind_eq_ok, not_not]
  simp only [bind_eq_ok, mapError_eq_ok, Frame.join_eq_ok, List.flatten_cons, List.flatten_nil,
    List.append_nil, List.length_append, hstates, hlapic]
  rfl

theorem decode_eq_ok :
    decode bytes = .ok v ↔
      v.ioapic.pad = 0 ∧ ∃ guest, VersionedPageVcpuCheckpointV1.decode guest = .ok v.guest ∧
        40 + guest.length + 1272 < 2 ^ 64 ∧
        bytes = fullControllerFrame.assemble () guest (v.states.block ++ v.lapic.regs.1) := by
  simp only [decode, bind_eq_ok, Prod.exists, mapError_eq_ok, rejectIf_eq_ok, not_not, pure,
    Except.pure, Except.ok.injEq]
  constructor
  · rintro ⟨_, guest, rest, hsplit, _, hguest, _, hpad, rfl⟩
    obtain ⟨-, -, hrest, hlt, rfl⟩ := Frame.split_eq_ok.mp hsplit
    have hrestLen : rest.length = 1272 := hrest
    have htail := (tail_iff hrestLen).mp ⟨rfl, rfl⟩
    exact ⟨hpad, guest, hguest, hrestLen ▸ hlt,
      congrArg (fullControllerFrame.assemble () guest) htail⟩
  · rintro ⟨hpad, guest, hguest, hlt, rfl⟩
    obtain ⟨hstates, hlapic⟩ := (tail_iff (length_tail (v := v))).mpr rfl
    have hsplit :=
      split_assemble (v := v) (VersionedPageVcpuCheckpointV1.ne_nil_of_decode hguest) hlt
    refine ⟨(), guest, _, hsplit, v.guest, hguest, (), ?_, ?_⟩
    · rw [hstates]
      exact hpad
    · rw [hstates, hlapic]
      rfl

end VersionedFullControllerCheckpointV1

/-! ### Two vCPUs -/

inductive VersionedTwoVcpuFullControllerCheckpointError where
  | invalidMagic
  | unsupportedVersion (version : UInt16)
  | unsupportedArchitecture (architecture : UInt16)
  | invalidHeaderLength (length : UInt32)
  | invalidTotalLength (declared : UInt64) (actual : ℕ)
  | invalidPrimaryLength (length : UInt64)
  | invalidSecondaryLength (length : UInt64)
  | nonCanonicalVcpuIds (primary secondary : VcpuId)
  | invalidMpState (vcpu : VcpuId) (state : UInt32)
  | nonZeroFlags (flags : UInt32)
  | nonZeroReserved (value : UInt64)
  | lengthOverflow
  | nonZeroIoapicPad (pad : UInt32)
  | primary (error : VersionedPageVcpuCheckpointError)
  | secondary (error : VersionedVcpuStateSnapshotError)
  deriving DecidableEq, Repr

def twoVcpuFullControllerStateLen : ℕ :=
  2 * kvmPicStateSize + kvmIoapicStateSize + 2 * kvmApicRegSize

def x86MpStateMax : UInt32 := 4

/-- `validate_vcpu_ids` (lines 437-449). -/
def validateVcpuIds (ids : VcpuId × VcpuId) :
    Except VersionedTwoVcpuFullControllerCheckpointError Unit :=
  rejectIf (ids.2 ≤ ids.1) (.nonCanonicalVcpuIds ids.1 ids.2)

/-- `validate_mp_states` (lines 451-466). -/
def validateMpStates (ids : VcpuId × VcpuId) (states : UInt32 × UInt32) :
    Except VersionedTwoVcpuFullControllerCheckpointError Unit := do
  rejectIf (x86MpStateMax < states.1) (.invalidMpState ids.1 states.1)
  rejectIf (x86MpStateMax < states.2) (.invalidMpState ids.2 states.2)

/-- What the header of the schema says apart from the length of the primary vCPU. -/
structure TwoVcpuHeader where
  secondaryLen : UInt64
  vcpuIds : VcpuId × VcpuId
  mpStates : UInt32 × UInt32
  deriving DecidableEq, Repr

/-- The identifiers increase and the MP states exist. -/
structure TwoVcpuIdentity (vcpuIds : VcpuId × VcpuId) (mpStates : UInt32 × UInt32) : Prop where
  ids : validateVcpuIds vcpuIds = .ok ()
  mpStates : validateMpStates vcpuIds mpStates = .ok ()

/-- The magic `MHV2CTL`, version, architecture and header length of the schema. -/
def twoVcpuFullControllerEnvelope : Envelope where
  magic := asciiBytes ['M', 'H', 'V', '2', 'C', 'T', 'L', '\x00']
  version := 1
  architecture := 1
  headerLen := 64
  magic_length := rfl
  opening_le := Nat.le_of_ble_eq_true rfl

/-- The header of the schema. -/
def twoVcpuFullControllerFrame :
    Frame VersionedTwoVcpuFullControllerCheckpointError TwoVcpuHeader where
  envelope := twoVcpuFullControllerEnvelope
  errors := {
    invalidMagic := .invalidMagic
    unsupportedVersion := .unsupportedVersion
    unsupportedArchitecture := .unsupportedArchitecture
    invalidHeaderLength := .invalidHeaderLength
    invalidTotalLength := .invalidTotalLength }
  invalidFirstLength := .invalidPrimaryLength
  lengthOverflow := .lengthOverflow
  read := fun bytes => {
    secondaryLen := u64At bytes 32
    vcpuIds := (u16At bytes 40, u16At bytes 42)
    mpStates := (u32At bytes 44, u32At bytes 48) }
  checkBefore := fun bytes => do
    validateVcpuIds (u16At bytes 40, u16At bytes 42)
    validateMpStates (u16At bytes 40, u16At bytes 42) (u32At bytes 44, u32At bytes 48)
    rejectIf (u32At bytes 52 ≠ 0) (.nonZeroFlags (u32At bytes 52))
    rejectIf (u64At bytes 56 ≠ 0) (.nonZeroReserved (u64At bytes 56))
  checkAfter := fun bytes => rejectIf (u64At bytes 32 = 0) (.invalidSecondaryLength 0)
  words := fun d => u64Bytes d.secondaryLen ++ (u16Bytes d.vcpuIds.1 ++ (u16Bytes d.vcpuIds.2 ++
    (u32Bytes d.mpStates.1 ++ (u32Bytes d.mpStates.2 ++ (u32Bytes 0 ++ u64Bytes 0)))))
  Valid := fun d => TwoVcpuIdentity d.vcpuIds d.mpStates ∧ d.secondaryLen ≠ 0
  restLens := fun d => [d.secondaryLen.toNat, twoVcpuFullControllerStateLen]
  length_words := fun _ => by simp [twoVcpuFullControllerEnvelope]
  words_iff := fun bytes d h => by
    have hlen : 64 ≤ bytes.length := h
    obtain ⟨secondaryLen, ⟨id₁, id₂⟩, mp₁, mp₂⟩ := d
    iterate 6 rw [slice_eq_append_iff (by simp) (by simp; omega)]
    simp only [length_u64Bytes, length_u32Bytes, length_u16Bytes, Nat.reduceAdd]
    rw [slice_eq_u64Bytes_iff (by omega), slice_eq_u16Bytes_iff (by omega),
      slice_eq_u16Bytes_iff (by omega), slice_eq_u32Bytes_iff (by omega),
      slice_eq_u32Bytes_iff (by omega), slice_eq_u32Bytes_iff (by omega),
      slice_eq_u64Bytes_iff (by omega)]
    simp only [bind_eq_ok, rejectIf_eq_ok, not_not, TwoVcpuHeader.mk.injEq, Prod.mk.injEq]
    constructor
    · rintro ⟨⟨_, hids, _, hmp, _, hflags, hreserved⟩, hsecondary, rfl, ⟨rfl, rfl⟩, rfl, rfl⟩
      exact ⟨⟨⟨hids, hmp⟩, hsecondary⟩, rfl, rfl, rfl, rfl, rfl, hflags, hreserved⟩
    · rintro ⟨⟨⟨hids, hmp⟩, hsecondary⟩, rfl, rfl, rfl, rfl, rfl, hflags, hreserved⟩
      exact ⟨⟨(), hids, (), hmp, (), hflags, hreserved⟩, hsecondary, rfl, ⟨rfl, rfl⟩, rfl, rfl⟩

structure VersionedTwoVcpuFullControllerCheckpointV1 where
  primary : VersionedPageVcpuCheckpointV1
  secondary : VersionedVcpuStateSnapshotV1
  vcpuIds : VcpuId × VcpuId
  mpStates : UInt32 × UInt32
  masterPic : MasterPicStateSnapshot
  slavePic : SlavePicStateSnapshot
  ioapic : IoapicStateSnapshot
  lapics : KvmLapicState × KvmLapicState
  deriving DecidableEq, Repr

namespace VersionedTwoVcpuFullControllerCheckpointV1

/-- `VersionedTwoVcpuFullControllerCheckpointV1::from_checkpoint` (lines 121-161). -/
def fromCheckpoint (checkpoint : BoundedTwoVcpuFullControllerCheckpoint) :
    Except VersionedTwoVcpuFullControllerCheckpointError
      VersionedTwoVcpuFullControllerCheckpointV1 := do
  let ids := (checkpoint.base.primaryId, checkpoint.base.secondaryId)
  validateVcpuIds ids
  let mpStates := (checkpoint.mpStates.1.2, checkpoint.mpStates.2.2)
  validateMpStates ids mpStates
  rejectIf (checkpoint.lapics.1.1 ≠ ids.1 ∨ checkpoint.lapics.2.1 ≠ ids.2 ∨
      checkpoint.mpStates.1.1 ≠ ids.1 ∨ checkpoint.mpStates.2.1 ≠ ids.2)
    (.nonCanonicalVcpuIds ids.1 ids.2)
  rejectIf (checkpoint.ioapic.pad ≠ 0) (.nonZeroIoapicPad checkpoint.ioapic.pad)
  let primary ← (VersionedPageVcpuCheckpointV1.fromCheckpoint checkpoint.base.primary).mapError
    .primary
  let secondary ← (VersionedVcpuStateSnapshotV1.fromSnapshot checkpoint.base.secondary).mapError
    .secondary
  return {
    primary
    secondary
    vcpuIds := ids
    mpStates
    masterPic := checkpoint.masterPic
    slavePic := checkpoint.slavePic
    ioapic := checkpoint.ioapic
    lapics := (checkpoint.lapics.1.2, checkpoint.lapics.2.2) }

variable (v : VersionedTwoVcpuFullControllerCheckpointV1)

/-- The states of the PICs and the IOAPIC. -/
def states : ControllerStates := ⟨v.masterPic, v.slavePic, v.ioapic⟩

/-- `VersionedTwoVcpuFullControllerCheckpointV1::encode` (lines 188-231). -/
def encode : Except VersionedTwoVcpuFullControllerCheckpointError (List UInt8) := do
  validateVcpuIds v.vcpuIds
  validateMpStates v.vcpuIds v.mpStates
  rejectIf (v.ioapic.pad ≠ 0) (.nonZeroIoapicPad v.ioapic.pad)
  let primary ← v.primary.encode.mapError .primary
  let secondary ← v.secondary.encode.mapError .secondary
  twoVcpuFullControllerFrame.join ⟨UInt64.ofNat secondary.length, v.vcpuIds, v.mpStates⟩ primary
    [secondary, v.states.block, v.lapics.1.regs.1, v.lapics.2.regs.1]

/-- `VersionedTwoVcpuFullControllerCheckpointV1::decode` (lines 233-395). -/
def decode (bytes : List UInt8) :
    Except VersionedTwoVcpuFullControllerCheckpointError
      VersionedTwoVcpuFullControllerCheckpointV1 := do
  let ⟨header, primaryBytes, rest⟩ ← twoVcpuFullControllerFrame.split bytes
  let primary ← (VersionedPageVcpuCheckpointV1.decode primaryBytes).mapError .primary
  let secondary ← (VersionedVcpuStateSnapshotV1.decode
    (rest.take header.secondaryLen.toNat)).mapError .secondary
  let tail := rest.drop header.secondaryLen.toNat
  let states := ControllerStates.at_ tail 0
  rejectIf (states.ioapic.pad ≠ 0) (.nonZeroIoapicPad states.ioapic.pad)
  return {
    primary
    secondary
    vcpuIds := header.vcpuIds
    mpStates := header.mpStates
    masterPic := states.masterPic
    slavePic := states.slavePic
    ioapic := states.ioapic
    lapics := (⟨.at_ tail 248 _⟩, ⟨.at_ tail (248 + kvmApicRegSize) _⟩) }

/-- `VersionedTwoVcpuFullControllerCheckpointV1::materialize` (lines 397-434). -/
def materialize (hostMsrs : HostMsrIndexList) :
    Except VersionedTwoVcpuFullControllerCheckpointError
      BoundedTwoVcpuFullControllerCheckpoint := do
  validateVcpuIds v.vcpuIds
  validateMpStates v.vcpuIds v.mpStates
  rejectIf (v.ioapic.pad ≠ 0) (.nonZeroIoapicPad v.ioapic.pad)
  let primary ← (v.primary.materialize hostMsrs).mapError .primary
  let secondary ← (v.secondary.materialize hostMsrs).mapError .secondary
  return {
    base := {
      primaryId := v.vcpuIds.1
      primary
      secondaryId := v.vcpuIds.2
      secondary }
    masterPic := v.masterPic
    slavePic := v.slavePic
    ioapic := v.ioapic
    lapics := ((v.vcpuIds.1, v.lapics.1), (v.vcpuIds.2, v.lapics.2))
    mpStates := ((v.vcpuIds.1, v.mpStates.1), (v.vcpuIds.2, v.mpStates.2)) }

/-- What follows the vCPUs: the controller states and the registers of both local APICs. -/
def tail : List UInt8 := v.states.block ++ (v.lapics.1.regs.1 ++ v.lapics.2.regs.1)

/-- The bytes of a value for the bytes of its vCPUs. -/
def assemble (primary secondary : List UInt8) : List UInt8 :=
  twoVcpuFullControllerFrame.assemble ⟨UInt64.ofNat secondary.length, v.vcpuIds, v.mpStates⟩ primary
    (secondary ++ v.tail)

/-- What every stored value keeps to. -/
structure Valid : Prop where
  identity : TwoVcpuIdentity v.vcpuIds v.mpStates
  pad : v.ioapic.pad = 0

variable {v} {bytes : List UInt8}

theorem length_tail : v.tail.length = 2296 := by
  rw [tail, List.length_append, List.length_append, v.states.length_block, v.lapics.1.regs.2,
    v.lapics.2.regs.2]
  rfl

theorem tail_iff {rest : List UInt8} {states : ControllerStates}
    {regs regs' : FixedBytes kvmApicRegSize} (h : rest.length = 2296) :
    ControllerStates.at_ rest 0 = states ∧ FixedBytes.at_ rest 248 _ = regs ∧
        FixedBytes.at_ rest (248 + kvmApicRegSize) _ = regs' ↔
      rest = states.block ++ (regs.1 ++ regs'.1) := by
  have hsize : kvmApicRegSize = 1024 := rfl
  have hregs := regs.2
  have hregs' := regs'.2
  have hstates := states.length_block
  have hall : slice rest 0 2296 = rest := h ▸ slice_zero_length
  rw [ControllerStates.at_eq_iff (by omega), FixedBytes.at_eq_iff (by omega),
    FixedBytes.at_eq_iff (by omega)]
  nth_rewrite 4 [← hall]
  rw [slice_eq_append_iff (by rw [List.length_append]; omega) (by omega),
    slice_eq_append_iff (by rw [List.length_append]) (by rw [List.length_append]; omega), hstates,
    hregs, hregs', Nat.zero_add]

theorem toNat_secondaryLen {primary secondary : List UInt8}
    (hlt : 64 + primary.length + (secondary.length + 2296) < 2 ^ 64) :
    (UInt64.ofNat secondary.length).toNat = secondary.length :=
  UInt64.toNat_ofNat_of_lt' (show secondary.length < 2 ^ 64 by omega)

/-- The string of a value is taken apart into its header, the primary vCPU and the rest. -/
theorem split_assemble {primary secondary : List UInt8} (hvalid : v.Valid) (hprimary : primary ≠ [])
    (hsecondary : secondary ≠ [])
    (hlt : 64 + primary.length + (secondary.length + 2296) < 2 ^ 64) :
    twoVcpuFullControllerFrame.split (v.assemble primary secondary) =
      .ok (⟨UInt64.ofNat secondary.length, v.vcpuIds, v.mpStates⟩, primary,
        secondary ++ v.tail) := by
  have hlen := toNat_secondaryLen hlt
  have hrest : (secondary ++ v.tail).length = secondary.length + 2296 := by
    rw [List.length_append, length_tail]
  have hnonzero : UInt64.ofNat secondary.length ≠ 0 := by
    intro hzero
    rw [← UInt64.toNat_inj, hlen] at hzero
    exact hsecondary (List.length_eq_zero_iff.mp hzero)
  refine Frame.split_eq_ok.mpr ⟨hprimary, ⟨hvalid.identity, hnonzero⟩, ?_, ?_, rfl⟩
  · rw [hrest]
    exact congrArg (· + 2296) hlen.symm
  · rw [hrest]
    exact hlt

theorem encode_eq_ok :
    v.encode = .ok bytes ↔
      v.Valid ∧ ∃ primary secondary, v.primary.encode = .ok primary ∧
        v.secondary.encode = .ok secondary ∧
        64 + primary.length + (secondary.length + 2296) < 2 ^ 64 ∧
        bytes = v.assemble primary secondary := by
  have htail : ∀ secondary : List UInt8,
      [secondary, v.states.block, v.lapics.1.regs.1, v.lapics.2.regs.1].flatten =
        secondary ++ v.tail := fun secondary => by simp [tail]
  simp only [encode, bind_eq_ok, rejectIf_eq_ok, not_not, mapError_eq_ok, Frame.join_eq_ok, htail,
    List.length_append, length_tail]
  constructor
  · rintro ⟨_, hids, _, hmp, _, hpad, primary, hprimary, secondary, hsecondary, hlt, rfl⟩
    exact ⟨⟨⟨hids, hmp⟩, hpad⟩, primary, secondary, hprimary, hsecondary, hlt, rfl⟩
  · rintro ⟨⟨⟨hids, hmp⟩, hpad⟩, primary, secondary, hprimary, hsecondary, hlt, rfl⟩
    exact ⟨(), hids, (), hmp, (), hpad, primary, hprimary, secondary, hsecondary, hlt, rfl⟩

theorem decode_eq_ok :
    decode bytes = .ok v ↔
      v.Valid ∧ ∃ primary secondary, VersionedPageVcpuCheckpointV1.decode primary = .ok v.primary ∧
        VersionedVcpuStateSnapshotV1.decode secondary = .ok v.secondary ∧
        64 + primary.length + (secondary.length + 2296) < 2 ^ 64 ∧
        bytes = v.assemble primary secondary := by
  simp only [decode, bind_eq_ok, Prod.exists, mapError_eq_ok, rejectIf_eq_ok, not_not, pure,
    Except.pure, Except.ok.injEq]
  constructor
  · rintro ⟨header, primary, rest, hsplit, _, hprimary, _, hsecondary, _, hpad, rfl⟩
    obtain ⟨-, ⟨hidentity, -⟩, hrest, hlt, rfl⟩ := Frame.split_eq_ok.mp hsplit
    have hrestLen : rest.length = header.secondaryLen.toNat + 2296 := hrest
    have hsecondaryLen : (rest.take header.secondaryLen.toNat).length =
        header.secondaryLen.toNat := by
      rw [List.length_take]
      omega
    have htailLen : (rest.drop header.secondaryLen.toNat).length = 2296 := by
      rw [List.length_drop]
      omega
    have htail := (tail_iff htailLen).mp ⟨rfl, rfl, rfl⟩
    refine ⟨⟨hidentity, hpad⟩, primary, _, hprimary, hsecondary, ?_, ?_⟩
    · rw [hsecondaryLen, ← hrestLen]
      exact hlt
    · have hheader : header = ⟨UInt64.ofNat (rest.take header.secondaryLen.toNat).length,
          header.vcpuIds, header.mpStates⟩ := by
        rw [hsecondaryLen, UInt64.ofNat_toNat]
      have hparts := (List.take_append_drop header.secondaryLen.toNat rest).symm
      rw [htail] at hparts
      exact congrArg₂ (twoVcpuFullControllerFrame.assemble · primary ·) hheader hparts
  · rintro ⟨hvalid, primary, secondary, hprimary, hsecondary, hlt, rfl⟩
    have hsecondaryLen := toNat_secondaryLen hlt
    have hsplit := split_assemble hvalid (VersionedPageVcpuCheckpointV1.ne_nil_of_decode hprimary)
      (VersionedVcpuStateSnapshotV1.ne_nil_of_decode hsecondary) hlt
    obtain ⟨hstates, hlapic, hlapic'⟩ := (tail_iff length_tail).mpr (rfl : v.tail = _)
    refine ⟨_, primary, _, hsplit, v.primary, hprimary, v.secondary, ?_, (), ?_, ?_⟩
    · rw [hsecondaryLen, List.take_left]
      exact hsecondary
    · rw [hsecondaryLen, List.drop_left, hstates]
      exact hvalid.pad
    · rw [hsecondaryLen, List.drop_left, hstates, hlapic, hlapic']
      rfl

end VersionedTwoVcpuFullControllerCheckpointV1

end MiniHypervisor.Schema
