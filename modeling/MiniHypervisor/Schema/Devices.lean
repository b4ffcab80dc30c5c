import MiniHypervisor.Bytes.Codec
import MiniHypervisor.Schema.Controllers
import MiniHypervisor.VirtioBlk.Checkpoint

/-!
# The device schemas

The versioned byte formats of a controller checkpoint together with virtio-blk devices: one vCPU
with one device (`src/state_snapshot/page_set/full_controller_virtio_blk_schema_v1.rs`), one vCPU
with two devices (`src/state_snapshot/page_set/full_controller_two_virtio_blk_schema_v1.rs`) and two
vCPUs with two devices
(`src/state_snapshot/page_set/two_vcpu_two_device_transaction_schema_v1.rs`, lines 18-567).  The two
formats with two devices differ only in their magic and in the controller checkpoint they hold.
-/

namespace MiniHypervisor.Schema

open Bytes Checkpoint Control Kvm VirtioBlk

/-! ### The record of a device -/

inductive VersionedFullControllerVirtioBlkCheckpointError where
  | invalidMagic
  | unsupportedVersion (version : UInt16)
  | unsupportedArchitecture (architecture : UInt16)
  | invalidHeaderLength (length : UInt32)
  | invalidTotalLength (declared : UInt64) (actual : ℕ)
  | invalidControllerLength (length : UInt64)
  | invalidDeviceLength (length : UInt64)
  | nonZeroFlags (flags : UInt32)
  | nonZeroReserved (value : UInt32)
  | lengthOverflow
  | invalidQueueEnabled (value : UInt8)
  | invalidSectorSize (size : UInt32)
  | invalidCapacity (capacity : UInt64)
  | invalidBackingLength (length : UInt32)
  | nonZeroDeviceReserved (value : UInt32)
  | barMismatch (checkpoint device : UInt64)
  | controller (error : VersionedFullControllerCheckpointError)
  | device (error : VirtioBlkCheckpointStateError)
  deriving DecidableEq, Repr

def virtioBlkStateLen : ℕ := 80 + virtioBlkBackingSize

/-- The fields of the record, with the sector size, the capacity in sectors and the backing size of
every device. -/
def deviceFields (state : VirtioBlkCheckpointState) : List (List UInt8) :=
  [u64Bytes state.bar0, u32Bytes state.deviceFeatureSelect, u32Bytes state.driverFeatureSelect,
    u64Bytes state.driverFeatures, [state.status], [if state.queueEnabled then 1 else 0],
    [state.isrStatus], [0], u16Bytes state.queueSelect, u16Bytes state.queueSize,
    u16Bytes state.lastAvailIdx, u16Bytes state.lastUsedIdx, u32Bytes 512, u64Bytes 4,
    u64Bytes state.queueDesc, u64Bytes state.queueDriver, u64Bytes state.queueDevice,
    u32Bytes 2048, u32Bytes 0, state.backing.1]

/-- `encode_device_state` (lines 261-289). -/
def encodeDeviceState (state : VirtioBlkCheckpointState) :
    Except VersionedFullControllerVirtioBlkCheckpointError (List UInt8) := do
  state.validate.mapError .device
  return (deviceFields state).flatten

/-- `decode_device_state` (lines 291-371). -/
def decodeDeviceState (bytes : List UInt8) :
    Except VersionedFullControllerVirtioBlkCheckpointError VirtioBlkCheckpointState := do
  rejectIf (bytes.length ≠ virtioBlkStateLen) (.invalidDeviceLength (UInt64.ofNat bytes.length))
  let queueEnabled := bytes.getD 25 0
  rejectIf (queueEnabled ≠ 0 ∧ queueEnabled ≠ 1) (.invalidQueueEnabled queueEnabled)
  rejectIf (bytes.getD 27 0 ≠ 0) (.nonZeroDeviceReserved (bytes.getD 27 0).toUInt32)
  rejectIf (u32At bytes 36 ≠ 512) (.invalidSectorSize (u32At bytes 36))
  rejectIf (u64At bytes 40 ≠ 4) (.invalidCapacity (u64At bytes 40))
  rejectIf (u32At bytes 72 ≠ 2048) (.invalidBackingLength (u32At bytes 72))
  rejectIf (u32At bytes 76 ≠ 0) (.nonZeroDeviceReserved (u32At bytes 76))
  let state : VirtioBlkCheckpointState := {
    bar0 := u64At bytes 0
    deviceFeatureSelect := u32At bytes 8
    driverFeatureSelect := u32At bytes 12
    driverFeatures := u64At bytes 16
    status := bytes.getD 24 0
    queueEnabled := queueEnabled == 1
    isrStatus := bytes.getD 26 0
    queueSelect := u16At bytes 28
    queueSize := u16At bytes 30
    lastAvailIdx := u16At bytes 32
    lastUsedIdx := u16At bytes 34
    queueDesc := u64At bytes 48
    queueDriver := u64At bytes 56
    queueDevice := u64At bytes 64
    backing := .at_ bytes 80 _ }
  state.validate.mapError .device
  return state

section DeviceRecord

variable {bytes : List UInt8} {state : VirtioBlkCheckpointState}

theorem length_deviceFields : (deviceFields state).flatten.length = virtioBlkStateLen := by
  have hbacking : state.backing.1.length = 2048 := state.backing.2
  simp only [deviceFields, List.flatten_cons, List.flatten_nil, List.length_append,
    List.length_singleton, List.length_nil, length_u16Bytes, length_u32Bytes, length_u64Bytes,
    hbacking]
  rfl

/-- A byte is the one stored for a flag exactly when it is 0 or 1 and stands for the flag. -/
theorem flagByte_iff {b : UInt8} {flag : Bool} :
    b = (if flag then 1 else 0) ↔ ¬ (b ≠ 0 ∧ b ≠ 1) ∧ (b == 1) = flag := by
  cases flag <;> simp <;> grind

theorem encodeDeviceState_eq_ok :
    encodeDeviceState state = .ok bytes ↔
      state.validate = .ok () ∧ bytes = (deviceFields state).flatten := by
  simp only [encodeDeviceState, bind_eq_ok, mapError_eq_ok, pure, Except.pure, Except.ok.injEq]
  constructor
  · rintro ⟨_, hvalid, rfl⟩
    exact ⟨hvalid, rfl⟩
  · rintro ⟨hvalid, rfl⟩
    exact ⟨(), hvalid, rfl⟩

theorem eq_flatten_deviceFields_iff (h : bytes.length = 2128) :
    bytes = (deviceFields state).flatten ↔
      u64At bytes 0 = state.bar0 ∧ u32At bytes 8 = state.deviceFeatureSelect ∧
        u32At bytes 12 = state.driverFeatureSelect ∧ u64At bytes 16 = state.driverFeatures ∧
        bytes.getD 24 0 = state.status ∧
        bytes.getD 25 0 = (if state.queueEnabled then 1 else 0) ∧
        bytes.getD 26 0 = state.isrStatus ∧ bytes.getD 27 0 = 0 ∧
        u16At bytes 28 = state.queueSelect ∧ u16At bytes 30 = state.queueSize ∧
        u16At bytes 32 = state.lastAvailIdx ∧ u16At bytes 34 = state.lastUsedIdx ∧
        u32At bytes 36 = 512 ∧ u64At bytes 40 = 4 ∧ u64At bytes 48 = state.queueDesc ∧
        u64At bytes 56 = state.queueDriver ∧ u64At bytes 64 = state.queueDevice ∧
        u32At bytes 72 = 2048 ∧ u32At bytes 76 = 0 ∧
        FixedBytes.at_ bytes 80 _ = state.backing := by
  have hsize : virtioBlkBackingSize = 2048 := rfl
  have hslice : slice bytes 80 virtioBlkBackingSize = slice bytes 80 2048 := rfl
  have hbacking : state.backing.1.length = 2048 := state.backing.2
  rw [← tiles_iff]
  simp only [deviceFields, Tiles, hbacking, length_u16Bytes, length_u32Bytes, length_u64Bytes,
    List.length_singleton, Nat.zero_add, Nat.reduceAdd, h, and_true]
  rw [FixedBytes.at_eq_iff (by omega)]
  rw [slice_eq_u64Bytes_iff (by omega), slice_eq_u32Bytes_iff (by omega),
    slice_eq_u32Bytes_iff (by omega), slice_eq_u64Bytes_iff (by omega),
    slice_eq_singleton_iff (by omega), slice_eq_singleton_iff (by omega),
    slice_eq_singleton_iff (by omega), slice_eq_singleton_iff (by omega),
    slice_eq_u16Bytes_iff (by omega), slice_eq_u16Bytes_iff (by omega),
    slice_eq_u16Bytes_iff (by omega), slice_eq_u16Bytes_iff (by omega),
    slice_eq_u32Bytes_iff (by omega), slice_eq_u64Bytes_iff (by omega),
    slice_eq_u64Bytes_iff (by omega), slice_eq_u64Bytes_iff (by omega),
    slice_eq_u64Bytes_iff (by omega), slice_eq_u32Bytes_iff (by omega),
    slice_eq_u32Bytes_iff (by omega), hslice]

/-- **Accepted records.** A record is accepted exactly when it is the record of a valid state. -/
theorem decodeDeviceState_eq_ok :
    decodeDeviceState bytes = .ok state ↔
      state.validate = .ok () ∧ bytes = (deviceFields state).flatten := by
  simp only [decodeDeviceState, bind_eq_ok, rejectIf_eq_ok, not_not, mapError_eq_ok, pure,
    Except.pure, Except.ok.injEq]
  constructor
  · rintro ⟨_, hlen, _, hflag, _, hzero, _, hsector, _, hcapacity, _, hbacking, _, hreserved, _,
      hvalid, rfl⟩
    exact ⟨hvalid, (eq_flatten_deviceFields_iff hlen).mpr ⟨rfl, rfl, rfl, rfl, rfl,
      flagByte_iff.mpr ⟨hflag, rfl⟩, rfl, hzero, rfl, rfl, rfl, rfl, hsector, hcapacity, rfl, rfl,
      rfl, hbacking, hreserved, rfl⟩⟩
  · rintro ⟨hvalid, hbytes⟩
    have hlen : bytes.length = 2128 := by rw [hbytes, length_deviceFields]; rfl
    obtain ⟨hbar, hdfs, hdrfs, hfeatures, hstatus, hflag, hisr, hzero, hsel, hsize, havail, hused,
      hsector, hcapacity, hdesc, hdriver, hdevice, hbacking, hreserved, hdata⟩ :=
      (eq_flatten_deviceFields_iff hlen).mp hbytes
    obtain ⟨hflag, henabled⟩ := flagByte_iff.mp hflag
    rw [hbar, hdfs, hdrfs, hfeatures, hstatus, henabled, hisr, hsel, hsize, havail, hused, hdesc,
      hdriver, hdevice, hdata]
    exact ⟨(), hlen, (), hflag, (), hzero, (), hsector, (), hcapacity, (), hbacking, (), hreserved,
      (), hvalid, rfl⟩

end DeviceRecord

/-- The codec of the record. -/
def deviceCodec : Codec VersionedFullControllerVirtioBlkCheckpointError VirtioBlkCheckpointState :=
  ⟨encodeDeviceState, decodeDeviceState⟩

theorem deviceCodec_canonical (bytes : List UInt8) : deviceCodec.Canonical bytes := fun _ hdecode =>
  encodeDeviceState_eq_ok.mpr (decodeDeviceState_eq_ok.mp hdecode)

/-! ### One vCPU and one device -/

structure VersionedFullControllerVirtioBlkCheckpointV1 where
  controller : VersionedFullControllerCheckpointV1
  device : VirtioBlkCheckpointState
  deriving DecidableEq, Repr

/-- The magic `MHVFCVB`, version, architecture and header length of the schema. -/
def fullControllerVirtioBlkEnvelope : Envelope where
  magic := asciiBytes ['M', 'H', 'V', 'F', 'C', 'V', 'B', '\x00']
  version := 1
  architecture := 1
  headerLen := 48
  magic_length := rfl
  opening_le := Nat.le_of_ble_eq_true rfl

/-- The header of the schema: the lengths of both parts, flags and a reserved word. -/
def fullControllerVirtioBlkFrame : Frame VersionedFullControllerVirtioBlkCheckpointError UInt64 :=
  .twoPart fullControllerVirtioBlkEnvelope rfl {
    opening := {
      invalidMagic := .invalidMagic
      unsupportedVersion := .unsupportedVersion
      unsupportedArchitecture := .unsupportedArchitecture
      invalidHeaderLength := .invalidHeaderLength
      invalidTotalLength := .invalidTotalLength }
    invalidFirstLength := .invalidControllerLength
    invalidSecondLength := .invalidDeviceLength
    nonZeroFlags := .nonZeroFlags
    nonZeroReserved := .nonZeroReserved
    lengthOverflow := .lengthOverflow } (· = UInt64.ofNat virtioBlkStateLen)

/-- The codec of the one-vCPU controller checkpoint. -/
def fullControllerCodec :
    Codec VersionedFullControllerCheckpointError VersionedFullControllerCheckpointV1 :=
  ⟨VersionedFullControllerCheckpointV1.encode, VersionedFullControllerCheckpointV1.decode⟩

namespace VersionedFullControllerVirtioBlkCheckpointV1

/-- The parts of the container. -/
def parts : Codec VersionedFullControllerVirtioBlkCheckpointError
    (VersionedFullControllerCheckpointV1 × VirtioBlkCheckpointState) :=
  fullControllerVirtioBlkFrame.codec Frame.lengthWord (fullControllerCodec.mapError .controller)
    deviceCodec

/-- `VersionedFullControllerVirtioBlkCheckpointV1::from_checkpoint` (lines 92-104). -/
def fromCheckpoint (checkpoint : BoundedFullControllerVirtioBlkCheckpoint) :
    Except VersionedFullControllerVirtioBlkCheckpointError
      VersionedFullControllerVirtioBlkCheckpointV1 := do
  let controller ← (VersionedFullControllerCheckpointV1.fromCheckpoint
    checkpoint.controller).mapError .controller
  let device ← (VirtioBlkCheckpointState.capture checkpoint.device).mapError .device
  rejectIf (checkpoint.bar0 ≠ device.bar0) (.barMismatch checkpoint.bar0 device.bar0)
  return { controller, device }

variable (v : VersionedFullControllerVirtioBlkCheckpointV1)

/-- `VersionedFullControllerVirtioBlkCheckpointV1::encode` (lines 131-154). -/
def encode : Except VersionedFullControllerVirtioBlkCheckpointError (List UInt8) := do
  v.device.validate.mapError .device
  parts.encode (v.controller, v.device)

/-- `VersionedFullControllerVirtioBlkCheckpointV1::decode` (lines 156-238). -/
def decode (bytes : List UInt8) :
    Except VersionedFullControllerVirtioBlkCheckpointError
      VersionedFullControllerVirtioBlkCheckpointV1 := do
  let ⟨controller, device⟩ ← parts.decode bytes
  return { controller, device }

/-- `VersionedFullControllerVirtioBlkCheckpointV1::materialize` (lines 240-258). -/
def materialize (hostMsrs : HostMsrIndexList) :
    Except VersionedFullControllerVirtioBlkCheckpointError
      BoundedFullControllerVirtioBlkCheckpoint := do
  let controller ← (v.controller.materialize hostMsrs).mapError .controller
  let device ← v.device.materialize.mapError .device
  rejectIf (device.bar0 ≠ v.device.bar0) (.barMismatch v.device.bar0 device.bar0)
  return {
    controller
    bar0 := v.device.bar0
    device }

/-- The bytes of a value for the bytes of its controller checkpoint. -/
def assemble (controller : List UInt8) : List UInt8 :=
  fullControllerVirtioBlkFrame.assemble (Frame.lengthWord (deviceFields v.device).flatten)
    controller (deviceFields v.device).flatten

variable {v} {bytes controller : List UInt8}

theorem length_assemble : (v.assemble controller).length = 48 + controller.length + 2128 := by
  rw [assemble, Frame.length_assemble, length_deviceFields]
  rfl

theorem decode_eq_ok :
    decode bytes = .ok v ↔ parts.decode bytes = .ok (v.controller, v.device) :=
  bind_pure_eq_ok (f := fun p => mk p.1 p.2) (g := fun v => (v.controller, v.device)) (fun _ => rfl)
    fun _ => rfl

/-- The string of a valid value is accepted, and its first part is the controller checkpoint. -/
theorem decode_assemble (hne : controller ≠ [])
    (hcontroller : VersionedFullControllerCheckpointV1.decode controller = .ok v.controller)
    (hvalid : v.device.validate = .ok ()) (hlt : 48 + controller.length + 2128 < 2 ^ 64) :
    decode (v.assemble controller) = .ok v ∧
      fullControllerVirtioBlkFrame.firstPart (v.assemble controller) = controller := by
  have haccepts : Frame.lengthWord (deviceFields v.device).flatten =
      UInt64.ofNat virtioBlkStateLen := by
    rw [Frame.lengthWord, length_deviceFields]
  have hsize : 48 + controller.length + (deviceFields v.device).flatten.length < 2 ^ 64 := by
    rw [length_deviceFields]
    exact hlt
  have hdevice : deviceCodec.decode (deviceFields v.device).flatten = .ok v.device :=
    decodeDeviceState_eq_ok.mpr ⟨hvalid, rfl⟩
  refine And.imp_left decode_eq_ok.mpr ?_
  exact Frame.twoPart_decode_assemble hne (mapError_eq_ok.mpr hcontroller) hdevice haccepts hsize

end VersionedFullControllerVirtioBlkCheckpointV1

/-- The codec of the checkpoint of one device. -/
def fullControllerVirtioBlkCodec : Codec VersionedFullControllerVirtioBlkCheckpointError
    VersionedFullControllerVirtioBlkCheckpointV1 :=
  ⟨VersionedFullControllerVirtioBlkCheckpointV1.encode,
    VersionedFullControllerVirtioBlkCheckpointV1.decode⟩

theorem fullControllerVirtioBlkCodec_canonical {bytes : List UInt8}
    (h : fullControllerCodec.Canonical (fullControllerVirtioBlkFrame.firstPart bytes)) :
    fullControllerVirtioBlkCodec.Canonical bytes := by
  intro v hdecode
  have hparts := VersionedFullControllerVirtioBlkCheckpointV1.decode_eq_ok.mp hdecode
  obtain ⟨-, rest, -, hdevice, -⟩ := (Frame.codec_decode_eq_ok Frame.twoPart_describe).mp hparts
  have hvalid : v.device.validate = .ok () := (decodeDeviceState_eq_ok.mp hdevice).1
  have hcanonical : VersionedFullControllerVirtioBlkCheckpointV1.parts.Canonical bytes :=
    Frame.codec_canonical Frame.twoPart_describe (Codec.canonical_mapError_iff.mpr h)
      fun rest _ => deviceCodec_canonical rest
  exact bind_eq_ok.mpr ⟨(), mapError_eq_ok.mpr hvalid, hcanonical _ hparts⟩

/-! ### Two devices -/

/-- `VersionedFullControllerTwoVirtioBlkCheckpointError` and
`VersionedTwoVcpuTwoDeviceCheckpointError`, which differ in the errors of the controller. -/
inductive TwoDeviceCheckpointError (κ : Type) where
  | invalidMagic
  | unsupportedVersion (version : UInt16)
  | unsupportedArchitecture (architecture : UInt16)
  | invalidHeaderLength (length : UInt32)
  | invalidTotalLength (declared : UInt64) (actual : ℕ)
  | invalidControllerLength (length : UInt64)
  | invalidDeviceLength (length : UInt64)
  | invalidDeviceCount (count : UInt32)
  | nonZeroFlags (flags : UInt32)
  | nonZeroReserved (value : UInt64)
  | lengthOverflow
  | nonCanonicalBars (first second : UInt64)
  | controller (error : κ)
  | device (error : VersionedFullControllerVirtioBlkCheckpointError)
  deriving DecidableEq, Repr

section TwoDeviceFrame

variable {κ : Type}

/-- The checks of the device count, the flags and the reserved word. -/
def checkTwoDeviceWords (bytes : List UInt8) : Except (TwoDeviceCheckpointError κ) Unit := do
  rejectIf (u32At bytes 40 ≠ 2) (.invalidDeviceCount (u32At bytes 40))
  rejectIf (u32At bytes 44 ≠ 0) (.nonZeroFlags (u32At bytes 44))
  rejectIf (u64At bytes 48 ≠ 0) (.nonZeroReserved (u64At bytes 48))

/-- The check of the length of a device. -/
def checkDeviceLen (bytes : List UInt8) : Except (TwoDeviceCheckpointError κ) Unit :=
  rejectIf (u64At bytes 32 ≠ UInt64.ofNat virtioBlkStateLen) (.invalidDeviceLength (u64At bytes 32))

/-- The words after the length of the controller checkpoint. -/
def twoDeviceWords : List UInt8 :=
  u64Bytes (UInt64.ofNat virtioBlkStateLen) ++ (u32Bytes 2 ++ (u32Bytes 0 ++ u64Bytes 0))

theorem length_twoDeviceWords : twoDeviceWords.length = 24 := by
  simp [twoDeviceWords]

theorem twoDeviceWords_iff {bytes : List UInt8} (h : 56 ≤ bytes.length) :
    checkTwoDeviceWords (κ := κ) bytes = .ok () ∧ checkDeviceLen (κ := κ) bytes = .ok () ↔
      slice bytes 32 twoDeviceWords.length = twoDeviceWords := by
  rw [length_twoDeviceWords, twoDeviceWords]
  iterate 3 rw [slice_eq_append_iff (by simp) (by simp; omega)]
  simp only [checkTwoDeviceWords, checkDeviceLen, length_u64Bytes, length_u32Bytes, Nat.reduceAdd,
    rejectIf_bind_eq_ok, rejectIf_eq_ok, not_not]
  rw [slice_eq_u64Bytes_iff (by omega), slice_eq_u32Bytes_iff (by omega),
    slice_eq_u32Bytes_iff (by omega), slice_eq_u64Bytes_iff (by omega)]
  exact and_comm

theorem twoDeviceFrame_words_iff {envelope : Envelope} (hheader : envelope.headerLen = 56)
    (bytes : List UInt8) (d : Unit) (h : envelope.headerLen ≤ bytes.length) :
    checkTwoDeviceWords (κ := κ) bytes = .ok () ∧ checkDeviceLen (κ := κ) bytes = .ok () ∧ () = d ↔
      True ∧ slice bytes 32 twoDeviceWords.length = twoDeviceWords := by
  rw [true_and, ← twoDeviceWords_iff (κ := κ) (hheader ▸ h)]
  simp only [and_true]

theorem twoDeviceFrame_length_words {envelope : Envelope} (hheader : envelope.headerLen = 56)
    (_ : Unit) : 32 + twoDeviceWords.length = envelope.headerLen := by
  rw [length_twoDeviceWords, hheader]

end TwoDeviceFrame

/-- The header of a container of two devices. -/
def twoDeviceFrame (κ : Type) (envelope : Envelope) (hheader : envelope.headerLen = 56) :
    Frame (TwoDeviceCheckpointError κ) Unit where
  envelope := envelope
  errors := {
    invalidMagic := .invalidMagic
    unsupportedVersion := .unsupportedVersion
    unsupportedArchitecture := .unsupportedArchitecture
    invalidHeaderLength := .invalidHeaderLength
    invalidTotalLength := .invalidTotalLength }
  invalidFirstLength := .invalidControllerLength
  lengthOverflow := .lengthOverflow
  read := fun _ => ()
  checkBefore := checkTwoDeviceWords
  checkAfter := checkDeviceLen
  words := fun _ => twoDeviceWords
  Valid := fun _ => True
  restLens := fun _ => [virtioBlkStateLen, virtioBlkStateLen]
  length_words := twoDeviceFrame_length_words hheader
  words_iff := twoDeviceFrame_words_iff hheader

/-- A checkpoint of a controller and two devices. -/
structure TwoDeviceCheckpoint (α : Type) where
  controller : α
  devices : VirtioBlkCheckpointState × VirtioBlkCheckpointState
  deriving DecidableEq, Repr

namespace TwoDeviceCheckpoint

variable {κ α γ : Type}

/-- `validate_two_device_bars` (lines 333-348) and `validate_versioned_two_device_bars`
(lines 556-567). -/
def validateTwoDeviceBars (bars : UInt64 × UInt64) : Except (TwoDeviceCheckpointError κ) Unit :=
  rejectIf (bars.2 ≤ bars.1 ∨ bars.1.toNat % virtioBlkBarSize ≠ 0 ∨
    bars.2.toNat % virtioBlkBarSize ≠ 0) (.nonCanonicalBars bars.1 bars.2)

def mapDeviceStateError (error : VirtioBlkCheckpointStateError) : TwoDeviceCheckpointError κ :=
  .device (.device error)

/-- `from_checkpoint`.  The BARs differ once they are validated, so `device` finds each device under
its own. -/
def fromCheckpointWith (fromCheckpoint : γ → Except κ α)
    (checkpoint : BoundedTwoDeviceCheckpoint γ) :
    Except (TwoDeviceCheckpointError κ) (TwoDeviceCheckpoint α) := do
  let controller ← (fromCheckpoint checkpoint.controller).mapError .controller
  validateTwoDeviceBars checkpoint.deviceBars
  let first ← (VirtioBlkCheckpointState.capture checkpoint.devices.1.2).mapError mapDeviceStateError
  let second ←
    (VirtioBlkCheckpointState.capture checkpoint.devices.2.2).mapError mapDeviceStateError
  validateTwoDeviceBars (first.bar0, second.bar0)
  return {
    controller
    devices := (first, second) }

/-- The parts of the container. -/
def parts (frame : Frame (TwoDeviceCheckpointError κ) Unit) (controller : Codec κ α) :
    Codec (TwoDeviceCheckpointError κ)
      (α × VirtioBlkCheckpointState × VirtioBlkCheckpointState) :=
  frame.codec (fun _ => ()) (controller.mapError .controller)
    ((Codec.append virtioBlkStateLen deviceCodec deviceCodec).mapError .device)

variable (v : TwoDeviceCheckpoint α)

def deviceBars : UInt64 × UInt64 := (v.devices.1.bar0, v.devices.2.bar0)

/-- `encode`. -/
def encodeWith (frame : Frame (TwoDeviceCheckpointError κ) Unit) (controller : Codec κ α) :
    Except (TwoDeviceCheckpointError κ) (List UInt8) := do
  validateTwoDeviceBars v.deviceBars
  (parts frame controller).encode (v.controller, v.devices)

/-- `decode`. -/
def decodeWith (frame : Frame (TwoDeviceCheckpointError κ) Unit) (controller : Codec κ α)
    (bytes : List UInt8) : Except (TwoDeviceCheckpointError κ) (TwoDeviceCheckpoint α) := do
  let ⟨controller, devices⟩ ← (parts frame controller).decode bytes
  validateTwoDeviceBars (devices.1.bar0, devices.2.bar0)
  return { controller, devices }

/-- `materialize`. -/
def materializeWith (materialize : α → Except κ γ) :
    Except (TwoDeviceCheckpointError κ) (BoundedTwoDeviceCheckpoint γ) := do
  validateTwoDeviceBars v.deviceBars
  let controller ← (materialize v.controller).mapError .controller
  let first ← v.devices.1.materialize.mapError mapDeviceStateError
  let second ← v.devices.2.materialize.mapError mapDeviceStateError
  return {
    controller
    devices := ((v.devices.1.bar0, first), (v.devices.2.bar0, second)) }

/-- The codec of a container of two devices. -/
def codecWith (frame : Frame (TwoDeviceCheckpointError κ) Unit) (controller : Codec κ α) :
    Codec (TwoDeviceCheckpointError κ) (TwoDeviceCheckpoint α) :=
  ⟨fun v => v.encodeWith frame controller, decodeWith frame controller⟩

variable {v} {frame : Frame (TwoDeviceCheckpointError κ) Unit} {controller : Codec κ α}
  {bytes : List UInt8}

theorem encodeWith_eq_ok :
    v.encodeWith frame controller = .ok bytes ↔
      validateTwoDeviceBars (κ := κ) v.deviceBars = .ok () ∧
        (parts frame controller).encode (v.controller, v.devices) = .ok bytes := by
  rw [encodeWith, bind_eq_ok]
  constructor
  · rintro ⟨_, hbars, hparts⟩
    exact ⟨hbars, hparts⟩
  · rintro ⟨hbars, hparts⟩
    exact ⟨(), hbars, hparts⟩

theorem decodeWith_eq_ok :
    decodeWith frame controller bytes = .ok v ↔
      validateTwoDeviceBars (κ := κ) v.deviceBars = .ok () ∧
        (parts frame controller).decode bytes = .ok (v.controller, v.devices) := by
  simp only [decodeWith, bind_eq_ok, pure, Except.pure, Except.ok.injEq, Prod.exists]
  constructor
  · rintro ⟨_, _, _, hparts, _, hbars, rfl⟩
    exact ⟨hbars, hparts⟩
  · rintro ⟨hbars, hparts⟩
    exact ⟨_, _, _, hparts, (), hbars, rfl⟩

/-- **Two devices.** A container of two devices is canonical where the controller checkpoint in it
is. -/
theorem canonical (h : controller.Canonical (frame.firstPart bytes)) :
    (codecWith frame controller).Canonical bytes := by
  intro v hdecode
  obtain ⟨hbars, hparts⟩ := decodeWith_eq_ok.mp hdecode
  have hcanonical : (parts frame controller).Canonical bytes := by
    refine Frame.codec_canonical (fun _ _ _ _ => rfl) (Codec.canonical_mapError_iff.mpr h) ?_
    intro rest _
    exact Codec.canonical_mapError_iff.mpr
      (Codec.canonical_append (deviceCodec_canonical _) (deviceCodec_canonical _))
  exact encodeWith_eq_ok.mpr ⟨hbars, hcanonical _ hparts⟩

variable (v) in
/-- The records of both devices. -/
def deviceRecords : List UInt8 :=
  (deviceFields v.devices.1).flatten ++ (deviceFields v.devices.2).flatten

variable (v) in
/-- The bytes of a value for the bytes of its controller checkpoint. -/
def assemble (frame : Frame (TwoDeviceCheckpointError κ) Unit) (controllerBytes : List UInt8) :
    List UInt8 :=
  frame.assemble () controllerBytes v.deviceRecords

theorem length_deviceRecords : v.deviceRecords.length = 4256 := by
  rw [deviceRecords, List.length_append, length_deviceFields, length_deviceFields]
  rfl

section Assemble

variable {envelope : Envelope} {hheader : envelope.headerLen = 56} {controllerBytes : List UInt8}

theorem length_assemble :
    (v.assemble (twoDeviceFrame κ envelope hheader) controllerBytes).length =
      56 + controllerBytes.length + 4256 := by
  rw [assemble, Frame.length_assemble, length_deviceRecords]
  exact congrArg (· + controllerBytes.length + 4256) hheader

/-- The string of a valid value is accepted, and its first part is the controller checkpoint. -/
theorem decode_assemble (hne : controllerBytes ≠ [])
    (hcontroller : controller.decode controllerBytes = .ok v.controller)
    (hbars : validateTwoDeviceBars (κ := κ) v.deviceBars = .ok ())
    (hfirst : v.devices.1.validate = .ok ()) (hsecond : v.devices.2.validate = .ok ())
    (hlt : 56 + controllerBytes.length + 4256 < 2 ^ 64) :
    decodeWith (twoDeviceFrame κ envelope hheader) controller
        (v.assemble (twoDeviceFrame κ envelope hheader) controllerBytes) = .ok v ∧
      (twoDeviceFrame κ envelope hheader).firstPart
        (v.assemble (twoDeviceFrame κ envelope hheader) controllerBytes) = controllerBytes := by
  have hfits : (twoDeviceFrame κ envelope hheader).Fits (fun _ => ()) v.deviceRecords :=
    ⟨trivial, length_deviceRecords⟩
  have hsize : (twoDeviceFrame κ envelope hheader).envelope.headerLen + controllerBytes.length +
      v.deviceRecords.length < 2 ^ 64 := by
    rw [length_deviceRecords]
    exact (congrArg (· + controllerBytes.length + 4256) hheader).trans_lt hlt
  have hlen : (deviceFields v.devices.1).flatten.length = virtioBlkStateLen := length_deviceFields
  have hdevices : (Codec.append virtioBlkStateLen deviceCodec deviceCodec).decode v.deviceRecords =
      .ok v.devices := by
    refine Codec.append_decode_eq_ok.mpr ⟨?_, ?_⟩
    · rw [deviceRecords, List.take_left' hlen]
      exact decodeDeviceState_eq_ok.mpr ⟨hfirst, rfl⟩
    · rw [deviceRecords, List.drop_left' hlen]
      exact decodeDeviceState_eq_ok.mpr ⟨hsecond, rfl⟩
  refine ⟨decodeWith_eq_ok.mpr ⟨hbars, (Frame.codec_decode_eq_ok fun _ _ _ _ => rfl).mpr ?_⟩,
    Frame.firstPart_assemble hne hfits hsize⟩
  exact ⟨controllerBytes, _, mapError_eq_ok.mpr hcontroller, mapError_eq_ok.mpr hdevices, hne,
    hfits, hsize, rfl⟩

end Assemble

end TwoDeviceCheckpoint

/-! ### One vCPU and two devices -/

abbrev VersionedFullControllerTwoVirtioBlkCheckpointError : Type :=
  TwoDeviceCheckpointError VersionedFullControllerCheckpointError

abbrev VersionedFullControllerTwoVirtioBlkCheckpointV1 : Type :=
  TwoDeviceCheckpoint VersionedFullControllerCheckpointV1

/-- The magic `MHVFC2B`, version, architecture and header length of the schema. -/
def fullControllerTwoVirtioBlkEnvelope : Envelope where
  magic := asciiBytes ['M', 'H', 'V', 'F', 'C', '2', 'B', '\x00']
  version := 1
  architecture := 1
  headerLen := 56
  magic_length := rfl
  opening_le := Nat.le_of_ble_eq_true rfl

/-- The header of the schema. -/
def fullControllerTwoVirtioBlkFrame :
    Frame VersionedFullControllerTwoVirtioBlkCheckpointError Unit :=
  twoDeviceFrame _ fullControllerTwoVirtioBlkEnvelope rfl

namespace VersionedFullControllerTwoVirtioBlkCheckpointV1

/-- `VersionedFullControllerTwoVirtioBlkCheckpointV1::from_checkpoint` (lines 106-129). -/
def fromCheckpoint (checkpoint : BoundedFullControllerTwoVirtioBlkCheckpoint) :
    Except VersionedFullControllerTwoVirtioBlkCheckpointError
      VersionedFullControllerTwoVirtioBlkCheckpointV1 :=
  TwoDeviceCheckpoint.fromCheckpointWith VersionedFullControllerCheckpointV1.fromCheckpoint
    checkpoint

/-- `VersionedFullControllerTwoVirtioBlkCheckpointV1::encode` (lines 164-193). -/
def encode (v : VersionedFullControllerTwoVirtioBlkCheckpointV1) :
    Except VersionedFullControllerTwoVirtioBlkCheckpointError (List UInt8) :=
  v.encodeWith fullControllerTwoVirtioBlkFrame fullControllerCodec

/-- `VersionedFullControllerTwoVirtioBlkCheckpointV1::decode` (lines 195-309). -/
def decode (bytes : List UInt8) :
    Except VersionedFullControllerTwoVirtioBlkCheckpointError
      VersionedFullControllerTwoVirtioBlkCheckpointV1 :=
  TwoDeviceCheckpoint.decodeWith fullControllerTwoVirtioBlkFrame fullControllerCodec bytes

/-- `VersionedFullControllerTwoVirtioBlkCheckpointV1::materialize` (lines 311-330). -/
def materialize (v : VersionedFullControllerTwoVirtioBlkCheckpointV1)
    (hostMsrs : HostMsrIndexList) :
    Except VersionedFullControllerTwoVirtioBlkCheckpointError
      BoundedFullControllerTwoVirtioBlkCheckpoint :=
  v.materializeWith fun controller => controller.materialize hostMsrs

end VersionedFullControllerTwoVirtioBlkCheckpointV1

/-- The codec of the checkpoint of one vCPU and two devices. -/
def fullControllerTwoVirtioBlkCodec : Codec VersionedFullControllerTwoVirtioBlkCheckpointError
    VersionedFullControllerTwoVirtioBlkCheckpointV1 :=
  ⟨VersionedFullControllerTwoVirtioBlkCheckpointV1.encode,
    VersionedFullControllerTwoVirtioBlkCheckpointV1.decode⟩

/-! ### Two vCPUs and two devices -/

abbrev VersionedTwoVcpuTwoDeviceCheckpointError : Type :=
  TwoDeviceCheckpointError VersionedTwoVcpuFullControllerCheckpointError

abbrev VersionedTwoVcpuTwoDeviceCheckpointV1 : Type :=
  TwoDeviceCheckpoint VersionedTwoVcpuFullControllerCheckpointV1

/-- The magic `MHV2V2B`, version, architecture and header length of the schema. -/
def twoVcpuTwoDeviceEnvelope : Envelope where
  magic := asciiBytes ['M', 'H', 'V', '2', 'V', '2', 'B', '\x00']
  version := 1
  architecture := 1
  headerLen := 56
  magic_length := rfl
  opening_le := Nat.le_of_ble_eq_true rfl

/-- The header of the schema. -/
def twoVcpuTwoDeviceFrame : Frame VersionedTwoVcpuTwoDeviceCheckpointError Unit :=
  twoDeviceFrame _ twoVcpuTwoDeviceEnvelope rfl

/-- The codec of the two-vCPU controller checkpoint. -/
def twoVcpuFullControllerCodec : Codec VersionedTwoVcpuFullControllerCheckpointError
    VersionedTwoVcpuFullControllerCheckpointV1 :=
  ⟨VersionedTwoVcpuFullControllerCheckpointV1.encode,
    VersionedTwoVcpuFullControllerCheckpointV1.decode⟩

namespace VersionedTwoVcpuTwoDeviceCheckpointV1

/-- `VersionedTwoVcpuTwoDeviceCheckpointV1::from_checkpoint` (lines 88-112). -/
def fromCheckpoint (checkpoint : BoundedTwoVcpuFullControllerTwoVirtioBlkCheckpoint) :
    Except VersionedTwoVcpuTwoDeviceCheckpointError VersionedTwoVcpuTwoDeviceCheckpointV1 :=
  TwoDeviceCheckpoint.fromCheckpointWith VersionedTwoVcpuFullControllerCheckpointV1.fromCheckpoint
    checkpoint

variable (v : VersionedTwoVcpuTwoDeviceCheckpointV1)

/-- `VersionedTwoVcpuTwoDeviceCheckpointV1::encode` (lines 364-393). -/
def encode : Except VersionedTwoVcpuTwoDeviceCheckpointError (List UInt8) :=
  v.encodeWith twoVcpuTwoDeviceFrame twoVcpuFullControllerCodec

/-- `VersionedTwoVcpuTwoDeviceCheckpointV1::decode` (lines 395-492). -/
def decode (bytes : List UInt8) :
    Except VersionedTwoVcpuTwoDeviceCheckpointError VersionedTwoVcpuTwoDeviceCheckpointV1 :=
  TwoDeviceCheckpoint.decodeWith twoVcpuTwoDeviceFrame twoVcpuFullControllerCodec bytes

/-- `VersionedTwoVcpuTwoDeviceCheckpointV1::materialize` (lines 494-516). -/
def materialize (hostMsrs : HostMsrIndexList) :
    Except VersionedTwoVcpuTwoDeviceCheckpointError
      BoundedTwoVcpuFullControllerTwoVirtioBlkCheckpoint :=
  v.materializeWith fun controller => controller.materialize hostMsrs

/-- `validate_pending_completion_token` (lines 191-213) and `validate_pending_notification_token`
(lines 292-314). -/
def validatePendingToken {kind : PendingKind} (token : PendingToken kind) :
    Except VersionedTwoVcpuTwoDeviceCheckpointError Unit :=
  if token.bar0 = v.devices.1.bar0 then
    (token.validateState v.devices.1).mapError TwoDeviceCheckpoint.mapDeviceStateError
  else if token.bar0 = v.devices.2.bar0 then
    (token.validateState v.devices.2).mapError TwoDeviceCheckpoint.mapDeviceStateError
  else .error (TwoDeviceCheckpoint.mapDeviceStateError token.invalid)

/-- A device of `materialize_with_pending_notification`: the one under the BAR of the token is
notified. -/
def materializeDevice (token : VirtioBlkPendingNotificationToken)
    (state : VirtioBlkCheckpointState) :
    Except VersionedTwoVcpuTwoDeviceCheckpointError VirtioBlkDevice :=
  if token.bar0 = state.bar0 then
    (token.materializeNotified state).mapError TwoDeviceCheckpoint.mapDeviceStateError
  else state.materialize.mapError TwoDeviceCheckpoint.mapDeviceStateError

/-- `materialize_with_pending_notification` (lines 517-553). -/
def materializeWithPendingNotification (hostMsrs : HostMsrIndexList)
    (token : VirtioBlkPendingNotificationToken) :
    Except VersionedTwoVcpuTwoDeviceCheckpointError
      BoundedTwoVcpuFullControllerTwoVirtioBlkCheckpoint := do
  TwoDeviceCheckpoint.validateTwoDeviceBars v.deviceBars
  validatePendingToken v token
  let controller ← (v.controller.materialize hostMsrs).mapError .controller
  let first ← materializeDevice token v.devices.1
  let second ← materializeDevice token v.devices.2
  return {
    controller
    devices := ((v.devices.1.bar0, first), (v.devices.2.bar0, second)) }

end VersionedTwoVcpuTwoDeviceCheckpointV1

/-- The codec of the checkpoint of two vCPUs and two devices. -/
def twoVcpuTwoDeviceCodec :
    Codec VersionedTwoVcpuTwoDeviceCheckpointError VersionedTwoVcpuTwoDeviceCheckpointV1 :=
  ⟨VersionedTwoVcpuTwoDeviceCheckpointV1.encode, VersionedTwoVcpuTwoDeviceCheckpointV1.decode⟩

end MiniHypervisor.Schema
