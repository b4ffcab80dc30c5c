import MiniHypervisor.Checkpoint.Operations
import MiniHypervisor.Schema.Devices

/-!
# The transaction schemas

The versioned byte formats of a device checkpoint together with the host registrations of its
devices: one vCPU and one device
(`src/state_snapshot/page_set/checkpoint_transaction_schema_v1.rs`), one vCPU and two devices
(`src/state_snapshot/page_set/two_device_checkpoint_transaction_schema_v1.rs`), and the three
versions for two vCPUs and two devices
(`src/state_snapshot/page_set/two_vcpu_two_device_transaction_schema_v1.rs`, lines 569-1410).
Versions 2 and 3 also hold a token, for a pending completion and a pending notification.
-/

namespace MiniHypervisor.Schema

open Bytes Checkpoint Control Kvm VirtioBlk

/-! ### One vCPU and one device -/

inductive VersionedCheckpointTransactionError where
  | invalidMagic
  | unsupportedVersion (version : UInt16)
  | unsupportedArchitecture (architecture : UInt16)
  | invalidHeaderLength (length : UInt32)
  | invalidTotalLength (declared : UInt64) (actual : ℕ)
  | invalidCheckpointLength (length : UInt64)
  | invalidRegistrationLength (length : UInt64)
  | nonZeroFlags (flags : UInt32)
  | nonZeroReserved (value : UInt32)
  | lengthOverflow
  | checkpoint (error : VersionedFullControllerVirtioBlkCheckpointError)
  | registration (error : VersionedHostRegistrationSpecError)
  deriving DecidableEq, Repr

/-- The magic `MHVTXN`, version, architecture and header length of the schema. -/
def checkpointTransactionEnvelope : Envelope where
  magic := asciiBytes ['M', 'H', 'V', 'T', 'X', 'N', '\x00', '\x00']
  version := 1
  architecture := 1
  headerLen := 48
  magic_length := rfl
  opening_le := Nat.le_of_ble_eq_true rfl

/-- The header of the schema; the registration may have any length but zero. -/
def checkpointTransactionFrame : Frame VersionedCheckpointTransactionError UInt64 :=
  .twoPart checkpointTransactionEnvelope rfl {
    opening := {
      invalidMagic := .invalidMagic
      unsupportedVersion := .unsupportedVersion
      unsupportedArchitecture := .unsupportedArchitecture
      invalidHeaderLength := .invalidHeaderLength
      invalidTotalLength := .invalidTotalLength }
    invalidFirstLength := .invalidCheckpointLength
    invalidSecondLength := .invalidRegistrationLength
    nonZeroFlags := .nonZeroFlags
    nonZeroReserved := .nonZeroReserved
    lengthOverflow := .lengthOverflow } (· ≠ 0)

/-- The codec of a registration. -/
def registrationCodec : Codec VersionedHostRegistrationSpecError VersionedHostRegistrationSpecV1 :=
  ⟨fun v => .ok v.encode, VersionedHostRegistrationSpecV1.decode⟩

theorem registrationCodec_canonical (bytes : List UInt8) : registrationCodec.Canonical bytes :=
  fun _ hdecode => congrArg Except.ok (VersionedHostRegistrationSpecV1.decode_eq_ok.mp hdecode).symm

structure VersionedCheckpointTransactionV1 where
  checkpoint : VersionedFullControllerVirtioBlkCheckpointV1
  registration : VersionedHostRegistrationSpecV1
  deriving DecidableEq, Repr

namespace VersionedCheckpointTransactionV1

/-- The parts of the container. -/
def parts : Codec VersionedCheckpointTransactionError
    (VersionedFullControllerVirtioBlkCheckpointV1 × VersionedHostRegistrationSpecV1) :=
  checkpointTransactionFrame.codec Frame.lengthWord
    (fullControllerVirtioBlkCodec.mapError .checkpoint) (registrationCodec.mapError .registration)

/-- `VersionedCheckpointTransactionV1::from_checkpoint_and_spec` (lines 103-111). -/
def fromCheckpointAndSpec (checkpoint : BoundedFullControllerVirtioBlkCheckpoint)
    (spec : HostRegistrationSpec) :
    Except VersionedCheckpointTransactionError VersionedCheckpointTransactionV1 := do
  let checkpoint ←
    (VersionedFullControllerVirtioBlkCheckpointV1.fromCheckpoint checkpoint).mapError .checkpoint
  return {
    checkpoint
    registration := ⟨spec⟩ }

variable (v : VersionedCheckpointTransactionV1)

/-- `VersionedCheckpointTransactionV1::encode` (lines 164-186). -/
def encode : Except VersionedCheckpointTransactionError (List UInt8) :=
  parts.encode (v.checkpoint, v.registration)

/-- `VersionedCheckpointTransactionV1::decode` (lines 188-269). -/
def decode (bytes : List UInt8) :
    Except VersionedCheckpointTransactionError VersionedCheckpointTransactionV1 := do
  let ⟨checkpoint, registration⟩ ← parts.decode bytes
  return { checkpoint, registration }

/-- `VersionedCheckpointTransactionV1::materialize` (lines 271-285). -/
def materialize (hostMsrs : HostMsrIndexList) :
    Except VersionedCheckpointTransactionError
      (BoundedFullControllerVirtioBlkCheckpoint × HostRegistrationSpec) := do
  let checkpoint ← (v.checkpoint.materialize hostMsrs).mapError .checkpoint
  return (checkpoint, v.registration.spec)

/-- The bytes of a value for the bytes of its checkpoint. -/
def assemble (checkpoint : List UInt8) : List UInt8 :=
  checkpointTransactionFrame.assemble (Frame.lengthWord v.registration.encode) checkpoint
    v.registration.encode

variable {v} {bytes checkpoint : List UInt8}

theorem decode_eq_ok :
    decode bytes = .ok v ↔ parts.decode bytes = .ok (v.checkpoint, v.registration) :=
  bind_pure_eq_ok (f := fun p => mk p.1 p.2) (g := fun v => (v.checkpoint, v.registration))
    (fun _ => rfl) fun _ => rfl

theorem decode_assemble (hne : checkpoint ≠ [])
    (hcheckpoint : VersionedFullControllerVirtioBlkCheckpointV1.decode checkpoint =
      .ok v.checkpoint) (hlt : 48 + checkpoint.length + 48 < 2 ^ 64) :
    decode (v.assemble checkpoint) = .ok v ∧
      checkpointTransactionFrame.firstPart (v.assemble checkpoint) = checkpoint := by
  have hlen : v.registration.encode.length = 48 := VersionedHostRegistrationSpecV1.length_encode
  have haccepts : Frame.lengthWord v.registration.encode ≠ 0 := by
    rw [Frame.lengthWord, hlen]
    decide
  refine And.imp_left decode_eq_ok.mpr ?_
  exact Frame.twoPart_decode_assemble hne (mapError_eq_ok.mpr hcheckpoint)
    (mapError_eq_ok.mpr (VersionedHostRegistrationSpecV1.decode_eq_ok.mpr rfl)) haccepts
    (by rwa [hlen])

end VersionedCheckpointTransactionV1

/-- The codec of the transaction of one device. -/
def checkpointTransactionCodec :
    Codec VersionedCheckpointTransactionError VersionedCheckpointTransactionV1 :=
  ⟨VersionedCheckpointTransactionV1.encode, VersionedCheckpointTransactionV1.decode⟩

theorem checkpointTransactionCodec_canonical {bytes : List UInt8}
    (h : fullControllerVirtioBlkCodec.Canonical (checkpointTransactionFrame.firstPart bytes)) :
    checkpointTransactionCodec.Canonical bytes := by
  intro v hdecode
  have hcanonical : VersionedCheckpointTransactionV1.parts.Canonical bytes :=
    Frame.codec_canonical Frame.twoPart_describe (Codec.canonical_mapError_iff.mpr h)
      fun rest _ => Codec.canonical_mapError_iff.mpr (registrationCodec_canonical rest)
  exact hcanonical _ (VersionedCheckpointTransactionV1.decode_eq_ok.mp hdecode)

/-! ### One vCPU and two devices -/

inductive VersionedTwoDeviceCheckpointTransactionError where
  | invalidMagic
  | unsupportedVersion (version : UInt16)
  | unsupportedArchitecture (architecture : UInt16)
  | invalidHeaderLength (length : UInt32)
  | invalidTotalLength (declared : UInt64) (actual : ℕ)
  | invalidCheckpointLength (length : UInt64)
  | invalidRegistrationPairLength (length : UInt64)
  | nonZeroFlags (flags : UInt32)
  | nonZeroReserved (value : UInt32)
  | lengthOverflow
  | checkpoint (error : VersionedFullControllerTwoVirtioBlkCheckpointError)
  | registrationPair (error : VersionedHostRegistrationPairError)
  deriving DecidableEq, Repr

/-- The magic `MHVTX2`, version, architecture and header length of the schema. -/
def twoDeviceCheckpointTransactionEnvelope : Envelope where
  magic := asciiBytes ['M', 'H', 'V', 'T', 'X', '2', '\x00', '\x00']
  version := 1
  architecture := 1
  headerLen := 48
  magic_length := rfl
  opening_le := Nat.le_of_ble_eq_true rfl

/-- The header of the schema. -/
def twoDeviceCheckpointTransactionFrame :
    Frame VersionedTwoDeviceCheckpointTransactionError UInt64 :=
  .twoPart twoDeviceCheckpointTransactionEnvelope rfl {
    opening := {
      invalidMagic := .invalidMagic
      unsupportedVersion := .unsupportedVersion
      unsupportedArchitecture := .unsupportedArchitecture
      invalidHeaderLength := .invalidHeaderLength
      invalidTotalLength := .invalidTotalLength }
    invalidFirstLength := .invalidCheckpointLength
    invalidSecondLength := .invalidRegistrationPairLength
    nonZeroFlags := .nonZeroFlags
    nonZeroReserved := .nonZeroReserved
    lengthOverflow := .lengthOverflow } (· = UInt64.ofNat versionedHostRegistrationPairLen)

/-- The codec of a pair of registrations. -/
def registrationPairCodec :
    Codec VersionedHostRegistrationPairError VersionedHostRegistrationPairV1 :=
  ⟨fun v => .ok v.encode, VersionedHostRegistrationPairV1.decode⟩

theorem registrationPairCodec_decode_encode (v : VersionedHostRegistrationPairV1) :
    registrationPairCodec.decode v.encode = .ok v :=
  VersionedHostRegistrationPairV1.decode_eq_ok.mpr rfl

theorem registrationPairCodec_canonical (bytes : List UInt8) :
    registrationPairCodec.Canonical bytes := fun _ hdecode =>
  congrArg Except.ok (VersionedHostRegistrationPairV1.decode_eq_ok.mp hdecode).symm

structure VersionedTwoDeviceCheckpointTransactionV1 where
  checkpoint : VersionedFullControllerTwoVirtioBlkCheckpointV1
  registrations : VersionedHostRegistrationPairV1
  deriving DecidableEq, Repr

namespace VersionedTwoDeviceCheckpointTransactionV1

/-- The parts of the container. -/
def parts : Codec VersionedTwoDeviceCheckpointTransactionError
    (VersionedFullControllerTwoVirtioBlkCheckpointV1 × VersionedHostRegistrationPairV1) :=
  twoDeviceCheckpointTransactionFrame.codec Frame.lengthWord
    (fullControllerTwoVirtioBlkCodec.mapError .checkpoint)
    (registrationPairCodec.mapError .registrationPair)

/-- `VersionedTwoDeviceCheckpointTransactionV1::from_checkpoint_and_pair` (lines 108-118). -/
def fromCheckpointAndPair (checkpoint : BoundedFullControllerTwoVirtioBlkCheckpoint)
    (pair : HostRegistrationSpecPair) :
    Except VersionedTwoDeviceCheckpointTransactionError
      VersionedTwoDeviceCheckpointTransactionV1 := do
  let checkpoint ←
    (VersionedFullControllerTwoVirtioBlkCheckpointV1.fromCheckpoint checkpoint).mapError .checkpoint
  return {
    checkpoint
    registrations := ⟨pair⟩ }

variable (v : VersionedTwoDeviceCheckpointTransactionV1)

/-- `VersionedTwoDeviceCheckpointTransactionV1::encode` (lines 171-199). -/
def encode : Except VersionedTwoDeviceCheckpointTransactionError (List UInt8) :=
  parts.encode (v.checkpoint, v.registrations)

/-- `VersionedTwoDeviceCheckpointTransactionV1::decode` (lines 201-313). -/
def decode (bytes : List UInt8) :
    Except VersionedTwoDeviceCheckpointTransactionError
      VersionedTwoDeviceCheckpointTransactionV1 := do
  let ⟨checkpoint, registrations⟩ ← parts.decode bytes
  return { checkpoint, registrations }

/-- `VersionedTwoDeviceCheckpointTransactionV1::materialize` (lines 315-329). -/
def materialize (hostMsrs : HostMsrIndexList) :
    Except VersionedTwoDeviceCheckpointTransactionError
      (BoundedFullControllerTwoVirtioBlkCheckpoint × HostRegistrationSpecPair) := do
  let checkpoint ← (VersionedFullControllerTwoVirtioBlkCheckpointV1.materialize v.checkpoint
    hostMsrs).mapError .checkpoint
  let pair ← v.registrations.materialize.mapError .registrationPair
  return (checkpoint, pair)

/-- The bytes of a value for the bytes of its checkpoint. -/
def assemble (checkpoint : List UInt8) : List UInt8 :=
  twoDeviceCheckpointTransactionFrame.assemble (Frame.lengthWord v.registrations.encode) checkpoint
    v.registrations.encode

variable {v} {bytes checkpoint : List UInt8}

theorem decode_eq_ok :
    decode bytes = .ok v ↔ parts.decode bytes = .ok (v.checkpoint, v.registrations) :=
  bind_pure_eq_ok (f := fun p => mk p.1 p.2) (g := fun v => (v.checkpoint, v.registrations))
    (fun _ => rfl) fun _ => rfl

theorem decode_assemble (hne : checkpoint ≠ [])
    (hcheckpoint : VersionedFullControllerTwoVirtioBlkCheckpointV1.decode checkpoint =
      .ok v.checkpoint) (hlt : 48 + checkpoint.length + 128 < 2 ^ 64) :
    decode (v.assemble checkpoint) = .ok v := by
  have hlen : v.registrations.encode.length = 128 := VersionedHostRegistrationPairV1.length_encode
  refine decode_eq_ok.mpr (And.left (b := twoDeviceCheckpointTransactionFrame.firstPart
    (v.assemble checkpoint) = checkpoint) ?_)
  exact Frame.twoPart_decode_assemble hne (Codec.mapError_decode_eq_ok.mpr hcheckpoint)
    (Codec.mapError_decode_eq_ok.mpr (registrationPairCodec_decode_encode _))
    (congrArg UInt64.ofNat hlen) (by rwa [hlen])

end VersionedTwoDeviceCheckpointTransactionV1

/-- The codec of the transaction of one vCPU and two devices. -/
def twoDeviceCheckpointTransactionCodec : Codec VersionedTwoDeviceCheckpointTransactionError
    VersionedTwoDeviceCheckpointTransactionV1 :=
  ⟨VersionedTwoDeviceCheckpointTransactionV1.encode,
    VersionedTwoDeviceCheckpointTransactionV1.decode⟩

theorem twoDeviceCheckpointTransactionCodec_canonical {bytes : List UInt8}
    (h : fullControllerTwoVirtioBlkCodec.Canonical
      (twoDeviceCheckpointTransactionFrame.firstPart bytes)) :
    twoDeviceCheckpointTransactionCodec.Canonical bytes := by
  intro v hdecode
  have hcanonical : VersionedTwoDeviceCheckpointTransactionV1.parts.Canonical bytes :=
    Frame.codec_canonical Frame.twoPart_describe (Codec.canonical_mapError_iff.mpr h)
      fun rest _ => Codec.canonical_mapError_iff.mpr (registrationPairCodec_canonical rest)
  exact hcanonical _ (VersionedTwoDeviceCheckpointTransactionV1.decode_eq_ok.mp hdecode)

/-! ### Registrations and devices -/

/-- The `Debug` text of two addresses. -/
def addressesText (addresses : UInt64 × UInt64) : String :=
  "[" ++ toString addresses.1.toNat ++ ", " ++ toString addresses.2.toNat ++ "]"

/-- `require_registration_pair_matches_devices` (`two_vcpu_two_device_transaction.rs`,
lines 648-686): the doorbells are the notify addresses of the devices, which take two bytes and the
queue index zero. -/
def requireRegistrationPairMatchesDevices (pair : HostRegistrationSpecPair)
    (bars : UInt64 × UInt64) : Except Error Unit := do
  let operation := "two-vCPU two-device transaction registration binding"
  rejectIf (2 ^ 64 ≤ bars.1.toNat + virtioNotifyOffset)
    (pageSetError operation "first device notify address overflowed")
  rejectIf (2 ^ 64 ≤ bars.2.toNat + virtioNotifyOffset)
    (pageSetError operation "second device notify address overflowed")
  let expected := (bars.1 + 0x100, bars.2 + 0x100)
  let observed := (pair.first.doorbellAddress, pair.second.doorbellAddress)
  rejectIf (observed ≠ expected)
    (pageSetError operation ("registration doorbells " ++ addressesText observed ++
      " do not match device notify addresses " ++ addressesText expected))
  rejectIf ((pair.first.doorbellLength ≠ 2 ∨ pair.first.doorbellDatamatch ≠ 0) ∨
      (pair.second.doorbellLength ≠ 2 ∨ pair.second.doorbellDatamatch ≠ 0))
    (pageSetError operation
      "each fixed virtio-blk registration must use a 2-byte datamatch-zero queue notify")

/-! ### Two vCPUs and two devices, without a token -/

inductive VersionedTwoVcpuTwoDeviceTransactionError where
  | invalidMagic
  | unsupportedVersion (version : UInt16)
  | unsupportedArchitecture (architecture : UInt16)
  | invalidHeaderLength (length : UInt32)
  | invalidTotalLength (declared : UInt64) (actual : ℕ)
  | invalidCheckpointLength (length : UInt64)
  | invalidRegistrationPairLength (length : UInt64)
  | invalidPendingCompletionTokenLength (length : UInt64)
  | invalidPendingNotificationTokenLength (length : UInt64)
  | pendingCompletion (detail : String)
  | pendingNotification (detail : String)
  | nonZeroFlags (flags : UInt32)
  | nonZeroReserved (value : UInt32)
  | registrationBinding (detail : String)
  | lengthOverflow
  | checkpoint (error : VersionedTwoVcpuTwoDeviceCheckpointError)
  | registrationPair (error : VersionedHostRegistrationPairError)
  deriving DecidableEq, Repr

/-- The errors of the openings of all three versions. -/
def twoVcpuTwoDeviceTransactionOpening :
    EnvelopeErrors VersionedTwoVcpuTwoDeviceTransactionError where
  invalidMagic := .invalidMagic
  unsupportedVersion := .unsupportedVersion
  unsupportedArchitecture := .unsupportedArchitecture
  invalidHeaderLength := .invalidHeaderLength
  invalidTotalLength := .invalidTotalLength

/-- `VERSIONED_TWO_VCPU_TWO_DEVICE_TRANSACTION_MAGIC`. -/
def twoVcpuTwoDeviceTransactionMagic : List UInt8 :=
  asciiBytes ['M', 'H', 'V', '2', 'T', 'X', '\x00', '\x00']

/-- The magic, version, architecture and header length of version 1. -/
def twoVcpuTwoDeviceTransactionEnvelope : Envelope where
  magic := twoVcpuTwoDeviceTransactionMagic
  version := 1
  architecture := 1
  headerLen := 48
  magic_length := rfl
  opening_le := Nat.le_of_ble_eq_true rfl

/-- The header of version 1. -/
def twoVcpuTwoDeviceTransactionFrame : Frame VersionedTwoVcpuTwoDeviceTransactionError UInt64 :=
  .twoPart twoVcpuTwoDeviceTransactionEnvelope rfl {
    opening := twoVcpuTwoDeviceTransactionOpening
    invalidFirstLength := .invalidCheckpointLength
    invalidSecondLength := .invalidRegistrationPairLength
    nonZeroFlags := .nonZeroFlags
    nonZeroReserved := .nonZeroReserved
    lengthOverflow := .lengthOverflow } (· = UInt64.ofNat versionedHostRegistrationPairLen)

/-- `validate_transaction_registration_binding` (lines 1403-1410). -/
def validateTransactionRegistrationBinding (bars : UInt64 × UInt64)
    (pair : HostRegistrationSpecPair) : Except VersionedTwoVcpuTwoDeviceTransactionError Unit :=
  (requireRegistrationPairMatchesDevices pair bars).mapError fun error =>
    .registrationBinding error.text

structure VersionedTwoVcpuTwoDeviceTransactionV1 where
  checkpoint : VersionedTwoVcpuTwoDeviceCheckpointV1
  registrations : VersionedHostRegistrationPairV1
  deriving DecidableEq, Repr

namespace VersionedTwoVcpuTwoDeviceTransactionV1

/-- The parts of the container. -/
def parts : Codec VersionedTwoVcpuTwoDeviceTransactionError
    (VersionedTwoVcpuTwoDeviceCheckpointV1 × VersionedHostRegistrationPairV1) :=
  twoVcpuTwoDeviceTransactionFrame.codec Frame.lengthWord
    (twoVcpuTwoDeviceCodec.mapError .checkpoint) (registrationPairCodec.mapError .registrationPair)

/-- `VersionedTwoVcpuTwoDeviceTransactionV1::from_checkpoint_and_pair` (lines 652-661). -/
def fromCheckpointAndPair (checkpoint : BoundedTwoVcpuFullControllerTwoVirtioBlkCheckpoint)
    (pair : HostRegistrationSpecPair) :
    Except VersionedTwoVcpuTwoDeviceTransactionError VersionedTwoVcpuTwoDeviceTransactionV1 := do
  validateTransactionRegistrationBinding checkpoint.deviceBars pair
  let checkpoint ←
    (VersionedTwoVcpuTwoDeviceCheckpointV1.fromCheckpoint checkpoint).mapError .checkpoint
  return {
    checkpoint
    registrations := ⟨pair⟩ }

variable (v : VersionedTwoVcpuTwoDeviceTransactionV1)

/-- `VersionedTwoVcpuTwoDeviceTransactionV1::encode` (lines 729-755). -/
def encode : Except VersionedTwoVcpuTwoDeviceTransactionError (List UInt8) := do
  let pair ← v.registrations.materialize.mapError .registrationPair
  validateTransactionRegistrationBinding v.checkpoint.deviceBars pair
  parts.encode (v.checkpoint, v.registrations)

/-- `VersionedTwoVcpuTwoDeviceTransactionV1::decode` (lines 757-853). -/
def decode (bytes : List UInt8) :
    Except VersionedTwoVcpuTwoDeviceTransactionError VersionedTwoVcpuTwoDeviceTransactionV1 := do
  let ⟨checkpoint, registrations⟩ ← parts.decode bytes
  let pair ← registrations.materialize.mapError .registrationPair
  validateTransactionRegistrationBinding checkpoint.deviceBars pair
  return { checkpoint, registrations }

/-- `VersionedTwoVcpuTwoDeviceTransactionV1::materialize` (lines 855-869). -/
def materialize (hostMsrs : HostMsrIndexList) :
    Except VersionedTwoVcpuTwoDeviceTransactionError
      (BoundedTwoVcpuFullControllerTwoVirtioBlkCheckpoint × HostRegistrationSpecPair) := do
  let checkpoint ← (VersionedTwoVcpuTwoDeviceCheckpointV1.materialize v.checkpoint
    hostMsrs).mapError .checkpoint
  let pair ← v.registrations.materialize.mapError .registrationPair
  validateTransactionRegistrationBinding checkpoint.deviceBars pair
  return (checkpoint, pair)

/-- The registrations belong to the devices. -/
def Bound : Prop :=
  validateTransactionRegistrationBinding v.checkpoint.deviceBars v.registrations.pair = .ok ()

variable {v} {bytes : List UInt8}

theorem encode_eq_ok :
    v.encode = .ok bytes ↔
      v.Bound ∧ parts.encode (v.checkpoint, v.registrations) = .ok bytes := by
  simp only [encode, bind_eq_ok, mapError_eq_ok, VersionedHostRegistrationPairV1.materialize_eq,
    Except.ok.injEq]
  constructor
  · rintro ⟨_, rfl, _, hbound, hparts⟩
    exact ⟨hbound, hparts⟩
  · rintro ⟨hbound, hparts⟩
    exact ⟨_, rfl, (), hbound, hparts⟩

theorem decode_eq_ok :
    decode bytes = .ok v ↔
      v.Bound ∧ parts.decode bytes = .ok (v.checkpoint, v.registrations) := by
  simp only [decode, bind_eq_ok, mapError_eq_ok, VersionedHostRegistrationPairV1.materialize_eq,
    pure, Except.pure, Except.ok.injEq, Prod.exists]
  constructor
  · rintro ⟨_, _, hparts, _, rfl, _, hbound, rfl⟩
    exact ⟨hbound, hparts⟩
  · rintro ⟨hbound, hparts⟩
    exact ⟨_, _, hparts, _, rfl, (), hbound, rfl⟩

variable (v) in
/-- The bytes of a value for the bytes of its checkpoint. -/
def assemble (checkpoint : List UInt8) : List UInt8 :=
  twoVcpuTwoDeviceTransactionFrame.assemble (Frame.lengthWord v.registrations.encode) checkpoint
    v.registrations.encode

theorem decode_assemble {checkpoint : List UInt8} (hne : checkpoint ≠ [])
    (hcheckpoint : VersionedTwoVcpuTwoDeviceCheckpointV1.decode checkpoint = .ok v.checkpoint)
    (hbound : v.Bound) (hlt : 48 + checkpoint.length + 128 < 2 ^ 64) :
    decode (v.assemble checkpoint) = .ok v ∧
      twoVcpuTwoDeviceTransactionFrame.firstPart (v.assemble checkpoint) = checkpoint := by
  have hlen : v.registrations.encode.length = 128 := VersionedHostRegistrationPairV1.length_encode
  refine And.imp_left (fun hparts => decode_eq_ok.mpr ⟨hbound, hparts⟩) ?_
  exact Frame.twoPart_decode_assemble hne (Codec.mapError_decode_eq_ok.mpr hcheckpoint)
    (Codec.mapError_decode_eq_ok.mpr (registrationPairCodec_decode_encode _))
    (congrArg UInt64.ofNat hlen) (by rwa [hlen])

end VersionedTwoVcpuTwoDeviceTransactionV1

/-- The codec of version 1. -/
def twoVcpuTwoDeviceTransactionV1Codec : Codec VersionedTwoVcpuTwoDeviceTransactionError
    VersionedTwoVcpuTwoDeviceTransactionV1 :=
  ⟨VersionedTwoVcpuTwoDeviceTransactionV1.encode, VersionedTwoVcpuTwoDeviceTransactionV1.decode⟩

theorem twoVcpuTwoDeviceTransactionV1Codec_canonical {bytes : List UInt8}
    (h : twoVcpuTwoDeviceCodec.Canonical (twoVcpuTwoDeviceTransactionFrame.firstPart bytes)) :
    twoVcpuTwoDeviceTransactionV1Codec.Canonical bytes := by
  intro v hdecode
  obtain ⟨hbound, hparts⟩ := VersionedTwoVcpuTwoDeviceTransactionV1.decode_eq_ok.mp hdecode
  have hcanonical : VersionedTwoVcpuTwoDeviceTransactionV1.parts.Canonical bytes :=
    Frame.codec_canonical Frame.twoPart_describe (Codec.canonical_mapError_iff.mpr h)
      fun rest _ => Codec.canonical_mapError_iff.mpr (registrationPairCodec_canonical rest)
  exact VersionedTwoVcpuTwoDeviceTransactionV1.encode_eq_ok.mpr ⟨hbound, hcanonical _ hparts⟩

/-! ### The record of a token -/

/-- `PENDING_COMPLETION_TOKEN_LEN` and `PENDING_NOTIFICATION_TOKEN_LEN`. -/
def pendingTokenLen : ℕ := 16

/-- The error for a token record of the wrong length. -/
def invalidPendingTokenLength : PendingKind → UInt64 → VersionedTwoVcpuTwoDeviceTransactionError
  | .completion => .invalidPendingCompletionTokenLength
  | .notification => .invalidPendingNotificationTokenLength

/-- The error for an invalid token. -/
def pendingError : PendingKind → String → VersionedTwoVcpuTwoDeviceTransactionError
  | .completion => .pendingCompletion
  | .notification => .pendingNotification

section Token

variable {kind : PendingKind}

/-- The fields of the record. -/
def tokenFields (token : PendingToken kind) : List (List UInt8) :=
  [u64Bytes token.bar0, u16Bytes token.queue, u16Bytes token.lastAvailIdx,
    u16Bytes token.lastUsedIdx, u16Bytes 0]

/-- `encode_pending_completion_token` (lines 1369-1376) and `encode_pending_notification_token`
(lines 1331-1340). -/
def encodePendingToken (token : PendingToken kind) : List UInt8 := (tokenFields token).flatten

/-- `decode_pending_completion_token` (lines 1378-1401) and `decode_pending_notification_token`
(lines 1342-1367). -/
def decodePendingToken (kind : PendingKind) (bytes : List UInt8) :
    Except VersionedTwoVcpuTwoDeviceTransactionError (PendingToken kind) := do
  rejectIf (bytes.length ≠ pendingTokenLen)
    (invalidPendingTokenLength kind (UInt64.ofNat bytes.length))
  rejectIf (u16At bytes 14 ≠ 0) (pendingError kind
    ("token reserved field must be zero, got " ++ hexText (u16At bytes 14).toNat))
  (PendingToken.fromParts kind (u64At bytes 0) (u16At bytes 8) (u16At bytes 10)
    (u16At bytes 12)).mapError fun error => pendingError kind error.text

variable {token : PendingToken kind} {bytes : List UInt8}

theorem length_encodePendingToken : (encodePendingToken token).length = pendingTokenLen := by
  simp [encodePendingToken, tokenFields, pendingTokenLen]

theorem eq_encodePendingToken_iff (h : bytes.length = 16) :
    bytes = encodePendingToken token ↔
      u64At bytes 0 = token.bar0 ∧ u16At bytes 8 = token.queue ∧
        u16At bytes 10 = token.lastAvailIdx ∧ u16At bytes 12 = token.lastUsedIdx ∧
        u16At bytes 14 = 0 := by
  rw [encodePendingToken, ← tiles_iff]
  simp only [tokenFields, Tiles, length_u16Bytes, length_u64Bytes, Nat.zero_add, Nat.reduceAdd, h,
    and_true]
  rw [slice_eq_u64Bytes_iff (by omega), slice_eq_u16Bytes_iff (by omega),
    slice_eq_u16Bytes_iff (by omega), slice_eq_u16Bytes_iff (by omega),
    slice_eq_u16Bytes_iff (by omega)]

theorem decodePendingToken_eq_ok :
    decodePendingToken kind bytes = .ok token ↔ bytes = encodePendingToken token := by
  rw [decodePendingToken, rejectIf_bind_eq_ok, rejectIf_bind_eq_ok, mapError_eq_ok,
    PendingToken.fromParts_eq_ok, not_not, not_not]
  constructor
  · rintro ⟨hlen, hreserved, hbar, hqueue, havail, hused⟩
    exact (eq_encodePendingToken_iff hlen).mpr
      ⟨hbar.symm, hqueue.symm, havail.symm, hused.symm, hreserved⟩
  · intro hbytes
    have hlen : bytes.length = 16 := by rw [hbytes, length_encodePendingToken]; rfl
    obtain ⟨hbar, hqueue, havail, hused, hreserved⟩ := (eq_encodePendingToken_iff hlen).mp hbytes
    exact ⟨hlen, hreserved, hbar.symm, hqueue.symm, havail.symm, hused.symm⟩

end Token

/-- The codec of the record. -/
def tokenCodec (kind : PendingKind) :
    Codec VersionedTwoVcpuTwoDeviceTransactionError (PendingToken kind) :=
  ⟨fun token => .ok (encodePendingToken token), decodePendingToken kind⟩

theorem tokenCodec_canonical (kind : PendingKind) (bytes : List UInt8) :
    (tokenCodec kind).Canonical bytes := fun _ hdecode =>
  congrArg Except.ok (decodePendingToken_eq_ok.mp hdecode).symm

/-! ### Two vCPUs and two devices, with a token -/

/-- The version of the transactions with a token. -/
def tokenTransactionVersion : PendingKind → UInt16
  | .completion => 2
  | .notification => 3

/-- The magic, version, architecture and header length of the transactions with a token. -/
def tokenTransactionEnvelope (kind : PendingKind) : Envelope where
  magic := twoVcpuTwoDeviceTransactionMagic
  version := tokenTransactionVersion kind
  architecture := 1
  headerLen := 56
  magic_length := rfl
  opening_le := Nat.le_of_ble_eq_true rfl

/-- The checks of the length of the token, the flags and the reserved word, which come before the
length of the checkpoint is read. -/
def checkTokenWords (kind : PendingKind) (bytes : List UInt8) :
    Except VersionedTwoVcpuTwoDeviceTransactionError Unit := do
  rejectIf (u64At bytes 40 ≠ UInt64.ofNat pendingTokenLen)
    (invalidPendingTokenLength kind (u64At bytes 40))
  rejectIf (u32At bytes 48 ≠ 0) (.nonZeroFlags (u32At bytes 48))
  rejectIf (u32At bytes 52 ≠ 0) (.nonZeroReserved (u32At bytes 52))

/-- The check of the length of the registrations. -/
def checkRegistrationPairLen (bytes : List UInt8) :
    Except VersionedTwoVcpuTwoDeviceTransactionError Unit :=
  rejectIf (u64At bytes 32 ≠ UInt64.ofNat versionedHostRegistrationPairLen)
    (.invalidRegistrationPairLength (u64At bytes 32))

/-- The words after the length of the checkpoint. -/
def tokenTransactionWords : List UInt8 :=
  u64Bytes (UInt64.ofNat versionedHostRegistrationPairLen) ++
    (u64Bytes (UInt64.ofNat pendingTokenLen) ++ (u32Bytes 0 ++ u32Bytes 0))

theorem length_tokenTransactionWords : tokenTransactionWords.length = 24 := by
  simp [tokenTransactionWords]

theorem tokenTransactionWords_iff {kind : PendingKind} {bytes : List UInt8}
    (h : 56 ≤ bytes.length) :
    checkTokenWords kind bytes = .ok () ∧ checkRegistrationPairLen bytes = .ok () ↔
      slice bytes 32 tokenTransactionWords.length = tokenTransactionWords := by
  rw [length_tokenTransactionWords, tokenTransactionWords]
  iterate 3 rw [slice_eq_append_iff (by simp) (by simp; omega)]
  simp only [checkTokenWords, checkRegistrationPairLen, length_u64Bytes, length_u32Bytes,
    Nat.reduceAdd, rejectIf_bind_eq_ok, rejectIf_eq_ok, not_not]
  rw [slice_eq_u64Bytes_iff (by omega), slice_eq_u64Bytes_iff (by omega),
    slice_eq_u32Bytes_iff (by omega), slice_eq_u32Bytes_iff (by omega)]
  exact and_comm

theorem tokenTransactionFrame_words_iff (kind : PendingKind) (bytes : List UInt8) (d : Unit)
    (h : (tokenTransactionEnvelope kind).headerLen ≤ bytes.length) :
    checkTokenWords kind bytes = .ok () ∧ checkRegistrationPairLen bytes = .ok () ∧ () = d ↔
      True ∧ slice bytes 32 tokenTransactionWords.length = tokenTransactionWords := by
  rw [true_and, ← @tokenTransactionWords_iff kind bytes h]
  simp only [and_true]

theorem tokenTransactionFrame_length_words (kind : PendingKind) (_ : Unit) :
    32 + tokenTransactionWords.length = (tokenTransactionEnvelope kind).headerLen :=
  congrArg (32 + ·) length_tokenTransactionWords

/-- The header of the transactions with a token. -/
def tokenTransactionFrame (kind : PendingKind) :
    Frame VersionedTwoVcpuTwoDeviceTransactionError Unit where
  envelope := tokenTransactionEnvelope kind
  errors := twoVcpuTwoDeviceTransactionOpening
  invalidFirstLength := .invalidCheckpointLength
  lengthOverflow := .lengthOverflow
  read := fun _ => ()
  checkBefore := checkTokenWords kind
  checkAfter := checkRegistrationPairLen
  words := fun _ => tokenTransactionWords
  Valid := fun _ => True
  restLens := fun _ => [versionedHostRegistrationPairLen, pendingTokenLen]
  length_words := tokenTransactionFrame_length_words kind
  words_iff := tokenTransactionFrame_words_iff kind

/-- A transaction with a token. -/
structure TokenTransaction (kind : PendingKind) where
  checkpoint : VersionedTwoVcpuTwoDeviceCheckpointV1
  registrations : VersionedHostRegistrationPairV1
  pending : PendingToken kind
  deriving DecidableEq, Repr

abbrev VersionedTwoVcpuTwoDeviceTransactionV2 : Type := TokenTransaction .completion

abbrev VersionedTwoVcpuTwoDeviceTransactionV3 : Type := TokenTransaction .notification

namespace TokenTransaction

variable {kind : PendingKind}

/-- The parts of the container. -/
def parts (kind : PendingKind) : Codec VersionedTwoVcpuTwoDeviceTransactionError
    (VersionedTwoVcpuTwoDeviceCheckpointV1 × VersionedHostRegistrationPairV1 ×
      PendingToken kind) :=
  (tokenTransactionFrame kind).codec (fun _ => ()) (twoVcpuTwoDeviceCodec.mapError .checkpoint)
    (Codec.append versionedHostRegistrationPairLen
      (registrationPairCodec.mapError .registrationPair) (tokenCodec kind))

variable (v : TokenTransaction kind)

/-- `encode` of version 2 (lines 923-957) and of version 3 (lines 1152-1186). -/
def encode : Except VersionedTwoVcpuTwoDeviceTransactionError (List UInt8) := do
  let pair ← v.registrations.materialize.mapError .registrationPair
  validateTransactionRegistrationBinding v.checkpoint.deviceBars pair
  (VersionedTwoVcpuTwoDeviceCheckpointV1.validatePendingToken v.checkpoint v.pending).mapError
    .checkpoint
  (parts kind).encode (v.checkpoint, v.registrations, v.pending)

/-- `decode` of version 2 (lines 959-1067) and of version 3 (lines 1188-1295). -/
def decode (kind : PendingKind) (bytes : List UInt8) :
    Except VersionedTwoVcpuTwoDeviceTransactionError (TokenTransaction kind) := do
  let ⟨checkpoint, registrations, pending⟩ ← (parts kind).decode bytes
  let pair ← registrations.materialize.mapError .registrationPair
  validateTransactionRegistrationBinding checkpoint.deviceBars pair
  (VersionedTwoVcpuTwoDeviceCheckpointV1.validatePendingToken checkpoint pending).mapError
    .checkpoint
  return { checkpoint, registrations, pending }

/-- The checkpoint of a transaction: with a pending notification its device is notified. -/
def materializeCheckpoint (hostMsrs : HostMsrIndexList)
    (checkpoint : VersionedTwoVcpuTwoDeviceCheckpointV1) :
    (kind : PendingKind) → PendingToken kind → Except VersionedTwoVcpuTwoDeviceCheckpointError
      BoundedTwoVcpuFullControllerTwoVirtioBlkCheckpoint
  | .completion, _ => VersionedTwoVcpuTwoDeviceCheckpointV1.materialize checkpoint hostMsrs
  | .notification, token =>
      VersionedTwoVcpuTwoDeviceCheckpointV1.materializeWithPendingNotification checkpoint hostMsrs
        token

/-- `materialize` of version 2 (lines 1069-1098) and of version 3 (lines 1297-1328). -/
def materialize (hostMsrs : HostMsrIndexList) :
    Except VersionedTwoVcpuTwoDeviceTransactionError
      (BoundedTwoVcpuFullControllerTwoVirtioBlkCheckpoint × HostRegistrationSpecPair ×
        PendingToken kind) := do
  let checkpoint ←
    (materializeCheckpoint hostMsrs v.checkpoint kind v.pending).mapError .checkpoint
  let pair ← v.registrations.materialize.mapError .registrationPair
  validateTransactionRegistrationBinding checkpoint.deviceBars pair
  match checkpoint.device v.pending.bar0 with
  | none => .error (pendingError kind
      ("BAR " ++ hexText v.pending.bar0.toNat ++ " disappeared during materialization"))
  | some device =>
      (v.pending.validateDevice device).mapError fun error => pendingError kind error.text
  return (checkpoint, pair, v.pending)

/-- The registrations and the token belong to the devices. -/
structure Bound : Prop where
  registrations :
    validateTransactionRegistrationBinding v.checkpoint.deviceBars v.registrations.pair = .ok ()
  pending :
    VersionedTwoVcpuTwoDeviceCheckpointV1.validatePendingToken v.checkpoint v.pending = .ok ()

/-- The codec of the transactions with a token. -/
def codec (kind : PendingKind) :
    Codec VersionedTwoVcpuTwoDeviceTransactionError (TokenTransaction kind) :=
  ⟨encode, decode kind⟩

variable {v} {bytes : List UInt8}

theorem encode_eq_ok :
    v.encode = .ok bytes ↔
      v.Bound ∧ (parts kind).encode (v.checkpoint, v.registrations, v.pending) = .ok bytes := by
  simp only [encode, bind_eq_ok, mapError_eq_ok, VersionedHostRegistrationPairV1.materialize_eq,
    Except.ok.injEq]
  constructor
  · rintro ⟨_, rfl, _, hbound, _, hpending, hparts⟩
    exact ⟨⟨hbound, hpending⟩, hparts⟩
  · rintro ⟨⟨hbound, hpending⟩, hparts⟩
    exact ⟨_, rfl, (), hbound, (), hpending, hparts⟩

theorem decode_eq_ok :
    decode kind bytes = .ok v ↔
      v.Bound ∧ (parts kind).decode bytes = .ok (v.checkpoint, v.registrations, v.pending) := by
  simp only [decode, bind_eq_ok, mapError_eq_ok, VersionedHostRegistrationPairV1.materialize_eq,
    pure, Except.pure, Except.ok.injEq, Prod.exists]
  constructor
  · rintro ⟨_, _, _, hparts, _, rfl, _, hbound, _, hpending, rfl⟩
    exact ⟨⟨hbound, hpending⟩, hparts⟩
  · rintro ⟨⟨hbound, hpending⟩, hparts⟩
    exact ⟨_, _, _, hparts, _, rfl, (), hbound, (), hpending, rfl⟩

variable (v) in
/-- The bytes of a value for the bytes of its checkpoint. -/
def assemble (checkpoint : List UInt8) : List UInt8 :=
  (tokenTransactionFrame kind).assemble () checkpoint
    (v.registrations.encode ++ encodePendingToken v.pending)

theorem decode_assemble {checkpoint : List UInt8} (hne : checkpoint ≠ [])
    (hcheckpoint : VersionedTwoVcpuTwoDeviceCheckpointV1.decode checkpoint = .ok v.checkpoint)
    (hbound : v.Bound) (hlt : 56 + checkpoint.length + 144 < 2 ^ 64) :
    decode kind (v.assemble checkpoint) = .ok v := by
  have hlen : v.registrations.encode.length = versionedHostRegistrationPairLen :=
    VersionedHostRegistrationPairV1.length_encode
  have hrest : (v.registrations.encode ++ encodePendingToken v.pending).length = 144 := by
    rw [List.length_append, hlen, length_encodePendingToken]
    rfl
  have hsize : (tokenTransactionFrame kind).envelope.headerLen + checkpoint.length +
      (v.registrations.encode ++ encodePendingToken v.pending).length < 2 ^ 64 := by
    rw [hrest]
    exact hlt
  have hparts : (Codec.append versionedHostRegistrationPairLen
      (registrationPairCodec.mapError .registrationPair) (tokenCodec kind)).decode
        (v.registrations.encode ++ encodePendingToken v.pending) =
      .ok (v.registrations, v.pending) := by
    refine Codec.append_decode_eq_ok.mpr ⟨?_, ?_⟩
    · rw [List.take_left' hlen]
      exact Codec.mapError_decode_eq_ok.mpr (registrationPairCodec_decode_encode _)
    · rw [List.drop_left' hlen]
      exact decodePendingToken_eq_ok.mpr rfl
  exact decode_eq_ok.mpr ⟨hbound, (Frame.codec_decode_eq_ok fun _ _ _ _ => rfl).mpr
    ⟨checkpoint, _, mapError_eq_ok.mpr hcheckpoint, hparts, hne, ⟨trivial, hrest⟩, hsize, rfl⟩⟩

theorem codec_canonical
    (h : twoVcpuTwoDeviceCodec.Canonical ((tokenTransactionFrame kind).firstPart bytes)) :
    (codec kind).Canonical bytes := by
  intro v hdecode
  obtain ⟨hbound, hparts⟩ := decode_eq_ok.mp hdecode
  have hcanonical : (parts kind).Canonical bytes := by
    refine Frame.codec_canonical (fun _ _ _ _ => rfl) (Codec.canonical_mapError_iff.mpr h) ?_
    intro rest _
    exact Codec.canonical_append
      (Codec.canonical_mapError_iff.mpr (registrationPairCodec_canonical _))
      (tokenCodec_canonical kind _)
  exact encode_eq_ok.mpr ⟨hbound, hcanonical _ hparts⟩

end TokenTransaction

end MiniHypervisor.Schema
