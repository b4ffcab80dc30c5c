import MiniHypervisor.Schema.Transactions

/-!
# Where the parts of a string are

Every container ends with its last part, so the records in an accepted string are found by their
distance from its end, whatever the sizes of the headers and of the guest.  The distances are
constants: a device record has 2128 bytes, a registration 48, a pair of registrations 128, a token
16.
-/

namespace MiniHypervisor.Schema

open Bytes Checkpoint Control Kvm VirtioBlk

/-! ### Device records -/

/-- The device record in a string that ends `n` bytes before its end. -/
def deviceRecordBefore (bytes : List UInt8) (n : ℕ) : List UInt8 :=
  slice bytes (bytes.length - n - virtioBlkStateLen) virtioBlkStateLen

/-- The BAR in a device record. -/
def recordBar (record : List UInt8) : UInt64 := u64At record 0

/-- The device status in a device record. -/
def recordStatus (record : List UInt8) : UInt8 := record.getD 24 0

/-- The interrupt status in a device record. -/
def recordIsrStatus (record : List UInt8) : UInt8 := record.getD 26 0

section DeviceRecords

variable {state : VirtioBlkCheckpointState}

theorem recordBar_deviceFields : recordBar (deviceFields state).flatten = state.bar0 :=
  ((eq_flatten_deviceFields_iff length_deviceFields).mp rfl).1

theorem recordStatus_deviceFields : recordStatus (deviceFields state).flatten = state.status :=
  ((eq_flatten_deviceFields_iff length_deviceFields).mp rfl).2.2.2.2.1

theorem recordIsrStatus_deviceFields :
    recordIsrStatus (deviceFields state).flatten = state.isrStatus :=
  ((eq_flatten_deviceFields_iff length_deviceFields).mp rfl).2.2.2.2.2.2.1

theorem recordIndices_deviceFields :
    u16At (deviceFields state).flatten 32 = state.lastAvailIdx ∧
      u16At (deviceFields state).flatten 34 = state.lastUsedIdx := by
  obtain ⟨-, -, -, -, -, -, -, -, -, -, havail, hused, -⟩ :=
    (eq_flatten_deviceFields_iff (@length_deviceFields state)).mp rfl
  exact ⟨havail, hused⟩

theorem deviceRecordBefore_append (pre : List UInt8) {record post : List UInt8} {n : ℕ}
    (hrecord : record.length = virtioBlkStateLen) (hpost : post.length = n) :
    deviceRecordBefore (pre ++ (record ++ post)) n = record :=
  slice_before pre hrecord hpost

end DeviceRecords

/-! ### Registration records -/

/-- The registration in a string that ends `n` bytes before its end. -/
def registrationRecordBefore (bytes : List UInt8) (n : ℕ) : List UInt8 :=
  slice bytes (bytes.length - n - 48) 48

theorem registrationRecordBefore_append (pre : List UInt8) {record post : List UInt8} {n : ℕ}
    (hrecord : record.length = 48) (hpost : post.length = n) :
    registrationRecordBefore (pre ++ (record ++ post)) n = record :=
  slice_before pre hrecord hpost

theorem registrationRecordBefore_zero (pre : List UInt8) {record : List UInt8}
    (hrecord : record.length = 48) : registrationRecordBefore (pre ++ record) 0 = record := by
  have hlast := registrationRecordBefore_append pre hrecord (List.length_nil (α := UInt8))
  rwa [List.append_nil] at hlast

theorem registrationRecordBefore_pair (pre : List UInt8) (v : VersionedHostRegistrationPairV1) :
    registrationRecordBefore (pre ++ v.encode) 48 =
        VersionedHostRegistrationSpecV1.encode ⟨v.pair.first⟩ ∧
      registrationRecordBefore (pre ++ v.encode) 0 =
        VersionedHostRegistrationSpecV1.encode ⟨v.pair.second⟩ := by
  obtain ⟨header, hheader⟩ := v.exists_encode_eq_append
  have hfirst : (VersionedHostRegistrationSpecV1.encode ⟨v.pair.first⟩).length = 48 :=
    VersionedHostRegistrationSpecV1.length_encode
  have hsecond : (VersionedHostRegistrationSpecV1.encode ⟨v.pair.second⟩).length = 48 :=
    VersionedHostRegistrationSpecV1.length_encode
  rw [hheader, ← List.append_assoc pre]
  refine ⟨registrationRecordBefore_append _ hfirst hsecond, ?_⟩
  rw [← List.append_assoc]
  exact registrationRecordBefore_zero _ hsecond

/-! ### Checkpoints -/

variable {bytes : List UInt8}

theorem VersionedFullControllerCheckpointV1.exists_append_of_decode
    {v : VersionedFullControllerCheckpointV1} (hdecode : decode bytes = .ok v) :
    ∃ header, bytes = header ++ (v.states.block ++ v.lapic.regs.1) := by
  obtain ⟨-, guest, -, -, rfl⟩ := decode_eq_ok.mp hdecode
  obtain ⟨header, hheader⟩ := Frame.exists_assemble_eq_append fullControllerFrame () guest
    (v.states.block ++ v.lapic.regs.1)
  exact ⟨header ++ guest, by rw [hheader, List.append_assoc]⟩

/-- An accepted checkpoint of one device ends with its controller checkpoint and its record. -/
theorem VersionedFullControllerVirtioBlkCheckpointV1.exists_append_of_decode
    {v : VersionedFullControllerVirtioBlkCheckpointV1} (hdecode : decode bytes = .ok v) :
    ∃ header controller, VersionedFullControllerCheckpointV1.decode controller = .ok v.controller ∧
      bytes = header ++ (controller ++ (deviceFields v.device).flatten) := by
  obtain ⟨header, controller, rest, hcontroller, hdevice, rfl⟩ :=
    Frame.exists_append_of_codec_decode (decode_eq_ok.mp hdecode)
  obtain ⟨-, rfl⟩ := decodeDeviceState_eq_ok.mp hdevice
  exact ⟨header, controller, mapError_eq_ok.mp hcontroller, rfl⟩

namespace TwoDeviceCheckpoint

variable {κ α : Type} {frame : Frame (TwoDeviceCheckpointError κ) Unit} {controller : Codec κ α}
  {v : TwoDeviceCheckpoint α}

/-- An accepted checkpoint of two devices ends with its controller checkpoint and both records, of
valid states. -/
theorem exists_append_of_decodeWith (hdecode : decodeWith frame controller bytes = .ok v) :
    ∃ header controllerBytes, controller.decode controllerBytes = .ok v.controller ∧
      v.devices.1.Valid ∧ v.devices.2.Valid ∧
      bytes = header ++ (controllerBytes ++ v.deviceRecords) := by
  obtain ⟨-, hparts⟩ := decodeWith_eq_ok.mp hdecode
  obtain ⟨header, first, rest, hfirst, hrest, rfl⟩ := Frame.exists_append_of_codec_decode hparts
  obtain ⟨hdevice, hdevice'⟩ := Codec.append_decode_eq_ok.mp (mapError_eq_ok.mp hrest)
  obtain ⟨hvalid, hdevice⟩ := decodeDeviceState_eq_ok.mp hdevice
  obtain ⟨hvalid', hdevice'⟩ := decodeDeviceState_eq_ok.mp hdevice'
  have hrecords : rest = v.deviceRecords := by
    rw [deviceRecords, ← hdevice, ← hdevice', List.take_append_drop]
  exact ⟨header, first, mapError_eq_ok.mp hfirst,
    VirtioBlkCheckpointState.validate_eq_ok.mp hvalid,
    VirtioBlkCheckpointState.validate_eq_ok.mp hvalid', by rw [hrecords]⟩

/-- Where the device records are, when `n` bytes follow an accepted checkpoint of two devices. -/
theorem records_of_decodeWith (hdecode : decodeWith frame controller bytes = .ok v)
    (pre : List UInt8) {post : List UInt8} {n : ℕ} (hpost : post.length = n) :
    deviceRecordBefore (pre ++ (bytes ++ post)) (virtioBlkStateLen + n) =
        (deviceFields v.devices.1).flatten ∧
      deviceRecordBefore (pre ++ (bytes ++ post)) n = (deviceFields v.devices.2).flatten := by
  obtain ⟨header, controllerBytes, -, -, -, rfl⟩ := exists_append_of_decodeWith hdecode
  simp only [deviceRecords, List.append_assoc]
  rw [← List.append_assoc header, ← List.append_assoc pre]
  refine ⟨deviceRecordBefore_append _ length_deviceFields ?_, ?_⟩
  · rw [List.length_append, length_deviceFields, hpost]
  · rw [← List.append_assoc (pre ++ _)]
    exact deviceRecordBefore_append _ length_deviceFields hpost

end TwoDeviceCheckpoint

/-! ### Transactions of one vCPU -/

namespace VersionedCheckpointTransactionV1

variable {v : VersionedCheckpointTransactionV1}

theorem exists_append_of_decode (hdecode : decode bytes = .ok v) :
    ∃ header checkpoint,
      VersionedFullControllerVirtioBlkCheckpointV1.decode checkpoint = .ok v.checkpoint ∧
      bytes = header ++ (checkpoint ++ v.registration.encode) := by
  obtain ⟨header, checkpoint, rest, hcheckpoint, hrest, rfl⟩ :=
    Frame.exists_append_of_codec_decode (decode_eq_ok.mp hdecode)
  obtain rfl := VersionedHostRegistrationSpecV1.decode_eq_ok.mp (mapError_eq_ok.mp hrest)
  exact ⟨header, checkpoint, mapError_eq_ok.mp hcheckpoint, rfl⟩

theorem records_of_decode (hdecode : decode bytes = .ok v) :
    deviceRecordBefore bytes 48 = (deviceFields v.checkpoint.device).flatten ∧
      registrationRecordBefore bytes 0 = v.registration.encode := by
  obtain ⟨header, checkpoint, hcheckpoint, rfl⟩ := exists_append_of_decode hdecode
  obtain ⟨header', controller, -, rfl⟩ :=
    VersionedFullControllerVirtioBlkCheckpointV1.exists_append_of_decode hcheckpoint
  have hlen : v.registration.encode.length = 48 := VersionedHostRegistrationSpecV1.length_encode
  refine ⟨?_, ?_⟩
  · have hrecord := deviceRecordBefore_append (header ++ (header' ++ controller))
      (@length_deviceFields v.checkpoint.device) hlen
    simpa only [List.append_assoc] using hrecord
  · rw [← List.append_assoc]
    exact registrationRecordBefore_zero _ hlen

end VersionedCheckpointTransactionV1

namespace VersionedTwoDeviceCheckpointTransactionV1

variable {v : VersionedTwoDeviceCheckpointTransactionV1}

theorem exists_append_of_decode (hdecode : decode bytes = .ok v) :
    ∃ header checkpoint,
      VersionedFullControllerTwoVirtioBlkCheckpointV1.decode checkpoint = .ok v.checkpoint ∧
      bytes = header ++ (checkpoint ++ v.registrations.encode) := by
  obtain ⟨header, checkpoint, rest, hcheckpoint, hrest, rfl⟩ :=
    Frame.exists_append_of_codec_decode (decode_eq_ok.mp hdecode)
  obtain rfl := VersionedHostRegistrationPairV1.decode_eq_ok.mp (mapError_eq_ok.mp hrest)
  exact ⟨header, checkpoint, mapError_eq_ok.mp hcheckpoint, rfl⟩

theorem records_of_decode (hdecode : decode bytes = .ok v) :
    (deviceRecordBefore bytes 2256 = (deviceFields v.checkpoint.devices.1).flatten ∧
        deviceRecordBefore bytes 128 = (deviceFields v.checkpoint.devices.2).flatten) ∧
      registrationRecordBefore bytes 48 =
        VersionedHostRegistrationSpecV1.encode ⟨v.registrations.pair.first⟩ ∧
      registrationRecordBefore bytes 0 =
        VersionedHostRegistrationSpecV1.encode ⟨v.registrations.pair.second⟩ := by
  obtain ⟨header, checkpoint, hcheckpoint, rfl⟩ := exists_append_of_decode hdecode
  obtain ⟨hfirst, hsecond⟩ := TwoDeviceCheckpoint.records_of_decodeWith hcheckpoint header
    (@VersionedHostRegistrationPairV1.length_encode v.registrations)
  refine ⟨⟨hfirst, hsecond⟩, ?_⟩
  rw [← List.append_assoc]
  exact registrationRecordBefore_pair _ _

end VersionedTwoDeviceCheckpointTransactionV1

/-! ### Transactions of two vCPUs -/

namespace VersionedTwoVcpuTwoDeviceTransactionV1

variable {v : VersionedTwoVcpuTwoDeviceTransactionV1}

theorem exists_append_of_decode (hdecode : decode bytes = .ok v) :
    ∃ header checkpoint,
      VersionedTwoVcpuTwoDeviceCheckpointV1.decode checkpoint = .ok v.checkpoint ∧
      bytes = header ++ (checkpoint ++ v.registrations.encode) := by
  obtain ⟨header, checkpoint, rest, hcheckpoint, hrest, rfl⟩ :=
    Frame.exists_append_of_codec_decode (decode_eq_ok.mp hdecode).2
  obtain rfl := VersionedHostRegistrationPairV1.decode_eq_ok.mp (mapError_eq_ok.mp hrest)
  exact ⟨header, checkpoint, mapError_eq_ok.mp hcheckpoint, rfl⟩

theorem records_of_decode (hdecode : decode bytes = .ok v) :
    deviceRecordBefore bytes 2256 = (deviceFields v.checkpoint.devices.1).flatten ∧
      deviceRecordBefore bytes 128 = (deviceFields v.checkpoint.devices.2).flatten := by
  obtain ⟨header, checkpoint, hcheckpoint, rfl⟩ := exists_append_of_decode hdecode
  obtain ⟨hfirst, hsecond⟩ := TwoDeviceCheckpoint.records_of_decodeWith hcheckpoint header
    (@VersionedHostRegistrationPairV1.length_encode v.registrations)
  exact ⟨hfirst, hsecond⟩

theorem valid_of_decode (hdecode : decode bytes = .ok v) :
    v.checkpoint.devices.1.Valid ∧ v.checkpoint.devices.2.Valid := by
  obtain ⟨-, checkpoint, hcheckpoint, -⟩ := exists_append_of_decode hdecode
  obtain ⟨-, -, -, hvalid, hvalid', -⟩ :=
    TwoDeviceCheckpoint.exists_append_of_decodeWith hcheckpoint
  exact ⟨hvalid, hvalid'⟩

end VersionedTwoVcpuTwoDeviceTransactionV1

theorem u64At_encodePendingToken {kind : PendingKind} (pre : List UInt8)
    (token : PendingToken kind) :
    u64At (pre ++ encodePendingToken token) ((pre ++ encodePendingToken token).length - 16) =
      token.bar0 := by
  have hlen : (encodePendingToken token).length = 16 := length_encodePendingToken
  rw [u64At, slice_length_sub pre hlen.ge, hlen]
  exact ((eq_encodePendingToken_iff hlen).mp rfl).1

namespace TokenTransaction

variable {kind : PendingKind} {v : TokenTransaction kind}

theorem exists_append_of_decode (hdecode : decode kind bytes = .ok v) :
    ∃ header checkpoint,
      VersionedTwoVcpuTwoDeviceCheckpointV1.decode checkpoint = .ok v.checkpoint ∧
      bytes = header ++
        (checkpoint ++ (v.registrations.encode ++ encodePendingToken v.pending)) := by
  obtain ⟨header, checkpoint, rest, hcheckpoint, hrest, rfl⟩ :=
    Frame.exists_append_of_codec_decode (decode_eq_ok.mp hdecode).2
  obtain ⟨hpair, htoken⟩ := Codec.append_decode_eq_ok.mp hrest
  refine ⟨header, checkpoint, mapError_eq_ok.mp hcheckpoint, ?_⟩
  rw [← VersionedHostRegistrationPairV1.decode_eq_ok.mp (mapError_eq_ok.mp hpair),
    ← decodePendingToken_eq_ok.mp htoken, List.take_append_drop]

theorem records_of_decode (hdecode : decode kind bytes = .ok v) :
    deviceRecordBefore bytes 2272 = (deviceFields v.checkpoint.devices.1).flatten ∧
      deviceRecordBefore bytes 144 = (deviceFields v.checkpoint.devices.2).flatten ∧
      u64At bytes (bytes.length - 16) = v.pending.bar0 := by
  obtain ⟨header, checkpoint, hcheckpoint, rfl⟩ := exists_append_of_decode hdecode
  have htail : (v.registrations.encode ++ encodePendingToken v.pending).length = 144 := by
    rw [List.length_append, VersionedHostRegistrationPairV1.length_encode,
      length_encodePendingToken]
    rfl
  obtain ⟨hfirst, hsecond⟩ := TwoDeviceCheckpoint.records_of_decodeWith hcheckpoint header htail
  refine ⟨hfirst, hsecond, ?_⟩
  rw [← List.append_assoc, ← List.append_assoc]
  exact u64At_encodePendingToken _ _

theorem valid_of_decode (hdecode : decode kind bytes = .ok v) :
    v.checkpoint.devices.1.Valid ∧ v.checkpoint.devices.2.Valid := by
  obtain ⟨-, checkpoint, hcheckpoint, -⟩ := exists_append_of_decode hdecode
  obtain ⟨-, -, -, hvalid, hvalid', -⟩ :=
    TwoDeviceCheckpoint.exists_append_of_decodeWith hcheckpoint
  exact ⟨hvalid, hvalid'⟩

end TokenTransaction

end MiniHypervisor.Schema
