import Mathlib.Data.Nat.Bitwise
import MiniHypervisor.Schema.Restorable
import MiniHypervisor.Virtio.Devices

/-!
# Decoded devices and running devices

A running virtio-blk device keeps to the bookkeeping of `Virtio/Transport.lean`: whatever the guest
does, its indices agree and its queue is well formed.  A decoder makes a device out of bytes, and
has to check what a run would have established.  The validator of stored states
(`src/pci/virtio_blk_checkpoint.rs`, lines 425-472) checks everything but the indices.  The decoder
of version 3 of the two-vCPU two-device transaction marks the device that its token names as
notified; it does not check that the queue of this device is ready, which a running device does
before it takes a notification.

## Main results

* `decoded_live_iff` : a decoded device keeps to the invariant exactly when the indices in its
  record are equal, and the device of a token has a ready queue exactly when `DRIVER_OK` is set in
  its record.
-/

namespace MiniHypervisor.VirtioBlk

open Control Virtio

/-! ### The invariant of a running device -/

namespace VirtioBlkDevice

/-- The invariant of a running device: the indices agree, the queue has one, two, four or eight
entries, the interrupt status is zero or one, an enabled queue has its ring addresses, and the
status bits are nested, with an enabled queue under `DRIVER_OK`. -/
structure Live (device : VirtioBlkDevice) : Prop where
  indices : device.lastAvailIdx = device.lastUsedIdx
  size : ∃ k ≤ 3, device.queueSize.toNat = 2 ^ k
  isr : device.isrStatus = 0 ∨ device.isrStatus = 1
  rings : device.queueEnabled = true → device.transport.RingsSet
  nested : device.transport.Nested featuresValid
  enabled : device.status &&& virtioStatusDriverOk ≠ 0 → device.queueEnabled = true

end VirtioBlkDevice

namespace VirtioBlkCheckpointState

open VirtioBlkDevice

variable {state : VirtioBlkCheckpointState}

theorem isr_cases {isrStatus : UInt8} (h : isrStatus &&& ~~~virtioIsrQueueInterrupt = 0) :
    isrStatus = 0 ∨ isrStatus = 1 := by
  have hall : ∀ v : BitVec 8, v &&& ~~~1#8 = 0#8 → v = 0#8 ∨ v = 1#8 := by decide +kernel
  rcases hall isrStatus.toBitVec (congrArg UInt8.toBitVec h) with hzero | hone
  · exact .inl (UInt8.toBitVec_inj.mp hzero)
  · exact .inr (UInt8.toBitVec_inj.mp hone)

theorem and_version1_of_ne_zero {features : UInt64} (h : features &&& virtioFVersion1 ≠ 0) :
    features &&& virtioFVersion1 = virtioFVersion1 := by
  have hmask : virtioFVersion1.toNat = 2 ^ 32 := by decide
  have hbit : (features &&& virtioFVersion1).toNat =
      (features.toNat.testBit 32).toNat * 2 ^ 32 := by
    rw [UInt64.toNat_and, hmask, Nat.and_two_pow]
  cases hset : features.toNat.testBit 32 with
  | false =>
      rw [hset] at hbit
      exact absurd (UInt64.toNat_inj.mp (hbit.trans (Nat.zero_mul _))) h
  | true =>
      rw [hset] at hbit
      exact UInt64.toNat_inj.mp (hbit.trans ((Nat.one_mul _).trans hmask.symm))

theorem Valid.featuresValid (h : state.Valid)
    (hset : state.status &&& virtioStatusFeaturesOk ≠ 0) :
    featuresValid state.driverFeatures = true := by
  rw [VirtioBlkDevice.featuresValid, Bool.and_eq_true, beq_iff_eq, beq_iff_eq]
  exact ⟨and_version1_of_ne_zero (h.featuresOk hset).2, h.supported⟩

theorem Valid.nested (h : state.Valid) :
    state.toDevice.transport.Nested VirtioBlkDevice.featuresValid where
  driver := h.driver
  featuresOk hset := by
    have hbits := (h.featuresOk hset).1
    exact ⟨and_ne_zero_of_mask hbits (by decide) (by decide),
      and_ne_zero_of_mask hbits (by decide) (by decide), h.featuresValid hset⟩
  driverOk hset := (h.driverOk hset).1

theorem Valid.live_iff (h : state.Valid) :
    state.toDevice.Live ↔ state.lastAvailIdx = state.lastUsedIdx :=
  ⟨fun hlive => hlive.indices, fun hindices =>
    ⟨hindices, h.size, isr_cases h.isr, h.rings, h.nested, fun hset => (h.driverOk hset).2⟩⟩

/-- A valid state has a ready queue exactly under `DRIVER_OK`, whether or not it is notified. -/
theorem Valid.ensureQueueReady_iff (h : state.Valid) (notifyPending : Bool) :
    { state.toDevice with notifyPending }.ensureQueueReady = .ok () ↔
      state.status &&& virtioStatusDriverOk ≠ 0 := by
  simp only [ensureQueueReady, RegisterSpec.ensureQueueReady, rejectIf_eq_ok, not_or, not_not]
  constructor
  · exact fun hready => hready.1
  · intro hset
    obtain ⟨hfeaturesOk, henabled⟩ := h.driverOk hset
    exact ⟨hset, hfeaturesOk, h.featuresValid hfeaturesOk, henabled, h.rings henabled⟩

end VirtioBlkCheckpointState

end MiniHypervisor.VirtioBlk

namespace MiniHypervisor.Schema

open Bytes Checkpoint Control Kvm Mmio Virtio VirtioBlk

/-! ### The device of a token -/

theorem TokenTransaction.exists_owner {kind : PendingKind} {bytes : List UInt8}
    {v : TokenTransaction kind} {hostMsrs : HostMsrIndexList}
    {checkpoint : BoundedTwoVcpuFullControllerTwoVirtioBlkCheckpoint}
    {pair : HostRegistrationSpecPair} {token : PendingToken kind}
    (hdecode : decode kind bytes = .ok v)
    (hmaterialize : v.materialize hostMsrs = .ok (checkpoint, pair, token)) :
    ∃ state ∈ [v.checkpoint.devices.1, v.checkpoint.devices.2], state.Valid ∧
      token.bar0 = state.bar0 ∧ checkpoint.device token.bar0 = some (materialized token state) := by
  obtain ⟨-, ⟨-, hlt, hdevices⟩, -, device, hdevice, -⟩ := of_materialize hmaterialize
  obtain ⟨hvalid, hvalid'⟩ := valid_of_decode hdecode
  obtain ⟨hconcerns, hmatches⟩ := device_eq_some hdevices hlt hdevice
  rcases hconcerns with hfirst | hsecond
  · have hmem := List.mem_cons_self (a := v.checkpoint.devices.1) (l := [v.checkpoint.devices.2])
    exact ⟨_, hmem, hvalid, hfirst, hmatches _ hmem hfirst ▸ hdevice⟩
  · have hmem : v.checkpoint.devices.2 ∈ [v.checkpoint.devices.1, v.checkpoint.devices.2] :=
      List.mem_cons_of_mem _ (List.mem_singleton_self _)
    exact ⟨_, hmem, hvalid', hsecond, hmatches _ hmem hsecond ▸ hdevice⟩

theorem forall_bar_iff {first second owner : VirtioBlkCheckpointState}
    {P : VirtioBlkCheckpointState → Prop} (hlt : first.bar0 < second.bar0)
    (howner : owner ∈ [first, second]) :
    (∀ state ∈ [first, second], state.bar0 = owner.bar0 → P state) ↔ P owner := by
  refine ⟨fun h => h owner howner rfl, fun h state hstate hbar => ?_⟩
  have hne : first.bar0 ≠ second.bar0 := UInt64.ne_of_lt hlt
  simp only [List.mem_cons, List.not_mem_nil, or_false] at howner hstate
  rcases howner with rfl | rfl <;> rcases hstate with rfl | rfl
  · exact h
  · exact absurd hbar.symm hne
  · exact absurd hbar hne
  · exact h

/-! ### Decoded devices -/

/-- **Decoded devices and running devices.** The device that is materialized from an accepted record
keeps to the invariant of a running device exactly when the indices in the record are equal.  The
device that the token of an accepted transaction of version 3 names is notified, and its queue is
ready exactly when `DRIVER_OK` is set in the record with the BAR of the token. -/
theorem decoded_live_iff (bytes : List UInt8) :
    (∀ state, decodeDeviceState bytes = .ok state →
      ∃ device, state.materialize = .ok device ∧
        (device.Live ↔ u16At bytes 32 = u16At bytes 34)) ∧
    (∀ hostMsrs v checkpoint pair token, TokenTransaction.decode .notification bytes = .ok v →
      v.materialize hostMsrs = .ok (checkpoint, pair, token) →
      ∃ device, checkpoint.device token.bar0 = some device ∧ device.notifyPending = true ∧
        (device.ensureQueueReady = .ok () ↔
          ∀ record ∈ [deviceRecordBefore bytes 2272, deviceRecordBefore bytes 144],
            recordBar record = u64At bytes (bytes.length - 16) →
              recordStatus record &&& virtioStatusDriverOk ≠ 0)) := by
  refine ⟨?_, ?_⟩
  · intro state hdecode
    obtain ⟨hvalid, rfl⟩ := decodeDeviceState_eq_ok.mp hdecode
    refine ⟨_, VirtioBlkCheckpointState.materialize_eq_ok.mpr ⟨hvalid, rfl⟩, ?_⟩
    rw [recordIndices_deviceFields.1, recordIndices_deviceFields.2]
    exact (VirtioBlkCheckpointState.validate_eq_ok.mp hvalid).live_iff
  · intro hostMsrs v checkpoint pair token hdecode hmaterialize
    obtain ⟨rfl, ⟨-, hlt, -⟩, -⟩ := TokenTransaction.of_materialize hmaterialize
    obtain ⟨owner, hmem, hvalid, htoken, hdevice⟩ :=
      TokenTransaction.exists_owner hdecode hmaterialize
    obtain ⟨hrecord, hrecord', hbar⟩ := TokenTransaction.records_of_decode hdecode
    have hnotified : materialized v.pending owner =
        { owner.toDevice with notifyPending := true } := by
      rw [materialized, decide_eq_true ⟨rfl, htoken⟩]
    refine ⟨_, hdevice, by rw [hnotified], ?_⟩
    have howner := forall_bar_iff (P := fun state => state.status &&& virtioStatusDriverOk ≠ 0) hlt
      hmem
    rw [hnotified, hvalid.ensureQueueReady_iff, ← howner, hrecord, hrecord', hbar, htoken]
    simp only [List.mem_cons, List.not_mem_nil, or_false, forall_eq_or_imp, forall_eq,
      recordBar_deviceFields, recordStatus_deviceFields]

/-! ### A notified device -/

/-- A device whose driver has finished keeps to the invariant, and its notification is for a ready
queue. -/
theorem enabledDevice_live :
    (∃ device, (enabledDevice 0xf).materialize = .ok device ∧ device.Live) ∧
      ∃ device, (notifiedCheckpoint 0xf).device 0 = some device ∧ device.notifyPending = true ∧
        device.ensureQueueReady = .ok () := by
  have hvalid : (enabledDevice 0xf).validate = .ok () := by decide +kernel
  have hdecode := decode_notifiedTransaction hvalid
  obtain ⟨hrecord, hrecord', hbar⟩ := TokenTransaction.records_of_decode hdecode
  refine ⟨?_, ?_⟩
  · obtain ⟨device, hdevice, hlive⟩ :=
      (decoded_live_iff (deviceFields (enabledDevice 0xf)).flatten).1 _
        (decodeDeviceState_eq_ok.mpr ⟨hvalid, rfl⟩)
    obtain ⟨havail, hused⟩ := @recordIndices_deviceFields (enabledDevice 0xf)
    exact ⟨device, hdevice, hlive.mpr (havail.trans hused.symm)⟩
  · obtain ⟨device, hdevice, hnotified, hready⟩ :=
      (decoded_live_iff (notifiedTransactionBytes 0xf)).2 sysenterHost _ _ _ _ hdecode
        (materialize_notifiedTransaction hvalid)
    refine ⟨device, hdevice, hnotified, hready.mpr ?_⟩
    rw [hrecord, hrecord', hbar]
    simp only [List.mem_cons, List.not_mem_nil, or_false, forall_eq_or_imp, forall_eq,
      recordBar_deviceFields, recordStatus_deviceFields]
    exact ⟨fun _ => by decide, fun hzero => absurd hzero (by decide)⟩

/-- A record whose indices differ is accepted, and so is a notification for a device whose driver
has not finished, where no request can be served. -/
theorem unready_devices_accepted :
    (∃ state,
        decodeDeviceState (deviceFields { enabledDevice 0xf with lastAvailIdx := 1 }).flatten =
          .ok state ∧ ∃ device, state.materialize = .ok device ∧ ¬ device.Live) ∧
      TokenTransaction.decode .notification (notifiedTransactionBytes 0xb) =
        .ok (notifiedTransaction 0xb) ∧
      (notifiedTransaction 0xb).materialize sysenterHost =
        .ok (notifiedCheckpoint 0xb, idlePair, (notifiedTransaction 0xb).pending) ∧
      ∃ device, (notifiedCheckpoint 0xb).device (notifiedTransaction 0xb).pending.bar0 =
          some device ∧
        device.notifyPending = true ∧ device.ensureQueueReady = .error .queueNotReady := by
  have hvalid : ({ enabledDevice 0xf with lastAvailIdx := 1 } :
      VirtioBlkCheckpointState).validate = .ok () := by decide +kernel
  have hvalid' : (enabledDevice 0xb).validate = .ok () := by decide +kernel
  refine ⟨⟨_, decodeDeviceState_eq_ok.mpr ⟨hvalid, rfl⟩, _,
    VirtioBlkCheckpointState.materialize_eq_ok.mpr ⟨hvalid, rfl⟩, fun hlive => ?_⟩,
    decode_notifiedTransaction hvalid', materialize_notifiedTransaction hvalid',
    _, if_pos rfl, rfl, by decide +kernel⟩
  exact absurd hlive.indices (by decide)

end MiniHypervisor.Schema
