import MiniHypervisor.Mmio.AtomicBus
import MiniHypervisor.Schema.Layout
import MiniHypervisor.Schema.RoundTrip

/-!
# Restoring decoded transactions

Whether the devices of a two-vCPU two-device transaction that was decoded and materialized can be
restored on a bus with fully quiescent devices in memory at both BARs.  The decoders accept every
interrupt status that a device can have; the restores of `Mmio/AtomicBus.lean` want it to be clear
at each device without a token.  So the answer is in the bytes: it depends on the interrupt status
in the device records.

## Main results

* `restore_iff_isr_clear` : version 1 is restored exactly when both interrupt statuses are clear,
  versions 2 and 3 when that of the device without the token is.
-/

namespace MiniHypervisor.Schema

open Bytes Checkpoint Control Kvm Mmio VirtioBlk

namespace TwoDeviceCheckpoint

variable {κ α γ : Type} {frame : Frame (TwoDeviceCheckpointError κ) Unit} {controller : Codec κ α}
  {bytes : List UInt8} {v : TwoDeviceCheckpoint α}

/-- What a materialized container holds: its controllers, and under increasing BARs the devices that
`device` makes of the stored states. -/
structure MaterializesTo (v : TwoDeviceCheckpoint α) (materialize : α → Except κ γ)
    (device : VirtioBlkCheckpointState → VirtioBlkDevice)
    (checkpoint : BoundedTwoDeviceCheckpoint γ) : Prop where
  controller : materialize v.controller = .ok checkpoint.controller
  increasing : v.devices.1.bar0 < v.devices.2.bar0
  devices : checkpoint.devices =
    ((v.devices.1.bar0, device v.devices.1), (v.devices.2.bar0, device v.devices.2))

theorem of_materializeWith {materialize : α → Except κ γ}
    {checkpoint : BoundedTwoDeviceCheckpoint γ}
    (h : v.materializeWith materialize = .ok checkpoint) :
    v.MaterializesTo materialize VirtioBlkCheckpointState.toDevice checkpoint := by
  simp only [materializeWith, validateTwoDeviceBars, bind_eq_ok, rejectIf_eq_ok, mapError_eq_ok,
    VirtioBlkCheckpointState.materialize_eq_ok, pure, Except.pure, Except.ok.injEq] at h
  obtain ⟨_, hbars, _, hcontroller, _, ⟨-, rfl⟩, _, ⟨-, rfl⟩, rfl⟩ := h
  exact ⟨hcontroller, UInt64.not_le.mp (not_or.mp hbars).1, rfl⟩

end TwoDeviceCheckpoint

/-! ### Version 1 -/

section VersionOne

variable {bytes : List UInt8} {hostMsrs : HostMsrIndexList}
  {v : VersionedTwoVcpuTwoDeviceTransactionV1}
  {checkpoint : BoundedTwoVcpuFullControllerTwoVirtioBlkCheckpoint}
  {pair : HostRegistrationSpecPair}

namespace VersionedTwoVcpuTwoDeviceTransactionV1

theorem of_materialize (h : v.materialize hostMsrs = .ok (checkpoint, pair)) :
    v.checkpoint.MaterializesTo (·.materialize hostMsrs) VirtioBlkCheckpointState.toDevice
        checkpoint ∧
      validateTransactionRegistrationBinding checkpoint.deviceBars pair = .ok () := by
  simp only [materialize, bind_eq_ok, mapError_eq_ok, pure, Except.pure, Except.ok.injEq,
    Prod.mk.injEq] at h
  obtain ⟨_, hcheckpoint, _, -, _, hbinding, rfl, rfl⟩ := h
  exact ⟨TwoDeviceCheckpoint.of_materializeWith hcheckpoint, hbinding⟩

end VersionedTwoVcpuTwoDeviceTransactionV1

theorem checkpointFullyQuiescent_toDevice {state : VirtioBlkCheckpointState} :
    state.toDevice.checkpointFullyQuiescent = true ↔ state.isrStatus = 0 := by
  simp [VirtioBlkDevice.checkpointFullyQuiescent, VirtioBlkCheckpointState.toDevice]

theorem quiescent_admits_iff {state : VirtioBlkCheckpointState} :
    TwoDeviceRestore.quiescent.Admits (state.bar0, state.toDevice) ↔ state.isrStatus = 0 := by
  rw [← checkpointFullyQuiescent_toDevice]
  exact ⟨fun h => h.2.2, fun h => ⟨rfl, rfl, h⟩⟩

end VersionOne

/-! ### Versions 2 and 3 -/

/-- The device that a transaction with a token makes of a stored state: it is notified if the token
is for a pending notification at its BAR. -/
def materialized {kind : PendingKind} (token : PendingToken kind)
    (state : VirtioBlkCheckpointState) : VirtioBlkDevice :=
  { state.toDevice with
    notifyPending := decide (kind = .notification ∧ token.bar0 = state.bar0) }

section Token

variable {kind : PendingKind} {bytes : List UInt8} {hostMsrs : HostMsrIndexList}
  {v : TokenTransaction kind} {token : PendingToken kind}
  {state : VirtioBlkCheckpointState}
  {checkpoint : BoundedTwoVcpuFullControllerTwoVirtioBlkCheckpoint}
  {pair : HostRegistrationSpecPair}

theorem materialized_of_ne (h : token.bar0 ≠ state.bar0) :
    materialized token state = state.toDevice := by
  rw [materialized, decide_eq_false (fun hand => h hand.2)]
  rfl

theorem materializeDevice_eq_ok {token : VirtioBlkPendingNotificationToken}
    {device : VirtioBlkDevice}
    (h : VersionedTwoVcpuTwoDeviceCheckpointV1.materializeDevice token state = .ok device) :
    device = materialized token state := by
  unfold VersionedTwoVcpuTwoDeviceCheckpointV1.materializeDevice at h
  split_ifs at h with hbar
  · simp only [PendingToken.materializeNotified, bind_eq_ok, mapError_eq_ok, pure, Except.pure,
      Except.ok.injEq, VirtioBlkCheckpointState.materialize_eq_ok] at h
    obtain ⟨_, -, _, ⟨-, rfl⟩, _, -, rfl⟩ := h
    rw [materialized, decide_eq_true ⟨rfl, hbar⟩]
  · obtain ⟨-, rfl⟩ := VirtioBlkCheckpointState.materialize_eq_ok.mp (mapError_eq_ok.mp h)
    exact (materialized_of_ne hbar).symm

namespace TokenTransaction

theorem of_materializeCheckpoint {stored : VersionedTwoVcpuTwoDeviceCheckpointV1}
    (h : materializeCheckpoint hostMsrs stored kind token = .ok checkpoint) :
    stored.MaterializesTo (·.materialize hostMsrs) (materialized token) checkpoint := by
  cases kind with
  | completion =>
      rw [materializeCheckpoint, VersionedTwoVcpuTwoDeviceCheckpointV1.materialize] at h
      exact TwoDeviceCheckpoint.of_materializeWith h
  | notification =>
      simp only [materializeCheckpoint,
        VersionedTwoVcpuTwoDeviceCheckpointV1.materializeWithPendingNotification,
        TwoDeviceCheckpoint.validateTwoDeviceBars, bind_eq_ok, rejectIf_eq_ok, mapError_eq_ok, pure,
        Except.pure, Except.ok.injEq] at h
      obtain ⟨_, hbars, _, -, _, hcontroller, first, hfirst, second, hsecond, rfl⟩ := h
      refine ⟨hcontroller, UInt64.not_le.mp (not_or.mp hbars).1, ?_⟩
      rw [← materializeDevice_eq_ok hfirst, ← materializeDevice_eq_ok hsecond]

/-- What a materialized transaction holds: its registrations belong to its devices, the device of
its token is one of the two, and the token is valid for it. -/
theorem of_materialize (h : v.materialize hostMsrs = .ok (checkpoint, pair, token)) :
    token = v.pending ∧
      v.checkpoint.MaterializesTo (·.materialize hostMsrs) (materialized token) checkpoint ∧
      validateTransactionRegistrationBinding checkpoint.deviceBars pair = .ok () ∧
      ∃ device, checkpoint.device token.bar0 = some device ∧
        token.validateDevice device = .ok () := by
  simp only [materialize, bind_eq_ok, mapError_eq_ok, pure, Except.pure] at h
  obtain ⟨found, hcheckpoint, _, -, _, hbinding, hrest⟩ := h
  cases hdevice : found.device v.pending.bar0 with
  | none =>
      simp only [hdevice, bind_eq_ok] at hrest
      obtain ⟨_, ⟨⟩, -⟩ := hrest
  | some device =>
      simp only [hdevice, bind_eq_ok, mapError_eq_ok, Except.ok.injEq, Prod.mk.injEq] at hrest
      obtain ⟨_, hvalid, rfl, rfl, rfl⟩ := hrest
      exact ⟨rfl, of_materializeCheckpoint hcheckpoint, hbinding, device, hdevice, hvalid⟩

end TokenTransaction

theorem device_eq_some {first second : VirtioBlkCheckpointState} {device : VirtioBlkDevice}
    (hdevices : checkpoint.devices =
      ((first.bar0, materialized token first), (second.bar0, materialized token second)))
    (hlt : first.bar0 < second.bar0) (hdevice : checkpoint.device token.bar0 = some device) :
    (token.bar0 = first.bar0 ∨ token.bar0 = second.bar0) ∧
      ∀ state ∈ [first, second], token.bar0 = state.bar0 →
        device = materialized token state := by
  have hne : first.bar0 ≠ second.bar0 := UInt64.ne_of_lt hlt
  rw [BoundedTwoDeviceCheckpoint.device, hdevices] at hdevice
  simp only [List.mem_cons, List.not_mem_nil, or_false, forall_eq_or_imp, forall_eq]
  split_ifs at hdevice with hfirst hsecond
  · refine ⟨.inl hfirst.symm, fun _ => (Option.some.inj hdevice).symm, fun hsecond => ?_⟩
    exact absurd (hfirst.trans hsecond) hne
  · refine ⟨.inr hsecond.symm, fun h => absurd h.symm hfirst, fun _ => ?_⟩
    exact (Option.some.inj hdevice).symm

/-- A device without the token can be restored exactly when its interrupt status is clear. -/
theorem pending_admits_iff (h : token.bar0 = state.bar0 →
    token.validateDevice (materialized token state) = .ok ()) :
    (TwoDeviceRestore.pending kind token).Admits (state.bar0, materialized token state) ↔
      (state.bar0 ≠ token.bar0 → state.isrStatus = 0) := by
  by_cases hbar : state.bar0 = token.bar0
  · simp only [TwoDeviceRestore.Admits, if_pos hbar]
    exact ⟨fun _ hne => absurd hbar hne, fun _ => ⟨rfl, rfl, h hbar.symm⟩⟩
  · simp only [TwoDeviceRestore.Admits, if_neg hbar, materialized_of_ne (Ne.symm hbar),
      checkpointFullyQuiescent_toDevice]
    exact ⟨fun h _ => h.2, fun h => ⟨rfl, h hbar⟩⟩

end Token

/-! ### The transactions -/

open MmioBus

section Restore

variable {bus : MmioBus} {first second : VirtioBlkCheckpointState}

theorem restoreTwo_eq_ok (hlt : first.bar0 < second.bar0) (hfirst : bus.Ready first.bar0)
    (hsecond : bus.Ready second.bar0) :
    (∃ bus', (restoreTwoVirtioBlkCheckpointsAtomic ((first.bar0, first.toDevice),
        (second.bar0, second.toDevice))).run bus = .ok () bus') ↔
      first.isrStatus = 0 ∧ second.isrStatus = 0 := by
  rw [← quiescent_admits_iff, ← quiescent_admits_iff]
  refine (@TwoDeviceRestore.run_eq_ok bus .quiescent _).trans ⟨?_, ?_⟩
  · rintro ⟨-, -, hadmits, hadmits', -, -⟩
    exact ⟨hadmits, hadmits'⟩
  · rintro ⟨hadmits, hadmits'⟩
    exact ⟨hlt, trivial, hadmits, hadmits', hfirst, hsecond⟩

theorem restoreTwoWithPending_eq_ok {kind : PendingKind} {token : PendingToken kind}
    (hlt : first.bar0 < second.bar0) (hfirst : bus.Ready first.bar0)
    (hsecond : bus.Ready second.bar0)
    (hconcerns : token.bar0 = first.bar0 ∨ token.bar0 = second.bar0)
    (hvalid : ∀ state ∈ [first, second], token.bar0 = state.bar0 →
      token.validateDevice (materialized token state) = .ok ()) :
    (∃ bus', (restoreTwoWithPending ((first.bar0, materialized token first),
        (second.bar0, materialized token second)) token).run bus = .ok () bus') ↔
      ∀ state ∈ [first, second], state.bar0 ≠ token.bar0 → state.isrStatus = 0 := by
  simp only [List.mem_cons, List.not_mem_nil, or_false, forall_eq_or_imp, forall_eq] at hvalid ⊢
  rw [← pending_admits_iff hvalid.1, ← pending_admits_iff hvalid.2]
  refine (@TwoDeviceRestore.run_eq_ok bus (.pending kind token) _).trans ⟨?_, ?_⟩
  · rintro ⟨-, -, hadmits, hadmits', -, -⟩
    exact ⟨hadmits, hadmits'⟩
  · rintro ⟨hadmits, hadmits'⟩
    exact ⟨hlt, hconcerns, hadmits, hadmits', hfirst, hsecond⟩

end Restore

/-- **Restoring a decoded transaction.** Let both live devices be in memory and fully quiescent.
The devices of version 1 are restored exactly when the interrupt status is clear in both device
records.  Those of versions 2 and 3 are restored exactly when it is clear in the record of the
device whose BAR is not that of the token, which is at the end of the string. -/
theorem restore_iff_isr_clear (bytes : List UInt8) (hostMsrs : HostMsrIndexList) (bus : MmioBus) :
    (∀ v checkpoint pair, VersionedTwoVcpuTwoDeviceTransactionV1.decode bytes = .ok v →
      v.materialize hostMsrs = .ok (checkpoint, pair) →
      bus.Ready checkpoint.deviceBars.1 → bus.Ready checkpoint.deviceBars.2 →
      ((∃ bus', (restoreTwoVirtioBlkCheckpointsAtomic checkpoint.devices).run bus = .ok () bus') ↔
        ∀ record ∈ [deviceRecordBefore bytes 2256, deviceRecordBefore bytes 128],
          recordIsrStatus record = 0)) ∧
    (∀ kind v checkpoint pair token, TokenTransaction.decode kind bytes = .ok v →
      v.materialize hostMsrs = .ok (checkpoint, pair, token) →
      bus.Ready checkpoint.deviceBars.1 → bus.Ready checkpoint.deviceBars.2 →
      ((∃ bus', (restoreTwoWithPending checkpoint.devices token).run bus = .ok () bus') ↔
        ∀ record ∈ [deviceRecordBefore bytes 2272, deviceRecordBefore bytes 144],
          recordBar record ≠ u64At bytes (bytes.length - 16) → recordIsrStatus record = 0)) := by
  refine ⟨?_, ?_⟩
  · intro v checkpoint pair hdecode hmaterialize hfirst hsecond
    obtain ⟨⟨-, hlt, hdevices⟩, -⟩ :=
      VersionedTwoVcpuTwoDeviceTransactionV1.of_materialize hmaterialize
    obtain ⟨hrecord, hrecord'⟩ := VersionedTwoVcpuTwoDeviceTransactionV1.records_of_decode hdecode
    rw [BoundedTwoDeviceCheckpoint.deviceBars, hdevices] at hfirst hsecond
    rw [hdevices, restoreTwo_eq_ok hlt hfirst hsecond]
    simp only [hrecord, hrecord', List.mem_cons, List.not_mem_nil, or_false, forall_eq_or_imp,
      forall_eq, recordIsrStatus_deviceFields]
  · intro kind v checkpoint pair token hdecode hmaterialize hfirst hsecond
    obtain ⟨rfl, ⟨-, hlt, hdevices⟩, -, device, hdevice, hvalid⟩ :=
      TokenTransaction.of_materialize hmaterialize
    obtain ⟨hconcerns, hmatches⟩ := device_eq_some hdevices hlt hdevice
    obtain ⟨hrecord, hrecord', hbar⟩ := TokenTransaction.records_of_decode hdecode
    rw [BoundedTwoDeviceCheckpoint.deviceBars, hdevices] at hfirst hsecond
    rw [hdevices, restoreTwoWithPending_eq_ok hlt hfirst hsecond hconcerns
      fun state hstate hbar => hmatches state hstate hbar ▸ hvalid]
    simp only [hrecord, hrecord', hbar, List.mem_cons, List.not_mem_nil, or_false,
      forall_eq_or_imp, forall_eq, recordBar_deviceFields, recordIsrStatus_deviceFields]

/-! ### An idle machine -/

/-- The vCPUs of the idle machine with their controllers. -/
def idleTwoVcpuCheckpoint : BoundedTwoVcpuFullControllerCheckpoint where
  base := {
    primaryId := 0
    primary := {
      pages := (unusableSegmentCheckpoint 0).pages
      vcpu := {
        registers := (unusableSegmentCheckpoint 0).registers
        specialRegisters := (unusableSegmentCheckpoint 0).specialRegisters
        msrs := storedSnapshot sysenterMsrs } }
    secondaryId := 1
    secondary := {
      registers := (unusableSegmentState 0).registers
      specialRegisters := (unusableSegmentState 0).specialRegisters
      msrs := storedSnapshot sysenterMsrs } }
  masterPic := ⟨default⟩
  slavePic := ⟨default⟩
  ioapic := idleIoapic
  lapics := ((0, ⟨.zeros _⟩), (1, ⟨.zeros _⟩))
  mpStates := ((0, 0), (1, 0))

theorem materialize_sysenterMsrs :
    materializeMsrs sysenterHost sysenterMsrs = .ok (storedSnapshot sysenterMsrs) :=
  materializeMsrs_eq_ok rfl (by simp [sysenterMsrs, sysenterHost])

theorem materialize_idleGuest :
    (unusableSegmentCheckpoint 0).materialize sysenterHost =
      .ok idleTwoVcpuCheckpoint.base.primary := by
  simp only [VersionedPageVcpuCheckpointV1.materialize, bind_eq_ok, pure, Except.pure,
    Except.ok.injEq]
  exact ⟨(), valid_unusableSegmentCheckpoint.pages, _, materialize_sysenterMsrs, rfl⟩

theorem materialize_idleTwoVcpu :
    idleTwoVcpu.materialize sysenterHost = .ok idleTwoVcpuCheckpoint := by
  refine VersionedTwoVcpuFullControllerCheckpointV1.materialize_eq_ok valid_idleTwoVcpu
    ⟨rfl, rfl, rfl, rfl, rfl, rfl, rfl⟩ materialize_idleGuest ?_
  simp only [VersionedVcpuStateSnapshotV1.materialize, bind_eq_ok, mapError_eq_ok, pure,
    Except.pure, Except.ok.injEq]
  exact ⟨_, materialize_sysenterMsrs, rfl⟩

/-- The checkpoint of the idle machine, with the interrupt status of its second device. -/
def idleCheckpoint (isrStatus : UInt8) : BoundedTwoVcpuFullControllerTwoVirtioBlkCheckpoint where
  controller := idleTwoVcpuCheckpoint
  devices := ((0, (idleDevice 0 0).toDevice), (0x1000, (idleDevice 0x1000 isrStatus).toDevice))

theorem materialize_idleTwoVcpuTransaction {isrStatus : UInt8}
    (h : (idleDevice 0x1000 isrStatus).validate = .ok ()) :
    (idleTwoVcpuTransaction isrStatus).materialize sysenterHost =
      .ok (idleCheckpoint isrStatus, idlePair) := by
  have hbars : TwoDeviceCheckpoint.validateTwoDeviceBars
      (κ := VersionedTwoVcpuFullControllerCheckpointError) (0, 0x1000) = .ok () := by
    decide +kernel
  have hfirst : (idleDevice 0 0).validate = .ok () := by decide +kernel
  have hbinding : validateTransactionRegistrationBinding (0, 0x1000) idlePair = .ok () := by
    decide +kernel
  have hcheckpoint : VersionedTwoVcpuTwoDeviceCheckpointV1.materialize (idleTwoDevice isrStatus)
      sysenterHost = .ok (idleCheckpoint isrStatus) := by
    simp only [VersionedTwoVcpuTwoDeviceCheckpointV1.materialize,
      TwoDeviceCheckpoint.materializeWith, bind_eq_ok, mapError_eq_ok,
      VirtioBlkCheckpointState.materialize_eq_ok, pure, Except.pure, Except.ok.injEq]
    exact ⟨(), hbars, _, materialize_idleTwoVcpu, _, ⟨hfirst, rfl⟩, _, ⟨h, rfl⟩, rfl⟩
  simp only [VersionedTwoVcpuTwoDeviceTransactionV1.materialize, bind_eq_ok, mapError_eq_ok,
    VersionedHostRegistrationPairV1.materialize_eq, pure, Except.pure, Except.ok.injEq]
  exact ⟨_, hcheckpoint, _, rfl, (), hbinding, rfl⟩

theorem restore_idleCheckpoint (isrStatus : UInt8) :
    (∃ bus', (restoreTwoVirtioBlkCheckpointsAtomic (idleCheckpoint isrStatus).devices).run
        (twoBlkBus 0 0x1000) = .ok () bus') ↔ isrStatus = 0 := by
  obtain ⟨hfirst, hsecond⟩ := ready_twoBlkBus (show (0 : UInt64) ≠ 0x1000 by decide)
  have hlt : (idleDevice 0 0).bar0 < (idleDevice 0x1000 isrStatus).bar0 :=
    show (0 : UInt64) < 0x1000 by decide
  refine (restoreTwo_eq_ok hlt hfirst hsecond).trans ?_
  exact and_iff_right rfl

/-! ### A notified device -/

/-- The state of a device at BAR zero with an enabled queue, and a device status. -/
def enabledDevice (status : UInt8) : VirtioBlkCheckpointState :=
  { idleDevice 0 0 with
    driverFeatures := virtioFVersion1
    status
    queueEnabled := true
    queueDesc := 0x1000
    queueDriver := 0x2000
    queueDevice := 0x3000 }

theorem partsOk_first_notification : PendingKind.notification.PartsOk 0 0 0 := by decide

/-- The idle machine with that device, which is notified. -/
def notifiedTransaction (status : UInt8) : VersionedTwoVcpuTwoDeviceTransactionV3 where
  checkpoint := {
    controller := idleTwoVcpu
    devices := (enabledDevice status, idleDevice 0x1000 0) }
  registrations := ⟨idlePair⟩
  pending := {
    bar0 := 0
    queue := 0
    lastAvailIdx := 0
    lastUsedIdx := 0
    partsOk := partsOk_first_notification }

/-- The bytes of `notifiedTransaction`. -/
def notifiedTransactionBytes (status : UInt8) : List UInt8 :=
  (notifiedTransaction status).assemble
    ((notifiedTransaction status).checkpoint.assemble twoVcpuTwoDeviceFrame idleTwoVcpuBytes)

/-- The checkpoint of `notifiedTransaction`. -/
def notifiedCheckpoint (status : UInt8) : BoundedTwoVcpuFullControllerTwoVirtioBlkCheckpoint where
  controller := idleTwoVcpuCheckpoint
  devices := ((0, { (enabledDevice status).toDevice with notifyPending := true }),
    (0x1000, (idleDevice 0x1000 0).toDevice))

section Notified

variable {status : UInt8} (h : (enabledDevice status).validate = .ok ())

include h

theorem decode_notifiedTransaction :
    TokenTransaction.decode .notification (notifiedTransactionBytes status) =
      .ok (notifiedTransaction status) := by
  have hbars : TwoDeviceCheckpoint.validateTwoDeviceBars
      (κ := VersionedTwoVcpuFullControllerCheckpointError) (0, 0x1000) = .ok () := by
    decide +kernel
  have hsecond : (idleDevice 0x1000 0).validate = .ok () := by decide +kernel
  have hlen := length_idleDevices (notifiedTransaction status).checkpoint
  refine TokenTransaction.decode_assemble ?_ (decode_idleDevices hbars h hsecond).1 ?_ ?_
  · rw [← List.length_pos_iff, hlen]
    decide
  · exact ⟨show validateTransactionRegistrationBinding (0, 0x1000) idlePair = .ok () by
      decide +kernel, rfl⟩
  · rw [hlen]
    decide

theorem materialize_notifiedTransaction :
    (notifiedTransaction status).materialize sysenterHost =
      .ok (notifiedCheckpoint status, idlePair, (notifiedTransaction status).pending) := by
  have hbars : TwoDeviceCheckpoint.validateTwoDeviceBars
      (κ := VersionedTwoVcpuFullControllerCheckpointError) (0, 0x1000) = .ok () := by
    decide +kernel
  have hvalidSecond : (idleDevice 0x1000 0).validate = .ok () := by decide +kernel
  have htoken : (notifiedTransaction status).pending.validateDevice
      { (enabledDevice status).toDevice with notifyPending := true } = .ok () :=
    PendingToken.validateDevice_eq_ok.mpr ⟨rfl, rfl, rfl, rfl⟩
  have hfirst : VersionedTwoVcpuTwoDeviceCheckpointV1.materializeDevice
      (notifiedTransaction status).pending (enabledDevice status) =
        .ok { (enabledDevice status).toDevice with notifyPending := true } := by
    refine (if_pos rfl).trans (mapError_eq_ok.mpr ?_)
    simp only [PendingToken.materializeNotified, bind_eq_ok, pure, Except.pure, Except.ok.injEq,
      VirtioBlkCheckpointState.materialize_eq_ok]
    exact ⟨(), PendingToken.validateState_eq_ok.mpr ⟨rfl, rfl, rfl, rfl⟩, _, ⟨h, rfl⟩, (), htoken,
      rfl⟩
  have hsecond : VersionedTwoVcpuTwoDeviceCheckpointV1.materializeDevice
      (notifiedTransaction status).pending (idleDevice 0x1000 0) =
        .ok (idleDevice 0x1000 0).toDevice := by
    refine (if_neg (show (0 : UInt64) ≠ 0x1000 by decide)).trans (mapError_eq_ok.mpr ?_)
    exact VirtioBlkCheckpointState.materialize_eq_ok.mpr ⟨hvalidSecond, rfl⟩
  have hcheckpoint :
      VersionedTwoVcpuTwoDeviceCheckpointV1.materializeWithPendingNotification
        (notifiedTransaction status).checkpoint sysenterHost (notifiedTransaction status).pending =
          .ok (notifiedCheckpoint status) := by
    simp only [VersionedTwoVcpuTwoDeviceCheckpointV1.materializeWithPendingNotification, bind_eq_ok,
      mapError_eq_ok, pure, Except.pure, Except.ok.injEq]
    exact ⟨(), hbars, (), rfl, _, materialize_idleTwoVcpu, _, hfirst, _, hsecond, rfl⟩
  have hbinding : validateTransactionRegistrationBinding (0, 0x1000) idlePair = .ok () := by
    decide +kernel
  have hdevice : (notifiedCheckpoint status).device (notifiedTransaction status).pending.bar0 =
      some { (enabledDevice status).toDevice with notifyPending := true } :=
    if_pos rfl
  simp only [TokenTransaction.materialize, bind_eq_ok, mapError_eq_ok,
    VersionedHostRegistrationPairV1.materialize_eq, pure, Except.pure]
  refine ⟨_, hcheckpoint, _, rfl, (), hbinding, ?_⟩
  rw [hdevice]
  exact bind_eq_ok.mpr ⟨(), mapError_eq_ok.mpr htoken, rfl⟩

end Notified

/-- The idle machine is restored, and the interrupt status is clear in both records; so is the
machine with a notified device, where only the record of the other device counts. -/
theorem restore_idle_and_notified :
    (∃ bus', (restoreTwoVirtioBlkCheckpointsAtomic (idleCheckpoint 0).devices).run
        (twoBlkBus 0 0x1000) = .ok () bus') ∧
      (∀ record ∈ [deviceRecordBefore (idleTwoVcpuTransactionBytes 0) 2256,
        deviceRecordBefore (idleTwoVcpuTransactionBytes 0) 128], recordIsrStatus record = 0) ∧
      ∃ bus', (restoreTwoWithPending (notifiedCheckpoint 0xf).devices
        (notifiedTransaction 0xf).pending).run (twoBlkBus 0 0x1000) = .ok () bus' := by
  have hvalid : (idleDevice 0x1000 0).validate = .ok () := by decide +kernel
  have henabled : (enabledDevice 0xf).validate = .ok () := by decide +kernel
  obtain ⟨hfirst, hsecond⟩ := ready_twoBlkBus (show (0 : UInt64) ≠ 0x1000 by decide)
  have hrestore := (restore_idleCheckpoint 0).mpr rfl
  refine ⟨hrestore, ?_, ?_⟩
  · exact ((restore_iff_isr_clear (idleTwoVcpuTransactionBytes 0) sysenterHost
      (twoBlkBus 0 0x1000)).1 _ _ _ (decode_idleTwoVcpuTransaction hvalid).1
      (materialize_idleTwoVcpuTransaction hvalid) hfirst hsecond).mp hrestore
  · have hdecode := decode_notifiedTransaction henabled
    obtain ⟨hrecord, hrecord', hbar⟩ := TokenTransaction.records_of_decode hdecode
    refine ((restore_iff_isr_clear (notifiedTransactionBytes 0xf) sysenterHost
      (twoBlkBus 0 0x1000)).2 .notification _ _ _ _ hdecode
      (materialize_notifiedTransaction henabled) hfirst hsecond).mpr ?_
    rw [hrecord, hrecord', hbar]
    simp only [List.mem_cons, List.not_mem_nil, or_false, forall_eq_or_imp, forall_eq,
      recordBar_deviceFields, recordIsrStatus_deviceFields]
    exact ⟨fun _ => rfl, fun _ => rfl⟩

/-- With the interrupt status of the second device set, the transaction of the idle machine is
decoded and materialized, but not restored on a bus of two new devices. -/
theorem idleTwoVcpuTransaction_isr_not_restored :
    VersionedTwoVcpuTwoDeviceTransactionV1.decode (idleTwoVcpuTransactionBytes 1) =
        .ok (idleTwoVcpuTransaction 1) ∧
      (idleTwoVcpuTransaction 1).materialize sysenterHost = .ok (idleCheckpoint 1, idlePair) ∧
      (twoBlkBus 0 0x1000).Ready (idleCheckpoint 1).deviceBars.1 ∧
      (twoBlkBus 0 0x1000).Ready (idleCheckpoint 1).deviceBars.2 ∧
      ¬ ∃ bus', (restoreTwoVirtioBlkCheckpointsAtomic (idleCheckpoint 1).devices).run
        (twoBlkBus 0 0x1000) = .ok () bus' := by
  have hvalid : (idleDevice 0x1000 1).validate = .ok () := by decide +kernel
  obtain ⟨hfirst, hsecond⟩ := ready_twoBlkBus (show (0 : UInt64) ≠ 0x1000 by decide)
  refine ⟨(decode_idleTwoVcpuTransaction hvalid).1, materialize_idleTwoVcpuTransaction hvalid,
    hfirst, hsecond, ?_⟩
  rw [restore_idleCheckpoint]
  decide

end MiniHypervisor.Schema
