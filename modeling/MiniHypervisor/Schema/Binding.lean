import MiniHypervisor.Schema.Decoded

/-!
# Registrations and their devices

A host registration names a doorbell by an address, a width and a value.  It serves the device at a
BAR if that is what the guest writes to notify the device: the queue index zero, in two bytes, to
the notify register.  A transaction stores the devices and the registrations apart, so that a
decoder has to check that they belong together.  The decoders of the transactions of two vCPUs do so
(`src/state_snapshot/page_set/two_vcpu_two_device_transaction_schema_v1.rs`, lines 1403-1410).
Those of the transactions of one vCPU do not, so that the answer is in the bytes.
-/

namespace MiniHypervisor.Schema

open Bytes Checkpoint Control Kvm VirtioBlk

/-! ### Doorbells -/

/-- The doorbell of the device at a BAR: two bytes with the queue index zero, at its notify
register. -/
structure IsNotifyOf (spec : HostRegistrationSpec) (bar : UInt64) : Prop where
  address : spec.doorbellAddress.toNat = bar.toNat + virtioNotifyOffset
  length : spec.doorbellLength = 2
  datamatch : spec.doorbellDatamatch = 0

section Doorbells

variable {spec : HostRegistrationSpec} {bar : UInt64}

theorem eq_add_notify_iff {address : UInt64} :
    ¬ 2 ^ 64 ≤ bar.toNat + virtioNotifyOffset ∧ address = bar + 0x100 ↔
      address.toNat = bar.toNat + virtioNotifyOffset := by
  have hoffset : virtioNotifyOffset = 0x100 := rfl
  have hlt : address.toNat < 2 ^ 64 := address.toNat_lt
  rw [← UInt64.toNat_inj, UInt64.toNat_add, show (0x100 : UInt64).toNat = 0x100 from rfl, hoffset]
  omega

theorem requireRegistrationPairMatchesDevices_eq_ok {pair : HostRegistrationSpecPair}
    {bars : UInt64 × UInt64} :
    requireRegistrationPairMatchesDevices pair bars = .ok () ↔
      IsNotifyOf pair.first bars.1 ∧ IsNotifyOf pair.second bars.2 := by
  simp only [requireRegistrationPairMatchesDevices, rejectIf_bind_eq_ok, rejectIf_eq_ok, ne_eq,
    not_or, not_not, Prod.mk.injEq]
  constructor
  · rintro ⟨hfits, hfits', ⟨haddress, haddress'⟩, ⟨hlength, hmatch⟩, hlength', hmatch'⟩
    exact ⟨⟨eq_add_notify_iff.mp ⟨hfits, haddress⟩, hlength, hmatch⟩,
      ⟨eq_add_notify_iff.mp ⟨hfits', haddress'⟩, hlength', hmatch'⟩⟩
  · rintro ⟨⟨haddress, hlength, hmatch⟩, haddress', hlength', hmatch'⟩
    obtain ⟨hfits, haddress⟩ := eq_add_notify_iff.mpr haddress
    obtain ⟨hfits', haddress'⟩ := eq_add_notify_iff.mpr haddress'
    exact ⟨hfits, hfits', ⟨haddress, haddress'⟩, ⟨hlength, hmatch⟩, hlength', hmatch'⟩

end Doorbells

/-! ### Transactions of two vCPUs -/

/-- The parts of a materialized transaction of two vCPUs belong together.  The BARs are aligned,
increase, and are those of the devices.  The interrupt lines differ, and each registration serves
its device.  The ids of the vCPUs are the stored ones and increase, and each vCPU has the local APIC
and the MP state that were stored with its id. -/
structure PartsBound (stored : VersionedTwoVcpuFullControllerCheckpointV1)
    (checkpoint : BoundedTwoVcpuFullControllerTwoVirtioBlkCheckpoint)
    (pair : HostRegistrationSpecPair) : Prop where
  aligned : ∀ bar ∈ [checkpoint.deviceBars.1, checkpoint.deviceBars.2], bar.toNat % 0x1000 = 0
  increasing : checkpoint.deviceBars.1 < checkpoint.deviceBars.2
  bars : checkpoint.deviceBars = (checkpoint.devices.1.2.bar0, checkpoint.devices.2.2.bar0)
  gsis : pair.first.gsi ≠ pair.second.gsi
  doorbells : IsNotifyOf pair.first checkpoint.deviceBars.1 ∧
    IsNotifyOf pair.second checkpoint.deviceBars.2
  ids : (checkpoint.controller.base.primaryId, checkpoint.controller.base.secondaryId) =
    stored.vcpuIds
  idsIncreasing : checkpoint.controller.base.primaryId < checkpoint.controller.base.secondaryId
  lapics : checkpoint.controller.lapics =
    ((checkpoint.controller.base.primaryId, stored.lapics.1),
      (checkpoint.controller.base.secondaryId, stored.lapics.2))
  mpStates : checkpoint.controller.mpStates =
    ((checkpoint.controller.base.primaryId, stored.mpStates.1),
      (checkpoint.controller.base.secondaryId, stored.mpStates.2))

/-- A token names one of the two devices, and agrees with its indices and what is pending there. -/
def TokenBound {kind : PendingKind}
    (checkpoint : BoundedTwoVcpuFullControllerTwoVirtioBlkCheckpoint)
    (token : PendingToken kind) : Prop :=
  ∃ owner ∈ [checkpoint.devices.1, checkpoint.devices.2], token.bar0 = owner.1 ∧
    token.lastAvailIdx = owner.2.lastAvailIdx ∧ token.lastUsedIdx = owner.2.lastUsedIdx ∧
    kind.pendingAt owner.2 = true

section TwoVcpu

variable {hostMsrs : HostMsrIndexList} {pair : HostRegistrationSpecPair}

theorem VersionedTwoVcpuFullControllerCheckpointV1.of_materialize
    {v : VersionedTwoVcpuFullControllerCheckpointV1}
    {checkpoint : BoundedTwoVcpuFullControllerCheckpoint}
    (h : v.materialize hostMsrs = .ok checkpoint) :
    (checkpoint.base.primaryId, checkpoint.base.secondaryId) = v.vcpuIds ∧
      checkpoint.base.primaryId < checkpoint.base.secondaryId ∧
      checkpoint.lapics = ((checkpoint.base.primaryId, v.lapics.1),
        (checkpoint.base.secondaryId, v.lapics.2)) ∧
      checkpoint.mpStates = ((checkpoint.base.primaryId, v.mpStates.1),
        (checkpoint.base.secondaryId, v.mpStates.2)) := by
  simp only [materialize, validateVcpuIds, bind_eq_ok, rejectIf_eq_ok, pure, Except.pure,
    Except.ok.injEq] at h
  obtain ⟨_, hids, _, -, _, -, _, -, _, -, rfl⟩ := h
  exact ⟨rfl, UInt16.not_le.mp hids, rfl, rfl⟩

/-- The parts belong together if the stored devices are valid and keep their BARs, and the
registrations were checked. -/
theorem PartsBound.of_materializesTo {stored : VersionedTwoVcpuTwoDeviceCheckpointV1}
    {checkpoint : BoundedTwoVcpuFullControllerTwoVirtioBlkCheckpoint}
    {device : VirtioBlkCheckpointState → VirtioBlkDevice}
    (hvalid : stored.devices.1.Valid ∧ stored.devices.2.Valid)
    (hdevice : ∀ state, (device state).bar0 = state.bar0)
    (hstored : stored.MaterializesTo (·.materialize hostMsrs) device checkpoint)
    (hbinding : validateTransactionRegistrationBinding checkpoint.deviceBars pair = .ok ()) :
    PartsBound stored.controller checkpoint pair := by
  obtain ⟨hcontroller, hlt, hdevices⟩ := hstored
  obtain ⟨hids, hincreasing, hlapics, hmpStates⟩ :=
    VersionedTwoVcpuFullControllerCheckpointV1.of_materialize hcontroller
  have hbars : checkpoint.deviceBars = (stored.devices.1.bar0, stored.devices.2.bar0) := by
    rw [BoundedTwoDeviceCheckpoint.deviceBars, hdevices]
  refine ⟨?_, ?_, ?_, pair.gsi_ne,
    requireRegistrationPairMatchesDevices_eq_ok.mp (mapError_eq_ok.mp hbinding), hids, hincreasing,
    hlapics, hmpStates⟩
  · rw [hbars]
    simp only [List.mem_cons, List.not_mem_nil, or_false, forall_eq_or_imp, forall_eq]
    exact ⟨hvalid.1.aligned, hvalid.2.aligned⟩
  · rw [hbars]
    exact hlt
  · rw [hbars, hdevices, hdevice, hdevice]

end TwoVcpu

theorem TokenBound.of_device {kind : PendingKind}
    {checkpoint : BoundedTwoVcpuFullControllerTwoVirtioBlkCheckpoint} {token : PendingToken kind}
    {device : VirtioBlkDevice} (hdevice : checkpoint.device token.bar0 = some device)
    (hvalid : token.validateDevice device = .ok ()) : TokenBound checkpoint token := by
  obtain ⟨-, havail, hused, hpending⟩ := PendingToken.validateDevice_eq_ok.mp hvalid
  unfold BoundedTwoDeviceCheckpoint.device at hdevice
  split_ifs at hdevice with hfirst hsecond
  · obtain rfl := Option.some.inj hdevice
    exact ⟨_, List.mem_cons_self .., hfirst.symm, havail, hused, hpending⟩
  · obtain rfl := Option.some.inj hdevice
    exact ⟨_, List.mem_cons_of_mem _ (List.mem_singleton_self _), hsecond.symm, havail, hused,
      hpending⟩

/-- **Transactions of two vCPUs.** The parts of every decoded and materialized transaction belong
together, and in versions 2 and 3 the token belongs to one of the devices. -/
theorem twoVcpu_transactions_bound (bytes : List UInt8) (hostMsrs : HostMsrIndexList) :
    (∀ v checkpoint pair, VersionedTwoVcpuTwoDeviceTransactionV1.decode bytes = .ok v →
      v.materialize hostMsrs = .ok (checkpoint, pair) →
      PartsBound v.checkpoint.controller checkpoint pair) ∧
    (∀ kind v checkpoint pair token, TokenTransaction.decode kind bytes = .ok v →
      v.materialize hostMsrs = .ok (checkpoint, pair, token) →
      PartsBound v.checkpoint.controller checkpoint pair ∧ TokenBound checkpoint token) := by
  refine ⟨?_, ?_⟩
  · intro v checkpoint pair hdecode hmaterialize
    obtain ⟨hstored, hbinding⟩ :=
      VersionedTwoVcpuTwoDeviceTransactionV1.of_materialize hmaterialize
    exact .of_materializesTo (VersionedTwoVcpuTwoDeviceTransactionV1.valid_of_decode hdecode)
      (fun _ => rfl) hstored hbinding
  · intro kind v checkpoint pair token hdecode hmaterialize
    obtain ⟨-, hstored, hbinding, device, hdevice, hvalid⟩ :=
      TokenTransaction.of_materialize hmaterialize
    exact ⟨.of_materializesTo (TokenTransaction.valid_of_decode hdecode) (fun _ => rfl) hstored
      hbinding, .of_device hdevice hvalid⟩

/-- The idle machine, and the machine with a notified device. -/
theorem idle_transactions_bound :
    PartsBound idleTwoVcpu (idleCheckpoint 0) idlePair ∧
      PartsBound idleTwoVcpu (notifiedCheckpoint 0xf) idlePair ∧
      TokenBound (notifiedCheckpoint 0xf) (notifiedTransaction 0xf).pending := by
  have hidle : (idleDevice 0x1000 0).validate = .ok () := by decide +kernel
  have henabled : (enabledDevice 0xf).validate = .ok () := by decide +kernel
  exact ⟨(twoVcpu_transactions_bound (idleTwoVcpuTransactionBytes 0) sysenterHost).1 _ _ _
      (decode_idleTwoVcpuTransaction hidle).1 (materialize_idleTwoVcpuTransaction hidle),
    (twoVcpu_transactions_bound (notifiedTransactionBytes 0xf) sysenterHost).2 .notification _ _ _ _
      (decode_notifiedTransaction henabled) (materialize_notifiedTransaction henabled)⟩

/-! ### Transactions of one vCPU -/

/-- A registration serves a device: its doorbell is that of the device. -/
def Serves (spec : HostRegistrationSpec) (device : VirtioBlkDevice) : Prop :=
  IsNotifyOf spec device.bar0

/-- A registration record names the doorbell of the device in a device record. -/
def RecordsNotify (registration device : List UInt8) : Prop :=
  (u64At registration 16).toNat = (recordBar device).toNat + virtioNotifyOffset ∧
    u32At registration 24 = 2 ∧ u64At registration 32 = 0

theorem serves_iff_recordsNotify {spec : HostRegistrationSpec} {state : VirtioBlkCheckpointState} :
    Serves spec state.toDevice ↔
      RecordsNotify (VersionedHostRegistrationSpecV1.encode ⟨spec⟩)
        (deviceFields state).flatten := by
  obtain ⟨-, -, -, -, haddress, hlength, -, hdatamatch, -⟩ :=
    (VersionedHostRegistrationSpecV1.eq_encode_iff (v := ⟨spec⟩)
      VersionedHostRegistrationSpecV1.length_encode).mp rfl
  rw [RecordsNotify, recordBar_deviceFields, haddress, hlength, hdatamatch]
  exact ⟨fun h => ⟨h.address, h.length, h.datamatch⟩, fun h => ⟨h.1, h.2.1, h.2.2⟩⟩

section OneVcpu

variable {hostMsrs : HostMsrIndexList}

theorem VersionedFullControllerVirtioBlkCheckpointV1.of_materialize
    {v : VersionedFullControllerVirtioBlkCheckpointV1}
    {checkpoint : BoundedFullControllerVirtioBlkCheckpoint}
    (h : v.materialize hostMsrs = .ok checkpoint) :
    v.controller.materialize hostMsrs = .ok checkpoint.controller ∧
      checkpoint.bar0 = v.device.bar0 ∧ checkpoint.device = v.device.toDevice := by
  simp only [materialize, bind_eq_ok, mapError_eq_ok, rejectIf_eq_ok,
    VirtioBlkCheckpointState.materialize_eq_ok, pure, Except.pure, Except.ok.injEq] at h
  obtain ⟨_, hcontroller, _, ⟨-, rfl⟩, _, -, rfl⟩ := h
  exact ⟨hcontroller, rfl, rfl⟩

theorem VersionedCheckpointTransactionV1.of_materialize {v : VersionedCheckpointTransactionV1}
    {checkpoint : BoundedFullControllerVirtioBlkCheckpoint} {spec : HostRegistrationSpec}
    (h : v.materialize hostMsrs = .ok (checkpoint, spec)) :
    v.checkpoint.materialize hostMsrs = .ok checkpoint ∧ spec = v.registration.spec := by
  simp only [materialize, bind_eq_ok, mapError_eq_ok, pure, Except.pure, Except.ok.injEq,
    Prod.mk.injEq] at h
  obtain ⟨_, hcheckpoint, rfl, rfl⟩ := h
  exact ⟨hcheckpoint, rfl⟩

theorem VersionedTwoDeviceCheckpointTransactionV1.of_materialize
    {v : VersionedTwoDeviceCheckpointTransactionV1}
    {checkpoint : BoundedFullControllerTwoVirtioBlkCheckpoint} {pair : HostRegistrationSpecPair}
    (h : v.materialize hostMsrs = .ok (checkpoint, pair)) :
    v.checkpoint.MaterializesTo (·.materialize hostMsrs) VirtioBlkCheckpointState.toDevice
        checkpoint ∧
      pair = v.registrations.pair := by
  simp only [materialize, bind_eq_ok, mapError_eq_ok,
    VersionedHostRegistrationPairV1.materialize_eq, pure, Except.pure, Except.ok.injEq,
    Prod.mk.injEq] at h
  obtain ⟨_, hcheckpoint, _, rfl, rfl, rfl⟩ := h
  exact ⟨TwoDeviceCheckpoint.of_materializeWith hcheckpoint, rfl⟩

end OneVcpu

/-- **Transactions of one vCPU.** The registrations of a decoded and materialized transaction serve
its devices exactly when the registration records name the doorbells of the devices in the device
records. -/
theorem oneVcpu_transactions_bound_iff (bytes : List UInt8) (hostMsrs : HostMsrIndexList) :
    (∀ v checkpoint spec, VersionedCheckpointTransactionV1.decode bytes = .ok v →
      v.materialize hostMsrs = .ok (checkpoint, spec) →
      (Serves spec checkpoint.device ↔
        RecordsNotify (registrationRecordBefore bytes 0) (deviceRecordBefore bytes 48))) ∧
    (∀ v checkpoint pair, VersionedTwoDeviceCheckpointTransactionV1.decode bytes = .ok v →
      v.materialize hostMsrs = .ok (checkpoint, pair) →
      (Serves pair.first checkpoint.devices.1.2 ∧ Serves pair.second checkpoint.devices.2.2 ↔
        RecordsNotify (registrationRecordBefore bytes 48) (deviceRecordBefore bytes 2256) ∧
        RecordsNotify (registrationRecordBefore bytes 0) (deviceRecordBefore bytes 128))) := by
  refine ⟨?_, ?_⟩
  · intro v checkpoint spec hdecode hmaterialize
    obtain ⟨hcheckpoint, rfl⟩ := VersionedCheckpointTransactionV1.of_materialize hmaterialize
    obtain ⟨-, -, hdevice⟩ :=
      VersionedFullControllerVirtioBlkCheckpointV1.of_materialize hcheckpoint
    obtain ⟨hrecord, hregistration⟩ := VersionedCheckpointTransactionV1.records_of_decode hdecode
    rw [hdevice, hrecord, hregistration]
    exact serves_iff_recordsNotify
  · intro v checkpoint pair hdecode hmaterialize
    obtain ⟨⟨-, -, hdevices⟩, rfl⟩ :=
      VersionedTwoDeviceCheckpointTransactionV1.of_materialize hmaterialize
    obtain ⟨⟨hrecord, hrecord'⟩, hregistration, hregistration'⟩ :=
      VersionedTwoDeviceCheckpointTransactionV1.records_of_decode hdecode
    rw [hdevices, hrecord, hrecord', hregistration, hregistration']
    exact and_congr serves_iff_recordsNotify serves_iff_recordsNotify

/-! ### Idle machines of one vCPU -/

/-- One vCPU of the idle machine with its controllers, and an IOAPIC. -/
def idleFullControllerCheckpoint (ioapic : IoapicStateSnapshot) :
    BoundedFullControllerCheckpoint where
  base := {
    guest := idleTwoVcpuCheckpoint.base.primary
    masterPic := ⟨default⟩
    lapic := ⟨.zeros _⟩ }
  slavePic := ⟨default⟩
  ioapic

theorem materialize_idleFullController {ioapic : IoapicStateSnapshot} (hpad : ioapic.pad = 0) :
    VersionedFullControllerCheckpointV1.materialize { idleFullController with ioapic }
      sysenterHost = .ok (idleFullControllerCheckpoint ioapic) := by
  simp only [VersionedFullControllerCheckpointV1.materialize, bind_eq_ok, mapError_eq_ok,
    rejectIf_eq_ok, not_not, pure, Except.pure, Except.ok.injEq]
  exact ⟨_, materialize_idleGuest, (), hpad, rfl⟩

/-- A transaction of the idle machine with one device and any registration. -/
def registeredTransaction (spec : HostRegistrationSpec) : VersionedCheckpointTransactionV1 where
  checkpoint := idleTransaction.checkpoint
  registration := ⟨spec⟩

/-- The bytes of `registeredTransaction`. -/
def registeredTransactionBytes (spec : HostRegistrationSpec) : List UInt8 :=
  (registeredTransaction spec).assemble
    (idleTransaction.checkpoint.assemble idleFullControllerBytes)

/-- The checkpoint of `registeredTransaction`. -/
def oneDeviceCheckpoint : BoundedFullControllerVirtioBlkCheckpoint where
  controller := idleFullControllerCheckpoint idleIoapic
  bar0 := 0
  device := (idleDevice 0 0).toDevice

theorem decode_registeredTransaction (spec : HostRegistrationSpec) :
    VersionedCheckpointTransactionV1.decode (registeredTransactionBytes spec) =
      .ok (registeredTransaction spec) :=
  (decode_idleTransaction ⟨spec⟩).1

theorem materialize_registeredTransaction (spec : HostRegistrationSpec) :
    (registeredTransaction spec).materialize sysenterHost = .ok (oneDeviceCheckpoint, spec) := by
  have hdevice : (idleDevice 0 0).validate = .ok () := by decide +kernel
  have hcheckpoint : idleTransaction.checkpoint.materialize sysenterHost =
      .ok oneDeviceCheckpoint := by
    simp only [VersionedFullControllerVirtioBlkCheckpointV1.materialize, bind_eq_ok, mapError_eq_ok,
      rejectIf_eq_ok, not_not, VirtioBlkCheckpointState.materialize_eq_ok, pure, Except.pure,
      Except.ok.injEq]
    exact ⟨_, materialize_idleFullController rfl, _, ⟨hdevice, rfl⟩, (), rfl, rfl⟩
  simp only [VersionedCheckpointTransactionV1.materialize, bind_eq_ok, mapError_eq_ok, pure,
    Except.pure, Except.ok.injEq]
  exact ⟨_, hcheckpoint, rfl⟩

/-- A transaction of the idle machine with devices at BARs `0` and `0x1000` and any
registrations. -/
def registeredPairTransaction (pair : HostRegistrationSpecPair) :
    VersionedTwoDeviceCheckpointTransactionV1 where
  checkpoint := {
    controller := idleFullController
    devices := (idleDevice 0 0, idleDevice 0x1000 0) }
  registrations := ⟨pair⟩

/-- The bytes of `registeredPairTransaction`. -/
def registeredPairTransactionBytes (pair : HostRegistrationSpecPair) : List UInt8 :=
  (registeredPairTransaction pair).assemble
    ((registeredPairTransaction pair).checkpoint.assemble fullControllerTwoVirtioBlkFrame
      idleFullControllerBytes)

/-- The checkpoint of `registeredPairTransaction`. -/
def twoDeviceCheckpoint : BoundedFullControllerTwoVirtioBlkCheckpoint where
  controller := idleFullControllerCheckpoint idleIoapic
  devices := ((0, (idleDevice 0 0).toDevice), (0x1000, (idleDevice 0x1000 0).toDevice))

section RegisteredPair

variable (pair : HostRegistrationSpecPair)

theorem validate_idleDevices :
    TwoDeviceCheckpoint.validateTwoDeviceBars (κ := VersionedFullControllerCheckpointError)
        (0, 0x1000) = .ok () ∧
      (idleDevice 0 0).validate = .ok () ∧ (idleDevice 0x1000 0).validate = .ok () := by
  decide +kernel

theorem decode_registeredPairTransaction :
    VersionedTwoDeviceCheckpointTransactionV1.decode (registeredPairTransactionBytes pair) =
      .ok (registeredPairTransaction pair) := by
  obtain ⟨hbars, hfirst, hsecond⟩ := validate_idleDevices
  obtain ⟨hcheckpoint, -⟩ : VersionedFullControllerTwoVirtioBlkCheckpointV1.decode
        ((registeredPairTransaction pair).checkpoint.assemble fullControllerTwoVirtioBlkFrame
          idleFullControllerBytes) = .ok (registeredPairTransaction pair).checkpoint ∧
      fullControllerTwoVirtioBlkFrame.firstPart
        ((registeredPairTransaction pair).checkpoint.assemble fullControllerTwoVirtioBlkFrame
          idleFullControllerBytes) = idleFullControllerBytes :=
    TwoDeviceCheckpoint.decode_assemble idleFullControllerBytes_ne_nil decode_idleFullController
      hbars hfirst hsecond (by rw [length_idleFullControllerBytes]; decide)
  have hlen : ((registeredPairTransaction pair).checkpoint.assemble fullControllerTwoVirtioBlkFrame
      idleFullControllerBytes).length = 56 + idleFullControllerBytes.length + 4256 :=
    TwoDeviceCheckpoint.length_assemble
  refine VersionedTwoDeviceCheckpointTransactionV1.decode_assemble
    (Frame.assemble_ne_nil idleFullControllerBytes_ne_nil) hcheckpoint ?_
  rw [hlen, length_idleFullControllerBytes]
  decide

theorem materialize_registeredPairTransaction :
    (registeredPairTransaction pair).materialize sysenterHost =
      .ok (twoDeviceCheckpoint, pair) := by
  obtain ⟨hbars, hfirst, hsecond⟩ := validate_idleDevices
  have hcheckpoint : VersionedFullControllerTwoVirtioBlkCheckpointV1.materialize
      (registeredPairTransaction pair).checkpoint sysenterHost = .ok twoDeviceCheckpoint := by
    simp only [VersionedFullControllerTwoVirtioBlkCheckpointV1.materialize,
      TwoDeviceCheckpoint.materializeWith, bind_eq_ok, mapError_eq_ok,
      VirtioBlkCheckpointState.materialize_eq_ok, pure, Except.pure, Except.ok.injEq]
    exact ⟨(), hbars, _, materialize_idleFullController rfl, _, ⟨hfirst, rfl⟩, _,
      ⟨hsecond, rfl⟩, rfl⟩
  simp only [VersionedTwoDeviceCheckpointTransactionV1.materialize, bind_eq_ok, mapError_eq_ok,
    VersionedHostRegistrationPairV1.materialize_eq, pure, Except.pure, Except.ok.injEq]
  exact ⟨_, hcheckpoint, _, rfl, rfl⟩

end RegisteredPair

/-- The registrations of the idle machine are in its records. -/
theorem idle_registrations_recorded :
    RecordsNotify (registrationRecordBefore (registeredTransactionBytes firstSpec) 0)
        (deviceRecordBefore (registeredTransactionBytes firstSpec) 48) ∧
      RecordsNotify (registrationRecordBefore (registeredPairTransactionBytes idlePair) 48)
        (deviceRecordBefore (registeredPairTransactionBytes idlePair) 2256) ∧
      RecordsNotify (registrationRecordBefore (registeredPairTransactionBytes idlePair) 0)
        (deviceRecordBefore (registeredPairTransactionBytes idlePair) 128) := by
  have hfirst : Serves firstSpec (idleDevice 0 0).toDevice :=
    ⟨rfl, rfl, rfl⟩
  have hsecond : Serves idlePair.second (idleDevice 0x1000 0).toDevice :=
    ⟨rfl, rfl, rfl⟩
  have hone := oneVcpu_transactions_bound_iff (registeredTransactionBytes firstSpec) sysenterHost
  have htwo := oneVcpu_transactions_bound_iff (registeredPairTransactionBytes idlePair) sysenterHost
  exact ⟨(hone.1 _ _ _ (decode_registeredTransaction firstSpec)
      (materialize_registeredTransaction firstSpec)).mp hfirst,
    (htwo.2 _ _ _ (decode_registeredPairTransaction idlePair)
      (materialize_registeredPairTransaction idlePair)).mp ⟨hfirst, hsecond⟩⟩

/-- Registrations of doorbells that no device has. -/
def strayPair : HostRegistrationSpecPair where
  first := {
    doorbellAddress := 0x200
    doorbellLength := 2
    doorbellDatamatch := 0
    gsi := 0
    valid := ⟨by decide, by decide, by decide⟩ }
  second := {
    doorbellAddress := 0x1200
    doorbellLength := 2
    doorbellDatamatch := 0
    gsi := 1
    valid := ⟨by decide, by decide, by decide⟩ }
  disjoint := by decide
  gsi_ne := by decide

/-- Registrations of other doorbells are accepted and materialized for one vCPU, and rejected for
two. -/
theorem stray_registrations_accepted :
    (VersionedCheckpointTransactionV1.decode (registeredTransactionBytes strayPair.first) =
        .ok (registeredTransaction strayPair.first) ∧
      (registeredTransaction strayPair.first).materialize sysenterHost =
        .ok (oneDeviceCheckpoint, strayPair.first) ∧
      ¬ Serves strayPair.first oneDeviceCheckpoint.device) ∧
    (VersionedTwoDeviceCheckpointTransactionV1.decode (registeredPairTransactionBytes strayPair) =
        .ok (registeredPairTransaction strayPair) ∧
      (registeredPairTransaction strayPair).materialize sysenterHost =
        .ok (twoDeviceCheckpoint, strayPair) ∧
      ¬ Serves strayPair.second twoDeviceCheckpoint.devices.2.2) ∧
    validateTransactionRegistrationBinding twoDeviceCheckpoint.deviceBars strayPair ≠ .ok () := by
  have hfirst : ¬ IsNotifyOf strayPair.first 0 := fun h => absurd h.address (by decide)
  have hsecond : ¬ IsNotifyOf strayPair.second 0x1000 := fun h => absurd h.address (by decide)
  refine ⟨⟨decode_registeredTransaction _, materialize_registeredTransaction _,
    hfirst⟩, ⟨decode_registeredPairTransaction _,
    materialize_registeredPairTransaction _, hsecond⟩, fun h => ?_⟩
  exact hfirst (requireRegistrationPairMatchesDevices_eq_ok.mp (mapError_eq_ok.mp h)).1

end MiniHypervisor.Schema
