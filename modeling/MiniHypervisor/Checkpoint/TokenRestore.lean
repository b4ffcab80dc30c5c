import MiniHypervisor.Checkpoint.TwoDevice

/-!
# Restores with a token that fail because of a device

The restores of two vCPUs and two devices with a token
(`src/state_snapshot/page_set/two_vcpu_two_device_transaction.rs`, lines 235-277) write the pages,
the vCPUs and the controllers before the bus looks at the devices and at the token.  Under a
faithful KVM a device that the bus refuses is therefore found too late: the machine is left as it
was only if the restore did not come that far, or if it wrote what was there already.
-/

namespace MiniHypervisor.Checkpoint

open Bytes Control Kvm Memory Mmio VirtioBlk

variable {σ τ : Type}

/-- A machine with its KVM seen through an observation. -/
def Machine.map (view : σ → τ) (machine : Machine σ) : Machine τ :=
  ⟨machine.vm.map view, machine.bus⟩

namespace BoundedTwoVcpuFullControllerTwoVirtioBlkCheckpoint

/-- The bus admits the devices and the token: the BARs increase, the token is for one of them, each
snapshot is at its BAR and is fully quiescent or matches the token, and both live devices are in
memory and fully quiescent. -/
structure Admissible (checkpoint : BoundedTwoVcpuFullControllerTwoVirtioBlkCheckpoint)
    {kind : PendingKind} (token : PendingToken kind) (bus : MmioBus) : Prop where
  increasing : checkpoint.devices.1.1 < checkpoint.devices.2.1
  concerns : token.bar0 = checkpoint.devices.1.1 ∨ token.bar0 = checkpoint.devices.2.1
  first : (TwoDeviceRestore.pending kind token).Admits checkpoint.devices.1
  second : (TwoDeviceRestore.pending kind token).Admits checkpoint.devices.2
  firstReady : bus.Ready checkpoint.devices.1.1
  secondReady : bus.Ready checkpoint.devices.2.1

variable {checkpoint : BoundedTwoVcpuFullControllerTwoVirtioBlkCheckpoint} {ops : KvmOps σ}
  {view : σ → KvmState} {first second : VcpuId} {kind : PendingKind} {token : PendingToken kind}
  {machine : Machine σ} {bus : MmioBus}

theorem admissible_iff :
    Admissible checkpoint token bus ↔
      ∃ bus', ((TwoDeviceRestore.pending kind token).run checkpoint.devices).run bus =
        .ok () bus' := by
  rw [TwoDeviceRestore.run_eq_ok]
  constructor
  · rintro ⟨hlt, hconcerns, hfirst, hsecond, hready, hready'⟩
    exact ⟨hlt, hconcerns, hfirst, hsecond, hready, hready'⟩
  · rintro ⟨hlt, hconcerns, hfirst, hsecond, hready, hready'⟩
    exact ⟨hlt, hconcerns, hfirst, hsecond, hready, hready'⟩

theorem accept_of_inadmissible (h : ¬ Admissible checkpoint token bus) :
    ∃ e, (TwoDeviceRestore.pending kind token).accept checkpoint.devices bus = .error e := by
  cases haccept : (TwoDeviceRestore.pending kind token).accept checkpoint.devices bus with
  | error e => exact ⟨e, rfl⟩
  | ok positions =>
      exact absurd (admissible_iff.mpr ⟨_, TwoDeviceRestore.run_of_ok haccept⟩) h

/-- **What a restore leaves when the bus refuses the devices.** Under a faithful KVM a restorable
checkpoint is written, and the restore then fails because of a device. -/
theorem run_of_inadmissible (hops : Faithful ops view)
    (hrestorable : checkpoint.controller.Restorable first second machine.vm.memory)
    (h : ¬ Admissible checkpoint token machine.bus) :
    ∃ e vm, (restoreAndVerifyWithPending checkpoint ops first second token).run machine =
        .error e ⟨vm, machine.bus⟩ ∧ DeviceError e ∧
      vm.map view = checkpoint.controller.written (machine.vm.map view) := by
  obtain ⟨e, haccept⟩ := accept_of_inadmissible h
  obtain ⟨vm, hrun, hvm⟩ :=
    BoundedTwoVcpuFullControllerCheckpoint.yields_restoreAndVerify hops (machine.vm.map view)
      hrestorable machine.vm rfl
  obtain ⟨herror, hdevice⟩ := (BoundedTwoDeviceCheckpoint.deviceError_iff
    (sparesDevices checkpoint ops first second)).mpr ⟨_, vm, e, hrun,
      BoundedTwoVcpuFullControllerCheckpoint.isExactMatch_exactComparison, haccept, rfl, rfl⟩
  exact ⟨_, vm, herror, hdevice, hvm⟩

/-- A restore that fails because of a device has written a restorable checkpoint, and the bus
refuses the devices. -/
theorem written_of_deviceError (hops : Faithful ops view) {e : Error} {machine' : Machine σ}
    (h : (restoreAndVerifyWithPending checkpoint ops first second token).run machine =
      .error e machine') (he : DeviceError e) :
    ¬ Admissible checkpoint token machine.bus ∧
      checkpoint.controller.Restorable first second machine.vm.memory ∧
      machine'.map view =
        ⟨checkpoint.controller.written (machine.vm.map view), machine.bus⟩ := by
  obtain ⟨controller, vm, e', hrest, -, haccept, -, rfl⟩ :=
    (BoundedTwoDeviceCheckpoint.deviceError_iff
      (sparesDevices checkpoint ops first second)).mp ⟨h, he⟩
  have hrestorable := BoundedTwoVcpuFullControllerCheckpoint.restorable_of_run hrest
  refine ⟨fun hadmissible => ?_, hrestorable, ?_⟩
  · obtain ⟨bus', hok⟩ := admissible_iff.mp hadmissible
    rw [TwoDeviceRestore.run_of_error haccept] at hok
    cases hok
  · obtain ⟨vm', hrun, hvm⟩ :=
      BoundedTwoVcpuFullControllerCheckpoint.yields_restoreAndVerify hops (machine.vm.map view)
        hrestorable machine.vm rfl
    cases hrest.symm.trans hrun
    rw [Machine.map, hvm]

/-- **When a restore with a token that fails because of a device leaves the machine as it was.** It
does so exactly if it cannot fail because of a device, since the bus admits devices and token; or
cannot come that far, since the checkpoint is not restorable on this machine; or writes only what
is there already. -/
theorem token_restore_untouched_iff (hops : Faithful ops view)
    (checkpoint : BoundedTwoVcpuFullControllerTwoVirtioBlkCheckpoint) (first second : VcpuId)
    (token : PendingToken kind) (machine : Machine σ) :
    (∀ e machine', (restoreAndVerifyWithPending checkpoint ops first second token).run machine =
        .error e machine' → DeviceError e → machine'.map view = machine.map view) ↔
      Admissible checkpoint token machine.bus ∨
        ¬ checkpoint.controller.Restorable first second machine.vm.memory ∨
        checkpoint.controller.written (machine.vm.map view) = machine.vm.map view := by
  constructor
  · intro huntouched
    by_contra hcondition
    obtain ⟨hinadmissible, hcondition⟩ := not_or.mp hcondition
    obtain ⟨hrestorable, hwritten⟩ := not_or.mp hcondition
    obtain ⟨e, vm, hrun, he, hvm⟩ := run_of_inadmissible hops (not_not.mp hrestorable) hinadmissible
    have hsame := huntouched e _ hrun he
    exact hwritten (hvm.symm.trans (congrArg Machine.vm hsame))
  · intro hcondition e machine' hrun he
    obtain ⟨hinadmissible, hrestorable, hmachine⟩ := written_of_deviceError hops hrun he
    rcases hcondition with hadmissible | hunrestorable | hsame
    · exact absurd hadmissible hinadmissible
    · exact absurd hrestorable hunrestorable
    · rw [hmachine, hsame]
      rfl

/-! ### A device in flight -/

/-- A new device with a notification that was not served yet. -/
def notifiedDevice (bar0 : UInt64) : VirtioBlkDevice :=
  { VirtioBlkDevice.new bar0 with notifyPending := true }

/-- The token for a notified device. -/
def notifiedToken (bar0 : UInt64) : VirtioBlkPendingNotificationToken :=
  ⟨bar0, virtioBlkQueueIndex, 0, 0, by decide⟩

/-- The checkpoint of a machine whose first device is notified, with its page filled with ones. -/
def notifiedCheckpoint : BoundedTwoVcpuFullControllerTwoVirtioBlkCheckpoint where
  controller := resetKvm.twoVcpuFullController sysenterPolicy (resetPages 1) 0 1
  devices := ((0x10000000, notifiedDevice 0x10000000), (0x10001000, .new 0x10001000))

/-- A machine whose second device is notified, with its page filled with zeros. -/
def busyMachine : Machine KvmState :=
  ⟨(resetMachine 0).vm,
    { MmioBus.empty with virtioBlkDevices := [.new 0x10000000, notifiedDevice 0x10001000] }⟩

theorem restorable_notifiedCheckpoint (byte : UInt8) :
    notifiedCheckpoint.controller.Restorable 0 1 (resetMachine byte).vm.memory := by
  refine ⟨⟨(0, 1), by rfl⟩, ⟨filledPage byte, rfl, ?_⟩,
    ⟨readablePolicy_sysenter, readablePolicy_sysenter⟩⟩
  refine holdsPages_singleton ?_
  rw [ByteMap.length_read]
  exact ⟨Nat.le_refl 0, Nat.le_refl 4096⟩

theorem mapping_withPages_zero {bytes : List UInt8} (h : 0 < bytes.length) (byte : UInt8) :
    (withPages [⟨0, bytes⟩] (filledPage byte)).mapping 0 = bytes.getD 0 0 :=
  ByteMap.write_apply_inside (filledPage byte).mapping h

theorem withPages_ne : withPages (resetPages 1) (filledPage 0) ≠ filledPage 0 := by
  intro h
  have hpage : (withPages (resetPages 1) (filledPage 0)).mapping 0 = 1 :=
    (mapping_withPages_zero (by rw [ByteMap.length_read]; decide) 0).trans
      (ByteMap.getD_read (filledPage 1).mapping (by decide))
  rw [h] at hpage
  exact absurd hpage (show (0 : UInt8) ≠ 1 by decide)

theorem not_ready_busyMachine : ¬ busyMachine.bus.Ready 0x10001000 := by
  rintro ⟨device, hdevice, -, hquiescent⟩
  have hfound : busyMachine.bus.deviceAt 0x10001000 = some (notifiedDevice 0x10001000) := by
    simp [MmioBus.deviceAt, busyMachine, findKey, notifiedDevice, VirtioBlkDevice.new]
  rw [hfound] at hdevice
  cases hdevice
  cases hquiescent

/-- A machine whose first device is notified, with its page filled with ones. -/
def notifiedMachine : Machine KvmState :=
  ⟨(resetMachine 1).vm,
    { MmioBus.empty with virtioBlkDevices := [notifiedDevice 0x10000000, .new 0x10001000] }⟩

theorem capturePendingDevice_notifiedMachine :
    capturePendingDevice .notification notifiedMachine.bus 0x10000000 =
      .ok (notifiedDevice 0x10000000, notifiedToken 0x10000000) := by
  have hfound : notifiedMachine.bus.deviceAt 0x10000000 = some (notifiedDevice 0x10000000) := by
    simp [MmioBus.deviceAt, notifiedMachine, findKey, notifiedDevice, VirtioBlkDevice.new]
  rw [capturePendingDevice, MmioBus.captureWithPendingAt, hfound]
  rfl

theorem captureRequiredDevice_notifiedMachine {role : String} :
    captureRequiredDevice notifiedMachine.bus 0x10001000 role = .ok (.new 0x10001000) := by
  refine captureRequiredDevice_eq_ok.mpr ⟨?_, rfl, rfl⟩
  simp [MmioBus.deviceAt, notifiedMachine, findKey, notifiedDevice, VirtioBlkDevice.new]

theorem capture_notifiedMachine :
    (captureWithPending exactOps 0 1 sysenterPolicy (0x10000000, 0x10001000) [0] .notification
        0x10000000).run notifiedMachine =
      .ok (notifiedCheckpoint, notifiedToken 0x10000000) notifiedMachine := by
  have hbars : (reads fun _ : Machine KvmState => canonicalTwoVirtioBlkBars
      (0x10000000, 0x10001000)).run notifiedMachine =
        .ok (0x10000000, 0x10001000) notifiedMachine := run_reads_of_ok (by decide)
  have hpending : (reads fun machine : Machine KvmState => capturePendingDevice .notification
      machine.bus 0x10000000).run notifiedMachine = .ok _ notifiedMachine :=
    run_reads_of_ok capturePendingDevice_notifiedMachine
  have hother : (reads fun machine : Machine KvmState => captureRequiredDevice machine.bus
      0x10001000 "second fully-quiescent two-vCPU transaction").run notifiedMachine =
        .ok _ notifiedMachine := run_reads_of_ok captureRequiredDevice_notifiedMachine
  obtain ⟨vm, hrun, hvm⟩ := BoundedTwoVcpuFullControllerCheckpoint.yields_capture
    faithful_exactOps readablePolicy_sysenter validatePageAddresses_zero (capture_resetPages 1)
    (show (0 : VcpuId) < 1 by decide) notifiedMachine.vm rfl
  obtain rfl : vm = notifiedMachine.vm := hvm
  have hcontroller : (Machine.onVm (BoundedTwoVcpuFullControllerCheckpoint.capture exactOps 0 1
      sysenterPolicy [0])).run notifiedMachine = .ok _ notifiedMachine := run_within_of_ok hrun
  refine (run_bind_of_ok hbars).trans ((run_bind_of_ok (run_guard_of_not (by decide))).trans ?_)
  exact (run_bind_of_ok hpending).trans <| (run_bind_of_ok hother).trans <|
    run_bind_of_ok hcontroller

/-- A checkpoint captured with its token, restored on a machine with a device in flight: the restore
fails because of the device, and has overwritten the page of the guest. -/
theorem busyMachine_overwritten :
    (captureWithPending exactOps 0 1 sysenterPolicy (0x10000000, 0x10001000) [0] .notification
        0x10000000).run notifiedMachine =
      .ok (notifiedCheckpoint, notifiedToken 0x10000000) notifiedMachine ∧
    ∃ e machine', (restoreAndVerifyWithPending notifiedCheckpoint exactOps 0 1
        (notifiedToken 0x10000000)).run busyMachine = .error e machine' ∧
      DeviceError e ∧ machine'.vm.memory ≠ busyMachine.vm.memory := by
  refine ⟨capture_notifiedMachine, ?_⟩
  have hbusy : ¬ Admissible notifiedCheckpoint (notifiedToken 0x10000000) busyMachine.bus :=
    fun hadmissible => not_ready_busyMachine hadmissible.secondReady
  have hrestorable : notifiedCheckpoint.controller.Restorable 0 1 busyMachine.vm.memory :=
    restorable_notifiedCheckpoint 0
  obtain ⟨e, vm, hrun, he, hvm⟩ := run_of_inadmissible faithful_exactOps hrestorable hbusy
  refine ⟨e, _, hrun, he, fun hsame => withPages_ne ?_⟩
  have hmemory := congrArg Vm.memory hvm
  exact Option.some.inj (hmemory.symm.trans hsame)

/-- On a machine with both devices ready, the same restore does not fail because of a device. -/
theorem resetMachine_untouched :
    Admissible notifiedCheckpoint (notifiedToken 0x10000000) (resetMachine 0).bus ∧
      ∀ e machine', (restoreAndVerifyWithPending notifiedCheckpoint exactOps 0 1
          (notifiedToken 0x10000000)).run (resetMachine 0) = .error e machine' →
        DeviceError e → machine'.map id = (resetMachine 0).map id := by
  obtain ⟨hfirst, hsecond⟩ := MmioBus.ready_twoBlkBus
    (show (0x10000000 : UInt64) ≠ 0x10001000 by decide)
  have hadmissible : Admissible notifiedCheckpoint (notifiedToken 0x10000000)
      (resetMachine 0).bus :=
    ⟨by decide, .inl rfl, ⟨rfl, rfl, rfl⟩, ⟨rfl, rfl⟩, hfirst, hsecond⟩
  exact ⟨hadmissible, (token_restore_untouched_iff faithful_exactOps notifiedCheckpoint 0 1
    (notifiedToken 0x10000000) (resetMachine 0)).mpr (.inl hadmissible)⟩

end BoundedTwoVcpuFullControllerTwoVirtioBlkCheckpoint

end MiniHypervisor.Checkpoint
