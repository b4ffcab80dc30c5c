import MiniHypervisor.Checkpoint.Quiescence
import MiniHypervisor.Schema.Binding

/-!
# The quiescence of decoded checkpoints

A captured checkpoint of one vCPU with the controllers is quiescent: its IOAPIC has no pending
interrupt, and no restore writes one.  The decoders of such checkpoints, alone or in a checkpoint or
transaction of one or two devices, check the pad of the IOAPIC and not its pending interrupts
(`src/state_snapshot/page_set/full_controller_schema_v1.rs`, lines 156-292).  So a decoded
checkpoint is quiescent exactly when the word for the pending interrupts in the string is zero.

## Main results

* `fullController_quiescent_iff` : which captured and decoded checkpoints are quiescent.
-/

namespace MiniHypervisor.Schema

open Bytes Checkpoint Control Kvm Memory VirtioBlk

/-! ### The pending interrupts in a string -/

/-- The pending interrupts in the controller states that end `n` bytes before the end of a
string. -/
def irrBefore (bytes : List UInt8) (n : ℕ) : UInt32 := u32At bytes (bytes.length - (n + 196) - 4)

theorem irrBefore_append (pre : List UInt8) (states : ControllerStates) {post : List UInt8} {n : ℕ}
    (hpost : post.length = n) :
    irrBefore (pre ++ (states.block ++ post)) n = states.ioapic.state.irr := by
  have hblock : pre ++ (states.block ++ post) =
      (pre ++ (states.masterPic.semanticBytes.1 ++ (states.slavePic.semanticBytes.1 ++
        (u64Bytes states.ioapic.state.baseAddress ++ (u32Bytes states.ioapic.state.ioregsel ++
          u32Bytes states.ioapic.state.id))))) ++
        (u32Bytes states.ioapic.state.irr ++ (u32Bytes states.ioapic.state.pad ++
          states.ioapic.state.redirtbl.flatMap u64Bytes ++ post)) := by
    simp only [ControllerStates.block, IoapicStateSnapshot.val_semanticBytes,
      KvmIoapicState.block, List.append_assoc]
  have hrest : (u32Bytes states.ioapic.state.pad ++
      states.ioapic.state.redirtbl.flatMap u64Bytes ++ post).length = n + 196 := by
    rw [List.length_append, List.length_append, length_u32Bytes, states.ioapic.state.length_table,
      hpost]
    omega
  rw [irrBefore, hblock, u32At, slice_before _ (length_u32Bytes _) hrest, u32OfBytes_u32Bytes]

/-- The states of the controllers stand in a string, with `n` bytes after them. -/
def StatesBefore (states : ControllerStates) (bytes : List UInt8) (n : ℕ) : Prop :=
  ∃ pre post, bytes = pre ++ (states.block ++ post) ∧ post.length = n

section Decoded

variable {states : ControllerStates} {bytes : List UInt8} {n m : ℕ}

theorem StatesBefore.irr_eq (h : StatesBefore states bytes n) :
    irrBefore bytes n = states.ioapic.state.irr := by
  obtain ⟨pre, post, rfl, hpost⟩ := h
  exact irrBefore_append pre states hpost

/-- A format that holds such a string, and `m` bytes after it. -/
theorem StatesBefore.nested (h : StatesBefore states bytes n) (header : List UInt8)
    {rest : List UInt8} (hrest : rest.length = m) :
    StatesBefore states (header ++ (bytes ++ rest)) (n + m) := by
  obtain ⟨pre, post, rfl, hpost⟩ := h
  refine ⟨header ++ pre, post ++ rest, ?_, ?_⟩
  · simp only [List.append_assoc]
  · rw [List.length_append, hpost, hrest]

theorem VersionedFullControllerCheckpointV1.statesBefore {v : VersionedFullControllerCheckpointV1}
    (hdecode : decode bytes = .ok v) : StatesBefore v.states bytes 1024 := by
  obtain ⟨header, rfl⟩ := exists_append_of_decode hdecode
  exact ⟨header, _, rfl, v.lapic.regs.2⟩

theorem VersionedFullControllerVirtioBlkCheckpointV1.statesBefore
    {v : VersionedFullControllerVirtioBlkCheckpointV1} (hdecode : decode bytes = .ok v) :
    StatesBefore v.controller.states bytes 3152 := by
  obtain ⟨header, controller, hcontroller, rfl⟩ := exists_append_of_decode hdecode
  exact (VersionedFullControllerCheckpointV1.statesBefore hcontroller).nested header
    length_deviceFields

theorem VersionedFullControllerTwoVirtioBlkCheckpointV1.statesBefore
    {v : VersionedFullControllerTwoVirtioBlkCheckpointV1} (hdecode : decode bytes = .ok v) :
    StatesBefore v.controller.states bytes 5280 := by
  obtain ⟨header, controller, hcontroller, -, -, rfl⟩ :=
    TwoDeviceCheckpoint.exists_append_of_decodeWith hdecode
  exact (VersionedFullControllerCheckpointV1.statesBefore hcontroller).nested header
    TwoDeviceCheckpoint.length_deviceRecords

theorem VersionedCheckpointTransactionV1.statesBefore {v : VersionedCheckpointTransactionV1}
    (hdecode : decode bytes = .ok v) : StatesBefore v.checkpoint.controller.states bytes 3200 := by
  obtain ⟨header, checkpoint, hcheckpoint, rfl⟩ := exists_append_of_decode hdecode
  exact (VersionedFullControllerVirtioBlkCheckpointV1.statesBefore hcheckpoint).nested header
    VersionedHostRegistrationSpecV1.length_encode

theorem VersionedTwoDeviceCheckpointTransactionV1.statesBefore
    {v : VersionedTwoDeviceCheckpointTransactionV1} (hdecode : decode bytes = .ok v) :
    StatesBefore v.checkpoint.controller.states bytes 5408 := by
  obtain ⟨header, checkpoint, hcheckpoint, rfl⟩ := exists_append_of_decode hdecode
  exact (VersionedFullControllerTwoVirtioBlkCheckpointV1.statesBefore hcheckpoint).nested header
    VersionedHostRegistrationPairV1.length_encode

/-- In every format the word for the pending interrupts decides. -/
theorem StatesBefore.quiescent_iff {v : VersionedFullControllerCheckpointV1}
    {hostMsrs : HostMsrIndexList} {checkpoint : BoundedFullControllerCheckpoint}
    (hstates : StatesBefore v.states bytes n) (h : v.materialize hostMsrs = .ok checkpoint) :
    checkpoint.Quiescent ↔ irrBefore bytes n = 0 := by
  rw [hstates.irr_eq]
  simp only [VersionedFullControllerCheckpointV1.materialize, bind_eq_ok, pure, Except.pure,
    Except.ok.injEq] at h
  obtain ⟨_, -, _, -, rfl⟩ := h
  exact BoundedFullControllerCheckpoint.quiescent_iff

end Decoded

/-! ### Captured and decoded checkpoints -/

/-- **Quiescent checkpoints.** Every captured checkpoint is quiescent, whatever KVM answers, alone
and with one or two devices.  A checkpoint that is decoded and materialized, in each of the five
formats that hold one, is quiescent exactly when the word for the pending interrupts in the string
is zero. -/
theorem fullController_quiescent_iff {σ : Type} (ops : KvmOps σ) (id : VcpuId)
    (policy : GuestMsrAccessPolicy) (pageAddresses : List UInt64) (bytes : List UInt8)
    (hostMsrs : HostMsrIndexList) :
    ((∀ vm checkpoint vm', (BoundedFullControllerCheckpoint.capture ops id policy
        pageAddresses).run vm = .ok checkpoint vm' → checkpoint.Quiescent) ∧
      (∀ bar0 machine checkpoint machine', (BoundedFullControllerVirtioBlkCheckpoint.capture ops id
        policy bar0 pageAddresses).run machine = .ok checkpoint machine' →
          checkpoint.controller.Quiescent) ∧
      (∀ bars machine checkpoint machine', (BoundedFullControllerTwoVirtioBlkCheckpoint.capture ops
        id policy bars pageAddresses).run machine = .ok checkpoint machine' →
          checkpoint.controller.Quiescent)) ∧
    (∀ v checkpoint, VersionedFullControllerCheckpointV1.decode bytes = .ok v →
      v.materialize hostMsrs = .ok checkpoint →
      (checkpoint.Quiescent ↔ irrBefore bytes 1024 = 0)) ∧
    (∀ v checkpoint, VersionedFullControllerVirtioBlkCheckpointV1.decode bytes = .ok v →
      v.materialize hostMsrs = .ok checkpoint →
      (checkpoint.controller.Quiescent ↔ irrBefore bytes 3152 = 0)) ∧
    (∀ v checkpoint, VersionedFullControllerTwoVirtioBlkCheckpointV1.decode bytes = .ok v →
      VersionedFullControllerTwoVirtioBlkCheckpointV1.materialize v hostMsrs = .ok checkpoint →
      (checkpoint.controller.Quiescent ↔ irrBefore bytes 5280 = 0)) ∧
    (∀ v checkpoint spec, VersionedCheckpointTransactionV1.decode bytes = .ok v →
      v.materialize hostMsrs = .ok (checkpoint, spec) →
      (checkpoint.controller.Quiescent ↔ irrBefore bytes 3200 = 0)) ∧
    (∀ v checkpoint pair, VersionedTwoDeviceCheckpointTransactionV1.decode bytes = .ok v →
      v.materialize hostMsrs = .ok (checkpoint, pair) →
      (checkpoint.controller.Quiescent ↔ irrBefore bytes 5408 = 0)) := by
  refine ⟨⟨?_, ?_, ?_⟩, ?_, ?_, ?_, ?_, ?_⟩
  · exact fun vm checkpoint vm' h => BoundedFullControllerCheckpoint.quiescent_of_capture h
  · exact fun bar0 machine checkpoint machine' h =>
      BoundedFullControllerCheckpoint.quiescent_of_captureOne h
  · exact fun bars machine checkpoint machine' h =>
      BoundedFullControllerCheckpoint.quiescent_of_captureTwo h
  · exact fun v checkpoint hdecode h =>
      (VersionedFullControllerCheckpointV1.statesBefore hdecode).quiescent_iff h
  · exact fun v checkpoint hdecode h =>
      (VersionedFullControllerVirtioBlkCheckpointV1.statesBefore hdecode).quiescent_iff
        (VersionedFullControllerVirtioBlkCheckpointV1.of_materialize h).1
  · exact fun v checkpoint hdecode h =>
      (VersionedFullControllerTwoVirtioBlkCheckpointV1.statesBefore hdecode).quiescent_iff
        (TwoDeviceCheckpoint.of_materializeWith h).controller
  · exact fun v checkpoint spec hdecode h =>
      (VersionedCheckpointTransactionV1.statesBefore hdecode).quiescent_iff
        (VersionedFullControllerVirtioBlkCheckpointV1.of_materialize
          (VersionedCheckpointTransactionV1.of_materialize h).1).1
  · exact fun v checkpoint pair hdecode h =>
      (VersionedTwoDeviceCheckpointTransactionV1.statesBefore hdecode).quiescent_iff
        (VersionedTwoDeviceCheckpointTransactionV1.of_materialize h).1.controller

/-! ### A pending interrupt -/

/-- An IOAPIC in its reset state, apart from the pending interrupts. -/
def pendingIoapic (irr : UInt32) : IoapicStateSnapshot where
  state := { idleIoapic.state with irr }

/-- One vCPU with its controllers, and the pending interrupts of the IOAPIC. -/
def pendingController (irr : UInt32) : VersionedFullControllerCheckpointV1 :=
  { idleFullController with ioapic := pendingIoapic irr }

/-- The bytes of `pendingController`. -/
def pendingControllerBytes (irr : UInt32) : List UInt8 :=
  fullControllerFrame.assemble () (unusableSegmentCheckpointBytes 0)
    ((pendingController irr).states.block ++ (pendingController irr).lapic.regs.1)

theorem decode_pendingController (irr : UInt32) :
    VersionedFullControllerCheckpointV1.decode (pendingControllerBytes irr) =
      .ok (pendingController irr) :=
  VersionedFullControllerCheckpointV1.decode_eq_ok.mpr ⟨rfl, _,
    decode_unusableSegmentCheckpoint (by decide +kernel), by rw [length_idleGuest]; decide, rfl⟩

theorem materialize_pendingController (irr : UInt32) :
    (pendingController irr).materialize sysenterHost =
      .ok (idleFullControllerCheckpoint (pendingIoapic irr)) :=
  materialize_idleFullController rfl

theorem restore_pendingController (irr : UInt32) :
    ∃ comparison vm', ((idleFullControllerCheckpoint (pendingIoapic irr)).restoreAndVerify exactOps
        0).run (resetMachine 0).vm = .ok comparison vm' ∧ comparison.isExactMatch = true ∧
      (decodeIoapicState (vm'.kvm.irqchips kvmIrqchipIoapic)).irr = irr := by
  have hpages : HoldsPages [⟨0, List.replicate 4096 0⟩]
      (withPages [⟨0, List.replicate 4096 0⟩] (filledPage 0)) := by
    refine holdsPages_singleton ?_
    rw [List.length_replicate]
    exact ⟨Nat.le_refl 0, Nat.le_refl 4096⟩
  have hrestore : Yields (Vm.map id)
      ((idleFullControllerCheckpoint (pendingIoapic irr)).restoreAndVerify exactOps 0)
      (resetMachine 0).vm (idleFullControllerCheckpoint (pendingIoapic irr)).exactComparison
      ⟨_, (idleFullControllerCheckpoint (pendingIoapic irr)).writtenKvm 0 resetKvm⟩ :=
    BoundedFullControllerCheckpoint.yields_restoreAndVerify faithful_exactOps
      readablePolicy_sysenter hpages
  obtain ⟨vm', hrun, hvm⟩ := hrestore (resetMachine 0).vm rfl
  refine ⟨_, vm', hrun, BoundedFullControllerCheckpoint.isExactMatch_exactComparison, ?_⟩
  obtain rfl : vm' = _ := hvm
  exact congrArg KvmIoapicState.irr BoundedFullControllerCheckpoint.ioapic_writtenKvm

/-- The machine of one page is captured and quiescent, and nothing is pending in the string of the
idle machine. -/
theorem idleFullController_quiescent :
    (∃ checkpoint vm', (BoundedFullControllerCheckpoint.capture exactOps 0 sysenterPolicy [0]).run
        (resetMachine 0).vm = .ok checkpoint vm' ∧ checkpoint.Quiescent) ∧
      (idleFullControllerCheckpoint (pendingIoapic 0)).Quiescent ∧
      irrBefore (pendingControllerBytes 0) 1024 = 0 := by
  have hcapture : Yields (Vm.map id)
      (BoundedFullControllerCheckpoint.capture exactOps 0 sysenterPolicy [0]) (resetMachine 0).vm
      (resetKvm.fullController sysenterPolicy (resetPages 0) 0) (resetMachine 0).vm :=
    BoundedFullControllerCheckpoint.yields_capture faithful_exactOps readablePolicy_sysenter
      validatePageAddresses_zero (capture_resetPages 0) (by decide +kernel)
  obtain ⟨vm', hrun, -⟩ := hcapture (resetMachine 0).vm rfl
  have hquiescent : (idleFullControllerCheckpoint (pendingIoapic 0)).Quiescent :=
    BoundedFullControllerCheckpoint.quiescent_iff.mpr rfl
  have hiff := fullController_quiescent_iff exactOps 0 sysenterPolicy [0] (pendingControllerBytes 0)
    sysenterHost
  refine ⟨⟨_, vm', hrun, ?_⟩, hquiescent, ?_⟩
  · exact hiff.1.1 _ _ _ hrun
  · exact (hiff.2.1 _ _ (decode_pendingController 0)
      (materialize_pendingController 0)).mp hquiescent

/-- A string with a pending interrupt is decoded and materialized, and the restore writes the
interrupt into the VM. -/
theorem pending_interrupt_restored :
    VersionedFullControllerCheckpointV1.decode (pendingControllerBytes 1) =
        .ok (pendingController 1) ∧
      (pendingController 1).materialize sysenterHost =
        .ok (idleFullControllerCheckpoint (pendingIoapic 1)) ∧
      ¬ (idleFullControllerCheckpoint (pendingIoapic 1)).Quiescent ∧
      ∃ comparison vm', ((idleFullControllerCheckpoint (pendingIoapic 1)).restoreAndVerify exactOps
          0).run (resetMachine 0).vm = .ok comparison vm' ∧ comparison.isExactMatch = true ∧
        (decodeIoapicState (vm'.kvm.irqchips kvmIrqchipIoapic)).irr = 1 :=
  ⟨decode_pendingController 1, materialize_pendingController 1,
    fun h => absurd h.irr (show (1 : UInt32) ≠ 0 by decide), restore_pendingController 1⟩

end MiniHypervisor.Schema
