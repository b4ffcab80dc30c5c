import MiniHypervisor.Checkpoint.TwoDevice

/-!
# Checkpoints of one vCPU with the controllers

The checkpoint of one vCPU with the controllers and one virtio-blk device
(`src/state_snapshot/page_set/full_controller_virtio_blk.rs`), and the restore of one vCPU with the
controllers (`src/state_snapshot/page_set/full_controller.rs`) under a faithful KVM.

## Main results

* `BoundedFullControllerCheckpoint.yields_restoreAndVerify` : a restore under a faithful KVM.
-/

namespace MiniHypervisor.Checkpoint

open Bytes Control Kvm Memory Mmio VirtioBlk

variable {σ : Type}

/-! ### One device -/

structure BoundedFullControllerVirtioBlkCheckpointComparison where
  controller : BoundedFullControllerCheckpointComparison
  device : Bool
  deriving DecidableEq, Repr

namespace BoundedFullControllerVirtioBlkCheckpoint

/-- The device of a capture, which has to be there. -/
def captureDevice (bus : MmioBus) (bar0 : UInt64) : Except Error VirtioBlkDevice := do
  match ← (bus.captureVirtioBlkCheckpointAt bar0).mapError .hostEnvironment with
  | some device => return device
  | none => .error (pageSetError "full-controller virtio-blk checkpoint capture"
      ("no quiescent virtio-blk device is registered at BAR " ++ hexText bar0.toNat))

/-- `BoundedFullControllerVirtioBlkCheckpoint::capture` (lines 9-32). -/
def capture (ops : KvmOps σ) (id : VcpuId) (policy : GuestMsrAccessPolicy) (bar0 : UInt64)
    (pageAddresses : List UInt64) :
    EStateM Error (Machine σ) BoundedFullControllerVirtioBlkCheckpoint := do
  let controller ← Machine.onVm
    (BoundedFullControllerCheckpoint.capture ops id policy pageAddresses)
  let device ← reads fun machine => captureDevice machine.bus bar0
  return { controller, bar0, device }

variable (checkpoint : BoundedFullControllerVirtioBlkCheckpoint) (ops : KvmOps σ) (id : VcpuId)

/-- `BoundedFullControllerVirtioBlkCheckpoint::verify` (lines 49-60). -/
def verify : EStateM Error (Machine σ) BoundedFullControllerVirtioBlkCheckpointComparison := do
  let controller ← Machine.onVm (checkpoint.controller.verify ops id)
  let device ← reads fun machine =>
    verifyRequiredDevice machine.bus checkpoint.bar0 checkpoint.device
  return { controller, device }

/-- The restore of the device, which has to be there. -/
def restoreDevice : EStateM Error (Machine σ) Unit := do
  match ← Machine.onBus
    (MmioBus.restoreVirtioBlkCheckpointAt checkpoint.bar0 checkpoint.device) with
  | some _ => return ()
  | none => throw (pageSetError "full-controller virtio-blk checkpoint device restore"
      ("virtio-blk device at BAR " ++ hexText checkpoint.bar0.toNat ++ " disappeared"))

/-- `BoundedFullControllerVirtioBlkCheckpoint::restore_and_verify` (lines 62-80), with
`restore_device_only_after_controller_exact` (lines 106-117). -/
def restoreAndVerify :
    EStateM Error (Machine σ) BoundedFullControllerVirtioBlkCheckpointComparison := do
  let controller ← Machine.onVm (checkpoint.controller.restoreAndVerify ops id)
  reads fun _ => rejectIf (controller.isExactMatch = false)
    (pageSetError "full-controller virtio-blk checkpoint controller restore verification"
      ("page/VCPU/controller state was not exact after restore; device state was not mutated"))
  checkpoint.restoreDevice
  checkpoint.verify ops id

end BoundedFullControllerVirtioBlkCheckpoint

/-! ### Restores under a faithful KVM -/

namespace BoundedFullControllerCheckpoint

variable {ops : KvmOps σ} {view : σ → KvmState} {id : VcpuId} {v : KvmState} {memory : GuestMemory}

/-- The state of KVM after the controllers are written. -/
def withControllers (checkpoint : BoundedFullControllerCheckpoint) (id : VcpuId)
    (state : KvmState) : KvmState :=
  (((state.setIrqchip kvmIrqchipPicMaster
    (encodePicState checkpoint.base.masterPic.state (.zeros _))).setIrqchip kvmIrqchipPicSlave
    (encodePicState checkpoint.slavePic.state (.zeros _))).setIrqchip kvmIrqchipIoapic
    (encodeIoapicState checkpoint.ioapic.state (.zeros _))).setLapic id checkpoint.base.lapic

/-- The state of KVM after a restore. -/
def writtenKvm (checkpoint : BoundedFullControllerCheckpoint) (id : VcpuId) (state : KvmState) :
    KvmState :=
  checkpoint.withControllers id (state.restoreVcpu id checkpoint.base.guest.vcpu)

/-- The comparison of a checkpoint with a machine that shows it. -/
def exactComparison (checkpoint : BoundedFullControllerCheckpoint) :
    BoundedFullControllerCheckpointComparison where
  base := {
    guest := checkpoint.base.guest.exactComparison
    masterPic := true
    lapic := true }
  slavePic := true
  ioapic := true

variable {checkpoint : BoundedFullControllerCheckpoint}

theorem isExactMatch_exactComparison : checkpoint.exactComparison.isExactMatch = true := by
  simp only [BoundedFullControllerCheckpointComparison.isExactMatch, exactComparison,
    BoundedControllerCheckpointComparison.isExactMatch,
    BoundedVcpuPageSetCheckpoint.isExactMatch_exactComparison, Bool.true_and]

theorem ioapic_writtenKvm :
    decodeIoapicState ((checkpoint.writtenKvm id v).irqchips kvmIrqchipIoapic) =
      checkpoint.ioapic.state :=
  decodeIoapicState_eq_iff.mpr checkpoint.ioapic.val_semanticBytes

theorem yields_restoreFullControllerComponents (hops : Faithful ops view) :
    Yields (Vm.map view) (checkpoint.restoreFullControllerComponents ops id) ⟨some memory, v⟩ ()
      ⟨some memory, checkpoint.withControllers id v⟩ :=
  (Vm.yields_onKvm (yields_orElseError (hops.setIrqchip _ _))).bind <|
    (Vm.yields_onKvm (yields_orElseError (hops.setIrqchip _ _))).bind <|
      (Vm.yields_onKvm (yields_orElseError (hops.setIrqchip _ _))).bind <|
        Vm.yields_onKvm (yields_orElseError (hops.setLapic _ _ _))

theorem yields_verify (hops : Faithful ops view)
    (hpolicy : ReadablePolicy checkpoint.base.guest.vcpu.msrs.policy)
    (hpages : HoldsPages checkpoint.base.guest.pages memory) :
    Yields (Vm.map view) (checkpoint.verify ops id) ⟨some memory, checkpoint.writtenKvm id v⟩
      checkpoint.exactComparison ⟨some memory, checkpoint.writtenKvm id v⟩ := by
  have hshows : (checkpoint.writtenKvm id v).vcpu id checkpoint.base.guest.vcpu.msrs.policy =
      checkpoint.base.guest.vcpu := KvmState.vcpu_restoreVcpu_self hpolicy
  have hmaster : decodePicState ((checkpoint.writtenKvm id v).irqchips kvmIrqchipPicMaster) =
      checkpoint.base.masterPic.state := decodePicState_eq_iff.mpr (val_picSemanticBytes _)
  have hslave : decodePicState ((checkpoint.writtenKvm id v).irqchips kvmIrqchipPicSlave) =
      checkpoint.slavePic.state := decodePicState_eq_iff.mpr (val_picSemanticBytes _)
  have hlapic : (checkpoint.writtenKvm id v).lapics id = checkpoint.base.lapic :=
    Function.update_self ..
  have hbase : Yields (Vm.map view) (checkpoint.base.verify ops id)
      ⟨some memory, checkpoint.writtenKvm id v⟩ checkpoint.exactComparison.base
      ⟨some memory, checkpoint.writtenKvm id v⟩ := by
    refine (Vm.yields_withGuestMemory
      (BoundedVcpuPageSetCheckpoint.yields_verify hops hpolicy hpages hshows)).bind ?_
    refine (Vm.yields_onKvm (yields_captureMasterPicState hops)).bind ?_
    refine (Vm.yields_onKvm (yields_orElseError (hops.getLapic _ _))).bind ?_
    simp only [hmaster, hlapic, decide_true]
    exact .pure _ _
  refine hbase.bind ?_
  refine (Vm.yields_onKvm (yields_captureSlavePicState hops)).bind ?_
  refine (Vm.yields_onKvm (yields_captureIoapicState hops)).bind ?_
  simp only [hslave, ioapic_writtenKvm, decide_true]
  exact .pure _ _

/-- **A restore under a faithful KVM.** A checkpoint whose pages fit and whose MSRs can be read is
restored exactly, and the machine then shows what was written. -/
theorem yields_restoreAndVerify (hops : Faithful ops view)
    (hpolicy : ReadablePolicy checkpoint.base.guest.vcpu.msrs.policy)
    (hpages : HoldsPages checkpoint.base.guest.pages
      (withPages checkpoint.base.guest.pages memory)) :
    Yields (Vm.map view) (checkpoint.restoreAndVerify ops id) ⟨some memory, v⟩
      checkpoint.exactComparison
      ⟨some (withPages checkpoint.base.guest.pages memory), checkpoint.writtenKvm id v⟩ := by
  refine (Vm.yields_withGuestMemory
    (BoundedVcpuPageSetCheckpoint.yields_restoreAndVerify hops hpolicy hpages)).bind ?_
  have hexact : ¬ checkpoint.base.guest.exactComparison.isExactMatch = false :=
    (Bool.not_eq_false _).mpr BoundedVcpuPageSetCheckpoint.isExactMatch_exactComparison
  refine (Yields.guard hexact).bind ?_
  exact (yields_restoreFullControllerComponents hops).bind (yields_verify hops hpolicy hpages)

end BoundedFullControllerCheckpoint

end MiniHypervisor.Checkpoint
