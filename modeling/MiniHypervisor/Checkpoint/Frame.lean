import MiniHypervisor.Checkpoint.TwoDevice

/-!
# What the checkpoints leave alone

The operations of KVM that a checkpoint uses read and write registers, MSRs, local APICs and
interrupt controllers.  Whatever part of KVM they all keep, the verification and the restores of
vCPUs with the controllers and two devices keep it too, whether they succeed or fail.

## Main results

* `BoundedTwoVcpuFullControllerTwoVirtioBlkCheckpoint.keeps_verify`,
  `BoundedTwoVcpuFullControllerTwoVirtioBlkCheckpoint.keeps_restoreAndVerify` : the checkpoints keep
  it.
-/

namespace MiniHypervisor.Checkpoint

open Control Kvm Memory Mmio Vcpu VirtioBlk

variable {σ α γ : Type} {g : σ → γ}

/-- Every operation keeps the observation `g` of the state of KVM. -/
structure KvmOps.Spares (ops : KvmOps σ) (g : σ → γ) : Prop where
  getRegs (id : VcpuId) : Keeps g (ops.getRegs id)
  setRegs (id : VcpuId) (regs : KvmRegs) : Keeps g (ops.setRegs id regs)
  getSregs (id : VcpuId) : Keeps g (ops.getSregs id)
  setSregs (id : VcpuId) (sregs : KvmSregs) : Keeps g (ops.setSregs id sregs)
  getMsrs (id : VcpuId) (request : KvmMsrs vcpuMsrReadbackCapacity) :
    Keeps g (ops.getMsrs id request)
  setMsrs (id : VcpuId) (request : KvmMsrs vcpuMsrWriteCapacity) : Keeps g (ops.setMsrs id request)
  getLapic (id : VcpuId) : Keeps g (ops.getLapic id)
  setLapic (id : VcpuId) (state : KvmLapicState) : Keeps g (ops.setLapic id state)
  getMpState (id : VcpuId) : Keeps g (ops.getMpState id)
  setMpState (id : VcpuId) (state : UInt32) : Keeps g (ops.setMpState id state)
  getIrqchip (request : KvmIrqchip) : Keeps g (ops.getIrqchip request)
  setIrqchip (request : KvmIrqchip) : Keeps g (ops.setIrqchip request)

theorem keeps_orElseError {wrap : String → Error} {x : EStateM String σ α} (h : Keeps g x) :
    Keeps g (orElseError wrap x) :=
  .within_get h (fun _ _ => rfl) fun _ => rfl

section Operations

variable {ops : KvmOps σ} (hops : ops.Spares g) (id : VcpuId)

include hops

/-! ### Registers and MSRs -/

theorem keeps_captureMsrSnapshot (policy : GuestMsrAccessPolicy) :
    Keeps g (captureMsrSnapshot ops id policy) := by
  have hmsrs (indices : List MsrIndex) : Keeps g (msrs ops id indices) :=
    .ite (.pure _) (.bind (.reads _) fun _ =>
      (keeps_orElseError (hops.getMsrs id _)).bind fun _ => .reads _)
  refine .bind (.ite (.reads _) ?_) fun _ => .reads _
  exact (hmsrs _).bind fun _ => .reads _

theorem keeps_verifyStateSnapshot (snapshot : VcpuStateSnapshot) :
    Keeps g (verifyStateSnapshot ops id snapshot) := by
  have hregisters : Keeps g (captureRegisterSnapshot ops id) :=
    (keeps_orElseError (hops.getRegs id)).bind fun _ => .pure _
  have hspecial : Keeps g (captureSpecialRegisterSnapshot ops id) :=
    (keeps_orElseError (hops.getSregs id)).bind fun _ => .pure _
  refine Keeps.bind ?_ fun _ => .pure _
  exact hregisters.bind fun _ => hspecial.bind fun _ =>
    (keeps_captureMsrSnapshot hops id _).bind fun _ => .pure _

theorem keeps_restoreAndVerifyStateSnapshot (snapshot : VcpuStateSnapshot) :
    Keeps g (restoreAndVerifyStateSnapshot ops id snapshot) := by
  have hmsrs (values : GuestMsrValueSet) : Keeps g (setMsrs ops id values) := by
    refine .bind (.reads _) fun request => ?_
    cases request with
    | none => exact .pure _
    | some request => exact (keeps_orElseError (hops.setMsrs id request)).bind fun _ => .reads _
  refine Keeps.bind ?_ fun _ => keeps_verifyStateSnapshot hops id snapshot
  exact (keeps_orElseError (hops.setSregs id _)).bind fun _ =>
    (keeps_orElseError (hops.setRegs id _)).bind fun _ => hmsrs _

/-! ### Controllers -/

theorem keeps_multiprocessingStateRaw : Keeps g (multiprocessingStateRaw ops id) :=
  keeps_orElseError (hops.getMpState id)

theorem keeps_restoreMultiprocessingStateRaw (requested : UInt32) :
    Keeps g (restoreMultiprocessingStateRaw ops id requested) :=
  (keeps_orElseError (hops.setMpState id requested)).bind fun _ =>
    (keeps_multiprocessingStateRaw hops id).bind fun _ => .bind (.reads _) fun _ => .pure _

theorem keeps_captureIrqchip (chipId : UInt32) (chipName : String) :
    Keeps g (captureIrqchip ops chipId chipName) :=
  (keeps_orElseError (hops.getIrqchip _)).bind fun _ => .bind (.reads _) fun _ => .pure _

end Operations

/-! ### The guest and the VM -/

theorem Guest.keeps_onKvm {x : EStateM Error σ α} (h : Keeps g x) :
    Keeps (fun guest : Guest σ => g guest.kvm) (Guest.onKvm x) :=
  .within_get h (fun _ _ => rfl) fun _ => rfl

theorem Vm.keeps_onKvm {x : EStateM Error σ α} (h : Keeps g x) :
    Keeps (fun vm : Vm σ => g vm.kvm) (Vm.onKvm x) :=
  .within_get h (fun _ _ => rfl) fun _ => rfl

theorem Vm.keeps_withGuestMemory {missing : Error} {x : EStateM Error (Guest σ) α}
    (h : Keeps (fun guest : Guest σ => g guest.kvm) x) :
    Keeps (fun vm : Vm σ => g vm.kvm) (Vm.withGuestMemory missing x) := by
  rintro ⟨_ | memory, kvm⟩
  · rfl
  · rw [run_withGuestMemory_some]
    have hmemory : Keeps (fun vm : Vm σ => g vm.kvm)
        (within (fun vm : Vm σ => (⟨memory, vm.kvm⟩ : Guest σ))
          (fun _ guest => ⟨some guest.memory, guest.kvm⟩) (fun e : Error => e) x) :=
      .within_get h (fun _ _ => rfl) fun _ => rfl
    exact hmemory ⟨some memory, kvm⟩

theorem Machine.keeps_onVm {x : EStateM Error (Vm σ) α}
    (h : Keeps (fun vm : Vm σ => g vm.kvm) x) :
    Keeps (fun machine : Machine σ => g machine.vm.kvm) (Machine.onVm x) :=
  .within_get h (fun _ _ => rfl) fun _ => rfl

section Checkpoints

variable {ops : KvmOps σ} (hops : ops.Spares g) (first second : VcpuId)

include hops

namespace BoundedVcpuPageSetCheckpoint

variable (checkpoint : BoundedVcpuPageSetCheckpoint) (id : VcpuId)

theorem keeps_verify : Keeps (fun guest : Guest σ => g guest.kvm) (checkpoint.verify ops id) :=
  .bind (.reads _) fun _ =>
    (Guest.keeps_onKvm (keeps_verifyStateSnapshot hops id _)).bind fun _ => .pure _

theorem keeps_restoreAndVerify :
    Keeps (fun guest : Guest σ => g guest.kvm) (checkpoint.restoreAndVerify ops id) := by
  have hwrite (page : BoundedCheckpointPage) : Keeps (fun guest : Guest σ => g guest.kvm)
      (Guest.onMemory (GuestMemory.write page.address.toNat page.bytes)) := .within fun _ _ => rfl
  have hpages : Keeps (fun guest : Guest σ => g guest.kvm) checkpoint.writePages :=
    .forM hwrite _
  exact hpages.bind fun _ =>
    (Guest.keeps_onKvm (keeps_restoreAndVerifyStateSnapshot hops id _)).bind fun _ =>
      .bind (.reads _) fun _ => .pure _

end BoundedVcpuPageSetCheckpoint

namespace BoundedFullControllerCheckpoint

variable (checkpoint : BoundedFullControllerCheckpoint) (id : VcpuId)

theorem keeps_verify : Keeps (fun vm : Vm σ => g vm.kvm) (checkpoint.verify ops id) := by
  have hbase : Keeps (fun vm : Vm σ => g vm.kvm) (checkpoint.base.verify ops id) :=
    (Vm.keeps_withGuestMemory (checkpoint.base.guest.keeps_verify hops id)).bind fun _ =>
      (Vm.keeps_onKvm ((keeps_captureIrqchip hops _ _).bind fun _ => .pure _)).bind fun _ =>
        (Vm.keeps_onKvm (keeps_orElseError (hops.getLapic id))).bind fun _ => .pure _
  exact hbase.bind fun _ =>
    (Vm.keeps_onKvm ((keeps_captureIrqchip hops _ _).bind fun _ => .pure _)).bind fun _ =>
      (Vm.keeps_onKvm ((keeps_captureIrqchip hops _ _).bind fun _ => .pure _)).bind fun _ =>
        .pure _

end BoundedFullControllerCheckpoint

namespace BoundedTwoVcpuCheckpoint

variable (checkpoint : BoundedTwoVcpuCheckpoint)

theorem keeps_verify :
    Keeps (fun guest : Guest σ => g guest.kvm) (checkpoint.verify ops first second) :=
  .bind (.reads _) fun ids => (checkpoint.primary.keeps_verify hops ids.1).bind fun _ =>
    (Guest.keeps_onKvm (keeps_verifyStateSnapshot hops ids.2 _)).bind fun _ => .pure _

theorem keeps_restoreAndVerify :
    Keeps (fun guest : Guest σ => g guest.kvm)
      (checkpoint.restoreAndVerify ops first second) :=
  .bind (.reads _) fun ids => (checkpoint.primary.keeps_restoreAndVerify hops ids.1).bind fun _ =>
    (Guest.keeps_onKvm (keeps_restoreAndVerifyStateSnapshot hops ids.2 _)).bind fun _ => .pure _

end BoundedTwoVcpuCheckpoint

namespace BoundedTwoVcpuFullControllerCheckpoint

variable (checkpoint : BoundedTwoVcpuFullControllerCheckpoint)

theorem keeps_verify :
    Keeps (fun vm : Vm σ => g vm.kvm) (checkpoint.verify ops first second) := by
  have hirqchip {β : Type} (chipId : UInt32) (chipName : String) (decode : KvmIrqchip → β) :
      Keeps (fun vm : Vm σ => g vm.kvm) (Vm.onKvm (do
        let request ← captureIrqchip ops chipId chipName
        return decode request)) :=
    Vm.keeps_onKvm ((keeps_captureIrqchip hops chipId chipName).bind fun _ => .pure _)
  have hlapic (id : VcpuId) : Keeps (fun vm : Vm σ => g vm.kvm)
      (Vm.onKvm (captureLapicCheckpointState ops id)) :=
    Vm.keeps_onKvm (keeps_orElseError (hops.getLapic id))
  have hmp (id : VcpuId) : Keeps (fun vm : Vm σ => g vm.kvm)
      (Vm.onKvm (multiprocessingStateRaw ops id)) :=
    Vm.keeps_onKvm (keeps_multiprocessingStateRaw hops id)
  refine (Vm.keeps_withGuestMemory (checkpoint.base.keeps_verify hops first second)).bind
    fun _ => .bind (.reads _) fun ids => ?_
  refine (hirqchip _ _ _).bind fun _ => (hirqchip _ _ _).bind fun _ =>
    (hirqchip _ _ _).bind fun _ => ?_
  exact (hlapic ids.1).bind fun _ => (hlapic ids.2).bind fun _ => (hmp ids.1).bind fun _ =>
    (hmp ids.2).bind fun _ => .pure _

theorem keeps_restoreControllers (ids : VcpuId × VcpuId) :
    Keeps (fun vm : Vm σ => g vm.kvm) (checkpoint.restoreControllers ops ids) := by
  have hirqchip (request : KvmIrqchip) (chipName : String) : Keeps (fun vm : Vm σ => g vm.kvm)
      (Vm.onKvm (restoreIrqchip ops request chipName)) :=
    Vm.keeps_onKvm (keeps_orElseError (hops.setIrqchip request))
  have hlapic (id : VcpuId) (state : KvmLapicState) : Keeps (fun vm : Vm σ => g vm.kvm)
      (Vm.onKvm (restoreLapicCheckpointState ops id state)) :=
    Vm.keeps_onKvm (keeps_orElseError (hops.setLapic id state))
  exact (hirqchip _ _).bind fun _ => (hirqchip _ _).bind fun _ => (hirqchip _ _).bind fun _ =>
    (hlapic ids.1 _).bind fun _ => hlapic ids.2 _

theorem keeps_restoreAndVerify :
    Keeps (fun vm : Vm σ => g vm.kvm) (checkpoint.restoreAndVerify ops first second) := by
  have hmp (id : VcpuId) (state : UInt32) : Keeps (fun vm : Vm σ => g vm.kvm)
      (Vm.onKvm (restoreMultiprocessingStateRaw ops id state)) :=
    Vm.keeps_onKvm (keeps_restoreMultiprocessingStateRaw hops id state)
  refine .bind (.reads _) fun ids =>
    (Vm.keeps_withGuestMemory (checkpoint.base.keeps_restoreAndVerify hops ids.1 ids.2)).bind
      fun _ => .bind (.reads _) fun _ => Keeps.bind ?_ fun _ =>
        (checkpoint.keeps_restoreControllers hops ids).bind fun _ =>
          checkpoint.keeps_verify hops ids.1 ids.2
  exact (hmp ids.1 _).bind fun _ => (hmp ids.2 _).bind fun _ => .reads _

end BoundedTwoVcpuFullControllerCheckpoint

namespace BoundedTwoVcpuFullControllerTwoVirtioBlkCheckpoint

variable (checkpoint : BoundedTwoVcpuFullControllerTwoVirtioBlkCheckpoint)

theorem keeps_verify :
    Keeps (fun machine : Machine σ => g machine.vm.kvm) (verify checkpoint ops first second) :=
  (Machine.keeps_onVm (checkpoint.controller.keeps_verify hops first second)).bind fun _ =>
    .bind (.reads _) fun _ => .bind (.reads _) fun _ => .pure _

theorem keeps_restoreDevices (devices : TwoDeviceRestore) :
    Keeps (fun machine : Machine σ => g machine.vm.kvm)
      (checkpoint.restoreDevices (controllerRestore checkpoint ops first second) devices) := by
  have hbus : Keeps (fun machine : Machine σ => g machine.vm.kvm)
      (Machine.onBus (devices.run checkpoint.devices)) := .within fun _ _ => rfl
  refine (Machine.keeps_onVm
    (checkpoint.controller.keeps_restoreAndVerify hops first second)).bind fun _ => ?_
  exact .bind (.reads _) fun _ => hbus.bind fun _ => keeps_verify hops first second checkpoint

theorem keeps_restoreAndVerify :
    Keeps (fun machine : Machine σ => g machine.vm.kvm)
      (restoreAndVerify checkpoint ops first second) :=
  .bind (.reads _) fun _ => .bind (.reads _) fun _ =>
    keeps_restoreDevices hops first second checkpoint .quiescent

end BoundedTwoVcpuFullControllerTwoVirtioBlkCheckpoint

end Checkpoints

end MiniHypervisor.Checkpoint
