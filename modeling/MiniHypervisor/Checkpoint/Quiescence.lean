import MiniHypervisor.Checkpoint.Frame
import MiniHypervisor.Checkpoint.OneVcpu

/-!
# The quiescence of the IOAPIC

A checkpoint of one vCPU with the controllers holds the state of the IOAPIC.  A capture refuses an
IOAPIC with a pending interrupt (`src/state_snapshot/page_set/full_controller.rs`, lines 63-71): no
restore is to write one into a VM.  To say what a restore writes, the operations of KVM are run with
a log of the writes that are not wanted.
-/

namespace MiniHypervisor.Checkpoint

open Bytes Control Kvm Memory Mmio VirtioBlk

variable {σ α : Type}

/-! ### Logged operations -/

/-- A request that writes a pending interrupt into the IOAPIC. -/
def KvmIrqchip.Pending (request : KvmIrqchip) : Prop :=
  request.chipId = kvmIrqchipIoapic ∧ (decodeIoapicState request.chip).irr ≠ 0

instance (request : KvmIrqchip) : Decidable request.Pending := inferInstanceAs (Decidable (_ ∧ _))

/-- The state of KVM with the writes of a pending IOAPIC interrupt that were asked for. -/
structure Logged (σ : Type) where
  kvm : σ
  pendingWrites : List KvmIrqchip

namespace Logged

/-- An operation that is not logged. -/
def unlogged (x : EStateM String σ α) : EStateM String (Logged σ) α :=
  within kvm (fun state kvm => { state with kvm }) id x

/-- A request is logged if it writes a pending interrupt into the IOAPIC. -/
def record (request : KvmIrqchip) (state : Logged σ) : Logged σ :=
  if request.Pending then { state with pendingWrites := state.pendingWrites ++ [request] }
  else state

theorem keeps_unlogged (x : EStateM String σ α) : Keeps pendingWrites (unlogged x) :=
  .within fun _ _ => rfl

end Logged

namespace KvmOps

/-- The operations of KVM, with a log. -/
def logged (ops : KvmOps σ) : KvmOps (Logged σ) where
  getRegs id := Logged.unlogged (ops.getRegs id)
  setRegs id regs := Logged.unlogged (ops.setRegs id regs)
  getSregs id := Logged.unlogged (ops.getSregs id)
  setSregs id sregs := Logged.unlogged (ops.setSregs id sregs)
  getMsrs id request := Logged.unlogged (ops.getMsrs id request)
  setMsrs id request := Logged.unlogged (ops.setMsrs id request)
  getLapic id := Logged.unlogged (ops.getLapic id)
  setLapic id state := Logged.unlogged (ops.setLapic id state)
  getMpState id := Logged.unlogged (ops.getMpState id)
  setMpState id state := Logged.unlogged (ops.setMpState id state)
  getIrqchip request := Logged.unlogged (ops.getIrqchip request)
  setIrqchip request := do
    modify (Logged.record request)
    Logged.unlogged (ops.setIrqchip request)

/-- The operations without the writes to the controllers of the VM. -/
def withoutIrqchips (ops : KvmOps σ) : KvmOps σ :=
  { ops with setIrqchip := fun _ => pure () }

theorem spares_withoutIrqchips (ops : KvmOps σ) :
    ops.logged.withoutIrqchips.Spares Logged.pendingWrites where
  getRegs _ := Logged.keeps_unlogged _
  setRegs _ _ := Logged.keeps_unlogged _
  getSregs _ := Logged.keeps_unlogged _
  setSregs _ _ := Logged.keeps_unlogged _
  getMsrs _ _ := Logged.keeps_unlogged _
  setMsrs _ _ := Logged.keeps_unlogged _
  getLapic _ := Logged.keeps_unlogged _
  setLapic _ _ := Logged.keeps_unlogged _
  getMpState _ := Logged.keeps_unlogged _
  setMpState _ _ := Logged.keeps_unlogged _
  getIrqchip _ := Logged.keeps_unlogged _
  setIrqchip _ := .pure _

end KvmOps

/-! ### What the restores write -/

/-- The writes of a pending interrupt that were asked of a VM. -/
def Vm.pendingWrites (vm : Vm (Logged σ)) : List KvmIrqchip := vm.kvm.pendingWrites

theorem keeps_restoreIrqchip (ops : KvmOps σ) {request : KvmIrqchip} (h : ¬ request.Pending)
    (chipName : String) :
    Keeps Vm.pendingWrites (Vm.onKvm (restoreIrqchip ops.logged request chipName)) := by
  have hrecord : Keeps Logged.pendingWrites (modify (Logged.record request) :
      EStateM String (Logged σ) PUnit) := .modify fun _ => by rw [Logged.record, if_neg h]
  exact Vm.keeps_onKvm (keeps_orElseError (hrecord.bind fun _ => Logged.keeps_unlogged _))

namespace BoundedFullControllerCheckpoint

variable {checkpoint : BoundedFullControllerCheckpoint}

theorem keeps_restoreFullControllerComponents (h : checkpoint.ioapic.state.irr = 0)
    (ops : KvmOps σ) (id : VcpuId) :
    Keeps Vm.pendingWrites (checkpoint.restoreFullControllerComponents ops.logged id) := by
  have hioapic : ¬ KvmIrqchip.Pending { KvmIrqchip.request kvmIrqchipIoapic with
      chip := encodeIoapicState checkpoint.ioapic.state (.zeros _) } := by
    have hread : decodeIoapicState (encodeIoapicState checkpoint.ioapic.state (.zeros _)) =
        checkpoint.ioapic.state := decodeIoapicState_eq_iff.mpr checkpoint.ioapic.val_semanticBytes
    rintro ⟨-, hpending⟩
    exact hpending (by rw [hread, h])
  have hlapic : Keeps Vm.pendingWrites
      (Vm.onKvm (restoreLapicCheckpointState ops.logged id checkpoint.base.lapic)) :=
    Vm.keeps_onKvm (keeps_orElseError (Logged.keeps_unlogged _))
  refine (keeps_restoreIrqchip ops (fun hpending => ?_) _).bind fun _ =>
    (keeps_restoreIrqchip ops (fun hpending => ?_) _).bind fun _ =>
      (keeps_restoreIrqchip ops hioapic _).bind fun _ => hlapic
  · exact absurd hpending.1 (show kvmIrqchipPicMaster ≠ kvmIrqchipIoapic by decide)
  · exact absurd hpending.1 (show kvmIrqchipPicSlave ≠ kvmIrqchipIoapic by decide)

-- the verification and the restore of the guest do not write to the controllers of the VM
theorem keeps_verify_logged (checkpoint : BoundedFullControllerCheckpoint) (ops : KvmOps σ)
    (id : VcpuId) : Keeps Vm.pendingWrites (checkpoint.verify ops.logged id) :=
  checkpoint.keeps_verify ops.spares_withoutIrqchips id

theorem keeps_restoreAndVerify_logged (h : checkpoint.ioapic.state.irr = 0) (ops : KvmOps σ)
    (id : VcpuId) : Keeps Vm.pendingWrites (checkpoint.restoreAndVerify ops.logged id) := by
  have hguest : Keeps (fun guest : Guest (Logged σ) => guest.kvm.pendingWrites)
      (checkpoint.base.guest.restoreAndVerify ops.logged id) :=
    checkpoint.base.guest.keeps_restoreAndVerify ops.spares_withoutIrqchips id
  exact (Vm.keeps_withGuestMemory hguest).bind fun _ => .bind (.reads _) fun _ =>
    (keeps_restoreFullControllerComponents h ops id).bind fun _ =>
      checkpoint.keeps_verify_logged ops id

end BoundedFullControllerCheckpoint

/-- The writes of a pending interrupt that were asked of a machine. -/
def Machine.pendingWrites (machine : Machine (Logged σ)) : List KvmIrqchip :=
  machine.vm.pendingWrites

theorem Machine.keeps_onBus {x : EStateM HostEnvironmentError MmioBus α} :
    Keeps Machine.pendingWrites (Machine.onBus (σ := Logged σ) x) :=
  .within fun _ _ => rfl

section Devices

variable (ops : KvmOps σ) (id : VcpuId)

theorem BoundedFullControllerVirtioBlkCheckpoint.keeps_restoreAndVerify_logged
    {checkpoint : BoundedFullControllerVirtioBlkCheckpoint}
    (h : checkpoint.controller.ioapic.state.irr = 0) :
    Keeps Machine.pendingWrites (checkpoint.restoreAndVerify ops.logged id) := by
  have hdevice : Keeps Machine.pendingWrites
      (checkpoint.restoreDevice : EStateM Error (Machine (Logged σ)) Unit) := by
    refine Machine.keeps_onBus.bind fun found => ?_
    cases found with
    | none => exact .throw _
    | some _ => exact .pure _
  have hverify : Keeps Machine.pendingWrites (checkpoint.verify ops.logged id) :=
    (Machine.keeps_onVm (checkpoint.controller.keeps_verify_logged ops id)).bind fun _ =>
      .bind (.reads _) fun _ => .pure _
  refine (Machine.keeps_onVm (BoundedFullControllerCheckpoint.keeps_restoreAndVerify_logged h ops
    id)).bind fun _ => ?_
  exact .bind (.reads _) fun _ => hdevice.bind fun _ => hverify

theorem BoundedFullControllerTwoVirtioBlkCheckpoint.keeps_restoreAndVerify_logged
    {checkpoint : BoundedFullControllerTwoVirtioBlkCheckpoint}
    (h : checkpoint.controller.ioapic.state.irr = 0) :
    Keeps Machine.pendingWrites (restoreAndVerify checkpoint ops.logged id) := by
  have hverify : Keeps Machine.pendingWrites (verify checkpoint ops.logged id) :=
    (Machine.keeps_onVm (checkpoint.controller.keeps_verify_logged ops id)).bind fun _ =>
      .bind (.reads _) fun _ => .bind (.reads _) fun _ => .pure _
  refine .bind (.reads _) fun _ => .bind (.reads _) fun _ => ?_
  refine (Machine.keeps_onVm (BoundedFullControllerCheckpoint.keeps_restoreAndVerify_logged h ops
    id)).bind fun _ => ?_
  exact .bind (.reads _) fun _ => Machine.keeps_onBus.bind fun _ => hverify

end Devices

/-! ### Quiescent checkpoints -/

namespace BoundedFullControllerCheckpoint

/-- Nothing is pending in the IOAPIC of a checkpoint, and no restore of it, alone or with one or two
devices, under any KVM, on any machine and whether or not it succeeds, asks KVM to write a pending
interrupt into the IOAPIC. -/
structure Quiescent (checkpoint : BoundedFullControllerCheckpoint) : Prop where
  irr : checkpoint.ioapic.state.irr = 0
  restore : ∀ (σ : Type) (ops : KvmOps σ) (id : VcpuId),
    Keeps Vm.pendingWrites (checkpoint.restoreAndVerify ops.logged id)
  restoreOne : ∀ (σ : Type) (ops : KvmOps σ) (id : VcpuId) (bar0 : UInt64)
    (device : VirtioBlkDevice), Keeps Machine.pendingWrites
      (BoundedFullControllerVirtioBlkCheckpoint.restoreAndVerify ⟨checkpoint, bar0, device⟩
        ops.logged id)
  restoreTwo : ∀ (σ : Type) (ops : KvmOps σ) (id : VcpuId)
    (devices : (UInt64 × VirtioBlkDevice) × (UInt64 × VirtioBlkDevice)),
    Keeps Machine.pendingWrites
      (BoundedFullControllerTwoVirtioBlkCheckpoint.restoreAndVerify ⟨checkpoint, devices⟩
        ops.logged id)

theorem quiescent_iff {checkpoint : BoundedFullControllerCheckpoint} :
    checkpoint.Quiescent ↔ checkpoint.ioapic.state.irr = 0 := by
  refine ⟨fun h => h.irr, fun h => ⟨h, ?_, ?_, ?_⟩⟩
  · exact fun _ ops id => keeps_restoreAndVerify_logged h ops id
  · exact fun _ ops id _ _ =>
      BoundedFullControllerVirtioBlkCheckpoint.keeps_restoreAndVerify_logged ops id h
  · exact fun _ ops id _ =>
      BoundedFullControllerTwoVirtioBlkCheckpoint.keeps_restoreAndVerify_logged ops id h

/-! ### Captures -/

section Capture

variable {ops : KvmOps σ} {id : VcpuId} {policy : GuestMsrAccessPolicy}
  {pageAddresses : List UInt64}

theorem quiescent_of_capture {vm vm' : Vm σ} {checkpoint : BoundedFullControllerCheckpoint}
    (h : (capture ops id policy pageAddresses).run vm = .ok checkpoint vm') :
    checkpoint.Quiescent := by
  obtain ⟨_, _, -, h⟩ := run_bind_eq_ok.mp h
  obtain ⟨_, _, -, h⟩ := run_bind_eq_ok.mp h
  obtain ⟨ioapic, _, -, h⟩ := run_bind_eq_ok.mp h
  obtain ⟨_, _, hirr, h⟩ := run_bind_eq_ok.mp h
  cases h
  exact quiescent_iff.mpr (not_not.mp (rejectIf_eq_ok.mp (run_reads_eq_ok.mp hirr).1))

theorem quiescent_of_captureOne {machine machine' : Machine σ} {bar0 : UInt64}
    {checkpoint : BoundedFullControllerVirtioBlkCheckpoint}
    (h : (BoundedFullControllerVirtioBlkCheckpoint.capture ops id policy bar0 pageAddresses).run
      machine = .ok checkpoint machine') : checkpoint.controller.Quiescent := by
  obtain ⟨controller, _, hcontroller, h⟩ := run_bind_eq_ok.mp h
  obtain ⟨_, _, -, h⟩ := run_bind_eq_ok.mp h
  cases h
  obtain ⟨_, hrun, -⟩ := run_within_eq_ok.mp hcontroller
  exact quiescent_of_capture hrun

theorem quiescent_of_captureTwo {machine machine' : Machine σ} {bars : UInt64 × UInt64}
    {checkpoint : BoundedFullControllerTwoVirtioBlkCheckpoint}
    (h : (BoundedFullControllerTwoVirtioBlkCheckpoint.capture ops id policy bars pageAddresses).run
      machine = .ok checkpoint machine') : checkpoint.controller.Quiescent := by
  obtain ⟨_, _, -, h⟩ := run_bind_eq_ok.mp h
  obtain ⟨_, _, -, h⟩ := run_bind_eq_ok.mp h
  obtain ⟨_, _, -, h⟩ := run_bind_eq_ok.mp h
  obtain ⟨controller, _, hcontroller, h⟩ := run_bind_eq_ok.mp h
  cases h
  obtain ⟨_, hrun, -⟩ := run_within_eq_ok.mp hcontroller
  exact quiescent_of_capture hrun

end Capture

end BoundedFullControllerCheckpoint

end MiniHypervisor.Checkpoint
