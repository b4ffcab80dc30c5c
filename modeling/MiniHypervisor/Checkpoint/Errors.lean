import MiniHypervisor.Checkpoint.Machine
import MiniHypervisor.Control.Triples

/-!
# Errors of the checkpoints without devices

A checkpoint with devices can fail because of a device or because of the rest of the machine, and
the error tells which: the checks of the devices report a host I/O error, or name the device
preflight as their operation.  No operation on pages, vCPUs or controllers does either, whatever
KVM answers.

## Main results

* `BoundedFullControllerCheckpoint.throws_restoreAndVerify`,
  `BoundedTwoVcpuFullControllerCheckpoint.throws_restoreAndVerify` : the restores of the rest of the
  machine never fail because of a device.
-/

namespace MiniHypervisor.Checkpoint

open Control Kvm Memory Vcpu

/-- The operation that `capture_required_device` reports. -/
def devicePreflight : String := "two virtio-blk checkpoint device preflight"

/-- The error is because of a device. -/
def DeviceError : Error → Prop
  | .hostEnvironment (.io _ _) => True
  | .hostEnvironment (.vcpuOperation _ operation _) => operation = devicePreflight
  | _ => False

/-- The error is not because of a device. -/
def ControllerError (e : Error) : Prop := ¬ DeviceError e

theorem controllerError_vcpuOperation {id : VcpuId} {operation detail : String}
    (h : operation ≠ devicePreflight) : ControllerError (vcpuOperation id operation detail) := h

theorem controllerError_irqchip {operation chipName detail : String} :
    ControllerError (irqchipOperationError operation chipName detail) := id

theorem controllerError_guestMemory (e : GuestMemoryError) : ControllerError (.guestMemory e) :=
  not_false

variable {σ α : Type}

theorem throws_orElseError {wrap : String → Error} {x : EStateM String σ α}
    (h : ∀ detail, ControllerError (wrap detail)) : Throws ControllerError (orElseError wrap x) :=
  .within_wrap h

theorem throws_checked {wrap : String → Error} {x : Except String α}
    (h : ∀ detail, ControllerError (wrap detail)) :
    Throws ControllerError (checked wrap x : EStateM Error σ α) :=
  .reads fun _ => .mapError h

section Operations

variable (ops : KvmOps σ) (id : VcpuId)

theorem throws_vcpuOperation {operation : String} {x : EStateM String σ α}
    (h : operation ≠ devicePreflight) :
    Throws ControllerError (orElseError (vcpuOperation id operation) x) :=
  throws_orElseError fun _ => controllerError_vcpuOperation h

theorem throws_vcpuCheck {operation : String} {x : Except String α}
    (h : operation ≠ devicePreflight) :
    Throws ControllerError (checked (vcpuOperation id operation) x : EStateM Error σ α) :=
  throws_checked fun _ => controllerError_vcpuOperation h

/-! ### Registers and MSRs -/

theorem throws_msrs (indices : List MsrIndex) : Throws ControllerError (msrs ops id indices) := by
  unfold msrs
  split_ifs
  · exact .pure _
  · exact (throws_vcpuCheck id (by decide)).bind fun _ =>
      (throws_vcpuOperation id (by decide)).bind fun _ => throws_vcpuCheck id (by decide)

theorem throws_captureMsrSnapshot (policy : GuestMsrAccessPolicy) :
    Throws ControllerError (captureMsrSnapshot ops id policy) := by
  have hcapture : Throws ControllerError (captureMsrs ops id policy) := by
    unfold captureMsrs
    dsimp only
    split_ifs
    · exact throws_vcpuCheck id (by decide)
    · exact (throws_msrs ops id _).bind fun _ => throws_vcpuCheck id (by decide)
  exact hcapture.bind fun _ => throws_vcpuCheck id (by decide)

theorem throws_setMsrs (values : GuestMsrValueSet) :
    Throws ControllerError (setMsrs ops id values) := by
  refine (throws_vcpuCheck id (by decide)).bind fun request => ?_
  cases request with
  | none => exact .pure _
  | some request =>
      refine (throws_vcpuOperation id (by decide)).bind fun processed => .reads fun _ => ?_
      unfold validateVcpuMsrWriteCompletion
      dsimp only
      split_ifs
      · nofun
      · split <;> (rintro e ⟨⟩; exact not_false)

theorem throws_verifyStateSnapshot (snapshot : VcpuStateSnapshot) :
    Throws ControllerError (verifyStateSnapshot ops id snapshot) := by
  have hregisters : Throws ControllerError (captureRegisterSnapshot ops id) :=
    (throws_vcpuOperation id (by decide)).bind fun _ => .pure _
  have hspecial : Throws ControllerError (captureSpecialRegisterSnapshot ops id) :=
    (throws_vcpuOperation id (by decide)).bind fun _ => .pure _
  refine Throws.bind ?_ fun _ => .pure _
  exact hregisters.bind fun _ => hspecial.bind fun _ =>
    (throws_captureMsrSnapshot ops id _).bind fun _ => .pure _

theorem throws_restoreAndVerifyStateSnapshot (snapshot : VcpuStateSnapshot) :
    Throws ControllerError (restoreAndVerifyStateSnapshot ops id snapshot) := by
  refine Throws.bind ?_ fun _ => throws_verifyStateSnapshot ops id snapshot
  exact (throws_vcpuOperation id (by decide)).bind fun _ =>
    (throws_vcpuOperation id (by decide)).bind fun _ => throws_setMsrs ops id _

/-! ### Controllers -/

theorem throws_captureLapic : Throws ControllerError (captureLapicCheckpointState ops id) :=
  throws_vcpuOperation id (by decide)

theorem throws_restoreLapic (state : KvmLapicState) :
    Throws ControllerError (restoreLapicCheckpointState ops id state) :=
  throws_vcpuOperation id (by decide)

theorem throws_multiprocessingStateRaw : Throws ControllerError (multiprocessingStateRaw ops id) :=
  throws_vcpuOperation id (by decide)

theorem throws_restoreMultiprocessingStateRaw (requested : UInt32) :
    Throws ControllerError (restoreMultiprocessingStateRaw ops id requested) :=
  (throws_vcpuOperation id (by decide)).bind fun _ =>
    (throws_multiprocessingStateRaw ops id).bind fun _ =>
      (throws_vcpuCheck id (by decide)).bind fun _ => .pure _

theorem throws_captureIrqchip (chipId : UInt32) (chipName : String) :
    Throws ControllerError (captureIrqchip ops chipId chipName) :=
  (throws_orElseError fun _ => controllerError_irqchip).bind fun _ =>
    (throws_checked fun _ => controllerError_irqchip).bind fun _ => .pure _

theorem throws_restoreIrqchip (request : KvmIrqchip) (chipName : String) :
    Throws ControllerError (restoreIrqchip ops request chipName) :=
  throws_orElseError fun _ => controllerError_irqchip

end Operations

/-! ### Pages -/

theorem Guest.throws_onKvm {x : EStateM Error σ α} (h : Throws ControllerError x) :
    Throws ControllerError (Guest.onKvm x) :=
  .within h fun _ he => he

theorem Vm.throws_onKvm {x : EStateM Error σ α} (h : Throws ControllerError x) :
    Throws ControllerError (Vm.onKvm x) :=
  .within h fun _ he => he

theorem Vm.throws_withGuestMemory {missing : Error} {x : EStateM Error (Guest σ) α}
    (hmissing : ControllerError missing) (h : Throws ControllerError x) :
    Throws ControllerError (Vm.withGuestMemory missing x) := by
  rintro ⟨_ | memory, kvm⟩ e vm' hrun
  · cases hrun
    exact hmissing
  · rw [run_withGuestMemory_some] at hrun
    exact Throws.within h (fun _ he => he) _ e vm' hrun

theorem refuses_comparePages (expected : List BoundedCheckpointPage) (memory : GuestMemory) :
    Refuses ControllerError (comparePages expected memory) := by
  refine .mapM (fun page => ?_) expected
  exact .bind (.mapError controllerError_guestMemory) fun _ => .pure _

namespace BoundedVcpuPageSetCheckpoint

variable (checkpoint : BoundedVcpuPageSetCheckpoint) (ops : KvmOps σ) (id : VcpuId)

theorem throws_comparePages :
    Throws ControllerError (reads fun guest : Guest σ =>
      comparePages checkpoint.pages guest.memory) :=
  .reads fun guest => refuses_comparePages checkpoint.pages guest.memory

theorem throws_writePages : Throws ControllerError (σ := Guest σ) checkpoint.writePages :=
  .forM (fun _ => .within_wrap controllerError_guestMemory) checkpoint.pages

theorem throws_verify : Throws ControllerError (checkpoint.verify ops id) := by
  refine checkpoint.throws_comparePages.bind fun _ => ?_
  exact (Guest.throws_onKvm (throws_verifyStateSnapshot ops id _)).bind fun _ => .pure _

theorem throws_restoreAndVerify : Throws ControllerError (checkpoint.restoreAndVerify ops id) := by
  refine checkpoint.throws_writePages.bind fun _ => ?_
  refine (Guest.throws_onKvm (throws_restoreAndVerifyStateSnapshot ops id _)).bind fun _ => ?_
  exact checkpoint.throws_comparePages.bind fun _ => .pure _

end BoundedVcpuPageSetCheckpoint

/-! ### One vCPU -/

section Controllers

variable (ops : KvmOps σ) (id : VcpuId)

theorem throws_captureMasterPicState : Throws ControllerError (captureMasterPicState ops) :=
  (throws_captureIrqchip ops _ _).bind fun _ => .pure _

theorem throws_captureSlavePicState : Throws ControllerError (captureSlavePicState ops) :=
  (throws_captureIrqchip ops _ _).bind fun _ => .pure _

theorem throws_captureIoapicState : Throws ControllerError (captureIoapicState ops) :=
  (throws_captureIrqchip ops _ _).bind fun _ => .pure _

end Controllers

namespace BoundedFullControllerCheckpoint

variable (checkpoint : BoundedFullControllerCheckpoint) (ops : KvmOps σ) (id : VcpuId)

theorem throws_verify : Throws ControllerError (checkpoint.verify ops id) := by
  have hbase : Throws ControllerError (checkpoint.base.verify ops id) :=
    (Vm.throws_withGuestMemory (controllerError_vcpuOperation (by decide))
      (checkpoint.base.guest.throws_verify ops id)).bind fun _ =>
      (Vm.throws_onKvm (throws_captureMasterPicState ops)).bind fun _ =>
        (Vm.throws_onKvm (throws_captureLapic ops id)).bind fun _ => .pure _
  exact hbase.bind fun _ => (Vm.throws_onKvm (throws_captureSlavePicState ops)).bind fun _ =>
    (Vm.throws_onKvm (throws_captureIoapicState ops)).bind fun _ => .pure _

theorem throws_restoreAndVerify : Throws ControllerError (checkpoint.restoreAndVerify ops id) := by
  refine (Vm.throws_withGuestMemory (controllerError_vcpuOperation (by decide))
    (checkpoint.base.guest.throws_restoreAndVerify ops id)).bind fun _ => ?_
  refine (Throws.reads fun _ => .rejectIf (controllerError_vcpuOperation (by decide))).bind
    fun _ => ?_
  refine Throws.bind ?_ fun _ => checkpoint.throws_verify ops id
  exact (Vm.throws_onKvm (throws_restoreIrqchip ops _ _)).bind fun _ =>
    (Vm.throws_onKvm (throws_restoreIrqchip ops _ _)).bind fun _ =>
      (Vm.throws_onKvm (throws_restoreIrqchip ops _ _)).bind fun _ =>
        Vm.throws_onKvm (throws_restoreLapic ops id _)

end BoundedFullControllerCheckpoint

/-! ### Two vCPUs -/

theorem refuses_canonicalVcpuPair {operation : String} (h : operation ≠ devicePreflight)
    (first second : VcpuId) :
    Refuses ControllerError (canonicalVcpuPair operation first second) :=
  .guard (controllerError_vcpuOperation h) (.pure _)

namespace BoundedTwoVcpuCheckpoint

variable (checkpoint : BoundedTwoVcpuCheckpoint) (ops : KvmOps σ) (first second : VcpuId)

theorem refuses_bindVcpus : Refuses ControllerError (checkpoint.bindVcpus first second) :=
  (refuses_canonicalVcpuPair (by decide) first second).bind fun _ =>
    .guard (controllerError_vcpuOperation (by decide)) (.pure _)

theorem throws_verify : Throws ControllerError (checkpoint.verify ops first second) :=
  (Throws.reads fun _ => checkpoint.refuses_bindVcpus first second).bind fun ids =>
    (checkpoint.primary.throws_verify ops ids.1).bind fun _ =>
      (Guest.throws_onKvm (throws_verifyStateSnapshot ops ids.2 _)).bind fun _ => .pure _

theorem throws_restoreAndVerify :
    Throws ControllerError (checkpoint.restoreAndVerify ops first second) :=
  (Throws.reads fun _ => checkpoint.refuses_bindVcpus first second).bind fun ids =>
    (checkpoint.primary.throws_restoreAndVerify ops ids.1).bind fun _ =>
      (Guest.throws_onKvm (throws_restoreAndVerifyStateSnapshot ops ids.2 _)).bind fun _ => .pure _

end BoundedTwoVcpuCheckpoint

namespace BoundedTwoVcpuFullControllerCheckpoint

variable (checkpoint : BoundedTwoVcpuFullControllerCheckpoint) (ops : KvmOps σ)
  (first second : VcpuId)

theorem refuses_bindVcpus {operation : String} (h : operation ≠ devicePreflight) :
    Refuses ControllerError (checkpoint.bindVcpus first second operation) :=
  (refuses_canonicalVcpuPair h first second).bind fun _ =>
    .guard (controllerError_vcpuOperation (by decide)) (.pure _)

theorem throws_verify : Throws ControllerError (checkpoint.verify ops first second) := by
  refine (Vm.throws_withGuestMemory (controllerError_vcpuOperation (by decide))
    (checkpoint.base.throws_verify ops first second)).bind fun _ => ?_
  refine (Throws.reads fun _ => checkpoint.refuses_bindVcpus first second (by decide)).bind
    fun ids => ?_
  refine (Vm.throws_onKvm (throws_captureMasterPicState ops)).bind fun _ => ?_
  refine (Vm.throws_onKvm (throws_captureSlavePicState ops)).bind fun _ => ?_
  refine (Vm.throws_onKvm (throws_captureIoapicState ops)).bind fun _ => ?_
  refine (Vm.throws_onKvm (throws_captureLapic ops ids.1)).bind fun _ => ?_
  refine (Vm.throws_onKvm (throws_captureLapic ops ids.2)).bind fun _ => ?_
  refine (Vm.throws_onKvm (throws_multiprocessingStateRaw ops ids.1)).bind fun _ => ?_
  exact (Vm.throws_onKvm (throws_multiprocessingStateRaw ops ids.2)).bind fun _ => .pure _

theorem throws_restoreMpStates (ids : VcpuId × VcpuId) :
    Throws ControllerError (checkpoint.restoreMpStates ops ids) :=
  (Vm.throws_onKvm (throws_restoreMultiprocessingStateRaw ops ids.1 _)).bind fun _ =>
    (Vm.throws_onKvm (throws_restoreMultiprocessingStateRaw ops ids.2 _)).bind fun _ =>
      .reads fun _ => .rejectIf (controllerError_vcpuOperation (by decide))

theorem throws_restoreControllers (ids : VcpuId × VcpuId) :
    Throws ControllerError (checkpoint.restoreControllers ops ids) :=
  (Vm.throws_onKvm (throws_restoreIrqchip ops _ _)).bind fun _ =>
    (Vm.throws_onKvm (throws_restoreIrqchip ops _ _)).bind fun _ =>
      (Vm.throws_onKvm (throws_restoreIrqchip ops _ _)).bind fun _ =>
        (Vm.throws_onKvm (throws_restoreLapic ops ids.1 _)).bind fun _ =>
          Vm.throws_onKvm (throws_restoreLapic ops ids.2 _)

theorem throws_restoreAndVerify :
    Throws ControllerError (checkpoint.restoreAndVerify ops first second) := by
  refine (Throws.reads fun _ => checkpoint.refuses_bindVcpus first second (by decide)).bind
    fun ids => ?_
  refine (Vm.throws_withGuestMemory (controllerError_vcpuOperation (by decide))
    (checkpoint.base.throws_restoreAndVerify ops ids.1 ids.2)).bind fun _ => ?_
  refine (Throws.reads fun _ => .rejectIf (controllerError_vcpuOperation (by decide))).bind
    fun _ => ?_
  exact (checkpoint.throws_restoreMpStates ops ids).bind fun _ =>
    (checkpoint.throws_restoreControllers ops ids).bind fun _ =>
      checkpoint.throws_verify ops ids.1 ids.2

end BoundedTwoVcpuFullControllerCheckpoint

end MiniHypervisor.Checkpoint
