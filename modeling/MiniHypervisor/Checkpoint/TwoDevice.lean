import MiniHypervisor.Checkpoint.Errors
import MiniHypervisor.Checkpoint.FaithfulRestore
import MiniHypervisor.Mmio.AtomicBus
import MiniHypervisor.VirtioBlk.Atomicity

/-!
# Checkpoints of a machine with two virtio-blk devices

Capture, verification and restore of one or two vCPUs with the controllers and two virtio-blk
devices (`src/state_snapshot/page_set/full_controller_two_virtio_blk.rs`,
`src/state_snapshot/page_set/two_vcpu_two_device_transaction.rs`).  A restore writes the pages, the
vCPUs and the controllers before the devices.  The plain restores look at both live devices before
they write anything: a restore that fails because of a device leaves the machine as it was, and once
the rest of the machine is restored exactly the devices follow.
-/

namespace MiniHypervisor.Checkpoint

open Bytes Control Kvm Memory Mmio VirtioBlk

variable {σ κ χ α : Type}

/-! ### The state -/

/-- A VM and its MMIO bus. -/
@[ext] structure Machine (σ : Type) where
  vm : Vm σ
  bus : MmioBus

namespace Machine

/-- An operation on the VM. -/
def onVm (x : EStateM Error (Vm σ) α) : EStateM Error (Machine σ) α :=
  within vm (fun machine vm => { machine with vm }) id x

/-- An operation on the bus. -/
def onBus (x : EStateM HostEnvironmentError MmioBus α) : EStateM Error (Machine σ) α :=
  within bus (fun machine bus => { machine with bus }) .hostEnvironment x

end Machine

/-! ### Devices -/

/-- The operation that `canonical_two_virtio_blk_bars` reports. -/
def barOwnership : String := "two virtio-blk checkpoint BAR ownership"

/-- `canonical_two_virtio_blk_bars` (lines 138-158). -/
def canonicalTwoVirtioBlkBars (bars : UInt64 × UInt64) : Except Error (UInt64 × UInt64) := do
  let sorted := if bars.1 ≤ bars.2 then bars else (bars.2, bars.1)
  rejectIf (sorted.1 = sorted.2)
    (pageSetError barOwnership ("duplicate virtio-blk BAR " ++ hexText sorted.1.toNat))
  [sorted.1, sorted.2].forM fun bar => rejectIf (bar.toNat % virtioBlkBarSize ≠ 0)
    (pageSetError barOwnership ("virtio-blk BAR " ++ hexText bar.toNat ++ " is not " ++
      hexText virtioBlkBarSize ++ "-aligned"))
  return sorted

/-- `capture_required_device` (lines 160-171). -/
def captureRequiredDevice (bus : MmioBus) (bar : UInt64) (role : String) :
    Except Error VirtioBlkDevice := do
  match ← (bus.captureVirtioBlkCheckpointAt bar).mapError .hostEnvironment with
  | some device => return device
  | none => .error (pageSetError devicePreflight
      (role ++ " virtio-blk device at BAR " ++ hexText bar.toNat ++ " is missing"))

/-- `verify_required_device` (lines 173-181). -/
def verifyRequiredDevice (bus : MmioBus) (bar : UInt64) (expected : VirtioBlkDevice) :
    Except Error Bool := do
  let found ← (bus.verifyVirtioBlkCheckpointAt bar expected).mapError .hostEnvironment
  return found.getD false

/-- `BoundedFullControllerTwoVirtioBlkCheckpointComparison` and
`BoundedTwoVcpuFullControllerTwoVirtioBlkCheckpointComparison`. -/
structure TwoDeviceCheckpointComparison (χ : Type) where
  controller : χ
  bars : UInt64 × UInt64
  deviceExact : Bool × Bool
  deriving DecidableEq, Repr

def TwoDeviceCheckpointComparison.allDevicesExact (comparison : TwoDeviceCheckpointComparison χ) :
    Bool :=
  comparison.deviceExact.1 && comparison.deviceExact.2

/-- The operations on the rest of the machine that a restore uses, and its error when the rest is
not exact. -/
structure ControllerRestore (σ χ : Type) where
  restoreAndVerify : EStateM Error (Vm σ) χ
  verify : EStateM Error (Vm σ) χ
  isExactMatch : χ → Bool
  notExact : Error

/-! ### The operations -/

namespace BoundedTwoDeviceCheckpoint

/-- A capture of two devices, before that of the rest of the machine. -/
def captureWith (roles : String × String) (controller : EStateM Error (Vm σ) κ)
    (bars : UInt64 × UInt64) : EStateM Error (Machine σ) (BoundedTwoDeviceCheckpoint κ) := do
  let bars ← reads fun _ => canonicalTwoVirtioBlkBars bars
  let first ← reads fun machine => captureRequiredDevice machine.bus bars.1 roles.1
  let second ← reads fun machine => captureRequiredDevice machine.bus bars.2 roles.2
  let controller ← Machine.onVm controller
  return { controller, devices := ((bars.1, first), (bars.2, second)) }

variable (checkpoint : BoundedTwoDeviceCheckpoint κ)

/-- A verification of the rest of the machine, before that of the two devices. -/
def verifyWith (controller : EStateM Error (Vm σ) χ) :
    EStateM Error (Machine σ) (TwoDeviceCheckpointComparison χ) := do
  let controller ← Machine.onVm controller
  let first ← reads fun machine =>
    verifyRequiredDevice machine.bus checkpoint.devices.1.1 checkpoint.devices.1.2
  let second ← reads fun machine =>
    verifyRequiredDevice machine.bus checkpoint.devices.2.1 checkpoint.devices.2.2
  return { controller, bars := checkpoint.deviceBars, deviceExact := (first, second) }

/-- A restore of the rest of the machine, which has to be exact, before one of the two devices. -/
def restoreDevices (rest : ControllerRestore σ χ) (devices : TwoDeviceRestore) :
    EStateM Error (Machine σ) (TwoDeviceCheckpointComparison χ) := do
  let controller ← Machine.onVm rest.restoreAndVerify
  reads fun _ => rejectIf (rest.isExactMatch controller = false) rest.notExact
  Machine.onBus (devices.run checkpoint.devices)
  checkpoint.verifyWith rest.verify

/-- A restore that looks at both live devices first. -/
def restoreWith (roles : String × String) (rest : ControllerRestore σ χ) :
    EStateM Error (Machine σ) (TwoDeviceCheckpointComparison χ) := do
  let _ ← reads fun machine => captureRequiredDevice machine.bus checkpoint.devices.1.1 roles.1
  let _ ← reads fun machine => captureRequiredDevice machine.bus checkpoint.devices.2.1 roles.2
  checkpoint.restoreDevices rest .quiescent

end BoundedTwoDeviceCheckpoint

/-! ### One vCPU -/

namespace BoundedFullControllerTwoVirtioBlkCheckpoint

/-- `BoundedFullControllerTwoVirtioBlkCheckpoint::capture` (lines 12-29). -/
def capture (ops : KvmOps σ) (id : VcpuId) (policy : GuestMsrAccessPolicy) (bars : UInt64 × UInt64)
    (pageAddresses : List UInt64) :
    EStateM Error (Machine σ) BoundedFullControllerTwoVirtioBlkCheckpoint :=
  BoundedTwoDeviceCheckpoint.captureWith ("first", "second")
    (BoundedFullControllerCheckpoint.capture ops id policy pageAddresses) bars

variable (checkpoint : BoundedFullControllerTwoVirtioBlkCheckpoint) (ops : KvmOps σ) (id : VcpuId)

/-- The restore of the vCPU and the controllers, with
`require_controller_exact_before_two_devices` (lines 183-191). -/
def controllerRestore : ControllerRestore σ BoundedFullControllerCheckpointComparison where
  restoreAndVerify := checkpoint.controller.restoreAndVerify ops id
  verify := checkpoint.controller.verify ops id
  isExactMatch := BoundedFullControllerCheckpointComparison.isExactMatch
  notExact := pageSetError "two virtio-blk checkpoint controller restore verification"
    ("page/VCPU/controller state was not exact after restore; neither device was restored")

/-- `BoundedFullControllerTwoVirtioBlkCheckpoint::verify` (lines 65-81). -/
def verify : EStateM Error (Machine σ)
    (TwoDeviceCheckpointComparison BoundedFullControllerCheckpointComparison) :=
  checkpoint.verifyWith (checkpoint.controller.verify ops id)

/-- `BoundedFullControllerTwoVirtioBlkCheckpoint::restore_and_verify` (lines 83-103). -/
def restoreAndVerify : EStateM Error (Machine σ)
    (TwoDeviceCheckpointComparison BoundedFullControllerCheckpointComparison) :=
  checkpoint.restoreWith ("first live preflight", "second live preflight")
    (controllerRestore checkpoint ops id)

end BoundedFullControllerTwoVirtioBlkCheckpoint

/-! ### Two vCPUs -/

namespace BoundedTwoVcpuFullControllerTwoVirtioBlkCheckpoint

section Capture

variable (ops : KvmOps σ) (first second : VcpuId) (policy : GuestMsrAccessPolicy)
  (bars : UInt64 × UInt64) (pageAddresses : List UInt64)

/-- `BoundedTwoVcpuFullControllerTwoVirtioBlkCheckpoint::capture` (lines 26-49). -/
def capture : EStateM Error (Machine σ) BoundedTwoVcpuFullControllerTwoVirtioBlkCheckpoint :=
  BoundedTwoDeviceCheckpoint.captureWith
    ("first two-vCPU transaction", "second two-vCPU transaction")
    (BoundedTwoVcpuFullControllerCheckpoint.capture ops first second policy pageAddresses) bars

/-- The device of a capture with a token, which has to be there. -/
def capturePendingDevice (kind : PendingKind) (bus : MmioBus) (bar : UInt64) :
    Except Error (VirtioBlkDevice × PendingToken kind) := do
  match ← (bus.captureWithPendingAt kind bar).mapError .hostEnvironment with
  | some pending => return pending
  | none => .error (pageSetError
      ("two-vCPU pending-" ++ MmioBus.pendingText kind ++ " checkpoint capture")
      ("pending virtio-blk device at BAR " ++ hexText bar.toNat ++ " is missing"))

/-- `capture_with_pending_completion` (lines 51-111) and `capture_with_pending_notification` (lines
113-173): of the two devices, the one at `pendingBar` is captured with a token. -/
def captureWithPending (kind : PendingKind) (pendingBar : UInt64) :
    EStateM Error (Machine σ)
      (BoundedTwoVcpuFullControllerTwoVirtioBlkCheckpoint × PendingToken kind) := do
  let bars ← reads fun _ => canonicalTwoVirtioBlkBars bars
  reads fun _ => rejectIf (pendingBar ≠ bars.1 ∧ pendingBar ≠ bars.2)
    (pageSetError ("two-vCPU pending-" ++ MmioBus.pendingText kind ++ " checkpoint binding")
      ("pending BAR " ++ hexText pendingBar.toNat ++ " is outside canonical BARs [" ++
        toString bars.1.toNat ++ ", " ++ toString bars.2.toNat ++ "]"))
  if pendingBar = bars.1 then do
    let ⟨pending, token⟩ ← reads fun machine => capturePendingDevice kind machine.bus bars.1
    let other ← reads fun machine =>
      captureRequiredDevice machine.bus bars.2 "second fully-quiescent two-vCPU transaction"
    let controller ← Machine.onVm
      (BoundedTwoVcpuFullControllerCheckpoint.capture ops first second policy pageAddresses)
    return ({ controller, devices := ((bars.1, pending), (bars.2, other)) }, token)
  else do
    let other ← reads fun machine =>
      captureRequiredDevice machine.bus bars.1 "first fully-quiescent two-vCPU transaction"
    let ⟨pending, token⟩ ← reads fun machine => capturePendingDevice kind machine.bus bars.2
    let controller ← Machine.onVm
      (BoundedTwoVcpuFullControllerCheckpoint.capture ops first second policy pageAddresses)
    return ({ controller, devices := ((bars.1, other), (bars.2, pending)) }, token)

end Capture

variable (checkpoint : BoundedTwoVcpuFullControllerTwoVirtioBlkCheckpoint) (ops : KvmOps σ)
  (first second : VcpuId)

/-- The restore of the vCPUs and the controllers, with
`require_two_vcpu_controller_exact_before_devices` (lines 688-696). -/
def controllerRestore :
    ControllerRestore σ BoundedTwoVcpuFullControllerCheckpointComparison where
  restoreAndVerify := checkpoint.controller.restoreAndVerify ops first second
  verify := checkpoint.controller.verify ops first second
  isExactMatch := BoundedTwoVcpuFullControllerCheckpointComparison.isExactMatch
  notExact := pageSetError "two-vCPU two-device controller restore verification"
    "page/vCPU/MP/controller/LAPIC state was not exact; neither device was restored"

/-- `BoundedTwoVcpuFullControllerTwoVirtioBlkCheckpoint::verify` (lines 193-212). -/
def verify : EStateM Error (Machine σ)
    (TwoDeviceCheckpointComparison BoundedTwoVcpuFullControllerCheckpointComparison) :=
  checkpoint.verifyWith (checkpoint.controller.verify ops first second)

/-- `BoundedTwoVcpuFullControllerTwoVirtioBlkCheckpoint::restore_and_verify` (lines 214-233). -/
def restoreAndVerify : EStateM Error (Machine σ)
    (TwoDeviceCheckpointComparison BoundedTwoVcpuFullControllerCheckpointComparison) :=
  checkpoint.restoreWith ("first live two-vCPU preflight", "second live two-vCPU preflight")
    (controllerRestore checkpoint ops first second)

/-- `restore_and_verify_with_pending_notification` (lines 235-255) and
`restore_and_verify_with_pending_completion` (lines 257-277).  Unlike `restoreAndVerify`, they do
not look at the live devices first. -/
def restoreAndVerifyWithPending {kind : PendingKind} (token : PendingToken kind) :
    EStateM Error (Machine σ)
      (TwoDeviceCheckpointComparison BoundedTwoVcpuFullControllerCheckpointComparison) :=
  checkpoint.restoreDevices (controllerRestore checkpoint ops first second) (.pending kind token)

end BoundedTwoVcpuFullControllerTwoVirtioBlkCheckpoint

/-! ### What the checks of the devices say -/

section Devices

variable {bus : MmioBus} {bar : UInt64} {role : String} {device : VirtioBlkDevice}
  {e : HostEnvironmentError}

theorem captureRequiredDevice_eq_ok :
    captureRequiredDevice bus bar role = .ok device ↔
      bus.deviceAt bar = some device ∧ device.persistentBacking = none ∧
        device.checkpointFullyQuiescent = true := by
  unfold captureRequiredDevice MmioBus.captureVirtioBlkCheckpointAt
  cases hfound : bus.deviceAt bar with
  | none => simp [Except.mapError, bind, Except.bind]
  | some found =>
      simp only [bind_eq_ok, mapError_eq_ok, rejectIf_eq_ok, pure, Except.pure, Except.ok.injEq,
        Bool.not_eq_false, Option.some.injEq]
      simp only [VirtioBlkDevice.checkpointBackingPortable, Option.isNone_iff_eq_none]
      constructor
      · rintro ⟨_, ⟨_, hbacking, _, hquiescent, rfl⟩, hdevice⟩
        cases hdevice
        exact ⟨rfl, hbacking, hquiescent⟩
      · rintro ⟨rfl, hbacking, hquiescent⟩
        exact ⟨some found, ⟨(), hbacking, (), hquiescent, rfl⟩, rfl⟩

theorem captureRequiredDevice_isOk_iff :
    (∃ device, captureRequiredDevice bus bar role = .ok device) ↔ bus.Ready bar := by
  simp only [captureRequiredDevice_eq_ok, MmioBus.Ready]

/-- The error of the bus is because of a device. -/
def BusError (e : HostEnvironmentError) : Prop := DeviceError (.hostEnvironment e)

theorem busError_virtioBlk {operation detail : String} :
    BusError (virtioBlkCheckpointError operation detail) := trivial

theorem refuses_captureVirtioBlkCheckpointAt :
    Refuses BusError (bus.captureVirtioBlkCheckpointAt bar) := by
  unfold MmioBus.captureVirtioBlkCheckpointAt
  dsimp only
  split
  · exact .pure _
  · exact .guard busError_virtioBlk (.guard busError_virtioBlk (.pure _))

theorem refuses_captureRequiredDevice :
    Refuses DeviceError (captureRequiredDevice bus bar role) := by
  have hcapture : Refuses DeviceError
      ((bus.captureVirtioBlkCheckpointAt bar).mapError Error.hostEnvironment) :=
    .mapError_of refuses_captureVirtioBlkCheckpointAt fun _ he => he
  refine hcapture.bind fun found => ?_
  cases found with
  | none => exact .error rfl
  | some device => exact .pure _

theorem refuses_verifyRequiredDevice {expected : VirtioBlkDevice} (h : expected.bar0 = bar) :
    Refuses ControllerError (verifyRequiredDevice bus bar expected) := by
  have hverify : bus.verifyVirtioBlkCheckpointAt bar expected =
      .ok ((bus.deviceAt bar).map fun device => decide (device = expected)) := by
    rw [MmioBus.verifyVirtioBlkCheckpointAt, rejectIf_bind_eq_ok]
    exact ⟨not_not.mpr h, rfl⟩
  rw [verifyRequiredDevice, hverify]
  nofun

theorem refuses_locateTwo {operation liveDetail : String} {checkpoints : MmioBus.Checkpoints} :
    Refuses BusError (bus.locateTwo operation liveDetail checkpoints) := by
  have hindex : ∀ address, Refuses BusError (bus.requireIndex operation address) := by
    intro address
    unfold MmioBus.requireIndex
    split
    · exact .pure _
    · exact .error busError_virtioBlk
  exact (hindex _).bind fun _ => (hindex _).bind fun _ =>
    .guard busError_virtioBlk (.guard busError_virtioBlk (.pure _))

theorem refuses_requireTokenSnapshot {kind : PendingKind} {token : PendingToken kind}
    {operation : String} {checkpoint : UInt64 × VirtioBlkDevice} :
    Refuses BusError (MmioBus.requireTokenSnapshot token operation checkpoint) := by
  refine .guard busError_virtioBlk (.ite ?_ (.rejectIf busError_virtioBlk))
  exact .guard busError_virtioBlk (.mapError fun _ => busError_virtioBlk)

theorem refuses_accept {restore : TwoDeviceRestore} {checkpoints : MmioBus.Checkpoints} :
    Refuses BusError (restore.accept checkpoints bus) := by
  cases restore with
  | quiescent =>
      exact .guard busError_virtioBlk (.guard busError_virtioBlk
        (.guard busError_virtioBlk refuses_locateTwo))
  | pending kind token =>
      refine .guard busError_virtioBlk (.guard busError_virtioBlk ?_)
      exact refuses_requireTokenSnapshot.bind fun _ =>
        refuses_requireTokenSnapshot.bind fun _ => refuses_locateTwo

end Devices

/-! ### When a restore fails because of a device -/

/-- The rest of the machine never fails because of a device. -/
structure ControllerRestore.SparesDevices (rest : ControllerRestore σ χ) : Prop where
  restoreAndVerify : Throws ControllerError rest.restoreAndVerify
  verify : Throws ControllerError rest.verify
  notExact : ControllerError rest.notExact

namespace BoundedTwoDeviceCheckpoint

variable {checkpoint : BoundedTwoDeviceCheckpoint κ} {rest : ControllerRestore σ χ}
  {devices : TwoDeviceRestore} {machine machine' : Machine σ} {vm : Vm σ} {bus : MmioBus}
  {controller : χ} {e : Error}

theorem throws_verifyWith {verify : EStateM Error (Vm σ) χ} (h : Throws ControllerError verify)
    (hfirst : checkpoint.devices.1.2.bar0 = checkpoint.devices.1.1)
    (hsecond : checkpoint.devices.2.2.bar0 = checkpoint.devices.2.1) :
    Throws ControllerError (checkpoint.verifyWith verify) := by
  have hvm : Throws ControllerError (Machine.onVm verify) := .within h fun _ he => he
  refine hvm.bind fun _ => ?_
  refine (Throws.reads fun machine => refuses_verifyRequiredDevice hfirst).bind fun _ => ?_
  exact (Throws.reads fun machine => refuses_verifyRequiredDevice hsecond).bind fun _ => .pure _

theorem run_restoreDevices_of_exact
    (hrest : rest.restoreAndVerify.run machine.vm = .ok controller vm)
    (hexact : rest.isExactMatch controller = true) :
    (checkpoint.restoreDevices rest devices).run machine = (do
      Machine.onBus (devices.run checkpoint.devices)
      checkpoint.verifyWith rest.verify : EStateM Error (Machine σ) _).run
        { machine with vm } := by
  have hvm : (Machine.onVm rest.restoreAndVerify).run machine =
      .ok controller { machine with vm } := run_within_of_ok hrest
  have hguard : ¬ rest.isExactMatch controller = false := (Bool.not_eq_false _).mpr hexact
  exact (run_bind_of_ok hvm).trans (run_bind_of_ok (run_guard_of_not hguard))

theorem run_restoreDevices_of_ok (hrest : rest.restoreAndVerify.run machine.vm = .ok controller vm)
    (hexact : rest.isExactMatch controller = true)
    (hbus : (devices.run checkpoint.devices).run machine.bus = .ok () bus) :
    (checkpoint.restoreDevices rest devices).run machine =
      (checkpoint.verifyWith rest.verify).run ⟨vm, bus⟩ :=
  (run_restoreDevices_of_exact hrest hexact).trans (run_bind_of_ok (run_within_of_ok hbus))

theorem run_restoreDevices_of_error {e : HostEnvironmentError}
    (hrest : rest.restoreAndVerify.run machine.vm = .ok controller vm)
    (hexact : rest.isExactMatch controller = true)
    (hbus : (devices.run checkpoint.devices).run machine.bus = .error e bus) :
    (checkpoint.restoreDevices rest devices).run machine =
      .error (.hostEnvironment e) ⟨vm, bus⟩ :=
  (run_restoreDevices_of_exact hrest hexact).trans (run_bind_of_error (run_within_of_error hbus))

/-- A restore that fails because of a device has restored the rest of the machine exactly. -/
theorem exact_of_deviceError (hspares : rest.SparesDevices)
    (h : (checkpoint.restoreDevices rest devices).run machine = .error e machine')
    (he : DeviceError e) :
    ∃ controller vm, rest.restoreAndVerify.run machine.vm = .ok controller vm ∧
      rest.isExactMatch controller = true := by
  cases hrest : rest.restoreAndVerify.run machine.vm with
  | error e' vm =>
      have hvm : (Machine.onVm rest.restoreAndVerify).run machine =
          .error e' { machine with vm } := run_within_of_error hrest
      have herror := (run_bind_of_error hvm).symm.trans h
      cases herror
      exact absurd he (hspares.restoreAndVerify _ _ _ hrest)
  | ok controller vm =>
      refine ⟨controller, vm, rfl, ?_⟩
      by_contra hexact
      have hvm : (Machine.onVm rest.restoreAndVerify).run machine =
          .ok controller { machine with vm } := run_within_of_ok hrest
      have herror := ((run_bind_of_ok hvm).trans (run_bind_of_error
        (run_guard_of ((Bool.not_eq_true _).mp hexact)))).symm.trans h
      cases herror
      exact hspares.notExact he

/-- **When a restore of the devices fails because of a device, and what it leaves.** The rest of the
machine was restored exactly, and stays so; the bus refused the devices, and is as before. -/
theorem deviceError_iff (hspares : rest.SparesDevices) :
    (checkpoint.restoreDevices rest devices).run machine = .error e machine' ∧ DeviceError e ↔
      ∃ controller vm e', rest.restoreAndVerify.run machine.vm = .ok controller vm ∧
        rest.isExactMatch controller = true ∧
        devices.accept checkpoint.devices machine.bus = .error e' ∧
        e = .hostEnvironment e' ∧ machine' = ⟨vm, machine.bus⟩ := by
  constructor
  · rintro ⟨hrun, he⟩
    obtain ⟨controller, vm, hrest, hexact⟩ := exact_of_deviceError hspares hrun he
    cases haccept : devices.accept checkpoint.devices machine.bus with
    | error e' =>
        have herror := run_restoreDevices_of_error hrest hexact
          (TwoDeviceRestore.run_of_error haccept)
        rw [herror] at hrun
        cases hrun
        exact ⟨controller, vm, e', hrest, hexact, rfl, rfl, rfl⟩
    | ok positions =>
        -- the devices were replaced, and only the verification is left to fail
        obtain ⟨-, -, hfirst, hsecond, -⟩ := TwoDeviceRestore.accept_eq_ok.mp haccept
        rw [run_restoreDevices_of_ok hrest hexact (TwoDeviceRestore.run_of_ok haccept)] at hrun
        exact absurd he (throws_verifyWith hspares.verify hfirst.bar0 hsecond.bar0 _ _ _ hrun)
  · rintro ⟨controller, vm, e', hrest, hexact, haccept, rfl, rfl⟩
    exact ⟨run_restoreDevices_of_error hrest hexact (TwoDeviceRestore.run_of_error haccept),
      refuses_accept e' haccept⟩

/-! ### The preflight -/

/-- The devices of a captured checkpoint: their BARs increase, and each is at its BAR, in memory and
fully quiescent. -/
structure Captured (checkpoint : BoundedTwoDeviceCheckpoint κ) : Prop where
  increasing : checkpoint.devices.1.1 < checkpoint.devices.2.1
  first : TwoDeviceRestore.quiescent.Admits checkpoint.devices.1
  second : TwoDeviceRestore.quiescent.Admits checkpoint.devices.2

theorem lt_of_canonicalTwoVirtioBlkBars {bars sorted : UInt64 × UInt64}
    (h : canonicalTwoVirtioBlkBars bars = .ok sorted) : sorted.1 < sorted.2 := by
  obtain ⟨hne, h⟩ := rejectIf_bind_eq_ok.mp h
  obtain ⟨_, -, h⟩ := bind_eq_ok.mp h
  cases h
  refine UInt64.lt_of_le_of_ne ?_ hne
  split_ifs with hle
  · exact hle
  · exact UInt64.le_of_lt (UInt64.not_le.mp hle)

theorem admits_of_captureRequiredDevice {bar : UInt64} {role : String} {device : VirtioBlkDevice}
    (h : captureRequiredDevice bus bar role = .ok device) :
    TwoDeviceRestore.quiescent.Admits (bar, device) := by
  obtain ⟨hfound, hbacking, hquiescent⟩ := captureRequiredDevice_eq_ok.mp h
  exact ⟨key_of_findKey hfound, hbacking, hquiescent⟩

/-- A capture of devices that are ready succeeds if that of the rest of the machine does. -/
theorem run_captureWith {roles : String × String} {capture : EStateM Error (Vm σ) κ}
    {bars sorted : UInt64 × UInt64} {controller : κ} {first second : VirtioBlkDevice}
    (hbars : canonicalTwoVirtioBlkBars bars = .ok sorted)
    (hfirst : captureRequiredDevice machine.bus sorted.1 roles.1 = .ok first)
    (hsecond : captureRequiredDevice machine.bus sorted.2 roles.2 = .ok second)
    (hcapture : capture.run machine.vm = .ok controller vm) :
    (captureWith roles capture bars).run machine =
      .ok ⟨controller, ((sorted.1, first), (sorted.2, second))⟩ { machine with vm } := by
  have hbars : (reads fun _ : Machine σ => canonicalTwoVirtioBlkBars bars).run machine =
      .ok sorted machine := run_reads_of_ok hbars
  have hfirst : (reads fun machine : Machine σ => captureRequiredDevice machine.bus sorted.1
      roles.1).run machine = .ok first machine := run_reads_of_ok hfirst
  have hsecond : (reads fun machine : Machine σ => captureRequiredDevice machine.bus sorted.2
      roles.2).run machine = .ok second machine := run_reads_of_ok hsecond
  have hcapture : (Machine.onVm capture).run machine = .ok controller { machine with vm } :=
    run_within_of_ok hcapture
  exact (run_bind_of_ok hbars).trans <| (run_bind_of_ok hfirst).trans <|
    (run_bind_of_ok hsecond).trans (run_bind_of_ok hcapture)

theorem captured_of_run {roles : String × String} {capture : EStateM Error (Vm σ) κ}
    {bars : UInt64 × UInt64}
    (h : (captureWith roles capture bars).run machine = .ok checkpoint machine') :
    checkpoint.Captured := by
  obtain ⟨sorted, _, hbars, h⟩ := run_bind_eq_ok.mp h
  obtain ⟨first, _, hfirst, h⟩ := run_bind_eq_ok.mp h
  obtain ⟨second, _, hsecond, h⟩ := run_bind_eq_ok.mp h
  obtain ⟨controller, _, -, h⟩ := run_bind_eq_ok.mp h
  cases h
  exact ⟨lt_of_canonicalTwoVirtioBlkBars (run_reads_eq_ok.mp hbars).1,
    admits_of_captureRequiredDevice (run_reads_eq_ok.mp hfirst).1,
    admits_of_captureRequiredDevice (run_reads_eq_ok.mp hsecond).1⟩

/-- What the preflight of a restore gives.  A restore that fails because of a device leaves the
machine as it was; so does one on a machine where a device is not ready.  With both devices ready
and the rest of the machine restored exactly, the devices cannot be refused: both are those of the
checkpoint, and only the verification of the whole is left. -/
structure Preflighted (checkpoint : BoundedTwoDeviceCheckpoint κ) (rest : ControllerRestore σ χ)
    (restore : EStateM Error (Machine σ) (TwoDeviceCheckpointComparison χ)) : Prop where
  untouched : ∀ machine e machine', restore.run machine = .error e machine' → DeviceError e →
    machine' = machine
  refused : ∀ machine, ¬ (machine.bus.Ready checkpoint.devices.1.1 ∧
    machine.bus.Ready checkpoint.devices.2.1) →
    ∃ e, restore.run machine = .error e machine ∧ DeviceError e
  completes : ∀ machine controller vm, machine.bus.Ready checkpoint.devices.1.1 →
    machine.bus.Ready checkpoint.devices.2.1 →
    rest.restoreAndVerify.run machine.vm = .ok controller vm →
    rest.isExactMatch controller = true →
    ∃ bus, (MmioBus.restoreTwoVirtioBlkCheckpointsAtomic checkpoint.devices).run machine.bus =
        .ok () bus ∧
      bus.deviceAt checkpoint.devices.1.1 = some checkpoint.devices.1.2 ∧
      bus.deviceAt checkpoint.devices.2.1 = some checkpoint.devices.2.2 ∧
      restore.run machine = (checkpoint.verifyWith rest.verify).run ⟨vm, bus⟩

theorem run_restoreWith_of_ready {roles : String × String}
    (hfirst : machine.bus.Ready checkpoint.devices.1.1)
    (hsecond : machine.bus.Ready checkpoint.devices.2.1) :
    (checkpoint.restoreWith roles rest).run machine =
      (checkpoint.restoreDevices rest .quiescent).run machine := by
  obtain ⟨first, hfirst⟩ := captureRequiredDevice_isOk_iff.mpr hfirst
  obtain ⟨second, hsecond⟩ := captureRequiredDevice_isOk_iff.mpr hsecond
  have hfirst : (reads fun machine : Machine σ => captureRequiredDevice machine.bus
      checkpoint.devices.1.1 roles.1).run machine = .ok first machine := run_reads_of_ok hfirst
  have hsecond : (reads fun machine : Machine σ => captureRequiredDevice machine.bus
      checkpoint.devices.2.1 roles.2).run machine = .ok second machine := run_reads_of_ok hsecond
  exact (run_bind_of_ok hfirst).trans (run_bind_of_ok hsecond)

theorem run_preflight_of_not_ready {bar : UInt64} {role : String} {f : VirtioBlkDevice →
    EStateM Error (Machine σ) α} (h : ¬ machine.bus.Ready bar) :
    ∃ e, ((reads fun machine : Machine σ => captureRequiredDevice machine.bus bar role) >>=
      f).run machine = .error e machine ∧ DeviceError e := by
  cases hcapture : captureRequiredDevice machine.bus bar role with
  | ok device => exact absurd (captureRequiredDevice_isOk_iff.mp ⟨device, hcapture⟩) h
  | error e =>
      have hreads : (reads fun machine : Machine σ => captureRequiredDevice machine.bus bar
        role).run machine = .error e machine := run_reads_of_error hcapture
      exact ⟨e, run_bind_of_error hreads, refuses_captureRequiredDevice e hcapture⟩

theorem run_restoreWith_of_not_ready {roles : String × String}
    (h : ¬ (machine.bus.Ready checkpoint.devices.1.1 ∧
      machine.bus.Ready checkpoint.devices.2.1)) :
    ∃ e, (checkpoint.restoreWith roles rest).run machine = .error e machine ∧ DeviceError e := by
  by_cases hfirst : machine.bus.Ready checkpoint.devices.1.1
  · obtain ⟨first, hcapture⟩ := captureRequiredDevice_isOk_iff.mpr hfirst
    have hreads : (reads fun machine : Machine σ => captureRequiredDevice machine.bus
        checkpoint.devices.1.1 roles.1).run machine = .ok first machine := run_reads_of_ok hcapture
    obtain ⟨e, hrun, he⟩ := run_preflight_of_not_ready fun hsecond => h ⟨hfirst, hsecond⟩
    exact ⟨e, (run_bind_of_ok hreads).trans hrun, he⟩
  · exact run_preflight_of_not_ready hfirst

theorem Captured.run_eq_ok (hcaptured : checkpoint.Captured)
    (hfirst : bus.Ready checkpoint.devices.1.1) (hsecond : bus.Ready checkpoint.devices.2.1) :
    ∃ bus', (TwoDeviceRestore.quiescent.run checkpoint.devices).run bus = .ok () bus' :=
  TwoDeviceRestore.run_eq_ok.mpr ⟨hcaptured.increasing, trivial, hcaptured.first, hcaptured.second,
    hfirst, hsecond⟩

theorem preflighted_restoreWith (hcaptured : checkpoint.Captured) (hspares : rest.SparesDevices)
    (roles : String × String) :
    checkpoint.Preflighted rest (checkpoint.restoreWith roles rest) := by
  refine ⟨fun machine e machine' hrun he => ?_, fun machine h => run_restoreWith_of_not_ready h,
    fun machine controller vm hfirst hsecond hrest hexact => ?_⟩
  · by_cases hready : machine.bus.Ready checkpoint.devices.1.1 ∧
        machine.bus.Ready checkpoint.devices.2.1
    · rw [run_restoreWith_of_ready hready.1 hready.2] at hrun
      obtain ⟨_, _, e', -, -, haccept, -⟩ := (deviceError_iff hspares).mp ⟨hrun, he⟩
      obtain ⟨bus', hok⟩ := hcaptured.run_eq_ok hready.1 hready.2
      rw [TwoDeviceRestore.run_of_error haccept] at hok
      cases hok
    · obtain ⟨e', hrefused, -⟩ : ∃ e', (checkpoint.restoreWith roles rest).run machine =
          .error e' machine ∧ DeviceError e' := run_restoreWith_of_not_ready hready
      rw [hrefused] at hrun
      cases hrun
      rfl
  · obtain ⟨bus, hbus⟩ := hcaptured.run_eq_ok hfirst hsecond
    have hframed := TwoDeviceRestore.atomic_and_framed .quiescent machine.bus checkpoint.devices
    rw [hbus] at hframed
    refine ⟨bus, hbus, hframed.1, hframed.2.1, ?_⟩
    rw [run_restoreWith_of_ready hfirst hsecond]
    exact run_restoreDevices_of_ok hrest hexact hbus

end BoundedTwoDeviceCheckpoint

theorem BoundedFullControllerTwoVirtioBlkCheckpoint.sparesDevices
    (checkpoint : BoundedFullControllerTwoVirtioBlkCheckpoint) (ops : KvmOps σ) (id : VcpuId) :
    (controllerRestore checkpoint ops id).SparesDevices where
  restoreAndVerify := checkpoint.controller.throws_restoreAndVerify ops id
  verify := checkpoint.controller.throws_verify ops id
  notExact := controllerError_vcpuOperation (by decide)

theorem BoundedTwoVcpuFullControllerTwoVirtioBlkCheckpoint.sparesDevices
    (checkpoint : BoundedTwoVcpuFullControllerTwoVirtioBlkCheckpoint) (ops : KvmOps σ)
    (first second : VcpuId) : (controllerRestore checkpoint ops first second).SparesDevices where
  restoreAndVerify := checkpoint.controller.throws_restoreAndVerify ops first second
  verify := checkpoint.controller.throws_verify ops first second
  notExact := controllerError_vcpuOperation (by decide)

/-- **The plain restores of two devices are preflighted.** For every checkpoint that was captured,
on whatever machine, and every KVM under which it is restored. -/
theorem two_device_restores_preflighted {σ₀ σ : Type} (ops₀ : KvmOps σ₀) (ops : KvmOps σ)
    (policy : GuestMsrAccessPolicy) (bars : UInt64 × UInt64) (pageAddresses : List UInt64)
    (source source' : Machine σ₀) :
    (∀ id₀ id checkpoint,
      (BoundedFullControllerTwoVirtioBlkCheckpoint.capture ops₀ id₀ policy bars
        pageAddresses).run source = .ok checkpoint source' →
      BoundedTwoDeviceCheckpoint.Preflighted checkpoint
        (BoundedFullControllerTwoVirtioBlkCheckpoint.controllerRestore checkpoint ops id)
        (BoundedFullControllerTwoVirtioBlkCheckpoint.restoreAndVerify checkpoint ops id)) ∧
    (∀ first₀ second₀ first second checkpoint,
      (BoundedTwoVcpuFullControllerTwoVirtioBlkCheckpoint.capture ops₀ first₀ second₀ policy bars
        pageAddresses).run source = .ok checkpoint source' →
      BoundedTwoDeviceCheckpoint.Preflighted checkpoint
        (BoundedTwoVcpuFullControllerTwoVirtioBlkCheckpoint.controllerRestore checkpoint ops first
          second)
        (BoundedTwoVcpuFullControllerTwoVirtioBlkCheckpoint.restoreAndVerify checkpoint ops first
          second)) :=
  ⟨fun _ id checkpoint hcapture => BoundedTwoDeviceCheckpoint.preflighted_restoreWith
      (BoundedTwoDeviceCheckpoint.captured_of_run hcapture)
      (BoundedFullControllerTwoVirtioBlkCheckpoint.sparesDevices checkpoint ops id) _,
    fun _ _ first second checkpoint hcapture => BoundedTwoDeviceCheckpoint.preflighted_restoreWith
      (BoundedTwoDeviceCheckpoint.captured_of_run hcapture)
      (BoundedTwoVcpuFullControllerTwoVirtioBlkCheckpoint.sparesDevices checkpoint ops first
        second) _⟩

/-- A page of memory, filled with one byte. -/
def filledPage (byte : UInt8) : GuestMemory where
  region := VirtioBlk.readRequestMemory.region
  mapping := fun _ => byte

/-- The state of KVM with every register zero and every MSR equal to its index. -/
def resetKvm : KvmState where
  regs := fun _ => default
  sregs := fun _ => default
  msrs := fun _ index => index.toUInt64
  lapics := fun _ => ⟨.zeros _⟩
  mpStates := fun _ => 0
  irqchips := fun _ => .zeros _

/-- A machine with one page of memory and two new devices. -/
def resetMachine (byte : UInt8) : Machine KvmState :=
  ⟨⟨some (filledPage byte), resetKvm⟩, .twoBlkBus 0x10000000 0x10001000⟩

/-- The page of `resetMachine`. -/
def resetPages (byte : UInt8) : List BoundedCheckpointPage :=
  [⟨0, (filledPage byte).mapping.read 0 4096⟩]

/-- A policy that gives access to two MSRs. -/
def sysenterPolicy : GuestMsrAccessPolicy := ⟨[⟨0x174, .readWrite⟩, ⟨0x175, .readWrite⟩]⟩

theorem readablePolicy_sysenter : ReadablePolicy sysenterPolicy := ⟨by decide, by decide⟩

theorem validatePageAddresses_zero : validatePageAddresses [0] = .ok [0] := by
  simp [validatePageAddresses, boundedCheckpointPageSetLimit, adjacentEqual, rejectIf]
  rfl

theorem capture_resetPages (byte : UInt8) :
    [0].mapM (capturePage (filledPage byte)) = .ok (resetPages byte) := by
  have hin : (filledPage byte).region.Contains 0 4096 := ⟨Nat.le_refl 0, Nat.le_refl 4096⟩
  have hread : (filledPage byte).read 0 4096 = .ok ((filledPage byte).mapping.read 0 4096) :=
    GuestMemory.read_eq_ok.mpr ⟨hin, rfl⟩
  have hpage : capturePage (filledPage byte) 0 =
      .ok ⟨0, (filledPage byte).mapping.read 0 4096⟩ :=
    bind_of_ok (mapError_eq_ok.mpr hread) _
  rw [List.mapM_cons, bind_of_ok hpage]
  rfl

theorem captureRequiredDevice_resetMachine (byte : UInt8) (role : String) :
    captureRequiredDevice (resetMachine byte).bus 0x10000000 role =
        .ok (VirtioBlkDevice.new 0x10000000) ∧
      captureRequiredDevice (resetMachine byte).bus 0x10001000 role =
        .ok (VirtioBlkDevice.new 0x10001000) := by
  have hne : (0x10000000 : UInt64) ≠ 0x10001000 := by decide
  refine ⟨captureRequiredDevice_eq_ok.mpr ⟨?_, rfl, rfl⟩,
    captureRequiredDevice_eq_ok.mpr ⟨?_, rfl, rfl⟩⟩
  · exact MmioBus.deviceAt_twoBlkBus_first
  · exact MmioBus.deviceAt_twoBlkBus_second hne

theorem capture_resetMachine {roles : String × String} {capture : EStateM Error (Vm KvmState) κ}
    {controller : κ} {byte : UInt8}
    (h : Yields (Vm.map id) capture (resetMachine byte).vm controller (resetMachine byte).vm) :
    (BoundedTwoDeviceCheckpoint.captureWith roles capture (0x10001000, 0x10000000)).run
        (resetMachine byte) =
      .ok ⟨controller, ((0x10000000, .new 0x10000000), (0x10001000, .new 0x10001000))⟩
        (resetMachine byte) := by
  obtain ⟨vm, hrun, hvm⟩ := h (resetMachine byte).vm rfl
  obtain rfl : vm = (resetMachine byte).vm := hvm
  have hbars : canonicalTwoVirtioBlkBars (0x10001000, 0x10000000) =
      .ok (0x10000000, 0x10001000) := by decide
  exact BoundedTwoDeviceCheckpoint.run_captureWith hbars
    (captureRequiredDevice_resetMachine byte _).1 (captureRequiredDevice_resetMachine byte _).2 hrun

theorem reset_restores_preflighted :
    ∃ one two,
      (BoundedFullControllerTwoVirtioBlkCheckpoint.capture exactOps 0 sysenterPolicy
        (0x10001000, 0x10000000) [0]).run (resetMachine 0) = .ok one (resetMachine 0) ∧
      BoundedTwoDeviceCheckpoint.Preflighted one
        (BoundedFullControllerTwoVirtioBlkCheckpoint.controllerRestore one exactOps 0)
        (BoundedFullControllerTwoVirtioBlkCheckpoint.restoreAndVerify one exactOps 0) ∧
      (BoundedTwoVcpuFullControllerTwoVirtioBlkCheckpoint.capture exactOps 0 1 sysenterPolicy
        (0x10001000, 0x10000000) [0]).run (resetMachine 0) = .ok two (resetMachine 0) ∧
      BoundedTwoDeviceCheckpoint.Preflighted two
        (BoundedTwoVcpuFullControllerTwoVirtioBlkCheckpoint.controllerRestore two exactOps 0 1)
        (BoundedTwoVcpuFullControllerTwoVirtioBlkCheckpoint.restoreAndVerify two exactOps 0 1) := by
  have hone : (BoundedFullControllerTwoVirtioBlkCheckpoint.capture exactOps 0 sysenterPolicy
      (0x10001000, 0x10000000) [0]).run (resetMachine 0) = .ok _ (resetMachine 0) :=
    capture_resetMachine (BoundedFullControllerCheckpoint.yields_capture faithful_exactOps
      readablePolicy_sysenter validatePageAddresses_zero (capture_resetPages 0) (by decide +kernel))
  have htwo : (BoundedTwoVcpuFullControllerTwoVirtioBlkCheckpoint.capture exactOps 0 1
      sysenterPolicy (0x10001000, 0x10000000) [0]).run (resetMachine 0) =
        .ok _ (resetMachine 0) :=
    capture_resetMachine (BoundedTwoVcpuFullControllerCheckpoint.yields_capture faithful_exactOps
      readablePolicy_sysenter validatePageAddresses_zero (capture_resetPages 0) (by decide))
  obtain ⟨hfirst, hsecond⟩ := two_device_restores_preflighted exactOps exactOps sysenterPolicy
    (0x10001000, 0x10000000) [0] (resetMachine 0) (resetMachine 0)
  exact ⟨_, _, hone, hfirst 0 0 _ hone, htwo, hsecond 0 1 0 1 _ htwo⟩

end MiniHypervisor.Checkpoint
