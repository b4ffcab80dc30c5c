import Mathlib.Data.List.Sort
import MiniHypervisor.Checkpoint.Operations
import MiniHypervisor.LongMode.BootLayout

/-!
# Checkpoints of pages, vCPUs and controllers

Capture, verification and restore of the checkpoints without devices: a vCPU with a set of guest
pages (`src/state_snapshot/page_set.rs`), one vCPU with the interrupt controllers
(`src/state_snapshot/page_set/controller.rs`, `src/state_snapshot/page_set/full_controller.rs`) and
two vCPUs with the interrupt controllers (`src/state_snapshot/two_vcpu_checkpoint.rs`).  A restore
writes the pages first, then the vCPUs and then the controllers, and reads everything back.
-/

namespace MiniHypervisor.Checkpoint

open Control Kvm LongMode Memory Vcpu

/-! ### The state -/

/-- The memory of a guest, and the state of KVM. -/
structure Guest (σ : Type) where
  memory : GuestMemory
  kvm : σ

/-- A VM, whose guest memory may not be registered yet. -/
@[ext] structure Vm (σ : Type) where
  memory : Option GuestMemory
  kvm : σ

variable {σ α : Type}

def twoVcpuCheckpointError (id : VcpuId) (operation detail : String) : Error :=
  vcpuOperation id operation detail

namespace Guest

/-- An operation of KVM. -/
def onKvm (x : EStateM Error σ α) : EStateM Error (Guest σ) α :=
  within kvm (fun guest kvm => { guest with kvm }) id x

/-- A write to the memory. -/
def onMemory (x : EStateM GuestMemoryError GuestMemory α) : EStateM Error (Guest σ) α :=
  within memory (fun guest memory => { guest with memory }) .guestMemory x

end Guest

namespace Vm

/-- An operation of KVM. -/
def onKvm (x : EStateM Error σ α) : EStateM Error (Vm σ) α :=
  within kvm (fun vm kvm => { vm with kvm }) id x

/-- An operation on the guest memory, which has to be registered. -/
def withGuestMemory (missing : Error) (x : EStateM Error (Guest σ) α) : EStateM Error (Vm σ) α :=
  fun vm =>
    match vm.memory with
    | none => .error missing vm
    | some memory =>
        within (fun vm => ⟨memory, vm.kvm⟩) (fun _ guest => ⟨some guest.memory, guest.kvm⟩) id x vm

variable {missing : Error} {x : EStateM Error (Guest σ) α} {vm vm' : Vm σ} {a : α}

theorem run_withGuestMemory_some {memory : GuestMemory} {kvm : σ} :
    (withGuestMemory missing x).run ⟨some memory, kvm⟩ =
      (within (fun vm : Vm σ => (⟨memory, vm.kvm⟩ : Guest σ))
        (fun _ guest => ⟨some guest.memory, guest.kvm⟩) (fun e : Error => e) x).run
          ⟨some memory, kvm⟩ := rfl

theorem run_withGuestMemory_eq_ok :
    (withGuestMemory missing x).run vm = .ok a vm' ↔ ∃ memory guest, vm.memory = some memory ∧
      x.run ⟨memory, vm.kvm⟩ = .ok a guest ∧ vm' = ⟨some guest.memory, guest.kvm⟩ := by
  obtain ⟨_ | memory, kvm⟩ := vm
  · exact ⟨nofun, fun ⟨_, _, h, _⟩ => nomatch h⟩
  · rw [run_withGuestMemory_some, run_within_eq_ok]
    constructor
    · rintro ⟨guest, hrun, rfl⟩
      exact ⟨memory, guest, rfl, hrun, rfl⟩
    · rintro ⟨_, guest, ⟨⟩, hrun, rfl⟩
      exact ⟨guest, hrun, rfl⟩

end Vm

/-! ### Pages -/

/-- Two neighbours in a list are equal. -/
def adjacentEqual : List UInt64 → Bool
  | a :: b :: rest => a == b || adjacentEqual (b :: rest)
  | _ => false

/-- `validate_page_addresses` (lines 171-209). -/
def validatePageAddresses (pageAddresses : List UInt64) : Except Error (List UInt64) := do
  let operation := "bounded page-set checkpoint capture"
  rejectIf (pageAddresses = [])
    (pageSetError operation "checkpoint ownership set must contain at least one page")
  rejectIf (boundedCheckpointPageSetLimit < pageAddresses.length)
    (pageSetError operation ("checkpoint ownership set has " ++ toString pageAddresses.length ++
      " pages, limit is " ++ toString boundedCheckpointPageSetLimit))
  let canonical := pageAddresses.mergeSort
  canonical.forM fun address => rejectIf (address.toNat % longModePageSize ≠ 0)
    (pageSetError operation
      ("checkpoint page " ++ hexText address.toNat ++ " is not 4KiB aligned"))
  rejectIf (adjacentEqual canonical)
    (pageSetError operation "checkpoint ownership set contains a duplicate page")
  return canonical

/-- The contents of a page. -/
def capturePage (memory : GuestMemory) (address : UInt64) : Except Error BoundedCheckpointPage := do
  let bytes ← (memory.read address.toNat longModePageSize).mapError .guestMemory
  return ⟨address, bytes⟩

structure BoundedCheckpointPageComparison where
  address : UInt64
  exact_ : Bool
  deriving DecidableEq, Repr

/-- The comparison of a page with the memory. -/
def comparePage (memory : GuestMemory) (page : BoundedCheckpointPage) :
    Except Error BoundedCheckpointPageComparison := do
  let observed ← (memory.read page.address.toNat page.bytes.length).mapError .guestMemory
  return ⟨page.address, observed = page.bytes⟩

/-- `compare_pages` (lines 155-169). -/
def comparePages (expected : List BoundedCheckpointPage) (memory : GuestMemory) :
    Except Error (List BoundedCheckpointPageComparison) :=
  expected.mapM (comparePage memory)

/-! ### One vCPU and its pages -/

structure BoundedPageSetCheckpointComparison where
  pages : List BoundedCheckpointPageComparison
  vcpu : VcpuStateSnapshotComparison
  deriving DecidableEq, Repr

def BoundedPageSetCheckpointComparison.isExactMatch
    (comparison : BoundedPageSetCheckpointComparison) : Bool :=
  (comparison.pages.all fun page => page.exact_) && comparison.vcpu.isExactMatch

namespace BoundedVcpuPageSetCheckpoint

/-- `BoundedVcpuPageSetCheckpoint::capture` (lines 42-57). -/
def capture (ops : KvmOps σ) (id : VcpuId) (policy : GuestMsrAccessPolicy)
    (pageAddresses : List UInt64) : EStateM Error (Guest σ) BoundedVcpuPageSetCheckpoint := do
  let addresses ← reads fun _ => validatePageAddresses pageAddresses
  let pages ← reads fun guest => addresses.mapM (capturePage guest.memory)
  let vcpu ← Guest.onKvm (captureStateSnapshot ops id policy)
  return { pages, vcpu }

variable (checkpoint : BoundedVcpuPageSetCheckpoint) (ops : KvmOps σ) (id : VcpuId)

/-- `BoundedVcpuPageSetCheckpoint::verify` (lines 77-85). -/
def verify : EStateM Error (Guest σ) BoundedPageSetCheckpointComparison := do
  let pages ← reads fun guest => comparePages checkpoint.pages guest.memory
  let vcpu ← Guest.onKvm (verifyStateSnapshot ops id checkpoint.vcpu)
  return { pages, vcpu }

/-- The loop of `restore_and_verify` that writes the pages. -/
def writePages : EStateM Error (Guest σ) Unit :=
  checkpoint.pages.forM fun page => Guest.onMemory (GuestMemory.write page.address.toNat page.bytes)

/-- `BoundedVcpuPageSetCheckpoint::restore_and_verify` (lines 87-98). -/
def restoreAndVerify : EStateM Error (Guest σ) BoundedPageSetCheckpointComparison := do
  checkpoint.writePages
  let vcpu ← Guest.onKvm (restoreAndVerifyStateSnapshot ops id checkpoint.vcpu)
  let pages ← reads fun guest => comparePages checkpoint.pages guest.memory
  return { pages, vcpu }

end BoundedVcpuPageSetCheckpoint

/-! ### One vCPU and the controllers -/

structure BoundedControllerCheckpointComparison where
  guest : BoundedPageSetCheckpointComparison
  masterPic : Bool
  lapic : Bool
  deriving DecidableEq, Repr

def BoundedControllerCheckpointComparison.isExactMatch
    (comparison : BoundedControllerCheckpointComparison) : Bool :=
  comparison.guest.isExactMatch && comparison.masterPic && comparison.lapic

/-- The detail for a VM without memory. -/
def noGuestMemory : String := "VM has no registered guest memory"

namespace BoundedControllerCheckpoint

/-- `BoundedControllerCheckpoint::capture` (lines 91-108). -/
def capture (ops : KvmOps σ) (id : VcpuId) (policy : GuestMsrAccessPolicy)
    (pageAddresses : List UInt64) : EStateM Error (Vm σ) BoundedControllerCheckpoint := do
  let guest ← Vm.withGuestMemory (pageSetError "controller checkpoint capture" noGuestMemory)
    (BoundedVcpuPageSetCheckpoint.capture ops id policy pageAddresses)
  let masterPic ← Vm.onKvm (captureMasterPicState ops)
  let lapic ← Vm.onKvm (captureLapicCheckpointState ops id)
  return { guest, masterPic, lapic }

/-- `BoundedControllerCheckpoint::verify` (lines 125-144). -/
def verify (checkpoint : BoundedControllerCheckpoint) (ops : KvmOps σ) (id : VcpuId) :
    EStateM Error (Vm σ) BoundedControllerCheckpointComparison := do
  let guest ← Vm.withGuestMemory (pageSetError "controller checkpoint verification" noGuestMemory)
    (checkpoint.guest.verify ops id)
  let masterPic ← Vm.onKvm (captureMasterPicState ops)
  let lapic ← Vm.onKvm (captureLapicCheckpointState ops id)
  return {
    guest
    masterPic := decide (masterPic = checkpoint.masterPic)
    lapic := decide (lapic = checkpoint.lapic) }

end BoundedControllerCheckpoint

structure BoundedFullControllerCheckpointComparison where
  base : BoundedControllerCheckpointComparison
  slavePic : Bool
  ioapic : Bool
  deriving DecidableEq, Repr

def BoundedFullControllerCheckpointComparison.isExactMatch
    (comparison : BoundedFullControllerCheckpointComparison) : Bool :=
  comparison.base.isExactMatch && comparison.slavePic && comparison.ioapic

namespace BoundedFullControllerCheckpoint

/-- `BoundedFullControllerCheckpoint::capture` (lines 54-77). -/
def capture (ops : KvmOps σ) (id : VcpuId) (policy : GuestMsrAccessPolicy)
    (pageAddresses : List UInt64) : EStateM Error (Vm σ) BoundedFullControllerCheckpoint := do
  let base ← BoundedControllerCheckpoint.capture ops id policy pageAddresses
  let slavePic ← Vm.onKvm (captureSlavePicState ops)
  let ioapic ← Vm.onKvm (captureIoapicState ops)
  reads fun _ => rejectIf (ioapic.state.irr ≠ 0)
    (pageSetError "full controller checkpoint IOAPIC quiescence" ("pending IOAPIC IRR " ++
      hexText ioapic.state.irr.toNat ++ " is outside the bounded checkpoint contract"))
  return { base, slavePic, ioapic }

variable (checkpoint : BoundedFullControllerCheckpoint) (ops : KvmOps σ) (id : VcpuId)

/-- `BoundedFullControllerCheckpoint::verify` (lines 104-117). -/
def verify : EStateM Error (Vm σ) BoundedFullControllerCheckpointComparison := do
  let base ← checkpoint.base.verify ops id
  let slavePic ← Vm.onKvm (captureSlavePicState ops)
  let ioapic ← Vm.onKvm (captureIoapicState ops)
  return {
    base
    slavePic := decide (slavePic = checkpoint.slavePic)
    ioapic := decide (ioapic = checkpoint.ioapic) }

/-- `restore_full_controller_components_with` (lines 792-809), with the components that
`restore_and_verify` gives it. -/
def restoreFullControllerComponents : EStateM Error (Vm σ) Unit := do
  Vm.onKvm (restoreMasterPicState ops checkpoint.base.masterPic)
  Vm.onKvm (restoreSlavePicState ops checkpoint.slavePic)
  Vm.onKvm (restoreIoapicState ops checkpoint.ioapic)
  Vm.onKvm (restoreLapicCheckpointState ops id checkpoint.base.lapic)

/-- `BoundedFullControllerCheckpoint::restore_and_verify` (lines 119-148). -/
def restoreAndVerify : EStateM Error (Vm σ) BoundedFullControllerCheckpointComparison := do
  let guest ← Vm.withGuestMemory (pageSetError "full controller checkpoint restore" noGuestMemory)
    (checkpoint.base.guest.restoreAndVerify ops id)
  reads fun _ => rejectIf (guest.isExactMatch = false)
    (pageSetError "full controller checkpoint guest restore verification"
      ("page/VCPU state was not exact after bounded restore; controller restore was not " ++
        "attempted"))
  checkpoint.restoreFullControllerComponents ops id
  checkpoint.verify ops id

end BoundedFullControllerCheckpoint

/-! ### Two vCPUs -/

/-- `canonical_vcpu_pair` (lines 1070-1086) and `canonical_vcpu_pair_mut` (lines 1088-1104): the
vCPUs in the order of their ids. -/
def canonicalVcpuPair (operation : String) (first second : VcpuId) :
    Except Error (VcpuId × VcpuId) := do
  rejectIf (first = second)
    (twoVcpuCheckpointError first operation "checkpoint requires two distinct vCPU ids")
  return if first < second then (first, second) else (second, first)

/-- The operation that `canonical_vcpu_pair` reports. -/
def vcpuOwnership : String := "two-vCPU checkpoint ownership"

/-- The operation that `canonical_vcpu_pair_mut` reports. -/
def vcpuMutableOwnership : String := "two-vCPU checkpoint mutable ownership"

structure BoundedTwoVcpuCheckpointComparison where
  primaryId : VcpuId
  primary : BoundedPageSetCheckpointComparison
  secondaryId : VcpuId
  secondary : VcpuStateSnapshotComparison
  deriving DecidableEq, Repr

def BoundedTwoVcpuCheckpointComparison.isExactMatch
    (comparison : BoundedTwoVcpuCheckpointComparison) : Bool :=
  comparison.primary.isExactMatch && comparison.secondary.isExactMatch

/-- The `Debug` text of two vCPU ids. -/
def vcpuIdsText (ids : VcpuId × VcpuId) : String :=
  "[VcpuId(" ++ toString ids.1.toNat ++ "), VcpuId(" ++ toString ids.2.toNat ++ ")]"

namespace BoundedTwoVcpuCheckpoint

/-- `BoundedTwoVcpuCheckpoint::capture` (lines 168-191). -/
def capture (ops : KvmOps σ) (first second : VcpuId) (policy : GuestMsrAccessPolicy)
    (pageAddresses : List UInt64) : EStateM Error (Guest σ) BoundedTwoVcpuCheckpoint := do
  let ⟨primaryId, secondaryId⟩ ← reads fun _ => canonicalVcpuPair vcpuOwnership first second
  let primary ← BoundedVcpuPageSetCheckpoint.capture ops primaryId policy pageAddresses
  let secondary ← Guest.onKvm (captureStateSnapshot ops secondaryId policy)
  return { primaryId, primary, secondaryId, secondary }

variable (checkpoint : BoundedTwoVcpuCheckpoint) (ops : KvmOps σ) (first second : VcpuId)

def vcpuIds : VcpuId × VcpuId := (checkpoint.primaryId, checkpoint.secondaryId)

/-- `BoundedTwoVcpuCheckpoint::bind_vcpus` (lines 233-251). -/
def bindVcpus : Except Error (VcpuId × VcpuId) := do
  let ids ← canonicalVcpuPair vcpuOwnership first second
  rejectIf (ids ≠ checkpoint.vcpuIds)
    (twoVcpuCheckpointError ids.1 "two-vCPU checkpoint binding" ("checkpoint owns " ++
      vcpuIdsText checkpoint.vcpuIds ++ ", supplied " ++ vcpuIdsText ids))
  return ids

/-- `BoundedTwoVcpuCheckpoint::verify` (lines 203-216). -/
def verify : EStateM Error (Guest σ) BoundedTwoVcpuCheckpointComparison := do
  let ⟨primaryId, secondaryId⟩ ← reads fun _ => checkpoint.bindVcpus first second
  let primary ← checkpoint.primary.verify ops primaryId
  let secondary ← Guest.onKvm (verifyStateSnapshot ops secondaryId checkpoint.secondary)
  return {
    primaryId := checkpoint.primaryId
    primary
    secondaryId := checkpoint.secondaryId
    secondary }

/-- `BoundedTwoVcpuCheckpoint::restore_and_verify` (lines 218-231). -/
def restoreAndVerify : EStateM Error (Guest σ) BoundedTwoVcpuCheckpointComparison := do
  let ⟨primaryId, secondaryId⟩ ← reads fun _ => checkpoint.bindVcpus first second
  let primary ← checkpoint.primary.restoreAndVerify ops primaryId
  let secondary ← Guest.onKvm (restoreAndVerifyStateSnapshot ops secondaryId checkpoint.secondary)
  return {
    primaryId := checkpoint.primaryId
    primary
    secondaryId := checkpoint.secondaryId
    secondary }

end BoundedTwoVcpuCheckpoint

/-! ### Two vCPUs and the controllers -/

structure BoundedTwoVcpuFullControllerCheckpointComparison where
  base : BoundedTwoVcpuCheckpointComparison
  masterPic : Bool
  slavePic : Bool
  ioapic : Bool
  lapics : Bool × Bool
  mpStates : Bool × Bool
  deriving DecidableEq, Repr

def BoundedTwoVcpuFullControllerCheckpointComparison.isExactMatch
    (comparison : BoundedTwoVcpuFullControllerCheckpointComparison) : Bool :=
  comparison.base.isExactMatch && comparison.masterPic && comparison.slavePic &&
    comparison.ioapic && comparison.lapics == (true, true) && comparison.mpStates == (true, true)

namespace BoundedTwoVcpuFullControllerCheckpoint

/-- `BoundedTwoVcpuFullControllerCheckpoint::capture` (lines 306-337). -/
def capture (ops : KvmOps σ) (first second : VcpuId) (policy : GuestMsrAccessPolicy)
    (pageAddresses : List UInt64) :
    EStateM Error (Vm σ) BoundedTwoVcpuFullControllerCheckpoint := do
  let base ← Vm.withGuestMemory
    (twoVcpuCheckpointError 0 "two-vCPU full-controller checkpoint capture" noGuestMemory)
    (BoundedTwoVcpuCheckpoint.capture ops first second policy pageAddresses)
  let ⟨primary, secondary⟩ ← reads fun _ => canonicalVcpuPair vcpuOwnership first second
  let masterPic ← Vm.onKvm (captureMasterPicState ops)
  let slavePic ← Vm.onKvm (captureSlavePicState ops)
  let ioapic ← Vm.onKvm (captureIoapicState ops)
  let primaryLapic ← Vm.onKvm (captureLapicCheckpointState ops primary)
  let secondaryLapic ← Vm.onKvm (captureLapicCheckpointState ops secondary)
  let primaryMp ← Vm.onKvm (multiprocessingStateRaw ops primary)
  let secondaryMp ← Vm.onKvm (multiprocessingStateRaw ops secondary)
  return {
    base
    masterPic
    slavePic
    ioapic
    lapics := ((primary, primaryLapic), (secondary, secondaryLapic))
    mpStates := ((primary, primaryMp), (secondary, secondaryMp)) }

variable (checkpoint : BoundedTwoVcpuFullControllerCheckpoint) (ops : KvmOps σ)
  (first second : VcpuId)

/-- `BoundedTwoVcpuFullControllerCheckpoint::require_bound_vcpus` (lines 437-460). -/
def requireBoundVcpus (ids : VcpuId × VcpuId) : Except Error Unit :=
  rejectIf (ids ≠ checkpoint.base.vcpuIds ∨ checkpoint.lapics.1.1 ≠ ids.1 ∨
      checkpoint.lapics.2.1 ≠ ids.2 ∨ checkpoint.mpStates.1.1 ≠ ids.1 ∨
      checkpoint.mpStates.2.1 ≠ ids.2)
    (twoVcpuCheckpointError ids.1 "two-vCPU full-controller checkpoint binding"
      ("checkpoint owns vCPUs " ++ vcpuIdsText checkpoint.base.vcpuIds ++ ", LAPICs [" ++
        toString checkpoint.lapics.1.1.toNat ++ ", " ++ toString checkpoint.lapics.2.1.toNat ++
        "], MP states [" ++ toString checkpoint.mpStates.1.1.toNat ++ ", " ++
        toString checkpoint.mpStates.2.1.toNat ++ "]; supplied [" ++ toString ids.1.toNat ++ ", " ++
        toString ids.2.toNat ++ "]"))

/-- `BoundedTwoVcpuFullControllerCheckpoint::bind_vcpus` (lines 427-435) and the start of
`restore_and_verify`. -/
def bindVcpus (operation : String) : Except Error (VcpuId × VcpuId) := do
  let ids ← canonicalVcpuPair operation first second
  checkpoint.requireBoundVcpus ids
  return ids

/-- `BoundedTwoVcpuFullControllerCheckpoint::verify` (lines 349-378). -/
def verify : EStateM Error (Vm σ) BoundedTwoVcpuFullControllerCheckpointComparison := do
  let base ← Vm.withGuestMemory
    (twoVcpuCheckpointError 0 "two-vCPU full-controller checkpoint verify" noGuestMemory)
    (checkpoint.base.verify ops first second)
  let ⟨primary, secondary⟩ ← reads fun _ => checkpoint.bindVcpus first second vcpuOwnership
  let masterPic ← Vm.onKvm (captureMasterPicState ops)
  let slavePic ← Vm.onKvm (captureSlavePicState ops)
  let ioapic ← Vm.onKvm (captureIoapicState ops)
  let primaryLapic ← Vm.onKvm (captureLapicCheckpointState ops primary)
  let secondaryLapic ← Vm.onKvm (captureLapicCheckpointState ops secondary)
  let primaryMp ← Vm.onKvm (multiprocessingStateRaw ops primary)
  let secondaryMp ← Vm.onKvm (multiprocessingStateRaw ops secondary)
  return {
    base
    masterPic := decide (masterPic = checkpoint.masterPic)
    slavePic := decide (slavePic = checkpoint.slavePic)
    ioapic := decide (ioapic = checkpoint.ioapic)
    lapics := (decide (primaryLapic = checkpoint.lapics.1.2),
      decide (secondaryLapic = checkpoint.lapics.2.2))
    mpStates := (decide (primaryMp = checkpoint.mpStates.1.2),
      decide (secondaryMp = checkpoint.mpStates.2.2)) }

/-- The restore of the multiprocessing states in `restore_and_verify`. -/
def restoreMpStates (ids : VcpuId × VcpuId) : EStateM Error (Vm σ) Unit := do
  let primaryMp ← Vm.onKvm (restoreMultiprocessingStateRaw ops ids.1 checkpoint.mpStates.1.2)
  let secondaryMp ← Vm.onKvm (restoreMultiprocessingStateRaw ops ids.2 checkpoint.mpStates.2.2)
  reads fun _ => rejectIf (primaryMp ≠ checkpoint.mpStates.1.2 ∨
      secondaryMp ≠ checkpoint.mpStates.2.2)
    (twoVcpuCheckpointError ids.1 "two-vCPU full-controller MP-state restore verification"
      ("expected MP states [" ++ toString checkpoint.mpStates.1.2.toNat ++ ", " ++
        toString checkpoint.mpStates.2.2.toNat ++ "], got [" ++ toString primaryMp.toNat ++ ", " ++
        toString secondaryMp.toNat ++ "]"))

/-- The restore of the controllers in `restore_and_verify`. -/
def restoreControllers (ids : VcpuId × VcpuId) : EStateM Error (Vm σ) Unit := do
  Vm.onKvm (restoreMasterPicState ops checkpoint.masterPic)
  Vm.onKvm (restoreSlavePicState ops checkpoint.slavePic)
  Vm.onKvm (restoreIoapicState ops checkpoint.ioapic)
  Vm.onKvm (restoreLapicCheckpointState ops ids.1 checkpoint.lapics.1.2)
  Vm.onKvm (restoreLapicCheckpointState ops ids.2 checkpoint.lapics.2.2)

/-- `BoundedTwoVcpuFullControllerCheckpoint::restore_and_verify` (lines 380-425). -/
def restoreAndVerify : EStateM Error (Vm σ) BoundedTwoVcpuFullControllerCheckpointComparison := do
  let ids ← reads fun _ => checkpoint.bindVcpus first second vcpuMutableOwnership
  let base ← Vm.withGuestMemory
    (twoVcpuCheckpointError 0 "two-vCPU full-controller checkpoint restore" noGuestMemory)
    (checkpoint.base.restoreAndVerify ops ids.1 ids.2)
  reads fun _ => rejectIf (base.isExactMatch = false)
    (twoVcpuCheckpointError ids.1 "two-vCPU full-controller guest restore verification"
      "page/vCPU state was not exact; MP/controller restore was not attempted")
  checkpoint.restoreMpStates ops ids
  checkpoint.restoreControllers ops ids
  checkpoint.verify ops ids.1 ids.2

end BoundedTwoVcpuFullControllerCheckpoint

end MiniHypervisor.Checkpoint
