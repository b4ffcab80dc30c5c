import MiniHypervisor.Checkpoint.Types
import MiniHypervisor.Kvm.HostRegistration
import MiniHypervisor.Memory.GuestMemory
import MiniHypervisor.Vcpu.Comparison

/-!
# Reading and writing the state of a vCPU and of the controllers

The state of a vCPU is read and written one component at a time: general registers
(`src/vcpu/register_snapshot.rs`), special registers (`src/vcpu/special_register_snapshot.rs`,
`src/vcpu/special_register_restore.rs`), MSRs (`src/vcpu/msr_readback.rs`,
`src/vcpu/msr_write.rs`), local APIC (`src/vcpu/lapic_checkpoint.rs`) and multiprocessing state
(`src/vcpu/mp_state.rs`).  The interrupt controllers of the VM are in `src/kvm/irqchip_snapshot.rs`,
the snapshot of all registers and MSRs of a vCPU in `src/state_snapshot.rs`.

KVM is not part of the program: its operations are a parameter, on a state of any type.  An
operation may fail with any text, and whatever its outcome it may change the state.
-/

namespace MiniHypervisor.Checkpoint

open Bytes Control Kvm Memory Vcpu

/-! ### The operations of KVM -/

structure KvmIrqchip where
  chipId : UInt32
  pad : UInt32
  chip : FixedBytes kvmIrqchipPayloadSize
  deriving DecidableEq, Repr

def KvmIrqchip.request (chipId : UInt32) : KvmIrqchip := ⟨chipId, 0, .zeros _⟩

structure KvmMsrEntry where
  index : UInt32
  reserved : UInt32
  data : UInt64
  deriving DecidableEq, Repr

/-- `KvmMsrs`, with room for `n` entries. -/
structure KvmMsrs (n : ℕ) where
  nmsrs : UInt32
  pad : UInt32
  entries : { entries : List KvmMsrEntry // entries.length = n }
  deriving DecidableEq, Repr

/-- A buffer that starts with the given entries. -/
def KvmMsrs.ofEntries {n : ℕ} (entries : List KvmMsrEntry) (h : entries.length ≤ n) :
    KvmMsrs n where
  nmsrs := UInt32.ofNat entries.length
  pad := 0
  entries := ⟨entries ++ List.replicate (n - entries.length) ⟨0, 0, 0⟩, by
    rw [List.length_append, List.length_replicate]
    omega⟩

def vcpuMsrReadbackCapacity : ℕ := 1024

def vcpuMsrWriteCapacity : ℕ := 1024

/-- The operations of KVM on a state of type `σ`; one that fails does so with the text of an
`io::Error`. -/
structure KvmOps (σ : Type) where
  getRegs : VcpuId → EStateM String σ KvmRegs
  setRegs : VcpuId → KvmRegs → EStateM String σ Unit
  getSregs : VcpuId → EStateM String σ KvmSregs
  setSregs : VcpuId → KvmSregs → EStateM String σ Unit
  getMsrs : VcpuId → KvmMsrs vcpuMsrReadbackCapacity →
    EStateM String σ (ℕ × KvmMsrs vcpuMsrReadbackCapacity)
  setMsrs : VcpuId → KvmMsrs vcpuMsrWriteCapacity → EStateM String σ ℕ
  getLapic : VcpuId → EStateM String σ KvmLapicState
  setLapic : VcpuId → KvmLapicState → EStateM String σ Unit
  getMpState : VcpuId → EStateM String σ UInt32
  setMpState : VcpuId → UInt32 → EStateM String σ Unit
  getIrqchip : KvmIrqchip → EStateM String σ KvmIrqchip
  setIrqchip : KvmIrqchip → EStateM String σ Unit

/-! ### Errors -/

/-- The variant of `KvmCapabilityError` for an extension that is not there. -/
inductive KvmCapabilityError where
  | missingExtension (name : String) (id : Int32)
  deriving DecidableEq, Repr

/-- `Display` of `KvmCapabilityError`. -/
def KvmCapabilityError.text : KvmCapabilityError → String
  | missingExtension name id =>
      "required KVM extension " ++ name ++ " (id " ++ toString id.toInt ++ ") is unavailable"

/-- `Error`, for what a checkpoint can meet.  Both variants of `HostEnvironmentError` for the
writing of MSRs stand beside it. -/
inductive Error where
  | hostEnvironment (error : HostEnvironmentError)
  | kvmCapability (error : KvmCapabilityError)
  | vcpuMsrPartialWrite (id : VcpuId) (requested processed : ℕ) (firstUnwrittenIndex : UInt32)
  | vcpuMsrInvalidWriteCompletion (id : VcpuId) (requested processed : ℕ)
  | guestMemory (error : GuestMemoryError)
  deriving DecidableEq, Repr

/-- `Display` of `Error`. -/
def Error.text : Error → String
  | hostEnvironment error => error.text
  | kvmCapability error => error.text
  | vcpuMsrPartialWrite id requested processed firstUnwrittenIndex =>
      "KVM_SET_MSRS partially updated vCPU " ++ toString id.toNat ++ ": processed " ++
        toString processed ++ " of " ++ toString requested ++ " MSRs; first unwritten index " ++
        hexText firstUnwrittenIndex.toNat
  | vcpuMsrInvalidWriteCompletion id requested processed =>
      "KVM_SET_MSRS returned invalid processed count " ++ toString processed ++ " for vCPU " ++
        toString id.toNat ++ " after " ++ toString requested ++ " requested MSRs"
  | guestMemory error => error.text

variable {σ α : Type}

def vcpuOperation (id : VcpuId) (operation detail : String) : Error :=
  .hostEnvironment (.vcpuOperation id operation detail)

def pageSetError (operation detail : String) : Error := vcpuOperation 0 operation detail

/-- An operation with its error wrapped. -/
def orElseError (wrap : String → Error) (x : EStateM String σ α) : EStateM Error σ α :=
  within id (fun _ s => s) wrap x

/-- A check with its error wrapped. -/
def checked (wrap : String → Error) (x : Except String α) : EStateM Error σ α :=
  reads fun _ => x.mapError wrap

section Operations

variable (ops : KvmOps σ) (id : VcpuId)

/-! ### Registers -/

/-- `Vcpu::capture_register_snapshot` (lines 316-320). -/
def captureRegisterSnapshot : EStateM Error σ VcpuRegisterSnapshot := do
  let regs ← orElseError (vcpuOperation id "KVM_GET_REGS") (ops.getRegs id)
  return .fromKvmRegs regs

/-- `Vcpu::restore_register_snapshot` (lines 322-326). -/
def restoreRegisterSnapshot (snapshot : VcpuRegisterSnapshot) : EStateM Error σ Unit :=
  orElseError (vcpuOperation id "KVM_SET_REGS") (ops.setRegs id snapshot.toKvmRegs)

/-- `Vcpu::capture_special_register_snapshot` (lines 591-595). -/
def captureSpecialRegisterSnapshot : EStateM Error σ VcpuSpecialRegisterSnapshot := do
  let sregs ← orElseError (vcpuOperation id "KVM_GET_SREGS") (ops.getSregs id)
  return .fromKvmSregs sregs

/-- `Vcpu::restore_special_register_snapshot` (lines 217-224). -/
def restoreSpecialRegisterSnapshot (snapshot : VcpuSpecialRegisterSnapshot) :
    EStateM Error σ Unit :=
  orElseError (vcpuOperation id "KVM_SET_SREGS") (ops.setSregs id snapshot.encodeSnapshot)

/-! ### MSRs -/

/-- `prepare_vcpu_msr_request` (lines 137-161). -/
def prepareVcpuMsrRequest (indices : List MsrIndex) :
    Except String (KvmMsrs vcpuMsrReadbackCapacity) :=
  if h : indices.length ≤ vcpuMsrReadbackCapacity then
    .ok (.ofEntries (indices.map fun index => ⟨index, 0, 0⟩) (by rwa [List.length_map]))
  else
    .error ("vCPU KVM_GET_MSRS request count " ++ toString indices.length ++
      " exceeds bounded capacity " ++ toString vcpuMsrReadbackCapacity)

/-- The entries of a response from a position on, which have to name the MSRs asked for. -/
def decodeEntriesFrom :
    ℕ → List MsrIndex → List KvmMsrEntry → Except String (List (MsrIndex × UInt64))
  | position, index :: expected, entry :: entries => do
      rejectIf (entry.index ≠ index) ("KVM_GET_MSRS changed vCPU MSR index at entry " ++
        toString position ++ ": expected " ++ hexText index.toNat ++ ", got " ++
        hexText entry.index.toNat)
      let values ← decodeEntriesFrom (position + 1) expected entries
      return (index, entry.data) :: values
  | _, _, _ => return []

/-- `decode_vcpu_msr_response` (lines 163-216). -/
def decodeVcpuMsrResponse (expected : List MsrIndex) (returned : ℕ) (entries : List KvmMsrEntry) :
    Except String (List (MsrIndex × UInt64)) := do
  rejectIf (returned < expected.length) ("KVM_GET_MSRS returned " ++ toString returned ++ " of " ++
    toString expected.length ++ " requested vCPU MSRs; first unread index " ++
    hexText (expected.getD returned 0).toNat)
  rejectIf (expected.length < returned) ("KVM_GET_MSRS returned " ++ toString returned ++
    " vCPU MSRs after " ++ toString expected.length ++ " were requested")
  rejectIf (entries.length < expected.length) ("KVM_GET_MSRS response buffer has " ++
    toString entries.length ++ " entries for " ++ toString expected.length ++
    " requested vCPU MSRs")
  decodeEntriesFrom 0 expected entries

/-- `Vcpu::msrs` (lines 50-61). -/
def msrs (indices : List MsrIndex) : EStateM Error σ (List (MsrIndex × UInt64)) :=
  if indices.isEmpty then return []
  else do
    let request ← checked (vcpuOperation id "validate KVM_GET_MSRS request")
      (prepareVcpuMsrRequest indices)
    let ⟨returned, response⟩ ←
      orElseError (vcpuOperation id "KVM_GET_MSRS") (ops.getMsrs id request)
    checked (vcpuOperation id "validate KVM_GET_MSRS response")
      (decodeVcpuMsrResponse indices returned (response.entries.1.take indices.length))

def policyMsrIndices (policy : GuestMsrAccessPolicy) : List MsrIndex :=
  policy.entries.map GuestMsrAccess.index

/-- The first position, from one on, at which the captured MSRs are not those of the policy. -/
def captureMismatch? : ℕ → List MsrIndex → List (MsrIndex × UInt64) → Option String
  | position, index :: indices, value :: values =>
      if index ≠ value.1 then
        some ("guest MSR capture changed index at entry " ++ toString position ++ ": expected " ++
          hexText index.toNat ++ ", got " ++ hexText value.1.toNat)
      else captureMismatch? (position + 1) indices values
  | _, _, _ => none

/-- `materialize_policy_capture` (lines 100-135). -/
def materializePolicyCapture (policy : GuestMsrAccessPolicy) (captured : List (MsrIndex × UInt64)) :
    Except String GuestMsrValueSet := do
  rejectIf (captured.length ≠ policy.entries.length) ("guest MSR capture contains " ++
    toString captured.length ++ " values for " ++ toString policy.entries.length ++
    " policy entries")
  match captureMismatch? 0 (policyMsrIndices policy) captured with
  | some detail => .error detail
  | none => (GuestMsrValueSet.fromPolicy policy captured).mapError GuestMsrValueSetError.text

/-- `Vcpu::capture_msrs` (lines 63-79). -/
def captureMsrs (policy : GuestMsrAccessPolicy) : EStateM Error σ GuestMsrValueSet := do
  let indices := policyMsrIndices policy
  if indices.isEmpty then
    checked (vcpuOperation id "materialize guest MSR capture") (materializePolicyCapture policy [])
  else do
    let captured ← msrs ops id indices
    checked (vcpuOperation id "materialize guest MSR capture")
      (materializePolicyCapture policy captured)

/-- `Vcpu::capture_msr_snapshot` (lines 81-93). -/
def captureMsrSnapshot (policy : GuestMsrAccessPolicy) : EStateM Error σ GuestMsrSnapshot := do
  let values ← captureMsrs ops id policy
  checked (vcpuOperation id "validate full guest MSR snapshot")
    ((GuestMsrSnapshot.fromCapture policy values).mapError GuestMsrSnapshotError.text)

/-- `prepare_vcpu_msr_write_request` (lines 61-90). -/
def prepareVcpuMsrWriteRequest (values : GuestMsrValueSet) :
    Except String (Option (KvmMsrs vcpuMsrWriteCapacity)) :=
  if values.values.isEmpty then .ok none
  else if h : values.values.length ≤ vcpuMsrWriteCapacity then
    .ok (some (.ofEntries (values.values.map fun value => ⟨value.index, 0, value.value⟩)
      (by rwa [List.length_map])))
  else
    .error ("vCPU KVM_SET_MSRS request count " ++ toString values.values.length ++
      " exceeds bounded capacity " ++ toString vcpuMsrWriteCapacity)

/-- `validate_vcpu_msr_write_completion` (lines 92-119). -/
def validateVcpuMsrWriteCompletion (values : GuestMsrValueSet) (processed : ℕ) :
    Except Error Unit :=
  let requested := values.values.length
  if processed = requested then .ok ()
  else
    match values.values[processed]? with
    | some value => .error (.vcpuMsrPartialWrite id requested processed value.index)
    | none => .error (.vcpuMsrInvalidWriteCompletion id requested processed)

/-- `Vcpu::set_msrs` (lines 12-22). -/
def setMsrs (values : GuestMsrValueSet) : EStateM Error σ Unit := do
  match ← checked (vcpuOperation id "validate KVM_SET_MSRS request")
    (prepareVcpuMsrWriteRequest values) with
  | none => return ()
  | some request => do
      let processed ← orElseError (vcpuOperation id "KVM_SET_MSRS") (ops.setMsrs id request)
      reads fun _ => validateVcpuMsrWriteCompletion id values processed

/-- `Vcpu::restore_msr_snapshot` (lines 24-26). -/
def restoreMsrSnapshot (snapshot : GuestMsrSnapshot) : EStateM Error σ Unit :=
  setMsrs ops id snapshot.values

/-! ### Registers and MSRs -/

structure VcpuStateSnapshotComparison where
  registers : VcpuRegisterSnapshotComparison
  specialRegisters : VcpuSpecialRegisterSnapshotComparison
  msrs : GuestMsrSnapshotComparison
  deriving DecidableEq, Repr

def VcpuStateSnapshotComparison.isExactMatch (comparison : VcpuStateSnapshotComparison) : Bool :=
  comparison.registers.isExactMatch && comparison.specialRegisters.isExactMatch &&
    comparison.msrs.isExactMatch

/-- `VcpuStateSnapshot::compare` (lines 43-55). -/
def VcpuStateSnapshot.compare (snapshot observed : VcpuStateSnapshot) :
    VcpuStateSnapshotComparison where
  registers := snapshot.registers.compare observed.registers
  specialRegisters := snapshot.specialRegisters.compare observed.specialRegisters
  msrs := snapshot.msrs.compare observed.msrs

theorem VcpuStateSnapshot.isExactMatch_compare {snapshot observed : VcpuStateSnapshot} :
    (snapshot.compare observed).isExactMatch = true ↔ snapshot = observed := by
  cases snapshot
  cases observed
  simp only [VcpuStateSnapshotComparison.isExactMatch, compare, Bool.and_eq_true, mk.injEq,
    VcpuRegisterSnapshot.isExactMatch_compare, VcpuSpecialRegisterSnapshot.isExactMatch_compare,
    GuestMsrSnapshot.isExactMatch_compare, and_assoc]

/-- `Vcpu::capture_state_snapshot` (lines 90-105). -/
def captureStateSnapshot (policy : GuestMsrAccessPolicy) : EStateM Error σ VcpuStateSnapshot := do
  let registers ← captureRegisterSnapshot ops id
  let specialRegisters ← captureSpecialRegisterSnapshot ops id
  let msrs ← captureMsrSnapshot ops id policy
  return { registers, specialRegisters, msrs }

/-- `Vcpu::verify_state_snapshot` (lines 107-113). -/
def verifyStateSnapshot (snapshot : VcpuStateSnapshot) :
    EStateM Error σ VcpuStateSnapshotComparison := do
  let observed ← captureStateSnapshot ops id snapshot.msrs.policy
  return snapshot.compare observed

/-- `Vcpu::restore_state_snapshot` (lines 115-121). -/
def restoreStateSnapshot (snapshot : VcpuStateSnapshot) : EStateM Error σ Unit := do
  restoreSpecialRegisterSnapshot ops id snapshot.specialRegisters
  restoreRegisterSnapshot ops id snapshot.registers
  restoreMsrSnapshot ops id snapshot.msrs

/-- `Vcpu::restore_and_verify_state_snapshot` (lines 123-132). -/
def restoreAndVerifyStateSnapshot (snapshot : VcpuStateSnapshot) :
    EStateM Error σ VcpuStateSnapshotComparison := do
  restoreStateSnapshot ops id snapshot
  verifyStateSnapshot ops id snapshot

/-! ### The local APIC and the multiprocessing state -/

/-- `Vcpu::capture_lapic_checkpoint_state` (lines 2-5). -/
def captureLapicCheckpointState : EStateM Error σ KvmLapicState :=
  orElseError (vcpuOperation id "KVM_GET_LAPIC checkpoint capture") (ops.getLapic id)

/-- `Vcpu::restore_lapic_checkpoint_state` (lines 7-13). -/
def restoreLapicCheckpointState (state : KvmLapicState) : EStateM Error σ Unit :=
  orElseError (vcpuOperation id "KVM_SET_LAPIC checkpoint restore") (ops.setLapic id state)

/-- `Vcpu::multiprocessing_state_raw` (lines 77-79). -/
def multiprocessingStateRaw : EStateM Error σ UInt32 :=
  orElseError (vcpuOperation id "KVM_GET_MP_STATE") (ops.getMpState id)

/-- `Vcpu::restore_multiprocessing_state_raw` (lines 130-152). -/
def restoreMultiprocessingStateRaw (requested : UInt32) : EStateM Error σ UInt32 := do
  orElseError (vcpuOperation id "KVM_SET_MP_STATE") (ops.setMpState id requested)
  let observed ← multiprocessingStateRaw ops id
  checked (vcpuOperation id "verify KVM_SET_MP_STATE checkpoint readback")
    (rejectIf (observed ≠ requested) ("expected vCPU MP state " ++ toString requested.toNat ++
      " after checkpoint restore, got " ++ toString observed.toNat))
  return observed

/-! ### The interrupt controllers of the VM -/

def irqchipOperationError (operation chipName detail : String) : Error :=
  .hostEnvironment (.vmOperation (operation ++ " " ++ chipName) detail)

/-- `Vm::capture_irqchip` (lines 236-259). -/
def captureIrqchip (chipId : UInt32) (chipName : String) : EStateM Error σ KvmIrqchip := do
  let request ← orElseError (irqchipOperationError "KVM_GET_IRQCHIP" chipName)
    (ops.getIrqchip (.request chipId))
  checked (irqchipOperationError "validate KVM_GET_IRQCHIP" chipName)
    (rejectIf (request.chipId ≠ chipId ∨ request.pad ≠ 0) ("expected chip_id " ++
      toString chipId.toNat ++ " and zero outer pad, got chip_id " ++
      toString request.chipId.toNat ++ " pad " ++ toString request.pad.toNat))
  return request

/-- `Vm::restore_irqchip` (lines 261-269). -/
def restoreIrqchip (request : KvmIrqchip) (chipName : String) : EStateM Error σ Unit :=
  orElseError (irqchipOperationError "KVM_SET_IRQCHIP" chipName) (ops.setIrqchip request)

def kvmIrqchipPicMaster : UInt32 := 0

def kvmIrqchipPicSlave : UInt32 := 1

def kvmIrqchipIoapic : UInt32 := 2

/-- `Vm::capture_master_pic_state` (lines 182-189). -/
def captureMasterPicState : EStateM Error σ MasterPicStateSnapshot := do
  let request ← captureIrqchip ops kvmIrqchipPicMaster "master PIC"
  return ⟨decodePicState request.chip⟩

/-- `Vm::restore_master_pic_state` (lines 191-198). -/
def restoreMasterPicState (snapshot : MasterPicStateSnapshot) : EStateM Error σ Unit :=
  let request := KvmIrqchip.request kvmIrqchipPicMaster
  restoreIrqchip ops { request with chip := encodePicState snapshot.state request.chip }
    "master PIC"

/-- `Vm::capture_slave_pic_state` (lines 200-207). -/
def captureSlavePicState : EStateM Error σ SlavePicStateSnapshot := do
  let request ← captureIrqchip ops kvmIrqchipPicSlave "slave PIC"
  return ⟨decodePicState request.chip⟩

/-- `Vm::restore_slave_pic_state` (lines 209-216). -/
def restoreSlavePicState (snapshot : SlavePicStateSnapshot) : EStateM Error σ Unit :=
  let request := KvmIrqchip.request kvmIrqchipPicSlave
  restoreIrqchip ops { request with chip := encodePicState snapshot.state request.chip }
    "slave PIC"

/-- `Vm::capture_ioapic_state` (lines 218-225). -/
def captureIoapicState : EStateM Error σ IoapicStateSnapshot := do
  let request ← captureIrqchip ops kvmIrqchipIoapic "IOAPIC"
  return ⟨decodeIoapicState request.chip⟩

/-- `Vm::restore_ioapic_state` (lines 227-234). -/
def restoreIoapicState (snapshot : IoapicStateSnapshot) : EStateM Error σ Unit :=
  let request := KvmIrqchip.request kvmIrqchipIoapic
  restoreIrqchip ops { request with chip := encodeIoapicState snapshot.state request.chip }
    "IOAPIC"

end Operations

end MiniHypervisor.Checkpoint
