import MiniHypervisor.Bytes.ByteMap
import MiniHypervisor.Control.Triples
import MiniHypervisor.Mmio.ByteDevice

/-!
# The run mapping of a vCPU

When `KVM_RUN` returns, the reason of the exit and its payload lie in the `kvm_run` mapping of the
vCPU (`src/vcpu.rs` and the modules below `src/vcpu/`): the reason in the header, the payload in a
union behind it, and the data of a port access anywhere in the mapping.  The payload of one kind of
exit is decoded only while the header names this kind, and nothing that the mapping says is trusted
to be in range.
-/

namespace MiniHypervisor.Vcpu

open Bytes Control Mmio

/-! ### Kinds of exits -/

/-- `VcpuExit` (`src/vcpu.rs`, lines 69-81). -/
inductive VcpuExit where
  | kvmUnknown
  | exception
  | debug
  | hlt
  | io
  | mmio
  | shutdown
  | failEntry
  | internalError
  | systemEvent
  | unhandled (reason : UInt32)
  deriving DecidableEq, Repr

def kvmExitUnknown : UInt32 := 0

def kvmExitException : UInt32 := 1

def kvmExitIo : UInt32 := 2

def kvmExitDebug : UInt32 := 4

def kvmExitHlt : UInt32 := 5

def kvmExitMmio : UInt32 := 6

def kvmExitShutdown : UInt32 := 8

def kvmExitFailEntry : UInt32 := 9

def kvmExitInternalError : UInt32 := 17

def kvmExitSystemEvent : UInt32 := 24

namespace VcpuExit

/-- `VcpuExit::from_raw` (`src/vcpu.rs`, lines 85-99). -/
def fromRaw (reason : UInt32) : VcpuExit :=
  if reason = kvmExitUnknown then .kvmUnknown
  else if reason = kvmExitException then .exception
  else if reason = kvmExitDebug then .debug
  else if reason = kvmExitIo then .io
  else if reason = kvmExitHlt then .hlt
  else if reason = kvmExitMmio then .mmio
  else if reason = kvmExitShutdown then .shutdown
  else if reason = kvmExitFailEntry then .failEntry
  else if reason = kvmExitInternalError then .internalError
  else if reason = kvmExitSystemEvent then .systemEvent
  else .unhandled reason

/-- `VcpuExit::reason` (`src/vcpu.rs`, lines 102-116). -/
def reason : VcpuExit → UInt32
  | kvmUnknown => kvmExitUnknown
  | exception => kvmExitException
  | debug => kvmExitDebug
  | io => kvmExitIo
  | hlt => kvmExitHlt
  | mmio => kvmExitMmio
  | shutdown => kvmExitShutdown
  | failEntry => kvmExitFailEntry
  | internalError => kvmExitInternalError
  | systemEvent => kvmExitSystemEvent
  | unhandled reason => reason

theorem reason_ite {raw code : UInt32} {x y : VcpuExit} (hx : x.reason = code)
    (hy : y.reason = raw) : (if raw = code then x else y).reason = raw := by
  by_cases h : raw = code
  · rw [if_pos h, hx, h]
  · rw [if_neg h, hy]

@[simp] theorem reason_fromRaw (raw : UInt32) : (fromRaw raw).reason = raw := by
  unfold fromRaw
  -- one step for each code that the chain of tests compares with
  iterate 10
    refine reason_ite ?_ ?_
    · rfl
  rfl

theorem eq_reason_of_fromRaw {raw : UInt32} {exit : VcpuExit} (h : fromRaw raw = exit) :
    raw = exit.reason := by
  rw [← h, reason_fromRaw]

end VcpuExit

/-! ### Port accesses -/

inductive PortIoDirection where
  | in
  | out
  deriving DecidableEq, Repr

def PortIoDirection.raw : PortIoDirection → UInt8
  | .in => 0
  | .out => 1

structure PortIoExit where
  direction : PortIoDirection
  size : UInt8
  port : UInt16
  count : UInt32
  outputData : List UInt8
  deriving DecidableEq, Repr

/-! ### Errors -/

/-- `VmExitError` (`src/error.rs`, lines 135-268). -/
inductive VmExitError where
  | unhandled (vcpuId : UInt16) (reason : UInt32) (rip rflags : UInt64)
      (exitReasons : List UInt32)
  | kvmUnknownExit (vcpuId : UInt16) (hardwareExitReason : UInt64) (exitReasons : List UInt32)
  | kvmUnknownPayloadUnavailable (vcpuId : UInt16) (exitReason : UInt32)
  | exception (vcpuId : UInt16) (exception errorCode : UInt32) (exitReasons : List UInt32)
  | exceptionPayloadUnavailable (vcpuId : UInt16) (exitReason : UInt32)
  | entryFailure (vcpuId : UInt16) (hardwareEntryFailureReason : UInt64) (cpu : UInt32)
      (exitReasons : List UInt32)
  | failEntryPayloadUnavailable (vcpuId : UInt16) (exitReason : UInt32)
  | internalError (vcpuId : UInt16) (suberror : UInt32) (data : Option (List UInt64))
      (exitReasons : List UInt32)
  | internalErrorPayloadUnavailable (vcpuId : UInt16) (exitReason : UInt32)
  | invalidInternalErrorDataCount (vcpuId : UInt16) (suberror ndata : UInt32) (capacity : ℕ)
      (exitReasons : List UInt32)
  | unsupportedSystemEvent (vcpuId : UInt16) (eventType : UInt32) (data : List UInt64)
      (rip rflags : UInt64) (exitReasons : List UInt32)
  | systemEventPayloadUnavailable (vcpuId : UInt16) (exitReason : UInt32)
  | invalidSystemEventDataCount (vcpuId : UInt16) (ndata : UInt32) (capacity : ℕ)
      (exitReasons : List UInt32)
  | ioPayloadUnavailable (vcpuId : UInt16) (exitReason : UInt32)
  | invalidIoDirection (vcpuId : UInt16) (direction : UInt8)
  | invalidIoDataRange (vcpuId : UInt16) (dataOffset : UInt64) (size : UInt8) (count : UInt32)
      (mappingSize : ℕ)
  | ioResponseForNonInput (vcpuId : UInt16) (direction : UInt8)
  | invalidIoResponseLength (vcpuId : UInt16) (port : UInt16) (expected actual : ℕ)
  | mmioPayloadUnavailable (vcpuId : UInt16) (exitReason : UInt32)
  | invalidMmioDirection (vcpuId : UInt16) (isWrite : UInt8)
  | invalidMmioLength (vcpuId : UInt16) (address : UInt64) (length : UInt32) (capacity : ℕ)
  | mmioResponseForWrite (vcpuId : UInt16) (address : UInt64)
  | invalidMmioResponseLength (vcpuId : UInt16) (address : UInt64) (expected actual : ℕ)
  | exitBudgetExhausted (vcpuId : UInt16) (budget completed : UInt32)
      (lastExitReason : Option UInt32) (exitReasons : List UInt32)
  | unexpectedSequence (stage : String) (expectedReason actualReason : UInt32)
  deriving DecidableEq, Repr

namespace VmExitError

/-- The trace of exit reasons that an error carries. -/
def trace? : VmExitError → Option (List UInt32)
  | unhandled _ _ _ _ exitReasons | kvmUnknownExit _ _ exitReasons
  | exception _ _ _ exitReasons | entryFailure _ _ _ exitReasons
  | internalError _ _ _ exitReasons | invalidInternalErrorDataCount _ _ _ _ exitReasons
  | unsupportedSystemEvent _ _ _ _ _ exitReasons | invalidSystemEventDataCount _ _ _ exitReasons
  | exitBudgetExhausted _ _ _ _ exitReasons => some exitReasons
  | _ => none

/-- The error says that the budget of exits is used up. -/
def IsBudgetExhausted : VmExitError → Prop
  | exitBudgetExhausted .. => True
  | _ => False

end VmExitError

/-! ### The mapping -/

/-- The offset of the union of payloads: the header, `cr8` and `apic_base` come before it. -/
def unionOffset : ℕ := 32

def kvmMmioDataCapacity : ℕ := 8

def kvmInternalErrorDataCapacity : ℕ := 16

def kvmSystemEventDataCapacity : ℕ := 16

/-- `required_kvm_run_prefix_size` (`src/vcpu.rs`, lines 380-388): the end of the largest payload,
by the sizes of the port, unknown, exception, failed entry, internal error, system event and MMIO
payloads. -/
def requiredKvmRunPrefixSize : ℕ :=
  unionOffset + ([16, 8, 8, 16, 8 + 8 * kvmInternalErrorDataCapacity,
    8 + 8 * kvmSystemEventDataCapacity, 24].foldl max 0)

/-- `KvmRunMapping`: the mapping has room for every payload. -/
structure KvmRunMapping where
  contents : ByteMap
  len : ℕ
  len_ge : requiredKvmRunPrefixSize ≤ len

/-- `KvmRunIo`: the payload of a port access. -/
structure KvmRunIo where
  direction : UInt8
  size : UInt8
  port : UInt16
  count : UInt32
  dataOffset : UInt64
  deriving DecidableEq, Repr

/-- `port_io_direction` (`src/vcpu.rs`, lines 314-323). -/
def portIoDirection (id : UInt16) (raw : UInt8) : Except VmExitError PortIoDirection :=
  if raw = 0 then .ok .in
  else if raw = 1 then .ok .out
  else .error (.invalidIoDirection id raw)

/-- `checked_io_data_range` (`src/vcpu.rs`, lines 325-351): the range of the data, by its start and
its length. -/
def checkedIoDataRange (id : UInt16) (io : KvmRunIo) (mappingSize : ℕ) :
    Except VmExitError (ℕ × ℕ) := do
  let invalidRange :=
    VmExitError.invalidIoDataRange id io.dataOffset io.size io.count mappingSize
  let offset := io.dataOffset.toNat
  let length := io.size.toNat * io.count.toNat
  rejectIf (2 ^ 64 ≤ length) invalidRange
  rejectIf (2 ^ 64 ≤ offset + length) invalidRange
  rejectIf (mappingSize < offset + length) invalidRange
  return (offset, length)

/-- `checked_io_response_range` (`src/vcpu.rs`, lines 353-378). -/
def checkedIoResponseRange (id : UInt16) (io : KvmRunIo) (mappingSize responseLen : ℕ) :
    Except VmExitError (ℕ × ℕ) := do
  let direction ← portIoDirection id io.direction
  rejectIf (direction ≠ .in) (.ioResponseForNonInput id io.direction)
  let range ← checkedIoDataRange id io mappingSize
  rejectIf (responseLen ≠ range.2) (.invalidIoResponseLength id io.port range.2 responseLen)
  return range

/-- `mmio_direction` (`src/vcpu/mmio.rs`, lines 168-177). -/
def mmioDirection (id : UInt16) (isWrite : UInt8) : Except VmExitError MmioDirection :=
  if isWrite = 0 then .ok .read
  else if isWrite = 1 then .ok .write
  else .error (.invalidMmioDirection id isWrite)

/-- `checked_mmio_length` (`src/vcpu/mmio.rs`, lines 179-197). -/
def checkedMmioLength (id : UInt16) (address : UInt64) (length : UInt32) :
    Except VmExitError ℕ := do
  rejectIf (length.toNat = 0 ∨ kvmMmioDataCapacity < length.toNat)
    (.invalidMmioLength id address length kvmMmioDataCapacity)
  return length.toNat

namespace KvmRunMapping

variable (run : KvmRunMapping)

/-! ### Fields -/

/-- The 16-bit word at an offset. -/
def u16At (offset : ℕ) : UInt16 := u16OfBytes (run.contents.read offset 2)

/-- The 32-bit word at an offset. -/
def u32At (offset : ℕ) : UInt32 := u32OfBytes (run.contents.read offset 4)

/-- The 64-bit word at an offset. -/
def u64At (offset : ℕ) : UInt64 := u64OfBytes (run.contents.read offset 8)

/-- The first `n` words of the array of 64-bit words at an offset. -/
def wordsAt (offset n : ℕ) : List UInt64 := (List.range n).map fun i => run.u64At (offset + 8 * i)

def exitReason : UInt32 := run.u32At 8

/-- The payload of a port access. -/
def io : KvmRunIo where
  direction := run.contents unionOffset
  size := run.contents (unionOffset + 1)
  port := run.u16At (unionOffset + 2)
  count := run.u32At (unionOffset + 4)
  dataOffset := run.u64At (unionOffset + 8)

/-- The offset of the data of an MMIO access. -/
def mmioDataOffset : ℕ := unionOffset + 8

/-! ### Decoders -/

/-- `KvmRunMapping::port_io_exit` (`src/vcpu.rs`, lines 434-471). -/
def portIoExit (id : UInt16) : Except VmExitError PortIoExit := do
  rejectIf (run.exitReason ≠ kvmExitIo) (.ioPayloadUnavailable id run.exitReason)
  let io := run.io
  let direction ← portIoDirection id io.direction
  let range ← checkedIoDataRange id io run.len
  let outputData := if direction = .out then run.contents.read range.1 range.2 else []
  return ⟨direction, io.size, io.port, io.count, outputData⟩

/-- `KvmRunMapping::mmio_exit` with `decode_mmio` (`src/vcpu/mmio.rs`, lines 107-121,
157-166). -/
def mmioExit (id : UInt16) : Except VmExitError MmioExit := do
  rejectIf (run.exitReason ≠ kvmExitMmio) (.mmioPayloadUnavailable id run.exitReason)
  let address := run.u64At unionOffset
  let rawLength := run.u32At (unionOffset + 16)
  let direction ← mmioDirection id (run.contents (unionOffset + 20))
  let length ← checkedMmioLength id address rawLength
  let writeData := if direction = .write then run.contents.read mmioDataOffset length else []
  return ⟨address, direction, rawLength, writeData⟩

/-- `KvmRunMapping::kvm_unknown_exit` (`src/vcpu/kvm_unknown.rs`, lines 45-61): the hardware exit
reason. -/
def kvmUnknownExit (id : UInt16) : Except VmExitError UInt64 := do
  rejectIf (run.exitReason ≠ kvmExitUnknown) (.kvmUnknownPayloadUnavailable id run.exitReason)
  return run.u64At unionOffset

/-- `KvmRunMapping::exception` (`src/vcpu/exception.rs`, lines 52-67): the exception and its error
code. -/
def exception (id : UInt16) : Except VmExitError (UInt32 × UInt32) := do
  rejectIf (run.exitReason ≠ kvmExitException) (.exceptionPayloadUnavailable id run.exitReason)
  return (run.u32At unionOffset, run.u32At (unionOffset + 4))

/-- `KvmRunMapping::fail_entry` (`src/vcpu/fail_entry.rs`, lines 53-68): the hardware reason and
the CPU. -/
def failEntry (id : UInt16) : Except VmExitError (UInt64 × UInt32) := do
  rejectIf (run.exitReason ≠ kvmExitFailEntry) (.failEntryPayloadUnavailable id run.exitReason)
  return (run.u64At unionOffset, run.u32At (unionOffset + 8))

/-- `KvmRunMapping::internal_error` with its two decoders (`src/vcpu/internal_error.rs`, lines
164-229): the suberror, and the data if the host supports it. -/
def internalError (id : UInt16) (supportsOptionalData : Bool) :
    Except VmExitError (UInt32 × Option (List UInt64)) := do
  rejectIf (run.exitReason ≠ kvmExitInternalError)
    (.internalErrorPayloadUnavailable id run.exitReason)
  let suberror := run.u32At unionOffset
  if ¬ supportsOptionalData then
    return (suberror, none)
  let ndata := run.u32At (unionOffset + 4)
  rejectIf (kvmInternalErrorDataCapacity < ndata.toNat)
    (.invalidInternalErrorDataCount id suberror ndata kvmInternalErrorDataCapacity
      [kvmExitInternalError])
  return (suberror, some (run.wordsAt (unionOffset + 8) ndata.toNat))

/-- `KvmRunMapping::system_event` with `decode_system_event` (`src/vcpu/system_event.rs`, lines
103-134): the raw type of the event and its data. -/
def systemEvent (id : UInt16) : Except VmExitError (UInt32 × List UInt64) := do
  rejectIf (run.exitReason ≠ kvmExitSystemEvent)
    (.systemEventPayloadUnavailable id run.exitReason)
  let ndata := run.u32At (unionOffset + 4)
  rejectIf (kvmSystemEventDataCapacity < ndata.toNat)
    (.invalidSystemEventDataCount id ndata kvmSystemEventDataCapacity [kvmExitSystemEvent])
  return (run.u32At unionOffset, run.wordsAt (unionOffset + 8) ndata.toNat)

/-! ### Answers -/

/-- The mapping with the bytes at an offset replaced. -/
def overwrite (offset : ℕ) (data : List UInt8) : KvmRunMapping :=
  { run with contents := run.contents.write offset data }

/-- `KvmRunMapping::write_port_io_input` (`src/vcpu.rs`, lines 473-498). -/
def writePortIoInput (id : UInt16) (response : List UInt8) :
    EStateM VmExitError KvmRunMapping Unit := do
  let range ← reads fun run : KvmRunMapping => do
    rejectIf (run.exitReason ≠ kvmExitIo) (.ioPayloadUnavailable id run.exitReason)
    checkedIoResponseRange id run.io run.len response.length
  if response.isEmpty then return ()
  modify fun run => run.overwrite range.1 response

/-- `KvmRunMapping::write_mmio_read_response` (`src/vcpu/mmio.rs`, lines 123-154). -/
def writeMmioReadResponse (id : UInt16) (response : List UInt8) :
    EStateM VmExitError KvmRunMapping Unit := do
  reads fun run : KvmRunMapping => do
    rejectIf (run.exitReason ≠ kvmExitMmio) (.mmioPayloadUnavailable id run.exitReason)
    let address := run.u64At unionOffset
    let direction ← mmioDirection id (run.contents (unionOffset + 20))
    rejectIf (direction ≠ .read) (.mmioResponseForWrite id address)
    let length ← checkedMmioLength id address (run.u32At (unionOffset + 16))
    rejectIf (response.length ≠ length)
      (.invalidMmioResponseLength id address length response.length)
  modify fun run => run.overwrite mmioDataOffset response

theorem writePortIoInput_keeps_len (id : UInt16) (response : List UInt8) :
    Keeps KvmRunMapping.len (writePortIoInput id response) := by
  refine (Keeps.reads _).bind fun range => Keeps.ite (Keeps.pure _) ?_
  exact Keeps.modify fun _ => rfl

theorem writeMmioReadResponse_keeps_len (id : UInt16) (response : List UInt8) :
    Keeps KvmRunMapping.len (writeMmioReadResponse id response) :=
  (Keeps.reads _).bind fun _ => Keeps.modify fun _ => rfl

/-! ### Errors of the decoders -/

section Refusals

variable {run} {id : UInt16}

theorem refuses_portIoDirection {raw : UInt8} :
    Refuses (¬ VmExitError.IsBudgetExhausted ·) (portIoDirection id raw) :=
  .ite (.pure _) (.ite (.pure _) (.error not_false))

theorem refuses_checkedIoDataRange {io : KvmRunIo} {mappingSize : ℕ} :
    Refuses (¬ VmExitError.IsBudgetExhausted ·) (checkedIoDataRange id io mappingSize) :=
  .guard not_false (.guard not_false (.guard not_false (.pure _)))

theorem refuses_mmioDirection {isWrite : UInt8} :
    Refuses (¬ VmExitError.IsBudgetExhausted ·) (mmioDirection id isWrite) :=
  .ite (.pure _) (.ite (.pure _) (.error not_false))

theorem refuses_checkedMmioLength {address : UInt64} {length : UInt32} :
    Refuses (¬ VmExitError.IsBudgetExhausted ·) (checkedMmioLength id address length) :=
  .guard not_false (.pure _)

theorem refuses_portIoExit :
    Refuses (¬ VmExitError.IsBudgetExhausted ·) (run.portIoExit id) :=
  .guard not_false (refuses_portIoDirection.bind fun _ =>
    refuses_checkedIoDataRange.bind fun _ => .pure _)

theorem refuses_mmioExit : Refuses (¬ VmExitError.IsBudgetExhausted ·) (run.mmioExit id) :=
  .guard not_false (refuses_mmioDirection.bind fun _ =>
    refuses_checkedMmioLength.bind fun _ => .pure _)

theorem refuses_kvmUnknownExit :
    Refuses (¬ VmExitError.IsBudgetExhausted ·) (run.kvmUnknownExit id) :=
  .guard not_false (.pure _)

theorem refuses_exception : Refuses (¬ VmExitError.IsBudgetExhausted ·) (run.exception id) :=
  .guard not_false (.pure _)

theorem refuses_failEntry : Refuses (¬ VmExitError.IsBudgetExhausted ·) (run.failEntry id) :=
  .guard not_false (.pure _)

theorem refuses_internalError {supportsOptionalData : Bool} :
    Refuses (¬ VmExitError.IsBudgetExhausted ·) (run.internalError id supportsOptionalData) := by
  refine .guard not_false ?_
  cases supportsOptionalData with
  | false => exact .pure _
  | true => exact .guard not_false (.pure _)

theorem refuses_systemEvent : Refuses (¬ VmExitError.IsBudgetExhausted ·) (run.systemEvent id) :=
  .guard not_false (.guard not_false (.pure _))

theorem throws_writePortIoInput {response : List UInt8} :
    Throws (¬ VmExitError.IsBudgetExhausted ·) (writePortIoInput id response) := by
  refine (Throws.reads fun run => ?_).bind fun range => ?_
  · exact .guard not_false (refuses_portIoDirection.bind fun _ => .guard not_false
      (refuses_checkedIoDataRange.bind fun _ => .guard not_false (.pure _)))
  · split_ifs
    · exact .pure _
    · exact .modify

theorem throws_writeMmioReadResponse {response : List UInt8} :
    Throws (¬ VmExitError.IsBudgetExhausted ·) (writeMmioReadResponse id response) := by
  refine (Throws.reads fun run => ?_).bind fun _ => .modify
  exact .guard not_false (refuses_mmioDirection.bind fun _ => .guard not_false
    (refuses_checkedMmioLength.bind fun _ => .rejectIf not_false))

end Refusals

end KvmRunMapping

end MiniHypervisor.Vcpu
