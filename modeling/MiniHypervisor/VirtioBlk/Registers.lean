import MiniHypervisor.Bytes.Slices
import MiniHypervisor.Control.Outcome

/-!
# The registers of the virtio devices

The block device (`src/pci/virtio_blk.rs`) and the entropy device (`src/pci/virtio.rs`) have the
same registers and the same status machine.  The guest negotiates features and configures the queue
through the common configuration registers, rings the notify register, and reads the interrupt
status, which clears it.  The devices differ in the features they accept, in the device
configuration and in their errors, which is what a `RegisterSpec` gives.

Line numbers are those of the block device, then those of the entropy device.
-/

namespace MiniHypervisor.VirtioBlk

open Bytes Control

/-! ### Constants -/

def virtioFVersion1 : UInt64 := (1 : UInt64) <<< 32

def virtioStatusAcknowledge : UInt8 := 1

def virtioStatusDriver : UInt8 := 2

def virtioStatusDriverOk : UInt8 := 4

def virtioStatusFeaturesOk : UInt8 := 8

def virtioStatusFailed : UInt8 := 0x80

def virtioStatusKnown : UInt8 :=
  virtioStatusAcknowledge ||| virtioStatusDriver ||| virtioStatusDriverOk |||
    virtioStatusFeaturesOk ||| virtioStatusFailed

def virtioQueueMaxSize : UInt16 := 8

def virtioIsrQueueInterrupt : UInt8 := 1

def virtioNotifyOffset : ℕ := 0x100

def replaceLowU32 (original : UInt64) (value : UInt32) : UInt64 :=
  (original &&& (0xffffffff00000000 : UInt64)) ||| value.toUInt64

def replaceHighU32 (original : UInt64) (value : UInt32) : UInt64 :=
  (original &&& (0x00000000ffffffff : UInt64)) ||| (value.toUInt64 <<< 32)

/-! ### Registers -/

/-- The registers of the BAR: the common configuration (`COMMON_*`), the notify register, the
interrupt status and the capacity in the device configuration. -/
inductive Register where
  | deviceFeatureSelect
  | deviceFeature
  | driverFeatureSelect
  | driverFeature
  | configMsixVector
  | numQueues
  | deviceStatus
  | configGeneration
  | queueSelect
  | queueSize
  | queueMsixVector
  | queueEnable
  | queueNotifyOff
  | queueDesc
  | queueDescHigh
  | queueDriver
  | queueDriverHigh
  | queueDevice
  | queueDeviceHigh
  | notify
  | isr
  | capacity
  deriving DecidableEq, Repr

namespace Register

/-- The offset and the width a register is accessed with. -/
def access : Register → ℕ × ℕ
  | deviceFeatureSelect => (0x00, 4)
  | deviceFeature => (0x04, 4)
  | driverFeatureSelect => (0x08, 4)
  | driverFeature => (0x0c, 4)
  | configMsixVector => (0x10, 2)
  | numQueues => (0x12, 2)
  | deviceStatus => (0x14, 1)
  | configGeneration => (0x15, 1)
  | queueSelect => (0x16, 2)
  | queueSize => (0x18, 2)
  | queueMsixVector => (0x1a, 2)
  | queueEnable => (0x1c, 2)
  | queueNotifyOff => (0x1e, 2)
  | queueDesc => (0x20, 4)
  | queueDescHigh => (0x24, 4)
  | queueDriver => (0x28, 4)
  | queueDriverHigh => (0x2c, 4)
  | queueDevice => (0x30, 4)
  | queueDeviceHigh => (0x34, 4)
  | notify => (virtioNotifyOffset, 2)
  | isr => (0x200, 1)
  | capacity => (0x300, 8)

/-- All registers. -/
def all : List Register :=
  [deviceFeatureSelect, deviceFeature, driverFeatureSelect, driverFeature, configMsixVector,
    numQueues, deviceStatus, configGeneration, queueSelect, queueSize, queueMsixVector,
    queueEnable, queueNotifyOff, queueDesc, queueDescHigh, queueDriver, queueDriverHigh,
    queueDevice, queueDeviceHigh, notify, isr, capacity]

/-- The register an access of the given offset and length names, if any. -/
def find? (offset length : ℕ) : Option Register := all.find? fun r => r.access == (offset, length)

theorem access_of_find? {offset length : ℕ} {register : Register}
    (h : find? offset length = some register) : register.access = (offset, length) := by
  simpa using List.find?_some h

end Register

/-! ### State -/

/-- The registers of a device, and the state of its queue. -/
@[ext] structure VirtioRegisters where
  deviceFeatureSelect : UInt32
  driverFeatureSelect : UInt32
  driverFeatures : UInt64
  status : UInt8
  queueSelect : UInt16
  queueSize : UInt16
  queueEnabled : Bool
  queueDesc : UInt64
  queueDriver : UInt64
  queueDevice : UInt64
  notifyPending : Bool
  lastAvailIdx : UInt16
  lastUsedIdx : UInt16
  isrStatus : UInt8
  deriving DecidableEq, Repr

/-- The registers of a new device, and what `reset` (lines 759-774 and 697-712) sets them to. -/
def VirtioRegisters.new : VirtioRegisters where
  deviceFeatureSelect := 0
  driverFeatureSelect := 0
  driverFeatures := 0
  status := 0
  queueSelect := 0
  queueSize := virtioQueueMaxSize
  queueEnabled := false
  queueDesc := 0
  queueDriver := 0
  queueDevice := 0
  notifyPending := false
  lastAvailIdx := 0
  lastUsedIdx := 0
  isrStatus := 0

/-- `driver_feature_word` (lines 622-628 and 555-561). -/
def VirtioRegisters.driverFeatureWord (registers : VirtioRegisters) : UInt32 :=
  if registers.driverFeatureSelect = 0 then registers.driverFeatures.toUInt32
  else if registers.driverFeatureSelect = 1 then (registers.driverFeatures >>> 32).toUInt32
  else 0

/-- What a device adds to its registers: the device features by their selector, the features it
accepts, the capacity in its device configuration if it has one, the index of its queue, and its
errors. -/
structure RegisterSpec (ε : Type) where
  deviceFeatureWord : UInt32 → UInt32
  featuresValid : UInt64 → Bool
  capacity : Option (List UInt8)
  queueIndex : UInt16
  unsupportedRegisterAccess : ℕ → ℕ → Bool → ε
  invalidDeviceStatus : UInt8 → UInt8 → ε
  unsupportedQueue : UInt16 → ε
  invalidQueueSize : UInt16 → UInt16 → ε
  queueConfigurationLocked : ε
  queueNotReady : ε
  unexpectedQueueNotification : UInt16 → ε

namespace RegisterSpec

variable {ε η : Type} (spec : RegisterSpec ε) (registers : VirtioRegisters)

/-- `ensure_selected_queue` (lines 728-736 and 666-673). -/
def ensureSelectedQueue : Except ε Unit :=
  rejectIf (registers.queueSelect ≠ spec.queueIndex) (spec.unsupportedQueue registers.queueSelect)

/-- `ensure_queue_unlocked` (lines 737-744 and 675-681). -/
def ensureQueueUnlocked : Except ε Unit := do
  spec.ensureSelectedQueue registers
  rejectIf registers.queueEnabled spec.queueConfigurationLocked

/-- `ensure_queue_ready` (lines 745-758 and 683-695). -/
def ensureQueueReady : Except ε Unit :=
  rejectIf (registers.status &&& virtioStatusDriverOk = 0 ∨
      registers.status &&& virtioStatusFeaturesOk = 0 ∨
      ¬ spec.featuresValid registers.driverFeatures ∨ ¬ registers.queueEnabled ∨
      registers.queueDesc = 0 ∨ registers.queueDriver = 0 ∨ registers.queueDevice = 0)
    spec.queueNotReady

/-- `selected_queue_size` (lines 721-727 and 658-664). -/
def selectedQueueSize : UInt16 :=
  if registers.queueSelect = spec.queueIndex then registers.queueSize else 0

/-! ### Register reads -/

/-- The value of a register, before any effect of reading it.  The notify register cannot be
read. -/
def registerValue : Register → Option (List UInt8)
  | .deviceFeatureSelect => some (u32Bytes registers.deviceFeatureSelect)
  | .deviceFeature => some (u32Bytes (spec.deviceFeatureWord registers.deviceFeatureSelect))
  | .driverFeatureSelect => some (u32Bytes registers.driverFeatureSelect)
  | .driverFeature => some (u32Bytes registers.driverFeatureWord)
  | .configMsixVector => some (u16Bytes 0xffff)
  | .numQueues => some (u16Bytes 1)
  | .deviceStatus => some [registers.status]
  | .configGeneration => some [0]
  | .queueSelect => some (u16Bytes registers.queueSelect)
  | .queueSize => some (u16Bytes (spec.selectedQueueSize registers))
  | .queueMsixVector => some (u16Bytes 0xffff)
  | .queueEnable => some (u16Bytes (if registers.queueEnabled then 1 else 0))
  | .queueNotifyOff => some (u16Bytes 0)
  | .queueDesc => some (u32Bytes registers.queueDesc.toUInt32)
  | .queueDescHigh => some (u32Bytes (registers.queueDesc >>> 32).toUInt32)
  | .queueDriver => some (u32Bytes registers.queueDriver.toUInt32)
  | .queueDriverHigh => some (u32Bytes (registers.queueDriver >>> 32).toUInt32)
  | .queueDevice => some (u32Bytes registers.queueDevice.toUInt32)
  | .queueDeviceHigh => some (u32Bytes (registers.queueDevice >>> 32).toUInt32)
  | .notify => none
  | .isr => some [registers.isrStatus]
  | .capacity => spec.capacity

/-- A read of the registers, with the effect of reading the interrupt status. -/
def read (offset length : ℕ) : EStateM ε VirtioRegisters (List UInt8) := do
  let bytes ← reads fun registers =>
    match (Register.find? offset length).bind (spec.registerValue registers) with
    | some bytes => .ok bytes
    | none => .error (spec.unsupportedRegisterAccess offset length false)
  if Register.find? offset length = some .isr then
    modify fun registers => { registers with isrStatus := 0 }
  return bytes

/-! ### Register writes -/

/-- `write_driver_feature_word` (lines 629-651 and 563-585). -/
def writeDriverFeatureWord (value : UInt32) : EStateM ε VirtioRegisters Unit := do
  let registers ← get
  let rejected := spec.invalidDeviceStatus registers.status registers.status
  if registers.status &&& virtioStatusFeaturesOk ≠ 0 then
    throw rejected
  else if registers.driverFeatureSelect = 0 then
    set { registers with driverFeatures := replaceLowU32 registers.driverFeatures value }
  else if registers.driverFeatureSelect = 1 then
    set { registers with driverFeatures := replaceHighU32 registers.driverFeatures value }
  else if value = 0 then
    return ()
  else
    throw rejected

/-- `write_status` (lines 656-697 and 587-628). -/
def writeStatus (requested : UInt8) : EStateM ε VirtioRegisters Unit := do
  let registers ← get
  let status := registers.status
  let rejected := spec.invalidDeviceStatus status requested
  let acknowledgedDriver := virtioStatusAcknowledge ||| virtioStatusDriver
  if requested = 0 then
    set VirtioRegisters.new
  else if requested &&& ~~~virtioStatusKnown ≠ 0 ∨ requested &&& status ≠ status then
    throw rejected
  else if requested &&& virtioStatusDriver ≠ 0 ∧ requested &&& virtioStatusAcknowledge = 0 then
    throw rejected
  else if requested &&& virtioStatusFeaturesOk ≠ 0 ∧
      requested &&& acknowledgedDriver ≠ acknowledgedDriver then
    throw rejected
  else if requested &&& virtioStatusFeaturesOk ≠ 0 ∧
      ¬ spec.featuresValid registers.driverFeatures then
    set { registers with status := requested &&& ~~~virtioStatusFeaturesOk }
  else if requested &&& virtioStatusDriverOk ≠ 0 ∧
      (requested &&& virtioStatusFeaturesOk = 0 ∨ ¬ registers.queueEnabled) then
    throw rejected
  else
    set { registers with status := requested }

/-- `write_queue_size` (lines 698-709 and 630-641). -/
def writeQueueSize (size : UInt16) : EStateM ε VirtioRegisters Unit := do
  reads spec.ensureSelectedQueue
  reads spec.ensureQueueUnlocked
  if size = 0 ∨ size > virtioQueueMaxSize ∨ ¬ size.toNat.isPowerOfTwo then
    throw (spec.invalidQueueSize size virtioQueueMaxSize)
  else
    modify fun registers => { registers with queueSize := size }

theorem queueSize_iff {size : UInt16} :
    ¬ (size = 0 ∨ size > virtioQueueMaxSize ∨ ¬ size.toNat.isPowerOfTwo) ↔
      ∃ k ≤ 3, size.toNat = 2 ^ k := by
  simp only [not_or, not_not, gt_iff_lt, UInt16.not_lt, UInt16.le_iff_toNat_le]
  constructor
  · rintro ⟨-, hle, k, hk⟩
    rw [hk] at hle
    exact ⟨k, (Nat.pow_le_pow_iff_right (by decide)).mp (show 2 ^ k ≤ 2 ^ 3 from hle), hk⟩
  · rintro ⟨k, hk, hsize⟩
    refine ⟨?_, ?_, k, hsize⟩
    · rintro rfl
      exact absurd hsize.symm (Nat.two_pow_pos k).ne'
    · rw [hsize]
      exact Nat.pow_le_pow_right (by decide) hk

/-- `write_queue_enable` (lines 710-720 and 643-656). -/
def writeQueueEnable (value : UInt16) : EStateM ε VirtioRegisters Unit := do
  reads spec.ensureSelectedQueue
  let registers ← get
  if value = 0 then
    set { registers with queueEnabled := false }
  else if value = 1 ∧ registers.queueDesc ≠ 0 ∧ registers.queueDriver ≠ 0 ∧
      registers.queueDevice ≠ 0 then
    set { registers with queueEnabled := true }
  else
    throw spec.queueNotReady

/-- The write of one half of a queue address, refused while the queue is enabled. -/
def writeQueueAddress (update : VirtioRegisters → VirtioRegisters) :
    EStateM ε VirtioRegisters Unit := do
  reads spec.ensureQueueUnlocked
  modify update

/-- The write of the notify register (lines 469-477 and 448-456). -/
def writeNotify (queue : UInt16) : EStateM ε VirtioRegisters Unit := do
  if queue ≠ spec.queueIndex then
    throw (spec.unexpectedQueueNotification queue)
  else
    reads spec.ensureQueueReady
    modify fun registers => { registers with notifyPending := true }

/-- The registers that can be written, with the value taken from a payload of their width. -/
def writeRegister (payload : List UInt8) (register : Register) :
    Option (EStateM ε VirtioRegisters Unit) :=
  let value16 := u16OfBytes payload
  let value32 := u32OfBytes payload
  match register with
  | .deviceFeatureSelect => some (modify fun r => { r with deviceFeatureSelect := value32 })
  | .driverFeatureSelect => some (modify fun r => { r with driverFeatureSelect := value32 })
  | .driverFeature => some (spec.writeDriverFeatureWord value32)
  | .deviceStatus => some (spec.writeStatus (payload.getD 0 0))
  | .queueSelect => some (modify fun r => { r with queueSelect := value16 })
  | .queueSize => some (spec.writeQueueSize value16)
  | .queueEnable => some (spec.writeQueueEnable value16)
  | .queueDesc => some (spec.writeQueueAddress fun r =>
      { r with queueDesc := replaceLowU32 r.queueDesc value32 })
  | .queueDescHigh => some (spec.writeQueueAddress fun r =>
      { r with queueDesc := replaceHighU32 r.queueDesc value32 })
  | .queueDriver => some (spec.writeQueueAddress fun r =>
      { r with queueDriver := replaceLowU32 r.queueDriver value32 })
  | .queueDriverHigh => some (spec.writeQueueAddress fun r =>
      { r with queueDriver := replaceHighU32 r.queueDriver value32 })
  | .queueDevice => some (spec.writeQueueAddress fun r =>
      { r with queueDevice := replaceLowU32 r.queueDevice value32 })
  | .queueDeviceHigh => some (spec.writeQueueAddress fun r =>
      { r with queueDevice := replaceHighU32 r.queueDevice value32 })
  | .notify => some (spec.writeNotify value16)
  | _ => none

/-- A write of the registers, with an event where it is one of the notify register.  The payload has
the width of the register, so its value is the word its bytes spell. -/
def write (notified : UInt16 → η) (offset : ℕ) (payload : List UInt8) :
    EStateM ε VirtioRegisters (Option η) :=
  let register := Register.find? offset payload.length
  match register.bind (spec.writeRegister payload) with
  | none => throw (spec.unsupportedRegisterAccess offset payload.length true)
  | some update => do
      update
      if register = some .notify then
        return some (notified (u16OfBytes payload))
      else
        return none

theorem run_write_notify {spec : RegisterSpec ε} {registers : VirtioRegisters}
    (h : spec.ensureQueueReady registers = .ok ()) (notified : UInt16 → η) :
    (spec.write notified virtioNotifyOffset (u16Bytes spec.queueIndex)).run registers =
      .ok (some (notified spec.queueIndex)) { registers with notifyPending := true } := by
  have hfind : Register.find? virtioNotifyOffset (u16Bytes spec.queueIndex).length =
      some .notify := rfl
  have hnotify : (spec.writeNotify spec.queueIndex).run registers =
      .ok () { registers with notifyPending := true } := by
    rw [writeNotify, if_neg (not_not.mpr rfl), run_bind_of_ok (run_reads_of_ok h)]
    rfl
  simp only [write, hfind, Option.bind_some, writeRegister, u16OfBytes_u16Bytes,
    run_bind_of_ok hnotify, if_pos]
  rfl

end RegisterSpec

end MiniHypervisor.VirtioBlk
