import MiniHypervisor.VirtioBlk.Queue

/-!
# The virtio-rng device

The entropy device (`src/pci/virtio.rs`) shares its register file, its status machine and its ring
layout with the block device, but has no device configuration and negotiates exactly one feature.
A notification is served by filling one writable descriptor with a fixed payload.  Unlike the atomic
path of the block device, nothing is checked ahead: a failed write leaves the earlier ones in guest
memory.

## Main results

* `VirtioRngDevice.read_keeps_bar0`, `VirtioRngDevice.write_keeps_bar0`,
  `VirtioRng.processNotifiedQueue_keeps_bar0` : no operation moves the device.
-/

namespace MiniHypervisor.VirtioRng

open Bytes Control Memory

open VirtioBlk (Descriptor RegisterSpec VirtioRegisters readGuestU16 virtioFVersion1
  virtioIsrQueueInterrupt virtqDescFWrite)

def virtioRngQueueIndex : UInt16 := 0

def virtioRngTestPayload : List UInt8 := "RNGDATA!".toUTF8.toList

/-- `VirtioRngError` (lines 67-118). -/
inductive VirtioRngError where
  | unsupportedRegisterAccess (offset length : ℕ) (write : Bool)
  | invalidRegisterPayload (offset expected actual : ℕ)
  | invalidDeviceStatus (current requested : UInt8)
  | unsupportedQueue (queue : UInt16)
  | invalidQueueSize (size maximum : UInt16)
  | queueConfigurationLocked
  | queueNotReady
  | unexpectedQueueNotification (queue : UInt16)
  | unexpectedAvailIndex (expected actual : UInt16)
  | unexpectedUsedIndex (expected actual : UInt16)
  | descriptorIndexOutOfRange (index queueSize : UInt16)
  | unsupportedDescriptorFlags (flags : UInt16)
  | descriptorTooSmall (length required : UInt32)
  | addressOverflow (base offset : ℕ)
  deriving DecidableEq, Repr

inductive VirtioRngEvent where
  | queueNotified (queue : UInt16)
  deriving DecidableEq, Repr

/-- `VirtioRngDevice` (lines 298-315). -/
@[ext] structure VirtioRngDevice extends VirtioRegisters where
  bar0 : UInt64
  deriving DecidableEq, Repr

namespace VirtioRngDevice

variable (device : VirtioRngDevice)

/-- `VirtioRngDevice::new` (lines 318-336). -/
def new (bar0 : UInt64) : VirtioRngDevice := { VirtioRegisters.new with bar0 }

/-! ### Registers -/

/-- The features that the device accepts. -/
def featuresValid (features : UInt64) : Bool := features == virtioFVersion1

/-- `device_feature_word` (lines 548-553). -/
def deviceFeatureWord (select : UInt32) : UInt32 :=
  if select = 1 then (virtioFVersion1 >>> 32).toUInt32 else 0

/-- There is no device configuration, and so no capacity. -/
def registerSpec : RegisterSpec VirtioRngError where
  deviceFeatureWord := deviceFeatureWord
  featuresValid := featuresValid
  capacity := none
  queueIndex := virtioRngQueueIndex
  unsupportedRegisterAccess := .unsupportedRegisterAccess
  invalidDeviceStatus := .invalidDeviceStatus
  unsupportedQueue := .unsupportedQueue
  invalidQueueSize := .invalidQueueSize
  queueConfigurationLocked := .queueConfigurationLocked
  queueNotReady := .queueNotReady
  unexpectedQueueNotification := .unexpectedQueueNotification

/-- `ensure_queue_ready` (lines 683-695). -/
def ensureQueueReady : Except VirtioRngError Unit :=
  registerSpec.ensureQueueReady device.toVirtioRegisters

/-- Run a program on the registers of the device. -/
def onRegisters {α : Type} :
    EStateM VirtioRngError VirtioRegisters α → EStateM VirtioRngError VirtioRngDevice α :=
  within toVirtioRegisters (fun device registers => { device with toVirtioRegisters := registers })
    id

/-- `VirtioRngDevice::read` (lines 363-402). -/
def read (offset length : ℕ) : EStateM VirtioRngError VirtioRngDevice (List UInt8) :=
  onRegisters (registerSpec.read offset length)

/-- `VirtioRngDevice::write` (lines 404-466). -/
def write (offset : ℕ) (payload : List UInt8) :
    EStateM VirtioRngError VirtioRngDevice (Option VirtioRngEvent) :=
  onRegisters (registerSpec.write .queueNotified offset payload)

theorem read_keeps_bar0 (offset length : ℕ) : Keeps bar0 (read offset length) :=
  .within fun _ _ => rfl

theorem write_keeps_bar0 (offset : ℕ) (payload : List UInt8) :
    Keeps bar0 (write offset payload) :=
  .within fun _ _ => rfl

end VirtioRngDevice

/-! ### Serving a notification -/

inductive VirtioRngProcessError where
  | device (error : VirtioRngError)
  | memory (error : GuestMemoryError)
  deriving DecidableEq, Repr

structure VirtioRngQueueCompletion where
  descriptorId : UInt32
  length : UInt32
  deriving DecidableEq, Repr

/-- The state a notification is served in: the device and the guest memory. -/
structure RngState where
  device : VirtioRngDevice
  memory : GuestMemory

/-- `checked_add` (lines 747-750). -/
def checkedAdd (base : UInt64) (offset : ℕ) : Except VirtioRngProcessError ℕ := do
  rejectIf (2 ^ 64 ≤ base.toNat + offset) (.device (.addressOverflow base.toNat offset))
  return base.toNat + offset

/-- A notification that can be served, as read from the rings. -/
structure AcceptedNotification where
  head : UInt16
  availIdx : UInt16
  buffer : UInt64
  deriving DecidableEq, Repr

/-- The reads and checks of `process_notified_queue` (lines 472-522), which change nothing. -/
def acceptNotification (s : RngState) : Except VirtioRngProcessError AcceptedNotification := do
  let device := s.device
  device.ensureQueueReady.mapError .device
  rejectIf (¬ device.notifyPending) (.device .queueNotReady)
  let availIdxAddress ← checkedAdd device.queueDriver 2
  let availIdx ← (readGuestU16 s.memory availIdxAddress).mapError .memory
  let expectedAvail := device.lastAvailIdx + 1
  rejectIf (availIdx ≠ expectedAvail) (.device (.unexpectedAvailIndex expectedAvail availIdx))
  let slot := device.lastAvailIdx % device.queueSize
  let headAddress ← checkedAdd device.queueDriver (4 + 2 * slot.toNat)
  let head ← (readGuestU16 s.memory headAddress).mapError .memory
  rejectIf (head ≥ device.queueSize) (.device (.descriptorIndexOutOfRange head device.queueSize))
  let descriptorAddress ← checkedAdd device.queueDesc (16 * head.toNat)
  let bytes ← (s.memory.read descriptorAddress 16).mapError .memory
  let descriptor := Descriptor.ofBytes bytes
  rejectIf (descriptor.flags ≠ virtqDescFWrite)
    (.device (.unsupportedDescriptorFlags descriptor.flags))
  let required := UInt32.ofNat virtioRngTestPayload.length
  rejectIf (descriptor.length < required) (.device (.descriptorTooSmall descriptor.length required))
  let usedIdxAddress ← checkedAdd device.queueDevice 2
  let usedIdx ← (readGuestU16 s.memory usedIdxAddress).mapError .memory
  rejectIf (usedIdx ≠ device.lastUsedIdx)
    (.device (.unexpectedUsedIndex device.lastUsedIdx usedIdx))
  return { head, availIdx, buffer := descriptor.address }

/-- A write to the guest memory. -/
def writeGuest (address : ℕ) (source : List UInt8) : EStateM VirtioRngProcessError RngState Unit :=
  within RngState.memory (fun s memory => { s with memory }) VirtioRngProcessError.memory
    (GuestMemory.write address source)

/-- The writes of `process_notified_queue` (lines 524-546).  The address of the used element is
computed only after the payload is written. -/
def completeNotification (notification : AcceptedNotification) :
    EStateM VirtioRngProcessError RngState VirtioRngQueueCompletion := do
  let required := UInt32.ofNat virtioRngTestPayload.length
  writeGuest notification.buffer.toNat virtioRngTestPayload
  let device := (← get).device
  let usedSlot := device.lastUsedIdx % device.queueSize
  let usedElement ← reads fun s => checkedAdd s.device.queueDevice (4 + 8 * usedSlot.toNat)
  writeGuest usedElement (u32Bytes notification.head.toUInt32 ++ u32Bytes required)
  let nextUsed := device.lastUsedIdx + 1
  let usedIdxAddress ← reads fun s => checkedAdd s.device.queueDevice 2
  writeGuest usedIdxAddress (u16Bytes nextUsed)
  modify fun s => { s with device := { s.device with
    lastAvailIdx := notification.availIdx
    lastUsedIdx := nextUsed
    notifyPending := false
    isrStatus := s.device.isrStatus ||| virtioIsrQueueInterrupt } }
  return { descriptorId := notification.head.toUInt32, length := required }

/-- `VirtioRngDevice::process_notified_queue` (lines 468-546). -/
def processNotifiedQueue : EStateM VirtioRngProcessError RngState VirtioRngQueueCompletion := do
  let notification ← reads acceptNotification
  completeNotification notification

theorem writeGuest_keeps_device (address : ℕ) (source : List UInt8) :
    Keeps RngState.device (writeGuest address source) := .within fun _ _ => rfl

theorem processNotifiedQueue_keeps_bar0 :
    Keeps (fun s : RngState => s.device.bar0) processNotifiedQueue := by
  have hwrite : ∀ address source,
      Keeps (fun s : RngState => s.device.bar0) (writeGuest address source) :=
    fun address source => (writeGuest_keeps_device address source).comp VirtioRngDevice.bar0
  refine .bind (.reads _) fun notification => .bind (hwrite _ _) fun _ => ?_
  refine .bind (fun _ => rfl) fun _ => .bind (.reads _) fun _ => .bind (hwrite _ _) fun _ => ?_
  exact .bind (.reads _) fun _ => .bind (hwrite _ _) fun _ =>
    .bind (.modify fun _ => rfl) fun _ => .pure _

end MiniHypervisor.VirtioRng
