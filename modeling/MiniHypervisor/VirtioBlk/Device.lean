import MiniHypervisor.VirtioBlk.Registers

/-!
# The virtio-blk device

The block device (`src/pci/virtio_blk.rs`) has one request queue and a disk of four sectors, which
may be stored in a host file.  No register reaches the backing: a reset clears every register but
keeps the disk and its host file.

## Main results

* `VirtioBlkDevice.read_keeps_identity`, `VirtioBlkDevice.write_keeps_identity` : register accesses
  keep the BAR, the disk and where it is stored.
-/

namespace MiniHypervisor.VirtioBlk

open Bytes Control

/-! ### Constants -/

def virtioRingFIndirectDesc : UInt64 := (1 : UInt64) <<< 28

def virtioBlkSupportedFeatures : UInt64 := virtioFVersion1 ||| virtioRingFIndirectDesc

def virtioBlkQueueIndex : UInt16 := 0

def virtioBlkSectorSize : ℕ := 512

def virtioBlkCapacitySectors : ℕ := 4

def virtioBlkBackingSize : ℕ := virtioBlkSectorSize * virtioBlkCapacitySectors

/-! ### Errors and events -/

/-- `VirtioBlkError` (lines 84-175). -/
inductive VirtioBlkError where
  | unsupportedRegisterAccess (offset length : ℕ) (write : Bool)
  | invalidRegisterPayload (offset expected actual : ℕ)
  | invalidDeviceStatus (current requested : UInt8)
  | unsupportedQueue (queue : UInt16)
  | invalidQueueSize (size maximum : UInt16)
  | queueConfigurationLocked
  | queueNotReady
  | unexpectedQueueNotification (queue : UInt16)
  | unexpectedAvailIndex (expected actual : UInt16)
  | unexpectedUsedIndex (expected actual : UInt16)
  | descriptorIndexOutOfRange (index queueSize : UInt16)
  | invalidDescriptorFlags (index expected actual : UInt16)
  | descriptorTooSmall (index : UInt16) (length required : UInt32)
  | descriptorChainCycle (index : UInt16)
  | indirectFeatureNotNegotiated
  | invalidIndirectTableLength (length descriptorSize : UInt32)
  | indirectTableTooLarge (entries maximum : UInt32)
  | indirectDescriptorIndexOutOfRange (index : UInt16) (entries : UInt32)
  | nestedIndirectDescriptor (index : UInt16)
  | invalidRequestType (requestType : UInt32)
  | invalidRequestReserved (reserved : UInt32)
  | sectorOutOfRange (sector : UInt64) (capacity : ℕ)
  | invalidDataLength (length : UInt32) (sectorSize : ℕ)
  | requestRangeOutOfRange (sector : UInt64) (dataLength : UInt32) (capacity : ℕ)
  | addressOverflow (base offset : ℕ)
  deriving DecidableEq, Repr

inductive VirtioBlkEvent where
  | queueNotified (queue : UInt16)
  deriving DecidableEq, Repr

/-! ### State -/

/-- `VirtioBlkDevice` (lines 322-340).  A memory-backed device has no persistent backing; a
file-backed one names its host file. -/
@[ext] structure VirtioBlkDevice extends VirtioRegisters where
  bar0 : UInt64
  backing : FixedBytes virtioBlkBackingSize
  persistentBacking : Option String
  deriving DecidableEq, Repr

/-- `deterministic_sector` (lines 785-793). -/
def deterministicSector : FixedBytes virtioBlkSectorSize :=
  let bytes : FixedBytes virtioBlkSectorSize :=
    ⟨(List.range virtioBlkSectorSize).map fun index => UInt8.ofNat index * 17 + 3, by simp⟩
  (bytes.splice 0 "BLK-SECTOR-0000!".toUTF8.toList).splice (virtioBlkSectorSize - 8)
    "BLKEND!!".toUTF8.toList

/-- `deterministic_backing` (`virtio_blk_backing.rs`, lines 8-24). -/
def deterministicBacking : FixedBytes virtioBlkBackingSize :=
  ⟨deterministicSector.1 ++ (List.range (3 * virtioBlkSectorSize)).map fun offset =>
      let sector := offset / virtioBlkSectorSize + 1
      let index := offset % virtioBlkSectorSize
      UInt8.ofNat index * 17 + 3 + UInt8.ofNat sector * 41, by
    rw [List.length_append, deterministicSector.2, List.length_map, List.length_range]
    rfl⟩

namespace VirtioBlkDevice

variable (device : VirtioBlkDevice)

/-- `VirtioBlkDevice::new` (lines 344-364). -/
def new (bar0 : UInt64) : VirtioBlkDevice :=
  { VirtioRegisters.new with bar0, backing := deterministicBacking, persistentBacking := none }

/-! ### Registers -/

/-- The features that `negotiated_features_valid` (lines 652-655) accepts. -/
def featuresValid (features : UInt64) : Bool :=
  features &&& virtioFVersion1 == virtioFVersion1 &&
    features &&& ~~~virtioBlkSupportedFeatures == 0

/-- `device_feature_word` (lines 615-621). -/
def deviceFeatureWord (select : UInt32) : UInt32 :=
  if select = 0 then virtioBlkSupportedFeatures.toUInt32
  else if select = 1 then (virtioBlkSupportedFeatures >>> 32).toUInt32
  else 0

/-- The registers have a capacity, and two features can be negotiated. -/
def registerSpec : RegisterSpec VirtioBlkError where
  deviceFeatureWord := deviceFeatureWord
  featuresValid := featuresValid
  capacity := some (u64Bytes (UInt64.ofNat virtioBlkCapacitySectors))
  queueIndex := virtioBlkQueueIndex
  unsupportedRegisterAccess := .unsupportedRegisterAccess
  invalidDeviceStatus := .invalidDeviceStatus
  unsupportedQueue := .unsupportedQueue
  invalidQueueSize := .invalidQueueSize
  queueConfigurationLocked := .queueConfigurationLocked
  queueNotReady := .queueNotReady
  unexpectedQueueNotification := .unexpectedQueueNotification

/-- `ensure_queue_ready` (lines 745-758). -/
def ensureQueueReady : Except VirtioBlkError Unit :=
  registerSpec.ensureQueueReady device.toVirtioRegisters

/-- Run a program on the registers of the device. -/
def onRegisters {α : Type} :
    EStateM VirtioBlkError VirtioRegisters α → EStateM VirtioBlkError VirtioBlkDevice α :=
  within toVirtioRegisters (fun device registers => { device with toVirtioRegisters := registers })
    id

/-- `VirtioBlkDevice::read` (lines 385-425). -/
def read (offset length : ℕ) : EStateM VirtioBlkError VirtioBlkDevice (List UInt8) :=
  onRegisters (registerSpec.read offset length)

/-- `VirtioBlkDevice::write` (lines 426-487). -/
def write (offset : ℕ) (payload : List UInt8) :
    EStateM VirtioBlkError VirtioBlkDevice (Option VirtioBlkEvent) :=
  onRegisters (registerSpec.write .queueNotified offset payload)

theorem run_write_notify {d : VirtioBlkDevice} (h : d.ensureQueueReady = .ok ()) :
    (write virtioNotifyOffset (u16Bytes virtioBlkQueueIndex)).run d =
      .ok (some (.queueNotified virtioBlkQueueIndex)) { d with notifyPending := true } :=
  run_within_of_ok (s := d) (registerSpec.run_write_notify h _)

/-! ### Registers and the disk -/

/-- The disk of the device and the host file it is stored in, if any. -/
def disk (d : VirtioBlkDevice) : FixedBytes virtioBlkBackingSize × Option String :=
  (d.backing, d.persistentBacking)

/-- What no register access changes: where the device is and its disk. -/
def identity (d : VirtioBlkDevice) :
    UInt64 × FixedBytes virtioBlkBackingSize × Option String :=
  (d.bar0, d.disk)

/-- Where the device and its disk are, which nothing changes. -/
def place (d : VirtioBlkDevice) : UInt64 × Option String := (d.bar0, d.persistentBacking)

theorem onRegisters_keeps_identity {α : Type} (x : EStateM VirtioBlkError VirtioRegisters α) :
    Keeps identity (onRegisters x) :=
  .within fun _ _ => rfl

theorem read_keeps_identity (offset length : ℕ) : Keeps identity (read offset length) :=
  onRegisters_keeps_identity _

theorem write_keeps_identity (offset : ℕ) (payload : List UInt8) :
    Keeps identity (write offset payload) :=
  onRegisters_keeps_identity _

theorem read_keeps_disk (offset length : ℕ) : Keeps disk (read offset length) :=
  (read_keeps_identity offset length).comp Prod.snd

theorem write_keeps_disk (offset : ℕ) (payload : List UInt8) : Keeps disk (write offset payload) :=
  (write_keeps_identity offset payload).comp Prod.snd

theorem read_keeps_place (offset length : ℕ) : Keeps place (read offset length) :=
  (read_keeps_identity offset length).comp fun d => (d.1, d.2.2)

theorem write_keeps_place (offset : ℕ) (payload : List UInt8) :
    Keeps place (write offset payload) :=
  (write_keeps_identity offset payload).comp fun d => (d.1, d.2.2)

end VirtioBlkDevice

end MiniHypervisor.VirtioBlk
