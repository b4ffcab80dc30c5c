import MiniHypervisor.Memory.GuestMemory
import MiniHypervisor.VirtioBlk.Device

/-!
# Serving a queue notification

`VirtioBlkDevice::process_notified_queue_atomic` (`src/pci/virtio_blk_write_readback.rs`) serves
one request of the guest.  It first reads and checks everything it needs: the available ring,
the descriptor chain, which may sit in an indirect table, the request header, the range of the
disk, and every guest range it is going to write.  Only then does it store an outgoing buffer in
the host file, write the guest ranges, update the disk and advance the queue.

The file operations of the host are a parameter, with any state and any outcomes.
-/

namespace MiniHypervisor.VirtioBlk

open Bytes Control Memory

/-! ### Errors, host files and state -/

/-- `VirtioBlkProcessError`, with the operation and the cause of a failed file access. -/
inductive VirtioBlkProcessError where
  | device (error : VirtioBlkError)
  | memory (error : GuestMemoryError)
  | backing (operation source : String)
  deriving DecidableEq, Repr

/-- The file operations of the host that a file-backed device uses, on a host state `H`. -/
structure HostFiles (H : Type) where
  File : Type
  openReadWrite : String → EStateM String H File
  seek : File → ℕ → EStateM String H Unit
  writeAll : File → List UInt8 → EStateM String H Unit
  syncAll : File → EStateM String H Unit

/-- The state a request is served in: the device, the guest memory and the host. -/
@[ext] structure BlkState (H : Type) where
  device : VirtioBlkDevice
  memory : GuestMemory
  host : H

structure VirtioBlkQueueCompletion where
  descriptorId : UInt32
  length : UInt32
  sector : UInt64
  deriving DecidableEq, Repr

variable {H : Type} {α : Type}

/-- An error of the device, as an error of the call. -/
def liftDevice (x : Except VirtioBlkError α) : Except VirtioBlkProcessError α :=
  x.mapError .device

/-- An error of the guest memory, as an error of the call. -/
def liftMemory (x : Except GuestMemoryError α) : Except VirtioBlkProcessError α :=
  x.mapError .memory

/-! ### Guest addresses and words -/

/-- `checked_add` (lines 822-825). -/
def checkedAdd (base : UInt64) (offset : ℕ) : Except VirtioBlkError ℕ := do
  rejectIf (2 ^ 64 ≤ base.toNat + offset) (.addressOverflow base.toNat offset)
  return base.toNat + offset

/-- `read_guest_u16` (lines 826-830). -/
def readGuestU16 (memory : GuestMemory) (address : ℕ) : Except GuestMemoryError UInt16 := do
  let bytes ← memory.read address 2
  return u16OfBytes bytes

structure Descriptor where
  address : UInt64
  length : UInt32
  flags : UInt16
  next : UInt16
  deriving DecidableEq, Repr

/-- The descriptor that sixteen bytes of a table describe. -/
def Descriptor.ofBytes (bytes : List UInt8) : Descriptor where
  address := u64OfBytes (slice bytes 0 8)
  length := u32OfBytes (slice bytes 8 4)
  flags := u16OfBytes (slice bytes 12 2)
  next := u16OfBytes (slice bytes 14 2)

def virtqDescFNext : UInt16 := 1

def virtqDescFWrite : UInt16 := 2

def virtqDescFIndirect : UInt16 := 4

def descriptorSize : UInt32 := 16

def minRequestDescriptors : UInt32 := 3

def maxIndirectDescriptors : UInt32 := 0x10000

def virtioBlkTIn : UInt32 := 0

def virtioBlkTOut : UInt32 := 1

def virtioBlkSOk : UInt8 := 0

namespace VirtioBlkDevice

variable (device : VirtioBlkDevice)

/-! ### Descriptor chains -/

/-- `ensure_descriptor_index` (lines 583-592). -/
def ensureDescriptorIndex (index : UInt16) : Except VirtioBlkError Unit :=
  rejectIf (index ≥ device.queueSize) (.descriptorIndexOutOfRange index device.queueSize)

/-- `require_flags` (lines 593-603). -/
def requireFlags (index actual expected : UInt16) : Except VirtioBlkError Unit :=
  rejectIf (actual ≠ expected) (.invalidDescriptorFlags index expected actual)

/-- `require_length` (lines 604-614). -/
def requireLength (index : UInt16) (length required : UInt32) : Except VirtioBlkError Unit :=
  rejectIf (length < required) (.descriptorTooSmall index length required)

/-- `read_descriptor` (lines 568-582). -/
def readDescriptor (memory : GuestMemory) (index : UInt16) :
    Except VirtioBlkProcessError Descriptor := do
  let address ← liftDevice (checkedAdd device.queueDesc (16 * index.toNat))
  let bytes ← liftMemory (memory.read address 16)
  return Descriptor.ofBytes bytes

/-- `read_indirect_descriptor` (`virtio_blk_indirect.rs`, lines 124-145). -/
def readIndirectDescriptor (memory : GuestMemory) (table : UInt64) (entries : UInt32)
    (index : UInt16) : Except VirtioBlkProcessError Descriptor := do
  liftDevice (rejectIf (entries ≤ index.toUInt32)
    (.indirectDescriptorIndexOutOfRange index entries))
  let address ← liftDevice (checkedAdd table (descriptorSize.toNat * index.toNat))
  let bytes ← liftMemory (memory.read address descriptorSize.toNat)
  return Descriptor.ofBytes bytes

/-- `reject_nested_indirect` (`virtio_blk_indirect.rs`, lines 147-153). -/
def rejectNestedIndirect (index flags : UInt16) : Except VirtioBlkError Unit :=
  rejectIf (flags &&& virtqDescFIndirect ≠ 0) (.nestedIndirectDescriptor index)

structure ResolvedRequestChain where
  header : Descriptor
  data : Descriptor
  dataIndex : UInt16
  status : Descriptor
  deriving DecidableEq, Repr

/-- `resolve_direct_request_chain` (`virtio_blk_indirect.rs`, lines 29-62). -/
def resolveDirectRequestChain (memory : GuestMemory) (head : UInt16) (header : Descriptor) :
    Except VirtioBlkProcessError ResolvedRequestChain := do
  liftDevice (requireFlags head header.flags virtqDescFNext)
  liftDevice (requireLength head header.length 16)
  let dataIndex := header.next
  liftDevice (device.ensureDescriptorIndex dataIndex)
  liftDevice (rejectIf (dataIndex = head) (.descriptorChainCycle dataIndex))
  let data ← device.readDescriptor memory dataIndex
  let statusIndex := data.next
  liftDevice (device.ensureDescriptorIndex statusIndex)
  liftDevice (rejectIf (statusIndex = head ∨ statusIndex = dataIndex)
    (.descriptorChainCycle statusIndex))
  let status ← device.readDescriptor memory statusIndex
  liftDevice (requireFlags statusIndex status.flags virtqDescFWrite)
  liftDevice (requireLength statusIndex status.length 1)
  return { header, data, dataIndex, status }

/-- `resolve_indirect_request_chain` (`virtio_blk_indirect.rs`, lines 64-122). -/
def resolveIndirectRequestChain (memory : GuestMemory) (head : UInt16) (outer : Descriptor) :
    Except VirtioBlkProcessError ResolvedRequestChain := do
  liftDevice (rejectIf (device.driverFeatures &&& virtioRingFIndirectDesc = 0)
    .indirectFeatureNotNegotiated)
  liftDevice (requireFlags head outer.flags virtqDescFIndirect)
  liftDevice (rejectIf (outer.length < minRequestDescriptors * descriptorSize ∨
      outer.length % descriptorSize ≠ 0)
    (.invalidIndirectTableLength outer.length descriptorSize))
  let entries := outer.length / descriptorSize
  liftDevice (rejectIf (maxIndirectDescriptors < entries)
    (.indirectTableTooLarge entries maxIndirectDescriptors))
  let header ← readIndirectDescriptor memory outer.address entries 0
  liftDevice (rejectNestedIndirect 0 header.flags)
  liftDevice (requireFlags 0 header.flags virtqDescFNext)
  liftDevice (requireLength 0 header.length 16)
  let dataIndex := header.next
  liftDevice (rejectIf (dataIndex = 0) (.descriptorChainCycle dataIndex))
  let data ← readIndirectDescriptor memory outer.address entries dataIndex
  liftDevice (rejectNestedIndirect dataIndex data.flags)
  let statusIndex := data.next
  liftDevice (rejectIf (statusIndex = 0 ∨ statusIndex = dataIndex)
    (.descriptorChainCycle statusIndex))
  let status ← readIndirectDescriptor memory outer.address entries statusIndex
  liftDevice (rejectNestedIndirect statusIndex status.flags)
  liftDevice (requireFlags statusIndex status.flags virtqDescFWrite)
  liftDevice (requireLength statusIndex status.length 1)
  return { header, data, dataIndex, status }

/-- `resolve_request_chain` (`virtio_blk_indirect.rs`, lines 16-27). -/
def resolveRequestChain (memory : GuestMemory) (head : UInt16) :
    Except VirtioBlkProcessError ResolvedRequestChain := do
  let outer ← device.readDescriptor memory head
  if outer.flags &&& virtqDescFIndirect ≠ 0 then
    device.resolveIndirectRequestChain memory head outer
  else
    device.resolveDirectRequestChain memory head outer

/-! ### Acceptance of a request -/

/-- `request_backing_range` (`virtio_blk_backing.rs`, lines 27-69): the first byte of the range,
whose length is the data length. -/
def requestBackingRange (sector : UInt64) (dataLength : UInt32) : Except VirtioBlkError ℕ := do
  rejectIf (dataLength = 0 ∨ dataLength.toNat % virtioBlkSectorSize ≠ 0)
    (.invalidDataLength dataLength virtioBlkSectorSize)
  rejectIf (virtioBlkCapacitySectors ≤ sector.toNat)
    (.sectorOutOfRange sector virtioBlkCapacitySectors)
  let start := sector.toNat * virtioBlkSectorSize
  rejectIf (2 ^ 64 ≤ start) (.requestRangeOutOfRange sector dataLength virtioBlkCapacitySectors)
  let stop := start + dataLength.toNat
  rejectIf (2 ^ 64 ≤ stop) (.requestRangeOutOfRange sector dataLength virtioBlkCapacitySectors)
  rejectIf (virtioBlkBackingSize < stop)
    (.requestRangeOutOfRange sector dataLength virtioBlkCapacitySectors)
  return start

/-- A request after every read and check succeeded. -/
structure AcceptedRequest where
  head : UInt16
  availIdx : UInt16
  requestType : UInt32
  sector : UInt64
  backingStart : ℕ
  data : Descriptor
  status : Descriptor
  usedIdxAddress : ℕ
  usedElement : ℕ
  outgoingData : Option (List UInt8)
  deriving DecidableEq, Repr

/-- `preflight_guest_output` (lines 168-171). -/
def preflightGuestOutput (memory : GuestMemory) (address length : ℕ) :
    Except GuestMemoryError Unit := do
  let _ ← memory.read address length

/-- The outgoing buffer of a write request; a read request only checks that its buffer can be
written (lines 111-119). -/
def readOutgoingData (memory : GuestMemory) (requestType : UInt32) (data : Descriptor) :
    Except GuestMemoryError (Option (List UInt8)) :=
  if requestType = virtioBlkTOut then do
    let bytes ← memory.read data.address.toNat data.length.toNat
    return some bytes
  else do
    preflightGuestOutput memory data.address.toNat data.length.toNat
    return none

/-- The reads, checks and preflights of `process_notified_queue_atomic` (lines 50-122). -/
def acceptRequest (memory : GuestMemory) : Except VirtioBlkProcessError AcceptedRequest := do
  liftDevice device.ensureQueueReady
  liftDevice (rejectIf (¬ device.notifyPending) .queueNotReady)
  let availIdxAddress ← liftDevice (checkedAdd device.queueDriver 2)
  let availIdx ← liftMemory (readGuestU16 memory availIdxAddress)
  let expectedAvail := device.lastAvailIdx + 1
  liftDevice (rejectIf (availIdx ≠ expectedAvail) (.unexpectedAvailIndex expectedAvail availIdx))
  let slot := device.lastAvailIdx % device.queueSize
  let headAddress ← liftDevice (checkedAdd device.queueDriver (4 + 2 * slot.toNat))
  let head ← liftMemory (readGuestU16 memory headAddress)
  liftDevice (device.ensureDescriptorIndex head)
  let chain ← device.resolveRequestChain memory head
  let request ← liftMemory (memory.read chain.header.address.toNat 16)
  let requestType := u32OfBytes (slice request 0 4)
  let reserved := u32OfBytes (slice request 4 4)
  let sector := u64OfBytes (slice request 8 8)
  liftDevice (rejectIf (requestType ≠ virtioBlkTIn ∧ requestType ≠ virtioBlkTOut)
    (.invalidRequestType requestType))
  liftDevice (rejectIf (reserved ≠ 0) (.invalidRequestReserved reserved))
  let backingStart ← liftDevice (requestBackingRange sector chain.data.length)
  let expectedDataFlags :=
    if requestType = virtioBlkTIn then virtqDescFNext ||| virtqDescFWrite else virtqDescFNext
  liftDevice (requireFlags chain.dataIndex chain.data.flags expectedDataFlags)
  let usedIdxAddress ← liftDevice (checkedAdd device.queueDevice 2)
  let usedIdx ← liftMemory (readGuestU16 memory usedIdxAddress)
  liftDevice (rejectIf (usedIdx ≠ device.lastUsedIdx)
    (.unexpectedUsedIndex device.lastUsedIdx usedIdx))
  let usedSlot := device.lastUsedIdx % device.queueSize
  let usedElement ← liftDevice (checkedAdd device.queueDevice (4 + 8 * usedSlot.toNat))
  let outgoingData ← liftMemory (readOutgoingData memory requestType chain.data)
  liftMemory (preflightGuestOutput memory chain.status.address.toNat 1)
  liftMemory (preflightGuestOutput memory usedElement 8)
  liftMemory (preflightGuestOutput memory usedIdxAddress 2)
  return {
    head
    availIdx
    requestType
    sector
    backingStart
    data := chain.data
    status := chain.status
    usedIdxAddress
    usedElement
    outgoingData }

end VirtioBlkDevice

/-! ### Completion of a request -/

/-- A computation on the host files, failing with the name of the operation. -/
def onHost (operation : String) (x : EStateM String H α) :
    EStateM VirtioBlkProcessError (BlkState H) α :=
  within BlkState.host (fun s host => { s with host }) (VirtioBlkProcessError.backing operation) x

/-- A write to the guest memory. -/
def writeGuest (address : ℕ) (source : List UInt8) :
    EStateM VirtioBlkProcessError (BlkState H) Unit :=
  within BlkState.memory (fun s memory => { s with memory }) VirtioBlkProcessError.memory
    (GuestMemory.write address source)

/-- `persist_backing_range` (`virtio_blk_file_backed.rs`, lines 126-159): nothing for a
memory-backed device. -/
def persistBackingRange (files : HostFiles H) (start length : ℕ) (bytes : List UInt8) :
    EStateM VirtioBlkProcessError (BlkState H) Unit := do
  match (← get).device.persistentBacking with
  | none => return ()
  | some path =>
      if virtioBlkBackingSize < start + length ∨ length ≠ bytes.length then
        throw (.backing "validate virtio-blk file write range"
          ("range " ++ toString start ++ ".." ++ toString (start + length) ++
            " does not match " ++ toString bytes.length ++ " bytes"))
      let file ← onHost "open virtio-blk file backing for write" (files.openReadWrite path)
      onHost "seek virtio-blk file backing" (files.seek file start)
      onHost "write virtio-blk file backing" (files.writeAll file bytes)
      onHost "sync virtio-blk file backing write" (files.syncAll file)

open VirtioBlkDevice

/-- The outgoing buffer of a write request, made durable before the guest sees its completion
(lines 124-131). -/
def persistOutgoingData (files : HostFiles H) (request : AcceptedRequest) :
    EStateM VirtioBlkProcessError (BlkState H) Unit :=
  match request.outgoingData with
  | some bytes =>
      persistBackingRange files request.backingStart request.data.length.toNat bytes
  | none => return ()

/-- The data buffer of a read request, filled from the disk, and the number of bytes written to
the guest (lines 133-141). -/
def writeIncomingData (request : AcceptedRequest) :
    EStateM VirtioBlkProcessError (BlkState H) UInt32 := do
  if request.requestType = virtioBlkTIn then
    let backing := (← get).device.backing
    writeGuest request.data.address.toNat
      (slice backing.1 request.backingStart request.data.length.toNat)
    return request.data.length + 1
  else
    return 1

/-- The device after a request was served (lines 153-159). -/
def VirtioBlkDevice.advance (device : VirtioBlkDevice) (request : AcceptedRequest) :
    VirtioBlkDevice :=
  { device with
    backing := match request.outgoingData with
      | some bytes => device.backing.splice request.backingStart bytes
      | none => device.backing
    lastAvailIdx := request.availIdx
    lastUsedIdx := device.lastUsedIdx + 1
    notifyPending := false
    isrStatus := device.isrStatus ||| virtioIsrQueueInterrupt }

/-- The effects of `process_notified_queue_atomic` on an accepted request (lines 124-164). -/
def completeRequest (files : HostFiles H) (request : AcceptedRequest) :
    EStateM VirtioBlkProcessError (BlkState H) VirtioBlkQueueCompletion := do
  persistOutgoingData files request
  let written ← writeIncomingData request
  writeGuest request.status.address.toNat [virtioBlkSOk]
  writeGuest request.usedElement (u32Bytes request.head.toUInt32 ++ u32Bytes written)
  let nextUsed := (← get).device.lastUsedIdx + 1
  writeGuest request.usedIdxAddress (u16Bytes nextUsed)
  modify fun s => { s with device := s.device.advance request }
  return { descriptorId := request.head.toUInt32, length := written, sector := request.sector }

/-- `process_notified_queue_atomic` (lines 46-165). -/
def processNotifiedQueueAtomic (files : HostFiles H) :
    EStateM VirtioBlkProcessError (BlkState H) VirtioBlkQueueCompletion := do
  let request ← reads fun s => s.device.acceptRequest s.memory
  completeRequest files request

/-! ### The path without preflights -/

/-- A read request after the reads and checks of `process_notified_queue`. -/
structure ReadRequest where
  head : UInt16
  availIdx : UInt16
  sector : UInt64
  backingStart : ℕ
  data : Descriptor
  status : Descriptor
  deriving DecidableEq, Repr

/-- The reads and checks of `process_notified_queue` (`virtio_blk.rs`, lines 492-540).  Only read
requests are served, and no guest range is preflighted. -/
def VirtioBlkDevice.acceptReadRequest (device : VirtioBlkDevice) (memory : GuestMemory) :
    Except VirtioBlkProcessError ReadRequest := do
  liftDevice device.ensureQueueReady
  liftDevice (rejectIf (¬ device.notifyPending) .queueNotReady)
  let availIdxAddress ← liftDevice (checkedAdd device.queueDriver 2)
  let availIdx ← liftMemory (readGuestU16 memory availIdxAddress)
  let expectedAvail := device.lastAvailIdx + 1
  liftDevice (rejectIf (availIdx ≠ expectedAvail) (.unexpectedAvailIndex expectedAvail availIdx))
  let slot := device.lastAvailIdx % device.queueSize
  let headAddress ← liftDevice (checkedAdd device.queueDriver (4 + 2 * slot.toNat))
  let head ← liftMemory (readGuestU16 memory headAddress)
  liftDevice (device.ensureDescriptorIndex head)
  let chain ← device.resolveRequestChain memory head
  liftDevice (requireFlags chain.dataIndex chain.data.flags (virtqDescFNext ||| virtqDescFWrite))
  liftDevice (requireLength chain.dataIndex chain.data.length (UInt32.ofNat virtioBlkSectorSize))
  let request ← liftMemory (memory.read chain.header.address.toNat 16)
  let requestType := u32OfBytes (slice request 0 4)
  let reserved := u32OfBytes (slice request 4 4)
  let sector := u64OfBytes (slice request 8 8)
  liftDevice (rejectIf (requestType ≠ virtioBlkTIn) (.invalidRequestType requestType))
  liftDevice (rejectIf (reserved ≠ 0) (.invalidRequestReserved reserved))
  let backingStart ← liftDevice (requestBackingRange sector chain.data.length)
  let usedIdxAddress ← liftDevice (checkedAdd device.queueDevice 2)
  let usedIdx ← liftMemory (readGuestU16 memory usedIdxAddress)
  liftDevice (rejectIf (usedIdx ≠ device.lastUsedIdx)
    (.unexpectedUsedIndex device.lastUsedIdx usedIdx))
  return { head, availIdx, sector, backingStart, data := chain.data, status := chain.status }

/-- The writes of `process_notified_queue` (`virtio_blk.rs`, lines 541-566): a write that fails
leaves the earlier ones in the guest memory. -/
def completeReadRequest (request : ReadRequest) :
    EStateM VirtioBlkProcessError (BlkState H) VirtioBlkQueueCompletion := do
  let device := (← get).device
  writeGuest request.data.address.toNat
    (slice device.backing.1 request.backingStart request.data.length.toNat)
  writeGuest request.status.address.toNat [virtioBlkSOk]
  let written := request.data.length + 1
  let usedSlot := device.lastUsedIdx % device.queueSize
  let usedElement ← reads fun _ =>
    liftDevice (checkedAdd device.queueDevice (4 + 8 * usedSlot.toNat))
  writeGuest usedElement (u32Bytes request.head.toUInt32 ++ u32Bytes written)
  let nextUsed := device.lastUsedIdx + 1
  let usedIdxAddress ← reads fun _ => liftDevice (checkedAdd device.queueDevice 2)
  writeGuest usedIdxAddress (u16Bytes nextUsed)
  modify fun s => { s with device := { s.device with
    lastAvailIdx := request.availIdx
    lastUsedIdx := nextUsed
    notifyPending := false
    isrStatus := s.device.isrStatus ||| virtioIsrQueueInterrupt } }
  return { descriptorId := request.head.toUInt32, length := written, sector := request.sector }

/-- `process_notified_queue` (`virtio_blk.rs`, lines 488-567). -/
def processNotifiedQueue : EStateM VirtioBlkProcessError (BlkState H) VirtioBlkQueueCompletion := do
  let request ← reads fun s => s.device.acceptReadRequest s.memory
  completeReadRequest request

/-! ### The device stays where it is -/

theorem writeGuest_keeps_device (address : ℕ) (source : List UInt8) :
    Keeps (BlkState.device (H := H)) (writeGuest address source) := .within fun _ _ => rfl

theorem persistOutgoingData_keeps_device (files : HostFiles H) (request : AcceptedRequest) :
    Keeps BlkState.device (persistOutgoingData files request) := by
  have hhost {α : Type} (operation : String) (x : EStateM String H α) :
      Keeps BlkState.device (onHost operation x) := .within fun _ _ => rfl
  unfold persistOutgoingData
  split
  · refine .bind (fun _ => rfl) fun s => ?_
    split
    · exact .pure _
    · refine .ite (.bind (.throw _) fun _ => ?_) ?_ <;>
        exact .bind (hhost _ _) fun _ => .bind (hhost _ _) fun _ => .bind (hhost _ _) fun _ =>
          hhost _ _
  · exact .pure _

theorem processNotifiedQueueAtomic_keeps_place (files : HostFiles H) :
    Keeps (fun s : BlkState H => s.device.place) (processNotifiedQueueAtomic files) := by
  have hplace {α : Type} {x : EStateM VirtioBlkProcessError (BlkState H) α}
      (h : Keeps BlkState.device x) : Keeps (fun s => s.device.place) x := h.comp place
  have hincoming (request : AcceptedRequest) :
      Keeps BlkState.device (writeIncomingData (H := H) request) :=
    .ite (.bind (fun _ => rfl) fun _ => .bind (writeGuest_keeps_device _ _) fun _ => .pure _)
      (.pure _)
  refine .bind (.reads _) fun request => ?_
  refine .bind (hplace (persistOutgoingData_keeps_device files request)) fun _ => ?_
  refine .bind (hplace (hincoming request)) fun _ => ?_
  refine .bind (hplace (writeGuest_keeps_device _ _)) fun _ => ?_
  refine .bind (hplace (writeGuest_keeps_device _ _)) fun _ => .bind (fun _ => rfl) fun _ => ?_
  refine .bind (hplace (writeGuest_keeps_device _ _)) fun _ => ?_
  exact .bind (.modify fun _ => rfl) fun _ => .pure _

theorem processNotifiedQueue_keeps_place :
    Keeps (fun s : BlkState H => s.device.place) processNotifiedQueue := by
  have hwrite (address : ℕ) (source : List UInt8) :
      Keeps (fun s : BlkState H => s.device.place) (writeGuest address source) :=
    (writeGuest_keeps_device address source).comp place
  refine .bind (.reads _) fun request => .bind (fun _ => rfl) fun _ => ?_
  refine .bind (hwrite _ _) fun _ => .bind (hwrite _ _) fun _ => .bind (.reads _) fun _ => ?_
  refine .bind (hwrite _ _) fun _ => .bind (.reads _) fun _ => .bind (hwrite _ _) fun _ => ?_
  exact .bind (.modify fun _ => rfl) fun _ => .pure _

theorem processNotifiedQueueAtomic_keeps_bar0 (files : HostFiles H) :
    Keeps (fun s : BlkState H => s.device.bar0) (processNotifiedQueueAtomic files) :=
  (processNotifiedQueueAtomic_keeps_place files).comp Prod.fst

theorem processNotifiedQueue_keeps_bar0 :
    Keeps (fun s : BlkState H => s.device.bar0) processNotifiedQueue :=
  processNotifiedQueue_keeps_place.comp Prod.fst

end MiniHypervisor.VirtioBlk
