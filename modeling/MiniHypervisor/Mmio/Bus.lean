import MiniHypervisor.Control.Keyed
import MiniHypervisor.Kvm.HostRegistration
import MiniHypervisor.Mmio.ByteDevice
import MiniHypervisor.VirtioBlk.Checkpoint
import MiniHypervisor.VirtioRng.Device

/-!
# The MMIO bus

The bus (`src/mmio.rs`) owns the byte devices, the virtio-rng devices and the virtio-blk devices,
each in its own list, and the queue of virtio events.  A registration is refused when its range
overflows or overlaps a registered one.  An access of the guest goes to the first device whose range
has the address; the host reaches a virtio device through its BAR.
-/

namespace MiniHypervisor.Mmio

open Bytes Control Kvm Memory VirtioRng VirtioBlk

def byteDeviceAddress : UInt64 := 0x2000

def virtioRngBarSize : ℕ := 0x1000

/-- `MmioBus` (lines 112-118). -/
@[ext] structure MmioBus where
  byteDevices : List ByteMmioDevice
  virtioRngDevices : List VirtioRngDevice
  virtioBlkDevices : List VirtioBlkDevice
  virtioEvents : List MmioDeviceEventRecord
  deriving DecidableEq, Repr

inductive MmioRegistrationError where
  | addressRangeOverflow (address size : UInt64)
  | addressRangeOverlap (address size existingAddress existingSize : UInt64)
  deriving DecidableEq, Repr

/-- The errors of an access: `Error::Mmio`, or `Error::HostEnvironment` with the operation and the
error of the device or of the host as its source. -/
inductive BusError where
  | mmio (error : MmioError)
  | virtioRng (operation : String) (error : VirtioRngError)
  | virtioBlk (operation : String) (error : VirtioBlkError)
  | hostEnvironment (error : HostEnvironmentError)
  deriving DecidableEq, Repr

/-- `virtio_rng_mmio_error` (lines 526-531). -/
def virtioRngMmioError : VirtioRngError → BusError :=
  .virtioRng "service virtio-rng MMIO device model"

/-- `virtio_blk_mmio_error` (lines 533-538). -/
def virtioBlkMmioError : VirtioBlkError → BusError :=
  .virtioBlk "service virtio-blk MMIO device model"

/-- The range of a virtio-rng device with the given BAR. -/
def virtioRngRange (bar0 : UInt64) : UInt64 × UInt64 := (bar0, UInt64.ofNat virtioRngBarSize)

/-- The range of a virtio-blk device with the given BAR. -/
def virtioBlkRange (bar0 : UInt64) : UInt64 × UInt64 := (bar0, UInt64.ofNat virtioBlkBarSize)

/-- `virtio_rng_handles` (lines 462-467). -/
def virtioRngHandles (device : VirtioRngDevice) (address : UInt64) : Bool :=
  rangeHandles (virtioRngRange device.bar0) address

/-- `virtio_blk_handles` (lines 469-474). -/
def virtioBlkHandles (device : VirtioBlkDevice) (address : UInt64) : Bool :=
  rangeHandles (virtioBlkRange device.bar0) address

namespace MmioBus

variable (bus : MmioBus)

/-! ### Construction and registration -/

/-- `MmioBus::empty` (lines 122-129). -/
def empty : MmioBus where
  byteDevices := []
  virtioRngDevices := []
  virtioBlkDevices := []
  virtioEvents := []

/-- `MmioBus::with_byte_device_at` (lines 137-148). -/
def withByteDeviceAt (address : UInt64) (readValue : UInt8) : MmioBus :=
  { empty with byteDevices := [.new address readValue .plain] }

/-- `MmioBus::with_byte_device` (lines 132-134). -/
def withByteDevice (readValue : UInt8) : MmioBus := withByteDeviceAt byteDeviceAddress readValue

/-- `MmioBus::with_interrupting_byte_device_at` (lines 151-162). -/
def withInterruptingByteDeviceAt (address : UInt64) (readValue : UInt8) : MmioBus :=
  { empty with byteDevices := [.new address readValue .edgeInterrupt] }

/-- `MmioBus::with_level_interrupt_byte_device_at` (lines 165-176). -/
def withLevelInterruptByteDeviceAt (address : UInt64) : MmioBus :=
  { empty with byteDevices := [.new address 0 .levelInterrupt] }

/-- `registered_ranges` (lines 445-459). -/
def registeredRanges : List (UInt64 × UInt64) :=
  bus.byteDevices.map ByteMmioDevice.addressRange ++
    bus.virtioRngDevices.map (fun device => virtioRngRange device.bar0) ++
    bus.virtioBlkDevices.map (fun device => virtioBlkRange device.bar0)

/-- The ranges overlap, as the registration tests it. -/
def RangesOverlap (range existing : UInt64 × UInt64) : Prop :=
  range.1.toNat < existing.1.toNat + existing.2.toNat ∧
    existing.1.toNat < range.1.toNat + range.2.toNat

instance (range existing : UInt64 × UInt64) : Decidable (RangesOverlap range existing) :=
  inferInstanceAs (Decidable (_ ∧ _))

/-- `ensure_range_available` (lines 421-443). -/
def ensureRangeAvailable (range : UInt64 × UInt64) : Except MmioRegistrationError Unit := do
  rejectIf (¬ RangeFits range) (.addressRangeOverflow range.1 range.2)
  bus.registeredRanges.forM fun existing => do
    rejectIf (¬ RangeFits existing) (.addressRangeOverflow existing.1 existing.2)
    rejectIf (RangesOverlap range existing)
      (.addressRangeOverlap range.1 range.2 existing.1 existing.2)

/-- `register_device` (lines 414-419). -/
def registerDevice (device : ByteMmioDevice) : EStateM MmioRegistrationError MmioBus Unit := do
  reads fun bus => bus.ensureRangeAvailable device.addressRange
  modify fun bus => { bus with byteDevices := bus.byteDevices ++ [device] }

/-- `MmioBus::register_byte_device_at` (lines 178-188). -/
def registerByteDeviceAt (address : UInt64) (readValue : UInt8) :
    EStateM MmioRegistrationError MmioBus Unit := registerDevice (.new address readValue .plain)

/-- `MmioBus::register_level_interrupt_byte_device_at` (lines 190-199). -/
def registerLevelInterruptByteDeviceAt (address : UInt64) :
    EStateM MmioRegistrationError MmioBus Unit := registerDevice (.new address 0 .levelInterrupt)

/-- `MmioBus::register_virtio_rng_device_at` (lines 201-209). -/
def registerVirtioRngDeviceAt (address : UInt64) : EStateM MmioRegistrationError MmioBus Unit := do
  reads fun bus => bus.ensureRangeAvailable (virtioRngRange address)
  modify fun bus => { bus with virtioRngDevices := bus.virtioRngDevices ++ [.new address] }

/-- `MmioBus::register_virtio_blk_device_at` (lines 211-219). -/
def registerVirtioBlkDeviceAt (address : UInt64) : EStateM MmioRegistrationError MmioBus Unit := do
  reads fun bus => bus.ensureRangeAvailable (virtioBlkRange address)
  modify fun bus => { bus with virtioBlkDevices := bus.virtioBlkDevices ++ [.new address] }

/-! ### The first device that matches -/

section OnDevice

variable {ε D η β : Type}

/-- The devices of one kind on the bus, and how the bus reports their errors. -/
structure DeviceList (ε D : Type) where
  devices : MmioBus → List D
  update : MmioBus → List D → MmioBus
  report : ε → BusError

/-- Borrow the first device of the kind that satisfies `p`. -/
def DeviceList.onDevice (list : DeviceList ε D) (p : D → Bool) (f : EStateM ε D β) :
    EStateM BusError MmioBus (Option β) :=
  within (fun bus => (list.devices bus, ())) (fun bus t => list.update bus t.1) list.report
    (onFirst p (alone f))

def byteList : DeviceList MmioError ByteMmioDevice :=
  ⟨byteDevices, fun bus l => { bus with byteDevices := l }, .mmio⟩

def virtioRngList : DeviceList VirtioRngError VirtioRngDevice :=
  ⟨virtioRngDevices, fun bus l => { bus with virtioRngDevices := l }, virtioRngMmioError⟩

def virtioBlkList : DeviceList VirtioBlkError VirtioBlkDevice :=
  ⟨virtioBlkDevices, fun bus l => { bus with virtioBlkDevices := l }, virtioBlkMmioError⟩

/-! ### Accesses of the guest -/

/-- An access to a virtio device, with the record of its event, which the bus makes from the BAR of
the device and the notified queue. -/
def dispatchVirtio (bar0 : D → UInt64) (read : ℕ → ℕ → EStateM ε D (List UInt8))
    (write : ℕ → List UInt8 → EStateM ε D (Option η)) (queue : η → UInt16) (exit : MmioExit) :
    EStateM ε D (MmioService × Option MmioDeviceEventRecord) := do
  let offset := (exit.address - bar0 (← get)).toNat
  match exit.direction with
  | .read =>
      let bytes ← read offset exit.length.toNat
      return (.read bytes, none)
  | .write =>
      let event ← write offset exit.writeData
      let address := bar0 (← get)
      return (.write, event.map fun event => ⟨address, .virtioQueueNotified (queue event)⟩)

/-- `dispatch_virtio_rng` (lines 476-499). -/
def dispatchVirtioRng (exit : MmioExit) :
    EStateM VirtioRngError VirtioRngDevice (MmioService × Option MmioDeviceEventRecord) :=
  dispatchVirtio (·.bar0) VirtioRngDevice.read VirtioRngDevice.write
    (fun | .queueNotified queue => queue) exit

/-- `dispatch_virtio_blk` (lines 501-524). -/
def dispatchVirtioBlk (exit : MmioExit) :
    EStateM VirtioBlkError VirtioBlkDevice (MmioService × Option MmioDeviceEventRecord) :=
  dispatchVirtio (·.bar0) VirtioBlkDevice.read VirtioBlkDevice.write
    (fun | .queueNotified queue => queue) exit

end OnDevice

/-- The event of an access, if any, goes to the end of the queue. -/
def pushEvent (record : Option MmioDeviceEventRecord) : EStateM BusError MmioBus Unit :=
  modify fun bus => { bus with virtioEvents := bus.virtioEvents ++ record.toList }

/-- `MmioBus::dispatch` (lines 221-269): byte devices first, then virtio-rng, then virtio-blk. -/
def dispatch (exit : MmioExit) : EStateM BusError MmioBus MmioService := do
  match ← byteList.onDevice (fun d => d.handles exit.address) (ByteMmioDevice.handle exit) with
  | some service => return service
  | none =>
    match ← virtioRngList.onDevice (fun d => virtioRngHandles d exit.address)
        (dispatchVirtioRng exit) with
    | some (service, record) => do
        pushEvent record
        return service
    | none =>
      match ← virtioBlkList.onDevice (fun d => virtioBlkHandles d exit.address)
          (dispatchVirtioBlk exit) with
      | some (service, record) => do
          pushEvent record
          return service
      | none =>
          throw (.mmio (.unhandledAddress exit.address exit.direction.raw exit.length))

/-! ### Events and notifications -/

/-- The scan of `take_device_event_record` over the byte devices. -/
def takeByteDeviceEvent : List ByteMmioDevice →
    Option MmioDeviceEventRecord × List ByteMmioDevice
  | [] => (none, [])
  | device :: rest =>
      match device.takeEvent with
      | (some event, taken) => (some ⟨device.address, event⟩, taken :: rest)
      | (none, taken) =>
          let scan := takeByteDeviceEvent rest
          (scan.1, taken :: scan.2)

/-- `MmioBus::take_device_event_record` (lines 271-279). -/
def takeDeviceEventRecord : Option MmioDeviceEventRecord × MmioBus :=
  let scan := takeByteDeviceEvent bus.byteDevices
  match scan.1 with
  | some record => (some record, { bus with byteDevices := scan.2 })
  | none =>
      (bus.virtioEvents.head?,
        { bus with byteDevices := scan.2, virtioEvents := bus.virtioEvents.tail })

/-- `MmioBus::apply_virtio_blk_host_notification` (lines 301-329). -/
def applyVirtioBlkHostNotification (address : UInt64) (queue : UInt16) :
    EStateM BusError MmioBus Bool := do
  match ← virtioBlkList.onDevice (fun d => d.bar0 = address)
      (VirtioBlkDevice.write virtioNotifyOffset (u16Bytes queue)) with
  | none => return false
  | some event =>
      if event = some (.queueNotified queue) then
        return true
      else
        throw (.hostEnvironment (.io "apply virtio-blk host queue notification"
          "virtio-blk notify register did not produce the expected queue event"))

end MmioBus

/-! ### The service of a queue -/

/-- The state a queue of the bus is served in. -/
structure BusState (H : Type) where
  bus : MmioBus
  memory : GuestMemory
  host : H

section Process

variable {H : Type}

/-- Borrow the virtio-rng device with the BAR, and the guest memory. -/
def onVirtioRngState {β : Type} (address : UInt64)
    (f : EStateM VirtioRngProcessError RngState β) :
    EStateM VirtioRngProcessError (BusState H) (Option β) :=
  within (fun s => (s.bus.virtioRngDevices, s.memory))
    (fun s t => { s with bus := { s.bus with virtioRngDevices := t.1 }, memory := t.2 }) id
    (onFirst (fun d => d.bar0 = address)
      (within (fun s => ⟨s.1, s.2⟩) (fun _ t => (t.device, t.memory)) id f))

/-- Borrow the virtio-blk device with the BAR, the guest memory and the host. -/
def onVirtioBlkState {β : Type} (address : UInt64)
    (f : EStateM VirtioBlkProcessError (BlkState H) β) :
    EStateM VirtioBlkProcessError (BusState H) (Option β) :=
  within (fun s => (s.bus.virtioBlkDevices, s.memory, s.host))
    (fun s t => { s with
      bus := { s.bus with virtioBlkDevices := t.1 }
      memory := t.2.1
      host := t.2.2 }) id
    (onFirst (fun d => d.bar0 = address)
      (within (fun s => ⟨s.1, s.2.1, s.2.2⟩) (fun _ t => (t.device, t.memory, t.host)) id f))

/-- `MmioBus::process_virtio_rng_notification` (lines 286-299). -/
def processVirtioRngNotification (address : UInt64) :
    EStateM VirtioRngProcessError (BusState H) (Option VirtioRngQueueCompletion) :=
  onVirtioRngState address VirtioRng.processNotifiedQueue

/-- `MmioBus::process_virtio_blk_notification` (lines 331-344). -/
def processVirtioBlkNotification (address : UInt64) :
    EStateM VirtioBlkProcessError (BusState H) (Option VirtioBlkQueueCompletion) :=
  onVirtioBlkState address VirtioBlk.processNotifiedQueue

/-- `MmioBus::process_virtio_blk_notification_atomic` (`virtio_blk_atomic_bus.rs`, lines 10-23). -/
def processVirtioBlkNotificationAtomic (files : HostFiles H) (address : UInt64) :
    EStateM VirtioBlkProcessError (BusState H) (Option VirtioBlkQueueCompletion) :=
  onVirtioBlkState address (VirtioBlk.processNotifiedQueueAtomic files)

end Process

/-! ### Registration of a range -/

namespace MmioBus

variable {bus : MmioBus}

theorem ensureRangeAvailable_eq_ok {range : UInt64 × UInt64} :
    bus.ensureRangeAvailable range = .ok () ↔ RangeFits range ∧
      ∀ existing ∈ bus.registeredRanges, RangeFits existing ∧ ¬ RangesOverlap range existing := by
  simp only [ensureRangeAvailable, rejectIf_bind_eq_ok, forM_eq_ok, rejectIf_eq_ok, not_not]

/-! ### The layout -/

/-- Which ranges are where: the ranges of the byte devices and the BARs of the virtio devices, each
in registration order. -/
def layout (bus : MmioBus) : List (UInt64 × UInt64) × List UInt64 × List UInt64 :=
  (bus.byteDevices.map ByteMmioDevice.addressRange,
    bus.virtioRngDevices.map VirtioRngDevice.bar0, bus.virtioBlkDevices.map VirtioBlkDevice.bar0)

theorem registeredRanges_eq (bus : MmioBus) :
    bus.registeredRanges = bus.layout.1 ++ bus.layout.2.1.map virtioRngRange ++
      bus.layout.2.2.map virtioBlkRange := by
  simp only [registeredRanges, layout, List.map_map]
  rfl

theorem registeredRanges_of_layout {bus' : MmioBus} (h : bus'.layout = bus.layout) :
    bus'.registeredRanges = bus.registeredRanges := by
  rw [registeredRanges_eq, registeredRanges_eq, h]

section KeepsLayout

variable {β : Type}

theorem byteList_keeps_layout {p : ByteMmioDevice → Bool}
    {f : EStateM MmioError ByteMmioDevice β} (hf : Keeps ByteMmioDevice.addressRange f) :
    Keeps layout (byteList.onDevice p f) :=
  .prod ((onFirst_keeps_map (alone_keeps hf)).within_get (fun _ _ => rfl) fun _ => rfl)
    (.within fun _ _ => rfl)

theorem virtioRngList_keeps_layout {p : VirtioRngDevice → Bool}
    {f : EStateM VirtioRngError VirtioRngDevice β} (hf : Keeps VirtioRngDevice.bar0 f) :
    Keeps layout (virtioRngList.onDevice p f) :=
  .prod (.within fun _ _ => rfl)
    (.prod ((onFirst_keeps_map (alone_keeps hf)).within_get (fun _ _ => rfl) fun _ => rfl)
      (.within fun _ _ => rfl))

theorem virtioBlkList_keeps_layout {p : VirtioBlkDevice → Bool}
    {f : EStateM VirtioBlkError VirtioBlkDevice β} (hf : Keeps VirtioBlkDevice.bar0 f) :
    Keeps layout (virtioBlkList.onDevice p f) :=
  .prod (.within fun _ _ => rfl)
    (.prod (.within fun _ _ => rfl)
      ((onFirst_keeps_map (alone_keeps hf)).within_get (fun _ _ => rfl) fun _ => rfl))

end KeepsLayout

theorem dispatchVirtio_keeps_bar0 {ε D η : Type} {bar0 : D → UInt64}
    {read : ℕ → ℕ → EStateM ε D (List UInt8)} {write : ℕ → List UInt8 → EStateM ε D (Option η)}
    {queue : η → UInt16} (hread : ∀ offset length, Keeps bar0 (read offset length))
    (hwrite : ∀ offset payload, Keeps bar0 (write offset payload)) (exit : MmioExit) :
    Keeps bar0 (dispatchVirtio bar0 read write queue exit) := by
  refine .bind (fun _ => rfl) fun _ => ?_
  cases exit.direction with
  | read => exact .bind (hread _ _) fun _ => .pure _
  | write => exact .bind (hwrite _ _) fun _ => .bind (fun _ => rfl) fun _ => .pure _

theorem write_keeps_bar0 (offset : ℕ) (payload : List UInt8) :
    Keeps VirtioBlkDevice.bar0 (VirtioBlkDevice.write offset payload) :=
  (VirtioBlkDevice.write_keeps_identity offset payload).comp Prod.fst

theorem dispatchVirtioRng_keeps_bar0 (exit : MmioExit) :
    Keeps VirtioRngDevice.bar0 (dispatchVirtioRng exit) :=
  dispatchVirtio_keeps_bar0 VirtioRngDevice.read_keeps_bar0 VirtioRngDevice.write_keeps_bar0 exit

theorem dispatchVirtioBlk_keeps_bar0 (exit : MmioExit) :
    Keeps VirtioBlkDevice.bar0 (dispatchVirtioBlk exit) :=
  dispatchVirtio_keeps_bar0
    (fun offset length => (VirtioBlkDevice.read_keeps_identity offset length).comp Prod.fst)
    write_keeps_bar0 exit

theorem dispatch_keeps_layout (exit : MmioExit) : Keeps layout (dispatch exit) := by
  refine .bind (byteList_keeps_layout (ByteMmioDevice.handle_keeps_addressRange exit)) ?_
  rintro (_ | service)
  · refine .bind (virtioRngList_keeps_layout (dispatchVirtioRng_keeps_bar0 exit)) ?_
    rintro (_ | ⟨service, record⟩)
    · refine .bind (virtioBlkList_keeps_layout (dispatchVirtioBlk_keeps_bar0 exit)) ?_
      rintro (_ | ⟨service, record⟩)
      · exact .throw _
      · exact .bind (.modify fun _ => rfl) fun _ => .pure _
    · exact .bind (.modify fun _ => rfl) fun _ => .pure _
  · exact .pure _

theorem applyVirtioBlkHostNotification_keeps_layout (address : UInt64) (queue : UInt16) :
    Keeps layout (applyVirtioBlkHostNotification address queue) := by
  refine .bind (virtioBlkList_keeps_layout (write_keeps_bar0 _ _)) ?_
  rintro (_ | event)
  · exact .pure _
  · exact .ite (.pure _) (.throw _)

theorem takeByteDeviceEvent_cases (devices : List ByteMmioDevice) :
    (∃ i d event, devices[i]? = some d ∧ d.takeEvent.1 = some event ∧
      takeByteDeviceEvent devices = (some ⟨d.address, event⟩, devices.set i d.takeEvent.2)) ∨
    ((∀ d ∈ devices, d.takeEvent.1 = none) ∧ takeByteDeviceEvent devices = (none, devices)) := by
  induction devices with
  | nil => exact .inr ⟨nofun, rfl⟩
  | cons device rest ih =>
      cases hevent : device.takeEvent.1 with
      | some event =>
          have htake : device.takeEvent = (some event, device.takeEvent.2) := Prod.ext hevent rfl
          refine .inl ⟨0, device, event, rfl, hevent, ?_⟩
          rw [takeByteDeviceEvent, htake]
          rfl
      | none =>
          have htake : device.takeEvent = (none, device) :=
            Prod.ext hevent (device.takeEvent_of_none hevent)
          rcases ih with ⟨i, d, event, hd, hdue, hrest⟩ | ⟨hnone, hrest⟩
          · refine .inl ⟨i + 1, d, event, hd, hdue, ?_⟩
            simp only [takeByteDeviceEvent, htake, hrest, List.set_cons_succ]
          · refine .inr ⟨List.forall_mem_cons.mpr ⟨hevent, hnone⟩, ?_⟩
            simp only [takeByteDeviceEvent, htake, hrest]

theorem takeDeviceEventRecord_cases (bus : MmioBus) :
    (∃ i d event, bus.byteDevices[i]? = some d ∧ d.takeEvent.1 = some event ∧
      bus.takeDeviceEventRecord = (some ⟨d.address, event⟩,
        { bus with byteDevices := bus.byteDevices.set i d.takeEvent.2 })) ∨
    ((∀ d ∈ bus.byteDevices, d.takeEvent.1 = none) ∧ bus.takeDeviceEventRecord =
      (bus.virtioEvents.head?, { bus with virtioEvents := bus.virtioEvents.tail })) := by
  rcases takeByteDeviceEvent_cases bus.byteDevices with
    ⟨i, d, event, hd, hdue, hscan⟩ | ⟨hnone, hscan⟩
  · exact .inl ⟨i, d, event, hd, hdue, by simp only [takeDeviceEventRecord, hscan]⟩
  · exact .inr ⟨hnone, by simp only [takeDeviceEventRecord, hscan]⟩

theorem layout_set_byte {i : ℕ} {d d' : ByteMmioDevice} (hd : bus.byteDevices[i]? = some d)
    (h : d'.addressRange = d.addressRange) :
    layout { bus with byteDevices := bus.byteDevices.set i d' } = bus.layout := by
  obtain ⟨hi, rfl⟩ := List.getElem?_eq_some_iff.mp hd
  simp only [layout, List.map_set, h]
  rw [← List.getElem_map ByteMmioDevice.addressRange, List.set_getElem_self]
  rwa [List.length_map]

theorem layout_takeDeviceEventRecord (bus : MmioBus) :
    bus.takeDeviceEventRecord.2.layout = bus.layout := by
  rcases bus.takeDeviceEventRecord_cases with ⟨i, d, event, hd, -, htake⟩ | ⟨-, htake⟩
  · rw [htake]
    exact layout_set_byte hd d.addressRange_takeEvent
  · rw [htake]
    rfl

section Process

variable {H β : Type}

theorem onVirtioRngState_keeps_layout {address : UInt64}
    {f : EStateM VirtioRngProcessError RngState β} (hf : Keeps (fun s => s.device.bar0) f) :
    Keeps (fun s : BusState H => s.bus.layout) (onVirtioRngState address f) := by
  have hfirst : Keeps (fun s : VirtioRngDevice × GuestMemory => s.1.bar0)
      (within (fun s => RngState.mk s.1 s.2) (fun _ t => (t.device, t.memory)) id f) :=
    hf.within_get (fun _ _ => rfl) fun _ => rfl
  exact .prod (.within fun _ _ => rfl)
    (.prod ((onFirst_keeps_map hfirst).within_get (fun _ _ => rfl) fun _ => rfl)
      (.within fun _ _ => rfl))

theorem onVirtioBlkState_keeps_layout {address : UInt64}
    {f : EStateM VirtioBlkProcessError (BlkState H) β} (hf : Keeps (fun s => s.device.bar0) f) :
    Keeps (fun s : BusState H => s.bus.layout) (onVirtioBlkState address f) := by
  have hfirst : Keeps (fun s : VirtioBlkDevice × GuestMemory × H => s.1.bar0)
      (within (fun s => BlkState.mk s.1 s.2.1 s.2.2) (fun _ t => (t.device, t.memory, t.host)) id
        f) :=
    hf.within_get (fun _ _ => rfl) fun _ => rfl
  exact .prod (.within fun _ _ => rfl)
    (.prod (.within fun _ _ => rfl)
      ((onFirst_keeps_map hfirst).within_get (fun _ _ => rfl) fun _ => rfl))

end Process

/-! ### Slots -/

end MmioBus

/-- A place of the bus. -/
inductive Slot where
  | byte (index : ℕ)
  | rng (index : ℕ)
  | blk (index : ℕ)
  deriving DecidableEq, Repr

/-- A device of the bus. -/
inductive Device where
  | byte (device : ByteMmioDevice)
  | rng (device : VirtioRngDevice)
  | blk (device : VirtioBlkDevice)
  deriving DecidableEq, Repr

/-- The range of a device. -/
def Device.range : Device → UInt64 × UInt64
  | .byte device => device.addressRange
  | .rng device => virtioRngRange device.bar0
  | .blk device => virtioBlkRange device.bar0

/-- The device handles the address. -/
def Device.handles (device : Device) (address : UInt64) : Bool := rangeHandles device.range address

namespace MmioBus

/-- The device in a slot. -/
def device? (bus : MmioBus) : Slot → Option Device
  | .byte i => (bus.byteDevices[i]?).map .byte
  | .rng i => (bus.virtioRngDevices[i]?).map .rng
  | .blk i => (bus.virtioBlkDevices[i]?).map .blk

variable {bus : MmioBus} {slot : Slot} {d : Device}

section Preserves

variable {β : Type}

theorem byteList_preserves {p : ByteMmioDevice → Bool}
    {f : EStateM MmioError ByteMmioDevice β} (h : ∀ b, d = .byte b → p b = false) :
    Preserves (fun bus => bus.device? slot = some d) (byteList.onDevice p f) := by
  cases slot with
  | byte i => exact within_onFirst_preserves (fun _ _ => rfl) (fun _ => rfl) h
  | rng i => exact .within_rest fun _ _ => rfl
  | blk i => exact .within_rest fun _ _ => rfl

theorem virtioRngList_preserves {p : VirtioRngDevice → Bool}
    {f : EStateM VirtioRngError VirtioRngDevice β} (h : ∀ b, d = .rng b → p b = false) :
    Preserves (fun bus => bus.device? slot = some d) (virtioRngList.onDevice p f) := by
  cases slot with
  | byte i => exact .within_rest fun _ _ => rfl
  | rng i => exact within_onFirst_preserves (fun _ _ => rfl) (fun _ => rfl) h
  | blk i => exact .within_rest fun _ _ => rfl

theorem virtioBlkList_preserves {p : VirtioBlkDevice → Bool}
    {f : EStateM VirtioBlkError VirtioBlkDevice β} (h : ∀ b, d = .blk b → p b = false) :
    Preserves (fun bus => bus.device? slot = some d) (virtioBlkList.onDevice p f) := by
  cases slot with
  | byte i => exact .within_rest fun _ _ => rfl
  | rng i => exact .within_rest fun _ _ => rfl
  | blk i => exact within_onFirst_preserves (fun _ _ => rfl) (fun _ => rfl) h

theorem pushEvent_preserves (record : Option MmioDeviceEventRecord) :
    Preserves (fun bus => bus.device? slot = some d) (pushEvent record) := by
  intro bus hd
  cases slot <;> exact hd

theorem dispatch_preserves {exit : MmioExit} (h : d.handles exit.address = false) :
    Preserves (fun bus => bus.device? slot = some d) (dispatch exit) := by
  refine .bind (byteList_preserves ?_) ?_
  · rintro b rfl
    exact h
  rintro (_ | service)
  · refine .bind (virtioRngList_preserves ?_) ?_
    · rintro b rfl
      exact h
    rintro (_ | ⟨service, record⟩)
    · refine .bind (virtioBlkList_preserves ?_) ?_
      · rintro b rfl
        exact h
      rintro (_ | ⟨service, record⟩)
      · exact .throw _
      · exact .bind (pushEvent_preserves record) fun _ => .pure _
    · exact .bind (pushEvent_preserves record) fun _ => .pure _
  · exact .pure _

theorem applyVirtioBlkHostNotification_preserves {address : UInt64} (queue : UInt16)
    (h : ∀ b, d = .blk b → b.bar0 ≠ address) :
    Preserves (fun bus => bus.device? slot = some d)
      (applyVirtioBlkHostNotification address queue) := by
  refine .bind (virtioBlkList_preserves fun b hb => decide_eq_false (h b hb)) ?_
  rintro (_ | event)
  · exact .pure _
  · dsimp only
    split_ifs
    · exact .pure _
    · exact .throw _

theorem onVirtioRngState_preserves {H : Type} {address : UInt64}
    {f : EStateM VirtioRngProcessError RngState β} (h : ∀ b, d = .rng b → b.bar0 ≠ address) :
    Preserves (fun s : BusState H => s.bus.device? slot = some d) (onVirtioRngState address f) := by
  cases slot with
  | byte i => exact .within_rest fun _ _ => rfl
  | rng i =>
      exact within_onFirst_preserves (fun _ _ => rfl) (fun _ => rfl) fun b hb =>
        decide_eq_false (h b hb)
  | blk i => exact .within_rest fun _ _ => rfl

theorem onVirtioBlkState_preserves {H : Type} {address : UInt64}
    {f : EStateM VirtioBlkProcessError (BlkState H) β} (h : ∀ b, d = .blk b → b.bar0 ≠ address) :
    Preserves (fun s : BusState H => s.bus.device? slot = some d) (onVirtioBlkState address f) := by
  cases slot with
  | byte i => exact .within_rest fun _ _ => rfl
  | rng i => exact .within_rest fun _ _ => rfl
  | blk i =>
      exact within_onFirst_preserves (fun _ _ => rfl) (fun _ => rfl) fun b hb =>
        decide_eq_false (h b hb)

end Preserves

theorem device?_takeDeviceEventRecord (hd : bus.device? slot = some d)
    (h : ∀ record, bus.takeDeviceEventRecord.1 = some record →
      d.range.1 ≠ record.deviceAddress) :
    bus.takeDeviceEventRecord.2.device? slot = some d := by
  rcases bus.takeDeviceEventRecord_cases with ⟨i, due, event, hdue, -, htake⟩ | ⟨-, htake⟩
  · rw [htake, ← hd]
    cases slot with
    | byte j =>
        refine congrArg (Option.map Device.byte) (List.getElem?_set_ne ?_)
        rintro rfl
        rw [device?, hdue] at hd
        cases hd
        exact h ⟨due.address, event⟩ (congrArg Prod.fst htake) rfl
    | rng j => rfl
    | blk j => rfl
  · rw [htake]
    exact hd

end MmioBus

end MiniHypervisor.Mmio
