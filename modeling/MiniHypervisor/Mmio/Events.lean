import MiniHypervisor.Control.Refinement
import MiniHypervisor.Control.Triples
import MiniHypervisor.Mmio.Routing

/-!
# Events of the MMIO bus

A guest that writes the notify register of a virtio device leaves a record in the queue of the bus;
a byte device that wants an interrupt keeps it in its own flags.  `take_device_event_record` drains
both, the byte devices first.  What was drained so far is compared here with what the guest did.

The past of a bus is the list of records that were drained and the list of accesses that were
accepted, each with the device it went to.  A host notification is not an access: it changes the
device as a write of its notify register would, without a record.
-/

namespace MiniHypervisor.Mmio

open Bytes Control Memory VirtioBlk VirtioRng

/-! ### Outcomes of an access -/

/-- The outcomes of an access: the first byte device that handles the address serves it, or else the
first virtio-rng device, or else the first virtio-blk device.  A virtio device that accepts it may
leave a record. -/
inductive DispatchedAs (exit : MmioExit) (bus : MmioBus) :
    EStateM.Result BusError MmioBus MmioService → Prop
  | byte {i : ℕ} {d d' : ByteMmioDevice} {service : MmioService}
      (target : firstMatch (fun d => d.handles exit.address) bus.byteDevices = some (i, d))
      (accepted : (ByteMmioDevice.handle exit).run d = .ok service d') :
      DispatchedAs exit bus (.ok service { bus with byteDevices := bus.byteDevices.set i d' })
  | byteRejected {i : ℕ} {d d' : ByteMmioDevice} {e : MmioError}
      (target : firstMatch (fun d => d.handles exit.address) bus.byteDevices = some (i, d))
      (rejected : (ByteMmioDevice.handle exit).run d = .error e d') :
      DispatchedAs exit bus (.error (.mmio e)
        { bus with byteDevices := bus.byteDevices.set i d' })
  | rng {i : ℕ} {d d' : VirtioRngDevice} {service : MmioService}
      {record : Option MmioDeviceEventRecord}
      (noByte : firstMatch (fun d => d.handles exit.address) bus.byteDevices = none)
      (target : firstMatch (fun d => virtioRngHandles d exit.address) bus.virtioRngDevices =
        some (i, d))
      (accepted : (MmioBus.dispatchVirtioRng exit).run d = .ok (service, record) d') :
      DispatchedAs exit bus (.ok service { bus with
        virtioRngDevices := bus.virtioRngDevices.set i d'
        virtioEvents := bus.virtioEvents ++ record.toList })
  | rngRejected {i : ℕ} {d d' : VirtioRngDevice} {e : VirtioRngError}
      (noByte : firstMatch (fun d => d.handles exit.address) bus.byteDevices = none)
      (target : firstMatch (fun d => virtioRngHandles d exit.address) bus.virtioRngDevices =
        some (i, d))
      (rejected : (MmioBus.dispatchVirtioRng exit).run d = .error e d') :
      DispatchedAs exit bus (.error (virtioRngMmioError e)
        { bus with virtioRngDevices := bus.virtioRngDevices.set i d' })
  | blk {i : ℕ} {d d' : VirtioBlkDevice} {service : MmioService}
      {record : Option MmioDeviceEventRecord}
      (noByte : firstMatch (fun d => d.handles exit.address) bus.byteDevices = none)
      (noRng : firstMatch (fun d => virtioRngHandles d exit.address) bus.virtioRngDevices = none)
      (target : firstMatch (fun d => virtioBlkHandles d exit.address) bus.virtioBlkDevices =
        some (i, d))
      (accepted : (MmioBus.dispatchVirtioBlk exit).run d = .ok (service, record) d') :
      DispatchedAs exit bus (.ok service { bus with
        virtioBlkDevices := bus.virtioBlkDevices.set i d'
        virtioEvents := bus.virtioEvents ++ record.toList })
  | blkRejected {i : ℕ} {d d' : VirtioBlkDevice} {e : VirtioBlkError}
      (noByte : firstMatch (fun d => d.handles exit.address) bus.byteDevices = none)
      (noRng : firstMatch (fun d => virtioRngHandles d exit.address) bus.virtioRngDevices = none)
      (target : firstMatch (fun d => virtioBlkHandles d exit.address) bus.virtioBlkDevices =
        some (i, d))
      (rejected : (MmioBus.dispatchVirtioBlk exit).run d = .error e d') :
      DispatchedAs exit bus (.error (virtioBlkMmioError e)
        { bus with virtioBlkDevices := bus.virtioBlkDevices.set i d' })
  | unhandled
      (noByte : firstMatch (fun d => d.handles exit.address) bus.byteDevices = none)
      (noRng : firstMatch (fun d => virtioRngHandles d exit.address) bus.virtioRngDevices = none)
      (noBlk : firstMatch (fun d => virtioBlkHandles d exit.address) bus.virtioBlkDevices = none) :
      DispatchedAs exit bus
        (.error (.mmio (.unhandledAddress exit.address exit.direction.raw exit.length)) bus)

section Outcomes

variable {exit : MmioExit} {bus : MmioBus} {β : Type} {i : ℕ}

theorem MmioBus.DeviceList.run_onDevice {ε D : Type} (list : MmioBus.DeviceList ε D)
    {p : D → Bool} {f : EStateM ε D β} {d : D}
    (h : firstMatch p (list.devices bus) = some (i, d)) :
    (∃ b d', f.run d = .ok b d' ∧ (list.onDevice p f).run bus =
      .ok (some b) (list.update bus ((list.devices bus).set i d'))) ∨
    ∃ e d', f.run d = .error e d' ∧ (list.onDevice p f).run bus =
      .error (list.report e) (list.update bus ((list.devices bus).set i d')) :=
  run_within_onFirst h

/-- The last part of `dispatch`. -/
def dispatchToVirtioBlk (exit : MmioExit) : EStateM BusError MmioBus MmioService := do
  match ← MmioBus.virtioBlkList.onDevice (fun d => virtioBlkHandles d exit.address)
      (MmioBus.dispatchVirtioBlk exit) with
  | some (service, record) => do
      MmioBus.pushEvent record
      return service
  | none => throw (.mmio (.unhandledAddress exit.address exit.direction.raw exit.length))

/-- The part of `dispatch` after the byte devices. -/
def dispatchToVirtio (exit : MmioExit) : EStateM BusError MmioBus MmioService := do
  match ← MmioBus.virtioRngList.onDevice (fun d => virtioRngHandles d exit.address)
      (MmioBus.dispatchVirtioRng exit) with
  | some (service, record) => do
      MmioBus.pushEvent record
      return service
  | none => dispatchToVirtioBlk exit

theorem dispatch_eq (exit : MmioExit) : MmioBus.dispatch exit = (do
    match ← MmioBus.byteList.onDevice (fun d => d.handles exit.address)
      (ByteMmioDevice.handle exit) with
    | some service => return service
    | none => dispatchToVirtio exit) := rfl

theorem run_dispatch_of_none
    (noByte : firstMatch (fun d => d.handles exit.address) bus.byteDevices = none) :
    (MmioBus.dispatch exit).run bus = (dispatchToVirtio exit).run bus := by
  have hnone : (MmioBus.byteList.onDevice (fun d => d.handles exit.address)
      (ByteMmioDevice.handle exit)).run bus = .ok none bus := run_within_onFirst_of_none noByte
  rw [dispatch_eq, run_bind_of_ok hnone]

theorem run_dispatchToVirtio_of_none
    (noRng : firstMatch (fun d => virtioRngHandles d exit.address) bus.virtioRngDevices = none) :
    (dispatchToVirtio exit).run bus = (dispatchToVirtioBlk exit).run bus := by
  have hnone : (MmioBus.virtioRngList.onDevice (fun d => virtioRngHandles d exit.address)
      (MmioBus.dispatchVirtioRng exit)).run bus = .ok none bus := run_within_onFirst_of_none noRng
  rw [dispatchToVirtio, run_bind_of_ok hnone]

theorem dispatchedAs_virtioBlk
    (noByte : firstMatch (fun d => d.handles exit.address) bus.byteDevices = none)
    (noRng : firstMatch (fun d => virtioRngHandles d exit.address) bus.virtioRngDevices = none) :
    DispatchedAs exit bus ((dispatchToVirtioBlk exit).run bus) := by
  unfold dispatchToVirtioBlk
  cases hblk : firstMatch (fun d => virtioBlkHandles d exit.address) bus.virtioBlkDevices with
  | none =>
      have hnone : (MmioBus.virtioBlkList.onDevice (fun d => virtioBlkHandles d exit.address)
          (MmioBus.dispatchVirtioBlk exit)).run bus = .ok none bus :=
        run_within_onFirst_of_none hblk
      rw [run_bind_of_ok hnone]
      exact .unhandled noByte noRng hblk
  | some found =>
      rcases MmioBus.virtioBlkList.run_onDevice (f := MmioBus.dispatchVirtioBlk exit) hblk with
        ⟨⟨service, record⟩, d', hd, hrun⟩ | ⟨e, d', hd, hrun⟩
      · rw [run_bind_of_ok hrun]
        exact .blk noByte noRng hblk hd
      · rw [run_bind_of_error hrun]
        exact .blkRejected noByte noRng hblk hd

theorem dispatchedAs_virtio
    (noByte : firstMatch (fun d => d.handles exit.address) bus.byteDevices = none) :
    DispatchedAs exit bus ((dispatchToVirtio exit).run bus) := by
  cases hrng : firstMatch (fun d => virtioRngHandles d exit.address) bus.virtioRngDevices with
  | none =>
      rw [run_dispatchToVirtio_of_none hrng]
      exact dispatchedAs_virtioBlk noByte hrng
  | some found =>
      unfold dispatchToVirtio
      rcases MmioBus.virtioRngList.run_onDevice (f := MmioBus.dispatchVirtioRng exit) hrng with
        ⟨⟨service, record⟩, d', hd, hrun⟩ | ⟨e, d', hd, hrun⟩
      · rw [run_bind_of_ok hrun]
        exact .rng noByte hrng hd
      · rw [run_bind_of_error hrun]
        exact .rngRejected noByte hrng hd

/-- **Every access has one of the outcomes.** -/
theorem dispatched (exit : MmioExit) (bus : MmioBus) :
    DispatchedAs exit bus ((MmioBus.dispatch exit).run bus) := by
  cases hbyte : firstMatch (fun d => d.handles exit.address) bus.byteDevices with
  | none =>
      rw [run_dispatch_of_none hbyte]
      exact dispatchedAs_virtio hbyte
  | some found =>
      rw [dispatch_eq]
      rcases MmioBus.byteList.run_onDevice hbyte with ⟨service, d', hd, hrun⟩ | ⟨e, d', hd, hrun⟩
      · rw [run_bind_of_ok hrun]
        exact .byte hbyte hd
      · rw [run_bind_of_error hrun]
        exact .byteRejected hbyte hd

end Outcomes

/-! ### The past of a bus -/

/-- The device that an access to the address goes to. -/
def MmioBus.target (bus : MmioBus) (address : UInt64) : Option Device :=
  ((firstMatch (fun d => d.handles address) bus.byteDevices).map fun found => .byte found.2).or
    (((firstMatch (fun d => virtioRngHandles d address) bus.virtioRngDevices).map
        fun found => .rng found.2).or
      ((firstMatch (fun d => virtioBlkHandles d address) bus.virtioBlkDevices).map
        fun found => .blk found.2))

/-- The access writes the notify register of a virtio device with the BAR. -/
def WritesNotify (bar0 : UInt64) (exit : MmioExit) : Prop :=
  exit.direction = .write ∧ (exit.address - bar0).toNat = virtioNotifyOffset

instance (bar0 : UInt64) (exit : MmioExit) : Decidable (WritesNotify bar0 exit) :=
  inferInstanceAs (Decidable (_ ∧ _))

/-- The record that an accepted access calls for: a write of a notify register is recorded with the
BAR of the device written and queue `0`. -/
def Device.notification (exit : MmioExit) : Device → Option MmioDeviceEventRecord
  | .byte _ => none
  | .rng d => if WritesNotify d.bar0 exit then some ⟨d.bar0, .virtioQueueNotified 0⟩ else none
  | .blk d => if WritesNotify d.bar0 exit then some ⟨d.bar0, .virtioQueueNotified 0⟩ else none

/-- A record of a notified queue. -/
def MmioDeviceEventRecord.isNotification (record : MmioDeviceEventRecord) : Bool :=
  match record.event with
  | .virtioQueueNotified _ => true
  | _ => false

namespace Call

variable {H : Type}

/-- The records that a call drains. -/
def drained (bus : MmioBus) : Call H → List MmioDeviceEventRecord
  | takeDeviceEvent => bus.takeDeviceEventRecord.1.toList
  | _ => []

/-- The accesses that a call makes with success, each with the device that it goes to. -/
def accepted (bus : MmioBus) : Call H → List (Device × MmioExit)
  | dispatch exit =>
      if succeeded ((MmioBus.dispatch exit).run bus) then
        (bus.target exit.address).toList.map fun d => (d, exit)
      else []
  | _ => []

end Call

section Past

variable {H : Type} (files : HostFiles H)

/-- The records that a run drains. -/
def drainedRecords (bus : MmioBus) (calls : List (Call H)) : List MmioDeviceEventRecord :=
  (eventsOf (Call.run files) Call.drained bus calls).flatten

/-- The accesses that a run makes with success, in order. -/
def acceptedAccesses (bus : MmioBus) (calls : List (Call H)) : List (Device × MmioExit) :=
  (eventsOf (Call.run files) Call.accepted bus calls).flatten

end Past

/-! ### The record of an access -/

/-- The events of a write of both devices: only the notify register has one, with queue `0`. -/
def writeEvent {η : Type} (notified : UInt16 → η) (offset : ℕ) : Option η :=
  if offset = virtioNotifyOffset then some (notified 0) else none

theorem find?_notify_iff {offset length : ℕ} {register : Register}
    (h : Register.find? offset length = some register) :
    register = .notify ↔ offset = virtioNotifyOffset := by
  obtain rfl : register.access.1 = offset := congrArg Prod.fst (Register.access_of_find? h)
  cases register <;> decide

/-- Both devices accept a notification of queue `0` only. -/
theorem event_of_write {ε ε' D η : Type} {spec : RegisterSpec ε'} (hindex : spec.queueIndex = 0)
    {registers : D → VirtioRegisters} {put : D → VirtioRegisters → D} {wrap : ε' → ε}
    {notified : UInt16 → η} {offset : ℕ} {payload : List UInt8} {event : Option η} {d d' : D}
    (h : (within registers put wrap (spec.write notified offset payload)).run d = .ok event d') :
    event = writeEvent notified offset ∧
      (offset = virtioNotifyOffset → u16OfBytes payload = 0) := by
  obtain ⟨r, h, -⟩ := run_within_eq_ok.mp h
  unfold RegisterSpec.write at h
  dsimp only at h
  split at h
  · cases h
  · rename_i update hupdate
    obtain ⟨register, hregister, hwrite⟩ := Option.bind_eq_some_iff.mp hupdate
    obtain ⟨_, t, hrun, hreturn⟩ := run_bind_eq_ok.mp h
    have hiff := find?_notify_iff hregister
    have hzero : register = .notify → u16OfBytes payload = 0 := by
      rintro rfl
      cases hwrite
      by_contra hqueue
      rw [RegisterSpec.writeNotify, hindex, if_pos hqueue] at hrun
      cases hrun
    refine ⟨?_, fun hoffset => hzero (hiff.mpr hoffset)⟩
    by_cases hnotify : register = .notify
    · rw [if_pos (hregister.trans (congrArg some hnotify))] at hreturn
      cases hreturn
      rw [writeEvent, if_pos (hiff.mp hnotify), hzero hnotify]
    · rw [if_neg fun hsome => hnotify (Option.some.inj (hregister.symm.trans hsome))] at hreturn
      cases hreturn
      rw [writeEvent, if_neg fun hoffset => hnotify (hiff.mpr hoffset)]

/-- The record of an access, for a device whose writes have the events of both devices. -/
theorem record_of_dispatchVirtio {ε D η : Type} {bar0 : D → UInt64}
    {read : ℕ → ℕ → EStateM ε D (List UInt8)} {write : ℕ → List UInt8 → EStateM ε D (Option η)}
    {queue : η → UInt16} {notified : UInt16 → η} (hqueue : ∀ q, queue (notified q) = q)
    (hbar : ∀ offset payload, Keeps bar0 (write offset payload))
    (hevent : ∀ {offset payload event d d'}, (write offset payload).run d = .ok event d' →
      event = writeEvent notified offset ∧
        (offset = virtioNotifyOffset → u16OfBytes payload = 0))
    {exit : MmioExit} {service : MmioService} {record : Option MmioDeviceEventRecord} {d d' : D}
    (h : (MmioBus.dispatchVirtio bar0 read write queue exit).run d = .ok (service, record) d') :
    record =
      if WritesNotify (bar0 d) exit then some ⟨bar0 d, .virtioQueueNotified 0⟩ else none := by
  obtain ⟨_, _, ⟨⟩, h⟩ := run_bind_eq_ok.mp h
  cases hdirection : exit.direction with
  | read =>
      rw [hdirection] at h
      obtain ⟨_, _, -, ⟨⟩⟩ := run_bind_eq_ok.mp h
      refine (if_neg ?_).symm
      rintro ⟨hwrite, -⟩
      cases hdirection.symm.trans hwrite
  | write =>
      rw [hdirection] at h
      obtain ⟨event, t, hwrite, h⟩ := run_bind_eq_ok.mp h
      obtain ⟨_, _, ⟨⟩, ⟨⟩⟩ := run_bind_eq_ok.mp h
      have hkeeps := hbar (exit.address - bar0 d).toNat exit.writeData d
      rw [hwrite, finalState] at hkeeps
      rw [(hevent hwrite).1, hkeeps]
      simp only [writeEvent, WritesNotify, hdirection, true_and]
      split_ifs
      · rw [Option.map_some, hqueue]
      · rfl

/-! ### The queue of records -/

section Queue

variable {H : Type} (files : HostFiles H) {bus : MmioBus}

theorem target_of_byte {exit : MmioExit} {i : ℕ} {d : ByteMmioDevice}
    (h : firstMatch (fun d => d.handles exit.address) bus.byteDevices = some (i, d)) :
    bus.target exit.address = some (.byte d) := by
  rw [MmioBus.target, h]
  rfl

theorem target_of_rng {exit : MmioExit} {i : ℕ} {d : VirtioRngDevice}
    (noByte : firstMatch (fun d => d.handles exit.address) bus.byteDevices = none)
    (h : firstMatch (fun d => virtioRngHandles d exit.address) bus.virtioRngDevices =
      some (i, d)) :
    bus.target exit.address = some (.rng d) := by
  rw [MmioBus.target, noByte, h]
  rfl

theorem target_of_blk {exit : MmioExit} {i : ℕ} {d : VirtioBlkDevice}
    (noByte : firstMatch (fun d => d.handles exit.address) bus.byteDevices = none)
    (noRng : firstMatch (fun d => virtioRngHandles d exit.address) bus.virtioRngDevices = none)
    (h : firstMatch (fun d => virtioBlkHandles d exit.address) bus.virtioBlkDevices =
      some (i, d)) :
    bus.target exit.address = some (.blk d) := by
  rw [MmioBus.target, noByte, noRng, h]
  rfl

/-! ### What a call can do -/

/-- The BARs of the virtio devices. -/
def MmioBus.bars (bus : MmioBus) : List UInt64 := bus.layout.2.1 ++ bus.layout.2.2

/-- What a call can do to the byte devices and to the queue of records, with the records that it
drains and the accesses that it makes with success. -/
inductive BusStep (bus : MmioBus) :
    List MmioDeviceEventRecord → List (Device × MmioExit) → MmioBus → Prop
  | quiet {bus' : MmioBus} (bytes : bus'.byteDevices = bus.byteDevices)
      (queue : bus'.virtioEvents = bus.virtioEvents) (layout : bus'.layout = bus.layout) :
      BusStep bus [] [] bus'
  | registers (registration : Registration)
      (available : bus.ensureRangeAvailable registration.device.range = .ok ()) :
      BusStep bus [] [] (bus.push registration.device)
  | byteAccess {i : ℕ} {d d' : ByteMmioDevice} {exit : MmioExit} {service : MmioService}
      (target : bus.byteDevices[i]? = some d)
      (accepted : (ByteMmioDevice.handle exit).run d = .ok service d') :
      BusStep bus [] [(.byte d, exit)] { bus with byteDevices := bus.byteDevices.set i d' }
  | virtioAccess {device : Device} {exit : MmioExit} {bus' : MmioBus}
      (target : device.range.1 ∈ bus.bars) (bytes : bus'.byteDevices = bus.byteDevices)
      (queue : bus'.virtioEvents = bus.virtioEvents ++ (device.notification exit).toList)
      (layout : bus'.layout = bus.layout) :
      BusStep bus [] [(device, exit)] bus'
  | byteEvent {i : ℕ} {d : ByteMmioDevice} {event : MmioDeviceEvent}
      (target : bus.byteDevices[i]? = some d) (due : d.takeEvent.1 = some event) :
      BusStep bus [⟨d.address, event⟩] []
        { bus with byteDevices := bus.byteDevices.set i d.takeEvent.2 }
  | queuedEvent {record : MmioDeviceEventRecord} {rest : List MmioDeviceEventRecord}
      (queue : bus.virtioEvents = record :: rest) :
      BusStep bus [record] [] { bus with virtioEvents := rest }

theorem BusStep.refl (bus : MmioBus) : BusStep bus [] [] bus := .quiet rfl rfl rfl

/-- The processing of a queue changes neither the byte devices nor the queue of records. -/
theorem BusStep.of_keeps {ε α : Type} {x : EStateM ε (BusState H) α} (s : BusState H)
    (hkeeps : Keeps (fun s => (s.bus.byteDevices, s.bus.virtioEvents)) x)
    (hlayout : (finalState (x.run s)).bus.layout = s.bus.layout) :
    BusStep s.bus [] [] (finalState (x.run s)).bus :=
  .quiet (congrArg Prod.fst (hkeeps s)) (congrArg Prod.snd (hkeeps s)) hlayout

theorem accepted_of_error {exit : MmioExit} {e : BusError} {bus' : MmioBus}
    (h : (MmioBus.dispatch exit).run bus = .error e bus') :
    (Call.dispatch exit : Call H).accepted bus = [] := by
  rw [Call.accepted, h]
  rfl

theorem accepted_of_ok {exit : MmioExit} {service : MmioService} {bus' : MmioBus} {d : Device}
    (h : (MmioBus.dispatch exit).run bus = .ok service bus')
    (htarget : bus.target exit.address = some d) :
    (Call.dispatch exit : Call H).accepted bus = [(d, exit)] := by
  rw [Call.accepted, h, htarget]
  rfl

theorem busStep_dispatch (exit : MmioExit) (bus : MmioBus) :
    BusStep bus [] ((Call.dispatch exit : Call H).accepted bus)
      (finalState ((MmioBus.dispatch exit).run bus)) := by
  have hlayout := MmioBus.dispatch_keeps_layout exit bus
  have houtcome := dispatched exit bus
  generalize hrun : (MmioBus.dispatch exit).run bus = r at houtcome hlayout
  cases houtcome with
  | byte target haccepted =>
      rw [accepted_of_ok hrun (target_of_byte target)]
      exact .byteAccess (of_firstMatch target).1 haccepted
  | rng noByte target haccepted =>
      rw [accepted_of_ok hrun (target_of_rng noByte target)]
      refine .virtioAccess ?_ rfl ?_ hlayout
      · exact List.mem_append_left _
          (List.mem_map_of_mem (List.mem_of_getElem? (of_firstMatch target).1))
      · have hrecord := record_of_dispatchVirtio (fun _ => rfl) VirtioRngDevice.write_keeps_bar0
          (event_of_write rfl) haccepted
        rw [hrecord]
        rfl
  | blk noByte noRng target haccepted =>
      rw [accepted_of_ok hrun (target_of_blk noByte noRng target)]
      refine .virtioAccess ?_ rfl ?_ hlayout
      · exact List.mem_append_right _
          (List.mem_map_of_mem (List.mem_of_getElem? (of_firstMatch target).1))
      · have hrecord := record_of_dispatchVirtio (fun _ => rfl) MmioBus.write_keeps_bar0
          (event_of_write rfl) haccepted
        rw [hrecord]
        rfl
  | @byteRejected i d d' e target hrejected =>
      obtain rfl := ((ByteMmioDevice.ensures_handle exit d) d rfl).2 e d' hrejected
      obtain ⟨hi, hd⟩ := List.getElem?_eq_some_iff.mp (of_firstMatch target).1
      rw [accepted_of_error hrun]
      refine .quiet ?_ rfl hlayout
      rw [finalState, ← hd, List.set_getElem_self]
  | rngRejected | blkRejected | unhandled =>
      rw [accepted_of_error hrun]
      exact .quiet rfl rfl hlayout

theorem busStep_take (bus : MmioBus) :
    BusStep bus bus.takeDeviceEventRecord.1.toList [] bus.takeDeviceEventRecord.2 := by
  rcases bus.takeDeviceEventRecord_cases with ⟨i, d, event, hd, hdue, htake⟩ | ⟨-, htake⟩
  · rw [htake]
    exact .byteEvent hd hdue
  · rw [htake]
    cases hqueue : bus.virtioEvents with
    | nil => exact .quiet rfl hqueue.symm rfl
    | cons record rest => exact .queuedEvent hqueue

namespace Call

/-- **What one call can do.** -/
theorem busStep_run (bus : MmioBus) (call : Call H) :
    BusStep bus (call.drained bus) (call.accepted bus) (call.run files bus) := by
  have hlayout := call.layout_run files bus
  cases call with
  | register registration =>
      rcases registration.run_cases bus with ⟨e, -, hrun⟩ | ⟨havailable, hrun⟩
      · rw [run, hrun]
        exact .refl bus
      · rw [run, hrun]
        exact .registers registration havailable
  | dispatch exit => exact busStep_dispatch exit bus
  | takeDeviceEvent => exact busStep_take bus
  | hostNotification address queue =>
      have hkeeps : Keeps (fun bus => (bus.byteDevices, bus.virtioEvents))
          (MmioBus.applyVirtioBlkHostNotification address queue) := by
        refine .bind (.within fun _ _ => rfl) ?_
        rintro (_ | event)
        · exact .pure _
        · exact .ite (.pure _) (.throw _)
      exact .quiet (congrArg Prod.fst (hkeeps bus)) (congrArg Prod.snd (hkeeps bus))
        (hlayout (by simp))
  | processRng address memory =>
      exact .of_keeps ⟨bus, memory, ()⟩ (.within fun _ _ => rfl) (hlayout (by simp))
  | processBlk address memory =>
      exact .of_keeps ⟨bus, memory, ()⟩ (.within fun _ _ => rfl) (hlayout (by simp))
  | processBlkAtomic address memory host =>
      exact .of_keeps ⟨bus, memory, host⟩ (.within fun _ _ => rfl) (hlayout (by simp))
  | restore address snapshot =>
      rw [run]
      rcases bus.restoreVirtioBlkCheckpointAt_cases address snapshot with
        hrun | ⟨i, -, -, -, hrun⟩
      · rw [hrun]
        exact .refl bus
      · exact .quiet (by rw [hrun]; rfl) (by rw [hrun]; rfl) (hlayout (by simp))
  | restoreTwo variant checkpoints =>
      rw [run]
      rcases variant.run_cases bus checkpoints with ⟨e, hrun⟩ | ⟨i, j, -, hrun⟩
      · rw [hrun]
        exact .refl bus
      · exact .quiet (by rw [hrun]; rfl) (by rw [hrun]; rfl) (hlayout (by simp))

end Call

/-! ### Notifications -/

theorem isNotification_of_takeEvent {d : ByteMmioDevice} {event : MmioDeviceEvent}
    (h : d.takeEvent.1 = some event) :
    MmioDeviceEventRecord.isNotification ⟨d.address, event⟩ = false := by
  unfold ByteMmioDevice.takeEvent at h
  cases hmode : d.mode with
  | plain => simp [hmode] at h
  | edgeInterrupt | levelInterrupt =>
      simp only [hmode] at h
      split_ifs at h
      all_goals
        cases h
        rfl

/-- **What one step does to the notifications.** Those that it drains, followed by those queued
after it, are those queued before it, followed by those that its accepted accesses call for. -/
theorem BusStep.notifications {drained : List MmioDeviceEventRecord}
    {accepted : List (Device × MmioExit)} {bus' : MmioBus} (h : BusStep bus drained accepted bus') :
    (drained ++ bus'.virtioEvents).filter MmioDeviceEventRecord.isNotification =
    (bus.virtioEvents ++ accepted.filterMap fun a => a.1.notification a.2).filter
      MmioDeviceEventRecord.isNotification := by
  cases h with
  | quiet _ queue _ =>
      rw [queue]
      exact congrArg _ (List.append_nil _).symm
  | registers registration _ =>
      refine congrArg _ (Eq.trans ?_ (List.append_nil _).symm)
      cases registration <;> rfl
  | byteAccess _ _ => exact congrArg _ (List.append_nil _).symm
  | virtioAccess _ _ queue _ =>
      rw [queue]
      rfl
  | byteEvent _ due =>
      refine Eq.trans ?_ (congrArg _ (List.append_nil _).symm)
      exact List.filter_cons_of_neg (Bool.eq_false_iff.mp (isNotification_of_takeEvent due))
  | queuedEvent queue =>
      rw [queue]
      exact congrArg _ (List.append_nil _).symm

theorem notifications_runCalls (bus : MmioBus) (calls : List (Call H)) :
    (drainedRecords files bus calls ++ (runCalls files bus calls).virtioEvents).filter
      MmioDeviceEventRecord.isNotification =
    (bus.virtioEvents ++
      (acceptedAccesses files bus calls).filterMap fun a => a.1.notification a.2).filter
      MmioDeviceEventRecord.isNotification := by
  induction calls generalizing bus with
  | nil => exact congrArg (List.filter _) (List.append_nil _).symm
  | cons call calls ih =>
      have hstep := (call.busStep_run files bus).notifications
      have hrest := ih (call.run files bus)
      have hdrained : drainedRecords files bus (call :: calls) =
          call.drained bus ++ drainedRecords files (call.run files bus) calls := rfl
      have haccepted : acceptedAccesses files bus (call :: calls) =
          call.accepted bus ++ acceptedAccesses files (call.run files bus) calls := rfl
      have hrun : runCalls files bus (call :: calls) =
          runCalls files (call.run files bus) calls := rfl
      rw [hdrained, haccepted, hrun, List.filterMap_append, List.append_assoc, List.filter_append,
        hrest, List.filter_append, ← List.append_assoc, ← List.filter_append, hstep,
        ← List.append_assoc, ← List.filter_append]

theorem filter_notifications (accesses : List (Device × MmioExit)) :
    (accesses.filterMap fun a => a.1.notification a.2).filter
      MmioDeviceEventRecord.isNotification =
    accesses.filterMap fun a => a.1.notification a.2 := by
  refine List.filter_eq_self.mpr fun record hrecord => ?_
  obtain ⟨⟨device, exit⟩, -, hnotification⟩ := List.mem_filterMap.mp hrecord
  cases device with
  | byte d => cases hnotification
  | rng d | blk d =>
      simp only [Device.notification, Option.ite_none_right_eq_some, Option.some.injEq]
        at hnotification
      rw [← hnotification.2]
      rfl

/-! ### Host notifications -/

/-- The access by which a guest notifies the queue of a virtio device. -/
def notifyWrite (bar0 : UInt64) (queue : UInt16) : MmioExit where
  address := bar0 + UInt64.ofNat virtioNotifyOffset
  direction := .write
  length := 2
  writeData := u16Bytes queue

section Routed

variable {i : ℕ} {d : VirtioBlkDevice} {address : UInt64}

/-- On a routed bus, an address that a virtio-blk device handles belongs to that device. -/
theorem firstMatch_of_routed (hbus : bus.Routed) (hd : bus.virtioBlkDevices[i]? = some d)
    (h : virtioBlkHandles d address = true) :
    firstMatch (fun d => d.handles address) bus.byteDevices = none ∧
    firstMatch (fun d => virtioRngHandles d address) bus.virtioRngDevices = none ∧
    firstMatch (fun d => virtioBlkHandles d address) bus.virtioBlkDevices = some (i, d) := by
  have hslot : bus.device? (.blk i) = some (.blk d) := congrArg (Option.map Device.blk) hd
  refine ⟨Option.eq_none_iff_forall_ne_some.mpr fun found hfound => ?_,
    Option.eq_none_iff_forall_ne_some.mpr fun found hfound => ?_, ?_⟩
  · obtain ⟨hother, hhandles⟩ := of_firstMatch hfound
    have hbyte : bus.device? (.byte found.1) = some (.byte found.2) :=
      congrArg (Option.map Device.byte) hother
    cases hbus.slot_eq hslot hbyte h hhandles
  · obtain ⟨hother, hhandles⟩ := of_firstMatch hfound
    have hrng : bus.device? (.rng found.1) = some (.rng found.2) :=
      congrArg (Option.map Device.rng) hother
    cases hbus.slot_eq hslot hrng h hhandles
  · obtain ⟨j, b, hfound⟩ := exists_firstMatch (p := fun d => virtioBlkHandles d address)
      (List.mem_of_getElem? hd) h
    obtain ⟨hother, hhandles⟩ := of_firstMatch hfound
    have hblk : bus.device? (.blk j) = some (.blk b) := congrArg (Option.map Device.blk) hother
    cases hbus.slot_eq hslot hblk h hhandles
    rw [hfound, Option.some.inj (hother.symm.trans hd)]

theorem firstMatch_bar0 (hbus : bus.Routed) (hd : bus.virtioBlkDevices[i]? = some d) :
    firstMatch (fun b => b.bar0 = d.bar0) bus.virtioBlkDevices = some (i, d) := by
  have hslot : bus.device? (.blk i) = some (.blk d) := congrArg (Option.map Device.blk) hd
  obtain ⟨j, b, hfound⟩ := exists_firstMatch (p := fun b => b.bar0 = d.bar0)
    (List.mem_of_getElem? hd) (decide_eq_true rfl)
  obtain ⟨hother, hbar⟩ := of_firstMatch hfound
  have hblk : bus.device? (.blk j) = some (.blk b) := congrArg (Option.map Device.blk) hother
  have hbase := hbus.handles_base hblk
  rw [show (Device.blk b).range.1 = (Device.blk d).range.1 from of_decide_eq_true hbar] at hbase
  cases hbus.slot_eq hslot hblk (hbus.handles_base hslot) hbase
  rw [hfound, Option.some.inj (hother.symm.trans hd)]

theorem handles_notifyWrite (hbus : bus.Routed) (hd : bus.virtioBlkDevices[i]? = some d)
    (queue : UInt16) : virtioBlkHandles d (notifyWrite d.bar0 queue).address = true := by
  have hslot : bus.device? (.blk i) = some (.blk d) := congrArg (Option.map Device.blk) hd
  have hfits : d.bar0.toNat + 0x1000 < 2 ^ 64 := hbus.fits _ (MmioBus.range_mem hslot)
  have haddress : (notifyWrite d.bar0 queue).address.toNat = d.bar0.toNat + 0x100 := by
    rw [notifyWrite, UInt64.toNat_add]
    exact Nat.mod_eq_of_lt (Nat.lt_of_le_of_lt (by simp [virtioNotifyOffset]) hfits)
  refine rangeHandles_iff.mpr ⟨hfits, ?_, ?_⟩ <;> rw [haddress]
  · exact Nat.le_add_right _ _
  · exact Nat.add_lt_add_left (show 0x100 < 0x1000 by decide) _

theorem address_notifyWrite_sub (bar0 : UInt64) (queue : UInt16) :
    ((notifyWrite bar0 queue).address - bar0).toNat = virtioNotifyOffset := by
  rw [notifyWrite, UInt64.add_comm, UInt64.add_sub_cancel]
  rfl

section NotifyWrite

variable {queue : UInt16} {d' : VirtioBlkDevice}

theorem dispatchVirtioBlk_of_ok {event : Option VirtioBlkEvent}
    (h : (VirtioBlkDevice.write virtioNotifyOffset (u16Bytes queue)).run d = .ok event d') :
    ∃ record, (MmioBus.dispatchVirtioBlk (notifyWrite d.bar0 queue)).run d =
      .ok (.write, record) d' := by
  have hget : (get : EStateM VirtioBlkError VirtioBlkDevice VirtioBlkDevice).run d = .ok d d := rfl
  rw [← address_notifyWrite_sub d.bar0 queue] at h
  exact ⟨_, (run_bind_of_ok hget).trans ((run_bind_of_ok h).trans rfl)⟩

theorem dispatchVirtioBlk_of_error {e : VirtioBlkError}
    (h : (VirtioBlkDevice.write virtioNotifyOffset (u16Bytes queue)).run d = .error e d') :
    (MmioBus.dispatchVirtioBlk (notifyWrite d.bar0 queue)).run d = .error e d' := by
  have hget : (get : EStateM VirtioBlkError VirtioBlkDevice VirtioBlkDevice).run d = .ok d d := rfl
  rw [← address_notifyWrite_sub d.bar0 queue] at h
  exact (run_bind_of_ok hget).trans (run_bind_of_error h)

end NotifyWrite

/-- **A host notification is a guest notification without a record.** -/
theorem hostNotification_run (hbus : bus.Routed) (hd : bus.virtioBlkDevices[i]? = some d)
    (queue : UInt16) :
    succeeded ((MmioBus.applyVirtioBlkHostNotification d.bar0 queue).run bus) =
      succeeded ((MmioBus.dispatch (notifyWrite d.bar0 queue)).run bus) ∧
    finalState ((MmioBus.applyVirtioBlkHostNotification d.bar0 queue).run bus) =
      { finalState ((MmioBus.dispatch (notifyWrite d.bar0 queue)).run bus) with
        virtioEvents := bus.virtioEvents } := by
  obtain ⟨noByte, noRng, htarget⟩ :=
    firstMatch_of_routed hbus hd (handles_notifyWrite hbus hd queue)
  rw [run_dispatch_of_none noByte, run_dispatchToVirtio_of_none noRng, dispatchToVirtioBlk,
    MmioBus.applyVirtioBlkHostNotification]
  have hguest := MmioBus.virtioBlkList.run_onDevice
    (f := MmioBus.dispatchVirtioBlk (notifyWrite d.bar0 queue)) htarget
  rcases MmioBus.virtioBlkList.run_onDevice
      (f := VirtioBlkDevice.write virtioNotifyOffset (u16Bytes queue)) (firstMatch_bar0 hbus hd)
    with ⟨event, d', hwrite, hhost⟩ | ⟨e, d', hwrite, hhost⟩
  · obtain ⟨record, hdispatch⟩ := dispatchVirtioBlk_of_ok hwrite
    obtain ⟨rfl, hqueue⟩ := event_of_write rfl hwrite
    -- the register accepts queue `0` only, so the event is the one the bridge expects
    obtain rfl : queue = 0 := by simpa using hqueue rfl
    rcases hguest with ⟨_, _, hrun, hguest⟩ | ⟨_, _, hrun, -⟩
    · cases hdispatch.symm.trans hrun
      rw [run_bind_of_ok hhost, run_bind_of_ok hguest]
      exact ⟨rfl, rfl⟩
    · cases hdispatch.symm.trans hrun
  · have hdispatch := dispatchVirtioBlk_of_error hwrite
    rcases hguest with ⟨_, _, hrun, -⟩ | ⟨_, _, hrun, hguest⟩
    · cases hdispatch.symm.trans hrun
    · cases hdispatch.symm.trans hrun
      rw [run_bind_of_error hhost, run_bind_of_error hguest]
      exact ⟨rfl, rfl⟩

end Routed

/-- **Notification events are exact.** Along every run of operations on a bus: the records of
notified queues that were drained, followed by those still queued, are those of the accepted writes
of notify registers, in order.  A host notification leaves the queue of records as it is, and the
devices as the write of the notify register by the guest leaves them; and a rejected access leaves
no record. -/
theorem notifications_exact (constructor : BusConstructor) (calls : List (Call H)) :
    (drainedRecords files constructor.build calls ++
        (runCalls files constructor.build calls).virtioEvents).filter
        MmioDeviceEventRecord.isNotification =
      (acceptedAccesses files constructor.build calls).filterMap
        (fun a => a.1.notification a.2) ∧
    (∀ bus, bus = runCalls files constructor.build calls → ∀ d ∈ bus.virtioBlkDevices,
      ∀ queue : UInt16,
      succeeded ((MmioBus.applyVirtioBlkHostNotification d.bar0 queue).run bus) =
        succeeded ((MmioBus.dispatch (notifyWrite d.bar0 queue)).run bus) ∧
      finalState ((MmioBus.applyVirtioBlkHostNotification d.bar0 queue).run bus) =
        { finalState ((MmioBus.dispatch (notifyWrite d.bar0 queue)).run bus) with
          virtioEvents := bus.virtioEvents }) ∧
    ∀ bus exit e bus', (MmioBus.dispatch exit).run bus = .error e bus' →
      bus'.virtioEvents = bus.virtioEvents := by
  refine ⟨?_, ?_, fun bus exit e bus' hrun => ?_⟩
  · have hempty : constructor.build.virtioEvents = [] := by cases constructor <;> rfl
    rw [notifications_runCalls, hempty, List.nil_append, filter_notifications]
  · rintro bus rfl d hd queue
    obtain ⟨i, hi⟩ := List.getElem?_of_mem hd
    rcases routed_or_sealed files constructor calls with hbus | ⟨range, hlayout, -⟩
    · exact hostNotification_run hbus hi queue
    · have hnone : (runCalls files constructor.build calls).virtioBlkDevices = [] :=
        List.map_eq_nil_iff.mp (congrArg (fun layout => layout.2.2) hlayout)
      rw [hnone] at hd
      cases hd
  · have houtcome := dispatched exit bus
    rw [hrun] at houtcome
    cases houtcome <;> rfl

end Queue

end MiniHypervisor.Mmio
