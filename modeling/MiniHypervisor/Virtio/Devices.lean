import MiniHypervisor.Virtio.Registers
import MiniHypervisor.VirtioBlk.Legacy
import MiniHypervisor.VirtioRng.Failure

/-!
# The block device and the entropy device as transports

The registers of the two devices realise the calls of a transport, each with the features that the
device accepts.  What is left is the service of the queue.  The block device has two processors, one
of which stores outgoing data in the host file behind its disk; the entropy device has one.  Each of
them completes one request of a ready queue with a pending notification, or fails and leaves
the registers as they were.

## Main definitions

* `VirtioBlk.blkDevice`, `VirtioRng.rngDevice` : the devices as devices with a transport.

## Main results

* `VirtioBlk.VirtioBlkDevice.serve_realises` : a service of the block device completes one request
  or changes nothing.
-/

namespace MiniHypervisor

open Bytes Control Memory Virtio

theorem keeps_transport {ε S D α : Type} {device : S → D}
    {registers : D → VirtioBlk.VirtioRegisters} {x : EStateM ε S α} (h : Keeps device x)
    (t : Transport) :
    Ensures (fun s => (registers (device s)).transport = t) x
      (fun _ s => (registers (device s)).transport = t)
      fun s => (registers (device s)).transport = t :=
  .of_keeps (h.comp fun d => (registers d).transport)

/-! ### The block device -/

namespace VirtioBlk

variable {H : Type}

/-- A call that serves the queue of the block device: by which processor, and with which guest
memory and host state. -/
structure BlkService (H : Type) where
  atomic : Bool
  memory : GuestMemory
  host : H

section Services

open VirtioBlkDevice

variable {device : VirtioBlkDevice} {memory : GuestMemory}

theorem allows_of_readsRequest {head availIdx : UInt16} {chain : ResolvedRequestChain}
    {header : List UInt8} {backingStart : ℕ}
    (h : device.ReadsRequest memory head availIdx chain header backingStart) :
    device.transport.Allows featuresValid .completed ∧ availIdx = device.lastAvailIdx + 1 :=
  ⟨⟨ready_of_ensureQueueReady h.ready, h.pending⟩, h.availIdx_eq⟩

theorem ensures_processNotifiedQueueAtomic (files : HostFiles H) (t : Transport) :
    Ensures (fun s => s.device.transport = t) (processNotifiedQueueAtomic files)
      (fun _ s => t.Realises featuresValid .completed s.device.transport)
      fun s => s.device.transport = t := by
  refine .bind (Q := fun r s => (t.Allows featuresValid .completed ∧
    r.availIdx = t.lastAvailIdx + 1) ∧ s.device.transport = t)
    (.reads ?_ fun _ hs => hs) fun r => ?_
  · rintro s r rfl haccept
    obtain ⟨_, _, hreads, -⟩ := acceptRequest_eq_ok.mp haccept
    exact ⟨allows_of_readsRequest hreads, rfl⟩
  refine .of_fact fun ⟨hallows, havail⟩ => ?_
  have hincoming : Keeps BlkState.device (writeIncomingData (H := H) r) :=
    .ite (.bind (fun _ => rfl) fun _ => .bind (writeGuest_keeps_device _ _) fun _ => .pure _)
      (.pure _)
  refine .bind (keeps_transport (persistOutgoingData_keeps_device files r) t) fun _ => ?_
  refine .bind (keeps_transport hincoming t) fun _ => ?_
  refine .bind (keeps_transport (writeGuest_keeps_device _ _) t) fun _ => ?_
  refine .bind (keeps_transport (writeGuest_keeps_device _ _) t) fun _ => ?_
  refine .bind (keeps_transport (fun _ => rfl) t) fun _ => ?_
  refine .bind (keeps_transport (writeGuest_keeps_device _ _) t) fun _ => ?_
  refine .bind (.modify fun s hs => ?_) fun _ => .pure fun _ hs => hs
  exact Transport.realises_completed hallows hs havail (congrArg (·.lastUsedIdx + 1) hs)

theorem ensures_processNotifiedQueue (t : Transport) :
    Ensures (fun s => s.device.transport = t) (processNotifiedQueue (H := H))
      (fun _ s => t.Realises featuresValid .completed s.device.transport)
      fun s => s.device.transport = t := by
  refine .bind (Q := fun q s => (t.Allows featuresValid .completed ∧
    q.availIdx = t.lastAvailIdx + 1) ∧ s.device.transport = t)
    (.reads ?_ fun _ hs => hs) fun q => ?_
  · rintro s q rfl haccept
    obtain ⟨_, _, hreads, -⟩ := acceptReadRequest_eq_ok.mp haccept
    exact ⟨allows_of_readsRequest hreads, rfl⟩
  refine .of_fact fun ⟨hallows, havail⟩ => .get_bind fun s hs => ?_
  refine .strengthen (P := fun s => s.device.transport = t) ?_ fun s' hs' => hs' ▸ hs
  refine .bind (keeps_transport (writeGuest_keeps_device _ _) t) fun _ => ?_
  refine .bind (keeps_transport (writeGuest_keeps_device _ _) t) fun _ => ?_
  refine .bind (keeps_transport (.reads _) t) fun _ => ?_
  refine .bind (keeps_transport (writeGuest_keeps_device _ _) t) fun _ => ?_
  refine .bind (keeps_transport (.reads _) t) fun _ => ?_
  refine .bind (keeps_transport (writeGuest_keeps_device _ _) t) fun _ => ?_
  refine .bind (.modify fun s' hs' => ?_) fun _ => .pure fun _ hs => hs
  exact Transport.realises_completed hallows hs' havail (congrArg (·.lastUsedIdx + 1) hs)

/-- The outcome of a service, and the device after it. -/
def VirtioBlkDevice.serve (files : HostFiles H) (device : VirtioBlkDevice)
    (service : BlkService H) : Bool × VirtioBlkDevice :=
  let s : BlkState H := ⟨device, service.memory, service.host⟩
  let outcome := if service.atomic then (processNotifiedQueueAtomic files).run s
    else processNotifiedQueue.run s
  (succeeded outcome, (finalState outcome).device)

theorem VirtioBlkDevice.serve_realises (files : HostFiles H) (device : VirtioBlkDevice)
    (service : BlkService H) :
    ((device.serve files service).1 = true ∧ device.transport.Realises featuresValid .completed
      (device.serve files service).2.transport) ∨
    ((device.serve files service).1 = false ∧
      (device.serve files service).2.transport = device.transport) := by
  unfold VirtioBlkDevice.serve
  dsimp only
  split_ifs
  · exact (ensures_processNotifiedQueueAtomic files device.transport).outcome rfl
  · exact (ensures_processNotifiedQueue device.transport).outcome rfl

end Services

/-- The block device, with the file operations of a host. -/
def blkDevice (files : HostFiles H) : TransportDevice VirtioBlkDevice (BlkService H) :=
  .ofPrograms (·.transport) VirtioBlkDevice.featuresValid VirtioBlkDevice.read
    VirtioBlkDevice.write (VirtioBlkDevice.serve files)
    (fun offset length =>
      (realises_read offset length).within fun _ _ => rfl)
    (fun offset payload => (realises_write rfl _ offset payload).within fun _ _ => rfl)
    (VirtioBlkDevice.serve_realises files)

end VirtioBlk

/-! ### The entropy device -/

namespace VirtioRng

open VirtioBlk (virtioFVersion1 virtioQueueMaxSize readGuestU16_eq_ok)

section Services

open VirtioRngDevice

theorem ready_of_acceptNotification {s : RngState} {notification : AcceptedNotification}
    (h : acceptNotification s = .ok notification) :
    s.device.transport.Allows featuresValid .completed ∧
      notification.availIdx = s.device.lastAvailIdx + 1 := by
  simp only [acceptNotification, bind_eq_ok, mapError_eq_ok, rejectIf_eq_ok, pure, Except.pure,
    Except.ok.injEq] at h
  obtain ⟨_, hready, _, hpending, _, -, _, -, _, havail, h⟩ := h
  obtain ⟨_, -, _, -, _, -, _, -, _, -, _, -, _, -, _, -, _, -, _, -, rfl⟩ := h
  exact ⟨⟨ready_of_ensureQueueReady hready, not_not.mp hpending⟩, not_not.mp havail⟩

theorem ensures_processNotifiedQueue (t : Transport) :
    Ensures (fun s => s.device.transport = t) processNotifiedQueue
      (fun _ s => t.Realises featuresValid .completed s.device.transport)
      fun s => s.device.transport = t := by
  refine .bind (Q := fun notification s => (t.Allows featuresValid .completed ∧
    notification.availIdx = t.lastAvailIdx + 1) ∧ s.device.transport = t)
    (.reads ?_ fun _ hs => hs) fun notification => ?_
  · rintro s notification rfl haccept
    exact ⟨ready_of_acceptNotification haccept, rfl⟩
  refine .of_fact fun ⟨hallows, havail⟩ => ?_
  refine .bind (keeps_transport (writeGuest_keeps_device _ _) t) fun _ => .get_bind fun s hs => ?_
  refine .strengthen (P := fun s => s.device.transport = t) ?_ fun s' hs' => hs' ▸ hs
  refine .bind (keeps_transport (.reads _) t) fun _ => ?_
  refine .bind (keeps_transport (writeGuest_keeps_device _ _) t) fun _ => ?_
  refine .bind (keeps_transport (.reads _) t) fun _ => ?_
  refine .bind (keeps_transport (writeGuest_keeps_device _ _) t) fun _ => ?_
  refine .bind (.modify fun s' hs' => ?_) fun _ => .pure fun _ hs => hs
  exact Transport.realises_completed hallows hs' havail (congrArg (·.lastUsedIdx + 1) hs)

/-- The outcome of a service, and the device after it. -/
def VirtioRngDevice.serve (device : VirtioRngDevice) (memory : GuestMemory) :
    Bool × VirtioRngDevice :=
  let outcome := processNotifiedQueue.run ⟨device, memory⟩
  (succeeded outcome, (finalState outcome).device)

end Services

/-- The entropy device. -/
def rngDevice : TransportDevice VirtioRngDevice GuestMemory :=
  .ofPrograms (·.transport) VirtioRngDevice.featuresValid VirtioRngDevice.read
    VirtioRngDevice.write VirtioRngDevice.serve
    (fun offset length => (realises_read offset length).within fun _ _ => rfl)
    (fun offset payload => (realises_write rfl _ offset payload).within fun _ _ => rfl)
    fun device _ => (ensures_processNotifiedQueue device.transport).outcome rfl

end VirtioRng

end MiniHypervisor
