import MiniHypervisor.Control.Simulation
import MiniHypervisor.VirtioBlk.Atomicity

/-!
# A memory-backed device on two hosts

A migrated device goes on serving its guest on another host, with other files and other outcomes
of its file operations.  A device that keeps its disk in memory never asks the host for anything,
so the same device with the same guest memory answers every sequence of calls in the same way on
both hosts.  The calls are the register accesses, the two ways of serving a notification, of which
one checks all guest ranges before it writes and the other does not, and the updates of the guest
memory between them.
-/

namespace MiniHypervisor.VirtioBlk

open Bytes Control Memory

/-! ### Calls -/

/-- A call of the device, or an update of the guest memory. -/
inductive BlkCall where
  | read (offset length : ℕ)
  | write (offset : ℕ) (payload : List UInt8)
  | processNotifiedQueue
  | processNotifiedQueueAtomic
  | updateMemory (memory : GuestMemory)

/-- What a call returns. -/
inductive BlkAnswer where
  | bytes (bytes : List UInt8)
  | event (event : Option VirtioBlkEvent)
  | completion (completion : VirtioBlkQueueCompletion)
  | updated
  deriving DecidableEq, Repr

section Calls

variable {H : Type}

/-- A register access of the device. -/
def onDevice (x : EStateM VirtioBlkError VirtioBlkDevice α) :
    EStateM VirtioBlkProcessError (BlkState H) α :=
  within BlkState.device (fun s device => { s with device }) VirtioBlkProcessError.device x

/-- A call on a state. -/
def BlkCall.perform (files : HostFiles H) :
    BlkCall → EStateM VirtioBlkProcessError (BlkState H) BlkAnswer
  | .read offset length => do
      let bytes ← onDevice (VirtioBlkDevice.read offset length)
      return .bytes bytes
  | .write offset payload => do
      let event ← onDevice (VirtioBlkDevice.write offset payload)
      return .event event
  | .processNotifiedQueue => do
      let completion ← VirtioBlk.processNotifiedQueue
      return .completion completion
  | .processNotifiedQueueAtomic => do
      let completion ← VirtioBlk.processNotifiedQueueAtomic files
      return .completion completion
  | .updateMemory memory => do
      modify fun s => { s with memory }
      return .updated

end Calls

/-! ### One call on two hosts -/

section Hosts

variable {H K : Type}

/-- The same memory-backed device and the same guest memory, on two hosts. -/
structure SameGuest (s : BlkState H) (t : BlkState K) : Prop where
  device : s.device = t.device
  memory : s.memory = t.memory
  memoryBacked : MemoryBacked s

theorem simulates_onDevice {x : EStateM VirtioBlkError VirtioBlkDevice α}
    (hx : Keeps VirtioBlkDevice.disk x) :
    Simulates (SameGuest (H := H) (K := K)) (onDevice x) (onDevice x) :=
  .within (fun _ _ h => h.device) fun s _ h =>
    ⟨rfl, h.memory, (congrArg Prod.snd (hx s.device)).trans h.memoryBacked⟩

theorem simulates_writeGuest (address : ℕ) (source : List UInt8) :
    Simulates (SameGuest (H := H) (K := K)) (writeGuest address source)
      (writeGuest address source) :=
  .within (fun _ _ h => h.memory) fun _ _ h => ⟨h.device, rfl, h.memoryBacked⟩

theorem simulates_completeReadRequest (request : ReadRequest) :
    Simulates (SameGuest (H := H) (K := K)) (completeReadRequest request)
      (completeReadRequest request) := by
  refine .get_bind fun s t h => ?_
  rw [h.device]
  refine (simulates_writeGuest _ _).bind fun _ => (simulates_writeGuest _ _).bind fun _ => ?_
  refine (Simulates.reads fun _ _ _ => rfl).bind fun _ => ?_
  refine (simulates_writeGuest _ _).bind fun _ => ?_
  refine (Simulates.reads fun _ _ _ => rfl).bind fun _ => ?_
  refine (simulates_writeGuest _ _).bind fun _ => ?_
  refine (Simulates.modify fun s t h => ?_).bind fun _ => .pure _
  exact ⟨by rw [h.device], h.memory, h.memoryBacked⟩

theorem simulates_processNotifiedQueue :
    Simulates (SameGuest (H := H) (K := K)) processNotifiedQueue processNotifiedQueue :=
  (Simulates.reads fun _ _ h => by rw [h.device, h.memory]).bind simulates_completeReadRequest

/-- Whether a request is accepted depends on the device and the guest memory, and a memory-backed
device serves every accepted request. -/
theorem simulates_processNotifiedQueueAtomic (files : HostFiles H) (files' : HostFiles K) :
    Simulates SameGuest (processNotifiedQueueAtomic files) (processNotifiedQueueAtomic files') := by
  intro s t h
  have hbacked : MemoryBacked t := (congrArg _ h.device).symm.trans h.memoryBacked
  have haccept : t.device.acceptRequest t.memory = s.device.acceptRequest s.memory := by
    rw [h.device, h.memory]
  cases hs : s.device.acceptRequest s.memory with
  | ok request =>
      rw [run_process_of_ok h.memoryBacked hs, run_process_of_ok hbacked (haccept.trans hs)]
      exact .ok _ ⟨by rw [h.device], by rw [h.device, h.memory], h.memoryBacked⟩
  | error e =>
      rw [run_process_of_error hs, run_process_of_error (haccept.trans hs)]
      exact .error e h

/-- **Every call answers alike on two hosts** when the device is the same and memory-backed. -/
theorem simulates_perform (files : HostFiles H) (files' : HostFiles K) (call : BlkCall) :
    Simulates SameGuest (call.perform files) (call.perform files') := by
  cases call with
  | read offset length =>
      exact (simulates_onDevice (VirtioBlkDevice.read_keeps_disk offset length)).bind
        fun _ => .pure _
  | write offset payload =>
      exact (simulates_onDevice (VirtioBlkDevice.write_keeps_disk offset payload)).bind
        fun _ => .pure _
  | processNotifiedQueue => exact simulates_processNotifiedQueue.bind fun _ => .pure _
  | processNotifiedQueueAtomic =>
      exact (simulates_processNotifiedQueueAtomic files files').bind fun _ => .pure _
  | updateMemory memory =>
      exact (Simulates.modify fun _ _ h => ⟨h.device, rfl, h.memoryBacked⟩).bind fun _ => .pure _

end Hosts

/-! ### Continuations -/

/-- On every two hosts, with the same guest memory and for every list of calls, the two devices
return the same results and errors and leave the same memory and the same registers and disk. -/
def BehavesAlike (device device' : VirtioBlkDevice) : Prop :=
  ∀ (H K : Type) (files : HostFiles H) (files' : HostFiles K) (host : H) (host' : K)
    (memory : GuestMemory) (calls : List BlkCall),
    answers (BlkCall.perform files) ⟨device, memory, host⟩ calls =
      answers (BlkCall.perform files') ⟨device', memory, host'⟩ calls ∧
    (runCalls (BlkCall.perform files) ⟨device, memory, host⟩ calls).memory =
      (runCalls (BlkCall.perform files') ⟨device', memory, host'⟩ calls).memory ∧
    (runCalls (BlkCall.perform files) ⟨device, memory, host⟩ calls).device =
      (runCalls (BlkCall.perform files') ⟨device', memory, host'⟩ calls).device

theorem behavesAlike_self {device : VirtioBlkDevice} (h : device.persistentBacking = none) :
    BehavesAlike device device := by
  intro H K files files' host host' memory calls
  have hstart : SameGuest (⟨device, memory, host⟩ : BlkState H) ⟨device, memory, host'⟩ :=
    ⟨rfl, rfl, h⟩
  obtain ⟨hanswers, hend⟩ :=
    answers_eq_of_simulates (simulates_perform files files') calls hstart
  exact ⟨hanswers, hend.memory, hend.device⟩

end MiniHypervisor.VirtioBlk
