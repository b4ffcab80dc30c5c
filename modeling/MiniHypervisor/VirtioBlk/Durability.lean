import MiniHypervisor.VirtioBlk.Disk
import MiniHypervisor.VirtioBlk.HostFile

/-!
# Durability of a disk in a file

A device that keeps its disk in a file has two copies of it: the array in memory, which read
requests are served from, and the file, which the next device opens.  A write request is stored and
made durable in the file before the guest sees anything of its completion, and in the array at its
end.  So as long as the operations on the file succeed the two copies agree between calls, and the
file is durable.

An operation on the file that fails ends the call before the array is changed.  When it is the
`sync_all` that fails, the file already has the bytes: the two copies then differ, unless the bytes
were there before.
-/

namespace MiniHypervisor.VirtioBlk

open Bytes Control Memory

open VirtioBlkDevice (AcceptedRequest createFileBacked openFileBacked withBacking)

/-! ### The two copies agree -/

/-- The disk is kept in the file, the operations of the host succeed, and the file holds what the
array holds, durably. -/
structure Synced (path : String) (s : BlkState Host) : Prop where
  backed : s.device.persistentBacking = some path
  works : ∀ op, s.host.failing op = none
  file : s.host.file path = some ⟨s.device.backing.1, s.device.backing.1⟩

section Process

variable {H : Type} {files : HostFiles H}

theorem run_process_of_accept {s : BlkState H} {r : AcceptedRequest}
    (h : s.device.acceptRequest s.memory = .ok r) :
    (processNotifiedQueueAtomic files).run s = (do
      persistOutgoingData files r
      publishRequest r).run s := by
  have hread : (reads fun s : BlkState H => s.device.acceptRequest s.memory).run s =
      .ok r s := run_reads_of_ok h
  rw [processNotifiedQueueAtomic, run_bind_of_ok hread, completeRequest_eq]

theorem persistOutgoingData_of_none {r : AcceptedRequest} (h : r.outgoingData = none) :
    persistOutgoingData files r = pure () := by
  rw [persistOutgoingData, h]

section Outgoing

variable {device : VirtioBlkDevice} {memory : GuestMemory} {r : AcceptedRequest}
  {bytes : List UInt8} (h : device.Accepted memory r) (hbytes : r.outgoingData = some bytes)

include h hbytes

theorem length_outgoingData : bytes.length = r.data.length.toNat := by
  rcases h.incoming_or_outgoing with ⟨-, hnone, -⟩ | ⟨-, bytes', hsome, hread⟩
  · cases hnone.symm.trans hbytes
  · cases hsome.symm.trans hbytes
    exact GuestMemory.length_of_read hread

theorem outgoingData_range : r.backingStart + bytes.length ≤ virtioBlkBackingSize := by
  rw [length_outgoingData h hbytes]
  exact h.range_le

theorem persistOutgoingData_of_some :
    persistOutgoingData files r = persistBackingRange files r.backingStart bytes.length bytes := by
  rw [persistOutgoingData, hbytes, length_outgoingData h hbytes]

end Outgoing

end Process

section Synced

variable {path : String} {s : BlkState Host} {r : AcceptedRequest}

/-- The outgoing buffer of a write request is durable before the guest sees its completion. -/
theorem Synced.persist (hs : Synced path s) (h : s.device.Accepted s.memory r) {bytes : List UInt8}
    (hbytes : r.outgoingData = some bytes) :
    ∃ s₁, (persistOutgoingData hostFiles r).run s = .ok () s₁ ∧ s₁.device = s.device ∧
      s₁.memory = s.memory ∧ s₁.host.failing = s.host.failing ∧
      s₁.host.file path =
        some ⟨(s.device.advance r).backing.1, (s.device.advance r).backing.1⟩ := by
  have hrange := outgoingData_range h hbytes
  obtain ⟨s₁, hrun, hseen⟩ := yields_persistBackingRange hs.backed hrange
    (hs.works .openReadWrite) (hs.works .seek) (hs.works .writeAll) (hs.works .syncAll) s
    (show seenState path s = (s.device, s.memory,
      some ⟨s.device.backing.1, s.device.backing.1⟩, s.host.position, s.host.failing) by
      rw [seenState, Host.seen, hs.file])
  simp only [seenState, Host.seen, Prod.mk.injEq] at hseen
  obtain ⟨hdevice, hmemory, hfile, -, hfailing⟩ := hseen
  refine ⟨s₁, (persistOutgoingData_of_some h hbytes) ▸ hrun, hdevice, hmemory, hfailing, ?_⟩
  rw [hfile, writeAt_eq_splice hrange, VirtioBlkDevice.advance, hbytes]

theorem Synced.process_of_accept (hs : Synced path s)
    (haccept : s.device.acceptRequest s.memory = .ok r) :
    ∃ c s', (processNotifiedQueueAtomic hostFiles).run s = .ok c s' ∧ Synced path s' := by
  have h := VirtioBlkDevice.accepted_of_acceptRequest haccept
  rw [run_process_of_accept haccept]
  cases hbytes : r.outgoingData with
  | none =>
      rw [persistOutgoingData_of_none hbytes, pure_bind, run_publishRequest h]
      refine ⟨_, _, rfl, hs.backed, hs.works, ?_⟩
      have hbacking : (s.device.advance r).backing = s.device.backing := by
        rw [VirtioBlkDevice.advance, hbytes]
      rw [hbacking]
      exact hs.file
  | some bytes =>
      obtain ⟨s₁, hrun, hdevice, hmemory, hfailing, hfile⟩ := hs.persist h hbytes
      have h₁ : s₁.device.Accepted s₁.memory r := by rwa [hdevice, hmemory]
      rw [run_bind_of_ok hrun, run_publishRequest h₁]
      refine ⟨_, _, rfl, ?_, ?_, ?_⟩
      · rw [hdevice]
        exact hs.backed
      · rw [hfailing]
        exact hs.works
      · rw [hdevice]
        exact hfile

theorem Synced.blkStep (hs : Synced path s) (op : BlkOp) :
    Synced path (blkStep hostFiles s op) := by
  have hregisters {device : VirtioBlkDevice} (hdisk : device.disk = s.device.disk) :
      Synced path { s with device } := by
    obtain ⟨hbacking, hbacked⟩ := Prod.mk.inj hdisk
    refine ⟨hbacked.trans hs.backed, hs.works, ?_⟩
    rw [hbacking]
    exact hs.file
  cases op with
  | readRegister offset length => exact hregisters (VirtioBlkDevice.read_keeps_disk offset length _)
  | writeRegister offset payload =>
      exact hregisters (VirtioBlkDevice.write_keeps_disk offset payload _)
  | updateMemory memory => exact ⟨hs.backed, hs.works, hs.file⟩
  | process =>
      cases haccept : s.device.acceptRequest s.memory with
      | error e =>
          rw [blkStep_process_of_error (run_process_of_error haccept)]
          exact hs
      | ok r =>
          obtain ⟨c, s', hrun, hs'⟩ := hs.process_of_accept haccept
          rw [blkStep_process_of_ok hrun]
          exact hs'

end Synced

/-! ### Devices made with a file -/

/-- The device was made by one of the constructors, on a host whose operations succeed.  A file that
is opened has no writes that are not yet durable. -/
def MadeWithFile (bar0 : UInt64) (path : String) (device : VirtioBlkDevice) (host : Host) : Prop :=
  ∃ before : Host, (∀ op, before.failing op = none) ∧
    ((createFileBacked bar0 path).run before = .ok device host ∨
      (∃ content, before.file path = some ⟨content, content⟩) ∧
        (openFileBacked bar0 path).run before = .ok device host)

theorem synced_of_madeWithFile {bar0 : UInt64} {path : String} {device : VirtioBlkDevice}
    {host : Host} (h : MadeWithFile bar0 path device host) (memory : GuestMemory) :
    Synced path ⟨device, memory, host⟩ := by
  obtain ⟨before, hworks, hcreate | ⟨⟨content, hfile⟩, hopen⟩⟩ := h
  · obtain ⟨host', hrun, hseen⟩ := VirtioBlkDevice.yields_createFileBacked bar0 hworks before rfl
    cases hrun.symm.trans hcreate
    obtain ⟨hfile, -, hfailing⟩ := Host.seen_eq_iff.mp hseen
    exact ⟨rfl, fun op => hfailing ▸ hworks op, hfile⟩
  · obtain ⟨_, hfile', hlength⟩ := VirtioBlkDevice.length_of_openFileBacked hworks hopen
    cases hfile.symm.trans hfile'
    have hcontent : (⟨content, content⟩ : ImageFile).content =
        (⟨content, hlength⟩ : FixedBytes virtioBlkBackingSize).1 := rfl
    obtain ⟨host', hrun, hseen⟩ := VirtioBlkDevice.yields_openFileBacked bar0 hworks hcontent
      before (Host.seen_eq_iff.mpr ⟨hfile, rfl, rfl⟩)
    cases hrun.symm.trans hopen
    obtain ⟨hfile, -, hfailing⟩ := Host.seen_eq_iff.mp hseen
    exact ⟨rfl, fun op => hfailing ▸ hworks op, hfile⟩

/-- **Durability.** For a device made with a file and any run of register accesses, memory updates
and queue calls in which the operations on the file succeed: between calls the file holds durably
the 2048 bytes of the disk, so opening it gives a device with the same disk.  And in a call that
serves a write request the file is durable with the new bytes while the guest memory is still as it
was; everything that the guest sees of the completion is written after it, without touching
the host. -/
theorem file_backed_durability {bar0 : UInt64} {path : String} {device : VirtioBlkDevice}
    {host : Host} (hmade : MadeWithFile bar0 path device host) (memory : GuestMemory)
    (ops : List BlkOp) :
    let s := runSteps (blkStep hostFiles) ⟨device, memory, host⟩ ops
    (∃ file, s.host.file path = some file ∧ file.durable.length = 2048 ∧
      file.durable = s.device.backing.1 ∧ file.content = file.durable) ∧
    (∀ bar0', ∃ reopened host', (openFileBacked bar0' path).run s.host = .ok reopened host' ∧
      reopened.backing = s.device.backing) ∧
    ∀ r bytes, s.device.acceptRequest s.memory = .ok r → r.outgoingData = some bytes →
      ∃ s₁, (persistOutgoingData hostFiles r).run s = .ok () s₁ ∧ s₁.memory = s.memory ∧
        (∃ file, s₁.host.file path = some file ∧
          file.durable = (s.device.backing.splice r.backingStart bytes).1) ∧
        (processNotifiedQueueAtomic hostFiles).run s = (publishRequest r).run s₁ ∧
        ∀ c s', (publishRequest r).run s₁ = .ok c s' → s'.host = s₁.host := by
  intro s
  have hs : Synced path s :=
    runSteps_invariant (fun _ op h => h.blkStep op) ops (synced_of_madeWithFile hmade memory)
  refine ⟨⟨_, hs.file, s.device.backing.2, rfl, rfl⟩, fun bar0' => ?_, ?_⟩
  · obtain ⟨host', hrun, -⟩ := VirtioBlkDevice.yields_openFileBacked bar0' hs.works rfl s.host
      (Host.seen_eq_iff.mpr ⟨hs.file, rfl, rfl⟩)
    exact ⟨_, host', hrun, rfl⟩
  · intro r bytes haccept hbytes
    have h := VirtioBlkDevice.accepted_of_acceptRequest haccept
    obtain ⟨s₁, hrun, hdevice, hmemory, -, hfile⟩ := hs.persist h hbytes
    have h₁ : s₁.device.Accepted s₁.memory r := by rwa [hdevice, hmemory]
    refine ⟨s₁, hrun, hmemory, ⟨_, hfile, ?_⟩, ?_, ?_⟩
    · rw [VirtioBlkDevice.advance, hbytes]
    · rw [run_process_of_accept haccept, run_bind_of_ok hrun]
    · intro c s' hpublish
      rw [run_publishRequest h₁] at hpublish
      cases hpublish
      rfl

/-- A host without files, whose operations succeed. -/
def emptyHost : Host where
  file _ := none
  position := 0
  failing _ := none

/-- A device with a file whose driver has set up a queue and notified it. -/
def fileBackedDevice : VirtioBlkDevice :=
  { notifiedDevice with persistentBacking := some "disk.img" }

/-- One page of guest memory with a request to write the zeros at `0x500` to sector 1. -/
def writeRequestMemory : GuestMemory where
  region := readRequestMemory.region
  mapping := ((((ByteMap.write (fun _ => 0)
    0x100 (u64Bytes 0x400 ++ u32Bytes 16 ++ u16Bytes 1 ++ u16Bytes 1)).write
    0x110 (u64Bytes 0x500 ++ u32Bytes 512 ++ u16Bytes 1 ++ u16Bytes 2)).write
    0x120 (u64Bytes 0x800 ++ u32Bytes 1 ++ u16Bytes 2 ++ u16Bytes 0)).write
    0x200 (u16Bytes 0 ++ u16Bytes 1 ++ u16Bytes 0)).write
    0x400 (u32Bytes virtioBlkTOut ++ u32Bytes 0 ++ u64Bytes 1)

/-- That request, as the device accepts it. -/
def writeRequest : AcceptedRequest where
  head := 0
  availIdx := 1
  requestType := virtioBlkTOut
  sector := 1
  backingStart := 512
  data := ⟨0x500, 512, 1, 2⟩
  status := ⟨0x800, 1, 2, 0⟩
  usedIdxAddress := 0x302
  usedElement := 0x304
  outgoingData := some (List.replicate 512 0)

theorem acceptRequest_writeRequestMemory :
    fileBackedDevice.acceptRequest writeRequestMemory = .ok writeRequest := by
  decide +kernel

/-- The driver writes registers. -/
def registerWrites (writes : List (ℕ × List UInt8)) : List BlkOp :=
  writes.map fun (offset, payload) => .writeRegister offset payload

theorem runSteps_registerWrites {H : Type} (files : HostFiles H)
    (writes : List (ℕ × List UInt8)) (s : BlkState H) :
    runSteps (blkStep files) s (registerWrites writes) = { s with
      device := writes.foldl (fun device (offset, payload) =>
        finalState ((VirtioBlkDevice.write offset payload).run device)) s.device } := by
  induction writes generalizing s with
  | nil => rfl
  | cons write writes ih => exact ih _

/-- The driver sets up the queue and notifies it. -/
def notifiesQueue : List BlkOp :=
  registerWrites (queueSetup ++ [(virtioNotifyOffset, u16Bytes virtioBlkQueueIndex)])

theorem run_notifiesQueue (host : Host) :
    runSteps (blkStep hostFiles)
        ⟨withBacking 0xd0000000 deterministicBacking (some "disk.img"), writeRequestMemory, host⟩
        notifiesQueue =
      ⟨fileBackedDevice, writeRequestMemory, host⟩ := by
  rw [notifiesQueue, runSteps_registerWrites]
  congr 1
  dsimp only
  decide +kernel

/-- A disk that is created in an empty host, and the request to write its sector 1: the zeros are
durable in the file when the completion begins. -/
theorem file_backed_durability_written :
    ∃ device host, MadeWithFile 0xd0000000 "disk.img" device host ∧
      ∃ s₁ file, (persistOutgoingData hostFiles writeRequest).run
          (runSteps (blkStep hostFiles) ⟨device, writeRequestMemory, host⟩ notifiesQueue) =
            .ok () s₁ ∧
        s₁.memory = writeRequestMemory ∧ s₁.host.file "disk.img" = some file ∧
        file.durable = (deterministicBacking.splice 512 (List.replicate 512 0)).1 := by
  obtain ⟨host, hrun, -⟩ := VirtioBlkDevice.yields_createFileBacked 0xd0000000 (fun _ => rfl)
    emptyHost (show Host.seen "disk.img" emptyHost = _ from rfl)
  have hmade : MadeWithFile 0xd0000000 "disk.img" _ host := ⟨emptyHost, fun _ => rfl, .inl hrun⟩
  obtain ⟨-, -, hserved⟩ := file_backed_durability hmade writeRequestMemory notifiesQueue
  rw [run_notifiesQueue] at hserved
  obtain ⟨s₁, hpersist, hmemory, ⟨file, hfile, hdurable⟩, -⟩ :=
    hserved writeRequest _ acceptRequest_writeRequestMemory rfl
  refine ⟨_, host, hmade, s₁, file, ?_, hmemory, hfile, hdurable⟩
  rw [run_notifiesQueue]
  exact hpersist

/-! ### Failed calls -/

theorem splice_eq_self_iff {n start : ℕ} {b : FixedBytes n} {bytes : List UInt8}
    (h : start + bytes.length ≤ n) :
    (b.splice start bytes).1 = b.1 ↔ slice b.1 start bytes.length = bytes := by
  constructor
  · intro heq
    rw [← heq]
    exact FixedBytes.slice_splice_same h
  · intro heq
    rw [FixedBytes.val_splice h]
    nth_rewrite 1 [← heq]
    rw [slice_append_drop, List.take_append_drop]

section Failures

variable {path : String} {s : BlkState Host} {file : ImageFile}

/-- The file and the array hold the same disk. -/
def CopiesAgree (path : String) (s : BlkState Host) : Prop :=
  (s.host.file path).map ImageFile.content = some s.device.backing.1

theorem process_writeRequest_cases {r : AcceptedRequest} {bytes : List UInt8}
    (hbacked : s.device.persistentBacking = some path) (hfile : s.host.file path = some file)
    (haccept : s.device.acceptRequest s.memory = .ok r) (hbytes : r.outgoingData = some bytes) :
    ((s.host.failing .openReadWrite ≠ none ∨ s.host.failing .seek ≠ none ∨
        s.host.failing .writeAll ≠ none) ∧
      ∃ e s', (processNotifiedQueueAtomic hostFiles).run s = .error e s' ∧
        s'.device = s.device ∧ s'.host.file path = some file) ∨
    (s.host.failing .syncAll = none ∧
      ∃ c s', (processNotifiedQueueAtomic hostFiles).run s = .ok c s') ∨
    (s.host.failing .openReadWrite = none ∧ s.host.failing .seek = none ∧
        s.host.failing .writeAll = none ∧ s.host.failing .syncAll ≠ none ∧
      ∃ e s', (processNotifiedQueueAtomic hostFiles).run s = .error e s' ∧
        s'.device = s.device ∧ s'.host.file path =
          some { file with content := writeAt file.content r.backingStart bytes }) := by
  have h := VirtioBlkDevice.accepted_of_acceptRequest haccept
  have hrange := outgoingData_range h hbytes
  have hseen : seenState path s =
      (s.device, s.memory, some file, s.host.position, s.host.failing) := by
    rw [seenState, Host.seen, hfile]
  rw [run_process_of_accept haccept, persistOutgoingData_of_some h hbytes]
  by_cases hfails : s.host.failing .openReadWrite ≠ none ∨ s.host.failing .seek ≠ none ∨
      s.host.failing .writeAll ≠ none
  · obtain ⟨_, habort⟩ := aborts_persistBackingRange hbacked hrange hfails
    obtain ⟨e, s', hrun, hend⟩ := habort s hseen
    simp only [seenState, Host.seen, Prod.mk.injEq] at hend
    exact .inl ⟨hfails, e, s', run_bind_of_error hrun, hend.1, hend.2.2.1⟩
  simp only [not_or, not_not] at hfails
  obtain ⟨hopen, hseek, hwrite⟩ := hfails
  by_cases hsync : s.host.failing .syncAll = none
  · obtain ⟨s₁, hrun, hend⟩ :=
      yields_persistBackingRange hbacked hrange hopen hseek hwrite hsync s hseen
    simp only [seenState, Prod.mk.injEq] at hend
    have h₁ : s₁.device.Accepted s₁.memory r := by rwa [hend.1, hend.2.1]
    exact .inr (.inl ⟨hsync, _, _, (run_bind_of_ok hrun).trans (run_publishRequest h₁)⟩)
  · obtain ⟨e, s', hrun, hend⟩ :=
      aborts_persistBackingRange_of_syncAll hbacked hrange hopen hseek hwrite hsync s hseen
    simp only [seenState, Host.seen, Prod.mk.injEq] at hend
    exact .inr (.inr ⟨hopen, hseek, hwrite, hsync, e, s', run_bind_of_error hrun, hend.1,
      hend.2.2.1⟩)

theorem consistent_writeRequest_iff {r : AcceptedRequest} {bytes : List UInt8}
    (hbacked : s.device.persistentBacking = some path) (hagree : CopiesAgree path s)
    (haccept : s.device.acceptRequest s.memory = .ok r) (hbytes : r.outgoingData = some bytes) :
    (∀ e s', (processNotifiedQueueAtomic hostFiles).run s = .error e s' → CopiesAgree path s') ↔
      s.host.failing .openReadWrite ≠ none ∨ s.host.failing .seek ≠ none ∨
        s.host.failing .writeAll ≠ none ∨ s.host.failing .syncAll = none ∨
        slice s.device.backing.1 r.backingStart bytes.length = bytes := by
  obtain ⟨file, hfile, hcontent⟩ := Option.map_eq_some_iff.mp hagree
  rcases process_writeRequest_cases hbacked hfile haccept hbytes with
    ⟨hfails, e, s', hrun, hdevice, hfile'⟩ | ⟨hsync, c, s', hrun⟩ |
      ⟨hopen, hseek, hwrite, hsync, e, s', hrun, hdevice, hfile'⟩
  · refine iff_of_true (fun e' s'' hrun' => ?_) (by tauto)
    cases hrun.symm.trans hrun'
    rw [CopiesAgree, hfile', hdevice, Option.map_some, hcontent]
  · refine iff_of_true (fun e' s'' hrun' => ?_) (.inr (.inr (.inr (.inl hsync))))
    cases hrun.symm.trans hrun'
  · have hrange := outgoingData_range (VirtioBlkDevice.accepted_of_acceptRequest haccept) hbytes
    have hiff : CopiesAgree path s' ↔
        slice s.device.backing.1 r.backingStart bytes.length = bytes := by
      rw [CopiesAgree, hfile', hdevice, Option.map_some, Option.some.injEq, hcontent,
        writeAt_eq_splice hrange, splice_eq_self_iff hrange]
    constructor
    · exact fun hconsistent => .inr (.inr (.inr (.inr (hiff.mp (hconsistent e s' hrun)))))
    · intro hcondition e' s'' hrun'
      cases hrun.symm.trans hrun'
      exact hiff.mpr (by tauto)

/-- **Failed calls.** For a device whose file and array agree, a call that returns an error leaves
them so, exactly when for a write request that passed the checks: an operation before `sync_all`
fails, or `sync_all` succeeds, or the bytes were on the disk already. -/
theorem failed_write_consistent_iff (hbacked : s.device.persistentBacking = some path)
    (hagree : CopiesAgree path s) :
    (∀ e s', (processNotifiedQueueAtomic hostFiles).run s = .error e s' → CopiesAgree path s') ↔
      ∀ r bytes, s.device.acceptRequest s.memory = .ok r → r.outgoingData = some bytes →
        s.host.failing .openReadWrite ≠ none ∨ s.host.failing .seek ≠ none ∨
          s.host.failing .writeAll ≠ none ∨ s.host.failing .syncAll = none ∨
          slice s.device.backing.1 r.backingStart bytes.length = bytes := by
  cases haccept : s.device.acceptRequest s.memory with
  | error e =>
      refine iff_of_true (fun e' s' hrun => ?_) nofun
      rw [run_process_of_error haccept] at hrun
      cases hrun
      exact hagree
  | ok r =>
      cases hbytes : r.outgoingData with
      | none =>
          refine iff_of_true (fun e s' hrun => ?_) fun r' bytes hr hsome => ?_
          · rw [run_process_of_accept haccept, persistOutgoingData_of_none hbytes, pure_bind,
              run_publishRequest (VirtioBlkDevice.accepted_of_acceptRequest haccept)] at hrun
            cases hrun
          · cases hr
            cases hbytes.symm.trans hsome
      | some bytes =>
          rw [consistent_writeRequest_iff hbacked hagree haccept hbytes]
          refine ⟨fun hcondition r' bytes' hr hsome => ?_, fun h => h r bytes rfl hbytes⟩
          cases hr
          cases hbytes.symm.trans hsome
          exact hcondition

end Failures

/-! ### A host that fails -/

/-- A host with the file of the device, one of whose operations fails. -/
def failingHost (op : FileOp) : Host where
  file _ := some ⟨deterministicBacking.1, deterministicBacking.1⟩
  position := 0
  failing op' := if op' = op then some "input/output error" else none

/-- The call that cannot open the file changes neither copy. -/
theorem failed_open_consistent :
    (failingHost .openReadWrite).failing .openReadWrite ≠ none ∧
      ∀ e s', (processNotifiedQueueAtomic hostFiles).run
          ⟨fileBackedDevice, writeRequestMemory, failingHost .openReadWrite⟩ = .error e s' →
        CopiesAgree "disk.img" s' :=
  ⟨nofun, (failed_write_consistent_iff
    (s := ⟨fileBackedDevice, writeRequestMemory, failingHost .openReadWrite⟩) rfl rfl).mpr
      fun _ _ _ _ => .inl nofun⟩

theorem deterministicBacking_sector_ne_zero :
    slice deterministicBacking.1 512 512 ≠ List.replicate 512 0 := by
  have hfirst : deterministicBacking.1.getD 512 0 = 44 := by
    have hlength : deterministicSector.1.length = 512 := deterministicSector.2
    refine (List.getD_append_right _ _ _ _ hlength.le).trans ?_
    rw [hlength]
    simp only [List.getD_eq_getElem?_getD, List.getElem?_map, List.getElem?_range, Nat.sub_self,
      virtioBlkSectorSize, Nat.reduceMul, Nat.reduceLT, Option.map_some, Option.getD_some]
    decide
  intro h
  have hslice : (slice deterministicBacking.1 512 512).getD 0 0 = (List.replicate 512 0).getD 0 0 :=
    congrArg (fun l : List UInt8 => l.getD 0 0) h
  rw [getD_slice (by decide), Nat.add_zero, hfirst, List.getD_replicate _ (by decide)] at hslice
  exact absurd hslice (by decide)

/-- The call that cannot sync the file has written it, and leaves the array as it was. -/
theorem failed_sync_diverges :
    CopiesAgree "disk.img" ⟨fileBackedDevice, writeRequestMemory, failingHost .syncAll⟩ ∧
      ∃ e s', (processNotifiedQueueAtomic hostFiles).run
          ⟨fileBackedDevice, writeRequestMemory, failingHost .syncAll⟩ = .error e s' ∧
        ¬ CopiesAgree "disk.img" s' := by
  refine ⟨rfl, ?_⟩
  by_contra hnone
  have hconsistent := (consistent_writeRequest_iff
    (s := ⟨fileBackedDevice, writeRequestMemory, failingHost .syncAll⟩) rfl rfl
    acceptRequest_writeRequestMemory rfl).mp fun e s' hrun =>
      by_contra fun hdiffer => hnone ⟨e, s', hrun, hdiffer⟩
  rcases hconsistent with h | h | h | h | h
  · exact h rfl
  · exact h rfl
  · exact h rfl
  · cases h
  · rw [List.length_replicate] at h
    exact deterministicBacking_sector_ne_zero h

end MiniHypervisor.VirtioBlk
