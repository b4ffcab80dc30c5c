import MiniHypervisor.Control.Refinement
import MiniHypervisor.VirtioBlk.Atomicity

/-!
# The device is a disk

What a virtio-blk device is for: a disk of four sectors that write requests change and read
requests report.  The disk is a byte map; a write request of `n` sectors at sector `s` replaces
the bytes `[512 s, 512 s + 512 n)` by the guest's buffer, and nothing else changes it.  A request
is read off the guest memory (`Posted`), and a run of register accesses, memory updates and
calls of `process_notified_queue_atomic` shows one disk event per operation.
-/

namespace MiniHypervisor.VirtioBlk

open Bytes Control Memory VirtioBlkDevice

/-! ### The abstract disk -/

/-- The disk that a device holds, by byte offset. -/
def diskOf (device : VirtioBlkDevice) : ByteMap := fun i => device.backing.1.getD i 0

/-- What an operation does to the disk. -/
inductive DiskEvent where
  | quiet
  | write (sector : ℕ) (data : List UInt8)
  deriving DecidableEq, Repr

/-- The disk after an event. -/
def applyEvent (disk : ByteMap) : DiskEvent → ByteMap
  | .quiet => disk
  | .write sector data => disk.write (512 * sector) data

theorem diskOf_splice (device : VirtioBlkDevice) {start : ℕ} {data : List UInt8}
    (h : start + data.length ≤ virtioBlkBackingSize) :
    (fun i => (device.backing.splice start data).1.getD i 0) =
      (diskOf device).write start data := by
  funext i
  by_cases hi : start ≤ i ∧ i < start + data.length
  · obtain ⟨k, rfl⟩ := Nat.exists_eq_add_of_le hi.1
    have hk : k < data.length := by omega
    rw [FixedBytes.getD_splice_inside h hk, ByteMap.write_apply_inside _ hk]
  · have hout : i < start ∨ start + data.length ≤ i := by omega
    rw [FixedBytes.getD_splice_outside hout, ByteMap.write_apply_outside _ hout]
    rfl

theorem diskOf_read {device : VirtioBlkDevice} {start n : ℕ}
    (h : start + n ≤ virtioBlkBackingSize) :
    (diskOf device).read start n = slice device.backing.1 start n := by
  have hlen : (slice device.backing.1 start n).length = n :=
    length_slice (by rw [device.backing.2]; exact h)
  have hbytes : ∀ i < (slice device.backing.1 start n).length,
      diskOf device (start + i) = (slice device.backing.1 start n).getD i 0 :=
    fun i hi => (getD_slice (by omega)).symm
  have hread := ByteMap.read_eq_of_getD hbytes
  rwa [hlen] at hread

/-! ### Requests in the queue -/

/-- A request of the guest: `sectors` sectors from `sector` on, to or from the guest buffer. -/
structure BlkRequest where
  isWrite : Bool
  head : UInt16
  sector : UInt64
  sectors : ℕ
  dataAddress : ℕ
  statusAddress : ℕ
  deriving DecidableEq, Repr

/-- The next request of the queue, read off the guest memory: the head of its descriptor chain
stands in the available ring, and the chain leads to the header, the buffer and the status. -/
structure Posted (device : VirtioBlkDevice) (memory : GuestMemory) (q : BlkRequest) : Prop where
  head_read : memory.read
      (device.queueDriver.toNat + (4 + 2 * (device.lastAvailIdx % device.queueSize).toNat)) 2 =
    .ok (u16Bytes q.head)
  chain : ∃ chain, device.resolveRequestChain memory q.head = .ok chain ∧
    chain.data.address.toNat = q.dataAddress ∧ chain.data.length.toNat = 512 * q.sectors ∧
    chain.status.address.toNat = q.statusAddress ∧
    memory.read chain.header.address.toNat 16 =
      .ok (u32Bytes (if q.isWrite then virtioBlkTOut else virtioBlkTIn) ++
        (u32Bytes 0 ++ u64Bytes q.sector))

/-- The request that was accepted. -/
def requestOf (r : AcceptedRequest) : BlkRequest where
  isWrite := r.requestType = virtioBlkTOut
  head := r.head
  sector := r.sector
  sectors := r.data.length.toNat / 512
  dataAddress := r.data.address.toNat
  statusAddress := r.status.address.toNat

section Requests

variable {device : VirtioBlkDevice} {memory : GuestMemory} {r : AcceptedRequest} {q : BlkRequest}

theorem VirtioBlkDevice.Accepted.length_eq (h : device.Accepted memory r) :
    512 * (requestOf r).sectors = r.data.length.toNat := by
  have hmod := h.length_sectors
  simp only [requestOf]
  omega

theorem VirtioBlkDevice.Accepted.requestType_eq (h : device.Accepted memory r) :
    (if (requestOf r).isWrite then virtioBlkTOut else virtioBlkTIn) = r.requestType := by
  rcases h.incoming_or_outgoing with ⟨htype, -⟩ | ⟨htype, -⟩ <;>
    simp only [requestOf, htype] <;> rfl

theorem VirtioBlkDevice.Accepted.posted (h : device.Accepted memory r) :
    Posted device memory (requestOf r) := by
  obtain ⟨chain, hchain, hdata, hstatus, hheader⟩ := h.chain
  refine ⟨h.head_read, chain, hchain, by rw [hdata]; rfl, ?_, by rw [hstatus]; rfl, ?_⟩
  · rw [h.length_eq, hdata]
  · rw [h.requestType_eq]
    exact hheader

/-- The queue holds at most one request: every field is determined by the guest memory. -/
theorem Posted.eq_requestOf (hq : Posted device memory q) (h : device.Accepted memory r) :
    q = requestOf r := by
  obtain ⟨hhead, chain, hchain, hdata, hlength, hstatus, hheader⟩ := hq
  obtain ⟨hhead', chain', hchain', hdata', hlength', hstatus', hheader'⟩ := h.posted
  have heq : q.head = (requestOf r).head := by
    rw [hhead'] at hhead
    exact u16Bytes_injective (Except.ok.inj hhead).symm
  rw [heq, hchain'] at hchain
  obtain rfl : chain' = chain := Except.ok.inj hchain
  rw [hheader'] at hheader
  have hparts := List.append_inj (Except.ok.inj hheader) (by simp only [length_u32Bytes])
  have htype := u32Bytes_injective hparts.1
  have hsector := u64Bytes_injective
    (List.append_inj hparts.2 (by simp only [length_u32Bytes])).2
  have hwrite : q.isWrite = (requestOf r).isWrite := by
    cases hw : q.isWrite <;> cases hw' : (requestOf r).isWrite <;>
      simp [hw, hw', virtioBlkTOut, virtioBlkTIn] at htype ⊢
  have hsectors : q.sectors = (requestOf r).sectors := by omega
  cases q
  cases hr : requestOf r
  simp_all

end Requests

/-! ### The guest memory after a request -/

/-- Where the next completion is reported in the used ring. -/
def usedElementAddress (device : VirtioBlkDevice) : ℕ :=
  device.queueDevice.toNat + (4 + 8 * (device.lastUsedIdx % device.queueSize).toNat)

/-- Where the index of the used ring stands. -/
def usedIdxAddress (device : VirtioBlkDevice) : ℕ := device.queueDevice.toNat + 2

/-- The ranges of the guest memory that serving a request writes. -/
def outputRanges (device : VirtioBlkDevice) (q : BlkRequest) : List (ℕ × ℕ) :=
  (if q.isWrite then [] else [(q.dataAddress, 512 * q.sectors)]) ++
    [(q.statusAddress, 1), (usedElementAddress device, 8), (usedIdxAddress device, 2)]

/-- The guest memory after a request was served: the data of a read request, the status, the
used element and the used index are in place, and no other byte has changed. -/
structure Served (device : VirtioBlkDevice) (memory : GuestMemory) (q : BlkRequest)
    (memory' : GuestMemory) : Prop where
  data : q.isWrite = false → memory'.read q.dataAddress (512 * q.sectors) =
    .ok ((diskOf device).read (512 * q.sector.toNat) (512 * q.sectors))
  status : memory'.read q.statusAddress 1 = .ok [0]
  used_element : memory'.read (usedElementAddress device) 8 =
    .ok (u32Bytes q.head.toUInt32 ++
      u32Bytes (if q.isWrite then 1 else UInt32.ofNat (512 * q.sectors + 1)))
  used_idx : ∃ idx, memory.read (usedIdxAddress device) 2 = .ok (u16Bytes idx) ∧
    memory'.read (usedIdxAddress device) 2 = .ok (u16Bytes (idx + 1))

/-- Only the output ranges of a request have changed. -/
def ChangedOnly (ranges : List (ℕ × ℕ)) (memory memory' : GuestMemory) : Prop :=
  memory'.region = memory.region ∧
    ∀ a, memory.region.base ≤ a → (∀ x ∈ ranges, a < x.1 ∨ x.1 + x.2 ≤ a) →
      memory'.byteAt a = memory.byteAt a

section Outputs

variable {device : VirtioBlkDevice} {memory : GuestMemory} {r : AcceptedRequest}

/-- The writes of an accepted request, in order. -/
def outputs (device : VirtioBlkDevice) (r : AcceptedRequest) : List (ℕ × List UInt8) :=
  (if (requestOf r).isWrite then [] else [(r.data.address.toNat, device.requestedBytes r)]) ++
    [(r.status.address.toNat, [virtioBlkSOk]),
      (r.usedElement, u32Bytes r.head.toUInt32 ++ u32Bytes r.written),
      (r.usedIdxAddress, u16Bytes (device.lastUsedIdx + 1))]

theorem VirtioBlkDevice.Accepted.isWrite_cases (h : device.Accepted memory r) :
    ((requestOf r).isWrite = false ∧ r.requestType = virtioBlkTIn ∧ r.outgoingData = none ∧
      memory.region.Contains r.data.address.toNat r.data.length.toNat) ∨
    ((requestOf r).isWrite = true ∧ r.requestType = virtioBlkTOut ∧
      ∃ bytes, r.outgoingData = some bytes ∧
        memory.read r.data.address.toNat r.data.length.toNat = .ok bytes) := by
  rcases h.incoming_or_outgoing with ⟨htype, hrest⟩ | ⟨htype, hrest⟩
  · exact Or.inl ⟨by rw [requestOf, htype]; rfl, htype, hrest⟩
  · exact Or.inr ⟨by rw [requestOf, htype]; rfl, htype, hrest⟩

theorem VirtioBlkDevice.Accepted.completedMemory_eq (h : device.Accepted memory r) :
    completedMemory device r memory = memory.overwriteAll (outputs device r) := by
  rcases h.isWrite_cases with ⟨hwrite, htype, -⟩ | ⟨hwrite, htype, -⟩
  · simp only [completedMemory, filledMemory, outputs, hwrite, htype]
    rfl
  · have hne : virtioBlkTOut ≠ virtioBlkTIn := by decide
    simp only [completedMemory, filledMemory, outputs, hwrite, htype, if_neg hne]
    rfl

theorem VirtioBlkDevice.Accepted.outputs_ranges (h : device.Accepted memory r) :
    (outputs device r).map GuestMemory.writtenRange = outputRanges device (requestOf r) := by
  have hdata := h.length_requestedBytes
  rw [← h.length_eq] at hdata
  simp only [outputs, outputRanges, GuestMemory.writtenRange, h.usedElement_eq,
    h.usedIdxAddress_eq, List.map_append, List.map_cons, List.map_nil, List.length_append,
    length_u32Bytes, length_u16Bytes]
  split_ifs
  · rfl
  · simp only [List.map_cons, List.map_nil, GuestMemory.writtenRange, hdata]
    rfl

theorem VirtioBlkDevice.Accepted.outputs_contained (h : device.Accepted memory r) :
    ∀ w ∈ outputs device r, memory.region.Contains w.1 w.2.length := by
  rcases h.isWrite_cases with ⟨hwrite, -, -, hdata⟩ | ⟨hwrite, -⟩
  · simp only [outputs, hwrite, Bool.false_eq_true, if_false, List.singleton_append,
      List.forall_mem_cons, List.length_append, length_u32Bytes, length_u16Bytes,
      h.length_requestedBytes]
    exact ⟨hdata, h.status_contains, h.usedElement_contains, h.usedIdx_contains, nofun⟩
  · simp only [outputs, hwrite, if_true, List.nil_append, List.forall_mem_cons,
      List.length_append, length_u32Bytes, length_u16Bytes]
    exact ⟨h.status_contains, h.usedElement_contains, h.usedIdx_contains, nofun⟩

theorem VirtioBlkDevice.Accepted.changedOnly (h : device.Accepted memory r) :
    ChangedOnly (outputRanges device (requestOf r)) memory (completedMemory device r memory) := by
  rw [h.completedMemory_eq, ← h.outputs_ranges]
  refine ⟨GuestMemory.region_overwriteAll _ _, fun a ha hout => ?_⟩
  rw [List.forall_mem_map] at hout
  exact GuestMemory.byteAt_overwriteAll_outside ha (fun w hw => (h.outputs_contained w hw).1) hout

theorem VirtioBlkDevice.Accepted.written_eq (h : device.Accepted memory r) :
    r.written = if (requestOf r).isWrite then 1 else
      UInt32.ofNat (512 * (requestOf r).sectors + 1) := by
  rcases h.isWrite_cases with ⟨hwrite, htype, -⟩ | ⟨hwrite, htype, -⟩
  · simp only [AcceptedRequest.written, hwrite, htype, h.length_eq, UInt32.ofNat_add,
      UInt32.ofNat_toNat]
    rfl
  · simp only [AcceptedRequest.written, hwrite, htype]
    rfl

/-- **Serving a request**, when its output ranges do not meet. -/
theorem VirtioBlkDevice.Accepted.served (h : device.Accepted memory r)
    (hapart : (outputRanges device (requestOf r)).Pairwise GuestMemory.RangesApart) :
    Served device memory (requestOf r) (completedMemory device r memory) := by
  have hread : ∀ w ∈ outputs device r,
      (completedMemory device r memory).read w.1 w.2.length = .ok w.2 := by
    rw [h.completedMemory_eq]
    rw [← h.outputs_ranges] at hapart
    exact fun w hw => GuestMemory.read_overwriteAll_of_mem h.outputs_contained hapart hw
  refine ⟨fun hwrite => ?_, ?_, ?_, device.lastUsedIdx, ?_, ?_⟩
  · have hdata := hread (r.data.address.toNat, device.requestedBytes r)
      (by simp [outputs, hwrite])
    have hrange := h.range_le
    rw [h.backingStart_eq] at hrange
    have hbytes : (diskOf device).read (512 * (requestOf r).sector.toNat) r.data.length.toNat =
        device.requestedBytes r := by
      rw [requestedBytes, h.backingStart_eq]
      exact diskOf_read hrange
    rw [h.length_eq, hbytes]
    simp only [h.length_requestedBytes] at hdata
    exact hdata
  · exact hread (r.status.address.toNat, [virtioBlkSOk]) (by simp [outputs])
  · have helement := hread (r.usedElement, u32Bytes r.head.toUInt32 ++ u32Bytes r.written)
      (by simp [outputs])
    rw [h.usedElement_eq, h.written_eq] at helement
    simp only [List.length_append, length_u32Bytes] at helement
    exact helement
  · rw [← h.usedIdx_read, h.usedIdxAddress_eq]
    rfl
  · have hidx := hread (r.usedIdxAddress, u16Bytes (device.lastUsedIdx + 1)) (by simp [outputs])
    rw [h.usedIdxAddress_eq] at hidx
    simp only [length_u16Bytes] at hidx
    exact hidx

end Outputs

/-! ### Runs -/

section Runs

variable {H : Type}

/-- An operation on a device and its guest: a register access of any offset, length and payload,
an update of the guest memory, or a call of `process_notified_queue_atomic`. -/
inductive BlkOp where
  | readRegister (offset length : ℕ)
  | writeRegister (offset : ℕ) (payload : List UInt8)
  | updateMemory (memory : GuestMemory)
  | process

/-- The state after an operation, whether it succeeds or fails. -/
def blkStep (files : HostFiles H) (s : BlkState H) : BlkOp → BlkState H
  | .readRegister offset length =>
      { s with device := finalState ((VirtioBlkDevice.read offset length).run s.device) }
  | .writeRegister offset payload =>
      { s with device := finalState ((VirtioBlkDevice.write offset payload).run s.device) }
  | .updateMemory memory => { s with memory }
  | .process => finalState ((processNotifiedQueueAtomic files).run s)

/-- The disk event of an operation: a served write request stores the bytes that its buffer
holds at the time of the call; everything else leaves the disk alone. -/
inductive ShowsEvent (files : HostFiles H) (s : BlkState H) : BlkOp → DiskEvent → Prop
  | outgoing {q : BlkRequest} {data : List UInt8} {c : VirtioBlkQueueCompletion} {s' : BlkState H}
      (served : (processNotifiedQueueAtomic files).run s = .ok c s')
      (posted : Posted s.device s.memory q) (isWrite : q.isWrite = true)
      (buffer : s.memory.read q.dataAddress (512 * q.sectors) = .ok data) :
      ShowsEvent files s .process (.write q.sector.toNat data)
  | incoming {q : BlkRequest} {c : VirtioBlkQueueCompletion} {s' : BlkState H}
      (served : (processNotifiedQueueAtomic files).run s = .ok c s')
      (posted : Posted s.device s.memory q) (isRead : q.isWrite = false) :
      ShowsEvent files s .process .quiet
  | failed {e : VirtioBlkProcessError} {s' : BlkState H}
      (failed : (processNotifiedQueueAtomic files).run s = .error e s') :
      ShowsEvent files s .process .quiet
  | readRegister (offset length : ℕ) : ShowsEvent files s (.readRegister offset length) .quiet
  | writeRegister (offset : ℕ) (payload : List UInt8) :
      ShowsEvent files s (.writeRegister offset payload) .quiet
  | updateMemory (memory : GuestMemory) : ShowsEvent files s (.updateMemory memory) .quiet

variable {files : HostFiles H} {s : BlkState H}

theorem blkStep_process_of_ok {c : VirtioBlkQueueCompletion} {s' : BlkState H}
    (h : (processNotifiedQueueAtomic files).run s = .ok c s') :
    blkStep files s .process = s' :=
  congrArg finalState h

theorem blkStep_process_of_error {e : VirtioBlkProcessError} {s' : BlkState H}
    (h : (processNotifiedQueueAtomic files).run s = .error e s') :
    blkStep files s .process = s' :=
  congrArg finalState h

theorem memoryBacked_blkStep (files : HostFiles H) (s : BlkState H) (op : BlkOp)
    (hs : MemoryBacked s) : MemoryBacked (blkStep files s op) := by
  cases op with
  | readRegister offset length =>
      exact (congrArg Prod.snd (read_keeps_disk offset length s.device)).trans hs
  | writeRegister offset payload =>
      exact (congrArg Prod.snd (write_keeps_disk offset payload s.device)).trans hs
  | updateMemory memory => exact hs
  | process =>
      cases h : (processNotifiedQueueAtomic files).run s with
      | ok c s' =>
          rw [blkStep_process_of_ok h]
          obtain ⟨r, -, -, rfl⟩ := accepted_of_run_process hs h
          exact hs
      | error e s' =>
          rw [blkStep_process_of_error h, eq_of_run_process_error hs h]
          exact hs

theorem diskOf_blkStep {op : BlkOp} {event : DiskEvent} (hs : MemoryBacked s)
    (h : ShowsEvent files s op event) :
    diskOf (blkStep files s op).device = applyEvent (diskOf s.device) event := by
  cases h with
  | @outgoing q data c s' served posted isWrite buffer =>
      obtain ⟨r, haccepted, -, rfl⟩ := accepted_of_run_process hs served
      obtain rfl := posted.eq_requestOf haccepted
      rcases haccepted.isWrite_cases with ⟨hread, -⟩ | ⟨-, -, bytes, hbytes, hbuffer⟩
      · rw [isWrite] at hread
        cases hread
      · rw [haccepted.length_eq] at buffer
        obtain rfl : bytes = data := Except.ok.inj (hbuffer.symm.trans buffer)
        have hfits : 512 * r.sector.toNat + bytes.length ≤ virtioBlkBackingSize := by
          rw [GuestMemory.length_of_read buffer, ← haccepted.backingStart_eq]
          exact haccepted.range_le
        rw [blkStep_process_of_ok served]
        change (fun i => (s.device.advance r).backing.1.getD i 0) = _
        simp only [VirtioBlkDevice.advance, hbytes, haccepted.backingStart_eq]
        exact diskOf_splice s.device hfits
  | incoming served posted isRead =>
      obtain ⟨r, haccepted, -, rfl⟩ := accepted_of_run_process hs served
      obtain rfl := posted.eq_requestOf haccepted
      rcases haccepted.isWrite_cases with ⟨-, -, hnone, -⟩ | ⟨hwrite, -⟩
      · rw [blkStep_process_of_ok served]
        change (fun i => (s.device.advance r).backing.1.getD i 0) = _
        simp only [VirtioBlkDevice.advance, hnone]
        rfl
      · rw [isRead] at hwrite
        cases hwrite
  | failed failed =>
      rw [blkStep_process_of_error failed, eq_of_run_process_error hs failed]
      rfl
  | readRegister offset length =>
      have hkeep := congrArg Prod.fst (read_keeps_disk offset length s.device)
      exact congrArg (fun backing i => backing.1.getD i 0) hkeep
  | writeRegister offset payload =>
      have hkeep := congrArg Prod.fst (write_keeps_disk offset payload s.device)
      exact congrArg (fun backing i => backing.1.getD i 0) hkeep
  | updateMemory memory => rfl

theorem exists_showsEvent (files : HostFiles H) (s : BlkState H) (op : BlkOp)
    (hs : MemoryBacked s) : ∃ event, ShowsEvent files s op event := by
  cases op with
  | readRegister offset length => exact ⟨_, .readRegister offset length⟩
  | writeRegister offset payload => exact ⟨_, .writeRegister offset payload⟩
  | updateMemory memory => exact ⟨_, .updateMemory memory⟩
  | process =>
      cases h : (processNotifiedQueueAtomic files).run s with
      | error e s' => exact ⟨_, .failed h⟩
      | ok c s' =>
          obtain ⟨r, haccepted, -, rfl⟩ := accepted_of_run_process hs h
          rcases haccepted.isWrite_cases with ⟨hread, -⟩ | ⟨hwrite, -, bytes, -, hbuffer⟩
          · exact ⟨_, .incoming h haccepted.posted hread⟩
          · rw [← haccepted.length_eq] at hbuffer
            exact ⟨_, .outgoing h haccepted.posted hwrite hbuffer⟩

/-- **The device refines a disk.** From any memory-backed state and along any run of register
accesses, memory updates and queue calls, the device holds the disk on which the events of the
run were applied.  A call that succeeds in the reached state has served the request in the
queue: it lies on the disk, only its output ranges have changed, and when these do not meet
they hold the data, the status, the used element and the used index. -/
theorem disk_refinement (files : HostFiles H) (s : BlkState H) (hs : MemoryBacked s)
    (ops : List BlkOp) :
    (∃ events, ShowsRun (blkStep files) (ShowsEvent files) s ops events) ∧
    (∀ events, ShowsRun (blkStep files) (ShowsEvent files) s ops events →
      diskOf (runSteps (blkStep files) s ops).device =
        events.foldl applyEvent (diskOf s.device)) ∧
    ∀ c t', (processNotifiedQueueAtomic files).run (runSteps (blkStep files) s ops) = .ok c t' →
      ∃ q, Posted (runSteps (blkStep files) s ops).device
          (runSteps (blkStep files) s ops).memory q ∧
        0 < q.sectors ∧ q.sector.toNat + q.sectors ≤ 4 ∧
        ChangedOnly (outputRanges (runSteps (blkStep files) s ops).device q)
          (runSteps (blkStep files) s ops).memory t'.memory ∧
        ((outputRanges (runSteps (blkStep files) s ops).device q).Pairwise
            GuestMemory.RangesApart →
          Served (runSteps (blkStep files) s ops).device
            (runSteps (blkStep files) s ops).memory q t'.memory) := by
  have hstep := memoryBacked_blkStep files
  refine ⟨exists_showsRun hstep (exists_showsEvent files) ops hs, fun events hevents => ?_, ?_⟩
  · exact refines_run (fun t : BlkState H => diskOf t.device) hstep
      (fun _ _ _ ht hshows => diskOf_blkStep ht hshows) hs hevents
  · intro c t' hok
    obtain ⟨r, haccepted, -, rfl⟩ :=
      accepted_of_run_process (runSteps_invariant hstep ops hs) hok
    have hpos := haccepted.length_pos
    have hrange := haccepted.range_le
    have hlength := haccepted.length_eq
    rw [haccepted.backingStart_eq] at hrange
    refine ⟨requestOf r, haccepted.posted, by omega, ?_, haccepted.changedOnly,
      haccepted.served⟩
    change r.sector.toNat + (requestOf r).sectors ≤ 4
    omega

theorem disk_refinement_readRequest :
    ∃ events, ShowsRun (blkStep noFiles) (ShowsEvent noFiles)
        ⟨notifiedDevice, readRequestMemory, ()⟩ [.process, .writeRegister 0x14 [0]] events ∧
      diskOf (runSteps (blkStep noFiles) ⟨notifiedDevice, readRequestMemory, ()⟩
          [.process, .writeRegister 0x14 [0]]).device =
        events.foldl applyEvent (diskOf notifiedDevice) := by
  obtain ⟨⟨events, hevents⟩, hdisk, -⟩ := disk_refinement noFiles
    ⟨notifiedDevice, readRequestMemory, ()⟩ rfl [.process, .writeRegister 0x14 [0]]
  exact ⟨events, hevents, hdisk events hevents⟩

end Runs

end MiniHypervisor.VirtioBlk
