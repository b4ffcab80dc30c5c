import MiniHypervisor.VirtioBlk.Disk

/-!
# The processor without preflights

`process_notified_queue` is the older of the two queue processors.  It serves read requests only,
and it finds out whether a guest range can be written by writing it.  Its checks and those of
`process_notified_queue_atomic` come in different orders, but a read request passes all of the
former exactly when it passes the latter up to the preflights, and the preflights say which of the
writes succeed.  So the two agree on every request that does not write the disk.

They do not agree on failure: when a later range lies outside guest memory, the earlier writes of
the older processor stay.
-/

namespace MiniHypervisor.VirtioBlk

open Bytes Control Memory VirtioBlkDevice

/-! ### Two orders of the same checks -/

/-- The header of the request that the available ring selects asks to write the disk. -/
def VirtioBlkDevice.SelectsOutgoing (device : VirtioBlkDevice) (memory : GuestMemory) : Prop :=
  ∃ head chain header,
    memory.read (device.queueDriver.toNat +
      (4 + 2 * (device.lastAvailIdx % device.queueSize).toNat)) 2 = .ok (u16Bytes head) ∧
    device.resolveRequestChain memory head = .ok chain ∧
    memory.read chain.header.address.toNat 16 = .ok header ∧
    u32OfBytes (slice header 0 4) = virtioBlkTOut

/-- The read request as the atomic path has it after its preflights. -/
def ReadRequest.toAccepted (device : VirtioBlkDevice) (q : ReadRequest) : AcceptedRequest where
  head := q.head
  availIdx := q.availIdx
  requestType := virtioBlkTIn
  sector := q.sector
  backingStart := q.backingStart
  data := q.data
  status := q.status
  usedIdxAddress := device.queueDevice.toNat + 2
  usedElement := usedElementAddress device
  outgoingData := none

/-- The ranges of guest memory that the writes of a read request need, apart from the used index,
which was read. -/
structure ReadRequest.Fits (device : VirtioBlkDevice) (memory : GuestMemory) (q : ReadRequest) :
    Prop where
  data : memory.region.Contains q.data.address.toNat q.data.length.toNat
  status : memory.region.Contains q.status.address.toNat 1
  usedElement : memory.region.Contains (usedElementAddress device) 8

section Checks

variable {device : VirtioBlkDevice} {memory : GuestMemory} {q : ReadRequest} {r : AcceptedRequest}

theorem lt_of_contains {a n : ℕ} (hn : 0 < n) (h : memory.region.Contains a n) : a < 2 ^ 64 := by
  have hend := memory.region.end_lt
  have hle : a + n ≤ memory.region.base + memory.region.size := h.2
  omega

/-- A read request that passed the checks of the older path passes those of the atomic path if its
ranges fit. -/
theorem VirtioBlkDevice.acceptRequest_of_acceptReadRequest
    (h : device.acceptReadRequest memory = .ok q) (hfits : q.Fits device memory) :
    device.acceptRequest memory = .ok (q.toAccepted device) := by
  obtain ⟨chain, header, hreads, htype, hflags, -, hsector, hdata, hstatus⟩ :=
    acceptReadRequest_eq_ok.mp h
  have hused := (GuestMemory.read_eq_ok.mp hreads.usedIdx_read).1
  have houtgoing : readOutgoingData memory virtioBlkTIn q.data = .ok none := by
    rw [readOutgoingData, if_neg (by decide)]
    exact bind_eq_ok.mpr ⟨(), preflightGuestOutput_eq_ok.mpr hfits.data, rfl⟩
  refine acceptRequest_eq_ok.mpr ⟨chain, header, hreads, htype.symm, hsector, hdata, hstatus,
    .inl rfl, hflags.trans (if_pos rfl).symm, rfl, rfl, ?_, houtgoing, hfits.status,
    hfits.usedElement, hused⟩
  exact lt_of_contains (by norm_num) hfits.usedElement

theorem VirtioBlkDevice.acceptReadRequest_of_acceptRequest
    (h : device.acceptRequest memory = .ok r) (htype : r.requestType = virtioBlkTIn) :
    ∃ q, device.acceptReadRequest memory = .ok q ∧ q.Fits device memory ∧
      r = q.toAccepted device := by
  have hacc := accepted_of_acceptRequest h
  obtain ⟨chain, header, hreads, hchecks⟩ := acceptRequest_eq_ok.mp h
  have hflags := hchecks.dataFlags
  rw [if_pos htype] at hflags
  have helement : r.usedElement = usedElementAddress device := hchecks.usedElement_eq
  obtain ⟨-, hnone, hdata⟩ | ⟨hout, -⟩ := hacc.incoming_or_outgoing
  · refine ⟨⟨r.head, r.availIdx, r.sector, r.backingStart, r.data, r.status⟩,
      acceptReadRequest_eq_ok.mpr ⟨chain, header, hreads, hchecks.requestType_eq.symm.trans htype,
        hflags, ?_, hchecks.sector_eq, hchecks.data_eq, hchecks.status_eq⟩,
      ⟨hdata, hchecks.status_contains, helement ▸ hchecks.usedElement_contains⟩, ?_⟩
    · -- a positive multiple of the sector size is at least one sector
      have hpos := hacc.length_pos
      have hsectors := hacc.length_sectors
      rw [hchecks.data_eq] at hpos hsectors
      omega
    · obtain ⟨_, _, requestType, _, _, _, _, usedIdxAddress, usedElement, outgoingData⟩ := r
      obtain rfl : requestType = _ := htype
      obtain rfl : usedIdxAddress = _ := hchecks.usedIdxAddress_eq
      obtain rfl : usedElement = _ := helement
      obtain rfl : outgoingData = _ := hnone
      rfl
  · rw [htype] at hout
    exact absurd hout (by decide)

theorem VirtioBlkDevice.of_acceptReadRequest (h : device.acceptReadRequest memory = .ok q) :
    q.backingStart + q.data.length.toNat ≤ 2048 ∧
      memory.region.Contains (device.queueDevice.toNat + 2) 2 := by
  obtain ⟨chain, header, hreads, -, -, -, -, hdata, -⟩ := acceptReadRequest_eq_ok.mp h
  refine ⟨?_, (GuestMemory.read_eq_ok.mp hreads.usedIdx_read).1⟩
  rw [hdata]
  exact (requestBackingRange_eq_ok.mp hreads.backing).2.2.2

end Checks

/-! ### The writes of a read request -/

section Writes

variable {H : Type} {s : BlkState H} {q : ReadRequest}

/-- The bytes of the disk that a read request covers. -/
def ReadRequest.bytes (device : VirtioBlkDevice) (q : ReadRequest) : List UInt8 :=
  slice device.backing.1 q.backingStart q.data.length.toNat

theorem run_writeGuest_of_not_contains {a : ℕ} {source : List UInt8}
    (h : ¬ s.memory.region.Contains a source.length) :
    ∃ e, (writeGuest a source).run s = .error e s := by
  obtain ⟨e, he⟩ := GuestMemory.run_write_of_not_contains h
  exact ⟨_, run_within_of_error he⟩

theorem length_bytes (h : s.device.acceptReadRequest s.memory = .ok q) :
    (q.bytes s.device).length = q.data.length.toNat :=
  length_slice (by rw [s.device.backing.2]; exact (of_acceptReadRequest h).1)

/-- The state after the data buffer was filled. -/
def filledState (s : BlkState H) (q : ReadRequest) : BlkState H :=
  { s with memory := s.memory.overwrite q.data.address.toNat (q.bytes s.device) }

/-- The state after the data buffer was filled and the status byte was written. -/
def statusState (s : BlkState H) (q : ReadRequest) : BlkState H :=
  { s with memory := (filledState s q).memory.overwrite q.status.address.toNat [virtioBlkSOk] }

/-- The state after the whole request was served. -/
def servedState (s : BlkState H) (q : ReadRequest) : BlkState H where
  device := s.device.advance (q.toAccepted s.device)
  memory := completedMemory s.device (q.toAccepted s.device) s.memory
  host := s.host

theorem completedMemory_toAccepted (device : VirtioBlkDevice) (memory : GuestMemory)
    (q : ReadRequest) :
    completedMemory device (q.toAccepted device) memory =
      (((memory.overwrite q.data.address.toNat (q.bytes device)).overwrite
        q.status.address.toNat [virtioBlkSOk]).overwrite (usedElementAddress device)
        (u32Bytes q.head.toUInt32 ++ u32Bytes (q.data.length + 1))).overwrite
        (device.queueDevice.toNat + 2) (u16Bytes (device.lastUsedIdx + 1)) := by
  have htype : (q.toAccepted device).requestType = virtioBlkTIn := rfl
  rw [completedMemory, filledMemory, if_pos htype, AcceptedRequest.written, if_pos htype]
  rfl

section Accepted

variable (h : s.device.acceptReadRequest s.memory = .ok q)

include h

theorem run_processNotifiedQueue_of_accept :
    (processNotifiedQueue (H := H)).run s = (completeReadRequest q).run s := by
  have hread : (reads fun s : BlkState H => s.device.acceptReadRequest s.memory).run s =
      .ok q s := run_reads_of_ok h
  exact run_bind_of_ok hread

theorem run_process_of_data_outside
    (hdata : ¬ s.memory.region.Contains q.data.address.toNat q.data.length.toNat) :
    ∃ e, (processNotifiedQueue (H := H)).run s = .error e s := by
  have hget : (get : EStateM VirtioBlkProcessError (BlkState H) (BlkState H)).run s =
      .ok s s := rfl
  rw [← length_bytes h] at hdata
  obtain ⟨e, he⟩ := run_writeGuest_of_not_contains hdata
  rw [run_processNotifiedQueue_of_accept h, completeReadRequest, run_bind_of_ok hget]
  exact ⟨e, run_bind_of_error he⟩

theorem run_process_of_status_outside
    (hdata : s.memory.region.Contains q.data.address.toNat q.data.length.toNat)
    (hstatus : ¬ s.memory.region.Contains q.status.address.toNat 1) :
    ∃ e, (processNotifiedQueue (H := H)).run s = .error e (filledState s q) := by
  have hget : (get : EStateM VirtioBlkProcessError (BlkState H) (BlkState H)).run s =
      .ok s s := rfl
  have hfails : ¬ (filledState s q).memory.region.Contains q.status.address.toNat
      [virtioBlkSOk].length := hstatus
  rw [← length_bytes h] at hdata
  obtain ⟨e, he⟩ := run_writeGuest_of_not_contains hfails
  rw [run_processNotifiedQueue_of_accept h, completeReadRequest, run_bind_of_ok hget]
  exact ⟨e, (run_bind_of_ok (run_writeGuest_of_contains hdata)).trans (run_bind_of_error he)⟩

/-- A used element outside guest memory, or one whose address overflows, fails the third write. -/
theorem run_process_of_usedElement_outside
    (hdata : s.memory.region.Contains q.data.address.toNat q.data.length.toNat)
    (hstatus : s.memory.region.Contains q.status.address.toNat 1)
    (hused : ¬ s.memory.region.Contains (usedElementAddress s.device) 8) :
    ∃ e, (processNotifiedQueue (H := H)).run s = .error e (statusState s q) := by
  have hget : (get : EStateM VirtioBlkProcessError (BlkState H) (BlkState H)).run s =
      .ok s s := rfl
  have hwrite : (filledState s q).memory.region.Contains q.status.address.toNat
      [virtioBlkSOk].length := hstatus
  have hfails : ¬ (statusState s q).memory.region.Contains (usedElementAddress s.device)
      (u32Bytes q.head.toUInt32 ++ u32Bytes (q.data.length + 1)).length := hused
  rw [← length_bytes h] at hdata
  obtain ⟨e, he⟩ := run_writeGuest_of_not_contains hfails
  rw [run_processNotifiedQueue_of_accept h, completeReadRequest, run_bind_of_ok hget]
  cases haddr : checkedAdd s.device.queueDevice
      (4 + 8 * (s.device.lastUsedIdx % s.device.queueSize).toNat) with
  | error e' =>
      have hthrow : (reads fun _ : BlkState H => liftDevice (checkedAdd s.device.queueDevice
          (4 + 8 * (s.device.lastUsedIdx % s.device.queueSize).toNat))).run (statusState s q) =
          .error (.device e') (statusState s q) := run_reads_of_error (by rw [haddr]; rfl)
      exact ⟨_, (run_bind_of_ok (run_writeGuest_of_contains hdata)).trans <|
        (run_bind_of_ok (run_writeGuest_of_contains hwrite)).trans (run_bind_of_error hthrow)⟩
  | ok address =>
      obtain ⟨-, rfl⟩ := checkedAdd_eq_ok.mp haddr
      have hread : (reads fun _ : BlkState H => liftDevice (checkedAdd s.device.queueDevice
          (4 + 8 * (s.device.lastUsedIdx % s.device.queueSize).toNat))).run (statusState s q) =
          .ok _ (statusState s q) := run_reads_of_ok (liftDevice_eq_ok.mpr haddr)
      exact ⟨e, (run_bind_of_ok (run_writeGuest_of_contains hdata)).trans <|
        (run_bind_of_ok (run_writeGuest_of_contains hwrite)).trans <|
        (run_bind_of_ok hread).trans (run_bind_of_error he)⟩

/-- **A request whose ranges fit is served**, as the atomic path serves it. -/
theorem run_processNotifiedQueue_of_fits (hfits : q.Fits s.device s.memory) :
    (processNotifiedQueue (H := H)).run s =
      .ok ⟨q.head.toUInt32, q.data.length + 1, q.sector⟩ (servedState s q) := by
  have hget : (get : EStateM VirtioBlkProcessError (BlkState H) (BlkState H)).run s =
      .ok s s := rfl
  have hdata : s.memory.region.Contains q.data.address.toNat (q.bytes s.device).length := by
    rw [length_bytes h]
    exact hfits.data
  have hstatus : (filledState s q).memory.region.Contains q.status.address.toNat
      [virtioBlkSOk].length := hfits.status
  have hused : (statusState s q).memory.region.Contains (usedElementAddress s.device)
      (u32Bytes q.head.toUInt32 ++ u32Bytes (q.data.length + 1)).length := hfits.usedElement
  have hread : (reads fun _ : BlkState H => liftDevice (checkedAdd s.device.queueDevice
      (4 + 8 * (s.device.lastUsedIdx % s.device.queueSize).toNat))).run (statusState s q) =
      .ok (usedElementAddress s.device) (statusState s q) :=
    run_reads_of_ok (liftDevice_eq_ok.mpr (checkedAdd_eq_ok.mpr
      ⟨lt_of_contains (by norm_num) hfits.usedElement, rfl⟩))
  have hidx := (of_acceptReadRequest h).2
  have hidxRead : ∀ t : BlkState H,
      (reads fun _ : BlkState H => liftDevice (checkedAdd s.device.queueDevice 2)).run t =
        .ok (s.device.queueDevice.toNat + 2) t := fun t =>
    run_reads_of_ok (liftDevice_eq_ok.mpr (checkedAdd_eq_ok.mpr
      ⟨lt_of_contains (by norm_num) hidx, rfl⟩))
  rw [run_processNotifiedQueue_of_accept h, completeReadRequest, run_bind_of_ok hget]
  refine (run_bind_of_ok (run_writeGuest_of_contains hdata)).trans <|
    (run_bind_of_ok (run_writeGuest_of_contains hstatus)).trans <|
    (run_bind_of_ok hread).trans <| (run_bind_of_ok (run_writeGuest_of_contains hused)).trans <|
    (run_bind_of_ok (hidxRead _)).trans <|
    (run_bind_of_ok (run_writeGuest_of_contains ?_)).trans ?_
  · exact hidx
  · rw [servedState, completedMemory_toAccepted]
    rfl

end Accepted

theorem run_processNotifiedQueue_of_error {e : VirtioBlkProcessError}
    (h : s.device.acceptReadRequest s.memory = .error e) :
    (processNotifiedQueue (H := H)).run s = .error e s := by
  have hread : (reads fun s : BlkState H => s.device.acceptReadRequest s.memory).run s =
      .error e s := run_reads_of_error h
  exact run_bind_of_error hread

theorem fits_of_run_processNotifiedQueue {c : VirtioBlkQueueCompletion} {s' : BlkState H}
    (h : (processNotifiedQueue (H := H)).run s = .ok c s') :
    ∃ q, s.device.acceptReadRequest s.memory = .ok q ∧ q.Fits s.device s.memory := by
  cases haccept : s.device.acceptReadRequest s.memory with
  | error e =>
      rw [run_processNotifiedQueue_of_error haccept] at h
      cases h
  | ok q =>
      refine ⟨q, rfl, ?_⟩
      by_contra hfits
      have herror : ∃ e t, (processNotifiedQueue (H := H)).run s = .error e t := by
        by_cases hdata : s.memory.region.Contains q.data.address.toNat q.data.length.toNat
        · by_cases hstatus : s.memory.region.Contains q.status.address.toNat 1
          · obtain ⟨e, he⟩ := run_process_of_usedElement_outside haccept hdata hstatus
              fun hused => hfits ⟨hdata, hstatus, hused⟩
            exact ⟨e, _, he⟩
          · obtain ⟨e, he⟩ := run_process_of_status_outside haccept hdata hstatus
            exact ⟨e, _, he⟩
        · obtain ⟨e, he⟩ := run_process_of_data_outside haccept hdata
          exact ⟨e, _, he⟩
      obtain ⟨e, t, he⟩ := herror
      rw [he] at h
      cases h

end Writes

/-! ### Agreement on reads -/

section Agreement

variable {H : Type}

/-- **The two processors agree on reads.** On a memory-backed device, for every guest memory whose
available ring does not select a request to write the disk, one call succeeds exactly when the other
does, and then with the same completion, the same device and the same guest memory.  No range has to
be apart from any other. -/
theorem processNotifiedQueue_agrees (files : HostFiles H) (s : BlkState H) (hs : MemoryBacked s)
    (hread : ¬ s.device.SelectsOutgoing s.memory) (c : VirtioBlkQueueCompletion)
    (s' : BlkState H) :
    (processNotifiedQueue (H := H)).run s = .ok c s' ↔
      (processNotifiedQueueAtomic files).run s = .ok c s' := by
  constructor
  · intro h
    obtain ⟨q, haccept, hfits⟩ := fits_of_run_processNotifiedQueue h
    rw [run_processNotifiedQueue_of_fits haccept hfits] at h
    rw [← h]
    exact run_process_of_ok hs (acceptRequest_of_acceptReadRequest haccept hfits)
  · intro h
    cases haccept : s.device.acceptRequest s.memory with
    | error e =>
        rw [run_process_of_error haccept] at h
        cases h
    | ok r =>
        have hacc := accepted_of_acceptRequest haccept
        have htype : r.requestType = virtioBlkTIn := by
          rcases hacc.incoming_or_outgoing with ⟨htype, -⟩ | ⟨htype, -⟩
          · exact htype
          · obtain ⟨chain, hchain, -, -, hheader⟩ := hacc.chain
            refine absurd ⟨r.head, chain, _, hacc.head_read, hchain, hheader, ?_⟩ hread
            rw [slice_append_left (by simp), ← length_u32Bytes r.requestType, slice_zero_length,
              u32OfBytes_u32Bytes, htype]
        obtain ⟨q, hq, hfits, rfl⟩ := acceptReadRequest_of_acceptRequest haccept htype
        rw [run_process_of_ok hs haccept] at h
        rw [run_processNotifiedQueue_of_fits hq hfits, ← h]
        rfl

theorem not_selectsOutgoing_of_accepted {device : VirtioBlkDevice} {memory : GuestMemory}
    {r : AcceptedRequest} (h : device.Accepted memory r) (htype : r.requestType = virtioBlkTIn) :
    ¬ device.SelectsOutgoing memory := by
  rintro ⟨head, chain, header, hhead, hchain, hheader, hout⟩
  obtain ⟨chain', hchain', -, -, hheader'⟩ := h.chain
  have hsame : head = r.head := by
    rw [h.head_read, Except.ok.injEq] at hhead
    exact u16Bytes_injective hhead.symm
  rw [hsame, hchain', Except.ok.injEq] at hchain
  rw [← hchain, hheader', Except.ok.injEq] at hheader
  rw [← hheader, slice_append_left (by simp), ← length_u32Bytes r.requestType, slice_zero_length,
    u32OfBytes_u32Bytes, htype] at hout
  exact absurd hout (by decide)

/-- Both processors read sector 1 for the guest of `readRequestMemory`. -/
theorem processNotifiedQueue_agrees_readRequest :
    ∃ c s', processNotifiedQueue.run ⟨notifiedDevice, readRequestMemory, ()⟩ = .ok c s' ∧
      (processNotifiedQueueAtomic noFiles).run ⟨notifiedDevice, readRequestMemory, ()⟩ =
        .ok c s' := by
  have hs : MemoryBacked (⟨notifiedDevice, readRequestMemory, ()⟩ : BlkState Unit) := rfl
  have hrun : (processNotifiedQueueAtomic noFiles).run
      ⟨notifiedDevice, readRequestMemory, ()⟩ = _ :=
    run_process_of_ok hs acceptRequest_readRequestMemory
  have hread := not_selectsOutgoing_of_accepted
    (accepted_of_acceptRequest acceptRequest_readRequestMemory) rfl
  exact ⟨_, _, (processNotifiedQueue_agrees noFiles _ hs hread _ _).mpr hrun, hrun⟩

end Agreement

/-! ### Failing calls -/

section Failure

variable {H : Type} {s : BlkState H}

/-- The ranges and contents with which a failing call leaves no trace.  Once the data buffer lies in
guest memory it is written, so the ranges after it have to lie there too; or else what is written
before the failing write is there already: the bytes of the disk in the data buffer and, if it lies
in guest memory, the status byte. -/
def FailsCleanly (device : VirtioBlkDevice) (memory : GuestMemory) : Prop :=
  ∀ q, device.acceptReadRequest memory = .ok q →
    memory.region.Contains q.data.address.toNat q.data.length.toNat →
    if memory.region.Contains q.status.address.toNat 1 then
      memory.region.Contains (usedElementAddress device) 8 ∨
        (∀ i < q.data.length.toNat, q.data.address.toNat + i ≠ q.status.address.toNat →
          memory.byteAt (q.data.address.toNat + i) = (q.bytes device).getD i 0) ∧
        memory.byteAt q.status.address.toNat = virtioBlkSOk
    else
      ∀ i < q.data.length.toNat,
        memory.byteAt (q.data.address.toNat + i) = (q.bytes device).getD i 0

theorem filledState_eq_self_iff {q : ReadRequest}
    (h : s.device.acceptReadRequest s.memory = .ok q)
    (hdata : s.memory.region.Contains q.data.address.toNat q.data.length.toNat) :
    filledState s q = s ↔ ∀ i < q.data.length.toNat,
      s.memory.byteAt (q.data.address.toNat + i) = (q.bytes s.device).getD i 0 := by
  rw [BlkState.ext_iff, ← length_bytes h, ← GuestMemory.overwrite_eq_self_iff hdata.1]
  exact ⟨fun heq => heq.2.1, fun heq => ⟨rfl, heq, rfl⟩⟩

theorem statusState_eq_self_iff {q : ReadRequest}
    (h : s.device.acceptReadRequest s.memory = .ok q)
    (hdata : s.memory.region.Contains q.data.address.toNat q.data.length.toNat)
    (hstatus : s.memory.region.Contains q.status.address.toNat 1) :
    statusState s q = s ↔
      (∀ i < q.data.length.toNat, q.data.address.toNat + i ≠ q.status.address.toNat →
        s.memory.byteAt (q.data.address.toNat + i) = (q.bytes s.device).getD i 0) ∧
      s.memory.byteAt q.status.address.toNat = virtioBlkSOk := by
  have hmemory : statusState s q = s ↔
      (s.memory.overwrite q.data.address.toNat (q.bytes s.device)).overwrite
        q.status.address.toNat [virtioBlkSOk] = s.memory := by
    rw [BlkState.ext_iff]
    exact ⟨fun heq => heq.2.1, fun heq => ⟨rfl, heq, rfl⟩⟩
  rw [hmemory, GuestMemory.overwrite_overwrite_eq_self_iff hdata.1 hstatus.1, length_bytes h]
  refine and_congr (forall₂_congr fun i _ => imp_congr ?_ Iff.rfl) ?_
  · simp only [List.length_singleton]
    omega
  · simp

/-- **When a failing call changes nothing.** -/
theorem processNotifiedQueue_error_iff :
    (∀ e s', (processNotifiedQueue (H := H)).run s = .error e s' → s' = s) ↔
      FailsCleanly s.device s.memory := by
  constructor
  · intro hclean q haccept hdata
    split_ifs with hstatus
    · by_cases hused : s.memory.region.Contains (usedElementAddress s.device) 8
      · exact Or.inl hused
      · obtain ⟨e, he⟩ := run_process_of_usedElement_outside haccept hdata hstatus hused
        exact Or.inr ((statusState_eq_self_iff haccept hdata hstatus).mp (hclean e _ he))
    · obtain ⟨e, he⟩ := run_process_of_status_outside haccept hdata hstatus
      exact (filledState_eq_self_iff haccept hdata).mp (hclean e _ he)
  · intro hclean e s' hrun
    cases haccept : s.device.acceptReadRequest s.memory with
    | error e' =>
        rw [run_processNotifiedQueue_of_error haccept] at hrun
        cases hrun
        rfl
    | ok q =>
        by_cases hdata : s.memory.region.Contains q.data.address.toNat q.data.length.toNat
        · have hcases := hclean q haccept hdata
          split_ifs at hcases with hstatus
          · by_cases hused : s.memory.region.Contains (usedElementAddress s.device) 8
            · rw [run_processNotifiedQueue_of_fits haccept ⟨hdata, hstatus, hused⟩] at hrun
              cases hrun
            · obtain ⟨e', he⟩ := run_process_of_usedElement_outside haccept hdata hstatus hused
              rw [he] at hrun
              cases hrun
              exact (statusState_eq_self_iff haccept hdata hstatus).mpr
                (hcases.resolve_left hused)
          · obtain ⟨e', he⟩ := run_process_of_status_outside haccept hdata hstatus
            rw [he] at hrun
            cases hrun
            exact (filledState_eq_self_iff haccept hdata).mpr hcases
        · obtain ⟨e', he⟩ := run_process_of_data_outside haccept hdata
          rw [he] at hrun
          cases hrun
          rfl

end Failure

end MiniHypervisor.VirtioBlk
