import MiniHypervisor.VirtioBlk.Queue

/-!
# All-or-nothing requests

Every guest range that `process_notified_queue_atomic` writes was read before, and a range that
can be read can be written, whatever was written in between.  So on a memory-backed device the
call can only fail while it reads and checks, when nothing has been changed yet.
-/

namespace MiniHypervisor.VirtioBlk

open Bytes Control Memory

variable {α β : Type}

theorem liftDevice_eq_ok {x : Except VirtioBlkError α} {a : α} :
    liftDevice x = .ok a ↔ x = .ok a := by
  cases x <;> simp [liftDevice, Except.mapError]

theorem liftMemory_eq_ok {x : Except GuestMemoryError α} {a : α} :
    liftMemory x = .ok a ↔ x = .ok a := by
  cases x <;> simp [liftMemory, Except.mapError]

theorem checkedAdd_eq_ok {base : UInt64} {offset a : ℕ} :
    checkedAdd base offset = .ok a ↔ base.toNat + offset < 2 ^ 64 ∧ a = base.toNat + offset := by
  simp only [checkedAdd, rejectIf_bind_eq_ok, pure, Except.pure, Except.ok.injEq, not_le]
  exact and_congr_right fun _ => eq_comm

theorem readGuestU16_eq_ok {memory : GuestMemory} {address : ℕ} {v : UInt16} :
    readGuestU16 memory address = .ok v ↔ memory.read address 2 = .ok (u16Bytes v) := by
  simp only [readGuestU16, bind_eq_ok, pure, Except.pure, Except.ok.injEq]
  constructor
  · rintro ⟨bytes, hread, rfl⟩
    rw [u16Bytes_u16OfBytes (GuestMemory.length_of_read hread), hread]
  · exact fun h => ⟨_, h, u16OfBytes_u16Bytes v⟩

theorem preflightGuestOutput_eq_ok {memory : GuestMemory} {address length : ℕ} {u : Unit} :
    VirtioBlkDevice.preflightGuestOutput memory address length = .ok u ↔
      memory.region.Contains address length := by
  simp only [VirtioBlkDevice.preflightGuestOutput, bind_eq_ok, GuestMemory.read_eq_ok, pure,
    Except.pure]
  constructor
  · rintro ⟨_, h, _⟩
    exact h.1
  · intro h
    exact ⟨_, ⟨h, rfl⟩, trivial⟩

namespace VirtioBlkDevice

theorem requestBackingRange_eq_ok {sector : UInt64} {dataLength : UInt32} {start : ℕ} :
    requestBackingRange sector dataLength = .ok start ↔
      start = 512 * sector.toNat ∧ 0 < dataLength.toNat ∧ dataLength.toNat % 512 = 0 ∧
        start + dataLength.toNat ≤ 2048 := by
  have hzero : dataLength = 0 ↔ dataLength.toNat = 0 := by
    rw [← UInt32.toNat_inj, UInt32.toNat_zero]
  simp only [requestBackingRange, rejectIf_bind_eq_ok, pure, Except.pure, Except.ok.injEq]
  simp only [hzero, virtioBlkSectorSize, virtioBlkCapacitySectors, virtioBlkBackingSize]
  omega

theorem requireLength_eq_ok {index : UInt16} {length required : UInt32} {u : Unit} :
    requireLength index length required = .ok u ↔ required.toNat ≤ length.toNat := by
  rw [requireLength, rejectIf_eq_ok, UInt32.not_lt, UInt32.le_iff_toNat_le]

theorem ensureDescriptorIndex_eq_ok {device : VirtioBlkDevice} {index : UInt16} {u : Unit} :
    device.ensureDescriptorIndex index = .ok u ↔ index.toNat < device.queueSize.toNat := by
  rw [ensureDescriptorIndex, rejectIf_eq_ok, ge_iff_le, UInt16.not_le, UInt16.lt_iff_toNat_lt]

theorem requireFlags_eq_ok {index actual expected : UInt16} {u : Unit} :
    requireFlags index actual expected = .ok u ↔ actual = expected := by
  rw [requireFlags, rejectIf_eq_ok, not_not]

/-! ### The checks of a request -/

/-- What both paths read and check of the request in the rings: its head, its chain and its header,
the part of the disk it covers, and the used index. -/
structure ReadsRequest (device : VirtioBlkDevice) (memory : GuestMemory) (head availIdx : UInt16)
    (chain : ResolvedRequestChain) (header : List UInt8) (backingStart : ℕ) : Prop where
  ready : device.ensureQueueReady = .ok ()
  pending : device.notifyPending = true
  availAddress_lt : device.queueDriver.toNat + 2 < 2 ^ 64
  availIdx_read : memory.read (device.queueDriver.toNat + 2) 2 = .ok (u16Bytes availIdx)
  availIdx_eq : availIdx = device.lastAvailIdx + 1
  headAddress_lt :
    device.queueDriver.toNat + (4 + 2 * (device.lastAvailIdx % device.queueSize).toNat) < 2 ^ 64
  head_read : memory.read
      (device.queueDriver.toNat + (4 + 2 * (device.lastAvailIdx % device.queueSize).toNat)) 2 =
    .ok (u16Bytes head)
  head_lt : head.toNat < device.queueSize.toNat
  chain_eq : device.resolveRequestChain memory head = .ok chain
  header_read : memory.read chain.header.address.toNat 16 = .ok header
  reserved : u32OfBytes (slice header 4 4) = 0
  backing : requestBackingRange (u64OfBytes (slice header 8 8)) chain.data.length = .ok backingStart
  usedAddress_lt : device.queueDevice.toNat + 2 < 2 ^ 64
  usedIdx_read : memory.read (device.queueDevice.toNat + 2) 2 = .ok (u16Bytes device.lastUsedIdx)

/-- What the atomic path checks besides, and the request it makes of it. -/
structure Preflights (device : VirtioBlkDevice) (memory : GuestMemory)
    (chain : ResolvedRequestChain) (header : List UInt8) (r : AcceptedRequest) : Prop where
  requestType_eq : r.requestType = u32OfBytes (slice header 0 4)
  sector_eq : r.sector = u64OfBytes (slice header 8 8)
  data_eq : r.data = chain.data
  status_eq : r.status = chain.status
  requestType_cases : r.requestType = virtioBlkTIn ∨ r.requestType = virtioBlkTOut
  dataFlags : chain.data.flags =
    if r.requestType = virtioBlkTIn then virtqDescFNext ||| virtqDescFWrite else virtqDescFNext
  usedIdxAddress_eq : r.usedIdxAddress = device.queueDevice.toNat + 2
  usedElement_eq : r.usedElement =
    device.queueDevice.toNat + (4 + 8 * (device.lastUsedIdx % device.queueSize).toNat)
  usedElement_lt : r.usedElement < 2 ^ 64
  outgoing : readOutgoingData memory r.requestType r.data = .ok r.outgoingData
  status_contains : memory.region.Contains r.status.address.toNat 1
  usedElement_contains : memory.region.Contains r.usedElement 8
  usedIdx_contains : memory.region.Contains r.usedIdxAddress 2

section Acceptance

variable {device : VirtioBlkDevice} {memory : GuestMemory}

/-- **When the atomic path accepts a request.** -/
theorem acceptRequest_eq_ok {r : AcceptedRequest} :
    device.acceptRequest memory = .ok r ↔ ∃ chain header,
      device.ReadsRequest memory r.head r.availIdx chain header r.backingStart ∧
        device.Preflights memory chain header r := by
  simp only [acceptRequest, bind_eq_ok, liftDevice_eq_ok, liftMemory_eq_ok, rejectIf_eq_ok,
    checkedAdd_eq_ok, readGuestU16_eq_ok, preflightGuestOutput_eq_ok, ensureDescriptorIndex_eq_ok,
    requireFlags_eq_ok, ne_eq, not_and_or, not_not, pure, Except.pure, Except.ok.injEq,
    exists_const, and_assoc, exists_and_left, exists_eq_left]
  constructor
  · rintro ⟨_, hready, hpending, hdriver, availIdx, havailRead, havail, hslot, head, hhead, hindex,
      chain, hchain, header, hheader, htype, hreserved, start, hstart, hflags, hused, _, husedRead,
      rfl, helement, outgoing, houtgoing, hstatus, hcontains, hidx, rfl⟩
    exact ⟨chain, header, ⟨hready, hpending, hdriver, havailRead, havail, hslot, hhead, hindex,
      hchain, hheader, hreserved, hstart, hused, husedRead⟩, rfl, rfl, rfl, rfl, htype, hflags, rfl,
      rfl, helement, houtgoing, hstatus, hcontains, hidx⟩
  · rintro ⟨chain, header, hreads, h⟩
    obtain ⟨head, availIdx, requestType, sector, start, data, status, usedIdxAddress, usedElement,
      outgoing⟩ := r
    obtain ⟨rfl, rfl, rfl, rfl, htype, hflags, rfl, rfl, helement, houtgoing, hstatus, hcontains,
      hidx⟩ := h
    exact ⟨(), hreads.ready, hreads.pending, hreads.availAddress_lt, availIdx, hreads.availIdx_read,
      hreads.availIdx_eq, hreads.headAddress_lt, head, hreads.head_read, hreads.head_lt, chain,
      hreads.chain_eq, header, hreads.header_read, htype, hreads.reserved, start, hreads.backing,
      hflags, hreads.usedAddress_lt, _, hreads.usedIdx_read, rfl, helement, outgoing, houtgoing,
      hstatus, hcontains, hidx, rfl⟩

/-- **When the older path accepts a request.** -/
theorem acceptReadRequest_eq_ok {q : ReadRequest} :
    device.acceptReadRequest memory = .ok q ↔ ∃ chain header,
      device.ReadsRequest memory q.head q.availIdx chain header q.backingStart ∧
        u32OfBytes (slice header 0 4) = virtioBlkTIn ∧
        chain.data.flags = virtqDescFNext ||| virtqDescFWrite ∧ 512 ≤ chain.data.length.toNat ∧
        q.sector = u64OfBytes (slice header 8 8) ∧ q.data = chain.data ∧
        q.status = chain.status := by
  simp only [acceptReadRequest, bind_eq_ok, liftDevice_eq_ok, liftMemory_eq_ok, rejectIf_eq_ok,
    checkedAdd_eq_ok, readGuestU16_eq_ok, ensureDescriptorIndex_eq_ok, requireFlags_eq_ok,
    requireLength_eq_ok, ne_eq, not_not, pure, Except.pure, Except.ok.injEq, exists_const,
    and_assoc, exists_and_left, exists_eq_left]
  constructor
  · rintro ⟨_, hready, hpending, hdriver, availIdx, havailRead, havail, hslot, head, hhead, hindex,
      chain, hchain, hflags, hlength, header, hheader, htype, hreserved, start, hstart, hused, _,
      husedRead, rfl, rfl⟩
    exact ⟨chain, header, ⟨hready, hpending, hdriver, havailRead, havail, hslot, hhead, hindex,
      hchain, hheader, hreserved, hstart, hused, husedRead⟩, htype, hflags, hlength, rfl, rfl, rfl⟩
  · rintro ⟨chain, header, hreads, htype, hflags, hlength, hsector, hdata, hstatus⟩
    obtain ⟨head, availIdx, sector, start, data, status⟩ := q
    obtain ⟨rfl, rfl, rfl⟩ := And.intro hsector (And.intro hdata hstatus)
    exact ⟨(), hreads.ready, hreads.pending, hreads.availAddress_lt, availIdx, hreads.availIdx_read,
      hreads.availIdx_eq, hreads.headAddress_lt, head, hreads.head_read, hreads.head_lt, chain,
      hreads.chain_eq, hflags, hlength, header, hreads.header_read, htype, hreads.reserved, start,
      hreads.backing, hreads.usedAddress_lt, _, hreads.usedIdx_read, rfl, rfl⟩

end Acceptance

/-- What is known about a request once it was accepted. -/
structure Accepted (device : VirtioBlkDevice) (memory : GuestMemory) (r : AcceptedRequest) :
    Prop where
  availIdx_eq : r.availIdx = device.lastAvailIdx + 1
  head_read : memory.read
      (device.queueDriver.toNat + (4 + 2 * (device.lastAvailIdx % device.queueSize).toNat)) 2 =
    .ok (u16Bytes r.head)
  chain : ∃ chain, device.resolveRequestChain memory r.head = .ok chain ∧
    chain.data = r.data ∧ chain.status = r.status ∧
    memory.read chain.header.address.toNat 16 =
      .ok (u32Bytes r.requestType ++ (u32Bytes 0 ++ u64Bytes r.sector))
  backingStart_eq : r.backingStart = 512 * r.sector.toNat
  length_pos : 0 < r.data.length.toNat
  length_sectors : r.data.length.toNat % 512 = 0
  range_le : r.backingStart + r.data.length.toNat ≤ 2048
  usedIdxAddress_eq : r.usedIdxAddress = device.queueDevice.toNat + 2
  usedElement_eq : r.usedElement =
    device.queueDevice.toNat + (4 + 8 * (device.lastUsedIdx % device.queueSize).toNat)
  usedIdx_read : memory.read r.usedIdxAddress 2 = .ok (u16Bytes device.lastUsedIdx)
  incoming_or_outgoing :
    (r.requestType = virtioBlkTIn ∧ r.outgoingData = none ∧
      memory.region.Contains r.data.address.toNat r.data.length.toNat) ∨
    (r.requestType = virtioBlkTOut ∧ ∃ bytes, r.outgoingData = some bytes ∧
      memory.read r.data.address.toNat r.data.length.toNat = .ok bytes)
  status_contains : memory.region.Contains r.status.address.toNat 1
  usedElement_contains : memory.region.Contains r.usedElement 8
  usedIdx_contains : memory.region.Contains r.usedIdxAddress 2

private theorem header_eq {request : List UInt8} (hlen : request.length = 16)
    (hreserved : u32OfBytes (slice request 4 4) = 0) :
    request = u32Bytes (u32OfBytes (slice request 0 4)) ++
      (u32Bytes 0 ++ u64Bytes (u64OfBytes (slice request 8 8))) := by
  rw [← hreserved, u32Bytes_u32OfBytes (length_slice (by omega)),
    u32Bytes_u32OfBytes (length_slice (by omega)),
    u64Bytes_u64OfBytes (length_slice (by omega))]
  have hend : slice request 8 8 = request.drop 8 := by
    rw [slice, List.take_of_length_le (by rw [List.length_drop]; omega)]
  rw [hend, slice_append_drop request 4 4, slice_append_drop request 0 4, List.drop_zero]

theorem readOutgoingData_cases {memory : GuestMemory} {requestType : UInt32} {data : Descriptor}
    {outgoing : Option (List UInt8)}
    (htype : requestType = virtioBlkTIn ∨ requestType = virtioBlkTOut)
    (h : readOutgoingData memory requestType data = .ok outgoing) :
    (requestType = virtioBlkTIn ∧ outgoing = none ∧
      memory.region.Contains data.address.toNat data.length.toNat) ∨
    (requestType = virtioBlkTOut ∧ ∃ bytes, outgoing = some bytes ∧
      memory.read data.address.toNat data.length.toNat = .ok bytes) := by
  unfold readOutgoingData at h
  split_ifs at h with hout
  · obtain ⟨bytes, hread, h⟩ := bind_eq_ok.mp h
    exact Or.inr ⟨hout, bytes, (Except.ok.inj h).symm, hread⟩
  · obtain ⟨u, hpre, h⟩ := bind_eq_ok.mp h
    exact Or.inl ⟨htype.resolve_right hout, (Except.ok.inj h).symm,
      preflightGuestOutput_eq_ok.mp hpre⟩

/-- **What acceptance establishes.** -/
theorem accepted_of_acceptRequest {device : VirtioBlkDevice} {memory : GuestMemory}
    {r : AcceptedRequest} (h : device.acceptRequest memory = .ok r) :
    device.Accepted memory r := by
  obtain ⟨chain, header, hreads, hchecks⟩ := acceptRequest_eq_ok.mp h
  obtain ⟨hstart, hpos, hsectors, hrange⟩ := requestBackingRange_eq_ok.mp hreads.backing
  have hheader := header_eq (GuestMemory.length_of_read hreads.header_read) hreads.reserved
  rw [← hchecks.requestType_eq, ← hchecks.sector_eq] at hheader
  rw [← hchecks.sector_eq] at hstart
  rw [← hchecks.data_eq] at hpos hsectors hrange
  exact {
    availIdx_eq := hreads.availIdx_eq
    head_read := hreads.head_read
    chain := ⟨chain, hreads.chain_eq, hchecks.data_eq.symm, hchecks.status_eq.symm,
      hheader ▸ hreads.header_read⟩
    backingStart_eq := hstart
    length_pos := hpos
    length_sectors := hsectors
    range_le := hrange
    usedIdxAddress_eq := hchecks.usedIdxAddress_eq
    usedElement_eq := hchecks.usedElement_eq
    usedIdx_read := by rw [hchecks.usedIdxAddress_eq, hreads.usedIdx_read]
    incoming_or_outgoing := readOutgoingData_cases hchecks.requestType_cases hchecks.outgoing
    status_contains := hchecks.status_contains
    usedElement_contains := hchecks.usedElement_contains
    usedIdx_contains := hchecks.usedIdx_contains }

/-- The number of bytes a request writes to the guest, as its used element reports it. -/
def AcceptedRequest.written (r : AcceptedRequest) : UInt32 :=
  if r.requestType = virtioBlkTIn then r.data.length + 1 else 1

/-- The bytes of the disk that a request covers. -/
def requestedBytes (device : VirtioBlkDevice) (r : AcceptedRequest) : List UInt8 :=
  slice device.backing.1 r.backingStart r.data.length.toNat

theorem Accepted.length_requestedBytes {device : VirtioBlkDevice} {memory : GuestMemory}
    {r : AcceptedRequest} (h : device.Accepted memory r) :
    (device.requestedBytes r).length = r.data.length.toNat :=
  length_slice (by rw [device.backing.2]; exact h.range_le)

end VirtioBlkDevice

open VirtioBlkDevice

/-! ### The writes of an accepted request -/

/-- The guest memory after the data buffer of a read request was filled. -/
def filledMemory (device : VirtioBlkDevice) (r : AcceptedRequest) (memory : GuestMemory) :
    GuestMemory :=
  if r.requestType = virtioBlkTIn then
    memory.overwrite r.data.address.toNat (device.requestedBytes r)
  else memory

/-- The guest memory after all writes of an accepted request. -/
def completedMemory (device : VirtioBlkDevice) (r : AcceptedRequest) (memory : GuestMemory) :
    GuestMemory :=
  (((filledMemory device r memory).overwrite r.status.address.toNat [virtioBlkSOk]).overwrite
    r.usedElement (u32Bytes r.head.toUInt32 ++ u32Bytes r.written)).overwrite
    r.usedIdxAddress (u16Bytes (device.lastUsedIdx + 1))

@[simp] theorem region_filledMemory (device : VirtioBlkDevice) (r : AcceptedRequest)
    (memory : GuestMemory) : (filledMemory device r memory).region = memory.region := by
  unfold filledMemory
  split_ifs
  · rfl
  · rfl

section Complete

/-- The device keeps its disk in memory only. -/
def MemoryBacked {H : Type} (s : BlkState H) : Prop := s.device.persistentBacking = none

variable {H : Type} {files : HostFiles H} {s : BlkState H} {r : AcceptedRequest}

theorem run_writeGuest_of_contains {a : ℕ} {source : List UInt8}
    (h : s.memory.region.Contains a source.length) :
    (writeGuest a source).run s = .ok () { s with memory := s.memory.overwrite a source } :=
  run_within_of_ok (GuestMemory.run_write_of_contains h)

theorem run_persistOutgoingData (hs : MemoryBacked s) :
    (persistOutgoingData files r).run s = .ok () s := by
  unfold persistOutgoingData
  cases r.outgoingData with
  | none => rfl
  | some bytes =>
      have hget : (get : EStateM VirtioBlkProcessError (BlkState H) (BlkState H)).run s =
          .ok s s := rfl
      simp only [persistBackingRange]
      rw [run_bind_of_ok hget, show s.device.persistentBacking = none from hs]
      rfl

theorem run_writeIncomingData (h : s.device.Accepted s.memory r) :
    (writeIncomingData r).run s =
      .ok r.written { s with memory := filledMemory s.device r s.memory } := by
  have hget : (get : EStateM VirtioBlkProcessError (BlkState H) (BlkState H)).run s =
      .ok s s := rfl
  unfold writeIncomingData filledMemory AcceptedRequest.written
  rcases h.incoming_or_outgoing with ⟨htype, -, hdata⟩ | ⟨htype, -⟩
  · rw [if_pos htype, if_pos htype, if_pos htype, run_bind_of_ok hget,
      run_bind_of_ok (run_writeGuest_of_contains (by
        rw [← h.length_requestedBytes] at hdata
        exact hdata))]
    rfl
  · have hne : r.requestType ≠ virtioBlkTIn := by
      rw [htype]
      decide
    rw [if_neg hne, if_neg hne, if_neg hne]
    rfl

/-- The writes that the guest sees, once an outgoing buffer is stored. -/
def publishRequest (request : AcceptedRequest) :
    EStateM VirtioBlkProcessError (BlkState H) VirtioBlkQueueCompletion := do
  let written ← writeIncomingData request
  writeGuest request.status.address.toNat [virtioBlkSOk]
  writeGuest request.usedElement (u32Bytes request.head.toUInt32 ++ u32Bytes written)
  let nextUsed := (← get).device.lastUsedIdx + 1
  writeGuest request.usedIdxAddress (u16Bytes nextUsed)
  modify fun s => { s with device := s.device.advance request }
  return { descriptorId := request.head.toUInt32, length := written, sector := request.sector }

theorem completeRequest_eq : completeRequest files r = (do
    persistOutgoingData files r
    publishRequest r) := rfl

/-- **The writes of an accepted request succeed**: every range they write was read before. -/
theorem run_publishRequest (h : s.device.Accepted s.memory r) :
    (publishRequest r).run s =
      .ok ⟨r.head.toUInt32, r.written, r.sector⟩
        ⟨s.device.advance r, completedMemory s.device r s.memory, s.host⟩ := by
  have hget : ∀ t : BlkState H,
      (get : EStateM VirtioBlkProcessError (BlkState H) (BlkState H)).run t = .ok t t :=
    fun _ => rfl
  rw [publishRequest, run_bind_of_ok (run_writeIncomingData h),
    run_bind_of_ok (run_writeGuest_of_contains (by
      simp only [region_filledMemory]
      exact h.status_contains)),
    run_bind_of_ok (run_writeGuest_of_contains (by
      simp only [GuestMemory.region_overwrite, region_filledMemory, List.length_append,
        length_u32Bytes]
      exact h.usedElement_contains)),
    run_bind_of_ok (hget _),
    run_bind_of_ok (run_writeGuest_of_contains (by
      simp only [GuestMemory.region_overwrite, region_filledMemory, length_u16Bytes]
      exact h.usedIdx_contains))]
  rfl

theorem run_completeRequest (hs : MemoryBacked s) (h : s.device.Accepted s.memory r) :
    (completeRequest files r).run s =
      .ok ⟨r.head.toUInt32, r.written, r.sector⟩
        ⟨s.device.advance r, completedMemory s.device r s.memory, s.host⟩ := by
  rw [completeRequest_eq, run_bind_of_ok (run_persistOutgoingData hs), run_publishRequest h]

theorem run_process_of_error {e : VirtioBlkProcessError}
    (h : s.device.acceptRequest s.memory = .error e) :
    (processNotifiedQueueAtomic files).run s = .error e s := by
  have hread : (reads fun s : BlkState H => s.device.acceptRequest s.memory).run s =
      .error e s := run_reads_of_error h
  rw [processNotifiedQueueAtomic, run_bind_of_error hread]

theorem run_process_of_ok (hs : MemoryBacked s)
    (h : s.device.acceptRequest s.memory = .ok r) :
    (processNotifiedQueueAtomic files).run s =
      .ok ⟨r.head.toUInt32, r.written, r.sector⟩
        ⟨s.device.advance r, completedMemory s.device r s.memory, s.host⟩ := by
  have hread : (reads fun s : BlkState H => s.device.acceptRequest s.memory).run s =
      .ok r s := run_reads_of_ok h
  rw [processNotifiedQueueAtomic, run_bind_of_ok hread,
    run_completeRequest hs (accepted_of_acceptRequest h)]

theorem accepted_of_run_process {s' : BlkState H} {c : VirtioBlkQueueCompletion}
    (hs : MemoryBacked s) (h : (processNotifiedQueueAtomic files).run s = .ok c s') :
    ∃ r, s.device.Accepted s.memory r ∧ c = ⟨r.head.toUInt32, r.written, r.sector⟩ ∧
      s' = ⟨s.device.advance r, completedMemory s.device r s.memory, s.host⟩ := by
  cases haccept : s.device.acceptRequest s.memory with
  | error e =>
      rw [run_process_of_error haccept] at h
      cases h
  | ok r =>
      rw [run_process_of_ok hs haccept] at h
      cases h
      exact ⟨r, accepted_of_acceptRequest haccept, rfl, rfl⟩

theorem eq_of_run_process_error {s' : BlkState H} {e : VirtioBlkProcessError}
    (hs : MemoryBacked s) (h : (processNotifiedQueueAtomic files).run s = .error e s') :
    s' = s := by
  cases haccept : s.device.acceptRequest s.memory with
  | error e' =>
      rw [run_process_of_error haccept] at h
      cases h
      rfl
  | ok r =>
      rw [run_process_of_ok hs haccept] at h
      cases h

/-- **Requests are served completely or not at all.** On a memory-backed device, whatever the
guest put into its memory: a call that returns an error leaves the device, the memory and the
host as they were, and once every read, check and preflight has succeeded no write fails. -/
theorem process_all_or_nothing (files : HostFiles H) (s : BlkState H) (hs : MemoryBacked s) :
    (∀ e s', (processNotifiedQueueAtomic files).run s = .error e s' → s' = s) ∧
    (∀ r, s.device.acceptRequest s.memory = .ok r →
      ∃ c s', (processNotifiedQueueAtomic files).run s = .ok c s') :=
  ⟨fun _ _ h => eq_of_run_process_error hs h,
    fun _ haccept => ⟨_, _, run_process_of_ok hs haccept⟩⟩

end Complete

/-! ### A guest that reads a sector -/

/-- A host without files. -/
def noFiles : HostFiles Unit where
  File := Unit
  openReadWrite _ := throw "not found"
  seek _ _ := throw "closed"
  writeAll _ _ := throw "closed"
  syncAll _ := throw "closed"

/-- The register writes with which a driver negotiates `VERSION_1` and enables a queue of eight
descriptors. -/
def queueSetup : List (ℕ × List UInt8) :=
  [(0x08, [1, 0, 0, 0]), (0x0c, [1, 0, 0, 0]), (0x08, [0, 0, 0, 0]), (0x14, [0x0b]),
    (0x20, [0, 1, 0, 0]), (0x28, [0, 2, 0, 0]), (0x30, [0, 3, 0, 0]), (0x1c, [1, 0]),
    (0x14, [0x0f])]

/-- The device after that set-up, with the queue notified. -/
def notifiedDevice : VirtioBlkDevice :=
  { new 0xd0000000 with
    driverFeatures := virtioFVersion1
    status := 0x0f
    queueEnabled := true
    queueDesc := 0x100
    queueDriver := 0x200
    queueDevice := 0x300
    notifyPending := true }

/-- One page of guest memory with a request to read sector 1 into the buffer at `0x500`. -/
def readRequestMemory : GuestMemory where
  region := ⟨0, 4096, by decide, Nat.zero_mod _, by decide, by decide⟩
  mapping := ((((ByteMap.write (fun _ => 0)
    0x100 (u64Bytes 0x400 ++ u32Bytes 16 ++ u16Bytes 1 ++ u16Bytes 1)).write
    0x110 (u64Bytes 0x500 ++ u32Bytes 512 ++ u16Bytes 3 ++ u16Bytes 2)).write
    0x120 (u64Bytes 0x800 ++ u32Bytes 1 ++ u16Bytes 2 ++ u16Bytes 0)).write
    0x200 (u16Bytes 0 ++ u16Bytes 1 ++ u16Bytes 0)).write
    0x400 (u32Bytes virtioBlkTIn ++ u32Bytes 0 ++ u64Bytes 1)

theorem acceptRequest_readRequestMemory :
    notifiedDevice.acceptRequest readRequestMemory = .ok {
      head := 0
      availIdx := 1
      requestType := virtioBlkTIn
      sector := 1
      backingStart := 512
      data := ⟨0x500, 512, 3, 2⟩
      status := ⟨0x800, 1, 2, 0⟩
      usedIdxAddress := 0x302
      usedElement := 0x304
      outgoingData := none } := by
  decide +kernel

theorem process_readRequestMemory :
    ∃ c s', (processNotifiedQueueAtomic noFiles).run ⟨notifiedDevice, readRequestMemory, ()⟩ =
      .ok c s' :=
  (process_all_or_nothing noFiles ⟨notifiedDevice, readRequestMemory, ()⟩ rfl).2 _
    acceptRequest_readRequestMemory

end MiniHypervisor.VirtioBlk
