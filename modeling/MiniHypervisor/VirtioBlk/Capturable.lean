import MiniHypervisor.Mmio.AtomicBus
import MiniHypervisor.Virtio.Devices
import MiniHypervisor.VirtioBlk.Chains

/-!
# Which devices can be captured

A guest brings a virtio-blk device into many states.  A checkpoint is captured by the bus, which
asks only that nothing is pending, and encoded from a stored state, which has to be valid
(`src/pci/virtio_blk_checkpoint.rs`).  So what the guest can do to the status, the features and the
queue is compared here with what a stored state may say.

The device keeps unsupported features until `FEATURES_OK` is requested, and lets the guest disable
a queue after `DRIVER_OK`; a stored state has neither.  Everything else that a stored state has to
satisfy holds along every run.  A completion that is pending is captured with a token, which names
the indices of the queue.  They are counts modulo `2 ^ 16`, and a token with index `0` is refused,
also when `0` stands for a multiple of `2 ^ 16` completions.
-/

namespace MiniHypervisor.VirtioBlk

open Bytes Control Memory Mmio Virtio

open VirtioBlkDevice

variable {H : Type} {files : HostFiles H} {bar0 : UInt64}
  {calls : List (Virtio.Call (BlkService H))}

/-! ### Reachable devices -/

theorem place_step (files : HostFiles H) (device : VirtioBlkDevice)
    (call : Virtio.Call (BlkService H)) :
    ((blkDevice files).step device call).place = device.place := by
  cases call with
  | read offset length => exact read_keeps_place offset length device
  | write offset payload => exact write_keeps_place offset payload device
  | process service =>
      change (device.serve files service).2.place = device.place
      unfold serve
      dsimp only
      split_ifs
      · exact processNotifiedQueueAtomic_keeps_place files ⟨device, service.memory, service.host⟩
      · exact processNotifiedQueue_keeps_place ⟨device, service.memory, service.host⟩

theorem place_reach (files : HostFiles H) (bar0 : UInt64)
    (calls : List (Virtio.Call (BlkService H))) :
    ((blkDevice files).reach (.new bar0) calls).place = (bar0, none) := by
  have hstep : ∀ device call, device.place = (bar0, none) →
      ((blkDevice files).step device call).place = (bar0, none) :=
    fun device call h => (place_step files device call).trans h
  exact runSteps_invariant hstep calls rfl

/-- **Valid states of reachable devices.** Along every run in which `DRIVER_OK` stands with
`FEATURES_OK`, the state of the device is valid exactly when it has no unsupported features, and an
enabled queue under `DRIVER_OK`. -/
theorem valid_ofDevice_iff (haligned : bar0.toNat % virtioBlkBarSize = 0)
    {device : VirtioBlkDevice} (hdevice : device = (blkDevice files).reach (.new bar0) calls)
    (hordered : device.status &&& virtioStatusDriverOk ≠ 0 →
      device.status &&& virtioStatusFeaturesOk ≠ 0) :
    (VirtioBlkCheckpointState.ofDevice device).Valid ↔
      device.driverFeatures &&& ~~~virtioBlkSupportedFeatures = 0 ∧
        (device.status &&& virtioStatusDriverOk ≠ 0 → device.queueEnabled = true) := by
  have hnew : (blkDevice files).transport (.new bar0) = .new := rfl
  have hbooks := ((blkDevice files).keepsBooks_run hnew calls).bookkeeping
  have hstatus := (blkDevice files).statusBits_run hnew calls
  have hfeatures := (blkDevice files).featuresValid_run hnew calls
  have hplace := place_reach files bar0 calls
  rw [← hdevice] at hbooks hstatus hfeatures hplace
  constructor
  · exact fun h => ⟨h.supported, fun hset => (h.driverOk hset).2⟩
  · rintro ⟨hsupported, henabled⟩
    refine ⟨?_, hsupported, hstatus.known, hstatus.driver, fun hset => ?_, hbooks.size,
      hbooks.rings, fun hset => ⟨hordered hset, henabled hset⟩, ?_⟩
    · rw [← (Prod.mk.inj hplace).1] at haligned
      exact haligned
    · have hvalid : featuresValid device.driverFeatures = true := hfeatures hset
      simp only [featuresValid, Bool.and_eq_true, beq_iff_eq] at hvalid
      refine ⟨hstatus.featuresOk hset, ?_⟩
      change device.driverFeatures &&& virtioFVersion1 ≠ 0
      rw [hvalid.1]
      decide
    · have hisr := hbooks.isr
      change device.isrStatus &&& ~~~virtioIsrQueueInterrupt = 0
      rw [show device.isrStatus = _ from hisr]
      split <;> decide

/-! ### Captured devices and their encoding -/

/-- A bus with a single virtio-blk device. -/
def singleBlkBus (device : VirtioBlkDevice) : MmioBus :=
  { MmioBus.empty with virtioBlkDevices := [device] }

theorem deviceAt_singleBlkBus (device : VirtioBlkDevice) :
    (singleBlkBus device).deviceAt device.bar0 = some device := by
  simp [singleBlkBus, MmioBus.deviceAt, findKey]

/-- **Captured devices and their encoding.** A device that was reached by register accesses and
served requests, that the bus captures without a token, and whose `DRIVER_OK` stands with
`FEATURES_OK`, can be encoded exactly when the driver has written no unsupported features and has
not disabled the queue after `DRIVER_OK`. -/
theorem captured_encodable_iff (files : HostFiles H) (bar0 : UInt64)
    (haligned : bar0.toNat % virtioBlkBarSize = 0) (calls : List (Virtio.Call (BlkService H)))
    (bus : MmioBus) (address : UInt64) (device : VirtioBlkDevice)
    (hdevice : device = (blkDevice files).reach (.new bar0) calls)
    (hcapture : bus.captureVirtioBlkCheckpointAt address = .ok (some device))
    (hordered : device.status &&& virtioStatusDriverOk ≠ 0 →
      device.status &&& virtioStatusFeaturesOk ≠ 0) :
    (∃ state, VirtioBlkCheckpointState.capture device = .ok state) ↔
      device.driverFeatures &&& ~~~virtioBlkSupportedFeatures = 0 ∧
        (device.status &&& virtioStatusDriverOk ≠ 0 → device.queueEnabled = true) := by
  obtain ⟨-, hbacking, hnotify, hisr⟩ := MmioBus.captureVirtioBlkCheckpointAt_eq_some.mp hcapture
  rw [← valid_ofDevice_iff haligned hdevice hordered]
  simp only [VirtioBlkCheckpointState.capture_eq_ok, VirtioBlkCheckpointState.validate_eq_ok]
  constructor
  · rintro ⟨_, -, -, -, rfl, hvalid⟩
    exact hvalid
  · exact fun hvalid => ⟨_, hbacking, hnotify, hisr, rfl, hvalid⟩

theorem capture_singleBlkBus {device : VirtioBlkDevice} (hbacking : device.persistentBacking = none)
    (hnotify : device.notifyPending = false) (hisr : device.isrStatus = 0) :
    (singleBlkBus device).captureVirtioBlkCheckpointAt device.bar0 = .ok (some device) :=
  MmioBus.captureVirtioBlkCheckpointAt_eq_some.mpr
    ⟨deviceAt_singleBlkBus device, hbacking, hnotify, hisr⟩

/-- The driver sets up the queue. -/
def enablesQueue {π : Type} : List (Virtio.Call π) :=
  queueSetup.map fun (offset, payload) => .write offset payload

/-- A device with `DRIVER_OK` and an enabled queue is captured and encoded. -/
theorem enablesQueue_encodable :
    let device := (blkDevice noFiles).reach (.new 0xd0000000) enablesQueue;
    device.status &&& virtioStatusDriverOk ≠ 0 ∧ device.queueEnabled = true ∧
      ∃ state, VirtioBlkCheckpointState.capture device = .ok state :=
  ⟨by decide +kernel, by decide +kernel, (captured_encodable_iff noFiles 0xd0000000 (by decide)
    enablesQueue (singleBlkBus ((blkDevice noFiles).reach (.new 0xd0000000) enablesQueue))
    0xd0000000 _ rfl
    (capture_singleBlkBus (by decide +kernel) (by decide +kernel) (by decide +kernel))
    (by decide +kernel)).mpr (by decide +kernel)⟩

/-- The driver writes a feature that the device does not offer. -/
def writesUnsupportedFeature {π : Type} : List (Virtio.Call π) := [.write 0x0c [1, 0, 0, 0]]

/-- The same, and then the queue is disabled. -/
def disablesQueue {π : Type} : List (Virtio.Call π) := enablesQueue ++ [.write 0x1c [0, 0]]

/-- A device with an unsupported feature, and one with a disabled queue, are captured by the bus and
cannot be encoded. -/
theorem captured_not_encodable :
    (let device := (blkDevice noFiles).reach (.new 0xd0000000) writesUnsupportedFeature;
      (singleBlkBus device).captureVirtioBlkCheckpointAt 0xd0000000 = .ok (some device) ∧
        VirtioBlkCheckpointState.capture device = .error (.unsupportedDriverFeatures 1)) ∧
    let device := (blkDevice noFiles).reach (.new 0xd0000000) disablesQueue;
    (singleBlkBus device).captureVirtioBlkCheckpointAt 0xd0000000 = .ok (some device) ∧
      VirtioBlkCheckpointState.capture device = .error .driverOkWithoutReadyQueue := by
  refine ⟨⟨?_, by decide +kernel⟩, ?_, by decide +kernel⟩
  · exact capture_singleBlkBus (by decide +kernel) (by decide +kernel) (by decide +kernel)
  · exact capture_singleBlkBus (by decide +kernel) (by decide +kernel) (by decide +kernel)

/-! ### Pending completions -/

/-- **Pending completions.** A device that was reached by register accesses and served requests,
with an interrupt and no notification pending, is captured together with a token that belongs to it
exactly when the number of completions since the last reset is not a multiple of `2 ^ 16`. -/
theorem pending_completion_captured_iff (files : HostFiles H) (bar0 : UInt64)
    (calls : List (Virtio.Call (BlkService H))) (bus : MmioBus) (address : UInt64)
    (device : VirtioBlkDevice) (hdevice : device = (blkDevice files).reach (.new bar0) calls)
    (hat : bus.deviceAt address = some device) (hisr : device.isrStatus ≠ 0)
    (hnotify : device.notifyPending = false) :
    (∃ token, bus.captureWithPendingAt .completion address = .ok (some (device, token)) ∧
        token.validateDevice device = .ok ()) ↔
      (Ledger.ofEvents ((blkDevice files).events (.new bar0) calls)).completions % 2 ^ 16 ≠ 0 := by
  have hnew : (blkDevice files).transport (.new bar0) = .new := rfl
  have hbooks := ((blkDevice files).keepsBooks_run hnew calls).bookkeeping
  have hplace := place_reach files bar0 calls
  rw [← hdevice] at hbooks hplace
  have havail : device.lastAvailIdx.toNat = _ := hbooks.avail
  have hsame : device.lastAvailIdx = device.lastUsedIdx :=
    UInt16.toNat_inj.mp (havail.trans hbooks.used.symm)
  have hinterrupt : device.isrStatus = virtioIsrQueueInterrupt := by
    have hvalue : device.isrStatus = _ := hbooks.isr
    rw [hvalue] at hisr ⊢
    split_ifs at hisr ⊢ <;> trivial
  have htoken : (∃ token, bus.captureWithPendingAt .completion address =
        .ok (some (device, token)) ∧
      token.validateDevice device = .ok ()) ↔
      ∃ token : VirtioBlkPendingCompletionToken, token.validateDevice device = .ok () := by
    refine exists_congr fun token => ?_
    rw [MmioBus.captureWithPendingAt_eq_some]
    exact ⟨fun h => h.2, fun h => ⟨⟨hat, (Prod.mk.inj hplace).2, h⟩, h⟩⟩
  rw [htoken, PendingToken.exists_validateDevice_iff, ← havail, ne_eq, ← UInt16.toNat_zero,
    UInt16.toNat_inj]
  constructor
  · exact fun h => h.1.2.1 rfl
  · intro hne
    refine ⟨⟨rfl, fun _ => hne, hsame⟩, ?_⟩
    change device.checkpointCompletionPending = true
    simp [checkpointCompletionPending, hnotify, hinterrupt, hne, ← hsame]

/-! ### A run with any number of completions -/

/-- The memory of a guest that asks for sector 1 again after `index` requests, counted modulo
`2 ^ 16`. -/
def nextRequestMemory (index : UInt16) : GuestMemory :=
  readRequestMemory.overwriteAll [(0x202, u16Bytes (index + 1)), (0x302, u16Bytes index)]

/-- The configured device after `index` requests. -/
def configuredDevice (index : UInt16) (isrStatus : UInt8) (notifyPending : Bool) :
    VirtioBlkDevice :=
  { notifiedDevice with
    lastAvailIdx := index
    lastUsedIdx := index
    isrStatus := isrStatus
    notifyPending := notifyPending }

/-- The request that the device finds. -/
def nextRequest (index : UInt16) : AcceptedRequest where
  head := 0
  availIdx := index + 1
  requestType := virtioBlkTIn
  sector := 1
  backingStart := 512
  data := ⟨0x500, 512, 3, 2⟩
  status := ⟨0x800, 1, 2, 0⟩
  usedIdxAddress := 0x302
  usedElement := 0x300 + (4 + 8 * (index % 8).toNat)
  outgoingData := none

section Rounds

variable {index : UInt16} {isrStatus : UInt8}

theorem read_nextRequestMemory {a n : ℕ} (hin : a + n ≤ 4096)
    (hleft : a + n ≤ 0x202 ∨ 0x204 ≤ a) (hright : a + n ≤ 0x302 ∨ 0x304 ≤ a) :
    (nextRequestMemory index).read a n = readRequestMemory.read a n := by
  refine GuestMemory.read_overwriteAll_disjoint ⟨Nat.zero_le a, hin⟩ ?_ ?_
  · exact fun _ _ => Nat.zero_le _
  · simp only [List.forall_mem_cons, length_u16Bytes]
    exact ⟨hleft, hright, nofun⟩

theorem contains_nextRequestMemory {a n : ℕ} (hin : a + n ≤ 4096) :
    (nextRequestMemory index).region.Contains a n := by
  rw [nextRequestMemory, GuestMemory.region_overwriteAll]
  exact ⟨Nat.zero_le a, hin⟩

theorem read_index_nextRequestMemory (index : UInt16) :
    (nextRequestMemory index).read 0x202 2 = .ok (u16Bytes (index + 1)) ∧
      (nextRequestMemory index).read 0x302 2 = .ok (u16Bytes index) := by
  have hin : ∀ w ∈ [(0x202, u16Bytes (index + 1)), (0x302, u16Bytes index)],
      readRequestMemory.region.Contains w.1 w.2.length := by
    simp only [List.forall_mem_cons, length_u16Bytes]
    exact ⟨by decide, by decide, nofun⟩
  have hapart : ([(0x202, u16Bytes (index + 1)), (0x302, u16Bytes index)].map
      GuestMemory.writtenRange).Pairwise GuestMemory.RangesApart := by
    simp [GuestMemory.writtenRange, GuestMemory.RangesApart]
  have hfirst := GuestMemory.read_overwriteAll_of_mem hin hapart (List.mem_cons_self ..)
  have hsecond := GuestMemory.read_overwriteAll_of_mem hin hapart
    (List.mem_cons_of_mem _ (List.mem_cons_self ..))
  rw [length_u16Bytes] at hfirst hsecond
  exact ⟨hfirst, hsecond⟩

theorem slot_lt_eight (index : UInt16) : (index % 8).toNat < 8 := by
  rw [UInt16.toNat_mod]
  exact Nat.mod_lt _ (by decide)

theorem read_head_nextRequestMemory :
    (nextRequestMemory index).read (0x200 + (4 + 2 * (index % 8).toNat)) 2 = .ok (u16Bytes 0) := by
  have hslot := slot_lt_eight index
  have hzero : ∀ slot < 8,
      readRequestMemory.read (0x200 + (4 + 2 * slot)) 2 = .ok (u16Bytes 0) := by
    decide +kernel
  rw [read_nextRequestMemory (by omega) (by omega) (by omega), hzero _ hslot]

theorem chain_nextRequestMemory :
    (configuredDevice index isrStatus true).resolveRequestChain (nextRequestMemory index) 0 =
      .ok readRequestChain := by
  have hentry {i : UInt16} {d : Descriptor} (hi : i.toNat < 8)
      (h : notifiedDevice.readDescriptor readRequestMemory i = .ok d) :
      HoldsDescriptor (nextRequestMemory index) 0x100 i d := by
    obtain ⟨hlt, bytes, hread, hd⟩ := readDescriptor_eq_ok.mp h
    refine ⟨hlt, bytes, ?_, hd⟩
    change (nextRequestMemory index).read (0x100 + 16 * i.toNat) 16 = .ok bytes
    rw [read_nextRequestMemory (by omega) (by omega) (by omega)]
    exact hread
  have hstored : StoresChain (nextRequestMemory index) 0x100 8 0 readRequestChain.header
      readRequestChain.data readRequestChain.status := by
    refine ⟨hentry ?_ ?_, hentry ?_ ?_, hentry ?_ ?_, ?_, ?_, ?_, ?_, ?_, ?_⟩ <;> decide +kernel
  have hformed : readRequestChain.WellFormed := by
    constructor <;> decide
  have hhead : UInt16.toNat 0 < (configuredDevice index isrStatus true).queueSize.toNat :=
    show 0 < 8 by decide
  exact (resolveRequestChain_eq_ok hhead).mpr (.inl ⟨hstored, hformed⟩)

theorem ready_configuredDevice {notifyPending : Bool} :
    (configuredDevice index isrStatus notifyPending).ensureQueueReady = .ok () :=
  show notifiedDevice.ensureQueueReady = .ok () by decide +kernel

theorem acceptRequest_nextRequestMemory :
    (configuredDevice index isrStatus true).acceptRequest (nextRequestMemory index) =
      .ok (nextRequest index) := by
  have hslot := slot_lt_eight index
  obtain ⟨havail, hused⟩ := read_index_nextRequestMemory index
  have hrequest : (nextRequestMemory index).read 0x400 16 =
      .ok (u32Bytes virtioBlkTIn ++ u32Bytes 0 ++ u64Bytes 1) := by
    rw [read_nextRequestMemory (by omega) (by omega) (by omega)]
    decide +kernel
  have hout : readOutgoingData (nextRequestMemory index) virtioBlkTIn ⟨0x500, 512, 3, 2⟩ =
      .ok none := by
    rw [readOutgoingData, if_neg (by decide)]
    exact bind_eq_ok.mpr
      ⟨(), preflightGuestOutput_eq_ok.mpr (contains_nextRequestMemory (by decide)), rfl⟩
  exact acceptRequest_eq_ok.mpr ⟨readRequestChain, _, {
    ready := ready_configuredDevice
    pending := rfl
    availAddress_lt := show 0x202 < 2 ^ 64 by decide
    availIdx_read := havail
    availIdx_eq := rfl
    headAddress_lt := show 0x200 + (4 + 2 * (index % 8).toNat) < 2 ^ 64 by omega
    head_read := read_head_nextRequestMemory
    head_lt := show 0 < 8 by decide
    chain_eq := chain_nextRequestMemory
    header_read := hrequest
    reserved := by decide
    backing := show requestBackingRange 1 512 = .ok 512 by decide
    usedAddress_lt := show 0x302 < 2 ^ 64 by decide
    usedIdx_read := hused }, {
    requestType_eq := show virtioBlkTIn = _ by decide
    sector_eq := show 1 = _ by decide
    data_eq := rfl
    status_eq := rfl
    requestType_cases := .inl rfl
    dataFlags := (if_pos rfl).symm
    usedIdxAddress_eq := rfl
    usedElement_eq := rfl
    usedElement_lt := show 0x300 + (4 + 8 * (index % 8).toNat) < 2 ^ 64 by omega
    outgoing := hout
    status_contains := contains_nextRequestMemory (show 0x800 + 1 ≤ 4096 by decide)
    usedElement_contains := contains_nextRequestMemory
      (show 0x300 + (4 + 8 * (index % 8).toNat) + 8 ≤ 4096 by omega)
    usedIdx_contains := contains_nextRequestMemory (show 0x302 + 2 ≤ 4096 by decide) }⟩

/-- The guest puts the next request into the ring and notifies, and the device serves it. -/
def requestRound (index : UInt16) : List (Virtio.Call (BlkService Unit)) :=
  [.write virtioNotifyOffset (u16Bytes virtioBlkQueueIndex),
    .process ⟨true, nextRequestMemory index, ()⟩]

theorem reach_requestRound :
    (blkDevice noFiles).reach (configuredDevice index isrStatus false) (requestRound index) =
      configuredDevice (index + 1) (isrStatus ||| virtioIsrQueueInterrupt) false := by
  have hnotify : (blkDevice noFiles).step (configuredDevice index isrStatus false)
      (.write virtioNotifyOffset (u16Bytes virtioBlkQueueIndex)) =
      configuredDevice index isrStatus true := by
    change finalState ((write _ _).run _) = _
    rw [run_write_notify ready_configuredDevice]
    rfl
  have hbacked : MemoryBacked (H := Unit)
      ⟨configuredDevice index isrStatus true, nextRequestMemory index, ()⟩ := rfl
  have hserve : (processNotifiedQueueAtomic noFiles).run
      ⟨configuredDevice index isrStatus true, nextRequestMemory index, ()⟩ =
      .ok _ ⟨(configuredDevice index isrStatus true).advance (nextRequest index), _, ()⟩ :=
    run_process_of_ok hbacked acceptRequest_nextRequestMemory
  have hprocess : (blkDevice noFiles).step (configuredDevice index isrStatus true)
      (.process ⟨true, nextRequestMemory index, ()⟩) =
      (configuredDevice index isrStatus true).advance (nextRequest index) := by
    change ((configuredDevice index isrStatus true).serve noFiles
      ⟨true, nextRequestMemory index, ()⟩).2 = _
    simp only [serve, if_pos, hserve, finalState]
  rw [requestRound, TransportDevice.reach, runSteps_cons, hnotify, runSteps_cons, hprocess]
  rfl

end Rounds

/-- The guest configures the device and has it serve `n` requests. -/
def servesRequests (n : ℕ) : List (Virtio.Call (BlkService Unit)) :=
  enablesQueue ++ (List.range n).flatMap fun k => requestRound (UInt16.ofNat k)

theorem servesRequests_succ (n : ℕ) :
    servesRequests (n + 1) = servesRequests n ++ requestRound (UInt16.ofNat n) := by
  simp [servesRequests, List.range_succ]

theorem reach_servesRequests (n : ℕ) :
    (blkDevice noFiles).reach (.new 0xd0000000) (servesRequests n) =
      configuredDevice (UInt16.ofNat n) (if n = 0 then 0 else virtioIsrQueueInterrupt) false := by
  induction n with
  | zero => decide +kernel
  | succ n ih =>
      have hisr : (if n = 0 then 0 else virtioIsrQueueInterrupt) ||| virtioIsrQueueInterrupt =
          virtioIsrQueueInterrupt := by
        split <;> rfl
      rw [servesRequests_succ, TransportDevice.reach_append, ih, reach_requestRound, hisr,
        if_neg (Nat.succ_ne_zero n), UInt16.ofNat_add]
      rfl

/-- After `2 ^ 16` requests an interrupt is pending and no token can be captured. -/
theorem wrapped_completion_not_captured :
    let device := (blkDevice noFiles).reach (.new 0xd0000000) (servesRequests (2 ^ 16));
    device.isrStatus = virtioIsrQueueInterrupt ∧ device.notifyPending = false ∧
      (singleBlkBus device).deviceAt 0xd0000000 = some device ∧
      ∀ token, (singleBlkBus device).captureWithPendingAt .completion 0xd0000000 ≠
        .ok (some (device, token)) := by
  have hreach := reach_servesRequests (2 ^ 16)
  rw [if_neg (by decide), show UInt16.ofNat (2 ^ 16) = 0 by decide] at hreach
  dsimp only
  rw [hreach]
  refine ⟨rfl, rfl, deviceAt_singleBlkBus _, fun token hcapture => ?_⟩
  obtain ⟨-, -, hvalid⟩ := MmioBus.captureWithPendingAt_eq_some.mp hcapture
  exact (PendingToken.exists_validateDevice_iff.mp ⟨token, hvalid⟩).1.2.1 rfl rfl

/-- A single completion is captured. -/
theorem first_completion_captured :
    let device := configuredDevice 1 virtioIsrQueueInterrupt false;
    ∃ token, (singleBlkBus device).captureWithPendingAt .completion 0xd0000000 =
        .ok (some (device, token)) ∧ token.validateDevice device = .ok () := by
  have hreach := reach_servesRequests 1
  rw [if_neg (by decide), show UInt16.ofNat 1 = 1 by decide] at hreach
  refine (pending_completion_captured_iff noFiles 0xd0000000 (servesRequests 1) _ _ _ hreach.symm
    (deviceAt_singleBlkBus _) (by decide) rfl).mpr ?_
  have hnew : (blkDevice noFiles).transport (.new 0xd0000000) = .new := rfl
  have havail := ((blkDevice noFiles).keepsBooks_run hnew (servesRequests 1)).bookkeeping.avail
  rw [hreach] at havail
  rw [← havail]
  decide

end MiniHypervisor.VirtioBlk
