import MiniHypervisor.VirtioBlk.Legacy
import MiniHypervisor.VirtioRng.Device

/-!
# Notifications that fail half way

The entropy device fills the buffer before it computes the address of the used element, and it finds
out whether the used element can be written by writing it.  The atomic processor of the block device
preflights all of its ranges instead; the entropy device and the older processor of the block device
do not, so with a used ring at the end of guest memory a call that returns an error has already
written the buffer.
-/

namespace MiniHypervisor.VirtioRng

open Bytes Control Memory

open VirtioBlk (Descriptor readGuestU16 readGuestU16_eq_ok lt_of_contains virtioFVersion1
  virtioIsrQueueInterrupt virtioBlkTIn)

/-- The address of the used element of the next notification. -/
def VirtioRngDevice.usedElementAddress (device : VirtioRngDevice) : ℕ :=
  device.queueDevice.toNat + (4 + 8 * (device.lastUsedIdx % device.queueSize).toNat)

theorem checkedAdd_eq_ok {base : UInt64} {offset a : ℕ} :
    checkedAdd base offset = .ok a ↔ base.toNat + offset < 2 ^ 64 ∧ a = base.toNat + offset := by
  simp only [checkedAdd, rejectIf_bind_eq_ok, pure, Except.pure, Except.ok.injEq, not_le]
  exact and_congr_right fun _ => eq_comm

section Writes

variable {s : RngState} {notification : AcceptedNotification}

theorem run_writeGuest_of_contains {a : ℕ} {source : List UInt8}
    (h : s.memory.region.Contains a source.length) :
    (writeGuest a source).run s = .ok () { s with memory := s.memory.overwrite a source } :=
  run_within_of_ok (GuestMemory.run_write_of_contains h)

theorem run_writeGuest_of_not_contains {a : ℕ} {source : List UInt8}
    (h : ¬ s.memory.region.Contains a source.length) :
    ∃ e, (writeGuest a source).run s = .error e s := by
  obtain ⟨e, he⟩ := GuestMemory.run_write_of_not_contains h
  exact ⟨_, run_within_of_error he⟩

theorem run_reads_checkedAdd {device : VirtioRngDevice} {offset address : ℕ}
    (h : checkedAdd device.queueDevice offset = .ok address) (memory : GuestMemory) :
    (reads fun s : RngState => checkedAdd s.device.queueDevice offset).run ⟨device, memory⟩ =
      .ok address ⟨device, memory⟩ :=
  run_reads_of_ok h

theorem run_processNotifiedQueue_of_error {e : VirtioRngProcessError}
    (h : acceptNotification s = .error e) : processNotifiedQueue.run s = .error e s :=
  run_bind_of_error (run_reads_of_error h)

/-- The length that a served notification reports. -/
def payloadLength : UInt32 := UInt32.ofNat virtioRngTestPayload.length

/-- The state after the buffer was filled. -/
def filledState (s : RngState) (notification : AcceptedNotification) : RngState :=
  { s with memory := s.memory.overwrite notification.buffer.toNat virtioRngTestPayload }

/-- The device after a notification was served. -/
def VirtioRngDevice.advance (device : VirtioRngDevice) (notification : AcceptedNotification) :
    VirtioRngDevice :=
  { device with
    lastAvailIdx := notification.availIdx
    lastUsedIdx := device.lastUsedIdx + 1
    notifyPending := false
    isrStatus := device.isrStatus ||| virtioIsrQueueInterrupt }

/-- The state after a notification was served. -/
def servedState (s : RngState) (notification : AcceptedNotification) : RngState where
  device := s.device.advance notification
  memory := ((filledState s notification).memory.overwrite s.device.usedElementAddress
      (u32Bytes notification.head.toUInt32 ++ u32Bytes payloadLength)).overwrite
    (s.device.queueDevice.toNat + 2) (u16Bytes (s.device.lastUsedIdx + 1))

section Accepted

variable (h : acceptNotification s = .ok notification)

include h

theorem usedIdx_contains : s.memory.region.Contains (s.device.queueDevice.toNat + 2) 2 := by
  simp only [acceptNotification, bind_eq_ok, mapError_eq_ok, rejectIf_eq_ok, checkedAdd_eq_ok,
    readGuestU16_eq_ok, pure, Except.pure, Except.ok.injEq] at h
  obtain ⟨-, -, -, -, _, -, _, -, -, -, _, -, _, -, -, -, _, -, _, -, -, -, -, -, _, ⟨-, rfl⟩, _,
    hread, -, -, rfl⟩ := h
  exact (GuestMemory.read_eq_ok.mp hread).1

theorem run_processNotifiedQueue_of_accept :
    processNotifiedQueue.run s = (completeNotification notification).run s :=
  run_bind_of_ok (run_reads_of_ok h)

theorem run_process_of_buffer_outside
    (hbuffer : ¬ s.memory.region.Contains notification.buffer.toNat virtioRngTestPayload.length) :
    ∃ e, processNotifiedQueue.run s = .error e s := by
  obtain ⟨e, he⟩ := run_writeGuest_of_not_contains hbuffer
  rw [run_processNotifiedQueue_of_accept h, completeNotification]
  exact ⟨e, run_bind_of_error he⟩

/-- A used element outside guest memory, or one whose address overflows, fails the second write. -/
theorem run_process_of_usedElement_outside
    (hbuffer : s.memory.region.Contains notification.buffer.toNat virtioRngTestPayload.length)
    (hused : ¬ s.memory.region.Contains s.device.usedElementAddress 8) :
    ∃ e, processNotifiedQueue.run s = .error e (filledState s notification) := by
  have hget : (get : EStateM VirtioRngProcessError RngState RngState).run
      (filledState s notification) = .ok _ (filledState s notification) := rfl
  have hfails : ¬ (filledState s notification).memory.region.Contains s.device.usedElementAddress
      (u32Bytes notification.head.toUInt32 ++ u32Bytes payloadLength).length := hused
  obtain ⟨e, he⟩ := run_writeGuest_of_not_contains hfails
  rw [run_processNotifiedQueue_of_accept h, completeNotification]
  cases haddr : checkedAdd s.device.queueDevice
      (4 + 8 * (s.device.lastUsedIdx % s.device.queueSize).toNat) with
  | error e' =>
      exact ⟨e', (run_bind_of_ok (run_writeGuest_of_contains hbuffer)).trans <|
        (run_bind_of_ok hget).trans (run_bind_of_error (run_reads_of_error haddr))⟩
  | ok address =>
      obtain ⟨-, rfl⟩ := checkedAdd_eq_ok.mp haddr
      exact ⟨e, (run_bind_of_ok (run_writeGuest_of_contains hbuffer)).trans <|
        (run_bind_of_ok hget).trans <| (run_bind_of_ok (run_reads_checkedAdd haddr _)).trans
        (run_bind_of_error he)⟩

theorem run_processNotifiedQueue_of_fits
    (hbuffer : s.memory.region.Contains notification.buffer.toNat virtioRngTestPayload.length)
    (hused : s.memory.region.Contains s.device.usedElementAddress 8) :
    processNotifiedQueue.run s =
      .ok ⟨notification.head.toUInt32, payloadLength⟩ (servedState s notification) := by
  have hget : (get : EStateM VirtioRngProcessError RngState RngState).run
      (filledState s notification) = .ok _ (filledState s notification) := rfl
  have haddr : checkedAdd s.device.queueDevice
      (4 + 8 * (s.device.lastUsedIdx % s.device.queueSize).toNat) =
        .ok s.device.usedElementAddress :=
    checkedAdd_eq_ok.mpr ⟨lt_of_contains (by norm_num) hused, rfl⟩
  have hidx := usedIdx_contains h
  have hidxAddress : checkedAdd s.device.queueDevice 2 = .ok (s.device.queueDevice.toNat + 2) :=
    checkedAdd_eq_ok.mpr ⟨lt_of_contains (by norm_num) hidx, rfl⟩
  rw [run_processNotifiedQueue_of_accept h, completeNotification]
  exact (run_bind_of_ok (run_writeGuest_of_contains hbuffer)).trans <|
    (run_bind_of_ok hget).trans <| (run_bind_of_ok (run_reads_checkedAdd haddr _)).trans <|
    (run_bind_of_ok (run_writeGuest_of_contains hused)).trans <|
    (run_bind_of_ok (run_reads_checkedAdd hidxAddress _)).trans <|
    run_bind_of_ok (run_writeGuest_of_contains hidx)

end Accepted

end Writes

/-! ### Failing calls -/

/-- The ranges and contents with which a failing call leaves no trace.  Once the buffer lies in
guest memory it is written, so the used element has to lie there too; or else the payload is in the
buffer already. -/
def NotificationFailsCleanly (s : RngState) : Prop :=
  ∀ notification, acceptNotification s = .ok notification →
    s.memory.region.Contains notification.buffer.toNat virtioRngTestPayload.length →
    s.memory.region.Contains s.device.usedElementAddress 8 ∨
      ∀ i < virtioRngTestPayload.length,
        s.memory.byteAt (notification.buffer.toNat + i) = virtioRngTestPayload.getD i 0

theorem filledState_eq_self_iff {s : RngState} {notification : AcceptedNotification}
    (hbuffer : s.memory.region.Contains notification.buffer.toNat virtioRngTestPayload.length) :
    filledState s notification = s ↔ ∀ i < virtioRngTestPayload.length,
      s.memory.byteAt (notification.buffer.toNat + i) = virtioRngTestPayload.getD i 0 := by
  rw [← GuestMemory.overwrite_eq_self_iff hbuffer.1]
  exact ⟨fun heq => congrArg RngState.memory heq, fun heq => congrArg (RngState.mk s.device) heq⟩

/-- **When a failing call of the entropy device changes nothing.** -/
theorem processNotifiedQueue_error_iff {s : RngState} :
    (∀ e s', processNotifiedQueue.run s = .error e s' → s' = s) ↔ NotificationFailsCleanly s := by
  constructor
  · intro hclean notification haccept hbuffer
    by_cases hused : s.memory.region.Contains s.device.usedElementAddress 8
    · exact Or.inl hused
    · obtain ⟨e, he⟩ := run_process_of_usedElement_outside haccept hbuffer hused
      exact Or.inr ((filledState_eq_self_iff hbuffer).mp (hclean e _ he))
  · intro hclean e s' hrun
    cases haccept : acceptNotification s with
    | error e' =>
        rw [run_processNotifiedQueue_of_error haccept] at hrun
        cases hrun
        rfl
    | ok notification =>
        by_cases hbuffer : s.memory.region.Contains notification.buffer.toNat
            virtioRngTestPayload.length
        · by_cases hused : s.memory.region.Contains s.device.usedElementAddress 8
          · rw [run_processNotifiedQueue_of_fits haccept hbuffer hused] at hrun
            cases hrun
          · obtain ⟨e', he⟩ := run_process_of_usedElement_outside haccept hbuffer hused
            rw [he] at hrun
            cases hrun
            exact (filledState_eq_self_iff hbuffer).mpr
              ((hclean notification haccept hbuffer).resolve_left hused)
        · obtain ⟨e', he⟩ := run_process_of_buffer_outside haccept hbuffer
          rw [he] at hrun
          cases hrun
          rfl

/-- **When rejected requests have no effect.** For every state of an entropy device and of a block
device and every guest memory, a call of the two processors without preflights that returns an error
leaves device and memory as they were exactly when the ranges written after the first one lie in
guest memory, or what is written before the failing write is there already. -/
theorem rejected_requests_unchanged_iff {H : Type} (s : RngState) (t : VirtioBlk.BlkState H) :
    (∀ e s', processNotifiedQueue.run s = .error e s' → s' = s) ∧
        (∀ e t', (VirtioBlk.processNotifiedQueue (H := H)).run t = .error e t' → t' = t) ↔
      NotificationFailsCleanly s ∧ VirtioBlk.FailsCleanly t.device t.memory :=
  and_congr processNotifiedQueue_error_iff VirtioBlk.processNotifiedQueue_error_iff

/-! ### Used rings at the end of guest memory -/

/-- An entropy device whose used ring starts four bytes before the end of a page, in a memory with a
buffer at `0x500`. -/
def rngAtEnd : RngState where
  device :=
    { VirtioRngDevice.new 0xd0000000 with
      driverFeatures := virtioFVersion1
      status := 0x0f
      queueEnabled := true
      queueDesc := 0x100
      queueDriver := 0x200
      queueDevice := 0xffc
      notifyPending := true }
  memory :=
    { region := VirtioBlk.readRequestMemory.region
      mapping := (ByteMap.write (fun _ => 0)
        0x100 (u64Bytes 0x500 ++ u32Bytes 8 ++ u16Bytes 2 ++ u16Bytes 0)).write
        0x200 (u16Bytes 0 ++ u16Bytes 1 ++ u16Bytes 0) }

/-- A block device whose used ring starts four bytes before the end of a page, in a memory whose
status byte is not zero. -/
def blkAtEnd : VirtioBlk.BlkState Unit where
  device := { VirtioBlk.notifiedDevice with queueDevice := 0xffc }
  memory := VirtioBlk.readRequestMemory.overwrite 0x800 [0xff]
  host := ()

theorem acceptNotification_rngAtEnd : acceptNotification rngAtEnd = .ok ⟨0, 1, 0x500⟩ := by
  decide +kernel

theorem acceptReadRequest_blkAtEnd :
    blkAtEnd.device.acceptReadRequest blkAtEnd.memory =
      .ok ⟨0, 1, 1, 512, ⟨0x500, 512, 3, 2⟩, ⟨0x800, 1, 2, 0⟩⟩ := by
  decide +kernel

/-- Both devices return an error after they have written to guest memory. -/
theorem rejected_requests_change_memory :
    (∃ e s', processNotifiedQueue.run rngAtEnd = .error e s' ∧ s' ≠ rngAtEnd) ∧
      ∃ e t', VirtioBlk.processNotifiedQueue.run blkAtEnd = .error e t' ∧ t' ≠ blkAtEnd := by
  constructor
  · have hbuffer : rngAtEnd.memory.region.Contains 0x500 virtioRngTestPayload.length := by
      decide +kernel
    obtain ⟨e, he⟩ := run_process_of_usedElement_outside acceptNotification_rngAtEnd hbuffer
      (by decide)
    refine ⟨e, _, he, fun heq => ?_⟩
    have hbyte := (filledState_eq_self_iff hbuffer).mp heq 0 (by decide +kernel)
    exact absurd hbyte (by decide +kernel)
  · have haccept := acceptReadRequest_blkAtEnd
    obtain ⟨e, he⟩ := VirtioBlk.run_process_of_usedElement_outside haccept (by decide) (by decide)
      (by decide)
    refine ⟨e, _, he, fun heq => ?_⟩
    have hbyte := ((VirtioBlk.statusState_eq_self_iff haccept (by decide) (by decide)).mp heq).2
    exact absurd hbyte (by decide)

end MiniHypervisor.VirtioRng
