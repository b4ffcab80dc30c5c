import MiniHypervisor.Virtio.Devices

/-!
# Runs of the block device and of the entropy device

What holds along every run of the two devices, from a new device, for any register accesses and any
services on any guest memory.  The bookkeeping of the queue always does.  The status bits are nested
as long as no status write asks for `DRIVER_OK` together with features that are not valid, and
a pending notification belongs to a ready queue as long as no write disables the queue while it is
pending.  The devices let both writes through.
-/

namespace MiniHypervisor.Virtio

open Bytes Control Memory

open VirtioBlk (VirtioBlkDevice BlkService HostFiles blkDevice noFiles)

open VirtioRng (VirtioRngDevice rngDevice)

variable {H : Type}

/-- **Bookkeeping of the queue.** -/
theorem queue_bookkeeping (files : HostFiles H) (bar0 : UInt64)
    (blkCalls : List (Call (BlkService H))) (rngCalls : List (Call GuestMemory)) :
    (blkDevice files).KeepsBooks (VirtioBlkDevice.new bar0) blkCalls ∧
      rngDevice.KeepsBooks (VirtioRngDevice.new bar0) rngCalls :=
  ⟨TransportDevice.keepsBooks_run rfl blkCalls, TransportDevice.keepsBooks_run rfl rngCalls⟩

/-- **Status handshake.** It is kept exactly by the runs in which no call asks for `DRIVER_OK`
together with features that are not valid. -/
theorem status_handshake_iff (files : HostFiles H) (bar0 : UInt64)
    (blkCalls : List (Call (BlkService H))) (rngCalls : List (Call GuestMemory)) :
    (blkDevice files).Handshake (VirtioBlkDevice.new bar0) blkCalls ∧
        rngDevice.Handshake (VirtioRngDevice.new bar0) rngCalls ↔
      (∀ ran call, ran ++ [call] <+: blkCalls →
        ¬ (blkDevice files).AsksEarly ((blkDevice files).reach (.new bar0) ran) call) ∧
      ∀ ran call, ran ++ [call] <+: rngCalls →
        ¬ rngDevice.AsksEarly (rngDevice.reach (.new bar0) ran) call :=
  and_congr (TransportDevice.handshake_run_iff rfl blkCalls)
    (TransportDevice.handshake_run_iff rfl rngCalls)

/-- All four bits requested of a new device, which has no features. -/
def earlyDriverOk {π : Type} : List (Call π) := [.write 0x14 [0x0f]]

/-- The device stores `DRIVER_OK` without `FEATURES_OK`. -/
theorem driverOk_without_featuresOk :
    ((blkDevice noFiles).reach (.new 0) earlyDriverOk).status = 0x07 ∧
      (rngDevice.reach (.new 0) earlyDriverOk).status = 0x07 ∧
      ¬ (blkDevice noFiles).Handshake (.new 0) earlyDriverOk ∧
      ¬ rngDevice.Handshake (.new 0) earlyDriverOk := by
  have hblk : ((blkDevice noFiles).transport
      ((blkDevice noFiles).reach (.new 0) earlyDriverOk)).status = 0x07 := by decide
  have hrng : (rngDevice.transport (rngDevice.reach (.new 0) earlyDriverOk)).status = 0x07 := by
    decide
  refine ⟨hblk, hrng, fun h => ?_, fun h => ?_⟩
  · have hnested := (h.nested _ (List.prefix_refl _)).driverOk
    rw [hblk] at hnested
    exact hnested (by decide) (by decide)
  · have hnested := (h.nested _ (List.prefix_refl _)).driverOk
    rw [hrng] at hnested
    exact hnested (by decide) (by decide)

/-- **Pending notifications.** They belong to ready queues, with the settings of the notification,
exactly along the runs in which no call disables the queue while one is pending. -/
theorem pending_ready_iff (files : HostFiles H) (bar0 : UInt64)
    (blkCalls : List (Call (BlkService H))) (rngCalls : List (Call GuestMemory)) :
    ((∀ ran, ran <+: blkCalls → (blkDevice files).PendingReadyAfter (.new bar0) ran) ∧
      ∀ ran, ran <+: rngCalls → rngDevice.PendingReadyAfter (.new bar0) ran) ↔
      (∀ ran call, ran ++ [call] <+: blkCalls →
        ¬ (blkDevice files).DisablesPending ((blkDevice files).reach (.new bar0) ran) call) ∧
      ∀ ran call, ran ++ [call] <+: rngCalls →
        ¬ rngDevice.DisablesPending (rngDevice.reach (.new bar0) ran) call :=
  and_congr (TransportDevice.pendingReady_run_iff rfl blkCalls)
    (TransportDevice.pendingReady_run_iff rfl rngCalls)

/-- A driver that negotiates, configures the queue and notifies, and then disables the queue. -/
def disablesPending {π : Type} : List (Call π) :=
  [.write 0x08 [1, 0, 0, 0], .write 0x0c [1, 0, 0, 0], .write 0x14 [0x0b],
    .write 0x20 [0, 0x10, 0, 0], .write 0x28 [0, 0x20, 0, 0], .write 0x30 [0, 0x30, 0, 0],
    .write 0x1c [1, 0], .write 0x14 [0x0f], .write 0x100 [0, 0], .write 0x1c [0, 0]]

/-- The same, and then the queue is enabled again with another descriptor table. -/
def reconfiguresPending {π : Type} : List (Call π) :=
  disablesPending ++ [.write 0x20 [0, 0x50, 0, 0], .write 0x1c [1, 0]]

/-- A notification outlives the queue it was accepted for, and is then pending for another one. -/
theorem notification_outlives_queue :
    ¬ (blkDevice noFiles).PendingReadyAfter (.new 0) disablesPending ∧
    ¬ rngDevice.PendingReadyAfter (.new 0) disablesPending ∧
    (let blk := (blkDevice noFiles).reach (.new 0) reconfiguresPending;
      blk.notifyPending = true ∧ blk.ensureQueueReady = .ok () ∧ blk.queueDesc = 0x5000 ∧
        (TransportDevice.lastNotified ((blkDevice noFiles).history (.new 0)
          reconfiguresPending)).map Transport.queueDesc = some 0x1000) ∧
    (let rng := rngDevice.reach (.new 0) reconfiguresPending;
      rng.notifyPending = true ∧ rng.ensureQueueReady = .ok () ∧ rng.queueDesc = 0x5000 ∧
        (TransportDevice.lastNotified (rngDevice.history (.new 0)
          reconfiguresPending)).map Transport.queueDesc = some 0x1000) := by
  have hblk : ((blkDevice noFiles).reach (.new 0) disablesPending).notifyPending = true ∧
      ((blkDevice noFiles).reach (.new 0) disablesPending).queueEnabled ≠ true := by
    decide +kernel
  have hrng : (rngDevice.reach (.new 0) disablesPending).notifyPending = true ∧
      (rngDevice.reach (.new 0) disablesPending).queueEnabled ≠ true := by
    decide +kernel
  refine ⟨fun h => hblk.2 (h hblk.1).1.enabled, fun h => hrng.2 (h hrng.1).1.enabled,
    ⟨?_, ?_, ?_, ?_⟩, ⟨?_, ?_, ?_, ?_⟩⟩ <;> decide +kernel

end MiniHypervisor.Virtio
