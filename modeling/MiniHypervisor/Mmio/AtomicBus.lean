import MiniHypervisor.Mmio.Bus

/-!
# Checkpoints of the virtio-blk devices of the bus

Capture, verification and restore of the virtio-blk devices, which the bus finds by their BAR
(`src/mmio/multi_device/virtio_blk_atomic_bus.rs`).  A restore of two devices makes every check
before it writes either device.  There are three: one for quiescent snapshots, and two in which one
snapshot has a completion or a notification pending that a token stands for.
-/

namespace MiniHypervisor.Mmio

open Control Kvm VirtioBlk

def virtioBlkCheckpointError (operation detail : String) : HostEnvironmentError :=
  .io operation detail

/-- The detail for a device with its backing in a file. -/
def externalBackingDetail : String :=
  "external file-backed storage identity is outside the current checkpoint schema"

/-- The detail for a device that is not fully quiescent. -/
def notQuiescentDetail (device : VirtioBlkDevice) : String :=
  if device.checkpointNotificationPending then
    "device has a serviced host notification awaiting queue processing; pending notification " ++
      "requires an explicit service token"
  else if device.checkpointCompletionPending then
    "device has a serviced queue completion awaiting irqfd delivery; pending completion " ++
      "requires an explicit delivery token"
  else
    "device is not fully quiescent and does not match a supported token-owned checkpoint state"

namespace MmioBus

variable (bus : MmioBus)

/-- The first device with the BAR `address`. -/
def deviceAt (address : UInt64) : Option VirtioBlkDevice :=
  findKey VirtioBlkDevice.bar0 address bus.virtioBlkDevices

/-! ### Capture and verification -/

/-- `MmioBus::capture_virtio_blk_checkpoint_at` (lines 59-90). -/
def captureVirtioBlkCheckpointAt (address : UInt64) :
    Except HostEnvironmentError (Option VirtioBlkDevice) :=
  let operation := "capture virtio-blk checkpoint state"
  match bus.deviceAt address with
  | none => .ok none
  | some device => do
      rejectIf (device.checkpointBackingPortable = false)
        (virtioBlkCheckpointError operation externalBackingDetail)
      rejectIf (device.checkpointFullyQuiescent = false)
        (virtioBlkCheckpointError operation (notQuiescentDetail device))
      return some device

/-- The word for what is pending in the names of the operations. -/
def pendingText : PendingKind → String
  | .completion => "completion"
  | .notification => "notification"

/-- `MmioBus::capture_virtio_blk_checkpoint_with_pending_completion_at` (lines 92-113) and
`MmioBus::capture_virtio_blk_checkpoint_with_pending_notification_at` (lines 115-139). -/
def captureWithPendingAt (kind : PendingKind) (address : UInt64) :
    Except HostEnvironmentError (Option (VirtioBlkDevice × PendingToken kind)) :=
  let operation := "capture virtio-blk pending " ++ pendingText kind
  match bus.deviceAt address with
  | none => .ok none
  | some device => do
      rejectIf (device.checkpointBackingPortable = false)
        (virtioBlkCheckpointError operation externalBackingDetail)
      let token ← (PendingToken.capture kind device).mapError fun error =>
        virtioBlkCheckpointError operation error.text
      return some (device, token)

/-- `MmioBus::verify_virtio_blk_checkpoint_at` (lines 141-160). -/
def verifyVirtioBlkCheckpointAt (address : UInt64) (snapshot : VirtioBlkDevice) :
    Except HostEnvironmentError (Option Bool) := do
  rejectIf (snapshot.bar0 ≠ address) (virtioBlkCheckpointError "verify virtio-blk checkpoint state"
    ("snapshot BAR " ++ hexText snapshot.bar0.toNat ++ " does not match requested BAR " ++
      hexText address.toNat))
  return (bus.deviceAt address).map fun device => decide (device = snapshot)

variable {bus} {address : UInt64} {device : VirtioBlkDevice}

theorem captureVirtioBlkCheckpointAt_eq_some :
    bus.captureVirtioBlkCheckpointAt address = .ok (some device) ↔
      bus.deviceAt address = some device ∧ device.persistentBacking = none ∧
        device.notifyPending = false ∧ device.isrStatus = 0 := by
  unfold captureVirtioBlkCheckpointAt
  cases bus.deviceAt address with
  | none => simp
  | some found =>
      simp only [rejectIf_bind_eq_ok, pure, Except.pure, Except.ok.injEq, Option.some.injEq]
      simp only [VirtioBlkDevice.checkpointBackingPortable,
        VirtioBlkDevice.checkpointFullyQuiescent, Bool.not_eq_false, Option.isNone_iff_eq_none,
        Bool.and_eq_true, Bool.not_eq_true', beq_iff_eq]
      constructor
      · rintro ⟨hbacking, ⟨hnotify, hisr⟩, rfl⟩
        exact ⟨rfl, hbacking, hnotify, hisr⟩
      · rintro ⟨rfl, hbacking, hnotify, hisr⟩
        exact ⟨hbacking, ⟨hnotify, hisr⟩, rfl⟩

theorem captureWithPendingAt_eq_some {kind : PendingKind} {token : PendingToken kind} :
    bus.captureWithPendingAt kind address = .ok (some (device, token)) ↔
      bus.deviceAt address = some device ∧ device.persistentBacking = none ∧
        token.validateDevice device = .ok () := by
  unfold captureWithPendingAt
  cases bus.deviceAt address with
  | none => simp
  | some found =>
      simp only [bind_eq_ok, rejectIf_eq_ok, mapError_eq_ok, PendingToken.capture_eq_ok, pure,
        Except.pure, Except.ok.injEq, Option.some.injEq, Prod.mk.injEq]
      simp only [VirtioBlkDevice.checkpointBackingPortable, Bool.not_eq_false,
        Option.isNone_iff_eq_none]
      constructor
      · rintro ⟨_, hbacking, _, hvalid, rfl, rfl⟩
        exact ⟨rfl, hbacking, hvalid⟩
      · rintro ⟨rfl, hbacking, hvalid⟩
        exact ⟨(), hbacking, token, hvalid, rfl, rfl⟩

/-! ### Restores -/

variable (bus)

/-- The position of the first device with the BAR `address`. -/
def indexAt (address : UInt64) : Option ℕ :=
  indexOfKey VirtioBlkDevice.bar0 address bus.virtioBlkDevices

/-- The device at a position is in memory and fully quiescent. -/
def liveAt (index : ℕ) : Bool :=
  (bus.virtioBlkDevices[index]?).any fun device =>
    device.checkpointBackingPortable && device.checkpointFullyQuiescent

/-- The bus with the virtio-blk device at a position replaced. -/
def withBlk (index : ℕ) (device : VirtioBlkDevice) : MmioBus :=
  { bus with virtioBlkDevices := bus.virtioBlkDevices.set index device }

/-- The assignment of a device at a position. -/
def assign (index : ℕ) (device : VirtioBlkDevice) : EStateM HostEnvironmentError MmioBus Unit :=
  modify fun bus => bus.withBlk index device

/-- The checks of `restore_virtio_blk_checkpoint_at`: the position of the device at the BAR, if
there is one. -/
def acceptOne (address : UInt64) (snapshot : VirtioBlkDevice) :
    Except HostEnvironmentError (Option ℕ) := do
  let operation := "restore virtio-blk checkpoint state"
  rejectIf (snapshot.bar0 ≠ address ∨ snapshot.checkpointBackingPortable = false ∨
      snapshot.checkpointFullyQuiescent = false)
    (virtioBlkCheckpointError operation "snapshot BAR identity or quiescence contract is invalid")
  match bus.indexAt address with
  | none => return none
  | some index => do
      rejectIf (bus.liveAt index = false) (virtioBlkCheckpointError operation
        "live device must be memory-backed and fully quiescent")
      return some index

/-- `MmioBus::restore_virtio_blk_checkpoint_at` (lines 162-191). -/
def restoreVirtioBlkCheckpointAt (address : UInt64) (snapshot : VirtioBlkDevice) :
    EStateM HostEnvironmentError MmioBus (Option Unit) := do
  match ← reads fun bus => bus.acceptOne address snapshot with
  | none => return none
  | some index => do
      assign index snapshot
      return some ()

/-- The two snapshots of a restore, each with the BAR it is for. -/
abbrev Checkpoints : Type := (UInt64 × VirtioBlkDevice) × (UInt64 × VirtioBlkDevice)

/-- The check of the order of the BARs, with which all restores of two devices begin. -/
def requireIncreasingBars (operation : String) (checkpoints : Checkpoints) :
    Except HostEnvironmentError Unit :=
  rejectIf (checkpoints.2.1 ≤ checkpoints.1.1) (virtioBlkCheckpointError operation
    "two-device checkpoint BARs must be distinct and strictly increasing")

/-- The position of a live device, which has to be there. -/
def requireIndex (operation : String) (address : UInt64) : Except HostEnvironmentError ℕ :=
  match bus.indexAt address with
  | some index => .ok index
  | none => .error (virtioBlkCheckpointError operation
      ("live virtio-blk device at BAR " ++ hexText address.toNat ++ " is missing"))

/-- The checks of the live devices: both are there, at different positions, in memory and fully
quiescent. -/
def locateTwo (operation liveDetail : String) (checkpoints : Checkpoints) :
    Except HostEnvironmentError (ℕ × ℕ) := do
  let first ← bus.requireIndex operation checkpoints.1.1
  let second ← bus.requireIndex operation checkpoints.2.1
  rejectIf (first = second) (virtioBlkCheckpointError operation
    "two checkpoint BARs resolved to the same live device")
  rejectIf (bus.liveAt first = false ∨ bus.liveAt second = false)
    (virtioBlkCheckpointError operation liveDetail)
  return (first, second)

/-- The end of all restores of two devices, after the checks: the devices are split at the larger
position, and both snapshots are assigned. -/
def replaceTwo (checkpoints : Checkpoints) (positions : ℕ × ℕ) :
    EStateM HostEnvironmentError MmioBus Unit :=
  if positions.1 < positions.2 then do
    assign positions.1 checkpoints.1.2
    assign positions.2 checkpoints.2.2
  else do
    assign positions.2 checkpoints.2.2
    assign positions.1 checkpoints.1.2

/-- The check of a snapshot in a restore without a token. -/
def requireQuiescentSnapshot (operation : String) (checkpoint : UInt64 × VirtioBlkDevice) :
    Except HostEnvironmentError Unit :=
  rejectIf (checkpoint.2.bar0 ≠ checkpoint.1 ∨ checkpoint.2.checkpointBackingPortable = false ∨
      checkpoint.2.checkpointFullyQuiescent = false)
    (virtioBlkCheckpointError operation ("snapshot for BAR " ++ hexText checkpoint.1.toNat ++
      " has mismatched identity or is not quiescent"))

/-- The check of a snapshot in a restore with a token: the device of the token has to match it, the
other one has to be fully quiescent. -/
def requireTokenSnapshot {kind : PendingKind} (token : PendingToken kind) (operation : String)
    (checkpoint : UInt64 × VirtioBlkDevice) : Except HostEnvironmentError Unit := do
  rejectIf (checkpoint.2.bar0 ≠ checkpoint.1) (virtioBlkCheckpointError operation
    ("snapshot BAR " ++ hexText checkpoint.2.bar0.toNat ++ " does not match " ++
      hexText checkpoint.1.toNat))
  if checkpoint.1 = token.bar0 then
    rejectIf (checkpoint.2.checkpointBackingPortable = false)
      (virtioBlkCheckpointError "restore token-owned virtio-blk checkpoint state"
        externalBackingDetail)
    (token.validateDevice checkpoint.2).mapError fun error =>
      virtioBlkCheckpointError ("restore pending virtio-blk " ++ pendingText kind) error.text
  else
    rejectIf (checkpoint.2.checkpointFullyQuiescent = false)
      (virtioBlkCheckpointError operation
        ("non-token device at BAR " ++ hexText checkpoint.1.toNat ++ " is not fully quiescent"))

/-- The checks of `restore_two_virtio_blk_checkpoints_atomic`, which change nothing. -/
def acceptTwo (checkpoints : Checkpoints) : Except HostEnvironmentError (ℕ × ℕ) := do
  let operation := "restore two virtio-blk checkpoint states"
  requireIncreasingBars operation checkpoints
  requireQuiescentSnapshot operation checkpoints.1
  requireQuiescentSnapshot operation checkpoints.2
  bus.locateTwo operation "all live devices must be quiescent before either device is restored"
    checkpoints

/-- The checks of the restores with a token, which change nothing. -/
def acceptTwoWithPending {kind : PendingKind} (checkpoints : Checkpoints)
    (token : PendingToken kind) : Except HostEnvironmentError (ℕ × ℕ) := do
  let operation := "restore two virtio-blk checkpoint states with pending " ++ pendingText kind
  requireIncreasingBars operation checkpoints
  rejectIf (token.bar0 ≠ checkpoints.1.1 ∧ token.bar0 ≠ checkpoints.2.1)
    (virtioBlkCheckpointError operation ("pending-" ++ pendingText kind ++ " BAR " ++
      hexText token.bar0.toNat ++ " is outside checkpoint BARs"))
  requireTokenSnapshot token operation checkpoints.1
  requireTokenSnapshot token operation checkpoints.2
  bus.locateTwo operation "all live devices must be fully quiescent before token-aware restore"
    checkpoints

/-- `MmioBus::restore_two_virtio_blk_checkpoints_atomic` (lines 193-270). -/
def restoreTwoVirtioBlkCheckpointsAtomic (checkpoints : Checkpoints) :
    EStateM HostEnvironmentError MmioBus Unit := do
  let positions ← reads fun bus => bus.acceptTwo checkpoints
  replaceTwo checkpoints positions

/-- `MmioBus::restore_two_virtio_blk_checkpoints_atomic_with_pending_completion` (lines 272-376) and
`MmioBus::restore_two_virtio_blk_checkpoints_atomic_with_pending_notification` (lines 378-482). -/
def restoreTwoWithPending {kind : PendingKind} (checkpoints : Checkpoints)
    (token : PendingToken kind) : EStateM HostEnvironmentError MmioBus Unit := do
  let positions ← reads fun bus => bus.acceptTwoWithPending checkpoints token
  replaceTwo checkpoints positions

/-! ### When the checks pass -/

variable {bus} {operation : String} {checkpoints : Checkpoints} {i j : ℕ}

/-- A device that is in memory and fully quiescent is at the BAR. -/
def Ready (bus : MmioBus) (address : UInt64) : Prop :=
  ∃ device, bus.deviceAt address = some device ∧ device.persistentBacking = none ∧
    device.checkpointFullyQuiescent = true

theorem ready_iff {address : UInt64} :
    bus.Ready address ↔ ∃ i, bus.indexAt address = some i ∧ bus.liveAt i = true := by
  simp only [Ready, deviceAt, findKey_eq_some_iff, indexAt, liveAt, Option.any_eq_true,
    Bool.and_eq_true, VirtioBlkDevice.checkpointBackingPortable, Option.isNone_iff_eq_none]
  constructor
  · rintro ⟨device, ⟨i, hindex, hget⟩, hlive⟩
    exact ⟨i, hindex, device, hget, hlive⟩
  · rintro ⟨i, hindex, device, hget, hlive⟩
    exact ⟨device, ⟨i, hindex, hget⟩, hlive⟩

/-- A bus with new virtio-blk devices at two BARs. -/
def twoBlkBus (first second : UInt64) : MmioBus :=
  { empty with virtioBlkDevices := [.new first, .new second] }

theorem deviceAt_twoBlkBus_first {first second : UInt64} :
    (twoBlkBus first second).deviceAt first = some (.new first) := by
  simp [deviceAt, twoBlkBus, findKey, VirtioBlkDevice.new]

theorem deviceAt_twoBlkBus_second {first second : UInt64} (hne : first ≠ second) :
    (twoBlkBus first second).deviceAt second = some (.new second) := by
  simp [deviceAt, twoBlkBus, findKey, VirtioBlkDevice.new, hne]

theorem ready_twoBlkBus {first second : UInt64} (hne : first ≠ second) :
    (twoBlkBus first second).Ready first ∧ (twoBlkBus first second).Ready second :=
  ⟨⟨_, deviceAt_twoBlkBus_first, rfl, rfl⟩, ⟨_, deviceAt_twoBlkBus_second hne, rfl, rfl⟩⟩

theorem requireIndex_eq_ok {address : UInt64} :
    bus.requireIndex operation address = .ok i ↔ bus.indexAt address = some i := by
  unfold requireIndex
  cases bus.indexAt address <;> simp

theorem locateTwo_eq_ok {liveDetail : String} :
    bus.locateTwo operation liveDetail checkpoints = .ok (i, j) ↔
      bus.indexAt checkpoints.1.1 = some i ∧ bus.indexAt checkpoints.2.1 = some j ∧ i ≠ j ∧
        bus.liveAt i = true ∧ bus.liveAt j = true := by
  simp only [locateTwo, bind_eq_ok, requireIndex_eq_ok, rejectIf_eq_ok, pure, Except.pure,
    Except.ok.injEq, Prod.mk.injEq, not_or, Bool.not_eq_false]
  constructor
  · rintro ⟨_, hi, _, hj, _, hne, _, hlive, rfl, rfl⟩
    exact ⟨hi, hj, hne, hlive⟩
  · rintro ⟨hi, hj, hne, hlive⟩
    exact ⟨i, hi, j, hj, (), hne, (), hlive, rfl, rfl⟩

theorem admits_of_acceptOne {address : UInt64} {snapshot : VirtioBlkDevice}
    (h : bus.acceptOne address snapshot = .ok (some i)) :
    snapshot.bar0 = address ∧ snapshot.persistentBacking = none ∧ bus.indexAt address = some i := by
  rw [acceptOne, rejectIf_bind_eq_ok, not_or, not_or, not_not, Bool.not_eq_false,
    VirtioBlkDevice.checkpointBackingPortable, Option.isNone_iff_eq_none] at h
  obtain ⟨⟨hbar, hbacking, -⟩, hfound⟩ := h
  refine ⟨hbar, hbacking, ?_⟩
  cases hindex : bus.indexAt address with
  | none => simp [hindex, pure, Except.pure] at hfound
  | some j =>
      simp only [hindex, rejectIf_bind_eq_ok, pure, Except.pure, Except.ok.injEq] at hfound
      exact hfound.2

theorem restoreVirtioBlkCheckpointAt_cases (bus : MmioBus) (address : UInt64)
    (snapshot : VirtioBlkDevice) :
    finalState ((restoreVirtioBlkCheckpointAt address snapshot).run bus) = bus ∨
      ∃ i, snapshot.bar0 = address ∧ snapshot.persistentBacking = none ∧
        bus.indexAt address = some i ∧
        finalState ((restoreVirtioBlkCheckpointAt address snapshot).run bus) =
          bus.withBlk i snapshot := by
  unfold restoreVirtioBlkCheckpointAt
  cases haccept : bus.acceptOne address snapshot with
  | error e =>
      have hreads : (reads fun bus : MmioBus => bus.acceptOne address snapshot).run bus =
          .error e bus := run_reads_of_error haccept
      rw [run_bind_of_error hreads]
      exact .inl rfl
  | ok found =>
      have hreads : (reads fun bus : MmioBus => bus.acceptOne address snapshot).run bus =
          .ok found bus := run_reads_of_ok haccept
      rw [run_bind_of_ok hreads]
      cases found with
      | none => exact .inl rfl
      | some i =>
          obtain ⟨hbar, hbacking, hindex⟩ := admits_of_acceptOne haccept
          exact .inr ⟨i, hbar, hbacking, hindex, rfl⟩

/-! ### Replacing two devices -/

/-- The bus with the devices at two positions replaced. -/
def withTwo (bus : MmioBus) (i j : ℕ) (first second : VirtioBlkDevice) : MmioBus :=
  (bus.withBlk i first).withBlk j second

theorem run_replaceTwo (hne : i ≠ j) :
    (replaceTwo checkpoints (i, j)).run bus =
      .ok () (bus.withTwo i j checkpoints.1.2 checkpoints.2.2) := by
  unfold replaceTwo
  split_ifs
  · rfl
  · rw [withTwo, withBlk, withBlk, List.set_comm _ _ hne]
    rfl

section WithTwo

variable {first second : VirtioBlkDevice}

theorem layout_withBlk (hi : bus.indexAt first.bar0 = some i) :
    (bus.withBlk i first).layout = bus.layout := by
  unfold layout withBlk
  rw [map_key_set hi]

theorem device?_withBlk {slot : Slot} (hi : slot ≠ .blk i) :
    (bus.withBlk i first).device? slot = bus.device? slot := by
  cases slot with
  | byte k => rfl
  | rng k => rfl
  | blk k =>
      have hik : i ≠ k := fun h => hi (congrArg Slot.blk h.symm)
      simp only [device?, withBlk, List.getElem?_set_ne hik]

theorem slot_ne_of_indexAt {slot : Slot} {d : Device} {address : UInt64}
    (hi : bus.indexAt address = some i) (hd : bus.device? slot = some d)
    (h : ∀ b, d = .blk b → b.bar0 ≠ address) : slot ≠ .blk i := by
  rintro rfl
  obtain ⟨b, hb, rfl⟩ := Option.map_eq_some_iff.mp hd
  have hbar := key_of_indexOfKey hi
  rw [hb, Option.map_some, Option.some.injEq] at hbar
  exact h b rfl hbar

theorem indexAt_second (hi : bus.indexAt first.bar0 = some i)
    (hj : bus.indexAt second.bar0 = some j) :
    (bus.withBlk i first).indexAt second.bar0 = some j :=
  (indexOfKey_set hi _).trans hj

theorem layout_withTwo (hi : bus.indexAt first.bar0 = some i)
    (hj : bus.indexAt second.bar0 = some j) :
    (bus.withTwo i j first second).layout = bus.layout := by
  unfold withTwo
  rw [layout_withBlk (indexAt_second hi hj), layout_withBlk hi]

theorem deviceAt_second_withTwo (hi : bus.indexAt first.bar0 = some i)
    (hj : bus.indexAt second.bar0 = some j) :
    (bus.withTwo i j first second).deviceAt second.bar0 = some second :=
  findKey_set_self (indexAt_second hi hj)

theorem deviceAt_first_withTwo (hne : first.bar0 ≠ second.bar0)
    (hi : bus.indexAt first.bar0 = some i) (hj : bus.indexAt second.bar0 = some j) :
    (bus.withTwo i j first second).deviceAt first.bar0 = some first :=
  (findKey_set_of_ne (indexAt_second hi hj) hne).trans (findKey_set_self hi)

theorem device?_withTwo {slot : Slot} (hi : slot ≠ .blk i) (hj : slot ≠ .blk j) :
    (bus.withTwo i j first second).device? slot = bus.device? slot :=
  (device?_withBlk hj).trans (device?_withBlk hi)

/-- Every virtio-blk device has its disk in memory. -/
def InMemory (bus : MmioBus) : Prop :=
  ∀ device ∈ bus.virtioBlkDevices, device.persistentBacking = none

theorem InMemory.withBlk (h : bus.InMemory) (hfirst : first.persistentBacking = none) :
    (bus.withBlk i first).InMemory := by
  intro device hdevice
  rcases List.mem_or_eq_of_mem_set hdevice with hmem | rfl
  · exact h device hmem
  · exact hfirst

theorem InMemory.withTwo_iff (h : bus.InMemory) (hne : i ≠ j)
    (hi : i < bus.virtioBlkDevices.length) (hj : j < bus.virtioBlkDevices.length) :
    (bus.withTwo i j first second).InMemory ↔
      first.persistentBacking = none ∧ second.persistentBacking = none := by
  constructor
  · intro hafter
    have hlength : j < (bus.virtioBlkDevices.set i first).length := by rwa [List.length_set]
    refine ⟨hafter first (List.mem_of_getElem? (i := i) ?_), hafter second (List.mem_set hlength _)⟩
    change ((bus.virtioBlkDevices.set i first).set j second)[i]? = some first
    rw [List.getElem?_set_ne hne.symm, List.getElem?_set_self hi]
  · exact fun ⟨hfirst, hsecond⟩ => (h.withBlk hfirst).withBlk hsecond

end WithTwo

end MmioBus

/-! ### The three restores of two devices -/

/-- One of the restores of two devices: for quiescent snapshots, or with a token. -/
inductive TwoDeviceRestore where
  | quiescent
  | pending (kind : PendingKind) (token : PendingToken kind)

namespace TwoDeviceRestore

open MmioBus

variable {bus : MmioBus}

/-- The restore. -/
def run (restore : TwoDeviceRestore) (checkpoints : Checkpoints) :
    EStateM HostEnvironmentError MmioBus Unit :=
  match restore with
  | quiescent => restoreTwoVirtioBlkCheckpointsAtomic checkpoints
  | pending _ token => restoreTwoWithPending checkpoints token

/-- Its checks. -/
def accept (restore : TwoDeviceRestore) (checkpoints : Checkpoints) (bus : MmioBus) :
    Except HostEnvironmentError (ℕ × ℕ) :=
  match restore with
  | quiescent => bus.acceptTwo checkpoints
  | pending _ token => bus.acceptTwoWithPending checkpoints token

/-- The snapshot can be restored: it has the BAR it is for, and is in memory and fully quiescent,
unless the token is for it. -/
def Admits (checkpoint : UInt64 × VirtioBlkDevice) : TwoDeviceRestore → Prop
  | quiescent => checkpoint.2.bar0 = checkpoint.1 ∧ checkpoint.2.persistentBacking = none ∧
      checkpoint.2.checkpointFullyQuiescent = true
  | pending _ token => checkpoint.2.bar0 = checkpoint.1 ∧
      if checkpoint.1 = token.bar0 then
        checkpoint.2.persistentBacking = none ∧ token.validateDevice checkpoint.2 = .ok ()
      else checkpoint.2.checkpointFullyQuiescent = true

/-- The token, if any, is for one of the BARs. -/
def Concerns (first second : UInt64) : TwoDeviceRestore → Prop
  | quiescent => True
  | pending _ token => token.bar0 = first ∨ token.bar0 = second

variable {restore : TwoDeviceRestore} {checkpoint : UInt64 × VirtioBlkDevice}
  {checkpoints : Checkpoints} {i j : ℕ} {e : HostEnvironmentError}

theorem Admits.bar0 (h : restore.Admits checkpoint) : checkpoint.2.bar0 = checkpoint.1 := by
  cases restore <;> exact h.1

theorem requireQuiescentSnapshot_eq_ok {operation : String} {u : Unit} :
    requireQuiescentSnapshot operation checkpoint = .ok u ↔ quiescent.Admits checkpoint := by
  rw [requireQuiescentSnapshot, rejectIf_eq_ok]
  simp only [not_or, not_not, ne_eq, Bool.not_eq_false, VirtioBlkDevice.checkpointBackingPortable,
    Option.isNone_iff_eq_none, Admits]

theorem requireTokenSnapshot_eq_ok {operation : String} {kind : PendingKind}
    {token : PendingToken kind} {u : Unit} :
    requireTokenSnapshot token operation checkpoint = .ok u ↔
      (pending kind token).Admits checkpoint := by
  rw [requireTokenSnapshot, rejectIf_bind_eq_ok, not_not, Admits]
  refine and_congr_right fun _ => ?_
  split_ifs
  · rw [rejectIf_bind_eq_ok, mapError_eq_ok, Bool.not_eq_false,
      VirtioBlkDevice.checkpointBackingPortable, Option.isNone_iff_eq_none]
  · rw [rejectIf_eq_ok, Bool.not_eq_false]

/-- **When the checks of a restore pass.** -/
theorem accept_eq_ok :
    restore.accept checkpoints bus = .ok (i, j) ↔
      checkpoints.1.1 < checkpoints.2.1 ∧ restore.Concerns checkpoints.1.1 checkpoints.2.1 ∧
        restore.Admits checkpoints.1 ∧ restore.Admits checkpoints.2 ∧
        bus.indexAt checkpoints.1.1 = some i ∧ bus.indexAt checkpoints.2.1 = some j ∧ i ≠ j ∧
        bus.liveAt i = true ∧ bus.liveAt j = true := by
  cases restore with
  | quiescent =>
      simp only [accept, acceptTwo, requireIncreasingBars, bind_eq_ok, rejectIf_eq_ok,
        requireQuiescentSnapshot_eq_ok, locateTwo_eq_ok, UInt64.not_le, Concerns, true_and,
        exists_and_left, exists_const]
  | pending kind token =>
      simp only [accept, acceptTwoWithPending, requireIncreasingBars, bind_eq_ok, rejectIf_eq_ok,
        requireTokenSnapshot_eq_ok, locateTwo_eq_ok, UInt64.not_le, Concerns, exists_and_left,
        exists_const, not_and_or, not_not, ne_eq]

theorem run_eq : restore.run checkpoints = (do
    let positions ← reads (restore.accept checkpoints)
    replaceTwo checkpoints positions) := by
  cases restore <;> rfl

theorem run_of_error (h : restore.accept checkpoints bus = .error e) :
    (restore.run checkpoints).run bus = .error e bus := by
  rw [run_eq]
  exact run_bind_of_error (run_reads_of_error h)

theorem run_of_ok (h : restore.accept checkpoints bus = .ok (i, j)) :
    (restore.run checkpoints).run bus =
      .ok () (bus.withTwo i j checkpoints.1.2 checkpoints.2.2) := by
  have hne : i ≠ j := (accept_eq_ok.mp h).2.2.2.2.2.2.1
  rw [run_eq]
  exact (run_bind_of_ok (run_reads_of_ok h)).trans (run_replaceTwo hne)

theorem run_cases (restore : TwoDeviceRestore) (bus : MmioBus) (checkpoints : Checkpoints) :
    (∃ e, (restore.run checkpoints).run bus = .error e bus) ∨
      ∃ i j, restore.accept checkpoints bus = .ok (i, j) ∧ (restore.run checkpoints).run bus =
        .ok () (bus.withTwo i j checkpoints.1.2 checkpoints.2.2) := by
  cases h : restore.accept checkpoints bus with
  | error e => exact .inl ⟨e, run_of_error h⟩
  | ok positions => exact .inr ⟨positions.1, positions.2, rfl, run_of_ok h⟩

theorem layout_of_accept (h : restore.accept checkpoints bus = .ok (i, j)) :
    (bus.withTwo i j checkpoints.1.2 checkpoints.2.2).layout = bus.layout := by
  obtain ⟨-, -, hfirst, hsecond, hi, hj, -⟩ := accept_eq_ok.mp h
  rw [← hfirst.bar0] at hi
  rw [← hsecond.bar0] at hj
  exact layout_withTwo hi hj

/-- **When a restore succeeds.** The BARs increase, the token is for one of them, both snapshots are
admitted, and both live devices are in memory and fully quiescent. -/
theorem run_eq_ok :
    (∃ bus', (restore.run checkpoints).run bus = .ok () bus') ↔
      checkpoints.1.1 < checkpoints.2.1 ∧ restore.Concerns checkpoints.1.1 checkpoints.2.1 ∧
        restore.Admits checkpoints.1 ∧ restore.Admits checkpoints.2 ∧
        bus.Ready checkpoints.1.1 ∧ bus.Ready checkpoints.2.1 := by
  constructor
  · rintro ⟨bus', hrun⟩
    rcases run_cases restore bus checkpoints with ⟨e, herror⟩ | ⟨i, j, haccept, -⟩
    · rw [herror] at hrun
      cases hrun
    · obtain ⟨hlt, hconcerns, hfirst, hsecond, hi, hj, -, hlivei, hlivej⟩ :=
        accept_eq_ok.mp haccept
      exact ⟨hlt, hconcerns, hfirst, hsecond, ready_iff.mpr ⟨i, hi, hlivei⟩,
        ready_iff.mpr ⟨j, hj, hlivej⟩⟩
  · rintro ⟨hlt, hconcerns, hfirst, hsecond, hreadyi, hreadyj⟩
    obtain ⟨i, hi, hlivei⟩ := ready_iff.mp hreadyi
    obtain ⟨j, hj, hlivej⟩ := ready_iff.mp hreadyj
    have hne : i ≠ j := indexOfKey_ne (UInt64.ne_of_lt hlt) hi hj
    exact ⟨_, run_of_ok (accept_eq_ok.mpr
      ⟨hlt, hconcerns, hfirst, hsecond, hi, hj, hne, hlivei, hlivej⟩)⟩

/-- **A restore of two devices is atomic and framed.** A restore that fails leaves the bus as it
was.  One that succeeds leaves the snapshots at the two BARs; every device in another slot, the
position and the range of every device and the queue of events are as before. -/
theorem atomic_and_framed (restore : TwoDeviceRestore) (bus : MmioBus) (checkpoints : Checkpoints) :
    match (restore.run checkpoints).run bus with
    | .error _ bus' => bus' = bus
    | .ok _ bus' =>
        bus'.deviceAt checkpoints.1.1 = some checkpoints.1.2 ∧
        bus'.deviceAt checkpoints.2.1 = some checkpoints.2.2 ∧
        (∀ slot, (bus.indexAt checkpoints.1.1).map Slot.blk ≠ some slot →
          (bus.indexAt checkpoints.2.1).map Slot.blk ≠ some slot →
          bus'.device? slot = bus.device? slot) ∧
        bus'.layout = bus.layout ∧ bus'.virtioEvents = bus.virtioEvents := by
  rcases run_cases restore bus checkpoints with ⟨e, herror⟩ | ⟨i, j, haccept, hok⟩
  · rw [herror]
  · rw [hok]
    obtain ⟨hlt, -, hfirst, hsecond, hi, hj, -⟩ := accept_eq_ok.mp haccept
    have hne : checkpoints.1.1 ≠ checkpoints.2.1 := UInt64.ne_of_lt hlt
    refine ⟨?_, ?_, ?_, ?_, rfl⟩
    · rw [← hfirst.bar0] at hi hne ⊢
      rw [← hsecond.bar0] at hj hne
      exact deviceAt_first_withTwo hne hi hj
    · rw [← hfirst.bar0] at hi
      rw [← hsecond.bar0] at hj ⊢
      exact deviceAt_second_withTwo hi hj
    · intro slot hslot hslot'
      rw [hi] at hslot
      rw [hj] at hslot'
      exact device?_withTwo (fun h => hslot (h ▸ rfl)) (fun h => hslot' (h ▸ rfl))
    · exact layout_of_accept haccept

/-! ### Where the disks are -/

/-- A snapshot that no token is for has its disk in memory. -/
def OtherInMemory (checkpoint : UInt64 × VirtioBlkDevice) : TwoDeviceRestore → Prop
  | quiescent => True
  | pending _ token => checkpoint.1 ≠ token.bar0 → checkpoint.2.persistentBacking = none

theorem Admits.inMemory_iff (h : restore.Admits checkpoint) :
    checkpoint.2.persistentBacking = none ↔ restore.OtherInMemory checkpoint := by
  cases restore with
  | quiescent => exact iff_of_true h.2.1 trivial
  | pending kind token =>
      obtain ⟨-, hadmits⟩ := h
      refine ⟨fun hmemory _ => hmemory, fun hother => ?_⟩
      split_ifs at hadmits with htoken
      · exact hadmits.1
      · exact hother htoken

theorem inMemory_run_iff {bus' : MmioBus} (h : bus.InMemory)
    (hrun : (restore.run checkpoints).run bus = .ok () bus') :
    bus'.InMemory ↔ restore.OtherInMemory checkpoints.1 ∧ restore.OtherInMemory checkpoints.2 := by
  rcases run_cases restore bus checkpoints with ⟨e, herror⟩ | ⟨i, j, haccept, hok⟩
  · rw [herror] at hrun
    cases hrun
  · rw [hok] at hrun
    cases hrun
    obtain ⟨-, -, hfirst, hsecond, hi, hj, hne, -⟩ := accept_eq_ok.mp haccept
    rw [h.withTwo_iff hne (lt_of_indexOfKey hi) (lt_of_indexOfKey hj), hfirst.inMemory_iff,
      hsecond.inMemory_iff]

end TwoDeviceRestore

/-- **Restores and external storage.** On a bus whose disks are all in memory, a restore of one
device leaves them so.  A restore of two devices does exactly when no snapshot other than the one of
its token has its disk in a file. -/
theorem restores_install_no_file_iff (bus : MmioBus) (h : bus.InMemory) :
    (∀ address snapshot found bus',
      (MmioBus.restoreVirtioBlkCheckpointAt address snapshot).run bus = .ok found bus' →
      bus'.InMemory) ∧
    ∀ (restore : TwoDeviceRestore) (checkpoints : MmioBus.Checkpoints) (bus' : MmioBus),
      (restore.run checkpoints).run bus = .ok () bus' →
      (bus'.InMemory ↔
        restore.OtherInMemory checkpoints.1 ∧ restore.OtherInMemory checkpoints.2) := by
  refine ⟨fun address snapshot found bus' hrun => ?_, fun restore checkpoints bus' hrun =>
    restore.inMemory_run_iff h hrun⟩
  have hcases := bus.restoreVirtioBlkCheckpointAt_cases address snapshot
  rw [hrun] at hcases
  rcases hcases with hsame | ⟨i, -, hbacking, -, hset⟩
  · exact (show bus' = bus from hsame) ▸ h
  · exact (show bus' = _ from hset) ▸ h.withBlk hbacking

theorem inMemory_twoBlkBus (first second : UInt64) :
    (MmioBus.twoBlkBus first second).InMemory := by
  simp [MmioBus.InMemory, MmioBus.twoBlkBus, VirtioBlkDevice.new]

/-- A snapshot of a notified device at the first BAR, and one with its disk in a file. -/
def fileCheckpoints : MmioBus.Checkpoints :=
  ((0x1000, { VirtioBlkDevice.new 0x1000 with notifyPending := true }),
    (0x2000, { VirtioBlkDevice.new 0x2000 with persistentBacking := some "disk.img" }))

/-- The token for the notified device. -/
def firstNotified : VirtioBlkPendingNotificationToken := ⟨0x1000, 0, 0, 0, by decide⟩

/-- The same with a device whose completion is pending. -/
def completedFileCheckpoints : MmioBus.Checkpoints :=
  ((0x1000, { VirtioBlkDevice.new 0x1000 with
      lastAvailIdx := 1, lastUsedIdx := 1, isrStatus := virtioIsrQueueInterrupt }),
    fileCheckpoints.2)

/-- The token for the completion. -/
def firstCompleted : VirtioBlkPendingCompletionToken := ⟨0x1000, 0, 1, 1, by decide⟩

/-- Both restores with a token install the disk in the file on a bus with all disks in memory. -/
theorem token_restores_install_file :
    (MmioBus.twoBlkBus 0x1000 0x2000).InMemory ∧
    (∃ bus', (MmioBus.restoreTwoWithPending fileCheckpoints firstNotified).run
        (.twoBlkBus 0x1000 0x2000) = .ok () bus' ∧
      (bus'.deviceAt 0x2000).map VirtioBlkDevice.persistentBacking = some (some "disk.img")) ∧
    ∃ bus', (MmioBus.restoreTwoWithPending completedFileCheckpoints firstCompleted).run
        (.twoBlkBus 0x1000 0x2000) = .ok () bus' ∧
      (bus'.deviceAt 0x2000).map VirtioBlkDevice.persistentBacking = some (some "disk.img") := by
  exact ⟨inMemory_twoBlkBus _ _, ⟨_, rfl, rfl⟩, ⟨_, rfl, rfl⟩⟩

/-- With the other disk in memory the restore keeps all disks there. -/
theorem token_restore_in_memory :
    ∃ bus', (MmioBus.restoreTwoWithPending (fileCheckpoints.1, (0x2000, .new 0x2000))
        firstNotified).run (.twoBlkBus 0x1000 0x2000) = .ok () bus' ∧ bus'.InMemory :=
  ⟨_, rfl, ((restores_install_no_file_iff _ (inMemory_twoBlkBus 0x1000 0x2000)).2
    (.pending .notification firstNotified) (fileCheckpoints.1, (0x2000, .new 0x2000)) _ rfl).mpr
    ⟨fun h => absurd rfl h, fun _ => rfl⟩⟩

end MiniHypervisor.Mmio
