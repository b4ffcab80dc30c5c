import MiniHypervisor.VirtioBlk.Device

/-!
# Checkpoints of the virtio-blk device

The state of a memory-backed virtio-blk device that a checkpoint stores, and the tokens that stand
for a completion or a notification which is pending when the device is captured
(`src/pci/virtio_blk_checkpoint.rs`).  A device without a token is captured only when nothing is
pending.
-/

namespace MiniHypervisor.VirtioBlk

open Bytes Control

def virtioBlkBarSize : ℕ := 0x1000

/-! ### Errors -/

inductive VirtioBlkCheckpointStateError where
  | externalBackingUnsupported
  | notQuiescent
  | pendingCompletionWithoutToken (isrStatus : UInt8)
  | invalidPendingCompletionToken (bar0 : UInt64) (queue lastAvailIdx lastUsedIdx : UInt16)
  | invalidPendingNotificationToken (bar0 : UInt64) (queue lastAvailIdx lastUsedIdx : UInt16)
  | misalignedBar (bar0 : UInt64)
  | unsupportedDriverFeatures (features : UInt64)
  | invalidStatus (status : UInt8)
  | invalidQueueSize (size : UInt16)
  | queueEnabledWithoutAddresses
  | driverOkWithoutReadyQueue
  | invalidIsrStatus (status : UInt8)
  deriving DecidableEq, Repr

/-- The fields of a token in an error text. -/
def tokenText (bar0 : UInt64) (queue lastAvailIdx lastUsedIdx : UInt16) : String :=
  "bar=" ++ hexText bar0.toNat ++ " queue=" ++ toString queue.toNat ++ " avail=" ++
    toString lastAvailIdx.toNat ++ " used=" ++ toString lastUsedIdx.toNat

/-- `Display` of `VirtioBlkCheckpointStateError`. -/
def VirtioBlkCheckpointStateError.text : VirtioBlkCheckpointStateError → String
  | externalBackingUnsupported =>
      "virtio-blk checkpoint does not serialize external file-backed storage identity"
  | notQuiescent => "virtio-blk checkpoint state is not quiescent"
  | pendingCompletionWithoutToken isrStatus =>
      "virtio-blk checkpoint has pending ISR status " ++ hexText isrStatus.toNat ++
        " without a completion-delivery token"
  | invalidPendingCompletionToken bar0 queue avail used =>
      "virtio-blk pending-completion token is invalid: " ++ tokenText bar0 queue avail used
  | invalidPendingNotificationToken bar0 queue avail used =>
      "virtio-blk pending-notification token is invalid: " ++ tokenText bar0 queue avail used
  | misalignedBar bar0 =>
      "virtio-blk BAR " ++ hexText bar0.toNat ++ " is not " ++ hexText virtioBlkBarSize ++
        "-aligned"
  | unsupportedDriverFeatures features =>
      "virtio-blk checkpoint contains unsupported driver features " ++ hexText features.toNat
  | invalidStatus status =>
      "virtio-blk checkpoint contains invalid device status " ++ hexText status.toNat
  | invalidQueueSize size =>
      "virtio-blk checkpoint queue size " ++ toString size.toNat ++
        " is not a bounded non-zero power of two"
  | queueEnabledWithoutAddresses =>
      "virtio-blk checkpoint enables the queue without complete descriptor/driver/device addresses"
  | driverOkWithoutReadyQueue =>
      "virtio-blk checkpoint reports DRIVER_OK without a negotiated ready queue"
  | invalidIsrStatus status =>
      "virtio-blk checkpoint contains unsupported ISR status bits " ++ hexText status.toNat

/-! ### Quiescence

The predicates of `src/pci/virtio_blk_write_readback.rs`, lines 13-34, and
`src/pci/virtio_blk_file_backed.rs`, lines 161-164. -/

namespace VirtioBlkDevice

variable (device : VirtioBlkDevice)

def checkpointBackingPortable : Bool := device.persistentBacking.isNone

def checkpointQuiescent : Bool := !device.notifyPending

def checkpointFullyQuiescent : Bool := !device.notifyPending && device.isrStatus == 0

def checkpointCompletionPending : Bool :=
  !device.notifyPending && device.isrStatus == virtioIsrQueueInterrupt &&
    device.lastAvailIdx != 0 && device.lastAvailIdx == device.lastUsedIdx

def checkpointNotificationPending : Bool :=
  device.notifyPending && device.isrStatus == 0 && device.lastAvailIdx == device.lastUsedIdx

end VirtioBlkDevice

/-! ### Stored states -/

/-- `VirtioBlkCheckpointState`. -/
@[ext]
structure VirtioBlkCheckpointState where
  bar0 : UInt64
  deviceFeatureSelect : UInt32
  driverFeatureSelect : UInt32
  driverFeatures : UInt64
  status : UInt8
  queueSelect : UInt16
  queueSize : UInt16
  queueEnabled : Bool
  queueDesc : UInt64
  queueDriver : UInt64
  queueDevice : UInt64
  lastAvailIdx : UInt16
  lastUsedIdx : UInt16
  isrStatus : UInt8
  backing : FixedBytes virtioBlkBackingSize
  deriving DecidableEq, Repr

namespace VirtioBlkCheckpointState

variable (state : VirtioBlkCheckpointState)

/-- `VirtioBlkCheckpointState::validate` (lines 425-472). -/
def validate : Except VirtioBlkCheckpointStateError Unit := do
  rejectIf (state.bar0.toNat % virtioBlkBarSize ≠ 0) (.misalignedBar state.bar0)
  rejectIf (state.driverFeatures &&& ~~~virtioBlkSupportedFeatures ≠ 0)
    (.unsupportedDriverFeatures state.driverFeatures)
  rejectIf (state.status &&& ~~~virtioStatusKnown ≠ 0 ∨
      (state.status &&& virtioStatusDriver ≠ 0 ∧ state.status &&& virtioStatusAcknowledge = 0) ∨
      (state.status &&& virtioStatusFeaturesOk ≠ 0 ∧
        (state.status &&& (virtioStatusAcknowledge ||| virtioStatusDriver) ≠
            virtioStatusAcknowledge ||| virtioStatusDriver ∨
          state.driverFeatures &&& virtioFVersion1 = 0)))
    (.invalidStatus state.status)
  rejectIf (state.queueSize = 0 ∨ state.queueSize > virtioQueueMaxSize ∨
      ¬ state.queueSize.toNat.isPowerOfTwo)
    (.invalidQueueSize state.queueSize)
  rejectIf (state.queueEnabled ∧
      (state.queueDesc = 0 ∨ state.queueDriver = 0 ∨ state.queueDevice = 0))
    .queueEnabledWithoutAddresses
  rejectIf (state.status &&& virtioStatusDriverOk ≠ 0 ∧
      (state.status &&& virtioStatusFeaturesOk = 0 ∨ ¬ state.queueEnabled ∨
        state.driverFeatures &&& virtioFVersion1 = 0))
    .driverOkWithoutReadyQueue
  rejectIf (state.isrStatus &&& ~~~virtioIsrQueueInterrupt ≠ 0) (.invalidIsrStatus state.isrStatus)

/-- The device that a state stands for, with nothing notified. -/
def toDevice : VirtioBlkDevice where
  bar0 := state.bar0
  deviceFeatureSelect := state.deviceFeatureSelect
  driverFeatureSelect := state.driverFeatureSelect
  driverFeatures := state.driverFeatures
  status := state.status
  queueSelect := state.queueSelect
  queueSize := state.queueSize
  queueEnabled := state.queueEnabled
  queueDesc := state.queueDesc
  queueDriver := state.queueDriver
  queueDevice := state.queueDevice
  notifyPending := false
  lastAvailIdx := state.lastAvailIdx
  lastUsedIdx := state.lastUsedIdx
  isrStatus := state.isrStatus
  backing := state.backing
  persistentBacking := none

/-- `VirtioBlkCheckpointState::materialize` (lines 402-423). -/
def materialize : Except VirtioBlkCheckpointStateError VirtioBlkDevice := do
  state.validate
  return state.toDevice

/-- The state of a device. -/
def ofDevice (device : VirtioBlkDevice) : VirtioBlkCheckpointState where
  bar0 := device.bar0
  deviceFeatureSelect := device.deviceFeatureSelect
  driverFeatureSelect := device.driverFeatureSelect
  driverFeatures := device.driverFeatures
  status := device.status
  queueSelect := device.queueSelect
  queueSize := device.queueSize
  queueEnabled := device.queueEnabled
  queueDesc := device.queueDesc
  queueDriver := device.queueDriver
  queueDevice := device.queueDevice
  lastAvailIdx := device.lastAvailIdx
  lastUsedIdx := device.lastUsedIdx
  isrStatus := device.isrStatus
  backing := device.backing

/-- `VirtioBlkCheckpointState::capture_semantic` (lines 366-389). -/
def captureSemantic (device : VirtioBlkDevice) :
    Except VirtioBlkCheckpointStateError VirtioBlkCheckpointState := do
  rejectIf (device.checkpointBackingPortable = false) .externalBackingUnsupported
  (ofDevice device).validate
  return ofDevice device

/-- `VirtioBlkCheckpointState::capture` (lines 325-340). -/
def capture (device : VirtioBlkDevice) :
    Except VirtioBlkCheckpointStateError VirtioBlkCheckpointState := do
  rejectIf (device.checkpointBackingPortable = false) .externalBackingUnsupported
  rejectIf (device.checkpointQuiescent = false) .notQuiescent
  rejectIf (device.checkpointFullyQuiescent = false)
    (.pendingCompletionWithoutToken device.isrStatus)
  captureSemantic device

variable {state} {device : VirtioBlkDevice}

/-- What a stored state has to satisfy. -/
structure Valid (state : VirtioBlkCheckpointState) : Prop where
  aligned : state.bar0.toNat % virtioBlkBarSize = 0
  supported : state.driverFeatures &&& ~~~virtioBlkSupportedFeatures = 0
  known : state.status &&& ~~~virtioStatusKnown = 0
  driver : state.status &&& virtioStatusDriver ≠ 0 → state.status &&& virtioStatusAcknowledge ≠ 0
  featuresOk : state.status &&& virtioStatusFeaturesOk ≠ 0 →
    state.status &&& (virtioStatusAcknowledge ||| virtioStatusDriver) =
        virtioStatusAcknowledge ||| virtioStatusDriver ∧
      state.driverFeatures &&& virtioFVersion1 ≠ 0
  size : ∃ k ≤ 3, state.queueSize.toNat = 2 ^ k
  rings : state.queueEnabled = true →
    state.queueDesc ≠ 0 ∧ state.queueDriver ≠ 0 ∧ state.queueDevice ≠ 0
  driverOk : state.status &&& virtioStatusDriverOk ≠ 0 →
    state.status &&& virtioStatusFeaturesOk ≠ 0 ∧ state.queueEnabled = true
  isr : state.isrStatus &&& ~~~virtioIsrQueueInterrupt = 0

theorem validate_eq_ok : state.validate = .ok () ↔ state.Valid := by
  simp only [validate, rejectIf_bind_eq_ok, rejectIf_eq_ok, RegisterSpec.queueSize_iff]
  simp only [not_or, not_and, not_not, ne_eq]
  constructor
  · rintro ⟨haligned, hsupported, ⟨hknown, hdriver, hfeatures⟩, hsize, hrings, hdriverOk, hisr⟩
    exact ⟨haligned, hsupported, hknown, hdriver, hfeatures, hsize, hrings,
      fun hset => ⟨(hdriverOk hset).1, (hdriverOk hset).2.1⟩, hisr⟩
  · intro h
    refine ⟨h.aligned, h.supported, ⟨h.known, h.driver, h.featuresOk⟩, h.size, h.rings, ?_, h.isr⟩
    -- `VERSION_1` under `DRIVER_OK` is checked twice; it follows from `FEATURES_OK`.
    intro hset
    obtain ⟨hfeaturesOk, henabled⟩ := h.driverOk hset
    exact ⟨hfeaturesOk, henabled, (h.featuresOk hfeaturesOk).2⟩

theorem captureSemantic_eq_ok :
    captureSemantic device = .ok state ↔
      device.persistentBacking = none ∧ state = ofDevice device ∧ state.validate = .ok () := by
  simp only [captureSemantic, bind_eq_ok, rejectIf_eq_ok, pure, Except.pure, Except.ok.injEq]
  simp only [VirtioBlkDevice.checkpointBackingPortable, Bool.not_eq_false,
    Option.isNone_iff_eq_none]
  constructor
  · rintro ⟨_, hportable, _, hvalid, rfl⟩
    exact ⟨hportable, rfl, hvalid⟩
  · rintro ⟨hportable, rfl, hvalid⟩
    exact ⟨(), hportable, (), hvalid, rfl⟩

/-- **Captured devices.** A device is captured without a token exactly when its backing is in
memory, nothing is notified, no interrupt is pending and its state is valid. -/
theorem capture_eq_ok :
    capture device = .ok state ↔
      device.persistentBacking = none ∧ device.notifyPending = false ∧ device.isrStatus = 0 ∧
        state = ofDevice device ∧ state.validate = .ok () := by
  simp only [capture, rejectIf_bind_eq_ok, captureSemantic_eq_ok]
  simp only [VirtioBlkDevice.checkpointBackingPortable, VirtioBlkDevice.checkpointQuiescent,
    VirtioBlkDevice.checkpointFullyQuiescent, Bool.not_eq_false, Option.isNone_iff_eq_none,
    Bool.and_eq_true, Bool.not_eq_true', beq_iff_eq]
  constructor
  · rintro ⟨-, -, ⟨hnotify, hisr⟩, hportable, rfl, hvalid⟩
    exact ⟨hportable, hnotify, hisr, rfl, hvalid⟩
  · rintro ⟨hportable, hnotify, hisr, rfl, hvalid⟩
    exact ⟨hportable, hnotify, ⟨hnotify, hisr⟩, hportable, rfl, hvalid⟩

theorem materialize_eq_ok :
    state.materialize = .ok device ↔ state.validate = .ok () ∧ device = state.toDevice := by
  simp only [materialize, bind_eq_ok, pure, Except.pure, Except.ok.injEq]
  constructor
  · rintro ⟨_, hvalid, rfl⟩
    exact ⟨hvalid, rfl⟩
  · rintro ⟨hvalid, rfl⟩
    exact ⟨(), hvalid, rfl⟩

end VirtioBlkCheckpointState

/-! ### Tokens -/

/-- What a token says is pending. -/
inductive PendingKind where
  | completion
  | notification
  deriving DecidableEq, Repr

namespace PendingKind

/-- The queue and indices a token may name: the request queue, with nothing in flight, and for a
completion after a first request. -/
def PartsOk (kind : PendingKind) (queue lastAvailIdx lastUsedIdx : UInt16) : Prop :=
  queue = virtioBlkQueueIndex ∧ (kind = completion → lastAvailIdx ≠ 0) ∧
    lastAvailIdx = lastUsedIdx

instance (kind : PendingKind) (queue avail used : UInt16) :
    Decidable (kind.PartsOk queue avail used) :=
  inferInstanceAs (Decidable (_ ∧ (_ → _) ∧ _))

/-- The error for an invalid token. -/
def invalid : PendingKind → UInt64 → UInt16 → UInt16 → UInt16 → VirtioBlkCheckpointStateError
  | completion => .invalidPendingCompletionToken
  | notification => .invalidPendingNotificationToken

/-- The interrupt status of a captured device with something pending. -/
def isrStatus : PendingKind → UInt8
  | completion => virtioIsrQueueInterrupt
  | notification => 0

/-- Whether it is pending at a device. -/
def pendingAt : PendingKind → VirtioBlkDevice → Bool
  | completion => VirtioBlkDevice.checkpointCompletionPending
  | notification => VirtioBlkDevice.checkpointNotificationPending

end PendingKind

/-- A token; only `PendingToken.fromParts` makes one. -/
structure PendingToken (kind : PendingKind) where
  bar0 : UInt64
  queue : UInt16
  lastAvailIdx : UInt16
  lastUsedIdx : UInt16
  partsOk : kind.PartsOk queue lastAvailIdx lastUsedIdx
  deriving DecidableEq, Repr

abbrev VirtioBlkPendingCompletionToken : Type := PendingToken .completion

abbrev VirtioBlkPendingNotificationToken : Type := PendingToken .notification

namespace PendingToken

variable {kind : PendingKind} (token : PendingToken kind)

/-- `invalid` (lines 195-202 and 295-302). -/
def invalid : VirtioBlkCheckpointStateError :=
  kind.invalid token.bar0 token.queue token.lastAvailIdx token.lastUsedIdx

/-- `from_parts` (lines 126-143 and 227-243). -/
def fromParts (kind : PendingKind) (bar0 : UInt64) (queue lastAvailIdx lastUsedIdx : UInt16) :
    Except VirtioBlkCheckpointStateError (PendingToken kind) :=
  if h : kind.PartsOk queue lastAvailIdx lastUsedIdx then
    .ok {
      bar0
      queue
      lastAvailIdx
      lastUsedIdx
      partsOk := h }
  else .error (kind.invalid bar0 queue lastAvailIdx lastUsedIdx)

/-- `validate_device` (lines 145-158 and 245-258). -/
def validateDevice (device : VirtioBlkDevice) : Except VirtioBlkCheckpointStateError Unit :=
  rejectIf (token.bar0 ≠ device.bar0 ∨ token.queue ≠ virtioBlkQueueIndex ∨
      token.lastAvailIdx ≠ device.lastAvailIdx ∨ token.lastUsedIdx ≠ device.lastUsedIdx ∨
      kind.pendingAt device = false)
    token.invalid

/-- `validate_state` (lines 160-173 and 260-273). -/
def validateState (state : VirtioBlkCheckpointState) :
    Except VirtioBlkCheckpointStateError Unit :=
  rejectIf (token.bar0 ≠ state.bar0 ∨ token.queue ≠ virtioBlkQueueIndex ∨
      token.lastAvailIdx ≠ state.lastAvailIdx ∨ token.lastUsedIdx ≠ state.lastUsedIdx ∨
      state.isrStatus ≠ kind.isrStatus)
    token.invalid

/-- `capture` (lines 113-124 and 214-225). -/
def capture (kind : PendingKind) (device : VirtioBlkDevice) :
    Except VirtioBlkCheckpointStateError (PendingToken kind) := do
  let token ←
    fromParts kind device.bar0 virtioBlkQueueIndex device.lastAvailIdx device.lastUsedIdx
  token.validateDevice device
  return token

/-- `VirtioBlkCheckpointState::capture_with_pending_completion` and
`VirtioBlkCheckpointState::capture_with_pending_notification` (lines 342-364). -/
def captureWithPending (kind : PendingKind) (device : VirtioBlkDevice) :
    Except VirtioBlkCheckpointStateError (VirtioBlkCheckpointState × PendingToken kind) := do
  rejectIf (device.checkpointBackingPortable = false) .externalBackingUnsupported
  let token ← capture kind device
  let state ← VirtioBlkCheckpointState.captureSemantic device
  token.validateState state
  return (state, token)

/-- `VirtioBlkCheckpointState::materialize_with_pending_notification` (lines 391-400). -/
def materializeNotified (token : VirtioBlkPendingNotificationToken)
    (state : VirtioBlkCheckpointState) : Except VirtioBlkCheckpointStateError VirtioBlkDevice := do
  token.validateState state
  let device := { ← state.materialize with notifyPending := true }
  token.validateDevice device
  return device

variable {token} {bar0 : UInt64} {queue lastAvailIdx lastUsedIdx : UInt16}

theorem fromParts_eq_ok :
    fromParts kind bar0 queue lastAvailIdx lastUsedIdx = .ok token ↔
      token.bar0 = bar0 ∧ token.queue = queue ∧ token.lastAvailIdx = lastAvailIdx ∧
        token.lastUsedIdx = lastUsedIdx := by
  obtain ⟨bar0', queue', avail', used', hparts⟩ := token
  unfold fromParts
  constructor
  · split_ifs with h
    · rintro ⟨⟩
      exact ⟨rfl, rfl, rfl, rfl⟩
    · nofun
  · rintro ⟨rfl, rfl, rfl, rfl⟩
    exact dif_pos hparts

theorem validateDevice_eq_ok {device : VirtioBlkDevice} :
    token.validateDevice device = .ok () ↔
      token.bar0 = device.bar0 ∧ token.lastAvailIdx = device.lastAvailIdx ∧
        token.lastUsedIdx = device.lastUsedIdx ∧ kind.pendingAt device = true := by
  have hqueue : token.queue = virtioBlkQueueIndex := token.partsOk.1
  simp only [validateDevice, rejectIf_eq_ok, not_or, not_not, hqueue, true_and,
    Bool.not_eq_false, ne_eq]

theorem capture_eq_ok {device : VirtioBlkDevice} :
    capture kind device = .ok token ↔ token.validateDevice device = .ok () := by
  simp only [capture, bind_eq_ok, fromParts_eq_ok, pure, Except.pure, Except.ok.injEq]
  constructor
  · rintro ⟨_, -, _, hvalid, rfl⟩
    exact hvalid
  · intro hvalid
    obtain ⟨hbar, havail, hused, -⟩ := validateDevice_eq_ok.mp hvalid
    exact ⟨token, ⟨hbar, token.partsOk.1, havail, hused⟩, (), hvalid, rfl⟩

theorem exists_validateDevice_iff {device : VirtioBlkDevice} :
    (∃ token : PendingToken kind, token.validateDevice device = .ok ()) ↔
      kind.PartsOk virtioBlkQueueIndex device.lastAvailIdx device.lastUsedIdx ∧
        kind.pendingAt device = true := by
  simp only [validateDevice_eq_ok]
  constructor
  · rintro ⟨⟨bar0, queue, avail, used, hparts⟩, -, rfl, rfl, hpending⟩
    exact ⟨hparts.1 ▸ hparts, hpending⟩
  · rintro ⟨hparts, hpending⟩
    exact ⟨⟨device.bar0, _, _, _, hparts⟩, rfl, rfl, rfl, hpending⟩

theorem validateState_eq_ok {state : VirtioBlkCheckpointState} :
    token.validateState state = .ok () ↔
      token.bar0 = state.bar0 ∧ token.lastAvailIdx = state.lastAvailIdx ∧
        token.lastUsedIdx = state.lastUsedIdx ∧ state.isrStatus = kind.isrStatus := by
  have hqueue : token.queue = virtioBlkQueueIndex := token.partsOk.1
  simp only [validateState, rejectIf_eq_ok, not_or, not_not, hqueue, true_and, ne_eq]

end PendingToken

end MiniHypervisor.VirtioBlk
