import MiniHypervisor.Schema.Devices
import MiniHypervisor.VirtioBlk.HostIndependence

/-!
# Migration of a device

A device is captured, its state is encoded, the bytes are decoded elsewhere and a device is
materialized from them.  There are three routes.  A device with nothing pending is captured as it
is; one with a completion or a notification pending is captured together with a token.  The
captured state has no notify flag: a plain capture requires that it is clear, a completion token
that it is clear and the interrupt status is set, and a notification token that it is set, so the
route says what the flag was.

## Main results

* `migration_preserves_behaviour` : the three routes.
-/

namespace MiniHypervisor.Schema

open Bytes Control VirtioBlk

variable {device : VirtioBlkDevice} {state : VirtioBlkCheckpointState} {kind : PendingKind}

/-! ### Captured devices -/

theorem toDevice_ofDevice (hbacking : device.persistentBacking = none)
    (hnotify : device.notifyPending = false) :
    (VirtioBlkCheckpointState.ofDevice device).toDevice = device := by
  obtain ⟨⟨⟩, _, _, _⟩ := device
  subst hbacking hnotify
  rfl

/-- A device captured with a token is memory-backed, its state is valid, and the token concerns
both. -/
theorem of_captureWithPending {token : PendingToken kind}
    (h : PendingToken.captureWithPending kind device = .ok (state, token)) :
    device.persistentBacking = none ∧ state = .ofDevice device ∧ state.validate = .ok () ∧
      token.validateDevice device = .ok () ∧ token.validateState state = .ok () := by
  simp only [PendingToken.captureWithPending, PendingToken.capture, bind_eq_ok,
    VirtioBlkCheckpointState.captureSemantic_eq_ok, pure, Except.pure, Except.ok.injEq,
    Prod.mk.injEq] at h
  obtain ⟨_, -, _, ⟨_, -, _, hdevice, rfl⟩, _, ⟨hbacking, rfl, hvalid⟩, _, hstate, rfl, rfl⟩ := h
  exact ⟨hbacking, rfl, hvalid, hdevice, hstate⟩

theorem notifyPending_of_completion
    (h : PendingKind.completion.pendingAt device = true) : device.notifyPending = false := by
  simp only [PendingKind.pendingAt, VirtioBlkDevice.checkpointCompletionPending,
    Bool.and_eq_true, Bool.not_eq_true'] at h
  exact h.1.1.1

theorem notifyPending_of_notification
    (h : PendingKind.notification.pendingAt device = true) : device.notifyPending = true := by
  simp only [PendingKind.pendingAt, VirtioBlkDevice.checkpointNotificationPending,
    Bool.and_eq_true] at h
  exact h.1.1

/-- The notify flag that a notification token puts back is the one that the capture dropped. -/
theorem materializeNotified_ofDevice {token : VirtioBlkPendingNotificationToken}
    (hbacking : device.persistentBacking = none)
    (hvalid : (VirtioBlkCheckpointState.ofDevice device).validate = .ok ())
    (hdevice : token.validateDevice device = .ok ())
    (hstate : token.validateState (.ofDevice device) = .ok ()) :
    token.materializeNotified (.ofDevice device) = .ok device := by
  have hnotify := notifyPending_of_notification (PendingToken.validateDevice_eq_ok.mp hdevice).2.2.2
  have hsame : { (VirtioBlkCheckpointState.ofDevice device).toDevice with
      notifyPending := true } = device := by
    obtain ⟨⟨⟩, _, _, _⟩ := device
    subst hbacking hnotify
    rfl
  have hmaterialize := VirtioBlkCheckpointState.materialize_eq_ok.mpr ⟨hvalid, rfl⟩
  rw [PendingToken.materializeNotified, bind_of_ok hstate, bind_of_ok hmaterialize, hsame,
    bind_of_ok hdevice]
  rfl

/-! ### The three routes -/

/-- The captured state is encoded and decoded to itself, and what is materialized from it equals
the captured device and behaves like it. -/
def Migrates (device : VirtioBlkDevice) (state : VirtioBlkCheckpointState)
    (materialize : VirtioBlkCheckpointState →
      Except VirtioBlkCheckpointStateError VirtioBlkDevice) : Prop :=
  ∃ bytes received restored, encodeDeviceState state = .ok bytes ∧
    decodeDeviceState bytes = .ok received ∧ materialize received = .ok restored ∧
      restored = device ∧ BehavesAlike device restored

/-- A valid state crosses as bytes unchanged, so the route is right if materializing gives the
device back. -/
theorem migrates_of_materialize
    {materialize : VirtioBlkCheckpointState → Except VirtioBlkCheckpointStateError VirtioBlkDevice}
    (hbacking : device.persistentBacking = none) (hvalid : state.validate = .ok ())
    (h : materialize state = .ok device) : Migrates device state materialize :=
  ⟨_, state, device, encodeDeviceState_eq_ok.mpr ⟨hvalid, rfl⟩,
    decodeDeviceState_eq_ok.mpr ⟨hvalid, rfl⟩, h, rfl, behavesAlike_self hbacking⟩

/-- **Migration preserves behaviour.** Whatever a device holds and however it is captured, with
nothing pending, with a pending completion or with a pending notification: its state crosses as
bytes and the device materialized from them, with the token where a notification is pending, is
the captured one in every field.  On any two hosts and for every continuation on equal guest
memory the two return the same results and leave the same memory. -/
theorem migration_preserves_behaviour (device : VirtioBlkDevice) :
    (∀ state, VirtioBlkCheckpointState.capture device = .ok state →
      Migrates device state VirtioBlkCheckpointState.materialize) ∧
    (∀ state token, PendingToken.captureWithPending .completion device = .ok (state, token) →
      Migrates device state VirtioBlkCheckpointState.materialize) ∧
    ∀ state token, PendingToken.captureWithPending .notification device = .ok (state, token) →
      Migrates device state (PendingToken.materializeNotified token) := by
  refine ⟨fun state h => ?_, fun state token h => ?_, fun state token h => ?_⟩
  · obtain ⟨hbacking, hnotify, -, rfl, hvalid⟩ := VirtioBlkCheckpointState.capture_eq_ok.mp h
    refine migrates_of_materialize hbacking hvalid ?_
    exact VirtioBlkCheckpointState.materialize_eq_ok.mpr
      ⟨hvalid, (toDevice_ofDevice hbacking hnotify).symm⟩
  · obtain ⟨hbacking, rfl, hvalid, hdevice, -⟩ := of_captureWithPending h
    have hnotify := notifyPending_of_completion (PendingToken.validateDevice_eq_ok.mp hdevice).2.2.2
    refine migrates_of_materialize hbacking hvalid ?_
    exact VirtioBlkCheckpointState.materialize_eq_ok.mpr
      ⟨hvalid, (toDevice_ofDevice hbacking hnotify).symm⟩
  · obtain ⟨hbacking, rfl, hvalid, hdevice, hstate⟩ := of_captureWithPending h
    exact migrates_of_materialize hbacking hvalid
      (materializeNotified_ofDevice hbacking hvalid hdevice hstate)

/-! ### A new device, a completion and a notification -/

/-- A new device after requests, with its notify flag and interrupt status as given. -/
def servedDevice (requests : UInt16) (notifyPending : Bool) (isrStatus : UInt8) :
    VirtioBlkDevice :=
  { VirtioBlkDevice.new 0x1000 with
    notifyPending
    lastAvailIdx := requests
    lastUsedIdx := requests
    isrStatus }

/-- The token of such a device. -/
def servedToken (kind : PendingKind) (requests : UInt16) (h : kind.PartsOk 0 requests requests) :
    PendingToken kind where
  bar0 := 0x1000
  queue := 0
  lastAvailIdx := requests
  lastUsedIdx := requests
  partsOk := h

theorem validate_servedDevice (requests : UInt16) (notifyPending : Bool) {isrStatus : UInt8}
    (h : isrStatus &&& ~~~virtioIsrQueueInterrupt = 0) :
    (VirtioBlkCheckpointState.ofDevice (servedDevice requests notifyPending isrStatus)).validate =
      .ok () := by
  simp only [VirtioBlkCheckpointState.validate, bind_eq_ok, rejectIf_eq_ok]
  simp only [VirtioBlkCheckpointState.ofDevice, servedDevice, VirtioBlkDevice.new]
  exact ⟨(), by decide, (), by decide, (), by decide, (), by decide, (), by decide, (), by decide,
    not_not.mpr h⟩

theorem captureWithPending_servedDevice {requests : UInt16} {notifyPending : Bool}
    (hparts : kind.PartsOk 0 requests requests)
    (hisr : kind.isrStatus &&& ~~~virtioIsrQueueInterrupt = 0)
    (hpending : kind.pendingAt (servedDevice requests notifyPending kind.isrStatus) = true) :
    PendingToken.captureWithPending kind (servedDevice requests notifyPending kind.isrStatus) =
      .ok (.ofDevice (servedDevice requests notifyPending kind.isrStatus),
        servedToken kind requests hparts) := by
  have hparts' : PendingToken.fromParts kind 0x1000 0 requests requests =
      .ok (servedToken kind requests hparts) :=
    PendingToken.fromParts_eq_ok.mpr ⟨rfl, rfl, rfl, rfl⟩
  have hdevice : (servedToken kind requests hparts).validateDevice
      (servedDevice requests notifyPending kind.isrStatus) = .ok () :=
    PendingToken.validateDevice_eq_ok.mpr ⟨rfl, rfl, rfl, hpending⟩
  have hstate : (servedToken kind requests hparts).validateState
      (.ofDevice (servedDevice requests notifyPending kind.isrStatus)) = .ok () :=
    PendingToken.validateState_eq_ok.mpr ⟨rfl, rfl, rfl, rfl⟩
  have hsemantic := VirtioBlkCheckpointState.captureSemantic_eq_ok.mpr
    ⟨rfl, rfl, validate_servedDevice requests notifyPending hisr⟩
  have hcapture : PendingToken.capture kind (servedDevice requests notifyPending kind.isrStatus) =
      .ok (servedToken kind requests hparts) :=
    (bind_of_ok hparts' _).trans (bind_of_ok hdevice _)
  exact (bind_of_ok hcapture _).trans <| (bind_of_ok hsemantic _).trans <| bind_of_ok hstate _

theorem servedDevice_migrates :
    (∃ state, VirtioBlkCheckpointState.capture (servedDevice 0 false 0) = .ok state ∧
      Migrates (servedDevice 0 false 0) state VirtioBlkCheckpointState.materialize) ∧
    (∃ state token, PendingToken.captureWithPending .completion (servedDevice 1 false 1) =
        .ok (state, token) ∧
      Migrates (servedDevice 1 false 1) state VirtioBlkCheckpointState.materialize) ∧
    ∃ state token, PendingToken.captureWithPending .notification (servedDevice 1 true 0) =
        .ok (state, token) ∧
      Migrates (servedDevice 1 true 0) state (PendingToken.materializeNotified token) := by
  have hidle : VirtioBlkCheckpointState.capture (servedDevice 0 false 0) = .ok _ :=
    VirtioBlkCheckpointState.capture_eq_ok.mpr
      ⟨rfl, rfl, rfl, rfl, validate_servedDevice 0 false (by decide)⟩
  have hcompletion : PendingToken.captureWithPending .completion (servedDevice 1 false 1) = .ok _ :=
    captureWithPending_servedDevice (by decide) (by decide) rfl
  have hnotification : PendingToken.captureWithPending .notification (servedDevice 1 true 0) =
    .ok _ := captureWithPending_servedDevice (by decide) (by decide) rfl
  exact ⟨⟨_, hidle, (migration_preserves_behaviour _).1 _ hidle⟩,
    ⟨_, _, hcompletion, (migration_preserves_behaviour _).2.1 _ _ hcompletion⟩,
    ⟨_, _, hnotification, (migration_preserves_behaviour _).2.2 _ _ hnotification⟩⟩

end MiniHypervisor.Schema
