import MiniHypervisor.Schema.Canonicality
import MiniHypervisor.Schema.Transactions

/-!
# Canonicality of the containers

Every container of a page+vCPU checkpoint, through all levels of nesting, accepts only strings that
it writes back unchanged, provided that the page+vCPU checkpoint and the vCPU state inside it are
written back unchanged.  For those two formats themselves see `Schema/Canonicality.lean`.
-/

namespace MiniHypervisor.Schema

open Bytes Control Kvm VirtioBlk

/-- The codec of the page+vCPU checkpoint. -/
def pageVcpuCodec : Codec VersionedPageVcpuCheckpointError VersionedPageVcpuCheckpointV1 :=
  ⟨VersionedPageVcpuCheckpointV1.encode, VersionedPageVcpuCheckpointV1.decode⟩

/-- The codec of the vCPU state. -/
def vcpuStateCodec : Codec VersionedVcpuStateSnapshotError VersionedVcpuStateSnapshotV1 :=
  ⟨VersionedVcpuStateSnapshotV1.encode, VersionedVcpuStateSnapshotV1.decode⟩

variable {bytes : List UInt8}

/-! ### One vCPU -/

theorem fullControllerCodec_canonical
    (h : pageVcpuCodec.Canonical (fullControllerFrame.firstPart bytes)) :
    fullControllerCodec.Canonical bytes := by
  intro v hdecode
  obtain ⟨hpad, guest, hguest, hlt, rfl⟩ :=
    VersionedFullControllerCheckpointV1.decode_eq_ok.mp hdecode
  have hsplit := VersionedFullControllerCheckpointV1.split_assemble (v := v)
    (VersionedPageVcpuCheckpointV1.ne_nil_of_decode hguest) hlt
  rw [(Frame.parts_of_split hsplit).2.1] at h
  exact VersionedFullControllerCheckpointV1.encode_eq_ok.mpr
    ⟨hpad, guest, h v.guest hguest, hlt, rfl⟩

/-! ### An idle machine

One zero page, vCPUs and controllers in their reset state, and devices that were never set up. -/

/-- A device at a BAR that was never set up, with an interrupt status. -/
def idleDevice (bar0 : UInt64) (isrStatus : UInt8) : VirtioBlkCheckpointState where
  bar0
  deviceFeatureSelect := 0
  driverFeatureSelect := 0
  driverFeatures := 0
  status := 0
  queueSelect := 0
  queueSize := 8
  queueEnabled := false
  queueDesc := 0
  queueDriver := 0
  queueDevice := 0
  lastAvailIdx := 0
  lastUsedIdx := 0
  isrStatus
  backing := .zeros _

/-- An IOAPIC in its reset state. -/
def idleIoapic : IoapicStateSnapshot where
  state := {
    baseAddress := 0
    ioregsel := 0
    id := 0
    irr := 0
    pad := 0
    redirtbl := List.replicate kvmIoapicNumPins 0
    redirtbl_length := List.length_replicate }

/-- One vCPU with its controllers. -/
def idleFullController : VersionedFullControllerCheckpointV1 where
  guest := unusableSegmentCheckpoint 0
  masterPic := ⟨default⟩
  slavePic := ⟨default⟩
  ioapic := idleIoapic
  lapic := ⟨.zeros _⟩

/-- The bytes of `idleFullController`. -/
def idleFullControllerBytes : List UInt8 :=
  fullControllerFrame.assemble () (unusableSegmentCheckpointBytes 0)
    (idleFullController.states.block ++ idleFullController.lapic.regs.1)

theorem length_idleGuest : (unusableSegmentCheckpointBytes 0).length = 4632 :=
  VersionedPageVcpuCheckpointV1.length_assemble valid_unusableSegmentCheckpoint
    (length_specialRegisterBlock _)

theorem idleGuest_ne_nil : unusableSegmentCheckpointBytes 0 ≠ [] := by
  rw [← List.length_pos_iff, length_idleGuest]
  decide

theorem idleGuest_canonical : pageVcpuCodec.Canonical (unusableSegmentCheckpointBytes 0) :=
  Codec.canonical_mk (decode_unusableSegmentCheckpoint (by decide +kernel))
    encode_unusableSegmentCheckpoint

theorem length_idleFullControllerBytes : idleFullControllerBytes.length = 5944 := by
  rw [idleFullControllerBytes, Frame.length_assemble, length_idleGuest,
    VersionedFullControllerCheckpointV1.length_tail]
  rfl

theorem decode_idleFullController :
    VersionedFullControllerCheckpointV1.decode idleFullControllerBytes = .ok idleFullController :=
  VersionedFullControllerCheckpointV1.decode_eq_ok.mpr ⟨rfl, _,
    decode_unusableSegmentCheckpoint (by decide +kernel), by rw [length_idleGuest]; decide, rfl⟩

/-- **Containers of one vCPU.** Each of the five formats writes an accepted string back unchanged,
if it writes back the page+vCPU checkpoint in the string. -/
theorem oneVcpu_containers_canonical (bytes : List UInt8) :
    (pageVcpuCodec.Canonical (fullControllerFrame.firstPart bytes) →
      fullControllerCodec.Canonical bytes) ∧
    (pageVcpuCodec.Canonical
        (fullControllerFrame.firstPart (fullControllerVirtioBlkFrame.firstPart bytes)) →
      fullControllerVirtioBlkCodec.Canonical bytes) ∧
    (pageVcpuCodec.Canonical
        (fullControllerFrame.firstPart (fullControllerTwoVirtioBlkFrame.firstPart bytes)) →
      fullControllerTwoVirtioBlkCodec.Canonical bytes) ∧
    (pageVcpuCodec.Canonical
        (fullControllerFrame.firstPart (fullControllerVirtioBlkFrame.firstPart
          (checkpointTransactionFrame.firstPart bytes))) →
      checkpointTransactionCodec.Canonical bytes) ∧
    (pageVcpuCodec.Canonical
        (fullControllerFrame.firstPart (fullControllerTwoVirtioBlkFrame.firstPart
          (twoDeviceCheckpointTransactionFrame.firstPart bytes))) →
      twoDeviceCheckpointTransactionCodec.Canonical bytes) := by
  refine ⟨fullControllerCodec_canonical, fun h => ?_, fun h => ?_, fun h => ?_, fun h => ?_⟩
  · exact fullControllerVirtioBlkCodec_canonical (fullControllerCodec_canonical h)
  · exact TwoDeviceCheckpoint.canonical (fullControllerCodec_canonical h)
  · exact checkpointTransactionCodec_canonical
      (fullControllerVirtioBlkCodec_canonical (fullControllerCodec_canonical h))
  · exact twoDeviceCheckpointTransactionCodec_canonical
      (TwoDeviceCheckpoint.canonical (fullControllerCodec_canonical h))

/-- A registration of the doorbell of the device at BAR zero. -/
def firstSpec : HostRegistrationSpec where
  doorbellAddress := 0x100
  doorbellLength := 2
  doorbellDatamatch := 0
  gsi := 0
  valid := ⟨by decide, by decide, by decide⟩

/-- A transaction of one vCPU and one device. -/
def idleTransaction : VersionedCheckpointTransactionV1 where
  checkpoint := {
    controller := idleFullController
    device := idleDevice 0 0 }
  registration := ⟨firstSpec⟩

/-- The bytes of `idleTransaction`. -/
def idleTransactionBytes : List UInt8 :=
  idleTransaction.assemble (idleTransaction.checkpoint.assemble idleFullControllerBytes)

theorem idleFullControllerBytes_ne_nil : idleFullControllerBytes ≠ [] :=
  Frame.assemble_ne_nil idleGuest_ne_nil

theorem decode_idleOneDevice :
    VersionedFullControllerVirtioBlkCheckpointV1.decode
        (idleTransaction.checkpoint.assemble idleFullControllerBytes) =
          .ok idleTransaction.checkpoint ∧
      fullControllerVirtioBlkFrame.firstPart
        (idleTransaction.checkpoint.assemble idleFullControllerBytes) = idleFullControllerBytes :=
  VersionedFullControllerVirtioBlkCheckpointV1.decode_assemble idleFullControllerBytes_ne_nil
    decode_idleFullController (by decide +kernel) (by rw [length_idleFullControllerBytes]; decide)

/-- The string of a transaction of one vCPU and one device is accepted, whatever its
registration. -/
theorem decode_idleTransaction (registration : VersionedHostRegistrationSpecV1) :
    VersionedCheckpointTransactionV1.decode
        ((⟨idleTransaction.checkpoint, registration⟩ : VersionedCheckpointTransactionV1).assemble
          (idleTransaction.checkpoint.assemble idleFullControllerBytes)) =
        .ok ⟨idleTransaction.checkpoint, registration⟩ ∧
      checkpointTransactionFrame.firstPart
        ((⟨idleTransaction.checkpoint, registration⟩ : VersionedCheckpointTransactionV1).assemble
          (idleTransaction.checkpoint.assemble idleFullControllerBytes)) =
        idleTransaction.checkpoint.assemble idleFullControllerBytes :=
  VersionedCheckpointTransactionV1.decode_assemble
    (Frame.assemble_ne_nil idleFullControllerBytes_ne_nil) decode_idleOneDevice.1 (by
      rw [VersionedFullControllerVirtioBlkCheckpointV1.length_assemble,
        length_idleFullControllerBytes]
      decide)

/-- The transaction of the idle machine is accepted and written back. -/
theorem reencode_idleTransaction :
    VersionedCheckpointTransactionV1.decode idleTransactionBytes = .ok idleTransaction ∧
      idleTransaction.encode = .ok idleTransactionBytes := by
  obtain ⟨-, hfirst⟩ := decode_idleOneDevice
  obtain ⟨hdecode, hfirst'⟩ : VersionedCheckpointTransactionV1.decode idleTransactionBytes =
        .ok idleTransaction ∧
      checkpointTransactionFrame.firstPart idleTransactionBytes =
        idleTransaction.checkpoint.assemble idleFullControllerBytes :=
    decode_idleTransaction ⟨firstSpec⟩
  refine ⟨hdecode, (oneVcpu_containers_canonical idleTransactionBytes).2.2.2.1 ?_ _ hdecode⟩
  rw [hfirst', hfirst, idleFullControllerBytes,
    (Frame.parts_of_split (VersionedFullControllerCheckpointV1.split_assemble idleGuest_ne_nil
      (by rw [length_idleGuest]; decide))).2.1]
  exact idleGuest_canonical

/-! ### Two vCPUs -/

/-- The vCPU state in a two-vCPU controller checkpoint, by the lengths in its header. -/
def secondaryPart (bytes : List UInt8) : List UInt8 :=
  slice bytes (twoVcpuFullControllerEnvelope.headerLen + (u64At bytes 24).toNat)
    (u64At bytes 32).toNat

/-- The page+vCPU checkpoint and the vCPU state in a two-vCPU controller checkpoint are written back
unchanged. -/
structure VcpusCanonical (bytes : List UInt8) : Prop where
  primary : pageVcpuCodec.Canonical (twoVcpuFullControllerFrame.firstPart bytes)
  secondary : vcpuStateCodec.Canonical (secondaryPart bytes)

theorem parts_assemble {v : VersionedTwoVcpuFullControllerCheckpointV1}
    {primary secondary : List UInt8} (hvalid : v.Valid) (hprimary : primary ≠ [])
    (hsecondary : secondary ≠ [])
    (hlt : 64 + primary.length + (secondary.length + 2296) < 2 ^ 64) :
    twoVcpuFullControllerFrame.firstPart (v.assemble primary secondary) = primary ∧
      secondaryPart (v.assemble primary secondary) = secondary := by
  obtain ⟨hread, hfirst, hdrop⟩ := Frame.parts_of_split
    (VersionedTwoVcpuFullControllerCheckpointV1.split_assemble hvalid hprimary hsecondary hlt)
  have hlen := congrArg TwoVcpuHeader.secondaryLen hread
  have hword : u64At (v.assemble primary secondary) 32 = UInt64.ofNat secondary.length := hlen
  refine ⟨hfirst, ?_⟩
  rw [secondaryPart, slice, hword,
    VersionedTwoVcpuFullControllerCheckpointV1.toNat_secondaryLen hlt]
  exact (congrArg (List.take secondary.length) hdrop).trans List.take_left

theorem twoVcpuFullControllerCodec_canonical (h : VcpusCanonical bytes) :
    twoVcpuFullControllerCodec.Canonical bytes := by
  intro v hdecode
  obtain ⟨hvalid, primary, secondary, hprimary, hsecondary, hlt, rfl⟩ :=
    VersionedTwoVcpuFullControllerCheckpointV1.decode_eq_ok.mp hdecode
  obtain ⟨hfirst, hsecond⟩ := parts_assemble hvalid
    (VersionedPageVcpuCheckpointV1.ne_nil_of_decode hprimary)
    (VersionedVcpuStateSnapshotV1.ne_nil_of_decode hsecondary) hlt
  have hencode := h.primary
  have hencode' := h.secondary
  rw [hfirst] at hencode
  rw [hsecond] at hencode'
  exact VersionedTwoVcpuFullControllerCheckpointV1.encode_eq_ok.mpr ⟨hvalid, primary, secondary,
    hencode v.primary hprimary, hencode' v.secondary hsecondary, hlt, rfl⟩

/-- **Containers of two vCPUs.** Each of the five formats writes an accepted string back unchanged,
if it writes back the page+vCPU checkpoint and the vCPU state in the string; `kind` stands for
versions 2 and 3 of the transaction. -/
theorem twoVcpu_containers_canonical (bytes : List UInt8) :
    (VcpusCanonical bytes → twoVcpuFullControllerCodec.Canonical bytes) ∧
    (VcpusCanonical (twoVcpuTwoDeviceFrame.firstPart bytes) →
      twoVcpuTwoDeviceCodec.Canonical bytes) ∧
    (VcpusCanonical (twoVcpuTwoDeviceFrame.firstPart
        (twoVcpuTwoDeviceTransactionFrame.firstPart bytes)) →
      twoVcpuTwoDeviceTransactionV1Codec.Canonical bytes) ∧
    ∀ kind : PendingKind, VcpusCanonical (twoVcpuTwoDeviceFrame.firstPart
        ((tokenTransactionFrame kind).firstPart bytes)) →
      (TokenTransaction.codec kind).Canonical bytes := by
  refine ⟨twoVcpuFullControllerCodec_canonical, fun h => ?_, fun h => ?_, fun kind h => ?_⟩
  · exact TwoDeviceCheckpoint.canonical (twoVcpuFullControllerCodec_canonical h)
  · exact twoVcpuTwoDeviceTransactionV1Codec_canonical
      (TwoDeviceCheckpoint.canonical (twoVcpuFullControllerCodec_canonical h))
  · exact TokenTransaction.codec_canonical
      (TwoDeviceCheckpoint.canonical (twoVcpuFullControllerCodec_canonical h))

/-- Both vCPUs with their controllers. -/
def idleTwoVcpu : VersionedTwoVcpuFullControllerCheckpointV1 where
  primary := unusableSegmentCheckpoint 0
  secondary := unusableSegmentState 0
  vcpuIds := (0, 1)
  mpStates := (0, 0)
  masterPic := ⟨default⟩
  slavePic := ⟨default⟩
  ioapic := idleIoapic
  lapics := (⟨.zeros _⟩, ⟨.zeros _⟩)

/-- The bytes of `idleTwoVcpu`. -/
def idleTwoVcpuBytes : List UInt8 :=
  idleTwoVcpu.assemble (unusableSegmentCheckpointBytes 0) (unusableSegmentStateBytes 0)

theorem length_idleState : (unusableSegmentStateBytes 0).length = 520 :=
  VersionedVcpuStateSnapshotV1.length_assemble (length_specialRegisterBlock _)

theorem idleState_ne_nil : unusableSegmentStateBytes 0 ≠ [] := by
  rw [← List.length_pos_iff, length_idleState]
  decide

theorem valid_idleTwoVcpu : idleTwoVcpu.Valid := ⟨⟨by decide, by decide⟩, rfl⟩

theorem size_idleTwoVcpu : 64 + (unusableSegmentCheckpointBytes 0).length +
    ((unusableSegmentStateBytes 0).length + 2296) < 2 ^ 64 := by
  rw [length_idleGuest, length_idleState]
  decide

theorem decode_idleTwoVcpu :
    VersionedTwoVcpuFullControllerCheckpointV1.decode idleTwoVcpuBytes = .ok idleTwoVcpu :=
  VersionedTwoVcpuFullControllerCheckpointV1.decode_eq_ok.mpr ⟨valid_idleTwoVcpu, _, _,
    decode_unusableSegmentCheckpoint (by decide +kernel),
    decode_unusableSegmentState (by decide +kernel), size_idleTwoVcpu, rfl⟩

theorem length_idleTwoVcpuBytes : idleTwoVcpuBytes.length = 7512 := by
  rw [idleTwoVcpuBytes, VersionedTwoVcpuFullControllerCheckpointV1.assemble,
    Frame.length_assemble, List.length_append,
    VersionedTwoVcpuFullControllerCheckpointV1.length_tail, length_idleGuest, length_idleState]
  rfl

theorem idleTwoVcpuBytes_ne_nil : idleTwoVcpuBytes ≠ [] := by
  rw [← List.length_pos_iff, length_idleTwoVcpuBytes]
  decide

theorem vcpusCanonical_idleTwoVcpu : VcpusCanonical idleTwoVcpuBytes := by
  obtain ⟨hprimary, hsecondary⟩ :=
    parts_assemble valid_idleTwoVcpu idleGuest_ne_nil idleState_ne_nil size_idleTwoVcpu
  refine ⟨?_, ?_⟩
  · rw [idleTwoVcpuBytes, hprimary]
    exact idleGuest_canonical
  · rw [idleTwoVcpuBytes, hsecondary]
    exact Codec.canonical_mk (decode_unusableSegmentState (by decide +kernel))
      encode_unusableSegmentState

/-- The registrations of the doorbells of devices at BARs `0` and `0x1000`. -/
def idlePair : HostRegistrationSpecPair where
  first := firstSpec
  second := {
    doorbellAddress := 0x1100
    doorbellLength := 2
    doorbellDatamatch := 0
    gsi := 1
    valid := ⟨by decide, by decide, by decide⟩ }
  disjoint := by decide
  gsi_ne := by decide

/-- A checkpoint of both vCPUs and two devices, with the interrupt status of the second. -/
def idleTwoDevice (isrStatus : UInt8) : VersionedTwoVcpuTwoDeviceCheckpointV1 where
  controller := idleTwoVcpu
  devices := (idleDevice 0 0, idleDevice 0x1000 isrStatus)

/-- The bytes of `idleTwoDevice`. -/
def idleTwoDeviceBytes (isrStatus : UInt8) : List UInt8 :=
  (idleTwoDevice isrStatus).assemble twoVcpuTwoDeviceFrame idleTwoVcpuBytes

theorem decode_idleDevices {first second : VirtioBlkCheckpointState}
    (hbars : TwoDeviceCheckpoint.validateTwoDeviceBars
      (κ := VersionedTwoVcpuFullControllerCheckpointError) (first.bar0, second.bar0) = .ok ())
    (hfirst : first.validate = .ok ()) (hsecond : second.validate = .ok ()) :
    VersionedTwoVcpuTwoDeviceCheckpointV1.decode
        ((⟨idleTwoVcpu, first, second⟩ : VersionedTwoVcpuTwoDeviceCheckpointV1).assemble
          twoVcpuTwoDeviceFrame idleTwoVcpuBytes) = .ok ⟨idleTwoVcpu, first, second⟩ ∧
      twoVcpuTwoDeviceFrame.firstPart
        ((⟨idleTwoVcpu, first, second⟩ : VersionedTwoVcpuTwoDeviceCheckpointV1).assemble
          twoVcpuTwoDeviceFrame idleTwoVcpuBytes) = idleTwoVcpuBytes :=
  TwoDeviceCheckpoint.decode_assemble idleTwoVcpuBytes_ne_nil decode_idleTwoVcpu hbars hfirst
    hsecond (by rw [length_idleTwoVcpuBytes]; decide)

theorem decode_idleTwoDevice {isrStatus : UInt8}
    (h : (idleDevice 0x1000 isrStatus).validate = .ok ()) :
    VersionedTwoVcpuTwoDeviceCheckpointV1.decode (idleTwoDeviceBytes isrStatus) =
        .ok (idleTwoDevice isrStatus) ∧
      twoVcpuTwoDeviceFrame.firstPart (idleTwoDeviceBytes isrStatus) = idleTwoVcpuBytes :=
  decode_idleDevices
    (show TwoDeviceCheckpoint.validateTwoDeviceBars (0, 0x1000) = .ok () by decide +kernel)
    (show (idleDevice 0 0).validate = .ok () by decide +kernel) h

theorem length_idleDevices (v : VersionedTwoVcpuTwoDeviceCheckpointV1) :
    (v.assemble twoVcpuTwoDeviceFrame idleTwoVcpuBytes).length = 11824 := by
  have hlen : (v.assemble twoVcpuTwoDeviceFrame idleTwoVcpuBytes).length =
      56 + idleTwoVcpuBytes.length + 4256 :=
    TwoDeviceCheckpoint.length_assemble
  rw [hlen, length_idleTwoVcpuBytes]

theorem length_idleTwoDeviceBytes (isrStatus : UInt8) :
    (idleTwoDeviceBytes isrStatus).length = 11824 :=
  length_idleDevices _

theorem idleTwoDeviceBytes_ne_nil (isrStatus : UInt8) : idleTwoDeviceBytes isrStatus ≠ [] := by
  rw [← List.length_pos_iff, length_idleTwoDeviceBytes]
  decide

/-- Version 1 of the transaction of both vCPUs and two devices. -/
def idleTwoVcpuTransaction (isrStatus : UInt8) : VersionedTwoVcpuTwoDeviceTransactionV1 where
  checkpoint := idleTwoDevice isrStatus
  registrations := ⟨idlePair⟩

/-- The bytes of `idleTwoVcpuTransaction`. -/
def idleTwoVcpuTransactionBytes (isrStatus : UInt8) : List UInt8 :=
  (idleTwoVcpuTransaction isrStatus).assemble (idleTwoDeviceBytes isrStatus)

theorem decode_idleTwoVcpuTransaction {isrStatus : UInt8}
    (h : (idleDevice 0x1000 isrStatus).validate = .ok ()) :
    VersionedTwoVcpuTwoDeviceTransactionV1.decode (idleTwoVcpuTransactionBytes isrStatus) =
        .ok (idleTwoVcpuTransaction isrStatus) ∧
      twoVcpuTwoDeviceTransactionFrame.firstPart (idleTwoVcpuTransactionBytes isrStatus) =
        idleTwoDeviceBytes isrStatus :=
  VersionedTwoVcpuTwoDeviceTransactionV1.decode_assemble (idleTwoDeviceBytes_ne_nil isrStatus)
    (decode_idleTwoDevice h).1
    (show validateTransactionRegistrationBinding (0, 0x1000) idlePair = .ok () by decide +kernel)
    (by rw [length_idleTwoDeviceBytes]; decide)

/-- The transaction of the idle machine is accepted and written back. -/
theorem reencode_idleTwoVcpuTransaction :
    VersionedTwoVcpuTwoDeviceTransactionV1.decode (idleTwoVcpuTransactionBytes 0) =
        .ok (idleTwoVcpuTransaction 0) ∧
      (idleTwoVcpuTransaction 0).encode = .ok (idleTwoVcpuTransactionBytes 0) := by
  have hvalid : (idleDevice 0x1000 0).validate = .ok () := by decide +kernel
  obtain ⟨hdecode, hfirst⟩ := decode_idleTwoVcpuTransaction hvalid
  refine ⟨hdecode,
    (twoVcpu_containers_canonical (idleTwoVcpuTransactionBytes 0)).2.2.1 ?_ _ hdecode⟩
  rw [hfirst, (decode_idleTwoDevice hvalid).2]
  exact vcpusCanonical_idleTwoVcpu

end MiniHypervisor.Schema
