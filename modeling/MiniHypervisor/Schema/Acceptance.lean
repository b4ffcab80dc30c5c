import MiniHypervisor.Schema.Canonicality

/-!
# When the decoder accepts what the encoder writes

The encoders of the vCPU schemas write the segment fields of a snapshot as they are, and a snapshot
holds whatever bytes KVM reported.  The decoder refuses segment fields with values that the
architecture does not have.  So a string that was written is accepted exactly when the captured
segments are architectural.

## Main results

* `decode_encode_iff_architectural` : when the decoder accepts what the encoder wrote.
-/

namespace MiniHypervisor.Schema

open Bytes Checkpoint Vcpu

/-! ### Architectural segments -/

private theorem clear_bit_zero_le_iff (b : UInt8) : b &&& ~~~segmentTypeBitZero ≤ 15 ↔ b ≤ 15 := by
  have hall : ∀ n < 256, UInt8.ofNat n &&& ~~~segmentTypeBitZero ≤ 15 ↔ UInt8.ofNat n ≤ 15 := by
    decide +kernel
  have hb := hall b.toNat b.toNat_lt
  rwa [UInt8.ofNat_toNat] at hb

theorem canonicalSegmentType_le_iff {segmentType unusable : UInt8} :
    canonicalSegmentType segmentType unusable ≤ 15 ↔ segmentType ≤ 15 := by
  unfold canonicalSegmentType
  split_ifs
  · exact clear_bit_zero_le_iff segmentType
  · exact Iff.rfl

theorem architectural_intoKvmSegment_iff {segment : KvmSegment} :
    Architectural (VcpuSegmentState.fromKvmSegment segment).intoKvmSegment ↔
      Architectural segment := by
  rw [architectural_iff, architectural_iff]
  exact and_congr_left fun _ => canonicalSegmentType_le_iff

theorem architectural_iff_of_segmentBlock_eq {segment segment' : KvmSegment}
    (h : segmentBlock segment = segmentBlock segment') :
    Architectural segment ↔ Architectural segment' := by
  obtain ⟨-, h⟩ := List.append_inj h (by rw [length_u64Bytes, length_u64Bytes])
  obtain ⟨-, h⟩ := List.append_inj h (by rw [length_u32Bytes, length_u32Bytes])
  obtain ⟨-, h⟩ := List.append_inj h (by rw [length_u16Bytes, length_u16Bytes])
  simp only [List.cons.injEq] at h
  obtain ⟨htype, hpresent, hdpl, hdb, hs, hl, hg, havl, hunusable, -⟩ := h
  rw [architectural_iff, architectural_iff, htype, hpresent, hdpl, hdb, hs, hl, hg, havl, hunusable]

theorem exists_decoded_iff {sregs : KvmSregs} :
    (∃ decoded, Decoded decoded ∧ specialRegisterBlock decoded = specialRegisterBlock
        (VcpuSpecialRegisterSnapshot.fromKvmSregs sregs).encodeSnapshot) ↔
      ∀ segment ∈ segmentsOf sregs, Architectural segment := by
  have hsegments : (segmentsOf (VcpuSpecialRegisterSnapshot.fromKvmSregs sregs).encodeSnapshot) =
      (segmentsOf sregs).map fun segment =>
        (VcpuSegmentState.fromKvmSegment segment).intoKvmSegment := rfl
  constructor
  · rintro ⟨decoded, hdecoded, hblock⟩ segment hmem
    obtain ⟨i, rfl⟩ := List.get_of_mem hmem
    have hlen : (segmentsOf decoded).length = (segmentsOf sregs).length := rfl
    rw [specialRegisterBlock, specialRegisterBlock, hsegments, List.flatMap_map] at hblock
    have hall := (flatMap_eq_flatMap_iff (fun _ _ => by simp) hlen).mp
      (List.append_inj hblock (by simp [segmentsOf])).1
    have heq := hall.get (by rw [hlen]; exact i.isLt) i.isLt
    exact architectural_intoKvmSegment_iff.mp ((architectural_iff_of_segmentBlock_eq heq).mp
      (hdecoded.segments _ (List.get_mem ..)).1)
  · intro harch
    refine ⟨_, ⟨?_, rfl, rfl⟩, rfl⟩
    rw [hsegments, List.forall_mem_map]
    exact fun segment hmem => ⟨architectural_intoKvmSegment_iff.mpr (harch segment hmem), rfl⟩

/-! ### Emitted strings -/

namespace VersionedPageVcpuCheckpointV1

variable {v : VersionedPageVcpuCheckpointV1}

theorem slice_eq_special {bytes special : List UInt8} {total : ℕ} (h : v.Valid)
    (hspecial : special.length = specialRegisterBlockLen)
    (hbytes : bytes = v.assemble total special) :
    slice bytes (pageVcpuSpecialStart bytes) specialRegisterBlockLen = special := by
  have hstart := length_prologue h total special
  rw [← hbytes] at hstart
  nth_rewrite 1 [hbytes, assemble_eq_prologue_append]
  exact slice_append_middle _ hstart hspecial

theorem decode_encode_iff {bytes : List UInt8} {sregs : KvmSregs}
    (hspecial : v.specialRegisters = .fromKvmSregs sregs) (hencode : v.encode = .ok bytes) :
    (∃ w, decode bytes = .ok w) ↔ ∀ segment ∈ segmentsOf sregs, Architectural segment := by
  obtain ⟨hvalid, hbytes⟩ := encode_eq_ok.mp hencode
  rw [hspecial, encodeSpecialRegisters_eq] at hbytes
  rw [← exists_decoded_iff]
  constructor
  · rintro ⟨w, hdecode⟩
    obtain ⟨hw, decoded, hdecoded, -, hbytes'⟩ := decode_eq_ok.mp hdecode
    -- the block is the same slice of the string in both descriptions of it
    have hslice := slice_eq_special hvalid (length_specialRegisterBlock _) hbytes
    have hslice' := slice_eq_special hw (length_specialRegisterBlock _) hbytes'
    exact ⟨decoded, hdecoded, hslice'.symm.trans hslice⟩
  · rintro ⟨decoded, hdecoded, hblock⟩
    refine ⟨{ v with specialRegisters := .fromKvmSregs decoded }, decode_eq_ok.mpr
      ⟨⟨hvalid.pages, hvalid.msrs, hvalid.msrCount⟩, decoded, hdecoded, rfl, ?_⟩⟩
    rw [hbytes, hblock]
    rfl

end VersionedPageVcpuCheckpointV1

namespace VersionedVcpuStateSnapshotV1

variable {v : VersionedVcpuStateSnapshotV1}

theorem slice_eq_special {bytes special : List UInt8} {total : ℕ}
    (hspecial : special.length = specialRegisterBlockLen)
    (hbytes : bytes = v.assemble total special) :
    slice bytes vcpuStateSpecialStart specialRegisterBlockLen = special := by
  rw [hbytes, assemble_eq_prologue_append]
  exact slice_append_middle _ (length_prologue total) hspecial

theorem decode_encode_iff {bytes : List UInt8} {sregs : KvmSregs}
    (hspecial : v.specialRegisters = .fromKvmSregs sregs) (hencode : v.encode = .ok bytes) :
    (∃ w, decode bytes = .ok w) ↔ ∀ segment ∈ segmentsOf sregs, Architectural segment := by
  obtain ⟨hvalid, hbytes⟩ := encode_eq_ok.mp hencode
  rw [hspecial, encodeSpecialRegisters_eq] at hbytes
  rw [← exists_decoded_iff]
  constructor
  · rintro ⟨w, hdecode⟩
    obtain ⟨-, decoded, hdecoded, -, hbytes'⟩ := decode_eq_ok.mp hdecode
    have hslice := slice_eq_special (length_specialRegisterBlock _) hbytes
    have hslice' := slice_eq_special (length_specialRegisterBlock _) hbytes'
    exact ⟨decoded, hdecoded, hslice'.symm.trans hslice⟩
  · rintro ⟨decoded, hdecoded, hblock⟩
    refine ⟨{ v with specialRegisters := .fromKvmSregs decoded }, decode_eq_ok.mpr
      ⟨⟨hvalid.msrs, hvalid.msrCount⟩, decoded, hdecoded, rfl, ?_⟩⟩
    rw [hbytes, hblock]
    rfl

end VersionedVcpuStateSnapshotV1

/-- **Acceptance of emitted strings.**  For special registers with arbitrary bytes, the decoder
accepts what the encoder wrote exactly when all eight segments are architectural. -/
theorem decode_encode_iff_architectural (sregs : KvmSregs) :
    (∀ checkpoint v bytes, checkpoint.vcpu.specialRegisters = .fromKvmSregs sregs →
      VersionedPageVcpuCheckpointV1.fromCheckpoint checkpoint = .ok v → v.encode = .ok bytes →
      ((∃ w, VersionedPageVcpuCheckpointV1.decode bytes = .ok w) ↔
        ∀ segment ∈ segmentsOf sregs, Architectural segment)) ∧
    (∀ snapshot v bytes, snapshot.specialRegisters = .fromKvmSregs sregs →
      VersionedVcpuStateSnapshotV1.fromSnapshot snapshot = .ok v → v.encode = .ok bytes →
      ((∃ w, VersionedVcpuStateSnapshotV1.decode bytes = .ok w) ↔
        ∀ segment ∈ segmentsOf sregs, Architectural segment)) := by
  constructor
  · intro checkpoint v bytes hsregs hfrom hencode
    have hspecial := (VersionedPageVcpuCheckpointV1.fromCheckpoint_eq_ok.mp hfrom).2.2.2.1
    exact VersionedPageVcpuCheckpointV1.decode_encode_iff (hspecial.trans hsregs) hencode
  · intro snapshot v bytes hsregs hfrom hencode
    have hspecial := (VersionedVcpuStateSnapshotV1.fromSnapshot_eq_ok.mp hfrom).2.2.1
    exact VersionedVcpuStateSnapshotV1.decode_encode_iff (hspecial.trans hsregs) hencode

/-- A snapshot of a vCPU without MSRs whose code segment has the given type; all else is zero. -/
def typedSegmentSnapshot (type_ : UInt8) : VcpuStateSnapshot where
  registers := .fromKvmRegs default
  specialRegisters := .fromKvmSregs
    { (default : KvmSregs) with cs := { (default : KvmSegment) with type_ := type_ } }
  msrs := {
    policy := ⟨[]⟩
    values := ⟨[]⟩
    aligned := rfl }

/-- A code segment of type sixteen is captured and written, and the decoder refuses it. -/
theorem typedSegmentSnapshot_sixteen_refused :
    (VersionedVcpuStateSnapshotV1.fromSnapshot (typedSegmentSnapshot 16) >>= fun v => v.encode >>=
      VersionedVcpuStateSnapshotV1.decode) =
        .error (.state (.invalidSegmentField 0 "type" 16)) := by
  decide +kernel

/-- A code segment of type fifteen is captured, written and accepted. -/
theorem typedSegmentSnapshot_fifteen_accepted :
    ∃ v bytes, VersionedVcpuStateSnapshotV1.fromSnapshot (typedSegmentSnapshot 15) = .ok v ∧
      v.encode = .ok bytes ∧ ∃ w, VersionedVcpuStateSnapshotV1.decode bytes = .ok w := by
  have hvalid : (⟨(typedSegmentSnapshot 15).registers, (typedSegmentSnapshot 15).specialRegisters,
      []⟩ : VersionedVcpuStateSnapshotV1).Valid := ⟨rfl, Nat.zero_le _⟩
  have hfrom := VersionedVcpuStateSnapshotV1.fromSnapshot_eq_ok.mpr
    ⟨hvalid, rfl, rfl, show [] = sortedMsrs (typedSegmentSnapshot 15).msrs by
      simp [sortedMsrs, typedSegmentSnapshot]⟩
  have hencode := VersionedVcpuStateSnapshotV1.encode_eq_ok.mpr ⟨hvalid, rfl⟩
  exact ⟨_, _, hfrom, hencode, ((decode_encode_iff_architectural _).2 _ _ _ rfl hfrom hencode).mpr
    (by decide +kernel)⟩

end MiniHypervisor.Schema
