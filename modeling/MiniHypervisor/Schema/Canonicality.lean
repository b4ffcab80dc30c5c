import MiniHypervisor.Schema.VcpuState

/-!
# When the vCPU schemas are canonical

Both vCPU schemas decode the special registers through the snapshot type
(`src/vcpu/special_register_snapshot.rs`), which clears bit zero of the type of an unusable
segment.  The segment decoder does not ask for that bit to be clear, so an accepted string is the
one that the encoder writes for its value exactly when the bit is clear in every unusable segment.

## Main results

* `reencode_eq_iff_segmentTypesNormal` : when an accepted string is the encoding of its value.
-/

namespace MiniHypervisor.Schema

open Bytes Checkpoint Control Kvm Vcpu

/-- The eight segment records from an offset on: an unusable segment (byte 22 of its record) has an
even type (byte 14). -/
def SegmentTypesNormal (bytes : List UInt8) (start : ℕ) : Prop :=
  ∀ i < 8, bytes.getD (start + (24 * i + 22)) 0 ≠ 0 →
    bytes.getD (start + (24 * i + 14)) 0 &&& segmentTypeBitZero = 0

instance (bytes : List UInt8) (start : ℕ) : Decidable (SegmentTypesNormal bytes start) :=
  inferInstanceAs (Decidable (∀ i < 8, _))

theorem length_segmentsOf (sregs : KvmSregs) : (segmentsOf sregs).length = 8 := rfl

theorem getD_specialRegisterBlock {pre post : List UInt8} {sregs : KvmSregs} {start i o : ℕ}
    (hpre : pre.length = start) (hi : i < 8) (ho : o < 24) :
    (pre ++ (specialRegisterBlock sregs ++ post)).getD (start + (24 * i + o)) 0 =
      (segmentBlock ((segmentsOf sregs).get ⟨i, hi⟩)).getD o 0 := by
  have hlen : ((segmentsOf sregs).flatMap segmentBlock).length = 192 := by
    simp [segmentsOf]
  rw [← hpre, List.getD_append_right _ _ _ _ (by omega), Nat.add_sub_cancel_left,
    specialRegisterBlock, List.append_assoc, List.getD_append _ _ _ _ (by omega),
    getD_flatMap length_segmentBlock ho (by rwa [length_segmentsOf])]
  rfl

theorem segmentTypesNormal_iff {pre post : List UInt8} {sregs : KvmSregs} {start : ℕ}
    (hpre : pre.length = start) :
    SegmentTypesNormal (pre ++ (specialRegisterBlock sregs ++ post)) start ↔
      ∀ segment ∈ segmentsOf sregs, NormalType segment := by
  rw [List.forall_mem_iff_get]
  constructor
  · rintro hnormal ⟨i, hi⟩
    have h := hnormal i hi
    rw [getD_specialRegisterBlock hpre hi (by decide),
      getD_specialRegisterBlock hpre hi (by decide)] at h
    exact h
  · intro hnormal i hi
    rw [getD_specialRegisterBlock hpre hi (by decide),
      getD_specialRegisterBlock hpre hi (by decide)]
    exact hnormal ⟨i, hi⟩

/-! ### Accepted strings -/

/-- Where the special registers of a page+vCPU checkpoint start, by the page count of its
header. -/
def pageVcpuSpecialStart (bytes : List UInt8) : ℕ :=
  headerLen + pageRecordLen * (u16At bytes 28).toNat + registerBlockLen

/-- Where the special registers of a vCPU state start. -/
def vcpuStateSpecialStart : ℕ := vcpuStateHeaderLen + registerBlockLen

namespace VersionedPageVcpuCheckpointV1

variable {v : VersionedPageVcpuCheckpointV1} {bytes : List UInt8}

theorem pageCount_assemble (total : ℕ) (special : List UInt8) :
    u16At (v.assemble total special) 28 = UInt16.ofNat v.pages.length := by
  have hsplit : v.assemble total special =
      (versionedPageVcpuCheckpointMagic ++ u16Bytes versionedPageVcpuCheckpointVersion ++
        u16Bytes versionedPageVcpuCheckpointArchX8664 ++ u32Bytes (UInt32.ofNat headerLen) ++
        u64Bytes (UInt64.ofNat total) ++ u32Bytes (UInt32.ofNat longModePageSize)) ++
      (u16Bytes (UInt16.ofNat v.pages.length) ++ (u16Bytes (UInt16.ofNat v.msrs.length) ++
        (u32Bytes 0 ++ u32Bytes 0) ++ (v.pages.flatMap pageRecord ++
        (encodeRegisters v.registers ++ (special ++ v.msrs.flatMap msrRecord))))) := by
    simp only [assemble, header, List.append_assoc]
  rw [hsplit]
  exact u16At_append _ _ (by simp [versionedPageVcpuCheckpointMagic, asciiBytes])

variable (v) in
/-- What stands before the special registers. -/
def prologue (total : ℕ) : List UInt8 :=
  header total v.pages.length v.msrs.length ++ (v.pages.flatMap pageRecord ++
    encodeRegisters v.registers)

theorem assemble_eq_prologue_append (total : ℕ) (special : List UInt8) :
    v.assemble total special = v.prologue total ++ (special ++ v.msrs.flatMap msrRecord) := by
  simp only [assemble, prologue, List.append_assoc]

theorem length_prologue (h : v.Valid) (total : ℕ) (special : List UInt8) :
    (v.prologue total).length = pageVcpuSpecialStart (v.assemble total special) := by
  have hpages := (validatePagesFrom_eq_ok.mp (rejectIf_bind_eq_ok.mp h.pages).2).1
  rw [pageVcpuSpecialStart, pageCount_assemble,
    UInt16.toNat_ofNat_of_lt' (lt_of_le_of_lt h.pageCount.2 (by decide)), prologue,
    List.length_append, List.length_append, length_header, length_flatMap_pageRecord hpages,
    length_encodeRegisters]
  simp only [headerLen, pageRecordLen, longModePageSize, registerBlockLen]
  omega

theorem encode_eq_iff (hdecode : decode bytes = .ok v) :
    v.encode = .ok bytes ↔ SegmentTypesNormal bytes (pageVcpuSpecialStart bytes) := by
  obtain ⟨hvalid, sregs, -, hspecial, rfl⟩ := decode_eq_ok.mp hdecode
  rw [encode_eq_ok, and_iff_right hvalid, hspecial, assemble_inj, eq_comm,
    encodeSpecialRegisters_fromKvmSregs_eq_iff,
    ← segmentTypesNormal_iff (length_prologue hvalid _ _), ← assemble_eq_prologue_append]

end VersionedPageVcpuCheckpointV1

namespace VersionedVcpuStateSnapshotV1

variable {v : VersionedVcpuStateSnapshotV1} {bytes : List UInt8}

variable (v) in
/-- What stands before the special registers. -/
def prologue (total : ℕ) : List UInt8 :=
  header total v.msrs.length ++ encodeRegisters v.registers

theorem assemble_eq_prologue_append (total : ℕ) (special : List UInt8) :
    v.assemble total special = v.prologue total ++ (special ++ v.msrs.flatMap msrRecord) := by
  simp only [assemble, prologue, List.append_assoc]

theorem length_prologue (total : ℕ) : (v.prologue total).length = vcpuStateSpecialStart := by
  rw [prologue, List.length_append, length_header, length_encodeRegisters]
  rfl

theorem encode_eq_iff (hdecode : decode bytes = .ok v) :
    v.encode = .ok bytes ↔ SegmentTypesNormal bytes vcpuStateSpecialStart := by
  obtain ⟨hvalid, sregs, -, hspecial, rfl⟩ := decode_eq_ok.mp hdecode
  rw [encode_eq_ok, and_iff_right hvalid, hspecial, assemble_inj, eq_comm,
    encodeSpecialRegisters_fromKvmSregs_eq_iff, ← segmentTypesNormal_iff (length_prologue _),
    ← assemble_eq_prologue_append]

end VersionedVcpuStateSnapshotV1

/-- **Canonicality of the vCPU schemas.**  The encoder writes an accepted string back for its value
exactly when every unusable segment of the string has an even type. -/
theorem reencode_eq_iff_segmentTypesNormal (bytes : List UInt8) :
    (∀ v, VersionedPageVcpuCheckpointV1.decode bytes = .ok v →
      (v.encode = .ok bytes ↔ SegmentTypesNormal bytes (pageVcpuSpecialStart bytes))) ∧
    (∀ v, VersionedVcpuStateSnapshotV1.decode bytes = .ok v →
      (v.encode = .ok bytes ↔ SegmentTypesNormal bytes vcpuStateSpecialStart)) :=
  ⟨fun _ => VersionedPageVcpuCheckpointV1.encode_eq_iff,
    fun _ => VersionedVcpuStateSnapshotV1.encode_eq_iff⟩

/-! ### An unusable segment -/

/-- Special registers whose code segment is unusable and has the given type; all else is zero. -/
def unusableSegment (type_ : UInt8) : KvmSregs :=
  { (default : KvmSregs) with cs := { (default : KvmSegment) with type_ := type_, unusable := 1 } }

/-- Two MSRs with their values. -/
def sysenterMsrs : List (MsrIndex × UInt64) := [(0x174, 2), (0x175, 1)]

/-- A vCPU state with an unusable segment and those MSRs. -/
def unusableSegmentState (type_ : UInt8) : VersionedVcpuStateSnapshotV1 where
  registers := .fromKvmRegs default
  specialRegisters := .fromKvmSregs (unusableSegment type_)
  msrs := sysenterMsrs

/-- The bytes of that vCPU state. -/
def unusableSegmentStateBytes (type_ : UInt8) : List UInt8 :=
  (unusableSegmentState type_).assemble 520 (specialRegisterBlock (unusableSegment type_))

/-- A page+vCPU checkpoint of a zero page at address zero and such a vCPU. -/
def unusableSegmentCheckpoint (type_ : UInt8) : VersionedPageVcpuCheckpointV1 where
  pages := [⟨0, List.replicate longModePageSize 0⟩]
  registers := .fromKvmRegs default
  specialRegisters := .fromKvmSregs (unusableSegment type_)
  msrs := sysenterMsrs

/-- The bytes of that page+vCPU checkpoint. -/
def unusableSegmentCheckpointBytes (type_ : UInt8) : List UInt8 :=
  (unusableSegmentCheckpoint type_).assemble 4632 (specialRegisterBlock (unusableSegment type_))

variable {type_ : UInt8}

theorem decode_unusableSegmentState (h : Decoded (unusableSegment type_)) :
    VersionedVcpuStateSnapshotV1.decode (unusableSegmentStateBytes type_) =
      .ok (unusableSegmentState type_) :=
  VersionedVcpuStateSnapshotV1.decode_eq_ok.mpr ⟨⟨rfl, of_decide_eq_true rfl⟩, _, h, rfl, rfl⟩

theorem valid_unusableSegmentCheckpoint : (unusableSegmentCheckpoint type_).Valid := by
  have hpages : validatePagesFrom none (unusableSegmentCheckpoint type_).pages = .ok () := by
    rw [validatePagesFrom_eq_ok]
    refine ⟨fun page hpage => ?_, nofun, trivial⟩
    obtain rfl := List.mem_singleton.mp hpage
    exact ⟨by decide, List.length_replicate⟩
  refine ⟨?_, rfl, of_decide_eq_true rfl⟩
  rw [validatePages, rejectIf_bind_eq_ok]
  exact ⟨of_decide_eq_false rfl, hpages⟩

theorem decode_unusableSegmentCheckpoint (h : Decoded (unusableSegment type_)) :
    VersionedPageVcpuCheckpointV1.decode (unusableSegmentCheckpointBytes type_) =
      .ok (unusableSegmentCheckpoint type_) :=
  VersionedPageVcpuCheckpointV1.decode_eq_ok.mpr
    ⟨valid_unusableSegmentCheckpoint, _, h, rfl, rfl⟩

theorem encode_unusableSegmentCheckpoint :
    (unusableSegmentCheckpoint 0).encode = .ok (unusableSegmentCheckpointBytes 0) := by
  have hencode : encodeSpecialRegisters (.fromKvmSregs (unusableSegment 0)) =
      specialRegisterBlock (unusableSegment 0) := by decide +kernel
  refine VersionedPageVcpuCheckpointV1.encode_eq_ok.mpr ⟨valid_unusableSegmentCheckpoint, ?_⟩
  rw [unusableSegmentCheckpointBytes, ← hencode]
  rfl

theorem encode_unusableSegmentState :
    (unusableSegmentState 0).encode = .ok (unusableSegmentStateBytes 0) := by
  have hencode : encodeSpecialRegisters (.fromKvmSregs (unusableSegment 0)) =
      specialRegisterBlock (unusableSegment 0) := by decide +kernel
  refine VersionedVcpuStateSnapshotV1.encode_eq_ok.mpr ⟨⟨rfl, by decide⟩, ?_⟩
  rw [unusableSegmentStateBytes, ← hencode]
  rfl

/-- The strings with types zero and one decode to the same value, and its encoding is the string
with type zero. -/
theorem unusableSegment_odd_type_not_reencoded :
    (∃ v, VersionedVcpuStateSnapshotV1.decode (unusableSegmentStateBytes 1) = .ok v ∧
      v.encode = .ok (unusableSegmentStateBytes 0)) ∧
    unusableSegmentStateBytes 0 ≠ unusableSegmentStateBytes 1 ∧
    (∃ v, VersionedPageVcpuCheckpointV1.decode (unusableSegmentCheckpointBytes 1) = .ok v ∧
      v.encode = .ok (unusableSegmentCheckpointBytes 0)) ∧
    unusableSegmentCheckpointBytes 0 ≠ unusableSegmentCheckpointBytes 1 := by
  have hdecoded : Decoded (unusableSegment 1) := by decide +kernel
  have hblocks : specialRegisterBlock (unusableSegment 0) ≠
      specialRegisterBlock (unusableSegment 1) := by decide +kernel
  -- the snapshot type holds both segments as the same value
  have hstate : unusableSegmentState 0 = unusableSegmentState 1 := by decide +kernel
  have hcheckpoint : unusableSegmentCheckpoint 0 = unusableSegmentCheckpoint 1 := by
    rw [unusableSegmentCheckpoint, unusableSegmentCheckpoint]
    congr 1
  refine ⟨⟨_, decode_unusableSegmentState hdecoded, ?_⟩, ?_,
    ⟨_, decode_unusableSegmentCheckpoint hdecoded, ?_⟩, ?_⟩
  · rw [← hstate]
    exact encode_unusableSegmentState
  · rw [unusableSegmentStateBytes, unusableSegmentStateBytes, hstate, Ne,
      VersionedVcpuStateSnapshotV1.assemble_inj]
    exact hblocks
  · rw [← hcheckpoint]
    exact encode_unusableSegmentCheckpoint
  · rw [unusableSegmentCheckpointBytes, unusableSegmentCheckpointBytes, hcheckpoint, Ne,
      VersionedPageVcpuCheckpointV1.assemble_inj]
    exact hblocks

/-- The vCPU state with type zero is written back and the one with type one is not. -/
theorem reencode_unusableSegmentState :
    (unusableSegmentState 0).encode = .ok (unusableSegmentStateBytes 0) ∧
      (unusableSegmentState 1).encode ≠ .ok (unusableSegmentStateBytes 1) := by
  have heven : SegmentTypesNormal (unusableSegmentStateBytes 0) vcpuStateSpecialStart := by
    decide +kernel
  have hodd : ¬ SegmentTypesNormal (unusableSegmentStateBytes 1) vcpuStateSpecialStart := by
    decide +kernel
  refine ⟨?_, fun h => hodd ?_⟩
  · exact ((reencode_eq_iff_segmentTypesNormal _).2 _
      (decode_unusableSegmentState (by decide +kernel))).mpr heven
  · exact ((reencode_eq_iff_segmentTypesNormal _).2 _
      (decode_unusableSegmentState (by decide +kernel))).mp h

end MiniHypervisor.Schema
