import MiniHypervisor.Schema.PageVcpu

/-!
# The vCPU state schema

The versioned byte format of a vCPU without pages
(`src/state_snapshot/page_set/schema_v1/vcpu_state.rs`): a header of thirty-two bytes, the register
blocks and the MSR records.  Its readers are those of the page+vCPU schema, with their errors
wrapped.
-/

namespace MiniHypervisor.Schema

open Bytes Checkpoint Control Kvm Vcpu

def versionedVcpuStateMagic : List UInt8 :=
  asciiBytes ['M', 'H', 'V', 'V', 'C', 'P', 'U', '\x00']

def versionedVcpuStateVersion : UInt16 := 1

def versionedVcpuStateArchX8664 : UInt16 := 1

def vcpuStateHeaderLen : ℕ := 32

inductive VersionedVcpuStateSnapshotError where
  | invalidMagic
  | unsupportedVersion (version : UInt16)
  | unsupportedArchitecture (architecture : UInt16)
  | invalidHeaderLength (length : UInt32)
  | invalidTotalLength (declared : UInt64) (actual : ℕ)
  | invalidMsrCount (count : UInt16)
  | nonZeroFlags (flags : UInt16)
  | nonZeroReserved (value : UInt32)
  | lengthOverflow
  | state (error : VersionedPageVcpuCheckpointError)
  deriving DecidableEq, Repr

/-- `vcpu_state_encoded_length` (lines 253-264). -/
def vcpuStateEncodedLength (msrCount : ℕ) : Except VersionedVcpuStateSnapshotError ℕ := do
  rejectIf (2 ^ 64 ≤ msrRecordLen * msrCount) .lengthOverflow
  checkedSum .lengthOverflow [vcpuStateHeaderLen, registerBlockLen, specialRegisterBlockLen,
    msrRecordLen * msrCount]

theorem vcpuStateEncodedLength_eq_ok {msrCount n : ℕ} :
    vcpuStateEncodedLength msrCount = .ok n ↔
      488 + 16 * msrCount < 2 ^ 64 ∧ n = 488 + 16 * msrCount := by
  simp only [vcpuStateEncodedLength, rejectIf_bind_eq_ok, checkedSum_eq_ok]
  simp only [msrRecordLen, vcpuStateHeaderLen, registerBlockLen, specialRegisterBlockLen,
    List.sum_cons, List.sum_nil]
  omega

/-- A reader of the page+vCPU schema with its errors wrapped (`From`, lines 63-67). -/
abbrev wrapped {α : Type} (x : Reader α) : EStateM VersionedVcpuStateSnapshotError Cursor α :=
  EStateM.adaptExcept .state x

structure VersionedVcpuStateSnapshotV1 where
  registers : VcpuRegisterSnapshot
  specialRegisters : VcpuSpecialRegisterSnapshot
  msrs : List (MsrIndex × UInt64)
  deriving DecidableEq, Repr

namespace VersionedVcpuStateSnapshotV1

/-- `VersionedVcpuStateSnapshotV1::from_snapshot` (lines 77-99). -/
def fromSnapshot (snapshot : VcpuStateSnapshot) :
    Except VersionedVcpuStateSnapshotError VersionedVcpuStateSnapshotV1 := do
  let count := snapshot.msrs.values.values.length
  rejectIf (versionedPageVcpuCheckpointMsrLimit < count) (.invalidMsrCount (u16OrMax count))
  let msrs := sortedMsrs snapshot.msrs
  (validateMsrOrder msrs).mapError .state
  return {
    registers := snapshot.registers
    specialRegisters := snapshot.specialRegisters
    msrs }

/-- The header for a total length and a number of MSRs. -/
def header (total msrCount : ℕ) : List UInt8 :=
  versionedVcpuStateMagic ++ (u16Bytes versionedVcpuStateVersion ++
    (u16Bytes versionedVcpuStateArchX8664 ++ (u32Bytes (UInt32.ofNat vcpuStateHeaderLen) ++
    (u64Bytes (UInt64.ofNat total) ++ (u16Bytes (UInt16.ofNat msrCount) ++
    (u16Bytes 0 ++ u32Bytes 0))))))

variable (v : VersionedVcpuStateSnapshotV1)

/-- The bytes of a value for a total length and a block of special registers. -/
def assemble (total : ℕ) (special : List UInt8) : List UInt8 :=
  header total v.msrs.length ++ (encodeRegisters v.registers ++
    (special ++ v.msrs.flatMap msrRecord))

/-- `VersionedVcpuStateSnapshotV1::encode` (lines 106-136). -/
def encode : Except VersionedVcpuStateSnapshotError (List UInt8) := do
  (validateMsrOrder v.msrs).mapError .state
  rejectIf (versionedPageVcpuCheckpointMsrLimit < v.msrs.length)
    (.invalidMsrCount (u16OrMax v.msrs.length))
  let totalLen ← vcpuStateEncodedLength v.msrs.length
  return v.assemble totalLen (encodeSpecialRegisters v.specialRegisters)

/-- The fields of `VersionedVcpuStateSnapshotV1::decode`, with the declared length (lines
141-214). -/
def decodeFields (length : ℕ) :
    EStateM VersionedVcpuStateSnapshotError Cursor (UInt64 × VersionedVcpuStateSnapshotV1) := do
  let magic ← wrapped (takeBytes 8)
  reads fun _ => rejectIf (magic ≠ versionedVcpuStateMagic) .invalidMagic
  let version ← wrapped readU16
  reads fun _ => rejectIf (version ≠ versionedVcpuStateVersion) (.unsupportedVersion version)
  let architecture ← wrapped readU16
  reads fun _ => rejectIf (architecture ≠ versionedVcpuStateArchX8664)
    (.unsupportedArchitecture architecture)
  let headerLen ← wrapped readU32
  reads fun _ => rejectIf (headerLen ≠ UInt32.ofNat vcpuStateHeaderLen)
    (.invalidHeaderLength headerLen)
  let declaredTotal ← wrapped readU64
  reads fun _ => rejectIf (declaredTotal.toNat ≠ length) (.invalidTotalLength declaredTotal length)
  let msrCount ← wrapped readU16
  reads fun _ => rejectIf (versionedPageVcpuCheckpointMsrLimit < msrCount.toNat)
    (.invalidMsrCount msrCount)
  let flags ← wrapped readU16
  reads fun _ => rejectIf (flags ≠ 0) (.nonZeroFlags flags)
  let reserved ← wrapped readU32
  reads fun _ => rejectIf (reserved ≠ 0) (.nonZeroReserved reserved)
  let expectedLen ← reads fun _ => vcpuStateEncodedLength msrCount.toNat
  reads fun _ => rejectIf (expectedLen ≠ length) (.invalidTotalLength declaredTotal expectedLen)
  let registers ← wrapped decodeRegisters
  let specialRegisters ← wrapped decodeSpecialRegisters
  let msrs ← wrapped (decodeMsrs "vcpu-state.msr.reserved" msrCount.toNat none)
  return (declaredTotal, {
    registers := .fromKvmRegs registers
    specialRegisters := .fromKvmSregs specialRegisters
    msrs })

/-- `VersionedVcpuStateSnapshotV1::decode` (lines 138-226). -/
def decode (bytes : List UInt8) :
    Except VersionedVcpuStateSnapshotError VersionedVcpuStateSnapshotV1 :=
  Cursor.runAll (do
    let fields ← decodeFields bytes.length
    Cursor.atEnd (.invalidTotalLength fields.1)
    return fields.2) bytes

/-- `VersionedVcpuStateSnapshotV1::materialize` (lines 228-250). -/
def materialize (hostMsrs : HostMsrIndexList) :
    Except VersionedVcpuStateSnapshotError VcpuStateSnapshot := do
  let msrs ← (materializeMsrs hostMsrs v.msrs).mapError .state
  return {
    registers := v.registers
    specialRegisters := v.specialRegisters
    msrs }

/-- What every stored value keeps to. -/
structure Valid : Prop where
  msrs : validateMsrOrder v.msrs = .ok ()
  msrCount : v.msrs.length ≤ versionedPageVcpuCheckpointMsrLimit

/-- The number of bytes of a value. -/
def size : ℕ := 488 + 16 * v.msrs.length

variable {v}

theorem Valid.size_lt (h : v.Valid) : v.size < 2 ^ 64 := by
  have hmsrs := h.msrCount
  rw [versionedPageVcpuCheckpointMsrLimit] at hmsrs
  unfold size
  omega

theorem fromSnapshot_eq_ok {snapshot : VcpuStateSnapshot} :
    fromSnapshot snapshot = .ok v ↔
      v.Valid ∧ v.registers = snapshot.registers ∧
        v.specialRegisters = snapshot.specialRegisters ∧ v.msrs = sortedMsrs snapshot.msrs := by
  simp only [fromSnapshot, bind_eq_ok, mapError_eq_ok, rejectIf_eq_ok, not_lt, pure, Except.pure,
    Except.ok.injEq, ← length_sortedMsrs]
  constructor
  · rintro ⟨_, hcount, _, hmsrs, rfl⟩
    exact ⟨⟨hmsrs, hcount⟩, rfl, rfl, rfl⟩
  · obtain ⟨registers, specialRegisters, msrs⟩ := v
    rintro ⟨hvalid, rfl, rfl, rfl⟩
    exact ⟨(), hvalid.msrCount, (), hvalid.msrs, rfl⟩

theorem encode_eq_ok {bytes : List UInt8} :
    v.encode = .ok bytes ↔
      v.Valid ∧ bytes = v.assemble v.size (encodeSpecialRegisters v.specialRegisters) := by
  simp only [encode, bind_eq_ok, mapError_eq_ok, rejectIf_eq_ok, not_lt,
    vcpuStateEncodedLength_eq_ok, pure, Except.pure, Except.ok.injEq]
  constructor
  · rintro ⟨_, hmsrs, _, hcount, _, ⟨-, rfl⟩, rfl⟩
    exact ⟨⟨hmsrs, hcount⟩, rfl⟩
  · rintro ⟨h, rfl⟩
    exact ⟨(), h.msrs, (), h.msrCount, _, ⟨h.size_lt, rfl⟩, rfl⟩

theorem decodeFields_recognizes (length : ℕ) :
    Recognizes (decodeFields length) fun w l =>
      w.1.toNat = length ∧ w.2.size = length ∧ w.2.Valid ∧
        ∃ sregs, Decoded sregs ∧ w.2.specialRegisters = .fromKvmSregs sregs ∧
          l = w.2.assemble length (specialRegisterBlock sregs) := by
  apply Recognizes.congr
  · unfold decodeFields
    apply Recognizes.expectBytes_bind ((takeBytes_recognizes 8).adaptExcept _) (by decide)
    iterate 2 apply Recognizes.expect_bind (readU16_recognizes.adaptExcept _)
    apply Recognizes.expect_bind (readU32_recognizes.adaptExcept _)
    apply Recognizes.field_bind (readU64_recognizes.adaptExcept _); intro declaredTotal
    apply Recognizes.guard_bind
    apply Recognizes.field_bind (readU16_recognizes.adaptExcept _); intro msrCount
    apply Recognizes.guard_bind
    apply Recognizes.expect_bind (readU16_recognizes.adaptExcept _)
    apply Recognizes.expect_bind (readU32_recognizes.adaptExcept _)
    apply Recognizes.bind (Recognizes.value _); intro expectedLen
    apply Recognizes.guard_bind
    apply Recognizes.field_bind (decodeRegisters_recognizes.adaptExcept _); intro registers
    apply Recognizes.bind (decodeSpecialRegisters_recognizes.adaptExcept _); intro special
    exact ((decodeMsrs_recognizes _ _ none).adaptExcept _).bind_pure _
  · rintro ⟨declared, v⟩ l
    simp only [not_not, not_lt, vcpuStateEncodedLength_eq_ok, ↓existsAndEq, and_assoc, true_and,
      exists_and_left]
    constructor
    · rintro ⟨declared, hdeclared, msrCount, hmsrCount, -, hexpected, registers, sregs, hdecoded,
        msrs, hmsrsLen, hmsrs, hv, rfl⟩
      cases hv
      have hmsrWord : UInt16.ofNat msrs.length = msrCount := by
        rw [hmsrsLen, UInt16.ofNat_toNat]
      have hdeclaredWord : UInt64.ofNat length = declared := by
        rw [← hdeclared, UInt64.ofNat_toNat]
      refine ⟨hdeclared, ?_, ⟨hmsrs, hmsrsLen ▸ hmsrCount⟩, sregs, hdecoded, rfl, ?_⟩
      · rw [← hexpected, size, hmsrsLen]
      · simp only [assemble, header, hmsrWord, hdeclaredWord, List.append_assoc, List.nil_append]
    · rintro ⟨hdeclared, hsize, hvalid, sregs, hdecoded, hspecial, rfl⟩
      obtain ⟨registers, special, msrs⟩ := v
      obtain rfl : special = .fromKvmSregs sregs := hspecial
      have hmsrCount := hvalid.msrCount
      have hmsrWord : (UInt16.ofNat msrs.length).toNat = msrs.length :=
        UInt16.toNat_ofNat_of_lt' (lt_of_le_of_lt hmsrCount (by decide))
      have hdeclaredWord : UInt64.ofNat length = declared := by
        rw [← hdeclared, UInt64.ofNat_toNat]
      refine ⟨declared, hdeclared, UInt16.ofNat msrs.length, ?_, ?_, ?_, registers.toKvmRegs, sregs,
        hdecoded, msrs, hmsrWord.symm, hvalid.msrs, rfl, ?_⟩
      · rwa [hmsrWord]
      · rw [hmsrWord]
        exact hvalid.size_lt
      · rw [hmsrWord]
        exact hsize
      · simp only [assemble, header, hdeclaredWord, List.append_assoc, List.nil_append,
          VcpuRegisterSnapshot.fromKvmRegs_toKvmRegs]

theorem length_header (total msrCount : ℕ) : (header total msrCount).length = 32 := by
  simp [header, versionedVcpuStateMagic, asciiBytes]

theorem assemble_inj {total : ℕ} {special special' : List UInt8} :
    v.assemble total special = v.assemble total special' ↔ special = special' := by
  simp only [assemble, List.append_cancel_left_eq, List.append_cancel_right_eq]

theorem length_assemble {total : ℕ} {special : List UInt8}
    (hspecial : special.length = specialRegisterBlockLen) :
    (v.assemble total special).length = v.size := by
  simp only [assemble, List.length_append, length_header, length_encodeRegisters, hspecial,
    length_flatMap_msrRecord, specialRegisterBlockLen, size]
  omega

theorem decode_eq_ok {bytes : List UInt8} :
    decode bytes = .ok v ↔
      v.Valid ∧ ∃ sregs, Decoded sregs ∧ v.specialRegisters = .fromKvmSregs sregs ∧
        bytes = v.assemble v.size (specialRegisterBlock sregs) := by
  refine Recognizes.runAll_declared_eq_ok
    (G := fun (v : VersionedVcpuStateSnapshotV1) length l => v.Valid ∧ ∃ sregs,
      Decoded sregs ∧ v.specialRegisters = .fromKvmSregs sregs ∧
        l = v.assemble length (specialRegisterBlock sregs)) decodeFields_recognizes ?_
  rintro ⟨hvalid, sregs, -, -, hbytes⟩
  refine ⟨?_, hvalid.size_lt⟩
  rw [hbytes, length_assemble (length_specialRegisterBlock sregs)]

theorem ne_nil_of_decode {bytes : List UInt8} (h : decode bytes = .ok v) : bytes ≠ [] := by
  obtain ⟨-, sregs, -, -, hbytes⟩ := decode_eq_ok.mp h
  have hlen : bytes.length = v.size := by
    rw [hbytes, length_assemble (length_specialRegisterBlock sregs)]
  rw [← List.length_pos_iff, hlen, size]
  omega

end VersionedVcpuStateSnapshotV1

end MiniHypervisor.Schema
