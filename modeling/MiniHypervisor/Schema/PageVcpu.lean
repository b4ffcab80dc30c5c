import MiniHypervisor.Checkpoint.Types
import MiniHypervisor.Control.Increasing
import MiniHypervisor.Schema.Fields

/-!
# The page+vCPU checkpoint schema

The versioned byte format of a vCPU with a set of guest pages
(`src/state_snapshot/page_set/schema_v1/codec.rs`): a header of forty bytes, the page records in
increasing order of address, the register blocks, and the MSR records in increasing order of
index.
-/

namespace MiniHypervisor.Schema

open Bytes Checkpoint Control Kvm Vcpu

/-! ### Constants -/

def versionedPageVcpuCheckpointMagic : List UInt8 :=
  asciiBytes ['M', 'H', 'V', 'C', 'K', 'P', 'T', '\x00']

def versionedPageVcpuCheckpointVersion : UInt16 := 1

def versionedPageVcpuCheckpointArchX8664 : UInt16 := 1

def versionedPageVcpuCheckpointMsrLimit : ℕ := 256

def headerLen : ℕ := 40

def longModePageSize : ℕ := 4096

def registerBlockLen : ℕ := 18 * 8

def specialRegisterBlockLen : ℕ := 8 * 24 + 2 * 16 + 11 * 8

def pageRecordLen : ℕ := 8 + longModePageSize

def msrRecordLen : ℕ := 16

/-- A count as it stands in an error: the largest 16-bit value if it does not fit. -/
def u16OrMax (n : ℕ) : UInt16 := if n < 2 ^ 16 then UInt16.ofNat n else 0xffff

/-- `encoded_length` (lines 1-17). -/
def encodedLength (pageCount msrCount : ℕ) : Except VersionedPageVcpuCheckpointError ℕ := do
  rejectIf (2 ^ 64 ≤ pageRecordLen * pageCount) .lengthOverflow
  rejectIf (2 ^ 64 ≤ msrRecordLen * msrCount) .lengthOverflow
  checkedSum .lengthOverflow [headerLen, pageRecordLen * pageCount, registerBlockLen,
    specialRegisterBlockLen, msrRecordLen * msrCount]

theorem encodedLength_eq_ok {pageCount msrCount n : ℕ} :
    encodedLength pageCount msrCount = .ok n ↔
      496 + 4104 * pageCount + 16 * msrCount < 2 ^ 64 ∧
        n = 496 + 4104 * pageCount + 16 * msrCount := by
  simp only [encodedLength, rejectIf_bind_eq_ok, checkedSum_eq_ok]
  simp only [pageRecordLen, longModePageSize, msrRecordLen, headerLen, registerBlockLen,
    specialRegisterBlockLen, List.sum_cons, List.sum_nil]
  omega

/-! ### Pages -/

/-- `validate_page_address` (lines 48-56). -/
def validatePageAddress (address : UInt64) : Except VersionedPageVcpuCheckpointError Unit := do
  rejectIf (address.toNat % longModePageSize ≠ 0) (.unalignedPage address)
  rejectIf (2 ^ 64 ≤ address.toNat + longModePageSize) (.pageAddressOverflow address)

/-- The loop of `validate_pages`, from the address seen last on. -/
def validatePagesFrom : Option UInt64 → List BoundedCheckpointPage →
    Except VersionedPageVcpuCheckpointError Unit
  | _, [] => .ok ()
  | previous, page :: pages => do
      validatePageAddress page.address
      rejectIf (page.bytes.length ≠ longModePageSize)
        (.invalidPageLength page.address page.bytes.length)
      checkAfter .nonCanonicalPageOrder previous page.address
      validatePagesFrom (some page.address) pages

/-- `validate_pages` (lines 19-46). -/
def validatePages (pages : List BoundedCheckpointPage) :
    Except VersionedPageVcpuCheckpointError Unit := do
  rejectIf (pages.isEmpty ∨ boundedCheckpointPageSetLimit < pages.length)
    (.invalidPageCount (u16OrMax pages.length))
  validatePagesFrom none pages

/-- The record of a page. -/
def pageRecord (page : BoundedCheckpointPage) : List UInt8 := u64Bytes page.address ++ page.bytes

/-- The page records of a decoder, from the address seen last on. -/
def decodePages : ℕ → Option UInt64 → Reader (List BoundedCheckpointPage)
  | 0, _ => return []
  | n + 1, previous => do
      let address ← readU64
      reads fun _ => validatePageAddress address
      reads fun _ => checkAfter .nonCanonicalPageOrder previous address
      let bytes ← takeBytes longModePageSize
      let pages ← decodePages n (some address)
      return { address, bytes } :: pages

/-- A page of the right size whose address is aligned and does not overflow. -/
structure PageOk (page : BoundedCheckpointPage) : Prop where
  address : validatePageAddress page.address = .ok ()
  length : page.bytes.length = longModePageSize

theorem validatePagesFrom_eq_ok {previous : Option UInt64} {pages : List BoundedCheckpointPage} :
    validatePagesFrom previous pages = .ok () ↔
      (∀ page ∈ pages, PageOk page) ∧
        IncreasingFrom BoundedCheckpointPage.address previous pages := by
  induction pages generalizing previous with
  | nil => simp [validatePagesFrom, IncreasingFrom]
  | cons page pages ih =>
      simp only [validatePagesFrom, bind_eq_ok, rejectIf_eq_ok, checkAfter_eq_ok, ih,
        IncreasingFrom, List.forall_mem_cons, not_not]
      constructor
      · rintro ⟨_, haddress, _, hlength, _, hafter, hpages, hincreasing⟩
        exact ⟨⟨⟨haddress, hlength⟩, hpages⟩, hafter, hincreasing⟩
      · rintro ⟨⟨⟨haddress, hlength⟩, hpages⟩, hafter, hincreasing⟩
        exact ⟨(), haddress, (), hlength, (), hafter, hpages, hincreasing⟩

theorem decodePages_recognizes (n : ℕ) (previous : Option UInt64) :
    Recognizes (decodePages n previous) fun v l =>
      v.length = n ∧ validatePagesFrom previous v = .ok () ∧ l = v.flatMap pageRecord := by
  induction n generalizing previous with
  | zero => exact .pure_nil rfl
  | succ n ih =>
      apply Recognizes.congr
      · unfold decodePages
        apply Recognizes.field_bind readU64_recognizes; intro address
        apply Recognizes.check_bind
        apply Recognizes.check_bind
        apply Recognizes.bind (takeBytes_recognizes _); intro bytes
        exact (ih (some address)).bind_pure _
      · intro v l
        simp only [validatePagesFrom_eq_ok]
        constructor
        · rintro ⟨address, _, ⟨haddress, hafter, bytes, _, _, ⟨rfl, hlength⟩,
            ⟨pages, ⟨rfl, ⟨hpages, hincreasing⟩, rfl⟩, rfl⟩, rfl⟩, rfl⟩
          refine ⟨rfl, ⟨List.forall_mem_cons.mpr ⟨⟨haddress, hlength⟩, hpages⟩,
            checkAfter_eq_ok.mp hafter, hincreasing⟩, ?_⟩
          rw [List.flatMap_cons, pageRecord, List.append_assoc]
        · rintro ⟨hlen, ⟨hpages, hincreasing⟩, rfl⟩
          obtain ⟨page, pages, rfl⟩ := List.exists_cons_of_length_eq_add_one hlen
          obtain ⟨hpage, hpages⟩ := List.forall_mem_cons.mp hpages
          refine ⟨page.address, page.bytes ++ pages.flatMap pageRecord, ⟨hpage.address,
            checkAfter_eq_ok.mpr hincreasing.1, page.bytes, page.bytes, _, ⟨rfl, hpage.length⟩,
            ⟨pages, ⟨Nat.succ.inj hlen, ⟨hpages, hincreasing.2⟩, rfl⟩, rfl⟩, rfl⟩, ?_⟩
          rw [List.flatMap_cons, pageRecord, List.append_assoc]

theorem length_flatMap_pageRecord {pages : List BoundedCheckpointPage}
    (h : ∀ page ∈ pages, PageOk page) :
    (pages.flatMap pageRecord).length = 4104 * pages.length := by
  induction pages with
  | nil => rfl
  | cons page pages ih =>
      obtain ⟨hpage, hpages⟩ := List.forall_mem_cons.mp h
      have hbytes : page.bytes.length = 4096 := hpage.length
      rw [List.flatMap_cons, List.length_append, ih hpages, pageRecord, List.length_append,
        length_u64Bytes, hbytes, List.length_cons]
      omega

/-! ### MSRs -/

/-- The loop of `validate_msr_order`, from the index seen last on. -/
def validateMsrOrderFrom : Option UInt32 → List (MsrIndex × UInt64) →
    Except VersionedPageVcpuCheckpointError Unit
  | _, [] => .ok ()
  | previous, msr :: msrs => do
      checkAfter .nonCanonicalMsrOrder previous msr.1
      validateMsrOrderFrom (some msr.1) msrs

/-- `validate_msr_order` (lines 58-73). -/
def validateMsrOrder (msrs : List (MsrIndex × UInt64)) :
    Except VersionedPageVcpuCheckpointError Unit :=
  validateMsrOrderFrom none msrs

/-- The record of an MSR. -/
def msrRecord (msr : MsrIndex × UInt64) : List UInt8 :=
  u32Bytes msr.1 ++ (u32Bytes 0 ++ u64Bytes msr.2)

/-- The MSR records of a decoder, from the index seen last on; `field` names the reserved word
in errors. -/
def decodeMsrs (field : String) : ℕ → Option UInt32 → Reader (List (MsrIndex × UInt64))
  | 0, _ => return []
  | n + 1, previous => do
      let index ← readU32
      let reserved ← readU32
      reject (reserved ≠ 0) (.nonZeroReserved field reserved.toUInt64)
      reads fun _ => checkAfter .nonCanonicalMsrOrder previous index
      let value ← readU64
      let msrs ← decodeMsrs field n (some index)
      return (index, value) :: msrs

theorem validateMsrOrderFrom_eq_ok {previous : Option UInt32} {msrs : List (MsrIndex × UInt64)} :
    validateMsrOrderFrom previous msrs = .ok () ↔ IncreasingFrom Prod.fst previous msrs := by
  induction msrs generalizing previous with
  | nil => simp [validateMsrOrderFrom, IncreasingFrom]
  | cons msr msrs ih =>
      simp only [validateMsrOrderFrom, bind_eq_ok, checkAfter_eq_ok, ih, IncreasingFrom]
      constructor
      · rintro ⟨_, hafter, hmsrs⟩
        exact ⟨hafter, hmsrs⟩
      · rintro ⟨hafter, hmsrs⟩
        exact ⟨(), hafter, hmsrs⟩

theorem validateMsrOrder_eq_ok {msrs : List (MsrIndex × UInt64)} :
    validateMsrOrder msrs = .ok () ↔ msrs.Pairwise fun x y => x.1 < y.1 := by
  rw [validateMsrOrder, validateMsrOrderFrom_eq_ok, increasingFrom_none_iff]

theorem decodeMsrs_recognizes (field : String) (n : ℕ) (previous : Option UInt32) :
    Recognizes (decodeMsrs field n previous) fun v l =>
      v.length = n ∧ validateMsrOrderFrom previous v = .ok () ∧ l = v.flatMap msrRecord := by
  induction n generalizing previous with
  | zero => exact .pure_nil rfl
  | succ n ih =>
      apply Recognizes.congr
      · unfold decodeMsrs
        apply Recognizes.field_bind readU32_recognizes; intro index
        apply Recognizes.field_bind readU32_recognizes; intro reserved
        apply Recognizes.guard_bind
        apply Recognizes.check_bind
        apply Recognizes.field_bind readU64_recognizes; intro value
        exact (ih (some index)).bind_pure _
      · intro v l
        simp only [validateMsrOrderFrom_eq_ok]
        constructor
        · rintro ⟨index, _, ⟨reserved, _, ⟨hreserved, hafter, value, _,
            ⟨msrs, ⟨rfl, hincreasing, rfl⟩, rfl⟩, rfl⟩, rfl⟩, rfl⟩
          obtain rfl := not_not.mp hreserved
          refine ⟨rfl, ⟨checkAfter_eq_ok.mp hafter, hincreasing⟩, ?_⟩
          simp only [List.flatMap_cons, msrRecord, List.append_assoc]
        · rintro ⟨hlen, hincreasing, rfl⟩
          obtain ⟨msr, msrs, rfl⟩ := List.exists_cons_of_length_eq_add_one hlen
          refine ⟨msr.1, _, ⟨0, _, ⟨by simp, checkAfter_eq_ok.mpr hincreasing.1, msr.2, _,
            ⟨msrs, ⟨Nat.succ.inj hlen, hincreasing.2, rfl⟩, rfl⟩, rfl⟩, rfl⟩, ?_⟩
          simp only [List.flatMap_cons, msrRecord, List.append_assoc]

theorem length_flatMap_msrRecord (msrs : List (MsrIndex × UInt64)) :
    (msrs.flatMap msrRecord).length = 16 * msrs.length := by
  induction msrs with
  | nil => rfl
  | cons msr msrs ih =>
      rw [List.flatMap_cons, List.length_append, ih, List.length_cons]
      simp only [msrRecord, List.length_append, length_u32Bytes, length_u64Bytes]
      omega

/-- The captured MSRs in the order of their indices (`sort_unstable_by_key`; equal keys are
refused afterwards, so the order of equal keys does not matter). -/
def sortedMsrs (snapshot : GuestMsrSnapshot) : List (MsrIndex × UInt64) :=
  (snapshot.values.values.map fun value => (value.index, value.value)).mergeSort
    fun x y => x.1 ≤ y.1

theorem length_sortedMsrs (snapshot : GuestMsrSnapshot) :
    (sortedMsrs snapshot).length = snapshot.values.values.length := by
  rw [sortedMsrs, List.length_mergeSort, List.length_map]

/-- The MSR snapshot that a list of stored MSRs stands for on a host. -/
def materializeMsrs (hostMsrs : HostMsrIndexList) (msrs : List (MsrIndex × UInt64)) :
    Except VersionedPageVcpuCheckpointError GuestMsrSnapshot := do
  validateMsrOrder msrs
  let policy ← (GuestMsrAccessPolicy.fromHost hostMsrs (msrs.map Prod.fst)).mapError
    fun error => .hostMsrIncompatible error.text
  let values ← (GuestMsrValueSet.fromPolicy policy msrs).mapError
    fun error => .msrValueSet error.text
  (GuestMsrSnapshot.fromCapture policy values).mapError fun error => .msrSnapshot error.text

/-! ### The schema -/

structure VersionedPageVcpuCheckpointV1 where
  pages : List BoundedCheckpointPage
  registers : VcpuRegisterSnapshot
  specialRegisters : VcpuSpecialRegisterSnapshot
  msrs : List (MsrIndex × UInt64)
  deriving DecidableEq, Repr

namespace VersionedPageVcpuCheckpointV1

/-- `VersionedPageVcpuCheckpointV1::from_checkpoint` (lines 2-27). -/
def fromCheckpoint (checkpoint : BoundedVcpuPageSetCheckpoint) :
    Except VersionedPageVcpuCheckpointError VersionedPageVcpuCheckpointV1 := do
  validatePages checkpoint.pages
  let count := checkpoint.vcpu.msrs.values.values.length
  rejectIf (versionedPageVcpuCheckpointMsrLimit < count) (.invalidMsrCount (u16OrMax count))
  let msrs := sortedMsrs checkpoint.vcpu.msrs
  validateMsrOrder msrs
  return {
    pages := checkpoint.pages
    registers := checkpoint.vcpu.registers
    specialRegisters := checkpoint.vcpu.specialRegisters
    msrs }

/-- The header for a total length and the two counts. -/
def header (total pageCount msrCount : ℕ) : List UInt8 :=
  versionedPageVcpuCheckpointMagic ++ (u16Bytes versionedPageVcpuCheckpointVersion ++
    (u16Bytes versionedPageVcpuCheckpointArchX8664 ++ (u32Bytes (UInt32.ofNat headerLen) ++
    (u64Bytes (UInt64.ofNat total) ++ (u32Bytes (UInt32.ofNat longModePageSize) ++
    (u16Bytes (UInt16.ofNat pageCount) ++ (u16Bytes (UInt16.ofNat msrCount) ++
    (u32Bytes 0 ++ u32Bytes 0))))))))

variable (v : VersionedPageVcpuCheckpointV1)

/-- The bytes of a value for a total length and a block of special registers. -/
def assemble (total : ℕ) (special : List UInt8) : List UInt8 :=
  header total v.pages.length v.msrs.length ++ (v.pages.flatMap pageRecord ++
    (encodeRegisters v.registers ++ (special ++ v.msrs.flatMap msrRecord)))

/-- `VersionedPageVcpuCheckpointV1::encode` (lines 44-84). -/
def encode : Except VersionedPageVcpuCheckpointError (List UInt8) := do
  validatePages v.pages
  validateMsrOrder v.msrs
  rejectIf (versionedPageVcpuCheckpointMsrLimit < v.msrs.length)
    (.invalidMsrCount (u16OrMax v.msrs.length))
  let totalLen ← encodedLength v.pages.length v.msrs.length
  return v.assemble totalLen (encodeSpecialRegisters v.specialRegisters)

/-- The fields of `VersionedPageVcpuCheckpointV1::decode`, with the declared length (lines
87-196). -/
def decodeFields (length : ℕ) : Reader (UInt64 × VersionedPageVcpuCheckpointV1) := do
  let magic ← takeBytes 8
  reject (magic ≠ versionedPageVcpuCheckpointMagic) .invalidMagic
  let version ← readU16
  reject (version ≠ versionedPageVcpuCheckpointVersion) (.unsupportedVersion version)
  let architecture ← readU16
  reject (architecture ≠ versionedPageVcpuCheckpointArchX8664)
    (.unsupportedArchitecture architecture)
  let declaredHeader ← readU32
  reject (declaredHeader ≠ UInt32.ofNat headerLen) (.invalidHeaderLength declaredHeader)
  let declaredTotal ← readU64
  reject (declaredTotal.toNat ≠ length) (.invalidTotalLength declaredTotal length)
  let pageSize ← readU32
  reject (pageSize ≠ UInt32.ofNat longModePageSize) (.invalidPageSize pageSize)
  let pageCount ← readU16
  reject (pageCount = 0 ∨ boundedCheckpointPageSetLimit < pageCount.toNat)
    (.invalidPageCount pageCount)
  let msrCount ← readU16
  reject (versionedPageVcpuCheckpointMsrLimit < msrCount.toNat) (.invalidMsrCount msrCount)
  let flags ← readU32
  reject (flags ≠ 0) (.nonZeroFlags flags)
  let reserved ← readU32
  reject (reserved ≠ 0) (.nonZeroReserved "header.reserved" reserved.toUInt64)
  let expectedLen ← reads fun _ => encodedLength pageCount.toNat msrCount.toNat
  reject (expectedLen ≠ length) (.invalidTotalLength declaredTotal expectedLen)
  let pages ← decodePages pageCount.toNat none
  let registers ← decodeRegisters
  let specialRegisters ← decodeSpecialRegisters
  let msrs ← decodeMsrs "msr.reserved" msrCount.toNat none
  return (declaredTotal, {
    pages
    registers := .fromKvmRegs registers
    specialRegisters := .fromKvmSregs specialRegisters
    msrs })

/-- `VersionedPageVcpuCheckpointV1::decode` (lines 86-209). -/
def decode (bytes : List UInt8) :
    Except VersionedPageVcpuCheckpointError VersionedPageVcpuCheckpointV1 :=
  Cursor.runAll (do
    let fields ← decodeFields bytes.length
    Cursor.atEnd (.invalidTotalLength fields.1)
    return fields.2) bytes

/-- `VersionedPageVcpuCheckpointV1::materialize` (lines 211-238). -/
def materialize (hostMsrs : HostMsrIndexList) :
    Except VersionedPageVcpuCheckpointError BoundedVcpuPageSetCheckpoint := do
  validatePages v.pages
  let msrs ← materializeMsrs hostMsrs v.msrs
  return {
    pages := v.pages
    vcpu := {
      registers := v.registers
      specialRegisters := v.specialRegisters
      msrs } }

/-- What every stored value keeps to. -/
structure Valid : Prop where
  pages : validatePages v.pages = .ok ()
  msrs : validateMsrOrder v.msrs = .ok ()
  msrCount : v.msrs.length ≤ versionedPageVcpuCheckpointMsrLimit

/-- The number of bytes of a value. -/
def size : ℕ := 496 + 4104 * v.pages.length + 16 * v.msrs.length

variable {v}

theorem Valid.pageCount (h : v.Valid) :
    v.pages ≠ [] ∧ v.pages.length ≤ boundedCheckpointPageSetLimit := by
  have hpages := h.pages
  rw [validatePages, rejectIf_bind_eq_ok, not_or, not_lt, List.isEmpty_iff] at hpages
  exact hpages.1

theorem Valid.size_lt (h : v.Valid) : v.size < 2 ^ 64 := by
  have hpages := h.pageCount.2
  have hmsrs := h.msrCount
  rw [boundedCheckpointPageSetLimit] at hpages
  rw [versionedPageVcpuCheckpointMsrLimit] at hmsrs
  unfold size
  omega

theorem fromCheckpoint_eq_ok {checkpoint : BoundedVcpuPageSetCheckpoint} :
    fromCheckpoint checkpoint = .ok v ↔
      v.Valid ∧ v.pages = checkpoint.pages ∧ v.registers = checkpoint.vcpu.registers ∧
        v.specialRegisters = checkpoint.vcpu.specialRegisters ∧
        v.msrs = sortedMsrs checkpoint.vcpu.msrs := by
  simp only [fromCheckpoint, bind_eq_ok, rejectIf_eq_ok, not_lt, pure, Except.pure,
    Except.ok.injEq, ← length_sortedMsrs]
  constructor
  · rintro ⟨_, hpages, _, hcount, _, hmsrs, rfl⟩
    exact ⟨⟨hpages, hmsrs, hcount⟩, rfl, rfl, rfl, rfl⟩
  · obtain ⟨pages, registers, specialRegisters, msrs⟩ := v
    rintro ⟨hvalid, rfl, rfl, rfl, rfl⟩
    exact ⟨(), hvalid.pages, (), hvalid.msrCount, (), hvalid.msrs, rfl⟩

theorem encode_eq_ok {bytes : List UInt8} :
    v.encode = .ok bytes ↔
      v.Valid ∧ bytes = v.assemble v.size (encodeSpecialRegisters v.specialRegisters) := by
  simp only [encode, bind_eq_ok, rejectIf_eq_ok, not_lt, encodedLength_eq_ok, pure, Except.pure,
    Except.ok.injEq]
  constructor
  · rintro ⟨_, hpages, _, hmsrs, _, hcount, _, ⟨-, rfl⟩, rfl⟩
    exact ⟨⟨hpages, hmsrs, hcount⟩, rfl⟩
  · rintro ⟨h, rfl⟩
    exact ⟨(), h.pages, (), h.msrs, (), h.msrCount, _, ⟨h.size_lt, rfl⟩, rfl⟩

theorem decodeFields_recognizes (length : ℕ) :
    Recognizes (decodeFields length) fun w l =>
      w.1.toNat = length ∧ w.2.size = length ∧ w.2.Valid ∧
        ∃ sregs, Decoded sregs ∧ w.2.specialRegisters = .fromKvmSregs sregs ∧
          l = w.2.assemble length (specialRegisterBlock sregs) := by
  apply Recognizes.congr
  · unfold decodeFields
    apply Recognizes.expectBytes_bind (takeBytes_recognizes 8) (by decide)
    iterate 2 apply Recognizes.expect_bind readU16_recognizes
    apply Recognizes.expect_bind readU32_recognizes
    apply Recognizes.field_bind readU64_recognizes; intro declaredTotal
    apply Recognizes.guard_bind
    apply Recognizes.expect_bind readU32_recognizes
    iterate 2
      apply Recognizes.field_bind readU16_recognizes; intro _
      apply Recognizes.guard_bind
    iterate 2 apply Recognizes.expect_bind readU32_recognizes
    apply Recognizes.bind (Recognizes.value _); intro expectedLen
    apply Recognizes.guard_bind
    apply Recognizes.bind (decodePages_recognizes _ none); intro pages
    apply Recognizes.field_bind decodeRegisters_recognizes; intro registers
    apply Recognizes.bind decodeSpecialRegisters_recognizes; intro specialRegisters
    exact (decodeMsrs_recognizes _ _ none).bind_pure _
  · rintro ⟨declared, v⟩ l
    -- the fields in their order, with the conditions on each
    simp only [not_or, not_not, not_lt, encodedLength_eq_ok, ↓existsAndEq, and_assoc, true_and,
      exists_and_left]
    constructor
    · rintro ⟨declared, hdeclared, pageCount, hne, hpageCount, msrCount, hmsrCount, -, hexpected,
        pages, hpagesLen, hpages, registers, sregs, hdecoded, msrs, hmsrsLen, hmsrs, hv, rfl⟩
      cases hv
      have hpageWord : UInt16.ofNat pages.length = pageCount := by
        rw [hpagesLen, UInt16.ofNat_toNat]
      have hmsrWord : UInt16.ofNat msrs.length = msrCount := by
        rw [hmsrsLen, UInt16.ofNat_toNat]
      have hdeclaredWord : UInt64.ofNat length = declared := by
        rw [← hdeclared, UInt64.ofNat_toNat]
      refine ⟨hdeclared, ?_, ⟨?_, hmsrs, ?_⟩, sregs, hdecoded, rfl, ?_⟩
      · rw [← hexpected, size, hpagesLen, hmsrsLen]
      · rw [validatePages, rejectIf_bind_eq_ok, not_or, not_lt, List.isEmpty_iff,
          ← List.length_eq_zero_iff, hpagesLen]
        exact ⟨⟨fun h => hne (UInt16.toNat_inj.mp h), hpageCount⟩, hpages⟩
      · exact hmsrsLen ▸ hmsrCount
      · simp only [assemble, header, hpageWord, hmsrWord, hdeclaredWord, List.append_assoc,
          List.nil_append]
    · rintro ⟨hdeclared, hsize, hvalid, sregs, hdecoded, hspecial, rfl⟩
      obtain ⟨pages, registers, special, msrs⟩ := v
      obtain rfl : special = .fromKvmSregs sregs := hspecial
      have hpageCount := hvalid.pageCount.2
      have hmsrCount := hvalid.msrCount
      have hpages := hvalid.pages
      rw [validatePages, rejectIf_bind_eq_ok, not_or, not_lt, List.isEmpty_iff] at hpages
      have hpageWord : (UInt16.ofNat pages.length).toNat = pages.length :=
        UInt16.toNat_ofNat_of_lt' (lt_of_le_of_lt hpageCount (by decide))
      have hmsrWord : (UInt16.ofNat msrs.length).toNat = msrs.length :=
        UInt16.toNat_ofNat_of_lt' (lt_of_le_of_lt hmsrCount (by decide))
      have hdeclaredWord : UInt64.ofNat length = declared := by
        rw [← hdeclared, UInt64.ofNat_toNat]
      refine ⟨declared, hdeclared, UInt16.ofNat pages.length, ?_, ?_, UInt16.ofNat msrs.length, ?_,
        ?_, ?_, pages, hpageWord.symm, hpages.2, registers.toKvmRegs, sregs, hdecoded, msrs,
        hmsrWord.symm, hvalid.msrs, rfl, ?_⟩
      · rw [← UInt16.toNat_inj, hpageWord]
        exact fun h => hpages.1.1 (List.length_eq_zero_iff.mp h)
      · rwa [hpageWord]
      · rwa [hmsrWord]
      · rw [hpageWord, hmsrWord]
        exact hvalid.size_lt
      · rw [hpageWord, hmsrWord]
        exact hsize
      · simp only [assemble, header, hdeclaredWord, List.append_assoc, List.nil_append,
          VcpuRegisterSnapshot.fromKvmRegs_toKvmRegs]

theorem length_header (total pageCount msrCount : ℕ) :
    (header total pageCount msrCount).length = 40 := by
  simp [header, versionedPageVcpuCheckpointMagic, asciiBytes]

theorem assemble_inj {total : ℕ} {special special' : List UInt8} :
    v.assemble total special = v.assemble total special' ↔ special = special' := by
  simp only [assemble, List.append_cancel_left_eq, List.append_cancel_right_eq]

theorem length_assemble {total : ℕ} {special : List UInt8} (h : v.Valid)
    (hspecial : special.length = specialRegisterBlockLen) :
    (v.assemble total special).length = v.size := by
  have hpages := h.pages
  rw [validatePages, rejectIf_bind_eq_ok, validatePagesFrom_eq_ok] at hpages
  simp only [assemble, List.length_append, length_header, length_encodeRegisters, hspecial,
    length_flatMap_msrRecord, length_flatMap_pageRecord hpages.2.1, specialRegisterBlockLen, size]
  omega

theorem decode_eq_ok {bytes : List UInt8} :
    decode bytes = .ok v ↔
      v.Valid ∧ ∃ sregs, Decoded sregs ∧ v.specialRegisters = .fromKvmSregs sregs ∧
        bytes = v.assemble v.size (specialRegisterBlock sregs) := by
  refine Recognizes.runAll_declared_eq_ok
    (G := fun (v : VersionedPageVcpuCheckpointV1) length l => v.Valid ∧ ∃ sregs,
      Decoded sregs ∧ v.specialRegisters = .fromKvmSregs sregs ∧
        l = v.assemble length (specialRegisterBlock sregs)) decodeFields_recognizes ?_
  rintro ⟨hvalid, sregs, -, -, hbytes⟩
  refine ⟨?_, hvalid.size_lt⟩
  rw [hbytes, length_assemble hvalid (length_specialRegisterBlock sregs)]

theorem ne_nil_of_decode {bytes : List UInt8} (h : decode bytes = .ok v) : bytes ≠ [] := by
  obtain ⟨hvalid, sregs, -, -, hbytes⟩ := decode_eq_ok.mp h
  have hlen : bytes.length = v.size := by
    rw [hbytes, length_assemble hvalid (length_specialRegisterBlock sregs)]
  rw [← List.length_pos_iff, hlen, size]
  omega

end VersionedPageVcpuCheckpointV1

end MiniHypervisor.Schema
