import MiniHypervisor.Bytes.Cursor
import MiniHypervisor.Vcpu.Registers

/-!
# Fields of the vCPU schemas

The register blocks that the page+vCPU and the vCPU-state schema share
(`src/state_snapshot/page_set/schema_v1/encoding.rs`), with the cursor that reads them.  A
segment block is read field by field and its fields are checked; the snapshot made of it then
clears bit 0 of the type of an unusable segment, so a block is not always what the encoder writes
for the snapshot.

## Main results

* `decodeRegisters_recognizes`, `decodeSpecialRegisters_recognizes` : the formats.
-/

namespace MiniHypervisor.Schema

open Bytes Control Vcpu

inductive VersionedPageVcpuCheckpointError where
  | invalidMagic
  | unsupportedVersion (version : UInt16)
  | unsupportedArchitecture (architecture : UInt16)
  | invalidHeaderLength (length : UInt32)
  | invalidTotalLength (declared : UInt64) (actual : ℕ)
  | invalidPageSize (size : UInt32)
  | invalidPageCount (count : UInt16)
  | invalidMsrCount (count : UInt16)
  | nonZeroFlags (flags : UInt32)
  | nonZeroReserved (field : String) (value : UInt64)
  | lengthOverflow
  | truncated (offset needed remaining : ℕ)
  | unalignedPage (address : UInt64)
  | pageAddressOverflow (address : UInt64)
  | nonCanonicalPageOrder (previous current : UInt64)
  | invalidPageLength (address : UInt64) (length : ℕ)
  | invalidSegmentField (segment : UInt8) (field : String) (value : UInt8)
  | nonCanonicalMsrOrder (previous current : UInt32)
  | hostMsrIncompatible (detail : String)
  | msrValueSet (detail : String)
  | msrSnapshot (detail : String)
  deriving DecidableEq, Repr

/-- A reader of the schema. -/
abbrev Reader (α : Type) : Type := EStateM VersionedPageVcpuCheckpointError Cursor α

/-- A check of the schema that does not read. -/
abbrev reject (c : Prop) [Decidable c] (e : VersionedPageVcpuCheckpointError) : Reader Unit :=
  reads fun _ => rejectIf c e

/-- `Cursor::take`. -/
def takeBytes : ℕ → Reader (List UInt8) := Cursor.take .truncated

/-- `Cursor::u8`. -/
def readU8 : Reader UInt8 := Cursor.u8 .truncated

/-- `Cursor::u16`. -/
def readU16 : Reader UInt16 := Cursor.u16 .truncated

/-- `Cursor::u32`. -/
def readU32 : Reader UInt32 := Cursor.u32 .truncated

/-- `Cursor::u64`. -/
def readU64 : Reader UInt64 := Cursor.u64 .truncated

theorem readU8_recognizes : Recognizes readU8 fun v l => l = [v] := .u8 _

theorem readU16_recognizes : Recognizes readU16 fun v l => l = u16Bytes v := .u16 _

theorem readU32_recognizes : Recognizes readU32 fun v l => l = u32Bytes v := .u32 _

theorem readU64_recognizes : Recognizes readU64 fun v l => l = u64Bytes v := .u64 _

theorem takeBytes_recognizes (n : ℕ) :
    Recognizes (takeBytes n) fun v l => l = v ∧ v.length = n := .take _ n

/-! ### General registers -/

/-- `encode_registers` (lines 75-98). -/
def encodeRegisters (registers : VcpuRegisterSnapshot) : List UInt8 :=
  [registers.rax, registers.rbx, registers.rcx, registers.rdx, registers.rsi, registers.rdi,
    registers.rsp, registers.rbp, registers.r8, registers.r9, registers.r10, registers.r11,
    registers.r12, registers.r13, registers.r14, registers.r15, registers.rip,
    registers.rflags].flatMap u64Bytes

/-- `decode_registers` (lines 100-123). -/
def decodeRegisters : Reader KvmRegs := do
  let rax ← readU64
  let rbx ← readU64
  let rcx ← readU64
  let rdx ← readU64
  let rsi ← readU64
  let rdi ← readU64
  let rsp ← readU64
  let rbp ← readU64
  let r8 ← readU64
  let r9 ← readU64
  let r10 ← readU64
  let r11 ← readU64
  let r12 ← readU64
  let r13 ← readU64
  let r14 ← readU64
  let r15 ← readU64
  let rip ← readU64
  let rflags ← readU64
  return {
    rax
    rbx
    rcx
    rdx
    rsi
    rdi
    rsp
    rbp
    r8
    r9
    r10
    r11
    r12
    r13
    r14
    r15
    rip
    rflags }

theorem decodeRegisters_recognizes :
    Recognizes decodeRegisters fun v l => l = encodeRegisters (.fromKvmRegs v) := by
  apply Recognizes.congr
  · unfold decodeRegisters
    iterate 18 (apply Recognizes.field_bind readU64_recognizes; intro _)
    exact Recognizes.pure _
  · rintro ⟨⟩ l
    simp [encodeRegisters, VcpuRegisterSnapshot.fromKvmRegs, and_assoc]

/-! ### Segments -/

/-- The block of a segment. -/
def segmentBlock (segment : KvmSegment) : List UInt8 :=
  u64Bytes segment.base ++ (u32Bytes segment.limit ++ (u16Bytes segment.selector ++
    [segment.type_, segment.present, segment.dpl, segment.db, segment.s, segment.l, segment.g,
      segment.avl, segment.unusable, 0]))

@[simp] theorem length_segmentBlock (segment : KvmSegment) :
    (segmentBlock segment).length = 24 := by
  simp [segmentBlock]

/-- `encode_segment` (lines 188-204). -/
def encodeSegment (segment : VcpuSegmentState) : List UInt8 :=
  u64Bytes segment.base ++ (u32Bytes segment.limit ++ (u16Bytes segment.selector ++
    [segment.segmentType, segment.present, segment.dpl, segment.db, segment.s, segment.l,
      segment.g, segment.avl, segment.unusable, 0]))

/-- `decode_segment` (lines 206-275). -/
def decodeSegment (segment : UInt8) : Reader KvmSegment := do
  let base ← readU64
  let limit ← readU32
  let selector ← readU16
  let type_ ← readU8
  let present ← readU8
  let dpl ← readU8
  let db ← readU8
  let s ← readU8
  let l ← readU8
  let g ← readU8
  let avl ← readU8
  let unusable ← readU8
  let reserved ← readU8
  reject (0x0f < type_) (.invalidSegmentField segment "type" type_)
  reject (3 < dpl) (.invalidSegmentField segment "dpl" dpl)
  [("present", present), ("db", db), ("s", s), ("l", l), ("g", g), ("avl", avl),
    ("unusable", unusable)].forM fun x =>
      reject (1 < x.2) (.invalidSegmentField segment x.1 x.2)
  reject (reserved ≠ 0) (.nonZeroReserved "segment.reserved" reserved.toUInt64)
  return {
    base
    limit
    selector
    type_
    present
    dpl
    db
    s
    l
    g
    avl
    unusable
    padding := 0 }

/-- The segment fields have architectural values: a type of four bits, a privilege level of two
bits, and flags of one bit. -/
structure Architectural (segment : KvmSegment) : Prop where
  type_le : segment.type_ ≤ 15
  dpl_le : segment.dpl ≤ 3
  present_le : segment.present ≤ 1
  db_le : segment.db ≤ 1
  s_le : segment.s ≤ 1
  l_le : segment.l ≤ 1
  g_le : segment.g ≤ 1
  avl_le : segment.avl ≤ 1
  unusable_le : segment.unusable ≤ 1

theorem architectural_iff {segment : KvmSegment} :
    Architectural segment ↔ segment.type_ ≤ 15 ∧ segment.dpl ≤ 3 ∧ segment.present ≤ 1 ∧
      segment.db ≤ 1 ∧ segment.s ≤ 1 ∧ segment.l ≤ 1 ∧ segment.g ≤ 1 ∧ segment.avl ≤ 1 ∧
      segment.unusable ≤ 1 :=
  ⟨fun ⟨h₁, h₂, h₃, h₄, h₅, h₆, h₇, h₈, h₉⟩ => ⟨h₁, h₂, h₃, h₄, h₅, h₆, h₇, h₈, h₉⟩,
    fun ⟨h₁, h₂, h₃, h₄, h₅, h₆, h₇, h₈, h₉⟩ => ⟨h₁, h₂, h₃, h₄, h₅, h₆, h₇, h₈, h₉⟩⟩

instance (segment : KvmSegment) : Decidable (Architectural segment) :=
  decidable_of_iff _ architectural_iff.symm

theorem decodeSegment_recognizes (segment : UInt8) :
    Recognizes (decodeSegment segment) fun v l =>
      Architectural v ∧ v.padding = 0 ∧ l = segmentBlock v := by
  apply Recognizes.congr
  · unfold decodeSegment
    apply Recognizes.field_bind readU64_recognizes; intro _
    apply Recognizes.field_bind readU32_recognizes; intro _
    apply Recognizes.field_bind readU16_recognizes; intro _
    iterate 10 (apply Recognizes.field_bind readU8_recognizes; intro _)
    iterate 2 apply Recognizes.guard_bind
    apply Recognizes.bind (Recognizes.guards _); intro _
    apply Recognizes.guard_bind
    exact Recognizes.pure _
  · rintro ⟨⟩ l
    simp [architectural_iff, segmentBlock, and_assoc]

/-! ### Descriptor tables -/

/-- The block of a descriptor table. -/
def dtableBlock (table : KvmDtable) : List UInt8 :=
  u64Bytes table.base ++ (u16Bytes table.limit ++ List.replicate 6 0)

/-- `encode_dtable` (lines 277-281). -/
def encodeDtable (table : VcpuDescriptorTableState) : List UInt8 :=
  u64Bytes table.base ++ (u16Bytes table.limit ++ List.replicate 6 0)

/-- `decode_dtable` (lines 283-307). -/
def decodeDtable (reservedField : String) : Reader KvmDtable := do
  let base ← readU64
  let limit ← readU16
  let reserved ← takeBytes 6
  reject (∃ byte ∈ reserved, byte ≠ 0) (.nonZeroReserved reservedField
    (reserved.zipIdx.foldl (fun acc x => acc ||| x.1.toUInt64 <<< (8 * UInt64.ofNat x.2)) 0))
  return { base, limit, padding := (0, 0, 0) }

theorem eq_replicate_iff_forall_zero {l : List UInt8} :
    l.length = 6 ∧ (¬ ∃ byte ∈ l, byte ≠ 0) ↔ l = List.replicate 6 0 := by
  rw [List.eq_replicate_iff]
  simp only [ne_eq, not_exists, not_and, not_not]

theorem decodeDtable_recognizes (reservedField : String) :
    Recognizes (decodeDtable reservedField) fun v l =>
      v.padding = (0, 0, 0) ∧ l = dtableBlock v := by
  apply Recognizes.congr
  · unfold decodeDtable
    apply Recognizes.field_bind readU64_recognizes; intro _
    apply Recognizes.field_bind readU16_recognizes; intro _
    apply Recognizes.bind (takeBytes_recognizes 6); intro _
    apply Recognizes.guard_bind
    exact Recognizes.pure _
  · rintro ⟨base, limit, padding⟩ l
    constructor
    · rintro ⟨_, _, ⟨_, _, ⟨reserved, _, _, ⟨rfl, hlen⟩, ⟨hzero, hv, rfl⟩, rfl⟩, rfl⟩, rfl⟩
      obtain rfl := eq_replicate_iff_forall_zero.mp ⟨hlen, hzero⟩
      cases hv
      exact ⟨rfl, by simp [dtableBlock]⟩
    · rintro ⟨rfl, rfl⟩
      obtain ⟨hlen, hzero⟩ := eq_replicate_iff_forall_zero.mpr (Eq.refl (List.replicate 6 0))
      exact ⟨base, _, ⟨limit, _, ⟨_, _, [], ⟨rfl, hlen⟩, ⟨hzero, rfl, rfl⟩, rfl⟩, rfl⟩,
        by simp [dtableBlock]⟩

/-! ### Special registers -/

/-- The segments of the special registers, in the order of their blocks. -/
def segmentsOf (sregs : KvmSregs) : List KvmSegment :=
  [sregs.cs, sregs.ds, sregs.es, sregs.fs, sregs.gs, sregs.ss, sregs.tr, sregs.ldt]

/-- The control registers and the interrupt bitmap, in the order of their blocks. -/
def controlWords (sregs : KvmSregs) : List UInt64 :=
  [sregs.cr0, sregs.cr2, sregs.cr3, sregs.cr4, sregs.cr8, sregs.efer, sregs.apicBase,
    sregs.interruptBitmap.1, sregs.interruptBitmap.2.1, sregs.interruptBitmap.2.2.1,
    sregs.interruptBitmap.2.2.2]

/-- The block of the special registers. -/
def specialRegisterBlock (sregs : KvmSregs) : List UInt8 :=
  (segmentsOf sregs).flatMap segmentBlock ++ (dtableBlock sregs.gdt ++ (dtableBlock sregs.idt ++
    (controlWords sregs).flatMap u64Bytes))

/-- `encode_special_registers` (lines 125-155). -/
def encodeSpecialRegisters (sregs : VcpuSpecialRegisterSnapshot) : List UInt8 :=
  [sregs.cs, sregs.ds, sregs.es, sregs.fs, sregs.gs, sregs.ss, sregs.tr,
    sregs.ldt].flatMap encodeSegment ++ (encodeDtable sregs.gdt ++ (encodeDtable sregs.idt ++
  [sregs.cr0, sregs.cr2, sregs.cr3, sregs.cr4, sregs.cr8, sregs.efer, sregs.apicBase,
    sregs.interruptBitmap.1, sregs.interruptBitmap.2.1, sregs.interruptBitmap.2.2.1,
    sregs.interruptBitmap.2.2.2].flatMap u64Bytes))

/-- `decode_special_registers` (lines 157-186). -/
def decodeSpecialRegisters : Reader KvmSregs := do
  let cs ← decodeSegment 0
  let ds ← decodeSegment 1
  let es ← decodeSegment 2
  let fs ← decodeSegment 3
  let gs ← decodeSegment 4
  let ss ← decodeSegment 5
  let tr ← decodeSegment 6
  let ldt ← decodeSegment 7
  let gdt ← decodeDtable "gdt.reserved"
  let idt ← decodeDtable "idt.reserved"
  let cr0 ← readU64
  let cr2 ← readU64
  let cr3 ← readU64
  let cr4 ← readU64
  let cr8 ← readU64
  let efer ← readU64
  let apicBase ← readU64
  let word0 ← readU64
  let word1 ← readU64
  let word2 ← readU64
  let word3 ← readU64
  return {
    cs
    ds
    es
    fs
    gs
    ss
    tr
    ldt
    gdt
    idt
    cr0
    cr2
    cr3
    cr4
    cr8
    efer
    apicBase
    interruptBitmap := (word0, word1, word2, word3) }

/-- The special registers as the decoder yields them: architectural segments and no padding. -/
structure Decoded (sregs : KvmSregs) : Prop where
  segments : ∀ segment ∈ segmentsOf sregs, Architectural segment ∧ segment.padding = 0
  gdt : sregs.gdt.padding = (0, 0, 0)
  idt : sregs.idt.padding = (0, 0, 0)

theorem decoded_iff {sregs : KvmSregs} : Decoded sregs ↔
    (∀ segment ∈ segmentsOf sregs, Architectural segment ∧ segment.padding = 0) ∧
      sregs.gdt.padding = (0, 0, 0) ∧ sregs.idt.padding = (0, 0, 0) :=
  ⟨fun h => ⟨h.segments, h.gdt, h.idt⟩, fun h => ⟨h.1, h.2.1, h.2.2⟩⟩

instance (sregs : KvmSregs) : Decidable (Decoded sregs) := decidable_of_iff _ decoded_iff.symm

theorem decodeSpecialRegisters_recognizes :
    Recognizes decodeSpecialRegisters fun v l => Decoded v ∧ l = specialRegisterBlock v := by
  apply Recognizes.congr
  · unfold decodeSpecialRegisters
    iterate 8 (apply Recognizes.bind (decodeSegment_recognizes _); intro _)
    iterate 2 (apply Recognizes.bind (decodeDtable_recognizes _); intro _)
    iterate 11 (apply Recognizes.field_bind readU64_recognizes; intro _)
    exact Recognizes.pure _
  · rintro ⟨cs, ds, es, fs, gs, ss, tr, ldt, gdt, idt, cr0, cr2, cr3, cr4, cr8, efer, apicBase,
      word0, word1, word2, word3⟩ l
    simp [and_assoc, decoded_iff, segmentsOf, controlWords, specialRegisterBlock]

/-! ### Blocks and snapshots -/

@[simp] theorem length_encodeRegisters (registers : VcpuRegisterSnapshot) :
    (encodeRegisters registers).length = 144 := by
  simp [encodeRegisters]

@[simp] theorem length_dtableBlock (table : KvmDtable) : (dtableBlock table).length = 16 := by
  simp [dtableBlock]

@[simp] theorem length_specialRegisterBlock (sregs : KvmSregs) :
    (specialRegisterBlock sregs).length = 312 := by
  simp [specialRegisterBlock, segmentsOf, controlWords]

theorem encodeSpecialRegisters_eq (sregs : VcpuSpecialRegisterSnapshot) :
    encodeSpecialRegisters sregs = specialRegisterBlock sregs.encodeSnapshot := rfl

/-- The type of a segment is in the normal form of the snapshots. -/
def NormalType (segment : KvmSegment) : Prop :=
  segment.unusable ≠ 0 → segment.type_ &&& segmentTypeBitZero = 0

instance (segment : KvmSegment) : Decidable (NormalType segment) :=
  inferInstanceAs (Decidable (_ → _))

theorem segmentBlock_intoKvmSegment_eq_iff {segment : KvmSegment} :
    segmentBlock (VcpuSegmentState.fromKvmSegment segment).intoKvmSegment =
      segmentBlock segment ↔ NormalType segment := by
  rw [NormalType, ← canonicalSegmentType_eq_self_iff]
  simp [segmentBlock, VcpuSegmentState.intoKvmSegment, VcpuSegmentState.fromKvmSegment]

/-- The encoder writes the special registers back exactly when every segment type is normal. -/
theorem encodeSpecialRegisters_fromKvmSregs_eq_iff {sregs : KvmSregs} :
    encodeSpecialRegisters (.fromKvmSregs sregs) = specialRegisterBlock sregs ↔
      ∀ segment ∈ segmentsOf sregs, NormalType segment := by
  have hsegments : (segmentsOf (VcpuSpecialRegisterSnapshot.fromKvmSregs sregs).encodeSnapshot) =
      (segmentsOf sregs).map fun segment =>
        (VcpuSegmentState.fromKvmSegment segment).intoKvmSegment := rfl
  have htail :
      specialRegisterBlock (VcpuSpecialRegisterSnapshot.fromKvmSregs sregs).encodeSnapshot =
      (segmentsOf sregs).flatMap (fun segment =>
        segmentBlock (VcpuSegmentState.fromKvmSegment segment).intoKvmSegment) ++
      (dtableBlock sregs.gdt ++ (dtableBlock sregs.idt ++
        (controlWords sregs).flatMap u64Bytes)) := by
    rw [specialRegisterBlock, hsegments, List.flatMap_map]
    rfl
  rw [encodeSpecialRegisters_eq, htail, specialRegisterBlock, List.append_cancel_right_eq,
    flatMap_eq_flatMap_iff (fun _ _ => by rw [length_segmentBlock, length_segmentBlock]) rfl,
    List.forall₂_same]
  exact forall₂_congr fun _ _ => segmentBlock_intoKvmSegment_eq_iff

end MiniHypervisor.Schema
