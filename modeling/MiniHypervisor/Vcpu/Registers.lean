import Mathlib.Data.Nat.Notation

/-!
# Register snapshots

The register state that KVM reports for a vCPU (`src/kvm/sys.rs`) and the snapshots that the
program keeps of it (`src/vcpu/register_snapshot.rs`, `src/vcpu/special_register_snapshot.rs`).
A snapshot drops the padding of the KVM structures and clears bit 0 of the type of an unusable
segment, which KVM does not preserve; a segment state carries that normal form.
-/

namespace MiniHypervisor.Vcpu

/-! ### The state that KVM reports -/

structure KvmRegs where
  rax : UInt64
  rbx : UInt64
  rcx : UInt64
  rdx : UInt64
  rsi : UInt64
  rdi : UInt64
  rsp : UInt64
  rbp : UInt64
  r8 : UInt64
  r9 : UInt64
  r10 : UInt64
  r11 : UInt64
  r12 : UInt64
  r13 : UInt64
  r14 : UInt64
  r15 : UInt64
  rip : UInt64
  rflags : UInt64
  deriving DecidableEq, Inhabited, Repr

structure KvmSegment where
  base : UInt64
  limit : UInt32
  selector : UInt16
  type_ : UInt8
  present : UInt8
  dpl : UInt8
  db : UInt8
  s : UInt8
  l : UInt8
  g : UInt8
  avl : UInt8
  unusable : UInt8
  padding : UInt8
  deriving DecidableEq, Inhabited, Repr

structure KvmDtable where
  base : UInt64
  limit : UInt16
  padding : UInt16 × UInt16 × UInt16
  deriving DecidableEq, Inhabited, Repr

structure KvmSregs where
  cs : KvmSegment
  ds : KvmSegment
  es : KvmSegment
  fs : KvmSegment
  gs : KvmSegment
  ss : KvmSegment
  tr : KvmSegment
  ldt : KvmSegment
  gdt : KvmDtable
  idt : KvmDtable
  cr0 : UInt64
  cr2 : UInt64
  cr3 : UInt64
  cr4 : UInt64
  cr8 : UInt64
  efer : UInt64
  apicBase : UInt64
  interruptBitmap : UInt64 × UInt64 × UInt64 × UInt64
  deriving DecidableEq, Inhabited, Repr

/-! ### Snapshots -/

structure VcpuRegisterSnapshot where
  rax : UInt64
  rbx : UInt64
  rcx : UInt64
  rdx : UInt64
  rsi : UInt64
  rdi : UInt64
  rsp : UInt64
  rbp : UInt64
  r8 : UInt64
  r9 : UInt64
  r10 : UInt64
  r11 : UInt64
  r12 : UInt64
  r13 : UInt64
  r14 : UInt64
  r15 : UInt64
  rip : UInt64
  rflags : UInt64
  deriving DecidableEq, Repr

def VcpuRegisterSnapshot.fromKvmRegs (regs : KvmRegs) : VcpuRegisterSnapshot where
  rax := regs.rax
  rbx := regs.rbx
  rcx := regs.rcx
  rdx := regs.rdx
  rsi := regs.rsi
  rdi := regs.rdi
  rsp := regs.rsp
  rbp := regs.rbp
  r8 := regs.r8
  r9 := regs.r9
  r10 := regs.r10
  r11 := regs.r11
  r12 := regs.r12
  r13 := regs.r13
  r14 := regs.r14
  r15 := regs.r15
  rip := regs.rip
  rflags := regs.rflags

def VcpuRegisterSnapshot.toKvmRegs (snapshot : VcpuRegisterSnapshot) : KvmRegs where
  rax := snapshot.rax
  rbx := snapshot.rbx
  rcx := snapshot.rcx
  rdx := snapshot.rdx
  rsi := snapshot.rsi
  rdi := snapshot.rdi
  rsp := snapshot.rsp
  rbp := snapshot.rbp
  r8 := snapshot.r8
  r9 := snapshot.r9
  r10 := snapshot.r10
  r11 := snapshot.r11
  r12 := snapshot.r12
  r13 := snapshot.r13
  r14 := snapshot.r14
  r15 := snapshot.r15
  rip := snapshot.rip
  rflags := snapshot.rflags

@[simp] theorem VcpuRegisterSnapshot.fromKvmRegs_toKvmRegs (snapshot : VcpuRegisterSnapshot) :
    fromKvmRegs snapshot.toKvmRegs = snapshot := rfl

def segmentTypeBitZero : UInt8 := 1

/-- `canonical_segment_type` (lines 167-177). -/
def canonicalSegmentType (segmentType unusable : UInt8) : UInt8 :=
  if unusable ≠ 0 then segmentType &&& ~~~segmentTypeBitZero else segmentType

private theorem clear_bit_zero_eq_self_iff (b : UInt8) :
    b &&& ~~~segmentTypeBitZero = b ↔ b &&& segmentTypeBitZero = 0 := by
  have hall : ∀ n < 256, UInt8.ofNat n &&& ~~~segmentTypeBitZero = UInt8.ofNat n ↔
      UInt8.ofNat n &&& segmentTypeBitZero = 0 := by
    decide +kernel
  have hb := hall b.toNat b.toNat_lt
  rwa [UInt8.ofNat_toNat] at hb

private theorem clear_bit_zero_and (b : UInt8) :
    b &&& ~~~segmentTypeBitZero &&& segmentTypeBitZero = 0 := by
  rw [UInt8.and_assoc, show ~~~segmentTypeBitZero &&& segmentTypeBitZero = 0 from rfl,
    UInt8.and_zero]

theorem canonicalSegmentType_eq_self_iff {segmentType unusable : UInt8} :
    canonicalSegmentType segmentType unusable = segmentType ↔
      (unusable ≠ 0 → segmentType &&& segmentTypeBitZero = 0) := by
  unfold canonicalSegmentType
  by_cases h : unusable = 0
  · simp [h]
  · simp [h, clear_bit_zero_eq_self_iff]

theorem canonicalSegmentType_and {segmentType unusable : UInt8} (h : unusable ≠ 0) :
    canonicalSegmentType segmentType unusable &&& segmentTypeBitZero = 0 := by
  rw [canonicalSegmentType, if_pos h, clear_bit_zero_and]

/-- `VcpuSegmentState`.  Bit 0 of the type of an unusable segment is clear. -/
structure VcpuSegmentState where
  base : UInt64
  limit : UInt32
  selector : UInt16
  segmentType : UInt8
  present : UInt8
  dpl : UInt8
  db : UInt8
  s : UInt8
  l : UInt8
  g : UInt8
  avl : UInt8
  unusable : UInt8
  canonical : unusable ≠ 0 → segmentType &&& segmentTypeBitZero = 0
  deriving DecidableEq, Repr

namespace VcpuSegmentState

/-- `VcpuSegmentState::from_kvm_segment` (lines 196-211). -/
def fromKvmSegment (segment : KvmSegment) : VcpuSegmentState where
  base := segment.base
  limit := segment.limit
  selector := segment.selector
  segmentType := canonicalSegmentType segment.type_ segment.unusable
  present := segment.present
  dpl := segment.dpl
  db := segment.db
  s := segment.s
  l := segment.l
  g := segment.g
  avl := segment.avl
  unusable := segment.unusable
  canonical := canonicalSegmentType_and

/-- `SegmentEncoding::into_kvm_segment` (`special_register_restore.rs`, lines 51-67). -/
def intoKvmSegment (state : VcpuSegmentState) : KvmSegment where
  base := state.base
  limit := state.limit
  selector := state.selector
  type_ := state.segmentType
  present := state.present
  dpl := state.dpl
  db := state.db
  s := state.s
  l := state.l
  g := state.g
  avl := state.avl
  unusable := state.unusable
  padding := 0

@[simp] theorem fromKvmSegment_intoKvmSegment (state : VcpuSegmentState) :
    fromKvmSegment state.intoKvmSegment = state := by
  have htype : canonicalSegmentType state.segmentType state.unusable = state.segmentType :=
    canonicalSegmentType_eq_self_iff.mpr state.canonical
  simp only [fromKvmSegment, intoKvmSegment, htype]

end VcpuSegmentState

structure VcpuDescriptorTableState where
  base : UInt64
  limit : UInt16
  deriving DecidableEq, Repr

def VcpuDescriptorTableState.fromKvmDtable (table : KvmDtable) : VcpuDescriptorTableState where
  base := table.base
  limit := table.limit

/-- `DescriptorTableEncoding::into_kvm_dtable` (`special_register_restore.rs`, lines 84-90). -/
def VcpuDescriptorTableState.intoKvmDtable (state : VcpuDescriptorTableState) : KvmDtable where
  base := state.base
  limit := state.limit
  padding := (0, 0, 0)

structure VcpuSpecialRegisterSnapshot where
  cs : VcpuSegmentState
  ds : VcpuSegmentState
  es : VcpuSegmentState
  fs : VcpuSegmentState
  gs : VcpuSegmentState
  ss : VcpuSegmentState
  tr : VcpuSegmentState
  ldt : VcpuSegmentState
  gdt : VcpuDescriptorTableState
  idt : VcpuDescriptorTableState
  cr0 : UInt64
  cr2 : UInt64
  cr3 : UInt64
  cr4 : UInt64
  cr8 : UInt64
  efer : UInt64
  apicBase : UInt64
  interruptBitmap : UInt64 × UInt64 × UInt64 × UInt64
  deriving DecidableEq, Repr

/-- `VcpuSpecialRegisterSnapshot::from_kvm_sregs` (lines 346-367). -/
def VcpuSpecialRegisterSnapshot.fromKvmSregs (sregs : KvmSregs) :
    VcpuSpecialRegisterSnapshot where
  cs := .fromKvmSegment sregs.cs
  ds := .fromKvmSegment sregs.ds
  es := .fromKvmSegment sregs.es
  fs := .fromKvmSegment sregs.fs
  gs := .fromKvmSegment sregs.gs
  ss := .fromKvmSegment sregs.ss
  tr := .fromKvmSegment sregs.tr
  ldt := .fromKvmSegment sregs.ldt
  gdt := .fromKvmDtable sregs.gdt
  idt := .fromKvmDtable sregs.idt
  cr0 := sregs.cr0
  cr2 := sregs.cr2
  cr3 := sregs.cr3
  cr4 := sregs.cr4
  cr8 := sregs.cr8
  efer := sregs.efer
  apicBase := sregs.apicBase
  interruptBitmap := sregs.interruptBitmap

/-- `encode_snapshot` (`special_register_restore.rs`, lines 93-115). -/
def VcpuSpecialRegisterSnapshot.encodeSnapshot (snapshot : VcpuSpecialRegisterSnapshot) :
    KvmSregs where
  cs := snapshot.cs.intoKvmSegment
  ds := snapshot.ds.intoKvmSegment
  es := snapshot.es.intoKvmSegment
  fs := snapshot.fs.intoKvmSegment
  gs := snapshot.gs.intoKvmSegment
  ss := snapshot.ss.intoKvmSegment
  tr := snapshot.tr.intoKvmSegment
  ldt := snapshot.ldt.intoKvmSegment
  gdt := snapshot.gdt.intoKvmDtable
  idt := snapshot.idt.intoKvmDtable
  cr0 := snapshot.cr0
  cr2 := snapshot.cr2
  cr3 := snapshot.cr3
  cr4 := snapshot.cr4
  cr8 := snapshot.cr8
  efer := snapshot.efer
  apicBase := snapshot.apicBase
  interruptBitmap := snapshot.interruptBitmap

@[simp] theorem VcpuSpecialRegisterSnapshot.fromKvmSregs_encodeSnapshot
    (snapshot : VcpuSpecialRegisterSnapshot) : fromKvmSregs snapshot.encodeSnapshot = snapshot := by
  simp only [fromKvmSregs, encodeSnapshot, VcpuSegmentState.fromKvmSegment_intoKvmSegment]
  rfl

end MiniHypervisor.Vcpu
