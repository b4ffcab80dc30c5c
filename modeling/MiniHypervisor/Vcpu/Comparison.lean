import MiniHypervisor.Kvm.Msr
import MiniHypervisor.Vcpu.Registers

/-!
# Comparison of vCPU snapshots

A restored vCPU is read back and compared with the snapshot field by field.  A comparison lists the
fields that differ, with both values: the general registers (`src/vcpu/register_snapshot.rs`), the
special registers (`src/vcpu/special_register_snapshot.rs`) and the MSRs
(`src/kvm/msr/value_set.rs`).

## Main results

* `VcpuRegisterSnapshot.isExactMatch_compare` and its siblings : a comparison is an exact match
  exactly when the snapshots are equal.
-/

namespace MiniHypervisor.Vcpu

/-! ### Fields that differ -/

section Mismatches

variable {φ : Type}

/-- A field with its two values. -/
structure Mismatch (φ : Type) where
  field : φ
  referenceValue : UInt64
  observedValue : UInt64
  deriving DecidableEq, Repr

/-- The fields at which two readings differ, in the order of `fields`. -/
def mismatches (fields : List φ) (reference observed : φ → UInt64) : List (Mismatch φ) :=
  (fields.filter fun field => reference field ≠ observed field).map fun field =>
    ⟨field, reference field, observed field⟩

theorem mismatches_eq_nil_iff {fields : List φ} {reference observed : φ → UInt64} :
    mismatches fields reference observed = [] ↔
      ∀ field ∈ fields, reference field = observed field := by
  rw [mismatches, List.map_eq_nil_iff, List.filter_eq_nil_iff]
  simp only [ne_eq, decide_not, Bool.not_eq_true', decide_eq_false_iff_not, not_not]

end Mismatches

/-! ### General registers -/

inductive VcpuRegisterField where
  | rax | rbx | rcx | rdx | rsi | rdi | rsp | rbp
  | r8 | r9 | r10 | r11 | r12 | r13 | r14 | r15
  | rip | rflags
  deriving DecidableEq, Repr

def registerFields : List VcpuRegisterField :=
  [.rax, .rbx, .rcx, .rdx, .rsi, .rdi, .rsp, .rbp, .r8, .r9, .r10, .r11, .r12, .r13, .r14, .r15,
    .rip, .rflags]

theorem mem_registerFields (field : VcpuRegisterField) : field ∈ registerFields := by
  cases field <;> decide

structure VcpuRegisterSnapshotComparison where
  reference : VcpuRegisterSnapshot
  observed : VcpuRegisterSnapshot
  mismatches : List (Mismatch VcpuRegisterField)
  deriving DecidableEq, Repr

def VcpuRegisterSnapshotComparison.isExactMatch (comparison : VcpuRegisterSnapshotComparison) :
    Bool :=
  comparison.mismatches.isEmpty

namespace VcpuRegisterSnapshot

variable (snapshot observed : VcpuRegisterSnapshot)

/-- `VcpuRegisterSnapshot::value` (lines 262-283). -/
def value : VcpuRegisterField → UInt64
  | .rax => snapshot.rax
  | .rbx => snapshot.rbx
  | .rcx => snapshot.rcx
  | .rdx => snapshot.rdx
  | .rsi => snapshot.rsi
  | .rdi => snapshot.rdi
  | .rsp => snapshot.rsp
  | .rbp => snapshot.rbp
  | .r8 => snapshot.r8
  | .r9 => snapshot.r9
  | .r10 => snapshot.r10
  | .r11 => snapshot.r11
  | .r12 => snapshot.r12
  | .r13 => snapshot.r13
  | .r14 => snapshot.r14
  | .r15 => snapshot.r15
  | .rip => snapshot.rip
  | .rflags => snapshot.rflags

/-- `VcpuRegisterSnapshot::compare` (lines 241-260). -/
def compare : VcpuRegisterSnapshotComparison where
  reference := snapshot
  observed := observed
  mismatches := mismatches registerFields snapshot.value observed.value

variable {snapshot observed}

theorem eq_of_value (h : ∀ field, snapshot.value field = observed.value field) :
    snapshot = observed := by
  cases snapshot
  cases observed
  rw [mk.injEq]
  exact ⟨h .rax, h .rbx, h .rcx, h .rdx, h .rsi, h .rdi, h .rsp, h .rbp, h .r8, h .r9, h .r10,
    h .r11, h .r12, h .r13, h .r14, h .r15, h .rip, h .rflags⟩

theorem isExactMatch_compare :
    (snapshot.compare observed).isExactMatch = true ↔ snapshot = observed := by
  rw [VcpuRegisterSnapshotComparison.isExactMatch, List.isEmpty_iff, compare,
    mismatches_eq_nil_iff]
  constructor
  · exact fun h => eq_of_value fun field => h field (mem_registerFields field)
  · rintro rfl _ _
    rfl

end VcpuRegisterSnapshot

/-! ### Special registers -/

inductive VcpuSegmentRegister where
  | cs | ds | es | fs | gs | ss | tr | ldt
  deriving DecidableEq, Repr

def segmentRegisters : List VcpuSegmentRegister := [.cs, .ds, .es, .fs, .gs, .ss, .tr, .ldt]

inductive VcpuSegmentField where
  | base | limit | selector | segmentType | present | dpl | db | s | l | g | avl | unusable
  deriving DecidableEq, Repr

def segmentFields : List VcpuSegmentField :=
  [.base, .limit, .selector, .segmentType, .present, .dpl, .db, .s, .l, .g, .avl, .unusable]

inductive VcpuDescriptorTableRegister where
  | gdt | idt
  deriving DecidableEq, Repr

def descriptorTableRegisters : List VcpuDescriptorTableRegister := [.gdt, .idt]

inductive VcpuDescriptorTableField where
  | base | limit
  deriving DecidableEq, Repr

def descriptorTableFields : List VcpuDescriptorTableField := [.base, .limit]

inductive VcpuInterruptBitmapWord where
  | word0 | word1 | word2 | word3
  deriving DecidableEq, Repr

def interruptBitmapWords : List VcpuInterruptBitmapWord := [.word0, .word1, .word2, .word3]

inductive VcpuSpecialRegisterField where
  | segment (register : VcpuSegmentRegister) (field : VcpuSegmentField)
  | descriptorTable (register : VcpuDescriptorTableRegister) (field : VcpuDescriptorTableField)
  | cr0 | cr2 | cr3 | cr4 | cr8 | efer | apicBase
  | interruptBitmap (word : VcpuInterruptBitmapWord)
  deriving DecidableEq, Repr

/-- The fields in the order in which `compare` visits them. -/
def specialRegisterFields : List VcpuSpecialRegisterField :=
  (segmentRegisters.flatMap fun register => segmentFields.map (.segment register)) ++
    (descriptorTableRegisters.flatMap fun register =>
      descriptorTableFields.map (.descriptorTable register)) ++
    [.cr0, .cr2, .cr3, .cr4, .cr8, .efer, .apicBase] ++
    interruptBitmapWords.map .interruptBitmap

theorem mem_specialRegisterFields (field : VcpuSpecialRegisterField) :
    field ∈ specialRegisterFields := by
  simp only [specialRegisterFields, List.mem_append, List.mem_flatMap, List.mem_map]
  cases field with
  | segment register field =>
      exact .inl (.inl (.inl ⟨register, by cases register <;> decide, field,
        by cases field <;> decide, rfl⟩))
  | descriptorTable register field =>
      exact .inl (.inl (.inr ⟨register, by cases register <;> decide, field,
        by cases field <;> decide, rfl⟩))
  | interruptBitmap word => exact .inr ⟨word, by cases word <;> decide, rfl⟩
  | _ => exact .inl (.inr (by decide))

/-- `VcpuSegmentState::value` (lines 213-228). -/
def VcpuSegmentState.value (state : VcpuSegmentState) : VcpuSegmentField → UInt64
  | .base => state.base
  | .limit => state.limit.toUInt64
  | .selector => state.selector.toUInt64
  | .segmentType => state.segmentType.toUInt64
  | .present => state.present.toUInt64
  | .dpl => state.dpl.toUInt64
  | .db => state.db.toUInt64
  | .s => state.s.toUInt64
  | .l => state.l.toUInt64
  | .g => state.g.toUInt64
  | .avl => state.avl.toUInt64
  | .unusable => state.unusable.toUInt64

theorem VcpuSegmentState.eq_of_value {state state' : VcpuSegmentState}
    (h : ∀ field, state.value field = state'.value field) : state = state' := by
  cases state
  cases state'
  rw [mk.injEq]
  exact ⟨h .base, UInt32.toUInt64_inj.mp (h .limit), UInt16.toUInt64_inj.mp (h .selector),
    UInt8.toUInt64_inj.mp (h .segmentType), UInt8.toUInt64_inj.mp (h .present),
    UInt8.toUInt64_inj.mp (h .dpl), UInt8.toUInt64_inj.mp (h .db), UInt8.toUInt64_inj.mp (h .s),
    UInt8.toUInt64_inj.mp (h .l), UInt8.toUInt64_inj.mp (h .g), UInt8.toUInt64_inj.mp (h .avl),
    UInt8.toUInt64_inj.mp (h .unusable)⟩

/-- `VcpuDescriptorTableState::value` (lines 305-310). -/
def VcpuDescriptorTableState.value (state : VcpuDescriptorTableState) :
    VcpuDescriptorTableField → UInt64
  | .base => state.base
  | .limit => state.limit.toUInt64

theorem VcpuDescriptorTableState.eq_of_value {state state' : VcpuDescriptorTableState}
    (h : ∀ field, state.value field = state'.value field) : state = state' := by
  cases state
  cases state'
  rw [mk.injEq]
  exact ⟨h .base, UInt16.toUInt64_inj.mp (h .limit)⟩

structure VcpuSpecialRegisterSnapshotComparison where
  reference : VcpuSpecialRegisterSnapshot
  observed : VcpuSpecialRegisterSnapshot
  mismatches : List (Mismatch VcpuSpecialRegisterField)
  deriving DecidableEq, Repr

def VcpuSpecialRegisterSnapshotComparison.isExactMatch
    (comparison : VcpuSpecialRegisterSnapshotComparison) : Bool :=
  comparison.mismatches.isEmpty

namespace VcpuSpecialRegisterSnapshot

variable (snapshot observed : VcpuSpecialRegisterSnapshot)

/-- `VcpuSpecialRegisterSnapshot::segment` (lines 369-380). -/
def segment : VcpuSegmentRegister → VcpuSegmentState
  | .cs => snapshot.cs
  | .ds => snapshot.ds
  | .es => snapshot.es
  | .fs => snapshot.fs
  | .gs => snapshot.gs
  | .ss => snapshot.ss
  | .tr => snapshot.tr
  | .ldt => snapshot.ldt

/-- `VcpuSpecialRegisterSnapshot::descriptor_table` (lines 382-390). -/
def descriptorTable : VcpuDescriptorTableRegister → VcpuDescriptorTableState
  | .gdt => snapshot.gdt
  | .idt => snapshot.idt

/-- A word of the interrupt bitmap. -/
def bitmapWord : VcpuInterruptBitmapWord → UInt64
  | .word0 => snapshot.interruptBitmap.1
  | .word1 => snapshot.interruptBitmap.2.1
  | .word2 => snapshot.interruptBitmap.2.2.1
  | .word3 => snapshot.interruptBitmap.2.2.2

/-- The value of a field. -/
def value : VcpuSpecialRegisterField → UInt64
  | .segment register field => (snapshot.segment register).value field
  | .descriptorTable register field => (snapshot.descriptorTable register).value field
  | .cr0 => snapshot.cr0
  | .cr2 => snapshot.cr2
  | .cr3 => snapshot.cr3
  | .cr4 => snapshot.cr4
  | .cr8 => snapshot.cr8
  | .efer => snapshot.efer
  | .apicBase => snapshot.apicBase
  | .interruptBitmap word => snapshot.bitmapWord word

/-- `VcpuSpecialRegisterSnapshot::compare` (lines 483-543). -/
def compare : VcpuSpecialRegisterSnapshotComparison where
  reference := snapshot
  observed := observed
  mismatches := mismatches specialRegisterFields snapshot.value observed.value

variable {snapshot observed}

theorem eq_of_value (h : ∀ field, snapshot.value field = observed.value field) :
    snapshot = observed := by
  have hsegment : ∀ register, snapshot.segment register = observed.segment register :=
    fun register => VcpuSegmentState.eq_of_value fun field => h (.segment register field)
  have htable : ∀ register,
      snapshot.descriptorTable register = observed.descriptorTable register :=
    fun register =>
      VcpuDescriptorTableState.eq_of_value fun field => h (.descriptorTable register field)
  have hbitmap : snapshot.interruptBitmap = observed.interruptBitmap :=
    Prod.ext (h (.interruptBitmap .word0)) (Prod.ext (h (.interruptBitmap .word1))
      (Prod.ext (h (.interruptBitmap .word2)) (h (.interruptBitmap .word3))))
  cases snapshot
  cases observed
  rw [mk.injEq]
  exact ⟨hsegment .cs, hsegment .ds, hsegment .es, hsegment .fs, hsegment .gs, hsegment .ss,
    hsegment .tr, hsegment .ldt, htable .gdt, htable .idt, h .cr0, h .cr2, h .cr3, h .cr4, h .cr8,
    h .efer, h .apicBase, hbitmap⟩

theorem isExactMatch_compare :
    (snapshot.compare observed).isExactMatch = true ↔ snapshot = observed := by
  rw [VcpuSpecialRegisterSnapshotComparison.isExactMatch, List.isEmpty_iff, compare,
    mismatches_eq_nil_iff]
  constructor
  · exact fun h => eq_of_value fun field => h field (mem_specialRegisterFields field)
  · rintro rfl _ _
    rfl

end VcpuSpecialRegisterSnapshot

end MiniHypervisor.Vcpu

/-! ### MSRs -/

namespace MiniHypervisor.Kvm

structure GuestMsrSnapshotValueMismatch where
  position : ℕ
  index : MsrIndex
  referenceValue : UInt64
  observedValue : UInt64
  deriving DecidableEq, Repr

structure GuestMsrSnapshotComparison where
  reference : GuestMsrSnapshot
  observed : GuestMsrSnapshot
  policyMatches : Bool
  valueMismatches : List GuestMsrSnapshotValueMismatch
  deriving DecidableEq, Repr

def GuestMsrSnapshotComparison.isExactMatch (comparison : GuestMsrSnapshotComparison) : Bool :=
  comparison.policyMatches && comparison.valueMismatches.isEmpty

/-- The positions, from one on, at which two lists of values differ. -/
def valueMismatchesFrom :
    ℕ → List GuestMsrValue → List GuestMsrValue → List GuestMsrSnapshotValueMismatch
  | position, reference :: references, candidate :: candidates =>
      if reference.value ≠ candidate.value then
        ⟨position, reference.index, reference.value, candidate.value⟩ ::
          valueMismatchesFrom (position + 1) references candidates
      else valueMismatchesFrom (position + 1) references candidates
  | _, _, _ => []

theorem valueMismatchesFrom_eq_nil_iff {position : ℕ} {references candidates : List GuestMsrValue}
    (h : references.map GuestMsrValue.index = candidates.map GuestMsrValue.index) :
    valueMismatchesFrom position references candidates = [] ↔ references = candidates := by
  induction references generalizing position candidates with
  | nil =>
      cases candidates with
      | nil => exact ⟨fun _ => rfl, fun _ => rfl⟩
      | cons candidate candidates => cases h
  | cons reference references ih =>
      cases candidates with
      | nil => cases h
      | cons candidate candidates =>
          obtain ⟨hindex, hrest⟩ := List.cons.inj h
          rw [valueMismatchesFrom, List.cons.injEq]
          by_cases hvalue : reference.value = candidate.value
          · rw [if_neg (not_not.mpr hvalue), ih hrest]
            have heq : reference = candidate := by
              cases reference
              cases candidate
              rw [GuestMsrValue.mk.injEq]
              exact ⟨hindex, hvalue⟩
            exact ⟨fun h => ⟨heq, h⟩, fun h => h.2⟩
          · rw [if_pos hvalue]
            exact ⟨nofun, fun h => absurd (congrArg GuestMsrValue.value h.1) hvalue⟩

namespace GuestMsrSnapshot

variable (snapshot observed : GuestMsrSnapshot)

/-- `GuestMsrSnapshot::compare` (lines 154-183). -/
def compare : GuestMsrSnapshotComparison :=
  let policyMatches := decide (snapshot.policy = observed.policy)
  { reference := snapshot
    observed := observed
    policyMatches := policyMatches
    valueMismatches :=
      if policyMatches then
        valueMismatchesFrom 0 snapshot.values.values observed.values.values
      else [] }

variable {snapshot observed}

theorem isExactMatch_compare :
    (snapshot.compare observed).isExactMatch = true ↔ snapshot = observed := by
  obtain ⟨policy, ⟨values⟩, haligned⟩ := snapshot
  obtain ⟨policy', ⟨values'⟩, haligned'⟩ := observed
  simp only [GuestMsrSnapshotComparison.isExactMatch, compare, Bool.and_eq_true, decide_eq_true_eq,
    mk.injEq, GuestMsrValueSet.mk.injEq, List.isEmpty_iff]
  refine and_congr_right fun hpolicy => ?_
  subst hpolicy
  rw [if_pos rfl, valueMismatchesFrom_eq_nil_iff (haligned.symm.trans haligned')]

end GuestMsrSnapshot

end MiniHypervisor.Kvm
