import MiniHypervisor.Memory.GuestMemory

/-!
# Long-mode boot layouts

The layouts the long-mode bootstrap accepts (`src/long_mode.rs`): guest RAM starts at physical
address 0 and covers the low 2 MiB, which are identity mapped, and a list of 4 KiB pages of the
alias window `0x40_0000..0x60_0000` is backed by pages of the low 2 MiB away from the four page
tables.  A layout is built by its two constructors only, so it carries what they check.
-/

namespace MiniHypervisor.LongMode

open Control Memory

/-! ### Constants -/

def longModePageSize : ℕ := 4096

def longModeIdentityMapSize : ℕ := 2 * 1024 * 1024

def longModeAliasVirtualBase : ℕ := 0x400000

def longModeAliasVirtualSize : ℕ := 2 * 1024 * 1024

def longModeAliasVirtualEnd : ℕ := longModeAliasVirtualBase + longModeAliasVirtualSize

def longModePml4Addr : ℕ := 0x1000

def longModePdptAddr : ℕ := 0x2000

def longModePdAddr : ℕ := 0x3000

def longModeAliasPtAddr : ℕ := 0x4000

def longModePageTableEnd : ℕ := 0x5000

/-! ### Address arithmetic -/

/-- `align_down_page`: the low twelve bits cleared. -/
def alignDownPage (address : ℕ) : ℕ := address / longModePageSize * longModePageSize

/-- `ranges_overlap`, on half-open ranges. -/
def rangesOverlap (firstStart firstEnd secondStart secondEnd : ℕ) : Bool :=
  firstStart < secondEnd && secondStart < firstEnd

def isPageTableAddress (address : ℕ) : Bool :=
  longModePml4Addr ≤ address && address < longModePageTableEnd

theorem rangesOverlap_iff {a b c d : ℕ} : rangesOverlap a b c d = true ↔ a < d ∧ c < b := by
  simp only [rangesOverlap, Bool.and_eq_true, decide_eq_true_eq]

theorem isPageTableAddress_iff {a : ℕ} :
    isPageTableAddress a = true ↔ 0x1000 ≤ a ∧ a < 0x5000 := by
  simp only [isPageTableAddress, Bool.and_eq_true, decide_eq_true_eq]
  exact Iff.rfl

/-! ### Page mappings -/

/-- One 4 KiB page of the alias window and the page that backs it. -/
@[ext]
structure LongModePageMapping where
  virtualPage : ℕ
  physicalPage : ℕ
  deriving DecidableEq, Repr

/-- Why a layout is refused (lines 54-101). -/
inductive LongModeConfigurationError where
  | ramMustStartAtZero (base : ℕ)
  | ramTooSmall (size minimum : ℕ)
  | entryOutsideIdentityMap (entry mappedSize : ℕ)
  | entryOutsideMappedRanges (entry : ℕ)
  | entryOverlapsPageTables (entry : ℕ)
  | entryPageNotMapped (entry virtualPage : ℕ)
  | stackPointerOutsideIdentityMap (stackPointer mappedSize : ℕ)
  | stackPointerOverlapsPageTables (stackPointer : ℕ)
  | mappingVirtualPageMisaligned (virtualPage : ℕ)
  | mappingOutsideAliasWindow (virtualPage : ℕ)
  | mappingPhysicalPageMisaligned (physicalPage : ℕ)
  | mappingPhysicalPageOutsideRam (physicalPage : ℕ)
  | mappingPhysicalPageOverlapsPageTables (physicalPage : ℕ)
  | duplicateVirtualPage (virtualPage : ℕ)
  deriving DecidableEq, Repr

/-- The body of the loop of `validate_page_mappings`: `previous` are the mappings before this
one. -/
def checkPageMapping (previous : List LongModePageMapping) (mapping : LongModePageMapping) :
    Except LongModeConfigurationError Unit := do
  rejectIf (mapping.virtualPage % longModePageSize ≠ 0)
    (.mappingVirtualPageMisaligned mapping.virtualPage)
  rejectIf (mapping.virtualPage < longModeAliasVirtualBase ∨
      longModeAliasVirtualEnd ≤ mapping.virtualPage)
    (.mappingOutsideAliasWindow mapping.virtualPage)
  rejectIf (mapping.physicalPage % longModePageSize ≠ 0)
    (.mappingPhysicalPageMisaligned mapping.physicalPage)
  let physicalEnd := mapping.physicalPage + longModePageSize
  rejectIf (2 ^ 64 ≤ physicalEnd) (.mappingPhysicalPageOutsideRam mapping.physicalPage)
  rejectIf (longModeIdentityMapSize < physicalEnd)
    (.mappingPhysicalPageOutsideRam mapping.physicalPage)
  rejectIf (rangesOverlap mapping.physicalPage physicalEnd longModePml4Addr longModePageTableEnd)
    (.mappingPhysicalPageOverlapsPageTables mapping.physicalPage)
  rejectIf (previous.any fun p => p.virtualPage == mapping.virtualPage)
    (.duplicateVirtualPage mapping.virtualPage)

/-- `validate_page_mappings` (lines 358-412). -/
def validatePageMappings (pageMappings : List LongModePageMapping) :
    Except LongModeConfigurationError Unit :=
  pageMappings.zipIdx.forM fun entry => checkPageMapping (pageMappings.take entry.2) entry.1

/-- An alias page backed by a page of the low 2 MiB that is not a page table. -/
structure LongModePageMapping.Admissible (m : LongModePageMapping) : Prop where
  virtual_aligned : m.virtualPage % 4096 = 0
  window_le : 0x400000 ≤ m.virtualPage
  lt_window : m.virtualPage < 0x600000
  physical_aligned : m.physicalPage % 4096 = 0
  physical_le : m.physicalPage + 4096 ≤ 0x200000
  not_table : m.physicalPage + 4096 ≤ 0x1000 ∨ 0x5000 ≤ m.physicalPage

theorem checkPageMapping_eq_ok {previous : List LongModePageMapping} {m : LongModePageMapping} :
    checkPageMapping previous m = .ok () ↔
      m.Admissible ∧ ∀ p ∈ previous, p.virtualPage ≠ m.virtualPage := by
  simp only [checkPageMapping, rejectIf_bind_eq_ok, rejectIf_eq_ok]
  simp only [rangesOverlap_iff, List.any_eq_true, beq_iff_eq, not_exists, not_and,
    longModePageSize, longModeAliasVirtualBase, longModeAliasVirtualEnd, longModeAliasVirtualSize,
    longModeIdentityMapSize, longModePml4Addr, longModePageTableEnd]
  constructor
  · rintro ⟨h₁, h₂, h₃, h₄, h₅, h₆, h₇⟩
    exact ⟨⟨by omega, by omega, by omega, by omega, by omega, by omega⟩, h₇⟩
  · rintro ⟨⟨h₁, h₂, h₃, h₄, h₅, h₆⟩, h₇⟩
    exact ⟨by omega, by omega, by omega, by omega, by omega, by omega, h₇⟩

/-- **The accepted mappings.** Each one is admissible and no virtual page is mapped twice. -/
theorem validatePageMappings_eq_ok {l : List LongModePageMapping} :
    validatePageMappings l = .ok () ↔
      (∀ m ∈ l, m.Admissible) ∧ (l.map LongModePageMapping.virtualPage).Nodup :=
  forM_zipIdx_eq_ok fun _ _ => checkPageMapping_eq_ok

/-! ### Layouts -/

/-- `validate_memory_and_stack` (lines 330-356). -/
def validateMemoryAndStack (memory : GuestMemoryRegion) (stackPointer : ℕ) :
    Except LongModeConfigurationError Unit := do
  rejectIf (memory.base ≠ 0) (.ramMustStartAtZero memory.base)
  rejectIf (memory.size < longModeIdentityMapSize)
    (.ramTooSmall memory.size longModeIdentityMapSize)
  rejectIf (stackPointer = 0 ∨ longModeIdentityMapSize < stackPointer)
    (.stackPointerOutsideIdentityMap stackPointer longModeIdentityMapSize)
  rejectIf (longModePml4Addr < stackPointer ∧ stackPointer ≤ longModePageTableEnd)
    (.stackPointerOverlapsPageTables stackPointer)

theorem validateMemoryAndStack_eq_ok {memory : GuestMemoryRegion} {sp : ℕ} :
    validateMemoryAndStack memory sp = .ok () ↔
      memory.base = 0 ∧ 0x200000 ≤ memory.size ∧ 0 < sp ∧ sp ≤ 0x200000 ∧
        (sp ≤ 0x1000 ∨ 0x5000 < sp) := by
  simp only [validateMemoryAndStack, rejectIf_bind_eq_ok, rejectIf_eq_ok]
  simp only [longModeIdentityMapSize, longModePml4Addr, longModePageTableEnd]
  omega

/-- The checks of `LongModeBootLayout::new` on the entry (lines 189-197). -/
def checkIdentityEntry (entry : ℕ) : Except LongModeConfigurationError Unit := do
  rejectIf (longModeIdentityMapSize ≤ entry)
    (.entryOutsideIdentityMap entry longModeIdentityMapSize)
  rejectIf (isPageTableAddress entry) (.entryOverlapsPageTables entry)

/-- The checks of `LongModeBootLayout::with_page_mappings` on the entry (lines 216-234). -/
def checkMappedEntry (entry : ℕ) (pageMappings : List LongModePageMapping) :
    Except LongModeConfigurationError Unit :=
  if entry < longModeIdentityMapSize then
    rejectIf (isPageTableAddress entry) (.entryOverlapsPageTables entry)
  else if longModeAliasVirtualBase ≤ entry ∧ entry < longModeAliasVirtualEnd then
    let virtualPage := alignDownPage entry
    rejectIf (¬ pageMappings.any fun mapping => mapping.virtualPage == virtualPage)
      (.entryPageNotMapped entry virtualPage)
  else
    .error (.entryOutsideMappedRanges entry)

/-- An accepted boot layout.  Both constructors check the memory and the mappings. -/
structure LongModeBootLayout where
  memory : GuestMemoryRegion
  entry : ℕ
  stackPointer : ℕ
  pageMappings : List LongModePageMapping
  memory_ok : validateMemoryAndStack memory stackPointer = .ok ()
  mappings_ok : validatePageMappings pageMappings = .ok ()

namespace LongModeBootLayout

/-- `LongModeBootLayout::new` (lines 183-205). -/
def new (memory : GuestMemoryRegion) (entry stackPointer : ℕ) :
    Except LongModeConfigurationError LongModeBootLayout :=
  match hmem : validateMemoryAndStack memory stackPointer with
  | .error e => .error e
  | .ok () => do
      checkIdentityEntry entry
      return ⟨memory, entry, stackPointer, [], hmem, rfl⟩

/-- `LongModeBootLayout::with_page_mappings` (lines 207-241). -/
def withPageMappings (memory : GuestMemoryRegion) (entry stackPointer : ℕ)
    (pageMappings : List LongModePageMapping) :
    Except LongModeConfigurationError LongModeBootLayout :=
  match hmem : validateMemoryAndStack memory stackPointer with
  | .error e => .error e
  | .ok () =>
      match hmap : validatePageMappings pageMappings with
      | .error e => .error e
      | .ok () => do
          checkMappedEntry entry pageMappings
          return ⟨memory, entry, stackPointer, pageMappings, hmem, hmap⟩

/-- Some call of a constructor with this memory and this stack pointer succeeds. -/
def AcceptsStackPointer (memory : GuestMemoryRegion) (stackPointer : ℕ) : Prop :=
  (∃ entry layout, new memory entry stackPointer = .ok layout) ∨
    ∃ entry pageMappings layout,
      withPageMappings memory entry stackPointer pageMappings = .ok layout

theorem memory_base (layout : LongModeBootLayout) : layout.memory.base = 0 :=
  (validateMemoryAndStack_eq_ok.mp layout.memory_ok).1

theorem memory_size (layout : LongModeBootLayout) : 0x200000 ≤ layout.memory.size :=
  (validateMemoryAndStack_eq_ok.mp layout.memory_ok).2.1

theorem admissible (layout : LongModeBootLayout) :
    ∀ m ∈ layout.pageMappings, m.Admissible :=
  (validatePageMappings_eq_ok.mp layout.mappings_ok).1

theorem nodup_virtualPage (layout : LongModeBootLayout) :
    (layout.pageMappings.map LongModePageMapping.virtualPage).Nodup :=
  (validatePageMappings_eq_ok.mp layout.mappings_ok).2

variable {memory : GuestMemoryRegion} {entry sp : ℕ} {pageMappings : List LongModePageMapping}
  {layout : LongModeBootLayout}

theorem validateMemoryAndStack_of_new (h : new memory entry sp = .ok layout) :
    validateMemoryAndStack memory sp = .ok () := by
  unfold new at h
  split at h
  · cases h
  · assumption

theorem validateMemoryAndStack_of_withPageMappings
    (h : withPageMappings memory entry sp pageMappings = .ok layout) :
    validateMemoryAndStack memory sp = .ok () := by
  unfold withPageMappings at h
  split at h
  · cases h
  · assumption

theorem eq_of_new (h : new memory entry sp = .ok layout) :
    layout.memory = memory ∧ layout.pageMappings = [] := by
  unfold new at h
  split at h
  · cases h
  · obtain ⟨_, -, hlayout⟩ := bind_eq_ok.mp h
    obtain rfl := Except.ok.inj hlayout
    exact ⟨rfl, rfl⟩

theorem pageMappings_of_new (h : new memory entry sp = .ok layout) : layout.pageMappings = [] :=
  (eq_of_new h).2

/-- The stack pointers a memory is accepted with do not depend on the entry or the mappings. -/
theorem AcceptsStackPointer.validateMemoryAndStack (h : AcceptsStackPointer memory sp) :
    validateMemoryAndStack memory sp = .ok () := by
  rcases h with ⟨_, _, h⟩ | ⟨_, _, _, h⟩
  · exact validateMemoryAndStack_of_new h
  · exact validateMemoryAndStack_of_withPageMappings h

/-- `with_page_mappings` succeeds when its three checks do, with the layout of its arguments. -/
theorem withPageMappings_isOk (hmem : LongMode.validateMemoryAndStack memory sp = .ok ())
    (hmap : validatePageMappings pageMappings = .ok ())
    (hentry : checkMappedEntry entry pageMappings = .ok ()) :
    withPageMappings memory entry sp pageMappings =
      .ok ⟨memory, entry, sp, pageMappings, hmem, hmap⟩ := by
  unfold withPageMappings
  split
  · rename_i e he
    rw [hmem] at he
    cases he
  · split
    · rename_i e he
      rw [hmap] at he
      cases he
    · rw [hentry]
      rfl

end LongModeBootLayout

end MiniHypervisor.LongMode
