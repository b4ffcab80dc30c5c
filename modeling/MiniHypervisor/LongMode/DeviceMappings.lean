import MiniHypervisor.LongMode.AddressSpace

/-!
# Device pages of a long-mode layout

A layout for guests with memory-mapped devices (`src/mmio/long_mode.rs`) maps pages of the alias
window to pages of devices, which lie above guest RAM.  The layout is checked, the tables of its
boot layout are installed without alias pages, and then the alias table is linked and given one
entry for each device page.

The frame of an entry ends at bit 51, while the checks admit every page of the 64-bit address space
above guest RAM.  So a device page is mapped where it was configured exactly when its address is
below `2 ^ 52`: above it the entry leads to the address without its upper bits, which may well be
guest RAM.
-/

namespace MiniHypervisor.LongMode

open Bytes Control Memory Paging

/-! ### Layouts -/

/-- A page of the alias window and the device page it leads to. -/
structure LongModeMmioPageMapping where
  virtualPage : ℕ
  deviceGpa : ℕ
  deriving DecidableEq, Repr

/-- Why a layout is refused (lines 69-78). -/
inductive LongModeMmioConfigurationError where
  | boot (error : LongModeConfigurationError)
  | noDeviceMappings
  | virtualPageMisaligned (virtualPage : ℕ)
  | virtualPageOutsideAliasWindow (virtualPage : ℕ)
  | devicePageMisaligned (devicePage : ℕ)
  | devicePageAddressOverflow (devicePage : ℕ)
  | devicePageBackedByRam (devicePage ramEnd : ℕ)
  | duplicateVirtualPage (virtualPage : ℕ)
  deriving DecidableEq, Repr

/-- The body of the loop of `validate_device_mappings`: `previous` are the mappings before this
one. -/
def checkDeviceMapping (memory : GuestMemoryRegion) (previous : List LongModeMmioPageMapping)
    (mapping : LongModeMmioPageMapping) : Except LongModeMmioConfigurationError Unit := do
  let virtualPage := mapping.virtualPage
  let devicePage := mapping.deviceGpa
  rejectIf (virtualPage % longModePageSize ≠ 0) (.virtualPageMisaligned virtualPage)
  rejectIf (¬ (longModeAliasVirtualBase ≤ virtualPage ∧ virtualPage < longModeAliasVirtualEnd))
    (.virtualPageOutsideAliasWindow virtualPage)
  rejectIf (devicePage % longModePageSize ≠ 0) (.devicePageMisaligned devicePage)
  rejectIf (2 ^ 64 ≤ devicePage + longModePageSize) (.devicePageAddressOverflow devicePage)
  rejectIf (devicePage < memory.endAddr) (.devicePageBackedByRam devicePage memory.endAddr)
  rejectIf (previous.any fun existing => existing.virtualPage == virtualPage)
    (.duplicateVirtualPage virtualPage)

/-- `validate_device_mappings` (lines 215-254). -/
def validateDeviceMappings (memory : GuestMemoryRegion) (mappings : List LongModeMmioPageMapping) :
    Except LongModeMmioConfigurationError Unit := do
  rejectIf mappings.isEmpty .noDeviceMappings
  mappings.zipIdx.forM fun entry =>
    checkDeviceMapping memory (mappings.take entry.2) entry.1

/-- A page of the alias window that leads to a page above guest RAM. -/
structure LongModeMmioPageMapping.Admissible (memory : GuestMemoryRegion)
    (m : LongModeMmioPageMapping) : Prop where
  virtual_aligned : m.virtualPage % 4096 = 0
  window : 0x400000 ≤ m.virtualPage ∧ m.virtualPage < 0x600000
  device_aligned : m.deviceGpa % 4096 = 0
  device_lt : m.deviceGpa + 4096 < 2 ^ 64
  above_ram : memory.endAddr ≤ m.deviceGpa

theorem checkDeviceMapping_eq_ok {memory : GuestMemoryRegion}
    {previous : List LongModeMmioPageMapping} {m : LongModeMmioPageMapping} :
    checkDeviceMapping memory previous m = .ok () ↔
      m.Admissible memory ∧ ∀ p ∈ previous, p.virtualPage ≠ m.virtualPage := by
  simp only [checkDeviceMapping, rejectIf_bind_eq_ok, rejectIf_eq_ok]
  simp only [List.any_eq_true, beq_iff_eq, not_exists, not_and, longModePageSize,
    longModeAliasVirtualBase, longModeAliasVirtualEnd, longModeAliasVirtualSize]
  constructor
  · rintro ⟨h₁, h₂, h₃, h₄, h₅, h₆⟩
    exact ⟨⟨by omega, by omega, by omega, by omega, by omega⟩, h₆⟩
  · rintro ⟨⟨h₁, h₂, h₃, h₄, h₅⟩, h₆⟩
    exact ⟨by omega, by omega, by omega, by omega, by omega, h₆⟩

/-- **The accepted device mappings.** -/
theorem validateDeviceMappings_eq_ok {memory : GuestMemoryRegion}
    {l : List LongModeMmioPageMapping} :
    validateDeviceMappings memory l = .ok () ↔
      l ≠ [] ∧ (∀ m ∈ l, m.Admissible memory) ∧
        (l.map LongModeMmioPageMapping.virtualPage).Nodup := by
  rw [validateDeviceMappings, rejectIf_bind_eq_ok, List.isEmpty_iff,
    forM_zipIdx_eq_ok fun _ _ => checkDeviceMapping_eq_ok]

/-- An accepted layout with device pages.  Its boot layout has no alias page of its own. -/
structure LongModeMmioBootLayout where
  boot : LongModeBootLayout
  deviceMappings : List LongModeMmioPageMapping
  boot_pageMappings : boot.pageMappings = []
  mappings_ok : validateDeviceMappings boot.memory deviceMappings = .ok ()

namespace LongModeMmioBootLayout

/-- `LongModeMmioBootLayout::with_device_mappings` (lines 160-172). -/
def withDeviceMappings (memory : GuestMemoryRegion) (entry stackPointer : ℕ)
    (deviceMappings : List LongModeMmioPageMapping) :
    Except LongModeMmioConfigurationError LongModeMmioBootLayout :=
  match hboot : LongModeBootLayout.new memory entry stackPointer with
  | .error e => .error (.boot e)
  | .ok boot =>
      match hmappings : validateDeviceMappings memory deviceMappings with
      | .error e => .error e
      | .ok () => .ok {
          boot
          deviceMappings
          boot_pageMappings := LongModeBootLayout.pageMappings_of_new hboot
          mappings_ok := (congrArg (validateDeviceMappings · deviceMappings)
            (LongModeBootLayout.eq_of_new hboot).1).trans hmappings }

def longModeMmioVirtualPage : ℕ := 0x500000

def longModeMmioDeviceGpa : ℕ := 0x10000000

/-- `LongModeMmioBootLayout::new` (lines 144-158). -/
def new (memory : GuestMemoryRegion) (entry stackPointer : ℕ) :
    Except LongModeMmioConfigurationError LongModeMmioBootLayout :=
  withDeviceMappings memory entry stackPointer [⟨longModeMmioVirtualPage, longModeMmioDeviceGpa⟩]

/-- `LongModeMmioBootLayout::install_page_tables` (lines 194-212). -/
def installPageTables (layout : LongModeMmioBootLayout) :
    EStateM GuestMemoryError GuestMemory Unit := do
  layout.boot.installPageTables
  writeU64 (longModePdAddr + aliasPdIndex * 8) (longModeAliasPtAddr ||| pageTableEntryFlags)
  layout.deviceMappings.forM fun mapping =>
    let pteIndex := (mapping.virtualPage - longModeAliasVirtualBase) / longModePageSize
    writeU64 (longModeAliasPtAddr + pteIndex * 8) (mapping.deviceGpa ||| pageTableEntryFlags)

/-! ### The tables of a layout -/

/-- The device pages of a layout, as pages of the alias window. -/
def pages (layout : LongModeMmioBootLayout) : List (ℕ × ℕ) :=
  layout.deviceMappings.map fun m => (m.virtualPage, m.deviceGpa)

section Tables

variable (layout : LongModeMmioBootLayout) {mem : GuestMemory}

theorem admissible : ∀ m ∈ layout.deviceMappings, m.Admissible layout.boot.memory :=
  (validateDeviceMappings_eq_ok.mp layout.mappings_ok).2.1

theorem windowPages : WindowPages layout.pages := by
  have hadm := layout.admissible
  simp only [pages]
  refine ⟨?_, ?_, ?_, ?_, ?_⟩
  · exact List.forall_mem_map.mpr fun m hm => (hadm m hm).virtual_aligned
  · exact List.forall_mem_map.mpr fun m hm => (hadm m hm).window
  · exact List.forall_mem_map.mpr fun m hm => (hadm m hm).device_aligned
  · exact List.forall_mem_map.mpr fun m hm => (hadm m hm).device_lt
  · rw [List.map_map]
    exact (validateDeviceMappings_eq_ok.mp layout.mappings_ok).2.2

/-- **The installation succeeds.** It writes the entries of an alias window with the device
pages. -/
theorem run_installPageTables_eq (hregion : mem.region = layout.boot.memory) :
    layout.installPageTables.run mem =
      .ok () (withTables mem (identityEntries ++ aliasEntries layout.pages)) := by
  have hlow := layout.boot.coversLow hregion
  have hboot : layout.boot.entries = identityEntries := by
    rw [LongModeBootLayout.entries, layout.boot_pageMappings]
    exact List.append_nil _
  have hlink : (writeU64 (longModePdAddr + aliasPdIndex * 8)
        (longModeAliasPtAddr ||| pageTableEntryFlags)).run (withTables mem identityEntries) =
      .ok () ((withTables mem identityEntries).overwrite 0x3010 (leBytes 8 0x4003)) := by
    refine GuestMemory.run_write_of_contains ?_
    rw [region_withTables]
    exact hlow.contains (by rw [length_leBytes]; decide)
  have hlinked : CoversLow ((withTables mem identityEntries).overwrite 0x3010 (leBytes 8 0x4003)) :=
    hlow.of_region_eq (region_withTables _ _)
  have hloop := layout.windowPages.run_writeAliasEntries hlinked
  have hrun := layout.boot.run_installPageTables_eq hregion
  rw [hboot] at hrun
  rw [installPageTables, run_bind_of_ok hrun, run_bind_of_ok hlink, withTables_append, aliasEntries,
    GuestMemory.overwriteAll_cons]
  exact hloop

end Tables

end LongModeMmioBootLayout

/-! ### Where the devices are mapped -/

/-- The entries that the page walk of an address reads, from the upper table down. -/
def walkEntries (mem : GuestMemory) (cr3 va : ℕ) : Option (List ℕ) :=
  (walk (tableEntry mem) va 4 cr3).map fun w => w.entries.map Prod.snd

/-- The devices are mapped where they were configured. -/
structure MapsDevices (memory : GuestMemoryRegion) (mappings : List LongModeMmioPageMapping)
    (mem : GuestMemory) : Prop where
  /-- Every address of a mapped page leads to the configured device page. -/
  device : ∀ m ∈ mappings, ∀ va, alignDownPage va = m.virtualPage →
    pageWalk mem longModePml4Addr va = some (m.deviceGpa + va % longModePageSize)
  /-- No bit above bit 51, the no-execute bit among them, is set in an entry on the way. -/
  clean : ∀ m ∈ mappings, ∀ va, alignDownPage va = m.virtualPage →
    ∃ entries, walkEntries mem longModePml4Addr va = some entries ∧ ∀ e ∈ entries, e < 2 ^ 52
  /-- No address of a device page is guest RAM. -/
  outside : ∀ m ∈ mappings, ∀ a, m.deviceGpa ≤ a → a < m.deviceGpa + longModePageSize →
    ¬ memory.Contains a 1
  identity : ∀ va < longModeIdentityMapSize, pageWalk mem longModePml4Addr va = some va
  nothing_else : ∀ va pa, Canonical va → pageWalk mem longModePml4Addr va = some pa →
    va < longModeIdentityMapSize ∨ ∃ m ∈ mappings, alignDownPage va = m.virtualPage

namespace LongModeMmioBootLayout

variable {memory : GuestMemoryRegion} {entry sp : ℕ} {mappings : List LongModeMmioPageMapping}
  {layout : LongModeMmioBootLayout}

theorem eq_of_withDeviceMappings (h : withDeviceMappings memory entry sp mappings = .ok layout) :
    layout.boot.memory = memory ∧ layout.deviceMappings = mappings := by
  unfold withDeviceMappings at h
  split at h
  · cases h
  · split at h
    · cases h
    · rename_i boot hboot _
      obtain rfl := Except.ok.inj h
      exact ⟨(LongModeBootLayout.eq_of_new hboot).1, rfl⟩

section Walk

variable (layout) {mem : GuestMemory} {va pa : ℕ}

theorem window_of_alignDownPage {m : LongModeMmioPageMapping} (hm : m ∈ layout.deviceMappings)
    (hva : alignDownPage va = m.virtualPage) : 0x400000 ≤ va ∧ va < 0x600000 := by
  have haligned := (layout.admissible m hm).virtual_aligned
  have hwindow := (layout.admissible m hm).window
  simp only [alignDownPage, longModePageSize] at hva
  omega

/-- The walk over the tables of a layout: an entry keeps the lower 52 bits of its device page. -/
theorem pageWalk_eq_some (hlow : CoversLow mem) (hva : Canonical va) :
    pageWalk (withTables mem (identityEntries ++ aliasEntries layout.pages)) longModePml4Addr va =
        some pa ↔
      va < longModeIdentityMapSize ∧ pa = va ∨
        ∃ m ∈ layout.deviceMappings, alignDownPage va = m.virtualPage ∧
          pa = m.deviceGpa % 2 ^ 52 + va % longModePageSize := by
  rw [layout.windowPages.pageWalk_eq_some hlow hva]
  simp only [pages, List.mem_map, exists_exists_and_eq_and, eq_comm (a := alignDownPage va)]
  rfl

theorem walkEntries_device (hlow : CoversLow mem) {m : LongModeMmioPageMapping}
    (hm : m ∈ layout.deviceMappings) (hva : alignDownPage va = m.virtualPage) :
    walkEntries (withTables mem (identityEntries ++ aliasEntries layout.pages))
        longModePml4Addr va = some [0x2003, 0x3003, 0x4003, m.deviceGpa + 3] := by
  obtain ⟨hfirst, hlast⟩ := layout.window_of_alignDownPage hm hva
  have hentry : windowEntry layout.pages ((va - 0x400000) / 4096) = some (m.deviceGpa + 3) :=
    (layout.windowPages.windowEntry_eq_some hfirst).mpr
      ⟨(m.virtualPage, m.deviceGpa), List.mem_map_of_mem hm, hva.symm, rfl⟩
  rw [walkEntries, (layout.windowPages.exactTables hlow).walk_eq (Or.inl (by omega)),
    if_neg (by omega), if_pos ⟨hfirst, hlast⟩, hentry]
  rfl

theorem mapsDevices (hlow : CoversLow mem)
    (hdevice : ∀ m ∈ layout.deviceMappings, m.deviceGpa < 2 ^ 52) :
    MapsDevices layout.boot.memory layout.deviceMappings
      (withTables mem (identityEntries ++ aliasEntries layout.pages)) where
  device m hm va hva := by
    have hwindow := layout.window_of_alignDownPage hm hva
    rw [layout.pageWalk_eq_some hlow (Or.inl (by omega))]
    exact Or.inr ⟨m, hm, hva, by rw [Nat.mod_eq_of_lt (hdevice m hm)]⟩
  clean m hm va hva := by
    refine ⟨_, layout.walkEntries_device hlow hm hva, ?_⟩
    have haligned := (layout.admissible m hm).device_aligned
    have hlt := hdevice m hm
    simp only [List.mem_cons, List.not_mem_nil, or_false]
    rintro e (rfl | rfl | rfl | rfl) <;> omega
  outside m hm a hfirst _ hcontains := by
    have habove := (layout.admissible m hm).above_ram
    have hend : a + 1 ≤ layout.boot.memory.endAddr := hcontains.2
    omega
  identity va hva := (layout.pageWalk_eq_some hlow
    (Or.inl (lt_trans hva (by norm_num [longModeIdentityMapSize])))).mpr (Or.inl ⟨hva, rfl⟩)
  nothing_else va pa hva hpa := by
    rcases (layout.pageWalk_eq_some hlow hva).mp hpa with ⟨hlt, -⟩ | ⟨m, hm, hpage, -⟩
    · exact Or.inl hlt
    · exact Or.inr ⟨m, hm, hpage⟩

end Walk

/-- **When the devices are mapped where they were configured.** For every list of device pages that
`with_device_mappings` accepts and every content of the memory, the installation succeeds; after it
the devices are mapped exactly when every device page lies below `2 ^ 52`. -/
theorem mapsDevices_iff (h : withDeviceMappings memory entry sp mappings = .ok layout)
    (mem : GuestMemory) (hregion : mem.region = memory) :
    ∃ mem', layout.installPageTables.run mem = .ok () mem' ∧
      (MapsDevices memory mappings mem' ↔ ∀ m ∈ mappings, m.deviceGpa < 2 ^ 52) := by
  obtain ⟨rfl, rfl⟩ := eq_of_withDeviceMappings h
  have hlow := layout.boot.coversLow hregion
  refine ⟨_, layout.run_installPageTables_eq hregion, fun hmaps m hm => ?_,
    layout.mapsDevices hlow⟩
  -- the walk of the first byte of the page shows which bits of the address were kept
  have hbase : alignDownPage m.virtualPage = m.virtualPage := by
    have haligned := (layout.admissible m hm).virtual_aligned
    simp only [alignDownPage, longModePageSize]
    omega
  have hwindow := layout.window_of_alignDownPage hm hbase
  have hkept := (layout.pageWalk_eq_some hlow (Or.inl (by omega))).mpr
    (Or.inr ⟨m, hm, hbase, rfl⟩)
  rw [hmaps.device m hm _ hbase, Option.some.injEq] at hkept
  omega

/-- The device page of the default layout is mapped. -/
theorem mapsDevices_default :
    ∃ region layout, GuestMemoryRegion.new 0 0x200000 = .ok region ∧
      withDeviceMappings region 0x10000 0x1ff000 [⟨0x500000, 0x10000000⟩] = .ok layout ∧
      ∃ mem', layout.installPageTables.run ⟨region, fun _ => 0xff⟩ = .ok () mem' ∧
        MapsDevices region [⟨0x500000, 0x10000000⟩] mem' := by
  obtain ⟨region, hregion⟩ : ∃ region, GuestMemoryRegion.new 0 0x200000 = .ok region := ⟨_, rfl⟩
  obtain ⟨layout, hlayout⟩ : ∃ layout, withDeviceMappings region 0x10000 0x1ff000
      [⟨0x500000, 0x10000000⟩] = .ok layout := by
    cases hregion
    exact ⟨_, rfl⟩
  obtain ⟨mem', hrun, hiff⟩ := mapsDevices_iff hlayout ⟨region, fun _ => 0xff⟩ rfl
  exact ⟨region, layout, hregion, hlayout, mem', hrun, hiff.mpr (by simp)⟩

/-- A device page at `2 ^ 52` is accepted, and its virtual page then leads to the first page of
guest RAM. -/
theorem device_page_maps_ram :
    ∃ region layout, GuestMemoryRegion.new 0 0x200000 = .ok region ∧
      withDeviceMappings region 0x10000 0x1ff000 [⟨0x500000, 2 ^ 52⟩] = .ok layout ∧
      ∃ mem', layout.installPageTables.run ⟨region, fun _ => 0xff⟩ = .ok () mem' ∧
        pageWalk mem' longModePml4Addr 0x500000 = some 0 ∧ region.Contains 0 1 := by
  obtain ⟨region, hregion⟩ : ∃ region, GuestMemoryRegion.new 0 0x200000 = .ok region := ⟨_, rfl⟩
  obtain ⟨layout, hlayout⟩ : ∃ layout, withDeviceMappings region 0x10000 0x1ff000
      [⟨0x500000, 2 ^ 52⟩] = .ok layout := by
    cases hregion
    exact ⟨_, rfl⟩
  obtain ⟨hmemory, hmappings⟩ := eq_of_withDeviceMappings hlayout
  refine ⟨region, layout, hregion, hlayout, _, layout.run_installPageTables_eq hmemory.symm, ?_, ?_⟩
  · rw [layout.pageWalk_eq_some (layout.boot.coversLow hmemory.symm) (Or.inl (by norm_num)),
      hmappings]
    exact Or.inr ⟨_, List.mem_singleton_self _, rfl, rfl⟩
  · cases hregion
    exact ⟨by decide, by decide⟩

end LongModeMmioBootLayout

end MiniHypervisor.LongMode
