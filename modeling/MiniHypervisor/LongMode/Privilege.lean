import MiniHypervisor.LongMode.UserSpaces

/-!
# User mode and two address spaces

A layout for guests with user mode (`src/privilege.rs`) replaces the large page of the boot tables
by a table that gives three pages to user mode: its code, its data and its stack.  A layout for two
tasks (`src/address_space.rs`) adds a second root that maps the same three virtual pages to frames
of their own.  The constructors check addresses that are constants, so they accept every memory
that the boot layout accepts.

## Main results

* `address_spaces_isolated` : the two tasks of the second layout.
-/

namespace MiniHypervisor.LongMode.Privilege

open Bytes Control Memory Paging

/-! ### The privilege layout -/

def privilegeGdtAddr : ℕ := 0x5000
def privilegeIdtAddr : ℕ := 0x6000
def privilegeTssAddr : ℕ := 0x7000
def privilegePtAddr : ℕ := 0x8000
def privilegeTableEnd : ℕ := 0x9000
def privilegeObservationAddr : ℕ := 0xa000
def privilegeKernelEntry : ℕ := 0x10000
def privilegeUserEntry : ℕ := 0x11000
def privilegeReturnHandler : ℕ := 0x15000
def privilegeTerminalHandler : ℕ := 0x13000
def privilegeBootStack : ℕ := 0x1ff000
def privilegeTssRsp0 : ℕ := 0x1fe000
def privilegeUserStack : ℕ := 0x1fd000
def privilegeReturnVector : ℕ := 0x80
def privilegeTerminalVector : ℕ := 0x81
def x86InterruptGateSize : ℕ := 16
def kernelCodeSelector : ℕ := 0x08
def tssLimit : ℕ := 103
def tssByteCount : ℕ := 104

inductive PrivilegeConfigurationError where
  | boot (error : LongModeConfigurationError)
  | addressOutsideIdentityMap (role : String) (address : ℕ)
  | addressOverlapsTables (role : String) (address : ℕ)
  | stackOutsideIdentityMap (role : String) (stack : ℕ)
  | kernelAddressSharesUserPage (role : String) (address : ℕ)
  deriving DecidableEq, Repr

def validateAddress (role : String) (address : ℕ) : Except PrivilegeConfigurationError Unit := do
  rejectIf (longModeIdentityMapSize ≤ address) (.addressOutsideIdentityMap role address)
  rejectIf (longModePml4Addr ≤ address ∧ address < privilegeTableEnd)
    (.addressOverlapsTables role address)

def isUserPage (address : ℕ) : Bool :=
  let page := alignDownPage address
  page == alignDownPage privilegeUserEntry || page == alignDownPage privilegeObservationAddr ||
    page == alignDownPage (privilegeUserStack - 1)

/-- `LongModePrivilegeLayout`.  Its boot layout has no alias page. -/
structure LongModePrivilegeLayout where
  boot : LongModeBootLayout
  boot_pageMappings : boot.pageMappings = []

/-- The checks of `LongModePrivilegeLayout::new` after the boot layout (lines 159-193). -/
def checkAddresses : Except PrivilegeConfigurationError Unit := do
  [("kernel entry", privilegeKernelEntry), ("user entry", privilegeUserEntry),
    ("return handler", privilegeReturnHandler), ("terminal handler", privilegeTerminalHandler),
    ("selector observation", privilegeObservationAddr)].forM fun (role, address) =>
      validateAddress role address
  [("bootstrap", privilegeBootStack), ("TSS RSP0", privilegeTssRsp0),
    ("user", privilegeUserStack)].forM fun (role, stack) =>
      rejectIf (stack = 0 ∨ longModeIdentityMapSize < stack) (.stackOutsideIdentityMap role stack)
  [("kernel entry", privilegeKernelEntry), ("return handler", privilegeReturnHandler),
    ("terminal handler", privilegeTerminalHandler), ("bootstrap stack", privilegeBootStack - 1),
    ("TSS kernel stack", privilegeTssRsp0 - 1)].forM fun (role, address) =>
      rejectIf (isUserPage address) (.kernelAddressSharesUserPage role address)

/-- `LongModePrivilegeLayout::new` (lines 157-195). -/
def LongModePrivilegeLayout.new (memory : GuestMemoryRegion) :
    Except PrivilegeConfigurationError LongModePrivilegeLayout :=
  match hboot : LongModeBootLayout.new memory privilegeKernelEntry privilegeBootStack with
  | .error e => .error (.boot e)
  | .ok boot => do
      checkAddresses
      return ⟨boot, LongModeBootLayout.pageMappings_of_new hboot⟩

/-- The space of the privilege tables. -/
def privilegeSpace : Space where
  pml4 := longModePml4Addr
  pdpt := longModePdptAddr
  pd := longModePdAddr
  pt := privilegePtAddr
  frame index := index * longModePageSize
  user index := isUserPage (index * longModePageSize)

/-- `install_privilege_page_tables` (lines 491-511). -/
def installPrivilegePageTables : EStateM GuestMemoryError GuestMemory Unit :=
  privilegeSpace.install

def encodeTssDescriptor (base : ℕ) : List UInt8 :=
  leBytes 2 tssLimit ++ leBytes 2 base ++ [UInt8.ofNat (base >>> 16), 0x89,
    UInt8.ofNat ((tssLimit >>> 16) &&& 0x0f), UInt8.ofNat (base >>> 24)] ++
    leBytes 4 (base >>> 32) ++ List.replicate 4 0

def gdtBytes : List UInt8 :=
  [(0 : UInt8), 0, 0, 0, 0, 0, 0, 0,
    0xff, 0xff, 0, 0, 0, 0x9b, 0xaf, 0,
    0xff, 0xff, 0, 0, 0, 0x93, 0x8f, 0,
    0xff, 0xff, 0, 0, 0, 0xf3, 0x8f, 0,
    0xff, 0xff, 0, 0, 0, 0xfb, 0xaf, 0] ++ encodeTssDescriptor privilegeTssAddr

def encodeUserInterruptGate (handler : ℕ) : List UInt8 :=
  leBytes 2 handler ++ leBytes 2 kernelCodeSelector ++ [(0 : UInt8), 0xee] ++
    leBytes 2 (handler >>> 16) ++ leBytes 4 (handler >>> 32) ++ List.replicate 4 0

def tssBytes : List UInt8 :=
  List.replicate 4 0 ++ leBytes 8 privilegeTssRsp0 ++ List.replicate 90 0 ++ leBytes 2 tssByteCount

def zeroPage : List UInt8 := List.replicate longModePageSize 0

/-- `LongModePrivilegeLayout::install_tables` (lines 219-246). -/
def LongModePrivilegeLayout.installTables (layout : LongModePrivilegeLayout) :
    EStateM GuestMemoryError GuestMemory Unit := do
  layout.boot.installPageTables
  GuestMemory.write privilegeGdtAddr zeroPage
  GuestMemory.write privilegeIdtAddr zeroPage
  GuestMemory.write privilegeTssAddr zeroPage
  GuestMemory.write privilegePtAddr zeroPage
  installPrivilegePageTables
  GuestMemory.write privilegeGdtAddr gdtBytes
  GuestMemory.write (privilegeIdtAddr + privilegeReturnVector * x86InterruptGateSize)
    (encodeUserInterruptGate privilegeReturnHandler)
  GuestMemory.write (privilegeIdtAddr + privilegeTerminalVector * x86InterruptGateSize)
    (encodeUserInterruptGate privilegeTerminalHandler)
  GuestMemory.write privilegeTssAddr tssBytes

/-! ### The layout of two tasks -/

def addressSpaceBPml4Addr : ℕ := 0xb000
def addressSpaceBPdptAddr : ℕ := 0xc000
def addressSpaceBPdAddr : ℕ := 0xd000
def addressSpaceBPtAddr : ℕ := 0xe000
def addressSpaceCr3ObservationAddr : ℕ := 0xf000
def addressSpaceBUserCodeBacking : ℕ := 0x20000
def addressSpaceBUserDataBacking : ℕ := 0x21000
def addressSpaceBUserStackBacking : ℕ := 0x22000

inductive AddressSpaceConfigurationError where
  | privilege (error : PrivilegeConfigurationError)
  | addressOutsideMemory (role : String) (address : ℕ)
  | misalignedAddress (role : String) (address : ℕ)
  | duplicateReservedPage (first second : String) (address : ℕ)
  deriving DecidableEq, Repr

/-- The pages that `AddressSpaceSwitchLayout::new` reserves. -/
def reserved : List (String × ℕ) :=
  [("B PML4", addressSpaceBPml4Addr), ("B PDPT", addressSpaceBPdptAddr),
    ("B PD", addressSpaceBPdAddr), ("B PT", addressSpaceBPtAddr),
    ("CR3 observation", addressSpaceCr3ObservationAddr),
    ("B user code backing", addressSpaceBUserCodeBacking),
    ("B user data backing", addressSpaceBUserDataBacking),
    ("B user stack backing", addressSpaceBUserStackBacking)]

/-- The checks of `AddressSpaceSwitchLayout::new` on these pages (lines 156-174). -/
def checkReserved (memory : GuestMemoryRegion) : Except AddressSpaceConfigurationError Unit := do
  reserved.forM fun (role, address) => do
    rejectIf (address % longModePageSize ≠ 0) (.misalignedAddress role address)
    rejectIf (address < memory.base ∨ memory.endAddr < address + longModePageSize)
      (.addressOutsideMemory role address)
  reserved.zipIdx.forM fun ((first, firstAddress), index) =>
    (reserved.drop (index + 1)).forM fun (second, secondAddress) =>
      rejectIf (firstAddress = secondAddress) (.duplicateReservedPage first second firstAddress)

/-- `AddressSpaceSwitchLayout`.  Both parts have the same memory. -/
structure AddressSpaceSwitchLayout where
  privilege : LongModePrivilegeLayout
  memory : GuestMemoryRegion
  memory_eq : privilege.boot.memory = memory

theorem memory_of_new {memory : GuestMemoryRegion} {layout : LongModePrivilegeLayout}
    (h : LongModePrivilegeLayout.new memory = .ok layout) : layout.boot.memory = memory := by
  unfold LongModePrivilegeLayout.new at h
  split at h
  · cases h
  · next hboot =>
      obtain ⟨_, -, hlayout⟩ := bind_eq_ok.mp h
      obtain rfl := Except.ok.inj hlayout
      exact (LongModeBootLayout.eq_of_new hboot).1

/-- `AddressSpaceSwitchLayout::new` (lines 134-176). -/
def AddressSpaceSwitchLayout.new (memory : GuestMemoryRegion) :
    Except AddressSpaceConfigurationError AddressSpaceSwitchLayout :=
  match hprivilege : LongModePrivilegeLayout.new memory with
  | .error e => .error (.privilege e)
  | .ok privilege => do
      checkReserved memory
      return ⟨privilege, memory, memory_of_new hprivilege⟩

def isUserVirtualPage (address : ℕ) : Bool :=
  let page := alignDownPage address
  page == alignDownPage privilegeUserEntry || page == 0xa000 ||
    page == alignDownPage (privilegeUserStack - 1)

/-- The space of the second root. -/
def secondSpace : Space where
  pml4 := addressSpaceBPml4Addr
  pdpt := addressSpaceBPdptAddr
  pd := addressSpaceBPdAddr
  pt := addressSpaceBPtAddr
  frame index :=
    let virtualAddress := index * longModePageSize
    if virtualAddress = 0xa000 then addressSpaceBUserDataBacking
    else if virtualAddress = privilegeUserEntry then addressSpaceBUserCodeBacking
    else if virtualAddress = alignDownPage (privilegeUserStack - 1) then
      addressSpaceBUserStackBacking
    else virtualAddress
  user index := isUserVirtualPage (index * longModePageSize)

/-- `install_second_root` (lines 450-492). -/
def installSecondRoot : EStateM GuestMemoryError GuestMemory Unit := secondSpace.install

/-- The pages that `AddressSpaceSwitchLayout::install_tables` clears. -/
def switchPages : List ℕ :=
  [addressSpaceBPml4Addr, addressSpaceBPdptAddr, addressSpaceBPdAddr, addressSpaceBPtAddr,
    addressSpaceCr3ObservationAddr]

/-- `AddressSpaceSwitchLayout::install_tables` (lines 192-206). -/
def AddressSpaceSwitchLayout.installTables (layout : AddressSpaceSwitchLayout) :
    EStateM GuestMemoryError GuestMemory Unit := do
  layout.privilege.installTables
  switchPages.forM fun page => GuestMemory.write page zeroPage
  installSecondRoot

/-! ### The accepted memories -/

theorem exists_privilegeLayout {memory : GuestMemoryRegion} (hbase : memory.base = 0)
    (hsize : 0x200000 ≤ memory.size) :
    ∃ layout, LongModePrivilegeLayout.new memory = .ok layout := by
  have hmem : validateMemoryAndStack memory privilegeBootStack = .ok () :=
    validateMemoryAndStack_eq_ok.mpr ⟨hbase, hsize, by decide⟩
  unfold LongModePrivilegeLayout.new
  split
  · next e hboot =>
      unfold LongModeBootLayout.new at hboot
      split at hboot
      · next e' herror =>
          rw [hmem] at herror
          cases herror
      · cases hboot
  · exact ⟨_, rfl⟩

/-- The constructor accepts every memory that starts at 0 and covers the low 2 MiB. -/
theorem exists_switchLayout {memory : GuestMemoryRegion} (hbase : memory.base = 0)
    (hsize : 0x200000 ≤ memory.size) :
    ∃ layout, AddressSpaceSwitchLayout.new memory = .ok layout ∧ layout.memory = memory := by
  have hpages : ∀ p ∈ reserved, p.2 % longModePageSize = 0 ∧ p.2 ≤ 0x22000 := by decide
  have hreserved : checkReserved memory = .ok () := by
    refine bind_eq_ok.mpr ⟨(), forM_eq_ok.mpr fun p hp => ?_, rfl⟩
    obtain ⟨haligned, hle⟩ := hpages p hp
    refine rejectIf_bind_eq_ok.mpr ⟨not_not.mpr haligned, rejectIf_eq_ok.mpr ?_⟩
    simp only [GuestMemoryRegion.endAddr, longModePageSize]
    omega
  obtain ⟨privilege, hprivilege⟩ := exists_privilegeLayout hbase hsize
  unfold AddressSpaceSwitchLayout.new
  split
  · next e herror =>
      rw [hprivilege] at herror
      cases herror
  · rw [hreserved]
    exact ⟨_, rfl, rfl⟩

/-! ### The spaces -/

theorem isUserPage_iff {a : ℕ} :
    isUserPage a = true ↔ a / 4096 = 0x11 ∨ a / 4096 = 0xa ∨ a / 4096 = 0x1fc := by
  simp only [isUserPage, alignDownPage, longModePageSize, privilegeUserEntry,
    privilegeObservationAddr, privilegeUserStack, Bool.or_eq_true, beq_iff_eq]
  omega

theorem isUserVirtualPage_eq : isUserVirtualPage = isUserPage := rfl

theorem valid_privilegeSpace : privilegeSpace.Valid := by
  refine ⟨by decide, by decide, fun i hi => ?_⟩
  simp only [privilegeSpace, longModePageSize]
  omega

theorem secondSpace_frame (i : ℕ) :
    secondSpace.frame i = if i = 0xa then 0x21000 else if i = 0x11 then 0x20000
      else if i = 0x1fc then 0x22000 else i * 4096 := by
  have hdata : i * longModePageSize = 0xa000 ↔ i = 0xa := by rw [longModePageSize]; omega
  have hcode : i * longModePageSize = privilegeUserEntry ↔ i = 0x11 := by
    rw [longModePageSize, privilegeUserEntry]; omega
  have hstack : i * longModePageSize = alignDownPage (privilegeUserStack - 1) ↔ i = 0x1fc := by
    rw [alignDownPage, longModePageSize, privilegeUserStack]; omega
  simp only [secondSpace, hdata, hcode, hstack]
  rfl

theorem valid_secondSpace : secondSpace.Valid := by
  refine ⟨by decide, by decide, fun i hi => ?_⟩
  rw [secondSpace_frame]
  split_ifs <;> omega

theorem owns_privilegeSpace {a : ℕ} : privilegeSpace.Owns a ↔ isUserPage a = true := by
  simp only [Space.Owns, privilegeSpace, longModePageSize, isUserPage_iff]
  constructor
  · rintro ⟨i, hi, huser, hframe⟩
    omega
  · intro h
    exact ⟨a / 4096, by omega, by omega, by omega⟩

theorem owns_secondSpace {a : ℕ} (h : secondSpace.Owns a) :
    a / 4096 = 0x20 ∨ a / 4096 = 0x21 ∨ a / 4096 = 0x22 := by
  obtain ⟨i, hi, huser, hframe⟩ := h
  rw [secondSpace_frame] at hframe
  simp only [secondSpace, isUserVirtualPage_eq, isUserPage_iff, longModePageSize] at huser
  split_ifs at hframe <;> omega

/-- The two tasks. -/
inductive Task where
  | a
  | b
  deriving DecidableEq, Repr

/-- The spaces of the tasks. -/
def spaces : Task → Space
  | .a => privilegeSpace
  | .b => secondSpace

theorem isolated_spaces : Isolated spaces := by
  have htables : ∀ s, ∀ t ∈ (spaces s).tables, isUserPage t = false ∧ t < 0xf000 := by
    rintro (_ | _) <;> decide
  refine ⟨fun r => ?_, fun r s t ht howns => ?_, fun r s address hne howns howns' => ?_⟩
  · cases r with
    | a => exact valid_privilegeSpace
    | b => exact valid_secondSpace
  · obtain ⟨hnot, hlt⟩ := htables s t ht
    cases r with
    | a => exact Bool.false_ne_true (hnot.symm.trans (owns_privilegeSpace.mp howns))
    | b =>
        have hpage := owns_secondSpace howns
        omega
  · have hapart : privilegeSpace.Owns address → ¬ secondSpace.Owns address := by
      rw [owns_privilegeSpace, isUserPage_iff]
      intro hfirst hsecond
      have hpage := owns_secondSpace hsecond
      omega
    cases r with
    | a =>
        cases s with
        | a => exact hne rfl
        | b => exact hapart howns howns'
    | b =>
        cases s with
        | a => exact hapart howns' howns
        | b => exact hne rfl

/-! ### The installed tables -/

/-- The pages that the privilege layout clears. -/
def privilegePages : List ℕ :=
  [privilegeGdtAddr, privilegeIdtAddr, privilegeTssAddr, privilegePtAddr]

/-- The descriptors that it writes. -/
def descriptors : List (ℕ × List UInt8) :=
  [(privilegeGdtAddr, gdtBytes),
    (privilegeIdtAddr + privilegeReturnVector * x86InterruptGateSize,
      encodeUserInterruptGate privilegeReturnHandler),
    (privilegeIdtAddr + privilegeTerminalVector * x86InterruptGateSize,
      encodeUserInterruptGate privilegeTerminalHandler),
    (privilegeTssAddr, tssBytes)]

/-- What the privilege layout writes after the boot tables. -/
def privilegeWrites : List (ℕ × List UInt8) :=
  privilegePages.map (fun page => (page, zeroPage)) ++ (privilegeSpace.writes ++ descriptors)

section Install

variable {mem : GuestMemory}

theorem descriptors_bounds : ∀ w ∈ descriptors, 0x5000 ≤ w.1 ∧ w.1 + w.2.length ≤ 0x8000 := by
  simp only [descriptors, List.forall_mem_cons]
  decide

theorem LongModePrivilegeLayout.run_installTables (layout : LongModePrivilegeLayout)
    (hregion : mem.region = layout.boot.memory) :
    layout.installTables.run mem =
      .ok () ((withTables mem identityEntries).overwriteAll privilegeWrites) := by
  have hlow := layout.boot.coversLow hregion
  have hin : ∀ a n, a + n ≤ 0x200000 → mem.region.Contains a n := fun a n => hlow.contains
  have hboot := layout.boot.run_installPageTables_eq hregion
  rw [LongModeBootLayout.entries, layout.boot_pageMappings, List.isEmpty_nil, if_pos rfl,
    List.append_nil] at hboot
  have hpage : ∀ p ∈ privilegePages, GuestMemory.Writes mem.region (GuestMemory.write p zeroPage)
      [(p, zeroPage)] := by
    intro p hp
    have hle : p ≤ 0x8000 := by revert p; decide
    exact .write (hin _ _ (by rw [zeroPage, List.length_replicate, longModePageSize]; omega))
  have hdescriptor : ∀ w ∈ descriptors, GuestMemory.Writes mem.region (GuestMemory.write w.1 w.2)
      [w] := by
    intro w hw
    have hle := (descriptors_bounds w hw).2
    exact .write (hin _ _ (by omega))
  have hrest := (hpage _ (.head _)).seq ((hpage _ (.tail _ (.head _))).seq
    ((hpage _ (.tail _ (.tail _ (.head _)))).seq
    ((hpage _ (.tail _ (.tail _ (.tail _ (.head _))))).seq
    ((valid_privilegeSpace.writes_install hin).seq
    ((hdescriptor _ (.head _)).seq ((hdescriptor _ (.tail _ (.head _))).seq
    ((hdescriptor _ (.tail _ (.tail _ (.head _)))).seq
    (hdescriptor _ (.tail _ (.tail _ (.tail _ (.head _))))))))))))
  rw [LongModePrivilegeLayout.installTables, run_bind_of_ok hboot]
  refine (hrest _ (by rw [region_withTables])).trans ?_
  simp only [privilegeWrites, privilegePages, descriptors, List.map_cons, List.map_nil,
    List.cons_append, List.nil_append]

theorem privilegeWrites_bounds {w : ℕ × List UInt8} (hw : w ∈ privilegeWrites) :
    0x1000 ≤ w.1 ∧ w.1 + w.2.length ≤ 0x9000 := by
  have hpages : ∀ p ∈ privilegePages, 0x5000 ≤ p ∧ p ≤ 0x8000 := by decide
  have htables : ∀ t ∈ privilegeSpace.tables, 0x1000 ≤ t ∧ t ≤ 0x8000 := by decide
  rcases List.mem_append.mp hw with hw | hw
  · obtain ⟨p, hp, rfl⟩ := List.mem_map.mp hw
    have hbounds := hpages p hp
    simp only [zeroPage, List.length_replicate, longModePageSize]
    omega
  · rcases List.mem_append.mp hw with hw | hw
    · obtain ⟨hlen, t, ht, i, hi, haddr⟩ := Space.mem_writes hw
      have hbounds := htables t ht
      omega
    · have hbounds := descriptors_bounds w hw
      omega

/-- Memory with the boot tables and some writes over it. -/
theorem coversLow_overwriteAll (hlow : CoversLow mem) (ws : List (ℕ × List UInt8)) :
    CoversLow ((withTables mem identityEntries).overwriteAll ws) :=
  hlow.of_region_eq ((GuestMemory.region_overwriteAll _ _).trans (region_withTables _ _))

/-- Only the pages of the tables change. -/
theorem byteAt_outside (hlow : CoversLow mem) {a : ℕ}
    (ha : a < longModePml4Addr ∨ privilegeTableEnd ≤ a) :
    ((withTables mem identityEntries).overwriteAll privilegeWrites).byteAt a = mem.byteAt a := by
  simp only [longModePml4Addr, privilegeTableEnd] at ha
  have hbase := (hlow.of_region_eq (region_withTables mem identityEntries)).base_le
  rw [GuestMemory.byteAt_overwriteAll_outside (hbase a) (fun w _ => hbase w.1) fun w hw => ?_,
    tableEntries_identityEntries.byteAt_outside hlow (by omega)]
  have hbounds := privilegeWrites_bounds hw
  omega

theorem holds_privilegeSpace (hlow : CoversLow mem) :
    privilegeSpace.Holds ((withTables mem identityEntries).overwriteAll privilegeWrites) := by
  have hcleared := coversLow_overwriteAll hlow (privilegePages.map fun page => (page, zeroPage))
  rw [privilegeWrites, GuestMemory.overwriteAll_append, GuestMemory.overwriteAll_append]
  have hpages : privilegeSpace.Holds _ := Space.holds_overwriteAll valid_privilegeSpace hcleared ?_
  · refine hpages.overwriteAll valid_privilegeSpace
      (hcleared.of_region_eq (GuestMemory.region_overwriteAll _ _)) fun w hw t ht => ?_
    have hbounds := descriptors_bounds w hw
    have htable : t + 4096 ≤ 0x5000 ∨ 0x8000 ≤ t := by revert t; decide
    omega
  · intro t ht i hi hne
    -- The boot tables have no entry but the first.
    have htable : t % 4096 = 0 ∧ t ≤ 0x3000 := by revert t; decide
    have hpage : t ∈ tablePages := by revert t; decide
    have haway : ∀ p ∈ privilegePages, 0x5000 ≤ p := by decide
    rw [Space.tableEntry_overwriteAll_of_away (hlow.of_region_eq (region_withTables _ _))
      (by omega) hi (List.forall_mem_map.mpr fun p hp => .inr (by have := haway p hp; omega))]
    refine tableEntry_of_not_mem tableEntries_identityEntries hlow hpage hi fun w hw => ?_
    have haddr := mem_identityEntries hw
    omega

/-- What the layout of two tasks writes after the privilege layout. -/
def switchWrites : List (ℕ × List UInt8) :=
  switchPages.map (fun page => (page, zeroPage)) ++ secondSpace.writes

theorem switchWrites_bounds {w : ℕ × List UInt8} (hw : w ∈ switchWrites) :
    0xb000 ≤ w.1 ∧ w.1 + w.2.length ≤ 0x10000 := by
  have hpages : ∀ p ∈ switchPages, 0xb000 ≤ p ∧ p ≤ 0xf000 := by decide
  have htables : ∀ t ∈ secondSpace.tables, 0xb000 ≤ t ∧ t ≤ 0xe000 := by decide
  rcases List.mem_append.mp hw with hw | hw
  · obtain ⟨p, hp, rfl⟩ := List.mem_map.mp hw
    have hbounds := hpages p hp
    simp only [zeroPage, List.length_replicate, longModePageSize]
    omega
  · obtain ⟨hlen, t, ht, i, hi, haddr⟩ := Space.mem_writes hw
    have hbounds := htables t ht
    omega

theorem AddressSpaceSwitchLayout.run_installTables (layout : AddressSpaceSwitchLayout)
    (hregion : mem.region = layout.memory) :
    layout.installTables.run mem = .ok () (((withTables mem identityEntries).overwriteAll
      privilegeWrites).overwriteAll switchWrites) := by
  rw [← layout.memory_eq] at hregion
  have hlow := layout.privilege.boot.coversLow hregion
  have hin : ∀ a n, a + n ≤ 0x200000 → mem.region.Contains a n := fun a n => hlow.contains
  have hclear : GuestMemory.Writes mem.region
      (switchPages.forM fun page => GuestMemory.write page zeroPage)
      (switchPages.map fun page => (page, zeroPage)) := by
    refine .forM (f := fun page => (page, zeroPage)) fun p hp => hin _ _ ?_
    have hbounds := switchWrites_bounds (List.mem_append_left _ (List.mem_map_of_mem hp))
    omega
  rw [installTables, run_bind_of_ok (layout.privilege.run_installTables hregion)]
  exact hclear.seq (valid_secondSpace.writes_install hin) _
    ((GuestMemory.region_overwriteAll _ _).trans (region_withTables _ _))

theorem held_spaces (hlow : CoversLow mem) :
    Held spaces (((withTables mem identityEntries).overwriteAll privilegeWrites).overwriteAll
      switchWrites) := by
  have hfirst := coversLow_overwriteAll hlow privilegeWrites
  refine ⟨hfirst.of_region_eq (GuestMemory.region_overwriteAll _ _), fun r => ?_⟩
  cases r with
  | a =>
      refine (holds_privilegeSpace hlow).overwriteAll valid_privilegeSpace hfirst ?_
      intro w hw t ht
      have hbounds := switchWrites_bounds hw
      have htable : t ≤ 0x8000 := by revert t; decide
      omega
  | b =>
      have hcleared := hfirst.of_region_eq
        (GuestMemory.region_overwriteAll _ (switchPages.map fun page => (page, zeroPage)))
      rw [switchWrites, GuestMemory.overwriteAll_append]
      refine Space.holds_overwriteAll valid_secondSpace hcleared fun t ht i hi _ => ?_
      have htable : t ∈ switchPages ∧ t ≤ 0xe000 := by revert t; decide
      have hread := GuestMemory.read_zeroed (fun p _ => hfirst.base_le p)
        (hfirst.contains (show t + 8 * i + 8 ≤ 0x200000 by omega)) htable.1
        (Nat.le_add_right t (8 * i)) (show t + 8 * i + 8 ≤ t + 4096 by omega)
      rw [GuestMemory.zeroed] at hread
      simp only [tableEntry, zeroPage, longModePageSize, hread]
      rfl

end Install

/-- **The tasks are isolated.** Every memory that covers the low 2 MiB is accepted and both roots
are installed.  Whatever the two tasks then load and store, in any order, the address spaces stay as
they are and each task sees what its own stores have left.  Outside of their pages nothing changes
but the accessed and dirty bits of the entries that the accesses have used. -/
theorem address_spaces_isolated (mem : GuestMemory) (hlow : CoversLow mem) :
    ∃ layout mem', AddressSpaceSwitchLayout.new mem.region = .ok layout ∧
      layout.installTables.run mem = .ok () mem' ∧
      (∀ a, a < 0x1000 ∨ 0x9000 ≤ a ∧ a < 0xb000 ∨ 0x10000 ≤ a →
        mem'.byteAt a = mem.byteAt a) ∧
      ∀ ops : List (UserAccess Task),
        let after := runSteps (userAccess spaces) mem' ops
        (∀ task va, Canonical va →
          pageWalk after (spaces task).pml4 va =
            (if va < longModeIdentityMapSize then
              some ((spaces task).frame (va / 4096) + va % 4096) else none) ∧
          (∀ access, (userWalk after access (spaces task).pml4 va).map Walk.address =
            (spaces task).userAddress va) ∧
          userByte spaces after task va = userByte spaces
            (runSteps (userAccess spaces) mem' (ops.filter fun op => op.space = task)) task va) ∧
        ∀ a, (∀ task, ¬ (spaces task).Owns a) → after.byteAt a = mem'.byteAt a |||
          GuestMemory.bitsAt (ops.flatMap (UserAccess.marks spaces)) a := by
  obtain ⟨layout, hlayout, hmemory⟩ := exists_switchLayout hlow.1 hlow.2
  have hheld := held_spaces hlow
  refine ⟨layout, _, hlayout, layout.run_installTables hmemory.symm, fun a ha => ?_,
    fun ops => ⟨fun task va hva => ?_, fun a ha => ?_⟩⟩
  · have hbase := (coversLow_overwriteAll hlow privilegeWrites).base_le
    rw [GuestMemory.byteAt_overwriteAll_outside (hbase a) (fun w _ => hbase w.1) fun w hw => ?_,
      byteAt_outside hlow (by rw [longModePml4Addr, privilegeTableEnd]; omega)]
    have hbounds := switchWrites_bounds hw
    omega
  · have hafter := (isolated_spaces.held_runSteps hheld ops).holds task
    have hvalid := isolated_spaces.valid task
    exact ⟨hafter.pageWalk_eq hvalid hva, fun access => hafter.address_userWalk hvalid access hva,
      isolated_spaces.userByte_runSteps hheld ops task hva⟩
  · exact isolated_spaces.byteAt_runSteps hheld ha ops

/-- Task B stores a byte where task A then loads. -/
def storeThenLoad (value : UInt8) : List (UserAccess Task) :=
  [⟨.b, 0xa000, some value, .inl (by decide)⟩, ⟨.a, 0xa000, none, .inl (by decide)⟩]

theorem marks_storeThenLoad (value : UInt8) :
    (storeThenLoad value).flatMap (UserAccess.marks spaces) =
      [(0xb000, accessed), (0xc000, accessed), (0xd000, accessed), (0xe050, accessed),
        (0xe050, dirty), (0x1000, accessed), (0x2000, accessed), (0x3000, accessed),
        (0x8050, accessed)] := by
  have hfirst : (spaces .a).userAddress 0xa000 = some 0xa000 := by decide
  have hsecond : (spaces .b).userAddress 0xa000 = some 0x21000 := by decide
  simp only [storeThenLoad, List.flatMap_cons, List.flatMap_nil, UserAccess.marks, hfirst, hsecond,
    Option.elim, UserAccess.access, Option.isSome, if_true, Bool.false_eq_true, if_false,
    PageAccess.marks, Space.slots, List.map_cons, List.map_nil]
  rfl

/-- Task A does not see the store, and each access has left its bits in the entry of its page. -/
theorem address_spaces_isolated_store_b : ∃ mem layout mem',
    AddressSpaceSwitchLayout.new mem.region = .ok layout ∧
    layout.installTables.run mem = .ok () mem' ∧ mem'.byteAt 0x10000 = mem.byteAt 0x10000 ∧
    ∀ value, let after := runSteps (userAccess spaces) mem' (storeThenLoad value)
      userByte spaces after .a 0xa000 = userByte spaces
        (runSteps (userAccess spaces) mem' ((storeThenLoad value).drop 1)) .a 0xa000 ∧
      after.byteAt 0x10000 = mem'.byteAt 0x10000 ∧
      after.byteAt 0xe050 = mem'.byteAt 0xe050 ||| 0x60 ∧
      after.byteAt 0x8050 = mem'.byteAt 0x8050 ||| 0x20 := by
  let mem : GuestMemory := ⟨⟨0, 0x200000, by decide, rfl, rfl, by decide⟩, fun _ => 0⟩
  obtain ⟨layout, mem', hnew, hrun, hframe, hruns⟩ := address_spaces_isolated mem ⟨rfl, le_rfl⟩
  refine ⟨mem, layout, mem', hnew, hrun, hframe 0x10000 (by decide), fun value => ?_⟩
  obtain ⟨hspaces, hbytes⟩ := hruns (storeThenLoad value)
  rw [marks_storeThenLoad] at hbytes
  have hout : ∀ a, isUserPage a = false → ¬ (a / 4096 = 0x20 ∨ a / 4096 = 0x21 ∨ a / 4096 = 0x22) →
      ∀ task, ¬ (spaces task).Owns a := by
    rintro a hfirst hsecond (_ | _) howns
    · exact Bool.false_ne_true (hfirst.symm.trans (owns_privilegeSpace.mp howns))
    · exact hsecond (owns_secondSpace howns)
  exact ⟨(hspaces .a 0xa000 (.inl (by decide))).2.2,
    (hbytes 0x10000 (hout _ rfl (by decide))).trans UInt8.or_zero,
    hbytes 0xe050 (hout _ rfl (by decide)), hbytes 0x8050 (hout _ rfl (by decide))⟩

end MiniHypervisor.LongMode.Privilege
