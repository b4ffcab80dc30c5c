import MiniHypervisor.LongMode.BootLayout
import MiniHypervisor.Machine.Paging
import MiniHypervisor.Memory.Slots

/-!
# Bootstrap page tables

`LongModeBootLayout::install_page_tables` writes four tables at `0x1000..0x5000`
(`src/long_mode.rs`, lines 288-327).  The tables are read back through the page walk of the
architecture: four levels of 512 eight-byte entries, each with a present bit, and large pages
at the second and third level.  The installation clears the tables and then writes some of their
entries, each once: those that lead to the low 2 MiB and, if the layout has an alias page, the link
to the alias table and one entry for each alias page.
-/

namespace MiniHypervisor.LongMode

open Bytes Control Memory Paging

/-! ### Installation -/

def pagePresent : ℕ := 1 <<< 0

def pageWritable : ℕ := 1 <<< 1

def pageSize2Mib : ℕ := 1 <<< 7

def pageTableEntryFlags : ℕ := pagePresent ||| pageWritable

def largePageEntryFlags : ℕ := pageTableEntryFlags ||| pageSize2Mib

def aliasPdIndex : ℕ := longModeAliasVirtualBase / longModeIdentityMapSize

def writeU64 (address value : ℕ) : EStateM GuestMemoryError GuestMemory Unit :=
  GuestMemory.write address (leBytes 8 value)

/-- The address of the alias table entry of a mapping. -/
def LongModePageMapping.entryAddr (mapping : LongModePageMapping) : ℕ :=
  let index := (mapping.virtualPage - longModeAliasVirtualBase) / longModePageSize
  longModeAliasPtAddr + index * 8

/-- The alias table entry of a mapping. -/
def LongModePageMapping.entry (mapping : LongModePageMapping) : ℕ :=
  mapping.physicalPage ||| pageTableEntryFlags

/-- `LongModeBootLayout::install_page_tables` (lines 288-327). -/
def LongModeBootLayout.installPageTables (layout : LongModeBootLayout) :
    EStateM GuestMemoryError GuestMemory Unit := do
  let zeroPage := List.replicate longModePageSize 0
  GuestMemory.write longModePml4Addr zeroPage
  GuestMemory.write longModePdptAddr zeroPage
  GuestMemory.write longModePdAddr zeroPage
  GuestMemory.write longModeAliasPtAddr zeroPage
  writeU64 longModePml4Addr (longModePdptAddr ||| pageTableEntryFlags)
  writeU64 longModePdptAddr (longModePdAddr ||| pageTableEntryFlags)
  writeU64 longModePdAddr largePageEntryFlags
  if layout.pageMappings.isEmpty then return ()
  writeU64 (longModePdAddr + aliasPdIndex * 8) (longModeAliasPtAddr ||| pageTableEntryFlags)
  layout.pageMappings.forM fun mapping => writeU64 mapping.entryAddr mapping.entry

/-! ### The page walk -/

/-- The present entry at an index of the table at a physical address. -/
def tableEntry (mem : GuestMemory) (table index : ℕ) : Option ℕ := do
  let bytes ← (mem.read (table + 8 * index) 8).toOption
  let entry := ofLE bytes
  guard (entry % 2 = 1)
  return entry

section Entry

variable {mem : GuestMemory} {table index v : ℕ} {bytes : List UInt8}

theorem tableEntry_eq (hread : mem.read (table + 8 * index) 8 = .ok bytes) :
    tableEntry mem table index = if ofLE bytes % 2 = 1 then some (ofLE bytes) else none := by
  rw [tableEntry, hread]
  split_ifs with hpresent <;> simp [Except.toOption, hpresent]

theorem tableEntry_of_read (hread : mem.read (table + 8 * index) 8 = .ok (leBytes 8 v))
    (hv : v < 2 ^ 64) (hpresent : v % 2 = 1) : tableEntry mem table index = some v := by
  rw [tableEntry_eq hread, ofLE_leBytes (by norm_num; omega), if_pos hpresent]

end Entry

/-- The four-level page walk of the architecture from the table at `cr3`. -/
def pageWalk (mem : GuestMemory) (cr3 va : ℕ) : Option ℕ :=
  (walk (tableEntry mem) va 4 cr3).map Walk.address

/-! ### The entries of the tables -/

/-- The pages of the four tables. -/
def tablePages : List ℕ :=
  [longModePml4Addr, longModePdptAddr, longModePdAddr, longModeAliasPtAddr]

/-- The entries that lead to the identity window. -/
def identityEntries : List (ℕ × List UInt8) :=
  [(0x1000, leBytes 8 0x2003), (0x2000, leBytes 8 0x3003), (0x3000, leBytes 8 0x83)]

/-- The address of the alias table entry of a virtual page. -/
def aliasEntryAddr (virtualPage : ℕ) : ℕ := 0x4000 + (virtualPage - 0x400000) / 4096 * 8

/-- The entries of the alias window, one for each virtual page and its frame, after the entry of the
page directory that links their table. -/
def aliasEntries (pages : List (ℕ × ℕ)) : List (ℕ × List UInt8) :=
  (0x3010, leBytes 8 0x4003) :: pages.map fun p => (aliasEntryAddr p.1, leBytes 8 (p.2 + 3))

/-- The memory with the four tables cleared and some of their entries written. -/
def withTables (mem : GuestMemory) (entries : List (ℕ × List UInt8)) : GuestMemory :=
  (mem.zeroed 4096 tablePages).overwriteAll entries

/-- Different pages of the alias window, each with the frame of its entry. -/
structure WindowPages (pages : List (ℕ × ℕ)) : Prop where
  aligned : ∀ p ∈ pages, p.1 % 4096 = 0
  window : ∀ p ∈ pages, 0x400000 ≤ p.1 ∧ p.1 < 0x600000
  frame_aligned : ∀ p ∈ pages, p.2 % 4096 = 0
  frame_lt : ∀ p ∈ pages, p.2 + 4096 < 2 ^ 64
  nodup : (pages.map Prod.fst).Nodup

section Entries

variable {pages : List (ℕ × ℕ)} {entries : List (ℕ × List UInt8)} {mem : GuestMemory}

theorem or_flags {frame flags : ℕ} (h : frame % 4096 = 0) (hflags : flags < 4096) :
    frame ||| flags = frame + flags := by
  obtain ⟨k, rfl⟩ : ∃ k, frame = 2 ^ 12 * k := ⟨frame / 4096, by omega⟩
  rw [Nat.two_pow_add_eq_or_of_lt hflags]

theorem aliasEntryAddr_bounds {v : ℕ} (h : 0x400000 ≤ v ∧ v < 0x600000) :
    0x4000 ≤ aliasEntryAddr v ∧ aliasEntryAddr v + 8 ≤ 0x5000 := by
  unfold aliasEntryAddr
  omega

theorem WindowPages.nodup_aliasEntryAddr (h : WindowPages pages) :
    (pages.map fun p => aliasEntryAddr p.1).Nodup := by
  refine (List.nodup_map_iff_inj_on (List.Nodup.of_map _ h.nodup)).mpr fun p hp q hq heq => ?_
  refine List.inj_on_of_nodup_map h.nodup hp hq ?_
  have hpa := h.aligned p hp
  have hqa := h.aligned q hq
  have hpw := h.window p hp
  have hqw := h.window q hq
  unfold aliasEntryAddr at heq
  omega

/-- The memory covers the low 2 MiB. -/
def CoversLow (mem : GuestMemory) : Prop := mem.region.base = 0 ∧ 0x200000 ≤ mem.region.size

theorem CoversLow.contains {a n : ℕ} (h : CoversLow mem) (ha : a + n ≤ 0x200000) :
    mem.region.Contains a n := by
  obtain ⟨hbase, hsize⟩ := h
  exact ⟨by omega, by unfold GuestMemoryRegion.endAddr; omega⟩

theorem CoversLow.base_le (h : CoversLow mem) (a : ℕ) : mem.region.base ≤ a := by
  rw [h.1]
  exact Nat.zero_le a

theorem CoversLow.of_region_eq {mem' : GuestMemory} (h : CoversLow mem)
    (hregion : mem'.region = mem.region) : CoversLow mem' := by
  unfold CoversLow
  rwa [hregion]

theorem forall_mem_tableEntries {P : ℕ × List UInt8 → Prop} (hpml4e : P (0x1000, leBytes 8 0x2003))
    (hpdpte : P (0x2000, leBytes 8 0x3003)) (hpde : P (0x3000, leBytes 8 0x83))
    (hlink : P (0x3010, leBytes 8 0x4003))
    (hpages : ∀ p ∈ pages, P (aliasEntryAddr p.1, leBytes 8 (p.2 + 3))) :
    ∀ w ∈ identityEntries ++ aliasEntries pages, P w := by
  simp only [identityEntries, aliasEntries, List.cons_append, List.nil_append,
    List.forall_mem_cons, List.forall_mem_map]
  exact ⟨hpml4e, hpdpte, hpde, hlink, hpages⟩

/-- Entries of the four tables, each written once. -/
structure TableEntries (entries : List (ℕ × List UInt8)) : Prop where
  bounds : ∀ w ∈ entries, 0x1000 ≤ w.1 ∧ w.1 + 8 ≤ 0x5000
  aligned : ∀ w ∈ entries, 8 ∣ w.1
  width : ∀ w ∈ entries, w.2.length = 8
  nodup : (entries.map Prod.fst).Nodup

theorem WindowPages.tableEntries (h : WindowPages pages) :
    TableEntries (identityEntries ++ aliasEntries pages) := by
  refine ⟨?_, ?_, ?_, ?_⟩
  · refine forall_mem_tableEntries (by simp) (by simp) (by simp) (by simp) fun p hp => ?_
    have hbounds := aliasEntryAddr_bounds (h.window p hp)
    exact ⟨by omega, hbounds.2⟩
  · refine forall_mem_tableEntries (by norm_num) (by norm_num) (by norm_num) (by norm_num)
      fun p _ => ?_
    exact ⟨0x800 + (p.1 - 0x400000) / 4096, by simp only [aliasEntryAddr]; omega⟩
  · exact forall_mem_tableEntries (length_leBytes _ _) (length_leBytes _ _) (length_leBytes _ _)
      (length_leBytes _ _) fun _ _ => length_leBytes _ _
  · have hkeys : (identityEntries ++ aliasEntries pages).map Prod.fst =
        [0x1000, 0x2000, 0x3000, 0x3010] ++ pages.map fun p => aliasEntryAddr p.1 := by
      simp only [identityEntries, aliasEntries, List.map_cons, List.map_map, List.cons_append,
        List.nil_append, Function.comp_def]
    rw [hkeys]
    refine List.Nodup.append (by decide) h.nodup_aliasEntryAddr fun a hfirst ha => ?_
    obtain ⟨p, hp, rfl⟩ := List.mem_map.mp ha
    have hge := (aliasEntryAddr_bounds (h.window p hp)).1
    simp only [List.mem_cons, List.not_mem_nil, or_false] at hfirst
    omega

theorem TableEntries.sublist (h : TableEntries entries) {some : List (ℕ × List UInt8)}
    (hsub : some.Sublist entries) : TableEntries some where
  bounds w hw := h.bounds w (hsub.subset hw)
  aligned w hw := h.aligned w (hsub.subset hw)
  width w hw := h.width w (hsub.subset hw)
  nodup := h.nodup.sublist (hsub.map _)

/-- Without a page in the alias window the entries of the identity window are all there is. -/
theorem tableEntries_identityEntries : TableEntries identityEntries := by
  have hnone : WindowPages [] := ⟨nofun, nofun, nofun, nofun, .nil⟩
  exact hnone.tableEntries.sublist (List.sublist_append_left _ _)

@[simp] theorem region_withTables (mem : GuestMemory) (entries : List (ℕ × List UInt8)) :
    (withTables mem entries).region = mem.region :=
  (GuestMemory.region_overwriteAll _ _).trans (GuestMemory.region_zeroed _ _ _)

theorem withTables_append (mem : GuestMemory) (es fs : List (ℕ × List UInt8)) :
    withTables mem (es ++ fs) = (withTables mem es).overwriteAll fs :=
  GuestMemory.overwriteAll_append _ _ _

/-! ### Memory with tables -/

section Tables

variable {a : ℕ}

theorem tablePages_bounds {table : ℕ} (h : table ∈ tablePages) :
    0x1000 ≤ table ∧ table + 4096 ≤ 0x5000 ∧ table % 4096 = 0 := by
  simp only [tablePages, longModePml4Addr, longModePdptAddr, longModePdAddr, longModeAliasPtAddr,
    List.mem_cons, List.not_mem_nil, or_false] at h
  omega

variable (h : TableEntries entries) (hlow : CoversLow mem)

include h hlow

theorem TableEntries.slotWrites : mem.SlotWrites 8 entries where
  contained w hw := hlow.contains (by have := (h.bounds w hw).2; omega)
  aligned := h.aligned
  width := h.width
  nodup := h.nodup

theorem TableEntries.read_of_mem {w : ℕ × List UInt8} (hw : w ∈ entries) :
    (withTables mem entries).read w.1 8 = .ok w.2 := by
  have hslots : (mem.zeroed 4096 tablePages).SlotWrites 8 entries := h.slotWrites hlow
  exact hslots.read_of_mem hw

theorem TableEntries.read_of_not_mem {table index : ℕ} (htable : table ∈ tablePages)
    (hindex : index < 512) (hnot : ∀ w ∈ entries, w.1 ≠ table + 8 * index) :
    (withTables mem entries).read (table + 8 * index) 8 = .ok (List.replicate 8 0) := by
  obtain ⟨hfirst, hlast, haligned⟩ := tablePages_bounds htable
  have hin : mem.region.Contains (table + 8 * index) 8 := hlow.contains (by omega)
  have hslots : (mem.zeroed 4096 tablePages).SlotWrites 8 entries := h.slotWrites hlow
  rw [withTables, hslots.read_of_not_mem (by omega) hin hnot]
  exact GuestMemory.read_zeroed (fun a _ => hlow.base_le a) hin htable (by omega) (by omega)

theorem TableEntries.byteAt_outside (ha : a < 0x1000 ∨ 0x5000 ≤ a) :
    (withTables mem entries).byteAt a = mem.byteAt a := by
  have hbase := hlow.base_le
  have hentries : (withTables mem entries).byteAt a = (mem.zeroed 4096 tablePages).byteAt a := by
    refine GuestMemory.byteAt_overwriteAll_outside (hbase a) (fun w _ => hbase w.1) fun w hw => ?_
    have hbounds := h.bounds w hw
    rw [h.width w hw]
    omega
  rw [hentries]
  refine GuestMemory.byteAt_zeroed_outside (fun b _ => hbase b) (hbase a) fun table htable => ?_
  obtain ⟨hfirst, hlast, -⟩ := tablePages_bounds htable
  omega

end Tables

theorem WindowPages.run_writeAliasEntries {α : Type} {l : List α} {page : α → ℕ × ℕ}
    (h : WindowPages (l.map page)) (hlow : CoversLow mem) :
    (l.forM fun x =>
        writeU64 (aliasEntryAddr (page x).1) ((page x).2 ||| pageTableEntryFlags)).run mem =
      .ok () (mem.overwriteAll ((l.map page).map fun p =>
        (aliasEntryAddr p.1, leBytes 8 (p.2 + 3)))) := by
  have hin : ∀ x ∈ l, mem.region.Contains (aliasEntryAddr (page x).1)
      (leBytes 8 ((page x).2 ||| pageTableEntryFlags)).length := by
    intro x hx
    obtain ⟨-, hhigh⟩ := aliasEntryAddr_bounds (h.window _ (List.mem_map_of_mem hx))
    rw [length_leBytes]
    exact hlow.contains (by omega)
  have hloop := GuestMemory.run_forM_write (f := fun x =>
    (aliasEntryAddr (page x).1, leBytes 8 ((page x).2 ||| pageTableEntryFlags))) hin
  have hentries : l.map (fun x =>
        (aliasEntryAddr (page x).1, leBytes 8 ((page x).2 ||| pageTableEntryFlags))) =
      (l.map page).map fun p => (aliasEntryAddr p.1, leBytes 8 (p.2 + 3)) := by
    rw [List.map_map]
    refine List.map_congr_left fun x hx => ?_
    rw [or_flags (h.frame_aligned _ (List.mem_map_of_mem hx)) (by decide)]
    rfl
  rw [← hentries]
  exact hloop

end Entries

/-! ### Effect of the installation -/

/-- The pages of a layout and the frames that back them. -/
def LongModeBootLayout.pages (layout : LongModeBootLayout) : List (ℕ × ℕ) :=
  layout.pageMappings.map fun m => (m.virtualPage, m.physicalPage)

/-- The entries that a layout writes. -/
def LongModeBootLayout.entries (layout : LongModeBootLayout) : List (ℕ × List UInt8) :=
  identityEntries ++ if layout.pageMappings.isEmpty then [] else aliasEntries layout.pages

section Effect

variable (layout : LongModeBootLayout) {mem : GuestMemory}

theorem LongModeBootLayout.windowPages : WindowPages layout.pages := by
  have hadm := layout.admissible
  simp only [pages]
  refine ⟨?_, ?_, ?_, ?_, ?_⟩
  · exact List.forall_mem_map.mpr fun m hm => (hadm m hm).virtual_aligned
  · exact List.forall_mem_map.mpr fun m hm => ⟨(hadm m hm).window_le, (hadm m hm).lt_window⟩
  · exact List.forall_mem_map.mpr fun m hm => (hadm m hm).physical_aligned
  · refine List.forall_mem_map.mpr fun m hm => ?_
    have hle := (hadm m hm).physical_le
    omega
  · rw [List.map_map]
    exact layout.nodup_virtualPage

theorem LongModeBootLayout.coversLow (hregion : mem.region = layout.memory) : CoversLow mem := by
  unfold CoversLow
  rw [hregion]
  exact ⟨layout.memory_base, layout.memory_size⟩

theorem LongModeBootLayout.tableEntries : TableEntries layout.entries := by
  unfold entries
  split_ifs
  · rw [List.append_nil]
    exact tableEntries_identityEntries
  · exact layout.windowPages.tableEntries

/-- **The installation succeeds.** On memory of the layout's region it clears the four tables and
writes the entries of the layout. -/
theorem LongModeBootLayout.run_installPageTables_eq (hregion : mem.region = layout.memory) :
    layout.installPageTables.run mem = .ok () (withTables mem layout.entries) := by
  have hlow := layout.coversLow hregion
  have hpage : (List.replicate longModePageSize (0 : UInt8)).length = 4096 :=
    List.length_replicate
  have hwrite : ∀ {t : GuestMemory} {a : ℕ} {source : List UInt8}, t.region = mem.region →
      a + source.length ≤ 0x5000 → (GuestMemory.write a source).run t =
        .ok () (t.overwrite a source) := by
    intro t a source ht ha
    refine GuestMemory.run_write_of_contains ?_
    rw [ht]
    exact hlow.contains (by omega)
  rw [installPageTables, run_bind_of_ok (hwrite (by rfl) (by rw [hpage]; decide)),
    run_bind_of_ok (hwrite (by rfl) (by rw [hpage]; decide)),
    run_bind_of_ok (hwrite (by rfl) (by rw [hpage]; decide)),
    run_bind_of_ok (hwrite (by rfl) (by rw [hpage]; decide)),
    run_bind_of_ok (x := writeU64 _ _) (hwrite (by rfl) (by rw [length_leBytes]; decide)),
    run_bind_of_ok (x := writeU64 _ _) (hwrite (by rfl) (by rw [length_leBytes]; decide)),
    run_bind_of_ok (x := writeU64 _ _) (hwrite (by rfl) (by rw [length_leBytes]; decide))]
  unfold entries
  split_ifs with hempty
  · rfl
  · rw [run_bind_of_ok (x := writeU64 _ _) (hwrite (by rfl) (by rw [length_leBytes]; decide)),
      withTables_append, aliasEntries, GuestMemory.overwriteAll_cons]
    exact layout.windowPages.run_writeAliasEntries (by exact hlow)

end Effect

end MiniHypervisor.LongMode
