import MiniHypervisor.LongMode.AddressSpace
import MiniHypervisor.Loader.Elf64

/-!
# Loading an image under the bootstrap page tables

`Elf64GuestImage::load` copies the file bytes of every segment to its physical address and
clears the rest of its memory (`src/loader/elf64.rs`, lines 455-471).  Together with the
installed page tables this gives the address space the executable describes: every byte of a
loadable segment is found at its virtual address through the page walk.
-/

namespace MiniHypervisor.Loader

open Bytes Control LongMode Memory

/-- The body of the loop of `load`: the file bytes, then the cleared tail. -/
def loadSegment (bytes : List UInt8) (segment : Elf64LoadSegment) :
    EStateM GuestMemoryError GuestMemory Unit := do
  GuestMemory.write segment.physicalAddress
    ((bytes.drop segment.fileOffset).take segment.fileSize)
  if segment.fileSize < segment.memorySize then
    let zeroLength := segment.memorySize - segment.fileSize
    let zeroAddress := segment.physicalAddress + segment.fileSize
    GuestMemory.write zeroAddress (List.replicate zeroLength 0)

/-- `Elf64GuestImage::load` (lines 455-471). -/
def Elf64GuestImage.load (image : Elf64GuestImage) : EStateM GuestMemoryError GuestMemory Unit :=
  image.segments.forM (loadSegment image.bytes)

/-! ### One segment -/

/-- The byte at offset `k` of a segment: its file byte, or zero past the file bytes. -/
def SegmentByte (bytes : List UInt8) (s : Elf64LoadSegment) (k : ℕ) : UInt8 :=
  if k < s.fileSize then bytes.getD (s.fileOffset + k) 0 else 0

section Segment

variable {mem : GuestMemory} {a : ℕ} {source bytes : List UInt8} {s : Elf64LoadSegment}

private theorem run_write_low (hmem : CoversLow mem) (h : a + source.length ≤ 0x200000) :
    (GuestMemory.write a source).run mem =
      .ok () ⟨mem.region, mem.mapping.write a source⟩ := by
  rw [GuestMemory.run_write_of_contains (hmem.contains h), GuestMemory.overwrite, hmem.1,
    Nat.sub_zero]

/-- **Loading one segment** writes its bytes and changes nothing else. -/
theorem run_loadSegment (hmem : CoversLow mem) (hs : s.Placed bytes.length) :
    ∃ m' : ByteMap, (loadSegment bytes s).run mem = .ok () ⟨mem.region, m'⟩ ∧
      (∀ a, a < s.physicalAddress ∨ s.physicalAddress + s.memorySize ≤ a →
        m' a = mem.mapping a) ∧
      ∀ k < s.memorySize, m' (s.physicalAddress + k) = SegmentByte bytes s k := by
  have hfile := hs.file_le
  have hrange := hs.file_range
  have hram := hs.physical_le
  let file := (bytes.drop s.fileOffset).take s.fileSize
  have hlen : file.length = s.fileSize := by
    simp only [file, List.length_take, List.length_drop]
    omega
  let m₁ := mem.mapping.write s.physicalAddress file
  have hfirst : (GuestMemory.write s.physicalAddress file).run mem =
      .ok () ⟨mem.region, m₁⟩ := run_write_low hmem (by omega)
  have hinside : ∀ k < s.fileSize,
      m₁ (s.physicalAddress + k) = bytes.getD (s.fileOffset + k) 0 := by
    intro k hk
    refine (ByteMap.write_apply_inside mem.mapping (by omega)).trans ?_
    simp [file, List.getD_eq_getElem?_getD, hk]
  have houtside : ∀ a, a < s.physicalAddress ∨ s.physicalAddress + s.fileSize ≤ a →
      m₁ a = mem.mapping a :=
    fun a ha => ByteMap.write_apply_outside mem.mapping (by omega)
  by_cases htail : s.fileSize < s.memorySize
  · let zeros := List.replicate (s.memorySize - s.fileSize) (0 : UInt8)
    have hzeros : zeros.length = s.memorySize - s.fileSize := List.length_replicate
    have hmem₁ : CoversLow ⟨mem.region, m₁⟩ := hmem
    refine ⟨m₁.write (s.physicalAddress + s.fileSize) zeros, ?_, ?_, ?_⟩
    · rw [loadSegment, run_bind_of_ok hfirst, if_pos htail]
      exact run_write_low hmem₁ (by rw [List.length_replicate]; omega)
    · intro a ha
      rw [ByteMap.write_apply_outside _ (by omega), houtside a (by omega)]
    · intro k hk
      unfold SegmentByte
      split_ifs with hkf
      · rw [ByteMap.write_apply_outside _ (by omega), hinside k hkf]
      · obtain ⟨j, rfl⟩ : ∃ j, k = s.fileSize + j := ⟨k - s.fileSize, by omega⟩
        rw [← Nat.add_assoc, ByteMap.write_apply_inside _ (by omega)]
        simp [zeros, List.getD_eq_getElem?_getD, show j < s.memorySize - s.fileSize by omega]
  · refine ⟨m₁, ?_, fun a ha => houtside a (by omega), fun k hk => ?_⟩
    · rw [loadSegment, run_bind_of_ok hfirst, if_neg htail]
      rfl
    · have hkf : k < s.fileSize := by omega
      rw [SegmentByte, if_pos hkf, hinside k hkf]

end Segment

/-! ### The whole image -/

/-- What memory holds after the segments in `done` were loaded over `before`. -/
structure Loaded (bytes : List UInt8) (before : GuestMemory) (done : List Elf64LoadSegment)
    (mem : GuestMemory) : Prop where
  region : mem.region = before.region
  frame : ∀ a, (∀ s ∈ done, a < s.physicalAddress ∨ s.physicalAddress + s.memorySize ≤ a) →
    mem.mapping a = before.mapping a
  contents : ∀ s ∈ done, ∀ k < s.memorySize,
    mem.mapping (s.physicalAddress + k) = SegmentByte bytes s k

/-- **One more segment** keeps the bytes of the segments before it, which lie elsewhere. -/
theorem Loaded.step {bytes : List UInt8} {before mem : GuestMemory}
    {done : List Elf64LoadSegment} {s : Elf64LoadSegment} (h : Loaded bytes before done mem)
    (hmem : CoversLow before) (hs : s.Placed bytes.length)
    (hdone : ∀ t ∈ done, t = s ∨ t.PhysicallyDisjoint s) :
    ∃ mem', (loadSegment bytes s).run mem = .ok () mem' ∧
      Loaded bytes before (done ++ [s]) mem' := by
  obtain ⟨m', hrun, hframe, hcontents⟩ := run_loadSegment (hmem.of_region_eq h.region) hs
  refine ⟨_, hrun, h.region, fun a ha => ?_, fun t ht k hk => ?_⟩
  · simp only [List.forall_mem_append, List.forall_mem_singleton] at ha
    exact (hframe a ha.2).trans (h.frame a ha.1)
  · rcases List.mem_append.mp ht with hold | hnew
    · rcases hdone t hold with rfl | hdisj
      · exact hcontents k hk
      · unfold Elf64LoadSegment.PhysicallyDisjoint at hdisj
        exact (hframe _ (by omega)).trans (h.contents t hold k hk)
    · rw [List.mem_singleton.mp hnew] at hk ⊢
      exact hcontents k hk

namespace Elf64GuestImage.Parsed

variable {bytes : List UInt8} {image : Elf64GuestImage} {mem : GuestMemory}

/-- **Loading an accepted image succeeds** on memory that covers the low 2 MiB. -/
theorem run_load (h : image.Parsed bytes) (hmem : CoversLow mem) :
    ∃ mem', image.load.run mem = .ok () mem' ∧ Loaded bytes mem image.segments mem' := by
  have hsymm : Std.Symm Elf64LoadSegment.PhysicallyDisjoint := ⟨fun _ _ => Or.symm⟩
  obtain ⟨mem', hrun, hloaded, -⟩ := run_forM_induction (loadSegment image.bytes)
    (fun done t => Loaded bytes mem done t ∧ ∀ s ∈ done, s ∈ image.segments)
    (l := image.segments) (s := mem) ⟨⟨rfl, fun _ _ => rfl, by simp⟩, by simp⟩ (by
      rintro done s hs t ⟨ht, hsub⟩
      obtain ⟨t', hrun, ht'⟩ := ht.step hmem (h.placed s hs) fun u hu => by
        by_cases hus : u = s
        · exact Or.inl hus
        · exact Or.inr ((h.apart.imp And.right).forall (hsub u hu) hs hus)
      refine ⟨t', by rwa [h.bytes_eq], ht', fun u hu => ?_⟩
      rcases List.mem_append.mp hu with hold | hnew
      · exact hsub u hold
      · rwa [List.mem_singleton.mp hnew])
  exact ⟨mem', hrun, hloaded⟩

/-- The entry and the page mappings of an accepted image pass the checks of a boot layout. -/
theorem checkMappedEntry (h : image.Parsed bytes) :
    checkMappedEntry image.entry image.pageMappings = .ok () := by
  obtain ⟨s, hs, hlow, hhigh⟩ := h.entry
  obtain ⟨-, hfile, -, hram, htable, hwindow⟩ := h.placed s hs
  unfold LongMode.checkMappedEntry
  rcases hwindow with hidentity | ⟨hwindow, hend, -⟩
  · have hentry : image.entry < longModeIdentityMapSize := by
      simp only [longModeIdentityMapSize]
      omega
    rw [if_pos hentry, rejectIf_eq_ok, isPageTableAddress_iff]
    omega
  · have hentry : ¬ image.entry < longModeIdentityMapSize := by
      simp only [longModeIdentityMapSize]
      omega
    have halias : longModeAliasVirtualBase ≤ image.entry ∧
        image.entry < longModeAliasVirtualEnd := by
      simp only [longModeAliasVirtualBase, longModeAliasVirtualEnd, longModeAliasVirtualSize]
      omega
    -- The page of the entry is the one the segment maps at the same distance from its start.
    let page := image.entry / 4096 - s.virtualAddress / 4096
    have hpage : page < s.pageCount := by
      simp only [page, Elf64LoadSegment.pageCount, alignUpPage, alignDownPage, longModePageSize]
      omega
    have hmem := h.mapped s hs (decide_eq_true hwindow) page hpage
    have hvirtual : (s.pageMapping page).virtualPage = alignDownPage image.entry := by
      simp only [page, Elf64LoadSegment.pageMapping, alignDownPage, longModePageSize]
      omega
    rw [if_neg hentry, if_pos halias, rejectIf_eq_ok, not_not]
    exact List.any_eq_true.mpr ⟨_, hmem, by simpa using hvirtual⟩

/-- **The walk of a segment.** Every virtual address of a segment leads to its physical
address. -/
theorem pageWalk (h : image.Parsed bytes) {layout : LongModeBootLayout}
    (hmappings : layout.pageMappings = image.pageMappings) (hmem : CoversLow mem)
    {s : Elf64LoadSegment} (hs : s ∈ image.segments) {k : ℕ} (hk : k < s.memorySize) :
    LongMode.pageWalk (withTables mem layout.entries) longModePml4Addr (s.virtualAddress + k) =
      some (s.physicalAddress + k) := by
  obtain ⟨-, -, -, hram, -, hwindow⟩ := h.placed s hs
  rw [layout.pageWalk_eq_some hmem (Or.inl (by omega)), hmappings]
  rcases hwindow with hidentity | ⟨hwindow, hend, hoffset⟩
  · rw [hidentity]
    exact Or.inl ⟨by rw [longModeIdentityMapSize]; omega, rfl⟩
  · let page := (s.virtualAddress + k) / 4096 - s.virtualAddress / 4096
    have hpage : page < s.pageCount := by
      simp only [page, Elf64LoadSegment.pageCount, alignUpPage, alignDownPage, longModePageSize]
      omega
    refine Or.inr ⟨_, h.mapped s hs (decide_eq_true hwindow) page hpage, ?_, ?_⟩ <;>
    · simp only [page, Elf64LoadSegment.pageMapping, alignDownPage, longModePageSize]
      omega

end Elf64GuestImage.Parsed

/-! ### The address space -/

/-- The address space the loadable program headers of a file describe: every virtual address
of a segment is translated to its physical address, where its byte is stored. -/
def HasAddressSpace (bytes : List UInt8) (mem : GuestMemory) : Prop :=
  ∀ i < readU16 bytes 56, IsLoadHeader bytes (readU64 bytes 32) i →
    let s := headerSegment bytes (readU64 bytes 32) i
    ∀ k < s.memorySize,
      LongMode.pageWalk mem longModePml4Addr (s.virtualAddress + k) =
          some (s.physicalAddress + k) ∧
        mem.byteAt (s.physicalAddress + k) =
          if k < s.fileSize then bytes.getD (s.fileOffset + k) 0 else 0

/-- The physical address belongs to no loadable segment of the file. -/
def OutsideSegments (bytes : List UInt8) (a : ℕ) : Prop :=
  ∀ i < readU16 bytes 56, IsLoadHeader bytes (readU64 bytes 32) i →
    let s := headerSegment bytes (readU64 bytes 32) i
    a < s.physicalAddress ∨ s.physicalAddress + s.memorySize ≤ a

namespace Elf64GuestImage

variable {bytes : List UInt8} {image : Elf64GuestImage} {mem : GuestMemory}

theorem Parsed.hasAddressSpace (h : image.Parsed bytes) {layout : LongModeBootLayout}
    (hmappings : layout.pageMappings = image.pageMappings) {before : GuestMemory}
    (hbefore : CoversLow before) (hmem : CoversLow mem)
    (htables : ∀ a, 0x1000 ≤ a → a + 8 ≤ 0x5000 →
      mem.read a 8 = (withTables before layout.entries).read a 8)
    (hcontents : ∀ s ∈ image.segments, ∀ k < s.memorySize,
      mem.mapping (s.physicalAddress + k) = SegmentByte bytes s k) :
    HasAddressSpace bytes mem := by
  intro i hi hload s k hk
  have hs : s ∈ image.segments := by
    rw [h.segments_eq, mem_flatMap_headerSegments]
    exact ⟨i, List.mem_range.mpr hi, hload, rfl⟩
  obtain ⟨-, -, -, hram, -, hwindow⟩ := h.placed s hs
  obtain ⟨window, hexact⟩ := layout.exactTables hbefore
  refine ⟨?_, ?_⟩
  · rw [hexact.pageWalk_congr htables (Or.inl (by omega)), h.pageWalk hmappings hbefore hs hk]
  · rw [GuestMemory.byteAt, hmem.1, Nat.sub_zero]
    exact hcontents s hs k hk

theorem Parsed.outside_segment (h : image.Parsed bytes) {a : ℕ} (ha : OutsideSegments bytes a) :
    ∀ s ∈ image.segments, a < s.physicalAddress ∨ s.physicalAddress + s.memorySize ≤ a := by
  intro s hs
  rw [h.segments_eq, mem_flatMap_headerSegments] at hs
  obtain ⟨i, hi, hload, rfl⟩ := hs
  exact ha i (List.mem_range.mp hi) hload

theorem Parsed.tables_outside (h : image.Parsed bytes) {a : ℕ} (hlow : 0x1000 ≤ a)
    (hhigh : a < 0x5000) :
    ∀ s ∈ image.segments, a < s.physicalAddress ∨ s.physicalAddress + s.memorySize ≤ a := by
  intro s hs
  have := (h.placed s hs).not_table
  omega

/-- **Booting an accepted image.** For a region and a stack pointer that a boot layout accepts,
the entry and the page mappings of the image are accepted too.  Installing the tables and
loading the image succeed in either order on any contents of the memory, and give the address
space of the file.  Loading changes no byte outside the segments, so the tables stay as they
were installed. -/
theorem boot_address_space {region : GuestMemoryRegion} {stackPointer : ℕ}
    (hparse : parse bytes = .ok image)
    (hsp : LongModeBootLayout.AcceptsStackPointer region stackPointer) :
    ∃ layout, LongModeBootLayout.withPageMappings region image.entry stackPointer
        image.pageMappings = .ok layout ∧
      ∀ mem : GuestMemory, mem.region = region →
        ∃ installed loaded installedThenLoaded loadedThenInstalled,
          layout.installPageTables.run mem = .ok () installed ∧
          image.load.run mem = .ok () loaded ∧
          image.load.run installed = .ok () installedThenLoaded ∧
          layout.installPageTables.run loaded = .ok () loadedThenInstalled ∧
          HasAddressSpace bytes installedThenLoaded ∧
          HasAddressSpace bytes loadedThenInstalled ∧
          (∀ a, OutsideSegments bytes a →
            loaded.byteAt a = mem.byteAt a ∧
              installedThenLoaded.byteAt a = installed.byteAt a) ∧
          ∀ a, 0x1000 ≤ a → a < 0x5000 →
            installedThenLoaded.byteAt a = installed.byteAt a := by
  have hp := parse_spec hparse
  have hmappings : validatePageMappings image.pageMappings = .ok () :=
    validatePageMappings_eq_ok.mpr ⟨hp.mappings.admissible, hp.mappings.nodup⟩
  let layout : LongModeBootLayout :=
    ⟨region, image.entry, stackPointer, image.pageMappings, hsp.validateMemoryAndStack, hmappings⟩
  refine ⟨layout, LongModeBootLayout.withPageMappings_isOk _ _ hp.checkMappedEntry, ?_⟩
  intro mem hregion
  have hlow : ∀ m : GuestMemory, m.region = region → CoversLow m := fun m hm =>
    layout.coversLow hm
  -- The four runs.
  have hinstall := layout.run_installPageTables_eq hregion
  obtain ⟨loaded, hload, hloaded⟩ := hp.run_load (hlow mem hregion)
  have hregion₁ : (withTables mem layout.entries).region = region :=
    (region_withTables _ _).trans hregion
  have hregion₂ : loaded.region = region := hloaded.region.trans hregion
  obtain ⟨final, hload₁, hloaded₁⟩ := hp.run_load (hlow _ hregion₁)
  have hinstall₂ := layout.run_installPageTables_eq hregion₂
  have hfinal : final.region = region := hloaded₁.region.trans hregion₁
  have hbyte₁ : ∀ a, OutsideSegments bytes a ∨ 0x1000 ≤ a ∧ a < 0x5000 →
      final.byteAt a = (withTables mem layout.entries).byteAt a := by
    intro a ha
    rw [GuestMemory.byteAt, GuestMemory.byteAt, hloaded₁.region, (hlow _ hregion₁).1]
    refine hloaded₁.frame _ ?_
    rcases ha with ha | ⟨ha, ha'⟩
    · exact hp.outside_segment ha
    · exact hp.tables_outside ha ha'
  have htables₁ : ∀ a, 0x1000 ≤ a → a + 8 ≤ 0x5000 →
      final.read a 8 = (withTables mem layout.entries).read a 8 := by
    intro a ha ha'
    exact GuestMemory.read_congr hloaded₁.region ((hlow _ hregion₁).contains (by omega))
      fun i hi => hbyte₁ _ (Or.inr (by omega))
  have hcontents₂ : ∀ s ∈ image.segments, ∀ k < s.memorySize,
      (withTables loaded layout.entries).mapping (s.physicalAddress + k) =
        SegmentByte bytes s k := by
    intro s hs k hk
    have htable := (hp.placed s hs).not_table
    have hbyte := layout.tableEntries.byteAt_outside (hlow loaded hregion₂)
      (a := s.physicalAddress + k) (by omega)
    simp only [GuestMemory.byteAt, region_withTables, (hlow loaded hregion₂).1,
      Nat.sub_zero] at hbyte
    rw [hbyte, hloaded.contents s hs k hk]
  refine ⟨_, loaded, final, _, hinstall, hload, hload₁, hinstall₂,
    hp.hasAddressSpace rfl (hlow mem hregion) (hlow final hfinal) htables₁ hloaded₁.contents,
    hp.hasAddressSpace rfl (hlow loaded hregion₂) ((hlow loaded hregion₂).of_region_eq
      (region_withTables _ _)) (fun _ _ _ => rfl) hcontents₂,
    fun a ha => ⟨?_, hbyte₁ a (Or.inl ha)⟩, fun a ha ha' => hbyte₁ a (Or.inr ⟨ha, ha'⟩)⟩
  rw [GuestMemory.byteAt, GuestMemory.byteAt, hloaded.region, (hlow mem hregion).1]
  exact hloaded.frame _ (hp.outside_segment ha)

/-- An executable of one alias segment: `0x400000..0x400180` backed by `0x10000..0x10180`, with
the whole file of 120 bytes as its initial contents and its entry at the start. -/
def oneSegmentFile : List UInt8 :=
  [0x7f, 0x45, 0x4c, 0x46, 2, 1, 1, 0, 0, 0, 0, 0, 0, 0, 0, 0] ++
  leBytes 2 2 ++ leBytes 2 62 ++ leBytes 4 1 ++ leBytes 8 0x400000 ++ leBytes 8 64 ++
  leBytes 8 0 ++ leBytes 4 0 ++ leBytes 2 64 ++ leBytes 2 56 ++ leBytes 2 1 ++ leBytes 6 0 ++
  leBytes 4 1 ++ leBytes 4 5 ++ leBytes 8 0 ++ leBytes 8 0x400000 ++ leBytes 8 0x10000 ++
  leBytes 8 120 ++ leBytes 8 0x180 ++ leBytes 8 0x1000

/-- The image of `oneSegmentFile`. -/
def oneSegmentImage : Elf64GuestImage where
  bytes := oneSegmentFile
  entry := 0x400000
  segments := [⟨0, 0, 120, 0x180, 0x400000, 0x10000, 5⟩]
  pageMappings := [⟨0x400000, 0x10000⟩]

/-- The low 2 MiB. -/
def lowRegion : GuestMemoryRegion :=
  ⟨0, 0x200000, by decide, by decide, by decide, by decide⟩

theorem parse_oneSegmentFile : parse oneSegmentFile = .ok oneSegmentImage := by
  decide +kernel

theorem acceptsStackPointer_lowRegion :
    LongModeBootLayout.AcceptsStackPointer lowRegion 0x1ff000 :=
  Or.inl ⟨0x10000, _, rfl⟩

/-- The entry of `oneSegmentFile` is translated to its backing and holds the first file byte. -/
theorem boot_oneSegmentFile :
    ∃ layout, LongModeBootLayout.withPageMappings lowRegion oneSegmentImage.entry 0x1ff000
        oneSegmentImage.pageMappings = .ok layout ∧
      ∀ mem : GuestMemory, mem.region = lowRegion →
        ∃ installed final, layout.installPageTables.run mem = .ok () installed ∧
          oneSegmentImage.load.run installed = .ok () final ∧
          LongMode.pageWalk final longModePml4Addr 0x400000 = some 0x10000 ∧
          final.byteAt 0x10000 = 0x7f := by
  obtain ⟨layout, hlayout, hruns⟩ :=
    boot_address_space parse_oneSegmentFile acceptsStackPointer_lowRegion
  refine ⟨layout, hlayout, fun mem hmem => ?_⟩
  obtain ⟨installed, -, final, -, hinstall, -, hload, -, hspace, -⟩ := hruns mem hmem
  exact ⟨installed, final, hinstall, hload, hspace 0 (by decide +kernel) (by decide +kernel) 0
    (by decide +kernel)⟩

end Elf64GuestImage

end MiniHypervisor.Loader
