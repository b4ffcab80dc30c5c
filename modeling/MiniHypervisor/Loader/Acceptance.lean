import MiniHypervisor.Loader.Boot

/-!
# Which ELF64 images are accepted

`Elf64GuestImage::parse` (`src/loader/elf64.rs`, lines 368-438) rejects an image at the first check
that fails.  Here the checks are summed up as a property of the file, in which no sum wraps around
and no order of the segments matters: the parser accepts exactly the files with this property.

The file of an image is a slice, so its length is a 64-bit word.
-/

namespace MiniHypervisor.Loader

open Bytes Control LongMode

variable {bytes : List UInt8}

/-! ### The ELF header -/

/-- The header of a 64-bit little-endian version-1 executable for x86-64, with a program header
table inside the file. -/
structure IsExecutableHeader (bytes : List UInt8) : Prop where
  length_ge : 64 ≤ bytes.length
  magic : bytes.take 4 = [0x7f, 0x45, 0x4c, 0x46]
  class_64 : bytes.getD 4 0 = 2
  little_endian : bytes.getD 5 0 = 1
  ident_version : bytes.getD 6 0 = 1
  type_exec : readU16 bytes 16 = 2
  machine_x86_64 : readU16 bytes 18 = 62
  version : readU32 bytes 20 = 1
  header_size : readU16 bytes 52 = 64
  program_header_size : readU16 bytes 54 = 56
  table_inside : readU64 bytes 32 + readU16 bytes 56 * 56 ≤ bytes.length

theorem validateIdentAndHeader_eq_ok :
    validateIdentAndHeader bytes = .ok () ∧
        readU64 bytes 32 + readU16 bytes 56 * elf64ProgramHeaderSize ≤ bytes.length ↔
      IsExecutableHeader bytes := by
  simp only [validateIdentAndHeader, rejectIf_bind_eq_ok, rejectIf_eq_ok, not_lt, ne_eq, not_not]
  constructor
  · rintro ⟨⟨h₁, h₂, h₃, h₄, h₅, h₆, h₇, h₈, h₉, h₁₀⟩, h₁₁⟩
    exact ⟨h₁, h₂, h₃, h₄, h₅, h₆, h₇, h₈, h₉, h₁₀, h₁₁⟩
  · rintro ⟨h₁, h₂, h₃, h₄, h₅, h₆, h₇, h₈, h₉, h₁₀, h₁₁⟩
    exact ⟨⟨h₁, h₂, h₃, h₄, h₅, h₆, h₇, h₈, h₉, h₁₀⟩, h₁₁⟩

/-! ### One program header -/

/-- The alignment of the program header at `offset` is trivial, or a power of two for which the
file offset and the virtual address are congruent. -/
def AlignedHeader (bytes : List UInt8) (offset : ℕ) : Prop :=
  let alignment := readU64 bytes (offset + 48)
  alignment = 0 ∨ alignment = 1 ∨ (alignment.isPowerOfTwo ∧
    readU64 bytes (offset + 8) % alignment = readU64 bytes (offset + 16) % alignment)

/-- What the program header with this index has to say. -/
structure GoodHeader (bytes : List UInt8) (tableOffset index : ℕ) : Prop where
  placed : (headerSegment bytes tableOffset index).Placed bytes.length
  aligned : AlignedHeader bytes (tableOffset + index * elf64ProgramHeaderSize)

/-- **One segment** is accepted exactly when it is placed and aligned. -/
theorem parseLoadSegment_eq_ok {offset index : ℕ} {s : Elf64LoadSegment}
    (hlen : bytes.length < 2 ^ 64) :
    parseLoadSegment bytes offset index = .ok s ↔
      s = loadSegmentAt bytes offset index ∧ s.Placed bytes.length ∧
        AlignedHeader bytes offset := by
  constructor
  · intro h
    obtain ⟨hs, hplaced⟩ := placed_of_parseLoadSegment h
    refine ⟨hs, hplaced, ?_⟩
    simp only [parseLoadSegment, rejectIf_bind_eq_ok] at h
    obtain ⟨-, -, hpower, hcongruent, -⟩ := h
    unfold AlignedHeader
    rcases Nat.lt_or_ge 1 (readU64 bytes (offset + 48)) with hlarge | hsmall
    · exact .inr (.inr ⟨not_not.mp fun hn => hpower ⟨hlarge, hn⟩,
        not_not.mp fun hn => hcongruent ⟨hlarge, hn⟩⟩)
    · omega
  · rintro ⟨rfl, ⟨hpos, hfile, hrange, hram, htable, hwindow⟩, haligned⟩
    simp only [loadSegmentAt] at hpos hfile hrange hram htable hwindow
    have hpower : ¬ (1 < readU64 bytes (offset + 48) ∧
        ¬ (readU64 bytes (offset + 48)).isPowerOfTwo) := by
      rintro ⟨hlarge, hn⟩
      rcases haligned with h | h | ⟨h, -⟩
      · omega
      · omega
      · exact hn h
    have hcongruent : ¬ (1 < readU64 bytes (offset + 48) ∧
        readU64 bytes (offset + 8) % readU64 bytes (offset + 48) ≠
          readU64 bytes (offset + 16) % readU64 bytes (offset + 48)) := by
      rintro ⟨hlarge, hn⟩
      rcases haligned with h | h | ⟨-, h⟩
      · omega
      · omega
      · exact hn h
    simp only [parseLoadSegment, rejectIf_bind_eq_ok]
    refine ⟨?_, ?_, hpower, hcongruent, ?_⟩
    · omega
    · omega
    simp only [rangesOverlap_iff, longModeIdentityMapSize, longModePml4Addr, longModePageTableEnd,
      longModeAliasVirtualBase, longModeAliasVirtualEnd, longModeAliasVirtualSize,
      longModePageSize]
    refine ⟨?_, ?_, ?_, ?_, ?_, ?_, ?_, ?_, ?_, rfl⟩ <;> omega

theorem passesHeader_iff (hlen : bytes.length < 2 ^ 64) {tableOffset index : ℕ} :
    PassesHeader bytes tableOffset index ↔ GoodHeader bytes tableOffset index := by
  rw [PassesHeader, parseLoadSegment_eq_ok hlen]
  exact ⟨fun h => ⟨h.2.1, h.2.2⟩, fun h => ⟨rfl, h.placed, h.aligned⟩⟩

/-- The segments of the loadable program headers, in table order. -/
def loadSegments (bytes : List UInt8) : List Elf64LoadSegment :=
  ((List.range (readU16 bytes 56)).filter (IsLoadHeader bytes (readU64 bytes 32))).map
    (headerSegment bytes (readU64 bytes 32))

theorem loadSegments_eq : loadSegments bytes =
    (List.range (readU16 bytes 56)).flatMap (headerSegments bytes (readU64 bytes 32)) := by
  rw [loadSegments]
  induction List.range (readU16 bytes 56) with
  | nil => rfl
  | cons i indices ih =>
      rw [List.flatMap_cons, ← ih, headerSegments, List.filter_cons]
      by_cases hload : IsLoadHeader bytes (readU64 bytes 32) i <;> simp [hload]

/-! ### The page mappings -/

namespace Elf64LoadSegment

/-- The page at `virtualPage` meets the virtual range of the segment, and `physicalPage` is the
frame at the same distance from the physical range. -/
def NeedsFrame (s : Elf64LoadSegment) (virtualPage physicalPage : ℕ) : Prop :=
  virtualPage % 4096 = 0 ∧ s.virtualAddress < virtualPage + 4096 ∧
    virtualPage < s.virtualAddress + s.memorySize ∧
    physicalPage + s.virtualAddress = virtualPage + s.physicalAddress

theorem Placed.mem_pageMappings {s : Elf64LoadSegment} {fileLength : ℕ} (hs : s.Placed fileLength)
    (halias : s.usesAliasWindow = true) {m : LongModePageMapping} :
    m ∈ s.pageMappings ↔ s.NeedsFrame m.virtualPage m.physicalPage := by
  obtain ⟨hpos, -, -, hram, -, hwindow⟩ := hs
  have hlow : 0x400000 ≤ s.virtualAddress := of_decide_eq_true halias
  have hoffset : s.virtualAddress % 4096 = s.physicalAddress % 4096 := by omega
  simp only [pageMappings, List.mem_map, List.mem_range, NeedsFrame]
  constructor
  · rintro ⟨page, hpage, rfl⟩
    simp only [pageCount, alignUpPage, alignDownPage, longModePageSize] at hpage
    simp only [pageMapping, alignDownPage, longModePageSize]
    omega
  · rintro ⟨haligned, hstart, hend, hframe⟩
    refine ⟨m.virtualPage / 4096 - s.virtualAddress / 4096, ?_, ?_⟩
    · simp only [pageCount, alignUpPage, alignDownPage, longModePageSize]
      omega
    · refine LongModePageMapping.ext ?_ ?_ <;>
      · simp only [pageMapping, alignDownPage, longModePageSize]
        omega

end Elf64LoadSegment

/-- No virtual page is needed with two frames. -/
def FramesAgree (segments : List Elf64LoadSegment) : Prop :=
  ∀ s ∈ segments, ∀ t ∈ segments, s.usesAliasWindow = true → t.usesAliasWindow = true →
    ∀ virtualPage p q, s.NeedsFrame virtualPage p → t.NeedsFrame virtualPage q → p = q

section Mappings

variable {segments : List Elf64LoadSegment} {fileLength : ℕ}

theorem mem_aliasPages (hplaced : ∀ s ∈ segments, s.Placed fileLength) {m : LongModePageMapping} :
    m ∈ aliasPages segments ↔ ∃ s ∈ segments, s.usesAliasWindow = true ∧
      s.NeedsFrame m.virtualPage m.physicalPage := by
  simp only [aliasPages, List.mem_flatMap, List.mem_filter, and_assoc]
  refine exists_congr fun s => and_congr_right fun hs => and_congr_right fun halias => ?_
  exact (hplaced s hs).mem_pageMappings halias

/-- **The loops over the alias pages** succeed exactly when the frames agree. -/
theorem exists_buildPageMappings_iff (hplaced : ∀ s ∈ segments, s.Placed fileLength) :
    (∃ mappings, buildPageMappings segments = .ok mappings) ↔ FramesAgree segments := by
  simp only [buildPageMappings_eq, addPageMapping_addsByKey.exists_foldlM_iff]
  constructor
  · intro h s hs t ht halias halias' v p q hp hq
    have hsame := h ⟨v, p⟩ ((mem_aliasPages hplaced).mpr ⟨s, hs, halias, hp⟩)
      ⟨v, q⟩ ((mem_aliasPages hplaced).mpr ⟨t, ht, halias', hq⟩) rfl
    exact congrArg LongModePageMapping.physicalPage hsame
  · intro h m hm m' hm' hkey
    obtain ⟨s, hs, halias, hp⟩ := (mem_aliasPages hplaced).mp hm
    obtain ⟨t, ht, halias', hq⟩ := (mem_aliasPages hplaced).mp hm'
    exact LongModePageMapping.ext hkey (h s hs t ht halias halias' _ _ _ hp (hkey ▸ hq))

theorem mem_of_buildPageMappings (hplaced : ∀ s ∈ segments, s.Placed fileLength)
    {mappings : List LongModePageMapping} (h : buildPageMappings segments = .ok mappings) :
    (∀ m, m ∈ mappings ↔ ∃ s ∈ segments, s.usesAliasWindow = true ∧
      s.NeedsFrame m.virtualPage m.physicalPage) ∧
      (mappings.map LongModePageMapping.virtualPage).Nodup := by
  rw [buildPageMappings_eq] at h
  obtain ⟨hmem, hnodup⟩ := addPageMapping_addsByKey.collected h
  exact ⟨fun m => (hmem m).trans (mem_aliasPages hplaced), hnodup⟩

end Mappings

/-! ### Accepted files -/

/-- **The files that are accepted.** -/
structure WellFormedImage (bytes : List UInt8) : Prop where
  header : IsExecutableHeader bytes
  loadable : loadSegments bytes ≠ []
  good : ∀ i < readU16 bytes 56, IsLoadHeader bytes (readU64 bytes 32) i →
    GoodHeader bytes (readU64 bytes 32) i
  apart : (loadSegments bytes).Pairwise Elf64LoadSegment.Apart
  frames : FramesAgree (loadSegments bytes)
  entry : ∃ s ∈ loadSegments bytes, s.executable = true ∧ s.virtualAddress ≤ readU64 bytes 24 ∧
    readU64 bytes 24 < s.virtualAddress + s.fileSize

theorem entryIsExecutable_iff {entry : ℕ} {segments : List Elf64LoadSegment} :
    entryIsExecutable entry segments = true ↔ ∃ s ∈ segments, s.executable = true ∧
      s.virtualAddress ≤ entry ∧ entry < s.virtualAddress + s.fileSize := by
  simp only [entryIsExecutable, List.any_eq_true, Bool.and_eq_true, decide_eq_true_eq, and_assoc]

theorem placed_of_mem_loadSegments
    (hgood : ∀ i < readU16 bytes 56, IsLoadHeader bytes (readU64 bytes 32) i →
      GoodHeader bytes (readU64 bytes 32) i) :
    ∀ s ∈ loadSegments bytes, s.Placed bytes.length := by
  intro s hs
  obtain ⟨i, hi, rfl⟩ := List.mem_map.mp hs
  obtain ⟨hrange, hload⟩ := List.mem_filter.mp hi
  exact (hgood i (List.mem_range.mp hrange) (of_decide_eq_true hload)).placed

namespace Elf64GuestImage

variable {image : Elf64GuestImage}

theorem parse_eq_ok (hlen : bytes.length < 2 ^ 64) :
    parse bytes = .ok image ↔
      IsExecutableHeader bytes ∧
        (∀ i < readU16 bytes 56, IsLoadHeader bytes (readU64 bytes 32) i →
          GoodHeader bytes (readU64 bytes 32) i) ∧
        (loadSegments bytes).Pairwise Elf64LoadSegment.Apart ∧
        loadSegments bytes ≠ [] ∧
        entryIsExecutable (readU64 bytes 24) (loadSegments bytes) = true ∧
        ∃ mappings, buildPageMappings (loadSegments bytes) = .ok mappings ∧
          image = ⟨bytes, readU64 bytes 24, loadSegments bytes, mappings⟩ := by
  simp only [parse, bind_eq_ok, rejectIf_eq_ok, exists_const, collectSegments_eq_ok,
    ← loadSegments_eq, passesHeader_iff hlen, List.mem_range, ← validateIdentAndHeader_eq_ok]
  constructor
  · rintro ⟨⟨⟩, hheader, htable, segments, ⟨rfl, hgood, hapart⟩, hne, hentry, mappings, hmappings,
      himage⟩
    exact ⟨⟨hheader, by omega⟩, hgood, hapart, hne, not_not.mp hentry, mappings, hmappings,
      (Except.ok.inj himage).symm⟩
  · rintro ⟨⟨hheader, htable⟩, hgood, hapart, hne, hentry, mappings, hmappings, rfl⟩
    exact ⟨(), hheader, by omega, _, ⟨rfl, hgood, hapart⟩, hne, not_not.mpr hentry, mappings,
      hmappings, rfl⟩

/-- **Acceptance is exact.** The parser accepts the well-formed files and no others.  The segments
of an accepted image are those of the loadable program headers in table order, and its page
mappings are the pages of the alias segments, each once. -/
theorem parse_accepts_exactly (bytes : List UInt8) (hlen : bytes.length < 2 ^ 64) :
    ((∃ image, parse bytes = .ok image) ↔ WellFormedImage bytes) ∧
      ∀ image, parse bytes = .ok image →
        image.bytes = bytes ∧ image.entry = readU64 bytes 24 ∧
          image.segments = loadSegments bytes ∧
          (∀ m, m ∈ image.pageMappings ↔ ∃ s ∈ loadSegments bytes, s.usesAliasWindow = true ∧
            s.NeedsFrame m.virtualPage m.physicalPage) ∧
          (image.pageMappings.map LongModePageMapping.virtualPage).Nodup := by
  simp only [parse_eq_ok hlen]
  refine ⟨⟨?_, ?_⟩, ?_⟩
  · rintro ⟨-, hheader, hgood, hapart, hne, hentry, mappings, hmappings, -⟩
    exact ⟨hheader, hne, hgood, hapart,
      (exists_buildPageMappings_iff (placed_of_mem_loadSegments hgood)).mp ⟨mappings, hmappings⟩,
      entryIsExecutable_iff.mp hentry⟩
  · rintro ⟨hheader, hne, hgood, hapart, hframes, hentry⟩
    obtain ⟨mappings, hmappings⟩ :=
      (exists_buildPageMappings_iff (placed_of_mem_loadSegments hgood)).mpr hframes
    exact ⟨_, hheader, hgood, hapart, hne, entryIsExecutable_iff.mpr hentry, mappings, hmappings,
      rfl⟩
  · rintro image ⟨-, hgood, -, -, -, mappings, hmappings, rfl⟩
    exact ⟨rfl, rfl, rfl, mem_of_buildPageMappings (placed_of_mem_loadSegments hgood) hmappings⟩

/-- `oneSegmentFile` is well formed, and its alias segment needs one frame. -/
theorem parse_accepts_oneSegmentFile :
    WellFormedImage oneSegmentFile ∧
      ∃ s ∈ loadSegments oneSegmentFile, s.NeedsFrame 0x400000 0x10000 := by
  obtain ⟨hexact, himage⟩ := parse_accepts_exactly oneSegmentFile (by decide +kernel)
  obtain ⟨-, -, -, hmappings, -⟩ := himage oneSegmentImage parse_oneSegmentFile
  obtain ⟨s, hs, -, hframe⟩ := (hmappings ⟨0x400000, 0x10000⟩).mp (by decide)
  exact ⟨hexact.mp ⟨_, parse_oneSegmentFile⟩, s, hs, hframe⟩

end Elf64GuestImage

end MiniHypervisor.Loader
