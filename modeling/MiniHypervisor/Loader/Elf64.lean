import MiniHypervisor.Control.Keyed
import MiniHypervisor.LongMode.PageTables

/-!
# Parsing an ELF64 guest image

`Elf64GuestImage::parse` (`src/loader/elf64.rs`) accepts executables of which every loadable
segment lies in the low 2 MiB of physical memory away from the bootstrap page tables, and in
either the identity window or the alias window of the virtual address space.  Segments overlap
neither virtually nor physically, the entry lies in the file-backed part of an executable
segment, and the pages of the alias segments are collected into page mappings.

All addresses, sizes and offsets of the file are unsigned 64-bit words, read as naturals below
`2 ^ 64`; the source's checked additions become comparisons with `2 ^ 64`.
-/

namespace MiniHypervisor.Loader

open Bytes Control LongMode

/-! ### Reading the file -/

/-- `read_u16`, for an offset inside the file. -/
def readU16 (bytes : List UInt8) (offset : ℕ) : ℕ := ofLE ((bytes.drop offset).take 2)

/-- `read_u32`, for an offset inside the file. -/
def readU32 (bytes : List UInt8) (offset : ℕ) : ℕ := ofLE ((bytes.drop offset).take 4)

/-- `read_u64`, for an offset inside the file. -/
def readU64 (bytes : List UInt8) (offset : ℕ) : ℕ := ofLE ((bytes.drop offset).take 8)

def elf64HeaderSize : ℕ := 64

def elf64ProgramHeaderSize : ℕ := 56

def elfClass64 : UInt8 := 2

def elfData2Lsb : UInt8 := 1

def evCurrent : UInt8 := 1

def etExec : ℕ := 2

def emX8664 : ℕ := 62

def ptLoad : ℕ := 1

def pfX : ℕ := 1

/-- Why an image is refused (lines 41-153). -/
inductive Elf64Error where
  | fileTooSmall (length : ℕ)
  | invalidMagic
  | unsupportedClass (actual : UInt8)
  | unsupportedEndian (actual : UInt8)
  | unsupportedIdentVersion (actual : UInt8)
  | unsupportedType (actual : ℕ)
  | unsupportedMachine (actual : ℕ)
  | unsupportedVersion (actual : ℕ)
  | invalidHeaderSize (actual : ℕ)
  | invalidProgramHeaderSize (actual : ℕ)
  | programHeaderTableOutOfBounds (offset count entrySize fileLength : ℕ)
  | noLoadableSegments
  | emptyLoadSegment (index : ℕ)
  | segmentFileSizeExceedsMemorySize (index fileSize memorySize : ℕ)
  | segmentFileRangeOutOfBounds (index offset fileSize fileLength : ℕ)
  | segmentPhysicalRangeOverflow (index address memorySize : ℕ)
  | segmentPhysicalRangeOutsideRam (index address memorySize ramSize : ℕ)
  | segmentVirtualRangeOverflow (index address memorySize : ℕ)
  | segmentVirtualRangeUnsupported (index address memorySize : ℕ)
  | identitySegmentAddressMismatch (index virtualAddress physicalAddress : ℕ)
  | aliasPageOffsetMismatch (index virtualAddress physicalAddress : ℕ)
  | segmentOverlapsBootstrapPageTables (index address memorySize : ℕ)
  | invalidSegmentAlignment (index alignment : ℕ)
  | segmentAlignmentMismatch (index offset virtualAddress alignment : ℕ)
  | loadSegmentsVirtualOverlap (first second : ℕ)
  | loadSegmentsPhysicalOverlap (first second : ℕ)
  | conflictingPageMapping (virtualPage firstPhysicalPage secondPhysicalPage : ℕ)
  | entryNotInExecutableFileBackedSegment (entry : ℕ)
  deriving DecidableEq, Repr

/-- `validate_ident_and_header` (lines 540-583). -/
def validateIdentAndHeader (bytes : List UInt8) : Except Elf64Error Unit := do
  rejectIf (bytes.length < elf64HeaderSize) (.fileTooSmall bytes.length)
  rejectIf (bytes.take 4 ≠ [0x7f, 0x45, 0x4c, 0x46]) .invalidMagic
  rejectIf (bytes.getD 4 0 ≠ elfClass64) (.unsupportedClass (bytes.getD 4 0))
  rejectIf (bytes.getD 5 0 ≠ elfData2Lsb) (.unsupportedEndian (bytes.getD 5 0))
  rejectIf (bytes.getD 6 0 ≠ evCurrent) (.unsupportedIdentVersion (bytes.getD 6 0))
  let elfType := readU16 bytes 16
  rejectIf (elfType ≠ etExec) (.unsupportedType elfType)
  let machine := readU16 bytes 18
  rejectIf (machine ≠ emX8664) (.unsupportedMachine machine)
  let version := readU32 bytes 20
  rejectIf (version ≠ evCurrent.toNat) (.unsupportedVersion version)
  let headerSize := readU16 bytes 52
  rejectIf (headerSize ≠ elf64HeaderSize) (.invalidHeaderSize headerSize)
  let programHeaderSize := readU16 bytes 54
  rejectIf (programHeaderSize ≠ elf64ProgramHeaderSize)
    (.invalidProgramHeaderSize programHeaderSize)

/-! ### Segments -/

/-- A loadable segment of an accepted image. -/
structure Elf64LoadSegment where
  programHeaderIndex : ℕ
  fileOffset : ℕ
  fileSize : ℕ
  memorySize : ℕ
  virtualAddress : ℕ
  physicalAddress : ℕ
  flags : ℕ
  deriving DecidableEq, Repr

namespace Elf64LoadSegment

def executable (segment : Elf64LoadSegment) : Bool := segment.flags &&& pfX != 0

def usesAliasWindow (segment : Elf64LoadSegment) : Bool :=
  longModeAliasVirtualBase ≤ segment.virtualAddress

end Elf64LoadSegment

/-- The segment that the program header at `offset` describes. -/
def loadSegmentAt (bytes : List UInt8) (offset index : ℕ) : Elf64LoadSegment where
  programHeaderIndex := index
  fileOffset := readU64 bytes (offset + 8)
  fileSize := readU64 bytes (offset + 32)
  memorySize := readU64 bytes (offset + 40)
  virtualAddress := readU64 bytes (offset + 16)
  physicalAddress := readU64 bytes (offset + 24)
  flags := readU32 bytes (offset + 4)

/-- `parse_load_segment` (lines 599-745). -/
def parseLoadSegment (bytes : List UInt8) (offset index : ℕ) :
    Except Elf64Error Elf64LoadSegment := do
  let flags := readU32 bytes (offset + 4)
  let fileOffset := readU64 bytes (offset + 8)
  let virtualAddress := readU64 bytes (offset + 16)
  let physicalAddress := readU64 bytes (offset + 24)
  let fileSize := readU64 bytes (offset + 32)
  let memorySize := readU64 bytes (offset + 40)
  let alignment := readU64 bytes (offset + 48)
  rejectIf (memorySize = 0) (.emptyLoadSegment index)
  rejectIf (memorySize < fileSize) (.segmentFileSizeExceedsMemorySize index fileSize memorySize)
  rejectIf (1 < alignment ∧ ¬ alignment.isPowerOfTwo) (.invalidSegmentAlignment index alignment)
  rejectIf (1 < alignment ∧ fileOffset % alignment ≠ virtualAddress % alignment)
    (.segmentAlignmentMismatch index fileOffset virtualAddress alignment)
  let fileEnd := fileOffset + fileSize
  rejectIf (2 ^ 64 ≤ fileEnd)
    (.segmentFileRangeOutOfBounds index fileOffset fileSize bytes.length)
  rejectIf (bytes.length < fileEnd)
    (.segmentFileRangeOutOfBounds index fileOffset fileSize bytes.length)
  let physicalEnd := physicalAddress + memorySize
  rejectIf (2 ^ 64 ≤ physicalEnd)
    (.segmentPhysicalRangeOverflow index physicalAddress memorySize)
  rejectIf (longModeIdentityMapSize < physicalEnd)
    (.segmentPhysicalRangeOutsideRam index physicalAddress memorySize longModeIdentityMapSize)
  rejectIf (rangesOverlap physicalAddress physicalEnd longModePml4Addr longModePageTableEnd)
    (.segmentOverlapsBootstrapPageTables index physicalAddress memorySize)
  let virtualEnd := virtualAddress + memorySize
  rejectIf (2 ^ 64 ≤ virtualEnd) (.segmentVirtualRangeOverflow index virtualAddress memorySize)
  let usesIdentityWindow := virtualEnd ≤ longModeIdentityMapSize
  let usesAliasWindow :=
    longModeAliasVirtualBase ≤ virtualAddress ∧ virtualEnd ≤ longModeAliasVirtualEnd
  rejectIf (¬ usesIdentityWindow ∧ ¬ usesAliasWindow)
    (.segmentVirtualRangeUnsupported index virtualAddress memorySize)
  rejectIf (usesIdentityWindow ∧ virtualAddress ≠ physicalAddress)
    (.identitySegmentAddressMismatch index virtualAddress physicalAddress)
  rejectIf (usesAliasWindow ∧
      virtualAddress % longModePageSize ≠ physicalAddress % longModePageSize)
    (.aliasPageOffsetMismatch index virtualAddress physicalAddress)
  return {
    programHeaderIndex := index
    fileOffset
    fileSize
    memorySize
    virtualAddress
    physicalAddress
    flags }

/-- `reject_segment_overlap` (lines 747-780). -/
def rejectSegmentOverlap (existing : List Elf64LoadSegment) (candidate : Elf64LoadSegment) :
    Except Elf64Error Unit :=
  existing.forM fun segment => do
    rejectIf (rangesOverlap candidate.virtualAddress
        (candidate.virtualAddress + candidate.memorySize)
        segment.virtualAddress (segment.virtualAddress + segment.memorySize))
      (.loadSegmentsVirtualOverlap segment.programHeaderIndex candidate.programHeaderIndex)
    rejectIf (rangesOverlap candidate.physicalAddress
        (candidate.physicalAddress + candidate.memorySize)
        segment.physicalAddress (segment.physicalAddress + segment.memorySize))
      (.loadSegmentsPhysicalOverlap segment.programHeaderIndex candidate.programHeaderIndex)

/-- The body of the loop of `parse` over the program headers (lines 411-419). -/
def parseProgramHeader (bytes : List UInt8) (tableOffset : ℕ) (segments : List Elf64LoadSegment)
    (index : ℕ) : Except Elf64Error (List Elf64LoadSegment) := do
  let offset := tableOffset + index * elf64ProgramHeaderSize
  if readU32 bytes offset ≠ ptLoad then return segments
  let segment ← parseLoadSegment bytes offset index
  rejectSegmentOverlap segments segment
  return segments ++ [segment]

/-! ### Page mappings of the alias segments -/

def alignUpPage (address : ℕ) : ℕ :=
  (address + longModePageSize - 1) / longModePageSize * longModePageSize

namespace Elf64LoadSegment

/-- The number of pages an alias segment touches (lines 790-793). -/
def pageCount (segment : Elf64LoadSegment) : ℕ :=
  let virtualStart := alignDownPage segment.virtualAddress
  let virtualEnd := alignUpPage (segment.virtualAddress + segment.memorySize)
  (virtualEnd - virtualStart) / longModePageSize

/-- The mapping of one page of an alias segment (lines 795-796). -/
def pageMapping (segment : Elf64LoadSegment) (page : ℕ) : LongModePageMapping where
  virtualPage := alignDownPage segment.virtualAddress + page * longModePageSize
  physicalPage := alignDownPage segment.physicalAddress + page * longModePageSize

end Elf64LoadSegment

/-- The body of the inner loop of `build_page_mappings` (lines 797-813). -/
def addPageMapping (mappings : List LongModePageMapping) (mapping : LongModePageMapping) :
    Except Elf64Error (List LongModePageMapping) :=
  match mappings.find? fun m => m.virtualPage == mapping.virtualPage with
  | some existing => do
      rejectIf (existing.physicalPage ≠ mapping.physicalPage)
        (.conflictingPageMapping mapping.virtualPage existing.physicalPage mapping.physicalPage)
      return mappings
  | none => return mappings ++ [mapping]

/-- The pages of one alias segment. -/
def addSegmentMappings (mappings : List LongModePageMapping) (segment : Elf64LoadSegment) :
    Except Elf64Error (List LongModePageMapping) :=
  (List.range segment.pageCount).foldlM
    (fun mappings page => addPageMapping mappings (segment.pageMapping page)) mappings

/-- `build_page_mappings` (lines 782-817). -/
def buildPageMappings (segments : List Elf64LoadSegment) :
    Except Elf64Error (List LongModePageMapping) :=
  (segments.filter Elf64LoadSegment.usesAliasWindow).foldlM addSegmentMappings []

/-! ### Images -/

/-- An accepted image. -/
structure Elf64GuestImage where
  bytes : List UInt8
  entry : ℕ
  segments : List Elf64LoadSegment
  pageMappings : List LongModePageMapping
  deriving DecidableEq, Repr

/-- The entry lies in the file-backed part of an executable segment. -/
def entryIsExecutable (entry : ℕ) (segments : List Elf64LoadSegment) : Bool :=
  segments.any fun segment =>
    let fileEnd := segment.virtualAddress + segment.fileSize
    segment.executable && segment.virtualAddress ≤ entry && entry < fileEnd

/-- `Elf64GuestImage::parse` (lines 368-438). -/
def Elf64GuestImage.parse (bytes : List UInt8) : Except Elf64Error Elf64GuestImage := do
  validateIdentAndHeader bytes
  let entry := readU64 bytes 24
  let programHeaderOffset := readU64 bytes 32
  let programHeaderSize := readU16 bytes 54
  let programHeaderCount := readU16 bytes 56
  let tableEnd := programHeaderOffset + programHeaderCount * elf64ProgramHeaderSize
  rejectIf (2 ^ 64 ≤ tableEnd ∨ bytes.length < tableEnd)
    (.programHeaderTableOutOfBounds programHeaderOffset programHeaderCount programHeaderSize
      bytes.length)
  let segments ← (List.range programHeaderCount).foldlM
    (parseProgramHeader bytes programHeaderOffset) []
  rejectIf (segments = []) .noLoadableSegments
  rejectIf (¬ entryIsExecutable entry segments) (.entryNotInExecutableFileBackedSegment entry)
  let pageMappings ← buildPageMappings segments
  return { bytes, entry, segments, pageMappings }

/-! ### Placement of one segment -/

/-- A segment whose file bytes exist and whose memory lies in one of the two windows. -/
structure Elf64LoadSegment.Placed (fileLength : ℕ) (s : Elf64LoadSegment) : Prop where
  memory_pos : 0 < s.memorySize
  file_le : s.fileSize ≤ s.memorySize
  file_range : s.fileOffset + s.fileSize ≤ fileLength
  physical_le : s.physicalAddress + s.memorySize ≤ 0x200000
  not_table : s.physicalAddress + s.memorySize ≤ 0x1000 ∨ 0x5000 ≤ s.physicalAddress
  window : (s.virtualAddress = s.physicalAddress) ∨
    (0x400000 ≤ s.virtualAddress ∧ s.virtualAddress + s.memorySize ≤ 0x600000 ∧
      s.virtualAddress % 4096 = s.physicalAddress % 4096)

theorem placed_of_parseLoadSegment {bytes : List UInt8} {offset index : ℕ}
    {s : Elf64LoadSegment} (h : parseLoadSegment bytes offset index = .ok s) :
    s = loadSegmentAt bytes offset index ∧ s.Placed bytes.length := by
  simp only [parseLoadSegment, rejectIf_bind_eq_ok] at h
  obtain ⟨hpos, hfile, -, -, -, hrange, -, hram, htable, -, hwindow, hidentity, halias, hs⟩ := h
  obtain rfl : loadSegmentAt bytes offset index = s := Except.ok.inj hs
  simp only [rangesOverlap_iff, longModeIdentityMapSize, longModePml4Addr, longModePageTableEnd,
    longModeAliasVirtualBase, longModeAliasVirtualEnd, longModeAliasVirtualSize,
    longModePageSize] at hpos hfile hrange hram htable hwindow hidentity halias
  refine ⟨rfl, ?_⟩
  constructor <;> simp only [loadSegmentAt] <;> omega

/-! ### The loop over the program headers -/

namespace Elf64LoadSegment

/-- The virtual ranges of two segments do not meet. -/
def VirtuallyDisjoint (s t : Elf64LoadSegment) : Prop :=
  s.virtualAddress + s.memorySize ≤ t.virtualAddress ∨
    t.virtualAddress + t.memorySize ≤ s.virtualAddress

/-- The physical ranges of two segments do not meet. -/
def PhysicallyDisjoint (s t : Elf64LoadSegment) : Prop :=
  s.physicalAddress + s.memorySize ≤ t.physicalAddress ∨
    t.physicalAddress + t.memorySize ≤ s.physicalAddress

/-- Two segments overlap neither virtually nor physically. -/
def Apart (s t : Elf64LoadSegment) : Prop := s.VirtuallyDisjoint t ∧ s.PhysicallyDisjoint t

end Elf64LoadSegment

theorem rejectSegmentOverlap_eq_ok {existing : List Elf64LoadSegment}
    {candidate : Elf64LoadSegment} :
    rejectSegmentOverlap existing candidate = .ok () ↔ ∀ s ∈ existing, s.Apart candidate := by
  refine forM_eq_ok.trans (forall₂_congr fun s _ => ?_)
  simp only [rejectIf_bind_eq_ok, rejectIf_eq_ok, rangesOverlap_iff, Elf64LoadSegment.Apart,
    Elf64LoadSegment.VirtuallyDisjoint, Elf64LoadSegment.PhysicallyDisjoint]
  omega

/-- The program header with this index is loadable. -/
def IsLoadHeader (bytes : List UInt8) (tableOffset index : ℕ) : Prop :=
  readU32 bytes (tableOffset + index * elf64ProgramHeaderSize) = ptLoad

instance (bytes : List UInt8) (tableOffset index : ℕ) :
    Decidable (IsLoadHeader bytes tableOffset index) :=
  inferInstanceAs (Decidable (_ = _))

/-- The segment of the program header with this index. -/
def headerSegment (bytes : List UInt8) (tableOffset index : ℕ) : Elf64LoadSegment :=
  loadSegmentAt bytes (tableOffset + index * elf64ProgramHeaderSize) index

/-- The checks of the program header with this index pass. -/
def PassesHeader (bytes : List UInt8) (tableOffset index : ℕ) : Prop :=
  parseLoadSegment bytes (tableOffset + index * elf64ProgramHeaderSize) index =
    .ok (headerSegment bytes tableOffset index)

/-- What the program header with this index adds to the segments. -/
def headerSegments (bytes : List UInt8) (tableOffset index : ℕ) : List Elf64LoadSegment :=
  if IsLoadHeader bytes tableOffset index then [headerSegment bytes tableOffset index] else []

section Headers

variable {bytes : List UInt8} {tableOffset : ℕ}

/-- **One program header** is accepted exactly when it is not loadable, or when its checks pass and
its segment is apart from those before it. -/
theorem parseProgramHeader_eq_ok {index : ℕ} {segments segments' : List Elf64LoadSegment}
    (hsegments : segments.Pairwise Elf64LoadSegment.Apart) :
    parseProgramHeader bytes tableOffset segments index = .ok segments' ↔
      segments' = segments ++ headerSegments bytes tableOffset index ∧
        (IsLoadHeader bytes tableOffset index → PassesHeader bytes tableOffset index) ∧
        segments'.Pairwise Elf64LoadSegment.Apart := by
  by_cases hload : IsLoadHeader bytes tableOffset index
  · have hrun : parseProgramHeader bytes tableOffset segments index = (do
        let segment ← parseLoadSegment bytes (tableOffset + index * elf64ProgramHeaderSize) index
        rejectSegmentOverlap segments segment
        return segments ++ [segment]) := if_neg (not_not.mpr hload)
    rw [hrun, bind_eq_ok, headerSegments, if_pos hload]
    constructor
    · rintro ⟨segment, hparse, h⟩
      obtain ⟨⟨⟩, hreject, h⟩ := bind_eq_ok.mp h
      obtain rfl : segments ++ [segment] = segments' := Except.ok.inj h
      obtain rfl : segment = headerSegment bytes tableOffset index :=
        (placed_of_parseLoadSegment hparse).1
      refine ⟨rfl, fun _ => hparse, List.pairwise_append.mpr ⟨hsegments, ?_, ?_⟩⟩
      · exact List.pairwise_singleton _ _
      · intro s hs t ht
        rw [List.mem_singleton.mp ht]
        exact rejectSegmentOverlap_eq_ok.mp hreject s hs
    · rintro ⟨rfl, hpasses, hapart⟩
      refine ⟨_, hpasses hload, bind_eq_ok.mpr ⟨(), ?_, rfl⟩⟩
      refine rejectSegmentOverlap_eq_ok.mpr fun s hs => ?_
      exact (List.pairwise_append.mp hapart).2.2 s hs _ List.mem_cons_self
  · have hrun : parseProgramHeader bytes tableOffset segments index = .ok segments :=
      if_pos hload
    rw [hrun, headerSegments, if_neg hload, List.append_nil, Except.ok.injEq]
    exact ⟨fun h => ⟨h.symm, fun hl => absurd hl hload, h ▸ hsegments⟩, fun h => h.1.symm⟩

/-- **The loop over the program headers** succeeds exactly when the checks of every loadable header
pass and the segments are pairwise apart; it yields these segments. -/
theorem collectSegments_eq_ok {indices : List ℕ} {segments : List Elf64LoadSegment} :
    indices.foldlM (parseProgramHeader bytes tableOffset) [] = .ok segments ↔
      segments = indices.flatMap (headerSegments bytes tableOffset) ∧
        (∀ i ∈ indices, IsLoadHeader bytes tableOffset i → PassesHeader bytes tableOffset i) ∧
        segments.Pairwise Elf64LoadSegment.Apart := by
  let Q : List Elf64LoadSegment → Prop := List.Pairwise Elf64LoadSegment.Apart
  have hinitial : ∀ l l', Q (l ++ l') → Q l := fun l l' h => (List.pairwise_append.mp h).1
  have hstep : ∀ acc i acc', Q acc →
      (parseProgramHeader bytes tableOffset acc i = .ok acc' ↔
        acc' = acc ++ headerSegments bytes tableOffset i ∧
          (IsLoadHeader bytes tableOffset i → PassesHeader bytes tableOffset i) ∧ Q acc') :=
    fun acc i acc' hacc => parseProgramHeader_eq_ok hacc
  rw [foldlM_append_eq_ok hinitial hstep List.Pairwise.nil, List.nil_append]

theorem mem_flatMap_headerSegments {indices : List ℕ} {s : Elf64LoadSegment} :
    s ∈ indices.flatMap (headerSegments bytes tableOffset) ↔
      ∃ i ∈ indices, IsLoadHeader bytes tableOffset i ∧ s = headerSegment bytes tableOffset i := by
  rw [List.mem_flatMap]
  refine exists_congr fun i => and_congr_right fun _ => ?_
  rw [headerSegments]
  split_ifs with hload
  · rw [List.mem_singleton, and_iff_right hload]
  · simp [hload]

/-- The collected segments are placed. -/
theorem placed_of_collectSegments {indices : List ℕ} {segments : List Elf64LoadSegment}
    (h : indices.foldlM (parseProgramHeader bytes tableOffset) [] = .ok segments) :
    ∀ s ∈ segments, s.Placed bytes.length := by
  obtain ⟨rfl, hpasses, -⟩ := collectSegments_eq_ok.mp h
  intro s hs
  obtain ⟨i, hi, hload, rfl⟩ := mem_flatMap_headerSegments.mp hs
  exact (placed_of_parseLoadSegment (hpasses i hi hload)).2

end Headers

/-! ### The loops over the alias pages -/

/-- Mappings that a boot layout accepts. -/
structure AdmissibleMappings (mappings : List LongModePageMapping) : Prop where
  admissible : ∀ m ∈ mappings, m.Admissible
  nodup : (mappings.map LongModePageMapping.virtualPage).Nodup

/-- The mappings of the pages of a segment. -/
def Elf64LoadSegment.pageMappings (s : Elf64LoadSegment) : List LongModePageMapping :=
  (List.range s.pageCount).map s.pageMapping

/-- The mappings that the loops over the alias segments and their pages visit. -/
def aliasPages (segments : List Elf64LoadSegment) : List LongModePageMapping :=
  (segments.filter Elf64LoadSegment.usesAliasWindow).flatMap Elf64LoadSegment.pageMappings

theorem addPageMapping_addsByKey : AddsByKey LongModePageMapping.virtualPage addPageMapping := by
  intro mappings m mappings'
  have hkey : mappings.find? (fun m' => m'.virtualPage == m.virtualPage) =
      findKey LongModePageMapping.virtualPage m.virtualPage mappings := rfl
  cases hfind : findKey LongModePageMapping.virtualPage m.virtualPage mappings with
  | none =>
      have hrun : addPageMapping mappings m = .ok (mappings ++ [m]) := by
        rw [addPageMapping, hkey, hfind]
        rfl
      simp [hrun, eq_comm]
  | some existing =>
      have hrun : addPageMapping mappings m = (do
          rejectIf (existing.physicalPage ≠ m.physicalPage) (.conflictingPageMapping m.virtualPage
            existing.physicalPage m.physicalPage)
          return mappings) := by
        rw [addPageMapping, hkey, hfind]
      have hvirtual := key_of_findKey hfind
      have hsame : existing.physicalPage = m.physicalPage ↔ existing = m :=
        ⟨LongModePageMapping.ext hvirtual, congrArg _⟩
      simp only [hrun, rejectIf_bind_eq_ok, ne_eq, not_not, hsame, pure, Except.pure,
        Except.ok.injEq, Option.some.injEq, reduceCtorEq, and_false, or_false]
      exact ⟨fun h => ⟨h.2.symm, h.1⟩, fun h => ⟨h.2, h.1.symm⟩⟩

theorem buildPageMappings_eq (segments : List Elf64LoadSegment) :
    buildPageMappings segments = (aliasPages segments).foldlM addPageMapping [] := by
  have hsegment : addSegmentMappings = fun mappings s =>
      (Elf64LoadSegment.pageMappings s).foldlM addPageMapping mappings := by
    funext mappings s
    exact List.foldlM_map.symm
  rw [buildPageMappings, hsegment, aliasPages, foldlM_flatMap]

/-- The pages of a placed alias segment are admissible: rounding to pages reaches neither the
page tables nor the end of the backing memory. -/
theorem Elf64LoadSegment.Placed.pageMapping_admissible {s : Elf64LoadSegment} {fileLength page : ℕ}
    (hs : s.Placed fileLength) (halias : s.usesAliasWindow = true) (hpage : page < s.pageCount) :
    (s.pageMapping page).Admissible := by
  obtain ⟨hpos, -, -, hram, htable, hwindow⟩ := hs
  have hlow : 0x400000 ≤ s.virtualAddress := of_decide_eq_true halias
  simp only [pageCount, alignUpPage, alignDownPage, longModePageSize] at hpage
  constructor <;> simp only [pageMapping, alignDownPage, longModePageSize] <;> omega

/-- **The page mappings of an image.** They are acceptable to a boot layout and map every page
of every alias segment. -/
theorem admissible_of_buildPageMappings {segments : List Elf64LoadSegment}
    {mappings : List LongModePageMapping} {fileLength : ℕ}
    (hplaced : ∀ s ∈ segments, s.Placed fileLength)
    (h : buildPageMappings segments = .ok mappings) :
    AdmissibleMappings mappings ∧ ∀ s ∈ segments, s.usesAliasWindow = true →
      ∀ page < s.pageCount, s.pageMapping page ∈ mappings := by
  rw [buildPageMappings_eq] at h
  obtain ⟨hmem, hnodup⟩ := addPageMapping_addsByKey.collected h
  simp only [aliasPages, Elf64LoadSegment.pageMappings, List.mem_flatMap, List.mem_filter,
    List.mem_map, List.mem_range] at hmem
  refine ⟨⟨fun m hm => ?_, hnodup⟩, fun s hs halias page hpage => ?_⟩
  · obtain ⟨s, ⟨hs, halias⟩, page, hpage, rfl⟩ := (hmem m).mp hm
    exact (hplaced s hs).pageMapping_admissible halias hpage
  · exact (hmem _).mpr ⟨s, ⟨hs, halias⟩, page, hpage, rfl⟩

/-! ### Accepted images -/

/-- The contents of an accepted image, in terms of the program headers of the file. -/
structure Elf64GuestImage.Parsed (bytes : List UInt8) (image : Elf64GuestImage) : Prop where
  bytes_eq : image.bytes = bytes
  segments_eq : image.segments =
    (List.range (readU16 bytes 56)).flatMap (headerSegments bytes (readU64 bytes 32))
  placed : ∀ s ∈ image.segments, s.Placed bytes.length
  apart : image.segments.Pairwise Elf64LoadSegment.Apart
  mappings : AdmissibleMappings image.pageMappings
  mapped : ∀ s ∈ image.segments, s.usesAliasWindow = true →
    ∀ page < s.pageCount, s.pageMapping page ∈ image.pageMappings
  entry : ∃ s ∈ image.segments,
    s.virtualAddress ≤ image.entry ∧ image.entry < s.virtualAddress + s.fileSize

/-- **What the parser accepts.** -/
theorem Elf64GuestImage.parse_spec {bytes : List UInt8} {image : Elf64GuestImage}
    (h : Elf64GuestImage.parse bytes = .ok image) : image.Parsed bytes := by
  obtain ⟨⟨⟩, -, h⟩ := bind_eq_ok.mp h
  rw [rejectIf_bind_eq_ok] at h
  obtain ⟨segments, hsegments, h⟩ := bind_eq_ok.mp h.2
  rw [rejectIf_bind_eq_ok, rejectIf_bind_eq_ok] at h
  obtain ⟨-, hentry, h⟩ := h
  obtain ⟨mappings, hmappings, h⟩ := bind_eq_ok.mp h
  obtain rfl : _ = image := Except.ok.inj h
  have hplaced := placed_of_collectSegments hsegments
  obtain ⟨hadmissible, hmapped⟩ := admissible_of_buildPageMappings hplaced hmappings
  obtain ⟨hcollected, -, hapart⟩ := collectSegments_eq_ok.mp hsegments
  refine ⟨rfl, hcollected, hplaced, hapart, hadmissible, hmapped, ?_⟩
  obtain ⟨s, hs, hrange⟩ := List.any_eq_true.mp (not_not.mp hentry)
  simp only [Bool.and_eq_true, decide_eq_true_eq] at hrange
  exact ⟨s, hs, hrange.1.2, hrange.2⟩

end MiniHypervisor.Loader
