import MiniHypervisor.Control.Panics
import MiniHypervisor.Loader.Boot

/-!
# The loader does not panic

The parser and the loader of ELF64 images (`src/loader/elf64.rs`) index the file and compute with
its 64-bit fields without checks of their own.  Here they are written with operations that panic
outside their range: an index past the end of the file, a slice that is not inside it, a sum or a
product above the last 64-bit word and a difference below zero.  The checks of the parser keep
every operand in range, whatever the file says, so these programs do what
`Elf64GuestImage.parse` and `Elf64GuestImage.load` do.

A checked operation of the source whose failure is an error (`checked_add`) stays a guard; one
whose failure is an `expect` can panic.
-/

namespace MiniHypervisor.Loader

open Bytes Control LongMode Memory

namespace Checked

/-! ### Reading the file -/

section Reads

variable {m : Type → Type} [Monad m]

/-- The little-endian word of the bytes `bytes[offset]`, `bytes[offset + 1]` and so on. -/
def readWord (width : ℕ) (bytes : List UInt8) (offset : ℕ) : OptionT m ℕ := do
  let word ← (List.range width).mapM fun k => do
    let position ← addWord offset k
    indexed bytes position
  return ofLE word

def readU16 (bytes : List UInt8) (offset : ℕ) : OptionT m ℕ := readWord 2 bytes offset

def readU32 (bytes : List UInt8) (offset : ℕ) : OptionT m ℕ := readWord 4 bytes offset

def readU64 (bytes : List UInt8) (offset : ℕ) : OptionT m ℕ := readWord 8 bytes offset

variable [LawfulMonad m] {bytes : List UInt8} {offset width : ℕ}

theorem map_getD_range (h : offset + width ≤ bytes.length) :
    (List.range width).map (fun k => bytes.getD (offset + k) 0) =
      (bytes.drop offset).take width := by
  refine List.ext_getElem (by simp; omega) fun k hk hk' => ?_
  have hlt : offset + k < bytes.length := by
    simp only [List.length_map, List.length_range] at hk
    omega
  simp [hlt]

theorem runsAs_readWord (hlen : bytes.length < 2 ^ 64) (h : offset + width ≤ bytes.length) :
    RunsAs (readWord width bytes offset : OptionT m ℕ)
      (pure (ofLE ((bytes.drop offset).take width))) := by
  rw [← map_getD_range h]
  refine RunsAs.value (RunsAs.mapM fun k hk => ?_) (RunsAs.pure _)
  have hk := List.mem_range.mp hk
  exact (RunsAs.addWord (by omega)).value (RunsAs.indexed 0 (by omega))

theorem runsAs_readU16 (hlen : bytes.length < 2 ^ 64) (h : offset + 2 ≤ bytes.length) :
    RunsAs (readU16 bytes offset : OptionT m ℕ) (pure (Loader.readU16 bytes offset)) :=
  runsAs_readWord hlen h

theorem runsAs_readU32 (hlen : bytes.length < 2 ^ 64) (h : offset + 4 ≤ bytes.length) :
    RunsAs (readU32 bytes offset : OptionT m ℕ) (pure (Loader.readU32 bytes offset)) :=
  runsAs_readWord hlen h

theorem runsAs_readU64 (hlen : bytes.length < 2 ^ 64) (h : offset + 8 ≤ bytes.length) :
    RunsAs (readU64 bytes offset : OptionT m ℕ) (pure (Loader.readU64 bytes offset)) :=
  runsAs_readWord hlen h

end Reads

/-! ### The parser -/

/-- A program that returns an error of the parser, or panics. -/
abbrev Parsing : Type → Type := OptionT (Except Elf64Error)

/-- A byte of the ELF identification; the error reads it again. -/
def checkIdentByte (bytes : List UInt8) (position : ℕ) (expected : UInt8)
    (refuse : UInt8 → Elf64Error) : Parsing Unit := do
  let byte ← indexed bytes position
  if byte ≠ expected then
    let actual ← indexed bytes position
    liftM (throw (refuse actual) : Except Elf64Error Unit)
  else
    return ()

/-- `validate_ident_and_header` (lines 540-583). -/
def validateIdentAndHeader (bytes : List UInt8) : Parsing Unit := do
  refuseIf (bytes.length < elf64HeaderSize) (.fileTooSmall bytes.length)
  let magic ← sliced bytes 0 4
  refuseIf (magic ≠ [0x7f, 0x45, 0x4c, 0x46]) .invalidMagic
  checkIdentByte bytes 4 elfClass64 .unsupportedClass
  checkIdentByte bytes 5 elfData2Lsb .unsupportedEndian
  checkIdentByte bytes 6 evCurrent .unsupportedIdentVersion
  let elfType ← readU16 bytes 16
  refuseIf (elfType ≠ etExec) (.unsupportedType elfType)
  let machine ← readU16 bytes 18
  refuseIf (machine ≠ emX8664) (.unsupportedMachine machine)
  let version ← readU32 bytes 20
  refuseIf (version ≠ evCurrent.toNat) (.unsupportedVersion version)
  let headerSize ← readU16 bytes 52
  refuseIf (headerSize ≠ elf64HeaderSize) (.invalidHeaderSize headerSize)
  let programHeaderSize ← readU16 bytes 54
  refuseIf (programHeaderSize ≠ elf64ProgramHeaderSize)
    (.invalidProgramHeaderSize programHeaderSize)

/-- `alignment > 1 && file_offset % alignment != virtual_address % alignment` (line 627): the
remainders are computed only for an alignment above 1. -/
def misaligned (fileOffset virtualAddress alignment : ℕ) : Parsing Bool := do
  if 1 < alignment then
    let offsetRemainder ← remWord fileOffset alignment
    let addressRemainder ← remWord virtualAddress alignment
    return offsetRemainder ≠ addressRemainder
  else
    return false

/-- `parse_load_segment` (lines 599-745). -/
def parseLoadSegment (bytes : List UInt8) (offset index : ℕ) : Parsing Elf64LoadSegment := do
  let flags ← readU32 bytes (← addWord offset 4)
  let fileOffset ← readU64 bytes (← addWord offset 8)
  let virtualAddress ← readU64 bytes (← addWord offset 16)
  let physicalAddress ← readU64 bytes (← addWord offset 24)
  let fileSize ← readU64 bytes (← addWord offset 32)
  let memorySize ← readU64 bytes (← addWord offset 40)
  let alignment ← readU64 bytes (← addWord offset 48)
  refuseIf (memorySize = 0) (.emptyLoadSegment index)
  refuseIf (memorySize < fileSize) (.segmentFileSizeExceedsMemorySize index fileSize memorySize)
  refuseIf (1 < alignment ∧ ¬ alignment.isPowerOfTwo) (.invalidSegmentAlignment index alignment)
  let mismatch ← misaligned fileOffset virtualAddress alignment
  refuseIf (mismatch = true) (.segmentAlignmentMismatch index fileOffset virtualAddress alignment)
  let fileEnd := fileOffset + fileSize
  refuseIf (2 ^ 64 ≤ fileEnd)
    (.segmentFileRangeOutOfBounds index fileOffset fileSize bytes.length)
  refuseIf (bytes.length < fileEnd)
    (.segmentFileRangeOutOfBounds index fileOffset fileSize bytes.length)
  let physicalEnd := physicalAddress + memorySize
  refuseIf (2 ^ 64 ≤ physicalEnd)
    (.segmentPhysicalRangeOverflow index physicalAddress memorySize)
  refuseIf (longModeIdentityMapSize < physicalEnd)
    (.segmentPhysicalRangeOutsideRam index physicalAddress memorySize longModeIdentityMapSize)
  refuseIf (rangesOverlap physicalAddress physicalEnd longModePml4Addr longModePageTableEnd)
    (.segmentOverlapsBootstrapPageTables index physicalAddress memorySize)
  let virtualEnd := virtualAddress + memorySize
  refuseIf (2 ^ 64 ≤ virtualEnd) (.segmentVirtualRangeOverflow index virtualAddress memorySize)
  let usesIdentityWindow := virtualEnd ≤ longModeIdentityMapSize
  let usesAliasWindow :=
    longModeAliasVirtualBase ≤ virtualAddress ∧ virtualEnd ≤ longModeAliasVirtualEnd
  refuseIf (¬ usesIdentityWindow ∧ ¬ usesAliasWindow)
    (.segmentVirtualRangeUnsupported index virtualAddress memorySize)
  refuseIf (usesIdentityWindow ∧ virtualAddress ≠ physicalAddress)
    (.identitySegmentAddressMismatch index virtualAddress physicalAddress)
  refuseIf (usesAliasWindow ∧
      virtualAddress % longModePageSize ≠ physicalAddress % longModePageSize)
    (.aliasPageOffsetMismatch index virtualAddress physicalAddress)
  return {
    programHeaderIndex := index
    fileOffset
    fileSize
    memorySize
    virtualAddress
    physicalAddress
    flags }

/-- `reject_segment_overlap` (lines 747-780). -/
def rejectSegmentOverlap (existing : List Elf64LoadSegment) (candidate : Elf64LoadSegment) :
    Parsing Unit := do
  let candidateVirtualEnd ← addWord candidate.virtualAddress candidate.memorySize
  let candidatePhysicalEnd ← addWord candidate.physicalAddress candidate.memorySize
  existing.forM fun segment => do
    let virtualEnd ← addWord segment.virtualAddress segment.memorySize
    refuseIf (rangesOverlap candidate.virtualAddress candidateVirtualEnd
        segment.virtualAddress virtualEnd)
      (.loadSegmentsVirtualOverlap segment.programHeaderIndex candidate.programHeaderIndex)
    let physicalEnd ← addWord segment.physicalAddress segment.memorySize
    refuseIf (rangesOverlap candidate.physicalAddress candidatePhysicalEnd
        segment.physicalAddress physicalEnd)
      (.loadSegmentsPhysicalOverlap segment.programHeaderIndex candidate.programHeaderIndex)

/-- The body of the loop of `parse` over the program headers (lines 411-419). -/
def parseProgramHeader (bytes : List UInt8) (tableOffset : ℕ) (segments : List Elf64LoadSegment)
    (index : ℕ) : Parsing (List Elf64LoadSegment) := do
  let offset ← addWord tableOffset (← mulWord index elf64ProgramHeaderSize)
  let type ← readU32 bytes offset
  if type ≠ ptLoad then return segments
  let segment ← parseLoadSegment bytes offset index
  rejectSegmentOverlap segments segment
  return segments ++ [segment]

/-- The search of `parse` for the segment of the entry (lines 424-427). -/
def entryIsExecutable (entry : ℕ) (segments : List Elf64LoadSegment) : Parsing Bool :=
  segments.anyM fun segment => do
    let fileEnd ← addWord segment.virtualAddress segment.fileSize
    return segment.executable && segment.virtualAddress ≤ entry && entry < fileEnd

def alignUpPage (address : ℕ) : Parsing ℕ := do
  let rounded ← subWord (← addWord address longModePageSize) 1
  return rounded / longModePageSize * longModePageSize

/-- The pages of one alias segment (lines 790-813). -/
def addSegmentMappings (mappings : List LongModePageMapping) (segment : Elf64LoadSegment) :
    Parsing (List LongModePageMapping) := do
  let virtualStart := alignDownPage segment.virtualAddress
  let physicalStart := alignDownPage segment.physicalAddress
  let virtualEnd ← alignUpPage (← addWord segment.virtualAddress segment.memorySize)
  let pageCount := (← subWord virtualEnd virtualStart) / longModePageSize
  (List.range pageCount).foldlM (fun mappings page => do
    let virtualPage ← addWord virtualStart (← mulWord page longModePageSize)
    let physicalPage ← addWord physicalStart (← mulWord page longModePageSize)
    addPageMapping mappings ⟨virtualPage, physicalPage⟩) mappings

/-- `build_page_mappings` (lines 782-817). -/
def buildPageMappings (segments : List Elf64LoadSegment) : Parsing (List LongModePageMapping) :=
  (segments.filter Elf64LoadSegment.usesAliasWindow).foldlM addSegmentMappings []

/-- `Elf64GuestImage::parse` (lines 368-438). -/
def parse (bytes : List UInt8) : Parsing Elf64GuestImage := do
  validateIdentAndHeader bytes
  let entry ← readU64 bytes 24
  let programHeaderOffset ← readU64 bytes 32
  let programHeaderSize ← readU16 bytes 54
  let programHeaderCount ← readU16 bytes 56
  let tableEnd := programHeaderOffset + programHeaderCount * elf64ProgramHeaderSize
  refuseIf (2 ^ 64 ≤ tableEnd ∨ bytes.length < tableEnd)
    (.programHeaderTableOutOfBounds programHeaderOffset programHeaderCount programHeaderSize
      bytes.length)
  let segments ← (List.range programHeaderCount).foldlM
    (parseProgramHeader bytes programHeaderOffset) []
  refuseIf (segments = []) .noLoadableSegments
  let executable ← entryIsExecutable entry segments
  refuseIf (¬ executable) (.entryNotInExecutableFileBackedSegment entry)
  let pageMappings ← buildPageMappings segments
  return { bytes, entry, segments, pageMappings }

/-! ### The parser stays in range -/

section Parser

variable {bytes : List UInt8}

theorem runsAs_checkIdentByte {position : ℕ} (h : position < bytes.length) (expected : UInt8)
    (refuse : UInt8 → Elf64Error) :
    RunsAs (checkIdentByte bytes position expected refuse)
      (rejectIf (bytes.getD position 0 ≠ expected) (refuse (bytes.getD position 0))) := by
  refine (RunsAs.indexed 0 h).value (RunsAs.ite (fun _ => ?_) fun _ => RunsAs.pure ())
  exact (RunsAs.indexed 0 h).value (RunsAs.lift _)

theorem runsAs_validateIdentAndHeader (hlen : bytes.length < 2 ^ 64) :
    RunsAs (validateIdentAndHeader bytes) (Loader.validateIdentAndHeader bytes) := by
  refine RunsAs.guard fun hsize => ?_
  have hsize : 64 ≤ bytes.length := not_lt.mp hsize
  refine (RunsAs.sliced (Nat.zero_le 4) (by omega)).value (RunsAs.guard fun _ => ?_)
  refine (runsAs_checkIdentByte (by omega) _ _).bind fun _ => ?_
  refine (runsAs_checkIdentByte (by omega) _ _).bind fun _ => ?_
  refine (runsAs_checkIdentByte (by omega) _ _).bind fun _ => ?_
  refine (runsAs_readU16 hlen (by omega)).value (RunsAs.guard fun _ => ?_)
  refine (runsAs_readU16 hlen (by omega)).value (RunsAs.guard fun _ => ?_)
  refine (runsAs_readU32 hlen (by omega)).value (RunsAs.guard fun _ => ?_)
  refine (runsAs_readU16 hlen (by omega)).value (RunsAs.guard fun _ => ?_)
  exact (runsAs_readU16 hlen (by omega)).value (RunsAs.lift _)

theorem runsAs_misaligned (fileOffset virtualAddress alignment : ℕ) :
    RunsAs (misaligned fileOffset virtualAddress alignment)
      (pure (decide (1 < alignment ∧ fileOffset % alignment ≠ virtualAddress % alignment))) := by
  unfold misaligned
  split_ifs with h
  · have hne : alignment ≠ 0 := by omega
    refine (RunsAs.remWord hne).value ((RunsAs.remWord hne).value ?_)
    simpa [h] using RunsAs.pure (m := Except Elf64Error) _
  · simpa [h] using RunsAs.pure (m := Except Elf64Error) false

theorem runsAs_parseLoadSegment (hlen : bytes.length < 2 ^ 64) {offset index : ℕ}
    (h : offset + 56 ≤ bytes.length) :
    RunsAs (parseLoadSegment bytes offset index) (Loader.parseLoadSegment bytes offset index) := by
  refine (RunsAs.addWord (by omega)).value ((runsAs_readU32 hlen (by omega)).value ?_)
  refine (RunsAs.addWord (by omega)).value ((runsAs_readU64 hlen (by omega)).value ?_)
  refine (RunsAs.addWord (by omega)).value ((runsAs_readU64 hlen (by omega)).value ?_)
  refine (RunsAs.addWord (by omega)).value ((runsAs_readU64 hlen (by omega)).value ?_)
  refine (RunsAs.addWord (by omega)).value ((runsAs_readU64 hlen (by omega)).value ?_)
  refine (RunsAs.addWord (by omega)).value ((runsAs_readU64 hlen (by omega)).value ?_)
  refine (RunsAs.addWord (by omega)).value ((runsAs_readU64 hlen (by omega)).value ?_)
  refine RunsAs.guard fun _ => RunsAs.guard fun _ => RunsAs.guard fun _ => ?_
  refine (runsAs_misaligned _ _ _).value ?_
  simp only [decide_eq_true_eq]
  refine RunsAs.guard fun _ => RunsAs.guard fun _ => RunsAs.guard fun _ => RunsAs.guard fun _ => ?_
  refine RunsAs.guard fun _ => RunsAs.guard fun _ => RunsAs.guard fun _ => RunsAs.guard fun _ => ?_
  exact RunsAs.guard fun _ => RunsAs.guard fun _ => RunsAs.pure _

theorem ends_lt {s : Elf64LoadSegment} {fileLength : ℕ} (hs : s.Placed fileLength) :
    s.virtualAddress + s.memorySize < 2 ^ 63 ∧ s.physicalAddress + s.memorySize < 2 ^ 63 := by
  obtain ⟨-, -, -, hram, -, hwindow⟩ := hs
  omega

variable {fileLength : ℕ}

theorem runsAs_rejectSegmentOverlap {existing : List Elf64LoadSegment}
    {candidate : Elf64LoadSegment} (hexisting : ∀ s ∈ existing, s.Placed fileLength)
    (hcandidate : candidate.Placed fileLength) :
    RunsAs (rejectSegmentOverlap existing candidate)
      (Loader.rejectSegmentOverlap existing candidate) := by
  have hends := ends_lt hcandidate
  refine (RunsAs.addWord (by omega)).value ((RunsAs.addWord (by omega)).value ?_)
  refine RunsAs.forM fun s hs => ?_
  have hends := ends_lt (hexisting s hs)
  refine (RunsAs.addWord (by omega)).value (RunsAs.guard fun _ => ?_)
  exact (RunsAs.addWord (by omega)).value (RunsAs.lift _)

theorem runsAs_parseProgramHeader (hlen : bytes.length < 2 ^ 64) {tableOffset index : ℕ}
    {segments : List Elf64LoadSegment}
    (htable : tableOffset + (index + 1) * elf64ProgramHeaderSize ≤ bytes.length)
    (hsegments : ∀ s ∈ segments, s.Placed bytes.length) :
    RunsAs (parseProgramHeader bytes tableOffset segments index)
      (Loader.parseProgramHeader bytes tableOffset segments index) := by
  simp only [elf64ProgramHeaderSize] at htable
  have hoffset : tableOffset + index * elf64ProgramHeaderSize + 56 ≤ bytes.length := by
    simp only [elf64ProgramHeaderSize]
    omega
  refine (RunsAs.mulWord (by omega)).value ((RunsAs.addWord (by omega)).value ?_)
  refine (runsAs_readU32 hlen (by omega)).value (RunsAs.ite (fun _ => RunsAs.pure _) fun _ => ?_)
  refine (runsAs_parseLoadSegment hlen hoffset).bind_of_ok fun segment hparse => ?_
  have hplaced := (placed_of_parseLoadSegment hparse).2
  exact (runsAs_rejectSegmentOverlap hsegments hplaced).bind fun _ => RunsAs.pure _

theorem runsAs_entryIsExecutable (entry : ℕ) {segments : List Elf64LoadSegment}
    (hsegments : ∀ s ∈ segments, s.Placed fileLength) :
    RunsAs (entryIsExecutable entry segments) (pure (Loader.entryIsExecutable entry segments)) := by
  refine RunsAs.anyM fun s hs => ?_
  have hends := ends_lt (hsegments s hs)
  have hfile := (hsegments s hs).file_le
  exact (RunsAs.addWord (by omega)).value (RunsAs.pure _)

theorem runsAs_alignUpPage {address : ℕ} (h : address < 2 ^ 63) :
    RunsAs (alignUpPage address) (pure (Loader.alignUpPage address)) := by
  have hsum : address + longModePageSize < 2 ^ 64 := by
    simp only [longModePageSize]
    omega
  refine (RunsAs.addWord hsum).value ((RunsAs.subWord ?_).value (RunsAs.pure _))
  simp only [longModePageSize]
  omega

theorem runsAs_addSegmentMappings {s : Elf64LoadSegment} (hs : s.Placed fileLength)
    (mappings : List LongModePageMapping) :
    RunsAs (addSegmentMappings mappings s) (Loader.addSegmentMappings mappings s) := by
  have hends := ends_lt hs
  refine (RunsAs.addWord (by omega)).value ((runsAs_alignUpPage hends.1).value ?_)
  refine (RunsAs.subWord ?_).value ?_
  · simp only [alignDownPage, Loader.alignUpPage, longModePageSize]
    omega
  refine RunsAs.foldlM (fun _ => True) trivial (fun page hpage acc _ => ?_)
    fun _ _ _ _ _ _ => trivial
  -- The last page starts below the rounded end of the segment.
  have hpage : page < s.pageCount := List.mem_range.mp hpage
  have hstarts : alignDownPage s.virtualAddress + page * longModePageSize < 2 ^ 64 ∧
      alignDownPage s.physicalAddress + page * longModePageSize < 2 ^ 64 := by
    simp only [Elf64LoadSegment.pageCount, alignDownPage, Loader.alignUpPage, longModePageSize]
      at hpage ⊢
    omega
  have hmul : page * longModePageSize < 2 ^ 64 := by omega
  refine (RunsAs.mulWord hmul).value ((RunsAs.addWord hstarts.1).value ?_)
  refine (RunsAs.mulWord hmul).value ((RunsAs.addWord hstarts.2).value ?_)
  exact RunsAs.lift _

theorem runsAs_buildPageMappings {segments : List Elf64LoadSegment}
    (hsegments : ∀ s ∈ segments, s.Placed fileLength) :
    RunsAs (buildPageMappings segments) (Loader.buildPageMappings segments) := by
  refine RunsAs.foldlM (fun _ => True) trivial (fun s hs acc _ => ?_) fun _ _ _ _ _ _ => trivial
  exact runsAs_addSegmentMappings (hsegments s (List.mem_filter.mp hs).1) acc

/-- **The parser does not panic**, whatever the file is. -/
theorem runsAs_parse (hlen : bytes.length < 2 ^ 64) :
    RunsAs (parse bytes) (Elf64GuestImage.parse bytes) := by
  refine (runsAs_validateIdentAndHeader hlen).bind_of_ok fun _ hheader => ?_
  have hsize : 64 ≤ bytes.length := by
    simp only [Loader.validateIdentAndHeader, rejectIf_bind_eq_ok] at hheader
    exact not_lt.mp hheader.1
  refine (runsAs_readU64 hlen (by omega)).value ((runsAs_readU64 hlen (by omega)).value ?_)
  refine (runsAs_readU16 hlen (by omega)).value ((runsAs_readU16 hlen (by omega)).value ?_)
  refine RunsAs.guard fun htable => ?_
  -- While the loop runs, the segments are those of the headers before, so they are placed.
  refine RunsAs.bind_of_ok (RunsAs.foldlM (fun segments => ∃ done, List.foldlM
      (Loader.parseProgramHeader bytes (Loader.readU64 bytes 32)) [] done = .ok segments)
    ⟨[], rfl⟩ ?_ ?_) fun segments hsegments => ?_
  · rintro index hindex segments ⟨done, hcollected⟩
    refine runsAs_parseProgramHeader hlen ?_ (placed_of_collectSegments hcollected)
    have hindex := List.mem_range.mp hindex
    simp only [elf64ProgramHeaderSize] at htable ⊢
    omega
  · rintro index - segments segments' ⟨done, hcollected⟩ hstep
    refine ⟨done ++ [index], ?_⟩
    rw [List.foldlM_append, bind_of_ok hcollected, List.foldlM_cons, bind_of_ok hstep]
    rfl
  have hplaced := placed_of_collectSegments hsegments
  refine RunsAs.guard fun _ => ?_
  refine (runsAs_entryIsExecutable _ hplaced).value (RunsAs.guard fun _ => ?_)
  exact (runsAs_buildPageMappings hplaced).bind fun _ => RunsAs.pure _

end Parser

/-! ### Loading -/

/-- `GuestMemoryRegion::checked_offset` (`src/memory.rs`, lines 83-112); the exclusive end of the
region and the offset are computed with an `expect`. -/
def checkedOffset (region : GuestMemoryRegion) (address length : ℕ) :
    OptionT (Except GuestMemoryError) ℕ := do
  refuseIf (2 ^ 64 ≤ address + length) (.accessOverflow address length)
  let regionEnd ← addWord region.base region.size
  refuseIf (address < region.base ∨ regionEnd < address + length ∨
      (length ≠ 0 ∧ regionEnd ≤ address))
    (.accessOutOfBounds address length region.base region.size)
  subWord address region.base

/-- The offset at which `write` copies its bytes, which have to fit into the mapping. -/
def copyOffset (region : GuestMemoryRegion) (address : ℕ) (source : List UInt8) :
    OptionT (Except GuestMemoryError) ℕ := do
  let offset ← checkedOffset region address source.length
  if source.isEmpty then return offset
  else orPanic (offset + source.length ≤ region.size) offset

/-- A program on guest memory that returns an error, or panics. -/
abbrev Loading : Type → Type := OptionT (EStateM GuestMemoryError GuestMemory)

/-- `GuestMemory::write` (`src/memory.rs`, lines 153-167). -/
def write (address : ℕ) (source : List UInt8) : Loading Unit := do
  let offset ← OptionT.mk (reads fun mem => (copyOffset mem.region address source).run)
  if source.isEmpty then return ()
  else modify fun mem => { mem with mapping := mem.mapping.write offset source }

/-- The body of the loop of `load`. -/
def loadSegment (bytes : List UInt8) (segment : Elf64LoadSegment) : Loading Unit := do
  let fileEnd ← addWord segment.fileOffset segment.fileSize
  write segment.physicalAddress (← sliced bytes segment.fileOffset fileEnd)
  if segment.fileSize < segment.memorySize then
    let zeroLength ← subWord segment.memorySize segment.fileSize
    let zeroAddress ← addWord segment.physicalAddress segment.fileSize
    write zeroAddress (List.replicate zeroLength 0)
  else
    return ()

/-- `Elf64GuestImage::load` (lines 455-471). -/
def load (image : Elf64GuestImage) : Loading Unit := image.segments.forM (loadSegment image.bytes)

section Loader

variable {region : GuestMemoryRegion} {bytes source : List UInt8} {address length : ℕ}

theorem runsAs_checkedOffset :
    RunsAs (checkedOffset region address length) (region.checkedOffset address length) := by
  refine RunsAs.guard fun _ => (RunsAs.addWord region.end_lt).value (RunsAs.guard fun hin => ?_)
  exact RunsAs.subWord (by omega)

theorem runsAs_copyOffset :
    RunsAs (copyOffset region address source) (region.checkedOffset address source.length) := by
  rw [← bind_pure (region.checkedOffset address source.length)]
  refine runsAs_checkedOffset.bind_of_ok fun offset hoffset => ?_
  obtain ⟨⟨hbase, hend⟩, rfl⟩ := GuestMemoryRegion.checkedOffset_eq_ok.mp hoffset
  split_ifs
  · exact RunsAs.pure _
  · refine RunsAs.orPanic ?_
    unfold GuestMemoryRegion.endAddr at hend
    omega

theorem runsAs_write : RunsAs (write address source) (GuestMemory.write address source) := by
  refine (RunsAs.reads fun mem => runsAs_copyOffset).bind fun offset => ?_
  exact RunsAs.ite (fun _ => RunsAs.pure ()) fun _ => RunsAs.lift _

theorem runsAs_loadSegment (hlen : bytes.length < 2 ^ 64) {s : Elf64LoadSegment}
    (hs : s.Placed bytes.length) :
    RunsAs (loadSegment bytes s) (Loader.loadSegment bytes s) := by
  have hrange := hs.file_range
  have hfile := hs.file_le
  have hends := ends_lt hs
  refine (RunsAs.addWord (by omega)).value ((RunsAs.sliced (by omega) hrange).value ?_)
  rw [Nat.add_sub_cancel_left]
  refine runsAs_write.bind fun _ => RunsAs.ite (fun _ => ?_) fun _ => RunsAs.pure ()
  exact (RunsAs.subWord hfile).value ((RunsAs.addWord (by omega)).value runsAs_write)

/-- **Loading an accepted image does not panic**, whatever the memory is. -/
theorem runsAs_load (hlen : bytes.length < 2 ^ 64) {image : Elf64GuestImage}
    (h : image.Parsed bytes) : RunsAs (load image) image.load := by
  refine RunsAs.forM fun s hs => ?_
  rw [h.bytes_eq]
  exact runsAs_loadSegment hlen (h.placed s hs)

end Loader

end Checked

/-! ### When loading fails -/

theorem run_loadSegment_of_contains {bytes : List UInt8} {s : Elf64LoadSegment} {mem : GuestMemory}
    (hs : s.Placed bytes.length)
    (hin : mem.region.Contains s.physicalAddress s.memorySize) :
    ∃ mem', (loadSegment bytes s).run mem = .ok () mem' ∧ mem'.region = mem.region := by
  have hfile := hs.file_le
  obtain ⟨hbase, hend⟩ := hin
  let file := (bytes.drop s.fileOffset).take s.fileSize
  have hlength : file.length = s.fileSize := by
    have hrange := hs.file_range
    simp only [file, List.length_take, List.length_drop]
    omega
  let first := mem.overwrite s.physicalAddress file
  have hfirst : (GuestMemory.write s.physicalAddress file).run mem = .ok () first :=
    GuestMemory.run_write_of_contains ⟨hbase, by omega⟩
  by_cases htail : s.fileSize < s.memorySize
  · let zeros := List.replicate (s.memorySize - s.fileSize) (0 : UInt8)
    have hzeros : zeros.length = s.memorySize - s.fileSize := List.length_replicate
    have hinside : first.region.Contains (s.physicalAddress + s.fileSize) zeros.length := by
      refine ⟨hbase.trans (Nat.le_add_right _ _), ?_⟩
      rw [hzeros, GuestMemory.region_overwrite]
      omega
    have hsecond : (GuestMemory.write (s.physicalAddress + s.fileSize) zeros).run first =
        .ok () (first.overwrite (s.physicalAddress + s.fileSize) zeros) :=
      GuestMemory.run_write_of_contains hinside
    refine ⟨first.overwrite (s.physicalAddress + s.fileSize) zeros, ?_, rfl⟩
    rw [loadSegment, run_bind_of_ok hfirst, if_pos htail]
    exact hsecond
  · refine ⟨first, ?_, rfl⟩
    rw [loadSegment, run_bind_of_ok hfirst, if_neg htail]
    rfl

namespace Elf64GuestImage

variable {bytes : List UInt8} {image : Elf64GuestImage} {mem : GuestMemory}

theorem Parsed.run_load_of_contains (h : image.Parsed bytes)
    (hin : ∀ s ∈ image.segments, mem.region.Contains s.physicalAddress s.memorySize) :
    ∃ mem', image.load.run mem = .ok () mem' := by
  obtain ⟨mem', hrun, -⟩ := run_forM_induction (loadSegment image.bytes)
    (fun _ t => t.region = mem.region) (l := image.segments) (s := mem) rfl (by
      intro done s hs t ht
      rw [h.bytes_eq]
      have hcontains : t.region.Contains s.physicalAddress s.memorySize := by
        rw [ht]
        exact hin s hs
      obtain ⟨t', hrun, ht'⟩ := run_loadSegment_of_contains (h.placed s hs) hcontains
      exact ⟨t', hrun, ht'.trans ht⟩)
  exact ⟨mem', hrun⟩

/-- **The loader cannot be crashed.** For every file, parsing it does not panic.  For every
accepted image and every guest memory, loading does not panic, and it fails only if the physical
range of some segment is not inside the region. -/
theorem loader_never_panics (bytes : List UInt8) (hlen : bytes.length < 2 ^ 64) :
    RunsAs (Checked.parse bytes) (parse bytes) ∧
      ∀ image, parse bytes = .ok image →
        RunsAs (Checked.load image) image.load ∧
          ∀ mem e mem', image.load.run mem = .error e mem' →
            ∃ s ∈ image.segments, ¬ mem.region.Contains s.physicalAddress s.memorySize := by
  refine ⟨Checked.runsAs_parse hlen, fun image hparse => ?_⟩
  have hp := parse_spec hparse
  refine ⟨Checked.runsAs_load hlen hp, fun mem e mem' hfail => ?_⟩
  by_contra hnone
  push Not at hnone
  obtain ⟨mem'', hrun⟩ := hp.run_load_of_contains hnone
  rw [hrun] at hfail
  cases hfail

/-- A file of one byte is refused and `oneSegmentFile` is loaded, both without a panic. -/
theorem loader_never_panics_examples :
    RunsAs (Checked.parse [0x7f]) (.error (.fileTooSmall 1)) ∧
      RunsAs (Checked.load oneSegmentImage) oneSegmentImage.load :=
  ⟨(loader_never_panics [0x7f] (by decide)).1,
    ((loader_never_panics oneSegmentFile (by decide +kernel)).2 _ parse_oneSegmentFile).1⟩

end Elf64GuestImage

end MiniHypervisor.Loader
