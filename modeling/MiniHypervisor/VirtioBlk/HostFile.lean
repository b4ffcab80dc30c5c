import Mathlib.Logic.Function.Basic
import MiniHypervisor.Control.Triples
import MiniHypervisor.VirtioBlk.Queue

/-!
# Disks in files of the host

A device can keep its disk in a file of the host (`src/pci/virtio_blk_file_backed.rs`): the file is
created with the initial disk or opened with the disk it holds, and every write request is stored in
it.  The files of the host are modelled by what reads of a file return and by what survives a crash.
`write_all` changes the first, at the position of the file that is open, and `sync_all` makes it the
second.  Each operation may fail.  An operation that fails changes nothing; for `sync_all` this
means that the bytes written before stay in the file without being durable.
-/

namespace MiniHypervisor.VirtioBlk

open Bytes Control Memory

/-! ### Files of the host -/

/-- A file: what a read returns, and what survives a crash. -/
@[ext] structure ImageFile where
  content : List UInt8
  durable : List UInt8
  deriving DecidableEq, Repr

/-- The operations on files that can fail. -/
inductive FileOp where
  | create
  | openReadWrite
  | metadata
  | readExact
  | seek
  | writeAll
  | syncAll
  deriving DecidableEq, Repr

/-- The host: its files, the position in the file that is open, and the operations that fail, with
their causes. -/
@[ext] structure Host where
  file : String → Option ImageFile
  position : ℕ
  failing : FileOp → Option String

/-- The content after a write at a position; a gap before it is filled with zeros. -/
def writeAt (content : List UInt8) (position : ℕ) (bytes : List UInt8) : List UInt8 :=
  content.take position ++ (List.replicate (position - content.length) 0 ++
    (bytes ++ content.drop (position + bytes.length)))

theorem writeAt_eq_splice {n start : ℕ} {b : FixedBytes n} {bytes : List UInt8}
    (h : start + bytes.length ≤ n) : writeAt b.1 start bytes = (b.splice start bytes).1 := by
  have hgap : start - b.1.length = 0 := by
    rw [b.2]
    omega
  rw [writeAt, hgap, FixedBytes.val_splice h, List.replicate_zero, List.nil_append]

namespace Host

/-- Fails when the operation does. -/
def attemptOp (op : FileOp) : EStateM String Host Unit :=
  reads fun host => match host.failing op with
    | some cause => .error cause
    | none => .ok ()

/-- The file at a path. -/
def lookup (path : String) : EStateM String Host ImageFile :=
  reads fun host => match host.file path with
    | some file => .ok file
    | none => .error "not found"

/-- The host with another file at a path. -/
def put (host : Host) (path : String) (file : ImageFile) : Host :=
  { host with file := Function.update host.file path (some file) }

/-- `OpenOptions` with `create` and `truncate`: an existing file loses its content, which survives a
crash until the next `sync_all`. -/
def create (path : String) : EStateM String Host String := do
  attemptOp .create
  modify fun host =>
    { host.put path ⟨[], ((host.file path).map ImageFile.durable).getD []⟩ with position := 0 }
  return path

/-- `OpenOptions` for an existing file. -/
def openReadWrite (path : String) : EStateM String Host String := do
  attemptOp .openReadWrite
  let _ ← lookup path
  modify fun host => { host with position := 0 }
  return path

/-- `metadata().len()`. -/
def metadataLen (path : String) : EStateM String Host ℕ := do
  attemptOp .metadata
  let file ← lookup path
  return file.content.length

def readExact (path : String) (length : ℕ) : EStateM String Host (List UInt8) := do
  attemptOp .readExact
  let file ← lookup path
  let position := (← get).position
  if file.content.length < position + length then
    throw "failed to fill whole buffer"
  else
    modify fun host => { host with position := position + length }
    return slice file.content position length

/-- `seek` from the start. -/
def seek (_path : String) (position : ℕ) : EStateM String Host Unit := do
  attemptOp .seek
  modify fun host => { host with position }

def writeAll (path : String) (bytes : List UInt8) : EStateM String Host Unit := do
  attemptOp .writeAll
  let file ← lookup path
  modify fun host =>
    { host.put path { file with content := writeAt file.content host.position bytes } with
      position := host.position + bytes.length }

def syncAll (path : String) : EStateM String Host Unit := do
  attemptOp .syncAll
  let file ← lookup path
  modify fun host => host.put path { file with durable := file.content }

/-- What the operations on one file depend on. -/
def seen (path : String) (host : Host) : Option ImageFile × ℕ × (FileOp → Option String) :=
  (host.file path, host.position, host.failing)

section Triples

variable {path : String} {file : ImageFile} {shown : Option ImageFile} {position : ℕ}
  {failing : FileOp → Option String} {op : FileOp}

theorem seen_eq_iff {host : Host} : seen path host = (shown, position, failing) ↔
    host.file path = shown ∧ host.position = position ∧ host.failing = failing := by
  simp only [seen, Prod.mk.injEq]

theorem yields_attemptOp (h : failing op = none) :
    Yields (seen path) (attemptOp op) (shown, position, failing) () (shown, position, failing) := by
  refine .reads fun host hseen => ?_
  rw [(seen_eq_iff.mp hseen).2.2, h]

theorem aborts_attemptOp (h : failing op ≠ none) :
    Aborts (seen path) (attemptOp op) (shown, position, failing) (shown, position, failing) := by
  obtain ⟨cause, hcause⟩ := Option.ne_none_iff_exists'.mp h
  refine .reads (e := cause) fun host hseen => ?_
  rw [(seen_eq_iff.mp hseen).2.2, hcause]

theorem yields_lookup : Yields (seen path) (lookup path) (some file, position, failing) file
    (some file, position, failing) := by
  refine .reads fun host hseen => ?_
  rw [(seen_eq_iff.mp hseen).1]

theorem yields_create (h : failing .create = none) :
    Yields (seen path) (create path) (shown, position, failing) path
      (some ⟨[], (shown.map ImageFile.durable).getD []⟩, 0, failing) := by
  refine (yields_attemptOp h).bind <| .bind (.modify fun host hseen => ?_) (.pure _ _)
  obtain ⟨hfile, -, hfailing⟩ := seen_eq_iff.mp hseen
  refine seen_eq_iff.mpr ⟨?_, rfl, hfailing⟩
  rw [hfile]
  exact Function.update_self ..

theorem yields_openReadWrite (h : failing .openReadWrite = none) :
    Yields (seen path) (openReadWrite path) (some file, position, failing) path
      (some file, 0, failing) := by
  refine (yields_attemptOp h).bind <| yields_lookup.bind <|
    .bind (.modify fun host hseen => ?_) (.pure _ _)
  obtain ⟨hfile, -, hfailing⟩ := seen_eq_iff.mp hseen
  exact seen_eq_iff.mpr ⟨hfile, rfl, hfailing⟩

theorem yields_metadataLen (h : failing .metadata = none) :
    Yields (seen path) (metadataLen path) (some file, position, failing) file.content.length
      (some file, position, failing) :=
  (yields_attemptOp h).bind <| yields_lookup.bind <| .pure _ _

theorem yields_readExact {length : ℕ} (h : failing .readExact = none)
    (hlength : position + length ≤ file.content.length) :
    Yields (seen path) (readExact path length) (some file, position, failing)
      (slice file.content position length) (some file, position + length, failing) := by
  refine (yields_attemptOp h).bind <| yields_lookup.bind fun host hseen => ?_
  obtain ⟨hfile, hposition, hfailing⟩ := seen_eq_iff.mp hseen
  have hget : (get : EStateM String Host Host).run host = .ok host host := rfl
  rw [run_bind_of_ok hget, hposition, if_neg (by omega)]
  exact ⟨_, rfl, seen_eq_iff.mpr ⟨hfile, rfl, hfailing⟩⟩

theorem yields_seek {target : ℕ} (h : failing .seek = none) :
    Yields (seen path) (seek path target) (shown, position, failing) ()
      (shown, target, failing) := by
  refine (yields_attemptOp h).bind (.modify fun host hseen => ?_)
  obtain ⟨hfile, -, hfailing⟩ := seen_eq_iff.mp hseen
  exact seen_eq_iff.mpr ⟨hfile, rfl, hfailing⟩

theorem yields_writeAll {bytes : List UInt8} (h : failing .writeAll = none) :
    Yields (seen path) (writeAll path bytes) (some file, position, failing) ()
      (some { file with content := writeAt file.content position bytes },
        position + bytes.length, failing) := by
  refine (yields_attemptOp h).bind <| yields_lookup.bind (.modify fun host hseen => ?_)
  obtain ⟨-, hposition, hfailing⟩ := seen_eq_iff.mp hseen
  rw [hposition]
  exact seen_eq_iff.mpr ⟨Function.update_self .., rfl, hfailing⟩

theorem yields_syncAll (h : failing .syncAll = none) :
    Yields (seen path) (syncAll path) (some file, position, failing) ()
      (some { file with durable := file.content }, position, failing) := by
  refine (yields_attemptOp h).bind <| yields_lookup.bind (.modify fun host hseen => ?_)
  obtain ⟨-, hposition, hfailing⟩ := seen_eq_iff.mp hseen
  exact seen_eq_iff.mpr ⟨Function.update_self .., hposition, hfailing⟩

end Triples

end Host

/-- The file operations of the host that a device uses. -/
def hostFiles : HostFiles Host where
  File := String
  openReadWrite := Host.openReadWrite
  seek := Host.seek
  writeAll := Host.writeAll
  syncAll := Host.syncAll

/-! ### Devices with a file -/

/-- A failed file operation, with its cause (`backing_io_error`). -/
structure BackingIoError where
  operation : String
  source : String
  deriving DecidableEq, Repr

/-- A file operation of a constructor. -/
def namedOp {α : Type} (operation : String) (x : EStateM String Host α) :
    EStateM BackingIoError Host α :=
  within id (fun _ host => host) (BackingIoError.mk operation) x

namespace VirtioBlkDevice

/-- `with_backing` (lines 110-119). -/
def withBacking (bar0 : UInt64) (backing : FixedBytes virtioBlkBackingSize)
    (persistentBacking : Option String) : VirtioBlkDevice :=
  { new bar0 with backing, persistentBacking }

/-- `create_file_backed` (lines 64-79). -/
def createFileBacked (bar0 : UInt64) (path : String) :
    EStateM BackingIoError Host VirtioBlkDevice := do
  let file ← namedOp "create virtio-blk file backing" (Host.create path)
  namedOp "initialize virtio-blk file backing" (Host.writeAll file deterministicBacking.1)
  namedOp "sync initial virtio-blk file backing" (Host.syncAll file)
  return withBacking bar0 deterministicBacking (some path)

/-- `open_file_backed` (lines 81-108). -/
def openFileBacked (bar0 : UInt64) (path : String) :
    EStateM BackingIoError Host VirtioBlkDevice := do
  let file ← namedOp "open virtio-blk file backing" (Host.openReadWrite path)
  let length ← namedOp "stat virtio-blk file backing" (Host.metadataLen file)
  if length ≠ virtioBlkBackingSize then
    throw ⟨"validate virtio-blk file backing length", "expected exactly " ++
      toString virtioBlkBackingSize ++ " bytes, got " ++ toString length⟩
  else
    let backing ← namedOp "read virtio-blk file backing"
      (Host.readExact file virtioBlkBackingSize)
    return withBacking bar0 (FixedBytes.at_ backing 0 virtioBlkBackingSize) (some path)

theorem yields_namedOp {α γ : Type} {operation : String} {x : EStateM String Host α} {a : α}
    {view : Host → γ} {v w : γ} (h : Yields view x v a w) :
    Yields view (namedOp operation x) v a w :=
  h.within (fun _ hs => hs) fun _ _ _ ht => ht

section Constructors

variable {path : String} {shown : Option ImageFile} {position : ℕ}
  {failing : FileOp → Option String}

theorem yields_createFileBacked (bar0 : UInt64) (hworks : ∀ op, failing op = none) :
    Yields (Host.seen path) (createFileBacked bar0 path) (shown, position, failing)
      (withBacking bar0 deterministicBacking (some path))
      (some ⟨deterministicBacking.1, deterministicBacking.1⟩, deterministicBacking.1.length,
        failing) := by
  have hinitial : writeAt [] 0 deterministicBacking.1 = deterministicBacking.1 := by
    simp only [writeAt, List.take_nil, List.drop_nil, List.length_nil, List.append_nil,
      List.nil_append, Nat.sub_zero, List.replicate_zero]
  refine (yields_namedOp (Host.yields_create (hworks .create))).bind <|
    (yields_namedOp (Host.yields_writeAll (hworks .writeAll))).bind <| ?_
  rw [hinitial, Nat.zero_add]
  exact (yields_namedOp (Host.yields_syncAll (hworks .syncAll))).bind (.pure _ _)

theorem yields_openFileBacked (bar0 : UInt64) (hworks : ∀ op, failing op = none)
    {file : ImageFile} {backing : FixedBytes virtioBlkBackingSize}
    (hcontent : file.content = backing.1) :
    Yields (Host.seen path) (openFileBacked bar0 path) (some file, position, failing)
      (withBacking bar0 backing (some path)) (some file, virtioBlkBackingSize, failing) := by
  have hlength : file.content.length = virtioBlkBackingSize := hcontent ▸ backing.2
  have hslice : slice file.content 0 virtioBlkBackingSize = backing.1 := by
    rw [hcontent]
    exact List.take_of_length_le backing.2.le
  have hbacking : FixedBytes.at_ backing.1 0 virtioBlkBackingSize = backing := by
    rw [FixedBytes.at_eq_iff (by rw [backing.2, Nat.zero_add]), ← hcontent, hslice, hcontent]
  refine (yields_namedOp (Host.yields_openReadWrite (hworks .openReadWrite))).bind <|
    (yields_namedOp (Host.yields_metadataLen (hworks .metadata))).bind ?_
  rw [if_neg (not_not.mpr hlength)]
  have hread : Yields (Host.seen path) (Host.readExact path virtioBlkBackingSize)
      (some file, 0, failing) (slice file.content 0 virtioBlkBackingSize)
      (some file, 0 + virtioBlkBackingSize, failing) :=
    Host.yields_readExact (hworks .readExact) (by rw [hlength, Nat.zero_add])
  rw [hslice, Nat.zero_add] at hread
  refine (yields_namedOp hread).bind ?_
  rw [hbacking]
  exact .pure _ _

theorem length_of_openFileBacked {bar0 : UInt64} {device : VirtioBlkDevice} {host host' : Host}
    (hworks : ∀ op, host.failing op = none)
    (h : (openFileBacked bar0 path).run host = .ok device host') :
    ∃ file, host.file path = some file ∧ file.content.length = virtioBlkBackingSize := by
  cases hfile : host.file path with
  | none =>
      obtain ⟨_, _, hnamed, -⟩ := run_bind_eq_ok.mp h
      obtain ⟨_, hopen, -⟩ := run_within_eq_ok.mp hnamed
      obtain ⟨_, _, hattempt, hrest⟩ := run_bind_eq_ok.mp hopen
      obtain ⟨_, _, hlookup, -⟩ := run_bind_eq_ok.mp hrest
      have hread := (run_reads_eq_ok.mp hlookup).1
      rw [(run_reads_eq_ok.mp hattempt).2, id_eq, hfile] at hread
      cases hread
  | some file =>
      refine ⟨file, rfl, by_contra fun hlength => ?_⟩
      obtain ⟨host₁, hopen, hseen⟩ := yields_namedOp (Host.yields_openReadWrite
        (hworks .openReadWrite)) host (Host.seen_eq_iff.mpr ⟨hfile, rfl, rfl⟩)
      obtain ⟨host₂, hstat, -⟩ := yields_namedOp (Host.yields_metadataLen (hworks .metadata))
        host₁ hseen
      rw [openFileBacked, run_bind_of_ok hopen, run_bind_of_ok hstat, if_pos hlength] at h
      cases h

end Constructors

end VirtioBlkDevice

/-! ### Storing a range -/

section Persist

variable {path : String} {file : ImageFile} {position : ℕ} {failing : FileOp → Option String}
  {device : VirtioBlkDevice} {memory : GuestMemory}

/-- The device, the guest memory and what the operations on one file depend on. -/
def seenState (path : String) (s : BlkState Host) :
    VirtioBlkDevice × GuestMemory × Option ImageFile × ℕ × (FileOp → Option String) :=
  (s.device, s.memory, s.host.seen path)

theorem yields_onHost {α : Type} {operation : String} {x : EStateM String Host α} {a : α}
    {v w : Option ImageFile × ℕ × (FileOp → Option String)} (h : Yields (Host.seen path) x v a w) :
    Yields (seenState path) (onHost operation x) (device, memory, v) a (device, memory, w) := by
  refine h.within ?_ ?_
  · rintro s ⟨⟩
    rfl
  · rintro s t ⟨⟩ rfl
    rfl

theorem aborts_onHost {α : Type} {operation : String} {x : EStateM String Host α}
    {v w : Option ImageFile × ℕ × (FileOp → Option String)} (h : Aborts (Host.seen path) x v w) :
    Aborts (seenState path) (onHost operation x) (device, memory, v) (device, memory, w) := by
  refine h.within ?_ ?_
  · rintro s ⟨⟩
    rfl
  · rintro s t ⟨⟩ rfl
    rfl

section Operations

variable {start : ℕ} {bytes : List UInt8} (hpath : device.persistentBacking = some path)
  (hrange : start + bytes.length ≤ virtioBlkBackingSize)

include hpath hrange

theorem run_persistBackingRange {s : BlkState Host}
    {v : Option ImageFile × ℕ × (FileOp → Option String)}
    (hs : seenState path s = (device, memory, v)) :
    (persistBackingRange hostFiles start bytes.length bytes).run s = (do
      let opened ← onHost "open virtio-blk file backing for write" (hostFiles.openReadWrite path)
      onHost "seek virtio-blk file backing" (hostFiles.seek opened start)
      onHost "write virtio-blk file backing" (hostFiles.writeAll opened bytes)
      onHost "sync virtio-blk file backing write" (hostFiles.syncAll opened)).run s := by
  have hget : (get : EStateM VirtioBlkProcessError (BlkState Host) (BlkState Host)).run s =
      .ok s s := rfl
  have hdevice : s.device = device := congrArg Prod.fst hs
  rw [persistBackingRange, run_bind_of_ok hget, hdevice, hpath]
  dsimp only
  rw [if_neg (by omega)]

theorem yields_persistBackingRange (hopen : failing .openReadWrite = none)
    (hseek : failing .seek = none) (hwrite : failing .writeAll = none)
    (hsync : failing .syncAll = none) :
    Yields (seenState path) (persistBackingRange hostFiles start bytes.length bytes)
      (device, memory, some file, position, failing) ()
      (device, memory, some ⟨writeAt file.content start bytes, writeAt file.content start bytes⟩,
        start + bytes.length, failing) := by
  intro s hs
  rw [run_persistBackingRange hpath hrange hs]
  exact ((yields_onHost (Host.yields_openReadWrite hopen)).bind <|
    (yields_onHost (Host.yields_seek hseek)).bind <|
    (yields_onHost (Host.yields_writeAll hwrite)).bind <|
    yields_onHost (Host.yields_syncAll hsync)) s hs

theorem aborts_persistBackingRange_of_syncAll (hopen : failing .openReadWrite = none)
    (hseek : failing .seek = none) (hwrite : failing .writeAll = none)
    (hsync : failing .syncAll ≠ none) :
    Aborts (seenState path) (persistBackingRange hostFiles start bytes.length bytes)
      (device, memory, some file, position, failing)
      (device, memory, some { file with content := writeAt file.content start bytes },
        start + bytes.length, failing) := by
  intro s hs
  rw [run_persistBackingRange hpath hrange hs]
  exact ((yields_onHost (Host.yields_openReadWrite hopen)).bind_aborts <|
    (yields_onHost (Host.yields_seek hseek)).bind_aborts <|
    (yields_onHost (Host.yields_writeAll hwrite)).bind_aborts <|
    aborts_onHost (Host.aborts_attemptOp hsync).bind) s hs

theorem aborts_persistBackingRange (hfails : failing .openReadWrite ≠ none ∨
    failing .seek ≠ none ∨ failing .writeAll ≠ none) :
    ∃ position', Aborts (seenState path) (persistBackingRange hostFiles start bytes.length bytes)
      (device, memory, some file, position, failing)
      (device, memory, some file, position', failing) := by
  by_cases hopen : failing .openReadWrite = none
  · by_cases hseek : failing .seek = none
    · have hwrite := (hfails.resolve_left (not_not.mpr hopen)).resolve_left (not_not.mpr hseek)
      refine ⟨start, fun s hs => ?_⟩
      rw [run_persistBackingRange hpath hrange hs]
      exact ((yields_onHost (Host.yields_openReadWrite hopen)).bind_aborts <|
        (yields_onHost (Host.yields_seek hseek)).bind_aborts <|
        (aborts_onHost (Host.aborts_attemptOp hwrite).bind).bind) s hs
    · refine ⟨0, fun s hs => ?_⟩
      rw [run_persistBackingRange hpath hrange hs]
      exact ((yields_onHost (Host.yields_openReadWrite hopen)).bind_aborts <|
        (aborts_onHost (Host.aborts_attemptOp hseek).bind).bind) s hs
  · refine ⟨position, fun s hs => ?_⟩
    rw [run_persistBackingRange hpath hrange hs]
    exact ((aborts_onHost (Host.aborts_attemptOp hopen).bind).bind) s hs

end Operations

end Persist

end MiniHypervisor.VirtioBlk
