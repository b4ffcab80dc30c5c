import MiniHypervisor.Bytes.Slices
import MiniHypervisor.Control.Outcome

/-!
# Envelopes of versioned containers

A versioned container opens with a magic number, a version, an architecture identifier, the length
of its header and its total length.  The words of the rest of the header depend on the format.  The
formats here are read at fixed offsets; what a reader accepts is described by the parts that the
string consists of.

## Main definitions

* `Envelope` : the constants that a container opens with.
* `Envelope.check` : the checks of the opening, in the order in which readers make them.
* `Frame` : a container whose header describes its parts, with `split` and `join`.

## Main results

* `Envelope.check_and_tiles_iff` : the strings whose opening is accepted.
* `Frame.split_eq_ok`, `Frame.join_eq_ok` : the strings that are taken apart and put together.
-/

namespace MiniHypervisor.Bytes

open Control

variable {ε : Type}

/-! ### The opening -/

/-- The constants that a container opens with.  After the magic come its version, architecture,
header length and total length, in 16 bytes. -/
structure Envelope where
  magic : List UInt8
  version : UInt16
  architecture : UInt16
  headerLen : ℕ
  magic_length : magic.length = 8
  opening_le : magic.length + 16 ≤ headerLen

/-- The errors that the checks of an opening report. -/
structure EnvelopeErrors (ε : Type) where
  invalidMagic : ε
  unsupportedVersion : UInt16 → ε
  unsupportedArchitecture : UInt16 → ε
  invalidHeaderLength : UInt32 → ε
  invalidTotalLength : UInt64 → ℕ → ε

namespace Envelope

variable (envelope : Envelope) (errors : EnvelopeErrors ε)

theorem headerLen_ge : 24 ≤ envelope.headerLen := by
  have hopening := envelope.opening_le
  rwa [envelope.magic_length] at hopening

/-- The checks of the opening. -/
def check (bytes : List UInt8) : Except ε Unit := do
  rejectIf (bytes.length < envelope.headerLen) (errors.invalidTotalLength 0 bytes.length)
  rejectIf (slice bytes 0 8 ≠ envelope.magic) errors.invalidMagic
  rejectIf (u16At bytes 8 ≠ envelope.version) (errors.unsupportedVersion (u16At bytes 8))
  rejectIf (u16At bytes 10 ≠ envelope.architecture)
    (errors.unsupportedArchitecture (u16At bytes 10))
  rejectIf (u32At bytes 12 ≠ UInt32.ofNat envelope.headerLen)
    (errors.invalidHeaderLength (u32At bytes 12))
  rejectIf ((u64At bytes 16).toNat ≠ bytes.length)
    (errors.invalidTotalLength (u64At bytes 16) bytes.length)

/-- The opening of a container of the given total length. -/
def opening (total : ℕ) : List (List UInt8) :=
  [envelope.magic, u16Bytes envelope.version, u16Bytes envelope.architecture,
    u32Bytes (UInt32.ofNat envelope.headerLen), u64Bytes (UInt64.ofNat total)]

variable {envelope errors} {bytes : List UInt8}

theorem tiles_opening_append {total : ℕ} {parts : List (List UInt8)}
    (h : 24 ≤ bytes.length) :
    Tiles bytes 0 (envelope.opening total ++ parts) ↔
      (slice bytes 0 8 = envelope.magic ∧ u16At bytes 8 = envelope.version ∧
        u16At bytes 10 = envelope.architecture ∧
        u32At bytes 12 = UInt32.ofNat envelope.headerLen ∧
        u64At bytes 16 = UInt64.ofNat total) ∧ Tiles bytes 24 parts := by
  simp only [opening, List.cons_append, List.nil_append, Tiles, envelope.magic_length,
    length_u16Bytes, length_u32Bytes, length_u64Bytes, Nat.zero_add, Nat.reduceAdd, and_assoc]
  rw [slice_eq_u16Bytes_iff (by omega), slice_eq_u16Bytes_iff (by omega),
    slice_eq_u32Bytes_iff (by omega), slice_eq_u64Bytes_iff (by omega)]

/-- The opening is accepted and the given parts follow it exactly when the string is long enough and
consists of the opening for its own length and the parts. -/
theorem check_and_tiles_iff {parts : List (List UInt8)} :
    envelope.check errors bytes = .ok () ∧ Tiles bytes 24 parts ↔
      envelope.headerLen ≤ bytes.length ∧ bytes.length < 2 ^ 64 ∧
        bytes = (envelope.opening bytes.length ++ parts).flatten := by
  rw [← tiles_iff]
  simp only [check, rejectIf_bind_eq_ok, rejectIf_eq_ok, not_lt, not_not]
  constructor
  · rintro ⟨⟨hlen, hmagic, hversion, harch, hheader, htotal⟩, hparts⟩
    refine ⟨hlen, htotal ▸ (u64At bytes 16).toNat_lt, ?_⟩
    rw [tiles_opening_append (envelope.headerLen_ge.trans hlen)]
    refine ⟨⟨hmagic, hversion, harch, hheader, ?_⟩, hparts⟩
    rw [← htotal, UInt64.ofNat_toNat]
  · rintro ⟨hlen, hlt, htiles⟩
    rw [tiles_opening_append (envelope.headerLen_ge.trans hlen)] at htiles
    obtain ⟨⟨hmagic, hversion, harch, hheader, htotal⟩, hparts⟩ := htiles
    refine ⟨⟨hlen, hmagic, hversion, harch, hheader, ?_⟩, hparts⟩
    rw [htotal, UInt64.toNat_ofNat_of_lt' hlt]

theorem length_flatten_opening (total : ℕ) : (envelope.opening total).flatten.length = 24 := by
  simp [opening, envelope.magic_length]

theorem le_length_of_check (h : envelope.check errors bytes = .ok ()) :
    envelope.headerLen ≤ bytes.length :=
  not_lt.mp (rejectIf_bind_eq_ok.mp h).1

end Envelope

/-! ### Frames -/

/-- A container whose header holds the length of its first part, and words that describe what comes
after the first part.  Some of these words are checked before the length and some after it; together
the checks accept the words of the valid descriptions. -/
structure Frame (ε δ : Type) where
  envelope : Envelope
  errors : EnvelopeErrors ε
  invalidFirstLength : UInt64 → ε
  lengthOverflow : ε
  /-- The description in the header of a string. -/
  read : List UInt8 → δ
  checkBefore : List UInt8 → Except ε Unit
  checkAfter : List UInt8 → Except ε Unit
  /-- The words of a description. -/
  words : δ → List UInt8
  Valid : δ → Prop
  /-- The lengths of the parts after the first. -/
  restLens : δ → List ℕ
  length_words : ∀ d, 32 + (words d).length = envelope.headerLen
  words_iff : ∀ bytes d, envelope.headerLen ≤ bytes.length →
    (checkBefore bytes = .ok () ∧ checkAfter bytes = .ok () ∧ read bytes = d ↔
      Valid d ∧ slice bytes 32 (words d).length = words d)

namespace Frame

variable {δ : Type} (frame : Frame ε δ)

/-- The description, the first part and the rest of a string. -/
def split (bytes : List UInt8) : Except ε (δ × List UInt8 × List UInt8) := do
  frame.envelope.check frame.errors bytes
  let firstLen := u64At bytes 24
  frame.checkBefore bytes
  rejectIf (firstLen = 0) (frame.invalidFirstLength 0)
  frame.checkAfter bytes
  let d := frame.read bytes
  let expectedLen ← checkedSum frame.lengthOverflow
    (frame.envelope.headerLen :: firstLen.toNat :: frame.restLens d)
  rejectIf (expectedLen ≠ bytes.length)
    (frame.errors.invalidTotalLength (u64At bytes 16) expectedLen)
  return (d, slice bytes frame.envelope.headerLen firstLen.toNat,
    bytes.drop (frame.envelope.headerLen + firstLen.toNat))

/-- The first part of a string, by the length in its header. -/
def firstPart (bytes : List UInt8) : List UInt8 :=
  slice bytes frame.envelope.headerLen (u64At bytes 24).toNat

/-- The string of a description, a first part and a rest. -/
def assemble (d : δ) (first rest : List UInt8) : List UInt8 :=
  (frame.envelope.opening (frame.envelope.headerLen + first.length + rest.length) ++
    [u64Bytes (UInt64.ofNat first.length), frame.words d, first, rest]).flatten

/-- The string of a description and its parts, unless its length overflows. -/
def join (d : δ) (first : List UInt8) (rest : List (List UInt8)) : Except ε (List UInt8) := do
  let _ ← checkedSum frame.lengthOverflow
    (frame.envelope.headerLen :: first.length :: rest.map List.length)
  return frame.assemble d first rest.flatten

variable {frame} {bytes first rest : List UInt8} {d : δ}

theorem join_eq_ok {parts : List (List UInt8)} :
    frame.join d first parts = .ok bytes ↔
      frame.envelope.headerLen + first.length + parts.flatten.length < 2 ^ 64 ∧
        bytes = frame.assemble d first parts.flatten := by
  simp only [join, bind_eq_ok, checkedSum_eq_ok, List.sum_cons, pure, Except.pure,
    Except.ok.injEq, List.length_flatten, Nat.add_assoc]
  constructor
  · rintro ⟨_, ⟨hlt, -⟩, hbytes⟩
    exact ⟨hlt, hbytes.symm⟩
  · rintro ⟨hlt, hbytes⟩
    exact ⟨_, ⟨hlt, rfl⟩, hbytes.symm⟩

theorem length_assemble :
    (frame.assemble d first rest).length =
      frame.envelope.headerLen + first.length + rest.length := by
  rw [assemble, List.flatten_append, List.length_append, Envelope.length_flatten_opening,
    ← frame.length_words d]
  simp only [List.flatten_cons, List.flatten_nil, List.length_append, length_u64Bytes,
    List.length_nil]
  omega

/-- The parts are at the end of the string. -/
theorem exists_assemble_eq_append (frame : Frame ε δ) (d : δ) (first rest : List UInt8) :
    ∃ header, frame.assemble d first rest = header ++ (first ++ rest) := by
  refine ⟨(frame.envelope.opening (frame.envelope.headerLen + first.length +
    rest.length)).flatten ++ (u64Bytes (UInt64.ofNat first.length) ++ frame.words d), ?_⟩
  rw [assemble, List.flatten_append]
  simp only [List.flatten_cons, List.flatten_nil, List.append_nil, List.append_assoc]

/-- The words and parts after the opening. -/
theorem tiles_iff_words (h : frame.envelope.headerLen ≤ bytes.length)
    (hlt : bytes.length < 2 ^ 64) :
    Tiles bytes 24 [u64Bytes (UInt64.ofNat first.length), frame.words d, first, rest] ↔
    bytes.length = frame.envelope.headerLen + first.length + rest.length ∧
      (u64At bytes 24).toNat = first.length ∧
      slice bytes 32 (frame.words d).length = frame.words d ∧
      slice bytes frame.envelope.headerLen first.length = first ∧
      bytes.drop (frame.envelope.headerLen + first.length) = rest := by
  have hwords := frame.length_words d
  simp only [Tiles, length_u64Bytes, Nat.reduceAdd, hwords]
  constructor
  · rintro ⟨hfirst, hwords, hslice, hslice', hlen⟩
    rw [slice_eq_u64Bytes_ofNat_iff (by omega) (by omega)] at hfirst
    exact ⟨hlen, hfirst, hwords, hslice, slice_eq_drop hlen ▸ hslice'⟩
  · rintro ⟨hlen, hfirst, hwords, hslice, hdrop⟩
    rw [slice_eq_u64Bytes_ofNat_iff (by omega) (by omega), slice_eq_drop hlen]
    exact ⟨hfirst, hwords, hslice, hdrop, hlen⟩

/-- A string is split exactly when it is the string of a valid description and its parts. -/
theorem split_eq_ok :
    frame.split bytes = .ok (d, first, rest) ↔
      first ≠ [] ∧ frame.Valid d ∧ rest.length = (frame.restLens d).sum ∧
        frame.envelope.headerLen + first.length + rest.length < 2 ^ 64 ∧
        bytes = frame.assemble d first rest := by
  simp only [split, bind_eq_ok, rejectIf_eq_ok, checkedSum_eq_ok, List.sum_cons, not_not, pure,
    Except.pure, Except.ok.injEq, Prod.mk.injEq]
  constructor
  · rintro ⟨_, hcheck, _, hbefore, _, hfirst, _, hafter, _, ⟨hlt, rfl⟩, _, hlen, hread, hslice,
      hdrop⟩
    have hle := Envelope.le_length_of_check hcheck
    rw [hread] at hlt hlen
    have hfirstLen : (u64At bytes 24).toNat = first.length := by
      rw [← hslice, length_slice (by omega)]
    have hrestLen : rest.length = (frame.restLens d).sum := by
      rw [← hdrop, List.length_drop]
      omega
    rw [hfirstLen] at hslice hdrop
    obtain ⟨hvalid, hwords⟩ := (frame.words_iff bytes d hle).mp ⟨hbefore, hafter, hread⟩
    have hall := Envelope.check_and_tiles_iff.mp ⟨hcheck, (tiles_iff_words hle (by omega)).mpr
      ⟨by omega, hfirstLen, hwords, hslice, hdrop⟩⟩
    refine ⟨?_, hvalid, hrestLen, by omega, ?_⟩
    · rw [← List.length_pos_iff, ← hfirstLen]
      exact Nat.pos_of_ne_zero fun h => hfirst (UInt64.toNat_inj.mp h)
    · rw [assemble, show frame.envelope.headerLen + first.length + rest.length = bytes.length by
        omega]
      exact hall.2.2
  · rintro ⟨hfirst, hvalid, hrestLen, hlt, hbytes⟩
    have hlen : bytes.length = frame.envelope.headerLen + first.length + rest.length := by
      rw [hbytes, length_assemble]
    have hle : frame.envelope.headerLen ≤ bytes.length := by omega
    rw [assemble, ← hlen] at hbytes
    have hall : frame.envelope.check frame.errors bytes = .ok () ∧ Tiles bytes 24 _ :=
      Envelope.check_and_tiles_iff.mpr ⟨hle, by omega, hbytes⟩
    obtain ⟨-, hfirstLen, hwords, hslice, hdrop⟩ := (tiles_iff_words hle (by omega)).mp hall.2
    obtain ⟨hbefore, hafter, hread⟩ := (frame.words_iff bytes d hle).mpr ⟨hvalid, hwords⟩
    rw [hread]
    refine ⟨(), hall.1, (), hbefore, (), ?_, (), hafter, _, ⟨by omega, rfl⟩, (), by omega, rfl,
      by rwa [hfirstLen], by rwa [hfirstLen]⟩
    intro hzero
    rw [hzero] at hfirstLen
    exact hfirst (List.length_eq_zero_iff.mp hfirstLen.symm)

theorem parts_of_split (h : frame.split bytes = .ok (d, first, rest)) :
    frame.read bytes = d ∧ frame.firstPart bytes = first ∧
      bytes.drop (frame.envelope.headerLen + (u64At bytes 24).toNat) = rest := by
  simp only [split, bind_eq_ok, pure, Except.pure, Except.ok.injEq, Prod.mk.injEq] at h
  obtain ⟨_, -, _, -, _, -, _, -, _, -, _, -, hread, hfirst, hrest⟩ := h
  exact ⟨hread, hfirst, hrest⟩

end Frame

end MiniHypervisor.Bytes
