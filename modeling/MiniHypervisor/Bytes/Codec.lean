import MiniHypervisor.Bytes.Envelope

/-!
# Codecs of nested containers

A codec writes values as byte strings and reads them back; both directions may fail.  The codecs of
nested containers are put together from the codecs of their parts, and a string that a container
accepts is written back as it was as soon as its parts are.

## Main definitions

* `Codec` : a pair of an encoder and a decoder.
* `Codec.Canonical` : what is read from a string is written as that string.
* `Codec.append` : two parts, the first of a fixed length.
* `Frame.codec` : the container of a frame whose description follows from its last part.
* `Frame.twoPart` : a frame whose description is the length of its second part.

## Main results

* `Frame.codec_encode_eq_ok`, `Frame.codec_decode_eq_ok` : what a container writes and accepts.
* `Frame.codec_canonical` : a container is canonical where its parts are.
-/

namespace MiniHypervisor.Bytes

open Control

variable {ε ε' α β δ : Type}

/-- An encoder and a decoder. -/
structure Codec (ε α : Type) where
  encode : α → Except ε (List UInt8)
  decode : List UInt8 → Except ε α

namespace Codec

/-- The codec with its errors wrapped. -/
def mapError (c : Codec ε α) (f : ε → ε') : Codec ε' α where
  encode := fun a => (c.encode a).mapError f
  decode := fun bytes => (c.decode bytes).mapError f

/-- The codec of a part of length `n` and another part after it. -/
def append (n : ℕ) (c : Codec ε α) (c' : Codec ε β) : Codec ε (α × β) where
  encode := fun ab => do
    let first ← c.encode ab.1
    let second ← c'.encode ab.2
    return first ++ second
  decode := fun bytes => do
    let a ← c.decode (bytes.take n)
    let b ← c'.decode (bytes.drop n)
    return (a, b)

/-- What is read from the string is written as that string. -/
def Canonical (c : Codec ε α) (bytes : List UInt8) : Prop :=
  ∀ a, c.decode bytes = .ok a → c.encode a = .ok bytes

variable {c : Codec ε α} {c' : Codec ε β} {bytes : List UInt8}

theorem canonical_mk {encode : α → Except ε (List UInt8)} {decode : List UInt8 → Except ε α} {a : α}
    (hdecode : decode bytes = .ok a) (hencode : encode a = .ok bytes) :
    (⟨encode, decode⟩ : Codec ε α).Canonical bytes := by
  intro b hb
  obtain rfl := Except.ok.inj (hdecode.symm.trans hb)
  exact hencode

theorem mapError_decode_eq_ok {f : ε → ε'} {a : α} :
    (c.mapError f).decode bytes = .ok a ↔ c.decode bytes = .ok a :=
  mapError_eq_ok

theorem canonical_mapError_iff {f : ε → ε'} :
    (c.mapError f).Canonical bytes ↔ c.Canonical bytes := by
  simp only [Canonical, mapError, mapError_eq_ok]

theorem append_encode_eq_ok {n : ℕ} {a : α} {b : β} :
    (append n c c').encode (a, b) = .ok bytes ↔
      ∃ first second, c.encode a = .ok first ∧ c'.encode b = .ok second ∧
        bytes = first ++ second := by
  simp only [append, bind_eq_ok, pure, Except.pure, Except.ok.injEq]
  constructor
  · rintro ⟨first, hfirst, second, hsecond, rfl⟩
    exact ⟨first, second, hfirst, hsecond, rfl⟩
  · rintro ⟨first, second, hfirst, hsecond, rfl⟩
    exact ⟨first, hfirst, second, hsecond, rfl⟩

theorem append_decode_eq_ok {n : ℕ} {a : α} {b : β} :
    (append n c c').decode bytes = .ok (a, b) ↔
      c.decode (bytes.take n) = .ok a ∧ c'.decode (bytes.drop n) = .ok b := by
  simp only [append, bind_eq_ok, pure, Except.pure, Except.ok.injEq, Prod.mk.injEq]
  constructor
  · rintro ⟨_, ha, _, hb, rfl, rfl⟩
    exact ⟨ha, hb⟩
  · rintro ⟨ha, hb⟩
    exact ⟨a, ha, b, hb, rfl, rfl⟩

theorem canonical_append {n : ℕ} (h : c.Canonical (bytes.take n))
    (h' : c'.Canonical (bytes.drop n)) : (append n c c').Canonical bytes := by
  rintro ⟨a, b⟩ hdecode
  obtain ⟨ha, hb⟩ := append_decode_eq_ok.mp hdecode
  exact append_encode_eq_ok.mpr
    ⟨_, _, h a ha, h' b hb, (List.take_append_drop n bytes).symm⟩

end Codec

namespace Frame

/-- The container of a frame, when the description follows from the last part. -/
def codec (frame : Frame ε δ) (describe : List UInt8 → δ) (c : Codec ε α) (c' : Codec ε β) :
    Codec ε (α × β) where
  encode := fun ab => do
    let first ← c.encode ab.1
    let rest ← c'.encode ab.2
    frame.join (describe rest) first [rest]
  decode := fun bytes => do
    let ⟨_, first, rest⟩ ← frame.split bytes
    let a ← c.decode first
    let b ← c'.decode rest
    return (a, b)

/-- The last parts that a frame holds, and their descriptions. -/
structure Fits (frame : Frame ε δ) (describe : List UInt8 → δ) (rest : List UInt8) : Prop where
  valid : frame.Valid (describe rest)
  length : rest.length = (frame.restLens (describe rest)).sum

variable {frame : Frame ε δ} {describe : List UInt8 → δ} {c : Codec ε α} {c' : Codec ε β}
  {bytes : List UInt8} {a : α} {b : β}

theorem codec_encode_eq_ok :
    (frame.codec describe c c').encode (a, b) = .ok bytes ↔
      ∃ first rest, c.encode a = .ok first ∧ c'.encode b = .ok rest ∧
        frame.envelope.headerLen + first.length + rest.length < 2 ^ 64 ∧
        bytes = frame.assemble (describe rest) first rest := by
  simp only [codec, bind_eq_ok, join_eq_ok, List.flatten_cons, List.flatten_nil, List.append_nil]
  constructor
  · rintro ⟨first, hfirst, rest, hrest, hlt, rfl⟩
    exact ⟨first, rest, hfirst, hrest, hlt, rfl⟩
  · rintro ⟨first, rest, hfirst, hrest, hlt, rfl⟩
    exact ⟨first, hfirst, rest, hrest, hlt, rfl⟩

theorem firstPart_assemble {first rest : List UInt8} (hne : first ≠ [])
    (hfits : frame.Fits describe rest)
    (hlt : frame.envelope.headerLen + first.length + rest.length < 2 ^ 64) :
    frame.firstPart (frame.assemble (describe rest) first rest) = first :=
  (parts_of_split (split_eq_ok.mpr ⟨hne, hfits.valid, hfits.length, hlt, rfl⟩)).2.1

theorem assemble_ne_nil {d : δ} {first rest : List UInt8} (hne : first ≠ []) :
    frame.assemble d first rest ≠ [] := by
  rw [← List.length_pos_iff, length_assemble]
  have hpos := List.length_pos_iff.mpr hne
  omega

/-- The parts of an accepted string stand at its end. -/
theorem exists_append_of_codec_decode (h : (frame.codec describe c c').decode bytes = .ok (a, b)) :
    ∃ header first rest, c.decode first = .ok a ∧ c'.decode rest = .ok b ∧
      bytes = header ++ (first ++ rest) := by
  simp only [codec, bind_eq_ok, Prod.exists, pure, Except.pure, Except.ok.injEq,
    Prod.mk.injEq] at h
  obtain ⟨d, first, rest, hsplit, _, hfirst, _, hrest, rfl, rfl⟩ := h
  obtain ⟨-, -, -, -, rfl⟩ := split_eq_ok.mp hsplit
  obtain ⟨header, hheader⟩ := exists_assemble_eq_append frame d first rest
  exact ⟨header, first, rest, hfirst, hrest, hheader⟩

section Described

variable (hdescribe : ∀ d rest, frame.Valid d → rest.length = (frame.restLens d).sum →
  d = describe rest)
include hdescribe

theorem codec_decode_eq_ok :
    (frame.codec describe c c').decode bytes = .ok (a, b) ↔
      ∃ first rest, c.decode first = .ok a ∧ c'.decode rest = .ok b ∧ first ≠ [] ∧
        frame.Fits describe rest ∧
        frame.envelope.headerLen + first.length + rest.length < 2 ^ 64 ∧
        bytes = frame.assemble (describe rest) first rest := by
  simp only [codec, bind_eq_ok, Prod.exists, pure, Except.pure, Except.ok.injEq, Prod.mk.injEq]
  constructor
  · rintro ⟨d, first, rest, hsplit, _, hfirst, _, hrest, rfl, rfl⟩
    obtain ⟨hne, hvalid, hlength, hlt, rfl⟩ := split_eq_ok.mp hsplit
    obtain rfl := hdescribe d rest hvalid hlength
    exact ⟨first, rest, hfirst, hrest, hne, ⟨hvalid, hlength⟩, hlt, rfl⟩
  · rintro ⟨first, rest, hfirst, hrest, hne, ⟨hvalid, hlength⟩, hlt, rfl⟩
    exact ⟨_, first, rest, split_eq_ok.mpr ⟨hne, hvalid, hlength, hlt, rfl⟩, a, hfirst, b, hrest,
      rfl, rfl⟩

/-- A container is canonical where its first part is, when its last part always is. -/
theorem codec_canonical (h : c.Canonical (frame.firstPart bytes))
    (h' : ∀ rest, frame.Fits describe rest → c'.Canonical rest) :
    (frame.codec describe c c').Canonical bytes := by
  rintro ⟨a, b⟩ hdecode
  obtain ⟨first, rest, hfirst, hrest, hne, hfits, hlt, rfl⟩ :=
    (codec_decode_eq_ok hdescribe).mp hdecode
  rw [firstPart_assemble hne hfits hlt] at h
  exact codec_encode_eq_ok.mpr ⟨first, rest, h a hfirst, h' rest hfits b hrest, hlt, rfl⟩

end Described

/-! ### Two parts -/

/-- The errors that the checks of a frame of two parts report. -/
structure TwoPartErrors (ε : Type) where
  opening : EnvelopeErrors ε
  invalidFirstLength : UInt64 → ε
  invalidSecondLength : UInt64 → ε
  nonZeroFlags : UInt32 → ε
  nonZeroReserved : UInt32 → ε
  lengthOverflow : ε

/-- A frame whose header holds the lengths of two parts, flags and a reserved word, where `Accepts`
says which lengths the second part may have. -/
def twoPart (envelope : Envelope) (hheader : envelope.headerLen = 48) (errors : TwoPartErrors ε)
    (Accepts : UInt64 → Prop) [DecidablePred Accepts] : Frame ε UInt64 where
  envelope := envelope
  errors := errors.opening
  invalidFirstLength := errors.invalidFirstLength
  lengthOverflow := errors.lengthOverflow
  read := fun bytes => u64At bytes 32
  checkBefore := fun bytes => do
    rejectIf (u32At bytes 40 ≠ 0) (errors.nonZeroFlags (u32At bytes 40))
    rejectIf (u32At bytes 44 ≠ 0) (errors.nonZeroReserved (u32At bytes 44))
  checkAfter := fun bytes =>
    rejectIf (¬ Accepts (u64At bytes 32)) (errors.invalidSecondLength (u64At bytes 32))
  words := fun d => u64Bytes d ++ (u32Bytes 0 ++ u32Bytes 0)
  Valid := Accepts
  restLens := fun d => [d.toNat]
  length_words := fun _ => by simp [hheader]
  words_iff := fun bytes d h => by
    rw [hheader] at h
    iterate 2 rw [slice_eq_append_iff (by simp) (by simp; omega)]
    simp only [length_u64Bytes, length_u32Bytes, Nat.reduceAdd, rejectIf_bind_eq_ok,
      rejectIf_eq_ok, not_not]
    rw [slice_eq_u64Bytes_iff (by omega), slice_eq_u32Bytes_iff (by omega),
      slice_eq_u32Bytes_iff (by omega)]
    constructor
    · rintro ⟨hwords, haccepts, rfl⟩
      exact ⟨haccepts, rfl, hwords⟩
    · rintro ⟨haccepts, rfl, hwords⟩
      exact ⟨hwords, haccepts, rfl⟩

/-- The description of a frame of two parts. -/
def lengthWord (rest : List UInt8) : UInt64 := UInt64.ofNat rest.length

theorem twoPart_describe {envelope : Envelope} {hheader : envelope.headerLen = 48}
    {errors : TwoPartErrors ε} {Accepts : UInt64 → Prop} [DecidablePred Accepts] :
    ∀ d rest, (twoPart envelope hheader errors Accepts).Valid d →
      rest.length = ((twoPart envelope hheader errors Accepts).restLens d).sum →
      d = lengthWord rest := by
  intro d rest _ hlength
  have hlen : rest.length = d.toNat := hlength
  rw [lengthWord, hlen, UInt64.ofNat_toNat]

/-- The string of two parts that are accepted is accepted, and its first part is the first. -/
theorem twoPart_decode_assemble {envelope : Envelope} {hheader : envelope.headerLen = 48}
    {errors : TwoPartErrors ε} {Accepts : UInt64 → Prop} [DecidablePred Accepts]
    {first rest : List UInt8} (hne : first ≠ []) (hfirst : c.decode first = .ok a)
    (hrest : c'.decode rest = .ok b) (haccepts : Accepts (lengthWord rest))
    (hlt : 48 + first.length + rest.length < 2 ^ 64) :
    ((twoPart envelope hheader errors Accepts).codec lengthWord c c').decode
        ((twoPart envelope hheader errors Accepts).assemble (lengthWord rest) first rest) =
          .ok (a, b) ∧
      (twoPart envelope hheader errors Accepts).firstPart
        ((twoPart envelope hheader errors Accepts).assemble (lengthWord rest) first rest) =
          first := by
  have hfits : (twoPart envelope hheader errors Accepts).Fits lengthWord rest := by
    refine ⟨haccepts, ?_⟩
    change rest.length = (UInt64.ofNat rest.length).toNat + 0
    rw [UInt64.toNat_ofNat_of_lt' (show rest.length < 2 ^ 64 by omega), Nat.add_zero]
  have hsize : envelope.headerLen + first.length + rest.length < 2 ^ 64 := by rwa [hheader]
  exact ⟨(codec_decode_eq_ok twoPart_describe).mpr
    ⟨first, rest, hfirst, hrest, hne, hfits, hsize, rfl⟩, firstPart_assemble hne hfits hsize⟩

end Frame

end MiniHypervisor.Bytes
