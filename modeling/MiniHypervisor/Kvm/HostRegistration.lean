import Mathlib.Data.Set.Lattice
import Mathlib.Order.CompletePartialOrder
import Mathlib.Order.Interval.Set.Disjoint
import MiniHypervisor.Bytes.Slices
import MiniHypervisor.Control.Outcome

/-!
# Host registrations

The descriptors of the doorbell and interrupt line that the host registers for a device, alone
(`src/kvm/host_registration.rs`) and in pairs (`src/kvm/host_registration_pair.rs`), and their
versioned byte formats (`src/kvm/host_registration_schema_v1.rs`,
`src/kvm/host_registration_pair_schema_v1.rs`).  Both formats are records of one length.
-/

namespace MiniHypervisor.Kvm

open Bytes Control

/-! ### Errors of host operations -/

/-- The variants of `HostEnvironmentError` for operations of the VM, of a vCPU and of the host, with
the text of their source. -/
inductive HostEnvironmentError where
  | vmOperation (operation detail : String)
  | vcpuOperation (id : UInt16) (operation detail : String)
  | io (operation detail : String)
  deriving DecidableEq, Repr

/-- `Display` of `HostEnvironmentError`; it leaves out the source. -/
def HostEnvironmentError.text : HostEnvironmentError → String
  | vmOperation operation _ => "KVM VM operation " ++ operation ++ " failed"
  | vcpuOperation id operation _ =>
      "KVM vCPU " ++ toString id.toNat ++ " operation " ++ operation ++ " failed"
  | io operation _ => "host I/O failure during " ++ operation

def hostRegistrationError (operation detail : String) : HostEnvironmentError :=
  .vmOperation operation detail

/-! ### Descriptors -/

/-- The doorbell and interrupt line that a descriptor may name. -/
structure HostRegistrationSpec.Valid (address : UInt64) (length : UInt32) (datamatch : UInt64) :
    Prop where
  width : length = 1 ∨ length = 2 ∨ length = 4 ∨ length = 8
  fits : ¬ (length.toNat * 8 < 64 ∧ 2 ^ (length.toNat * 8) ≤ datamatch.toNat)
  range : address.toNat + length.toNat < 2 ^ 64

structure HostRegistrationSpec where
  doorbellAddress : UInt64
  doorbellLength : UInt32
  doorbellDatamatch : UInt64
  gsi : UInt32
  valid : HostRegistrationSpec.Valid doorbellAddress doorbellLength doorbellDatamatch
  deriving DecidableEq, Repr

namespace HostRegistrationSpec

/-- `HostRegistrationSpec::new` (lines 10-49). -/
def new (address : UInt64) (length : UInt32) (datamatch : UInt64) (gsi : UInt32) :
    Except HostEnvironmentError HostRegistrationSpec :=
  let operation := "validate host registration descriptor"
  if hlength : length = 1 ∨ length = 2 ∨ length = 4 ∨ length = 8 then
    if hdatamatch : length.toNat * 8 < 64 ∧ 2 ^ (length.toNat * 8) ≤ datamatch.toNat then
      .error (hostRegistrationError operation ("ioeventfd datamatch " ++ hexText datamatch.toNat ++
        " does not fit " ++ toString length.toNat ++ " bytes"))
    else if hrange : address.toNat + length.toNat < 2 ^ 64 then
      .ok {
        doorbellAddress := address
        doorbellLength := length
        doorbellDatamatch := datamatch
        gsi
        valid := ⟨hlength, hdatamatch, hrange⟩ }
    else
      .error (hostRegistrationError operation ("ioeventfd doorbell range " ++
        hexText address.toNat ++ "+" ++ hexText length.toNat ++ " overflows"))
  else
    .error (hostRegistrationError operation ("ioeventfd doorbell length " ++
      toString length.toNat ++ " is unsupported; expected 1, 2, 4 or 8"))

variable {address datamatch : UInt64} {length gsi : UInt32} {spec : HostRegistrationSpec}

theorem new_eq_ok :
    new address length datamatch gsi = .ok spec ↔
      spec.doorbellAddress = address ∧ spec.doorbellLength = length ∧
        spec.doorbellDatamatch = datamatch ∧ spec.gsi = gsi := by
  obtain ⟨address', length', datamatch', gsi', hvalid⟩ := spec
  constructor
  · unfold new
    split_ifs
    · nofun
    · rintro ⟨⟩
      exact ⟨rfl, rfl, rfl, rfl⟩
    · nofun
    · nofun
  · rintro ⟨rfl, rfl, rfl, rfl⟩
    simp only [new]
    rw [dif_pos hvalid.width, dif_neg hvalid.fits, dif_pos hvalid.range]

/-- The end of the doorbell range. -/
def doorbellEnd (spec : HostRegistrationSpec) : ℕ :=
  spec.doorbellAddress.toNat + spec.doorbellLength.toNat

theorem doorbellLength_pos (spec : HostRegistrationSpec) : 0 < spec.doorbellLength.toNat := by
  rcases spec.valid.width with h | h | h | h <;> rw [h] <;> decide

/-- The addresses of the doorbell. -/
def doorbellRange (spec : HostRegistrationSpec) : Set ℕ :=
  Set.Ico spec.doorbellAddress.toNat spec.doorbellEnd

theorem disjoint_doorbellRange_iff {a b : HostRegistrationSpec}
    (hle : a.doorbellAddress ≤ b.doorbellAddress) :
    Disjoint a.doorbellRange b.doorbellRange ↔ a.doorbellEnd ≤ b.doorbellAddress.toNat := by
  have hpos := a.doorbellLength_pos
  have hpos' := b.doorbellLength_pos
  rw [UInt64.le_iff_toNat_le] at hle
  rw [doorbellRange, doorbellRange, Set.Ico_disjoint_Ico]
  unfold doorbellEnd
  omega

end HostRegistrationSpec

/-! ### Pairs -/

structure HostRegistrationSpecPair where
  first : HostRegistrationSpec
  second : HostRegistrationSpec
  disjoint : first.doorbellEnd ≤ second.doorbellAddress.toNat
  gsi_ne : first.gsi ≠ second.gsi
  deriving DecidableEq, Repr

namespace HostRegistrationSpecPair

/-- `sort_unstable_by_key` on two descriptors.  Descriptors with one address overlap in either
order. -/
def sortSpecs (specs : HostRegistrationSpec × HostRegistrationSpec) :
    HostRegistrationSpec × HostRegistrationSpec :=
  if specs.2.doorbellAddress < specs.1.doorbellAddress then specs.swap else specs

/-- `HostRegistrationSpecPair::new` (lines 7-37). -/
def new (specs : HostRegistrationSpec × HostRegistrationSpec) :
    Except HostEnvironmentError HostRegistrationSpecPair :=
  let operation := "validate host registration pair"
  let sorted := sortSpecs specs
  if hdisjoint : sorted.1.doorbellEnd ≤ sorted.2.doorbellAddress.toNat then
    if hgsi : sorted.1.gsi = sorted.2.gsi then
      .error (hostRegistrationError operation
        ("host-registration pair reuses GSI " ++ toString sorted.1.gsi.toNat))
    else
      .ok {
        first := sorted.1
        second := sorted.2
        disjoint := hdisjoint
        gsi_ne := hgsi }
  else
    .error (hostRegistrationError operation ("host-registration doorbell ranges overlap: " ++
      hexText sorted.1.doorbellAddress.toNat ++ "+" ++ hexText sorted.1.doorbellLength.toNat ++
      " and " ++ hexText sorted.2.doorbellAddress.toNat ++ "+" ++
      hexText sorted.2.doorbellLength.toNat))

variable (pair : HostRegistrationSpecPair)

def specs : HostRegistrationSpec × HostRegistrationSpec := (pair.first, pair.second)

theorem first_lt_second : pair.first.doorbellAddress < pair.second.doorbellAddress := by
  have hpos := pair.first.doorbellLength_pos
  have hdisjoint := pair.disjoint
  rw [HostRegistrationSpec.doorbellEnd] at hdisjoint
  rw [UInt64.lt_iff_toNat_lt]
  omega

theorem sortSpecs_specs : sortSpecs pair.specs = pair.specs :=
  if_neg (UInt64.lt_asymm pair.first_lt_second)

theorem new_specs : new pair.specs = .ok pair := by
  simp only [new, sortSpecs_specs]
  exact (dif_pos pair.disjoint).trans (dif_neg pair.gsi_ne)

variable {pair} {specs : HostRegistrationSpec × HostRegistrationSpec}

theorem new_eq_ok : new specs = .ok pair ↔ sortSpecs specs = pair.specs := by
  constructor
  · unfold new
    dsimp only
    split_ifs
    · rintro ⟨⟩
    · rintro ⟨⟩
      rfl
    · rintro ⟨⟩
  · intro hsorted
    rw [← new_specs]
    simp only [new, hsorted, sortSpecs_specs]

theorem exists_pair_iff {a b : HostRegistrationSpec} :
    (∃ pair : HostRegistrationSpecPair, (a, b) = pair.specs) ↔
      a.doorbellEnd ≤ b.doorbellAddress.toNat ∧ a.gsi ≠ b.gsi := by
  constructor
  · rintro ⟨pair, heq⟩
    obtain ⟨rfl, rfl⟩ := Prod.mk.inj heq
    exact ⟨pair.disjoint, pair.gsi_ne⟩
  · rintro ⟨hdisjoint, hgsi⟩
    exact ⟨⟨a, b, hdisjoint, hgsi⟩, rfl⟩

/-- Descriptors make a pair exactly when their doorbells and interrupt lines are apart. -/
theorem exists_new_eq_ok_iff (a b : HostRegistrationSpec) :
    (∃ pair, new (a, b) = .ok pair) ↔
      Disjoint a.doorbellRange b.doorbellRange ∧ a.gsi ≠ b.gsi := by
  simp only [new_eq_ok, sortSpecs]
  split_ifs with hlt
  · rw [Prod.swap_prod_mk, exists_pair_iff, disjoint_comm,
      HostRegistrationSpec.disjoint_doorbellRange_iff (UInt64.le_of_lt hlt), ne_comm]
  · rw [exists_pair_iff,
      HostRegistrationSpec.disjoint_doorbellRange_iff (UInt64.not_lt.mp hlt)]

theorem new_swap_eq_ok {a b : HostRegistrationSpec} (h : new (a, b) = .ok pair) :
    new (b, a) = .ok pair := by
  have hlt := pair.first_lt_second
  rw [new_eq_ok, sortSpecs] at h ⊢
  split_ifs at h with hba
  · obtain ⟨rfl, rfl⟩ := Prod.mk.inj h
    exact if_neg (UInt64.lt_asymm hlt)
  · obtain ⟨rfl, rfl⟩ := Prod.mk.inj h
    exact if_pos hlt

end HostRegistrationSpecPair

/-! ### The format of a descriptor -/

inductive VersionedHostRegistrationSpecError where
  | truncated (actual : ℕ)
  | invalidMagic
  | unsupportedVersion (version : UInt16)
  | invalidHeaderLength (length : UInt16)
  | invalidTotalLength (length : UInt32)
  | nonZeroFlags (flags : UInt32)
  | nonZeroReserved (reserved : UInt32)
  | invalidSpec (detail : String)
  deriving DecidableEq, Repr

/-- `VersionedHostRegistrationSpecV1`. -/
@[ext]
structure VersionedHostRegistrationSpecV1 where
  spec : HostRegistrationSpec
  deriving DecidableEq, Repr

def versionedHostRegistrationSpecMagic : List UInt8 :=
  asciiBytes ['M', 'H', 'V', 'H', 'R', 'E', 'G', '\x00']

namespace VersionedHostRegistrationSpecV1

variable (v : VersionedHostRegistrationSpecV1)

/-- The fields of the record. -/
def fields : List (List UInt8) :=
  [versionedHostRegistrationSpecMagic, u16Bytes 1, u16Bytes 48, u32Bytes 48,
    u64Bytes v.spec.doorbellAddress, u32Bytes v.spec.doorbellLength, u32Bytes v.spec.gsi,
    u64Bytes v.spec.doorbellDatamatch, u32Bytes 0, u32Bytes 0]

/-- `VersionedHostRegistrationSpecV1::encode` (lines 80-93). -/
def encode : List UInt8 := v.fields.flatten

/-- `VersionedHostRegistrationSpecV1::decode` (lines 95-151). -/
def decode (bytes : List UInt8) :
    Except VersionedHostRegistrationSpecError VersionedHostRegistrationSpecV1 := do
  rejectIf (bytes.length ≠ 48) (.truncated bytes.length)
  rejectIf (slice bytes 0 8 ≠ versionedHostRegistrationSpecMagic) .invalidMagic
  rejectIf (u16At bytes 8 ≠ 1) (.unsupportedVersion (u16At bytes 8))
  rejectIf (u16At bytes 10 ≠ 48) (.invalidHeaderLength (u16At bytes 10))
  rejectIf (u32At bytes 12 ≠ 48) (.invalidTotalLength (u32At bytes 12))
  rejectIf (u32At bytes 40 ≠ 0) (.nonZeroFlags (u32At bytes 40))
  rejectIf (u32At bytes 44 ≠ 0) (.nonZeroReserved (u32At bytes 44))
  let spec ← (HostRegistrationSpec.new (u64At bytes 16) (u32At bytes 24) (u64At bytes 32)
    (u32At bytes 28)).mapError fun error => .invalidSpec error.text
  return { spec }

variable {v} {bytes : List UInt8}

theorem length_encode : v.encode.length = 48 := by
  simp [encode, fields, versionedHostRegistrationSpecMagic, asciiBytes]

theorem eq_encode_iff (h : bytes.length = 48) :
    bytes = v.encode ↔
      slice bytes 0 8 = versionedHostRegistrationSpecMagic ∧ u16At bytes 8 = 1 ∧
        u16At bytes 10 = 48 ∧ u32At bytes 12 = 48 ∧ u64At bytes 16 = v.spec.doorbellAddress ∧
        u32At bytes 24 = v.spec.doorbellLength ∧ u32At bytes 28 = v.spec.gsi ∧
        u64At bytes 32 = v.spec.doorbellDatamatch ∧ u32At bytes 40 = 0 ∧ u32At bytes 44 = 0 := by
  have hmagic : versionedHostRegistrationSpecMagic.length = 8 := rfl
  rw [encode, ← tiles_iff]
  simp only [fields, Tiles, hmagic, length_u16Bytes, length_u32Bytes, length_u64Bytes,
    Nat.zero_add, Nat.reduceAdd, h, and_true]
  rw [slice_eq_u16Bytes_iff (by omega), slice_eq_u16Bytes_iff (by omega),
    slice_eq_u32Bytes_iff (by omega), slice_eq_u64Bytes_iff (by omega),
    slice_eq_u32Bytes_iff (by omega), slice_eq_u32Bytes_iff (by omega),
    slice_eq_u64Bytes_iff (by omega), slice_eq_u32Bytes_iff (by omega),
    slice_eq_u32Bytes_iff (by omega)]

theorem decode_eq_ok : decode bytes = .ok v ↔ bytes = v.encode := by
  simp only [decode, bind_eq_ok, rejectIf_eq_ok, mapError_eq_ok, not_not, pure, Except.pure,
    Except.ok.injEq, HostRegistrationSpec.new_eq_ok]
  constructor
  · rintro ⟨_, hlen, _, hmagic, _, hversion, _, hheader, _, htotal, _, hflags, _, hreserved, spec,
      ⟨haddress, hlength, hdatamatch, hgsi⟩, rfl⟩
    exact (eq_encode_iff hlen).mpr ⟨hmagic, hversion, hheader, htotal, haddress.symm, hlength.symm,
      hgsi.symm, hdatamatch.symm, hflags, hreserved⟩
  · intro hbytes
    have hlen : bytes.length = 48 := by rw [hbytes, length_encode]
    obtain ⟨hmagic, hversion, hheader, htotal, haddress, hlength, hgsi, hdatamatch, hflags,
      hreserved⟩ := (eq_encode_iff hlen).mp hbytes
    exact ⟨(), hlen, (), hmagic, (), hversion, (), hheader, (), htotal, (), hflags, (), hreserved,
      v.spec, ⟨haddress.symm, hlength.symm, hdatamatch.symm, hgsi.symm⟩, rfl⟩

end VersionedHostRegistrationSpecV1

/-! ### The format of a pair -/

inductive VersionedHostRegistrationPairError where
  | truncated (actual : ℕ)
  | invalidMagic
  | unsupportedVersion (version : UInt16)
  | invalidHeaderLength (length : UInt16)
  | invalidTotalLength (length : UInt32)
  | invalidRegistrationCount (count : UInt16)
  | nonZeroFlags (flags : UInt16)
  | nonZeroReserved (reserved : UInt32)
  | invalidRegistrationLength (index : UInt8) (length : UInt32)
  | registration (index : UInt8) (error : VersionedHostRegistrationSpecError)
  | nonCanonicalOrder
  | invalidPair (detail : String)
  deriving DecidableEq, Repr

/-- `VersionedHostRegistrationPairV1`. -/
@[ext]
structure VersionedHostRegistrationPairV1 where
  pair : HostRegistrationSpecPair
  deriving DecidableEq, Repr

def versionedHostRegistrationPairMagic : List UInt8 :=
  asciiBytes ['M', 'H', 'V', 'H', 'R', '2', '\x00', '\x00']

def versionedHostRegistrationPairLen : ℕ := 32 + 2 * 48

namespace VersionedHostRegistrationPairV1

variable (v : VersionedHostRegistrationPairV1)

/-- The fields of the record for the bytes of its members. -/
def fields (first second : List UInt8) : List (List UInt8) :=
  [versionedHostRegistrationPairMagic, u16Bytes 1, u16Bytes 32, u32Bytes 128, u16Bytes 2,
    u16Bytes 0, u32Bytes 0, u32Bytes 48, u32Bytes 48, first, second]

/-- `VersionedHostRegistrationPairV1::encode` (lines 114-133). -/
def encode : List UInt8 :=
  (fields (VersionedHostRegistrationSpecV1.encode ⟨v.pair.first⟩)
    (VersionedHostRegistrationSpecV1.encode ⟨v.pair.second⟩)).flatten

/-- `VersionedHostRegistrationPairV1::decode` (lines 135-222). -/
def decode (bytes : List UInt8) :
    Except VersionedHostRegistrationPairError VersionedHostRegistrationPairV1 := do
  rejectIf (bytes.length ≠ versionedHostRegistrationPairLen) (.truncated bytes.length)
  rejectIf (slice bytes 0 8 ≠ versionedHostRegistrationPairMagic) .invalidMagic
  rejectIf (u16At bytes 8 ≠ 1) (.unsupportedVersion (u16At bytes 8))
  rejectIf (u16At bytes 10 ≠ 32) (.invalidHeaderLength (u16At bytes 10))
  rejectIf (u32At bytes 12 ≠ 128) (.invalidTotalLength (u32At bytes 12))
  rejectIf (u16At bytes 16 ≠ 2) (.invalidRegistrationCount (u16At bytes 16))
  rejectIf (u16At bytes 18 ≠ 0) (.nonZeroFlags (u16At bytes 18))
  rejectIf (u32At bytes 20 ≠ 0) (.nonZeroReserved (u32At bytes 20))
  rejectIf (u32At bytes 24 ≠ 48) (.invalidRegistrationLength 0 (u32At bytes 24))
  rejectIf (u32At bytes 28 ≠ 48) (.invalidRegistrationLength 1 (u32At bytes 28))
  let first ←
    (VersionedHostRegistrationSpecV1.decode (slice bytes 32 48)).mapError (.registration 0)
  let second ← (VersionedHostRegistrationSpecV1.decode (bytes.drop 80)).mapError (.registration 1)
  rejectIf (second.spec.doorbellAddress ≤ first.spec.doorbellAddress) .nonCanonicalOrder
  let pair ← (HostRegistrationSpecPair.new (first.spec, second.spec)).mapError
    fun error => .invalidPair error.text
  rejectIf (pair.specs ≠ (first.spec, second.spec)) .nonCanonicalOrder
  return { pair }

/-- `VersionedHostRegistrationPairV1::materialize` (lines 224-230). -/
def materialize : Except VersionedHostRegistrationPairError HostRegistrationSpecPair :=
  (HostRegistrationSpecPair.new v.pair.specs).mapError fun error => .invalidPair error.text

variable {v} {bytes : List UInt8}

theorem length_encode : v.encode.length = versionedHostRegistrationPairLen := by
  simp [encode, fields, versionedHostRegistrationPairMagic, asciiBytes,
    versionedHostRegistrationPairLen, VersionedHostRegistrationSpecV1.length_encode]

theorem exists_encode_eq_append (v : VersionedHostRegistrationPairV1) :
    ∃ header, v.encode = header ++ (VersionedHostRegistrationSpecV1.encode ⟨v.pair.first⟩ ++
      VersionedHostRegistrationSpecV1.encode ⟨v.pair.second⟩) := by
  refine ⟨((fields [] []).flatten), ?_⟩
  simp only [encode, fields, List.flatten_cons, List.flatten_nil, List.append_nil,
    List.append_assoc]

theorem materialize_eq : v.materialize = .ok v.pair := by
  rw [materialize, HostRegistrationSpecPair.new_specs]
  rfl

theorem eq_flatten_fields_iff {first second : List UInt8} (h : bytes.length = 128)
    (hfirst : first.length = 48) (hsecond : second.length = 48) :
    bytes = (fields first second).flatten ↔
      slice bytes 0 8 = versionedHostRegistrationPairMagic ∧ u16At bytes 8 = 1 ∧
        u16At bytes 10 = 32 ∧ u32At bytes 12 = 128 ∧ u16At bytes 16 = 2 ∧ u16At bytes 18 = 0 ∧
        u32At bytes 20 = 0 ∧ u32At bytes 24 = 48 ∧ u32At bytes 28 = 48 ∧
        slice bytes 32 48 = first ∧ bytes.drop 80 = second := by
  have hmagic : versionedHostRegistrationPairMagic.length = 8 := rfl
  have hlast : slice bytes 80 48 = bytes.drop 80 := slice_eq_drop h
  rw [← tiles_iff]
  simp only [fields, Tiles, hmagic, hfirst, hsecond, length_u16Bytes, length_u32Bytes,
    Nat.zero_add, Nat.reduceAdd, h, and_true]
  rw [slice_eq_u16Bytes_iff (by omega), slice_eq_u16Bytes_iff (by omega),
    slice_eq_u32Bytes_iff (by omega), slice_eq_u16Bytes_iff (by omega),
    slice_eq_u16Bytes_iff (by omega), slice_eq_u32Bytes_iff (by omega),
    slice_eq_u32Bytes_iff (by omega), slice_eq_u32Bytes_iff (by omega), hlast]

theorem decode_eq_ok : decode bytes = .ok v ↔ bytes = v.encode := by
  simp only [decode, bind_eq_ok, rejectIf_eq_ok, mapError_eq_ok, not_not, pure, Except.pure,
    Except.ok.injEq, VersionedHostRegistrationSpecV1.decode_eq_ok]
  constructor
  · rintro ⟨_, hlen, _, hmagic, _, hversion, _, hheader, _, htotal, _, hcount, _, hflags, _,
      hreserved, _, hlength, _, hlength', first, hfirst, second, hsecond, _, -, pair, -, _, hpair,
      rfl⟩
    obtain ⟨hpairFirst, hpairSecond⟩ := Prod.mk.inj hpair
    rw [encode, hpairFirst, hpairSecond]
    exact (eq_flatten_fields_iff hlen VersionedHostRegistrationSpecV1.length_encode
      VersionedHostRegistrationSpecV1.length_encode).mpr ⟨hmagic, hversion, hheader, htotal, hcount,
        hflags, hreserved, hlength, hlength', hfirst, hsecond⟩
  · intro hbytes
    have hlen : bytes.length = 128 := by rw [hbytes, length_encode]; rfl
    obtain ⟨hmagic, hversion, hheader, htotal, hcount, hflags, hreserved, hlength, hlength', hfirst,
      hsecond⟩ := (eq_flatten_fields_iff hlen VersionedHostRegistrationSpecV1.length_encode
        VersionedHostRegistrationSpecV1.length_encode).mp hbytes
    exact ⟨(), hlen, (), hmagic, (), hversion, (), hheader, (), htotal, (), hcount, (), hflags, (),
      hreserved, (), hlength, (), hlength', _, hfirst, _, hsecond, (),
      UInt64.not_le.mpr v.pair.first_lt_second, v.pair, v.pair.new_specs, (), rfl, rfl⟩

theorem bijOn_encode :
    Set.BijOn (fun pair => encode ⟨pair⟩) Set.univ { bytes | ∃ v, decode bytes = .ok v } := by
  refine ⟨fun pair _ => ⟨⟨pair⟩, decode_eq_ok.mpr rfl⟩, ?_, ?_⟩
  · intro pair _ pair' _ heq
    have hdecoded := (decode_eq_ok (v := ⟨pair⟩)).mpr rfl
    rw [show encode ⟨pair⟩ = encode ⟨pair'⟩ from heq, decode_eq_ok.mpr rfl] at hdecoded
    exact congrArg VersionedHostRegistrationPairV1.pair (Except.ok.inj hdecoded).symm
  · rintro bytes ⟨v, hdecoded⟩
    exact ⟨v.pair, trivial, (decode_eq_ok.mp hdecoded).symm⟩

/-- **Pairs are canonical.** Two descriptors make the same pair in either order, or none, and they
make one exactly when their doorbells are disjoint and their interrupt lines differ.  Its doorbells
are in increasing order.  The format is a bijection between the pairs and the strings that are
accepted. -/
theorem registration_pairs_canonical :
    (∀ a b : HostRegistrationSpec,
      (∀ pair, HostRegistrationSpecPair.new (a, b) = .ok pair ↔
        HostRegistrationSpecPair.new (b, a) = .ok pair) ∧
      ((∃ pair, HostRegistrationSpecPair.new (a, b) = .ok pair) ↔
        Disjoint a.doorbellRange b.doorbellRange ∧ a.gsi ≠ b.gsi) ∧
      ∀ pair, HostRegistrationSpecPair.new (a, b) = .ok pair →
        pair.first.doorbellAddress < pair.second.doorbellAddress) ∧
    (∀ pair, decode (encode ⟨pair⟩) = .ok ⟨pair⟩) ∧
    (∀ bytes v, decode bytes = .ok v → v.encode = bytes) ∧
    Set.BijOn (fun pair => encode ⟨pair⟩) Set.univ { bytes | ∃ v, decode bytes = .ok v } := by
  refine ⟨fun a b => ⟨?_, HostRegistrationSpecPair.exists_new_eq_ok_iff a b,
    fun pair _ => pair.first_lt_second⟩, fun pair => decode_eq_ok.mpr rfl,
    fun bytes v h => (decode_eq_ok.mp h).symm, bijOn_encode⟩
  exact fun pair => ⟨HostRegistrationSpecPair.new_swap_eq_ok,
    HostRegistrationSpecPair.new_swap_eq_ok⟩

end VersionedHostRegistrationPairV1

end MiniHypervisor.Kvm
