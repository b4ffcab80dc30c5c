import Mathlib.Data.Nat.Digits.Lemmas

/-!
# Little-endian words

The byte encoder every fixed-width field is built from: a natural number becomes exactly `w`
bytes, least significant first, and a byte string becomes a natural number.  The fixed-width
words `UInt16`, `UInt32` and `UInt64` are encoded through it, and the two directions are
inverse to each other on strings of the right length.

## Main definitions

* `leBytes`, `ofLE` : the encoder of naturals at a given width and its left inverse.
* `u16Bytes`, `u32Bytes`, `u64Bytes` : the little-endian bytes of a machine word.
* `u16OfBytes`, `u32OfBytes`, `u64OfBytes` : the machine word with given bytes.

## Main results

* `ofLE_leBytes`, `leBytes_ofLE` : the two directions are inverse, by the uniqueness of digit
  expansions in base 256.
* `u16Bytes_eq_iff`, `u32Bytes_eq_iff`, `u64Bytes_eq_iff` : a string is the encoding of a word
  exactly when it has the width of the word and decodes to it.
-/

namespace MiniHypervisor.Bytes

/-! ### Naturals at a fixed width -/

/-- The `w` little-endian bytes of `n`; bits above `8 * w` are dropped. -/
def leBytes : ℕ → ℕ → List UInt8
  | 0, _ => []
  | w + 1, n => UInt8.ofNat (n % 256) :: leBytes w (n / 256)

/-- The natural number with the given little-endian bytes. -/
def ofLE : List UInt8 → ℕ
  | [] => 0
  | b :: bs => b.toNat + 256 * ofLE bs

@[simp] theorem length_leBytes (w n : ℕ) : (leBytes w n).length = w := by
  induction w generalizing n with
  | zero => rfl
  | succ w ih => rw [leBytes, List.length_cons, ih]

theorem ofLE_eq_ofDigits (l : List UInt8) : ofLE l = Nat.ofDigits 256 (l.map UInt8.toNat) := by
  induction l with
  | nil => rfl
  | cons b l ih => rw [ofLE, List.map_cons, Nat.ofDigits_cons, ih]

private theorem byte_digit_lt {l : List UInt8} : ∀ d ∈ l.map UInt8.toNat, d < 256 := by
  intro d hd
  obtain ⟨b, -, rfl⟩ := List.mem_map.mp hd
  exact b.toNat_lt

theorem ofLE_lt (l : List UInt8) : ofLE l < 256 ^ l.length := by
  simpa only [ofLE_eq_ofDigits, List.length_map] using
    Nat.ofDigits_lt_base_pow_length (by norm_num) byte_digit_lt

/-- Two strings of one length with the same value are equal. -/
theorem eq_of_ofLE_eq {l l' : List UInt8} (hlen : l.length = l'.length)
    (h : ofLE l = ofLE l') : l = l' := by
  rw [ofLE_eq_ofDigits, ofLE_eq_ofDigits] at h
  have hdigits : l.map UInt8.toNat = l'.map UInt8.toNat :=
    Nat.ofDigits_inj_of_len_eq (by norm_num) (by simpa using hlen) byte_digit_lt byte_digit_lt h
  exact List.map_injective_iff.mpr (fun _ _ => UInt8.toNat_inj.mp) hdigits

theorem ofLE_leBytes {w n : ℕ} (h : n < 256 ^ w) : ofLE (leBytes w n) = n := by
  induction w generalizing n with
  | zero =>
      rw [pow_zero, Nat.lt_one_iff] at h
      rw [leBytes, ofLE, h]
  | succ w ih =>
      have hdiv : n / 256 < 256 ^ w := Nat.div_lt_of_lt_mul (by rwa [← pow_succ'])
      rw [leBytes, ofLE, ih hdiv, UInt8.toNat_ofNat']
      omega

theorem leBytes_ofLE (l : List UInt8) : leBytes l.length (ofLE l) = l :=
  eq_of_ofLE_eq (length_leBytes _ _) (ofLE_leBytes (ofLE_lt l))

/-! ### Machine words -/

/-- The two bytes of a 16-bit word. -/
def u16Bytes (v : UInt16) : List UInt8 := leBytes 2 v.toNat

/-- The four bytes of a 32-bit word. -/
def u32Bytes (v : UInt32) : List UInt8 := leBytes 4 v.toNat

/-- The eight bytes of a 64-bit word. -/
def u64Bytes (v : UInt64) : List UInt8 := leBytes 8 v.toNat

/-- The 16-bit word with the given bytes. -/
def u16OfBytes (l : List UInt8) : UInt16 := UInt16.ofNat (ofLE l)

/-- The 32-bit word with the given bytes. -/
def u32OfBytes (l : List UInt8) : UInt32 := UInt32.ofNat (ofLE l)

/-- The 64-bit word with the given bytes. -/
def u64OfBytes (l : List UInt8) : UInt64 := UInt64.ofNat (ofLE l)

@[simp] theorem length_u16Bytes (v : UInt16) : (u16Bytes v).length = 2 := length_leBytes _ _

@[simp] theorem length_u32Bytes (v : UInt32) : (u32Bytes v).length = 4 := length_leBytes _ _

@[simp] theorem length_u64Bytes (v : UInt64) : (u64Bytes v).length = 8 := length_leBytes _ _

@[simp] theorem u16OfBytes_u16Bytes (v : UInt16) : u16OfBytes (u16Bytes v) = v := by
  rw [u16OfBytes, u16Bytes, ofLE_leBytes (by simpa using v.toNat_lt), UInt16.ofNat_toNat]

@[simp] theorem u32OfBytes_u32Bytes (v : UInt32) : u32OfBytes (u32Bytes v) = v := by
  rw [u32OfBytes, u32Bytes, ofLE_leBytes (by simpa using v.toNat_lt), UInt32.ofNat_toNat]

@[simp] theorem u64OfBytes_u64Bytes (v : UInt64) : u64OfBytes (u64Bytes v) = v := by
  rw [u64OfBytes, u64Bytes, ofLE_leBytes (by simpa using v.toNat_lt), UInt64.ofNat_toNat]

theorem u16Bytes_u16OfBytes {l : List UInt8} (h : l.length = 2) : u16Bytes (u16OfBytes l) = l := by
  have hlt : ofLE l < 2 ^ 16 := by simpa [h] using ofLE_lt l
  rw [u16OfBytes, u16Bytes, UInt16.toNat_ofNat_of_lt' hlt, ← h, leBytes_ofLE]

theorem u32Bytes_u32OfBytes {l : List UInt8} (h : l.length = 4) : u32Bytes (u32OfBytes l) = l := by
  have hlt : ofLE l < 2 ^ 32 := by simpa [h] using ofLE_lt l
  rw [u32OfBytes, u32Bytes, UInt32.toNat_ofNat_of_lt' hlt, ← h, leBytes_ofLE]

theorem u64Bytes_u64OfBytes {l : List UInt8} (h : l.length = 8) : u64Bytes (u64OfBytes l) = l := by
  have hlt : ofLE l < 2 ^ 64 := by simpa [h] using ofLE_lt l
  rw [u64OfBytes, u64Bytes, UInt64.toNat_ofNat_of_lt' hlt, ← h, leBytes_ofLE]

theorem u16Bytes_injective : Function.Injective u16Bytes :=
  Function.LeftInverse.injective u16OfBytes_u16Bytes

theorem u16Bytes_eq_iff {v : UInt16} {l : List UInt8} :
    u16Bytes v = l ↔ l.length = 2 ∧ u16OfBytes l = v := by
  constructor
  · rintro rfl
    exact ⟨length_u16Bytes v, u16OfBytes_u16Bytes v⟩
  · rintro ⟨h, rfl⟩
    exact u16Bytes_u16OfBytes h

theorem u32Bytes_injective : Function.Injective u32Bytes :=
  Function.LeftInverse.injective u32OfBytes_u32Bytes

theorem u32Bytes_eq_iff {v : UInt32} {l : List UInt8} :
    u32Bytes v = l ↔ l.length = 4 ∧ u32OfBytes l = v := by
  constructor
  · rintro rfl
    exact ⟨length_u32Bytes v, u32OfBytes_u32Bytes v⟩
  · rintro ⟨h, rfl⟩
    exact u32Bytes_u32OfBytes h

theorem u64Bytes_injective : Function.Injective u64Bytes :=
  Function.LeftInverse.injective u64OfBytes_u64Bytes

theorem u64Bytes_eq_iff {v : UInt64} {l : List UInt8} :
    u64Bytes v = l ↔ l.length = 8 ∧ u64OfBytes l = v := by
  constructor
  · rintro rfl
    exact ⟨length_u64Bytes v, u64OfBytes_u64Bytes v⟩
  · rintro ⟨h, rfl⟩
    exact u64Bytes_u64OfBytes h

end MiniHypervisor.Bytes
