import Mathlib.Data.List.Forall2
import Mathlib.Data.List.GetD
import MiniHypervisor.Bytes.LittleEndian

/-!
# Slices of byte strings

Fields at fixed offsets of a byte string, and byte strings of a fixed length.  A slice of a
concatenation is found in the part it lies in, and a string with a range replaced keeps its
length and the bytes outside the range.

## Main definitions

* `slice` : the bytes of a range.
* `FixedBytes` : byte strings of a fixed length.
* `FixedBytes.splice` : a fixed string with a range replaced.

## Main results

* `slice_append_left`, `slice_append_right` : slices of a concatenation.
* `FixedBytes.getD_splice_inside`, `FixedBytes.getD_splice_outside` : a replaced range, byte by
  byte.
-/

namespace MiniHypervisor.Bytes

/-- The bytes of ASCII characters. -/
def asciiBytes (characters : List Char) : List UInt8 :=
  characters.map fun c => UInt8.ofNat c.toNat

variable {l l' : List UInt8} {i n : ℕ}

/-- The `n` bytes of `l` from offset `i` on, or fewer at the end of `l`. -/
def slice (l : List UInt8) (i n : ℕ) : List UInt8 := (l.drop i).take n

theorem length_slice (h : i + n ≤ l.length) : (slice l i n).length = n := by
  rw [slice, List.length_take, List.length_drop]
  omega

theorem getD_slice {k : ℕ} (hk : k < n) : (slice l i n).getD k 0 = l.getD (i + k) 0 := by
  simp [slice, List.getD_eq_getElem?_getD, hk]

@[simp] theorem slice_zero_length : slice l 0 l.length = l := by
  simp [slice]

theorem slice_append_left (h : i + n ≤ l.length) : slice (l ++ l') i n = slice l i n := by
  rw [slice, slice, List.drop_append_of_le_length (by omega),
    List.take_append_of_le_length (by rw [List.length_drop]; omega)]

theorem slice_append_right (l l' : List UInt8) (i n : ℕ) :
    slice (l ++ l') (l.length + i) n = slice l' i n := by
  rw [slice, slice, ← List.drop_drop, List.drop_left]

theorem slice_eq_map_getD (h : i + n ≤ l.length) :
    slice l i n = (List.range n).map fun k => l.getD (i + k) 0 := by
  refine List.ext_getElem (by rw [length_slice h, List.length_map, List.length_range]) ?_
  intro k hk _
  rw [length_slice h] at hk
  rw [List.getElem_map, List.getElem_range, ← getD_slice hk, List.getD_eq_getElem?_getD,
    List.getElem?_eq_getElem, Option.getD_some]

theorem slice_append_slice (l : List UInt8) (i m n : ℕ) :
    slice l i m ++ slice l (i + m) n = slice l i (m + n) := by
  rw [slice, slice, slice, List.take_add, List.drop_drop]

theorem slice_eq_append_iff {a b : List UInt8} (hn : a.length + b.length = n)
    (h : i + n ≤ l.length) :
    slice l i n = a ++ b ↔ slice l i a.length = a ∧ slice l (i + a.length) b.length = b := by
  rw [← hn, ← slice_append_slice]
  constructor
  · exact fun heq => List.append_inj heq (length_slice (by omega))
  · rintro ⟨ha, hb⟩
    rw [ha, hb]

/-- A suffix splits into its first `n` bytes and the rest. -/
theorem slice_append_drop (l : List UInt8) (i n : ℕ) :
    slice l i n ++ l.drop (i + n) = l.drop i := by
  rw [slice, ← List.drop_drop, List.take_append_drop]

theorem slice_append_middle {pre mid : List UInt8} (post : List UInt8) (hpre : pre.length = i)
    (hmid : mid.length = n) : slice (pre ++ (mid ++ post)) i n = mid := by
  rw [← hpre, ← hmid, ← Nat.add_zero pre.length, slice_append_right, slice_append_left (by simp),
    slice_zero_length]

/-- A part of a string, counted from the end. -/
theorem slice_before (pre : List UInt8) {mid post : List UInt8} (hmid : mid.length = n)
    (hpost : post.length = i) :
    slice (pre ++ (mid ++ post)) ((pre ++ (mid ++ post)).length - i - n) n = mid := by
  refine slice_append_middle post ?_ hmid
  rw [List.length_append, List.length_append, hmid, hpost]
  omega

/-- A slice that is counted from the end lies in what the string ends with. -/
theorem slice_length_sub (pre : List UInt8) {post : List UInt8} {k : ℕ} (hk : k ≤ post.length) :
    slice (pre ++ post) ((pre ++ post).length - k) n = slice post (post.length - k) n := by
  rw [List.length_append, Nat.add_sub_assoc hk, slice_append_right]

/-! ### Words at an offset -/

/-- The 16-bit word at an offset. -/
def u16At (l : List UInt8) (i : ℕ) : UInt16 := u16OfBytes (slice l i 2)

/-- The 32-bit word at an offset. -/
def u32At (l : List UInt8) (i : ℕ) : UInt32 := u32OfBytes (slice l i 4)

/-- The 64-bit word at an offset. -/
def u64At (l : List UInt8) (i : ℕ) : UInt64 := u64OfBytes (slice l i 8)

theorem slice_eq_u16Bytes_iff {w : UInt16} (h : i + 2 ≤ l.length) :
    slice l i 2 = u16Bytes w ↔ u16At l i = w := by
  rw [eq_comm, u16Bytes_eq_iff, and_iff_right (length_slice h), u16At]

theorem slice_eq_u32Bytes_iff {w : UInt32} (h : i + 4 ≤ l.length) :
    slice l i 4 = u32Bytes w ↔ u32At l i = w := by
  rw [eq_comm, u32Bytes_eq_iff, and_iff_right (length_slice h), u32At]

theorem slice_eq_u64Bytes_iff {w : UInt64} (h : i + 8 ≤ l.length) :
    slice l i 8 = u64Bytes w ↔ u64At l i = w := by
  rw [eq_comm, u64Bytes_eq_iff, and_iff_right (length_slice h), u64At]

theorem slice_eq_u64Bytes_ofNat_iff {m : ℕ} (h : i + 8 ≤ l.length) (hm : m < 2 ^ 64) :
    slice l i 8 = u64Bytes (UInt64.ofNat m) ↔ (u64At l i).toNat = m := by
  rw [slice_eq_u64Bytes_iff h, ← UInt64.toNat_inj, UInt64.toNat_ofNat_of_lt' hm]

theorem u16At_append {pre : List UInt8} (w : UInt16) (post : List UInt8) (h : pre.length = i) :
    u16At (pre ++ (u16Bytes w ++ post)) i = w := by
  rw [u16At, slice_append_middle post h (length_u16Bytes w), u16OfBytes_u16Bytes]

theorem slice_eq_singleton_iff {b : UInt8} (h : i + 1 ≤ l.length) :
    slice l i 1 = [b] ↔ l.getD i 0 = b := by
  rw [slice_eq_map_getD h]
  simp

/-! ### Parts that follow each other -/

/-- From the offset `i` to its end, the string consists of the given parts. -/
def Tiles (l : List UInt8) : ℕ → List (List UInt8) → Prop
  | i, [] => l.length = i
  | i, part :: parts => slice l i part.length = part ∧ Tiles l (i + part.length) parts

theorem tiles_iff_drop {parts : List (List UInt8)} (hi : i ≤ l.length) :
    Tiles l i parts ↔ l.drop i = parts.flatten := by
  induction parts generalizing i with
  | nil =>
      rw [Tiles, List.flatten_nil, List.drop_eq_nil_iff]
      omega
  | cons part parts ih =>
      rw [Tiles, List.flatten_cons, ← slice_append_drop l i part.length]
      constructor
      · rintro ⟨hpart, hparts⟩
        have hlen : i + part.length ≤ l.length := by
          have := congrArg List.length hpart
          simp only [slice, List.length_take, List.length_drop] at this
          omega
        rw [hpart, (ih hlen).mp hparts]
      · intro heq
        have hlen : i + part.length ≤ l.length := by
          have := congrArg List.length heq
          simp only [slice_append_drop, List.length_drop, List.length_append] at this
          omega
        obtain ⟨hpart, hparts⟩ := List.append_inj heq (length_slice hlen)
        exact ⟨hpart, (ih hlen).mpr hparts⟩

/-- The part that reaches to the end. -/
theorem slice_eq_drop (h : l.length = i + n) : slice l i n = l.drop i := by
  rw [slice, List.take_of_length_le]
  rw [List.length_drop]
  omega

theorem tiles_iff {parts : List (List UInt8)} : Tiles l 0 parts ↔ l = parts.flatten := by
  rw [tiles_iff_drop (Nat.zero_le _), List.drop_zero]

/-! ### Records of one length -/

/-- Equally many blocks of one length are concatenated to the same string exactly when they are
equal one by one. -/
theorem flatMap_eq_flatMap_iff {α β : Type} {f : α → List UInt8} {g : β → List UInt8}
    {xs : List α} {ys : List β} (h : ∀ x y, (f x).length = (g y).length)
    (hlen : xs.length = ys.length) :
    xs.flatMap f = ys.flatMap g ↔ List.Forall₂ (fun x y => f x = g y) xs ys := by
  induction xs generalizing ys with
  | nil =>
      obtain rfl := List.length_eq_zero_iff.mp hlen.symm
      simp
  | cons x xs ih =>
      obtain ⟨y, ys, rfl⟩ := List.exists_cons_of_length_eq_add_one hlen.symm
      rw [List.flatMap_cons, List.flatMap_cons, List.forall₂_cons, ← ih (Nat.succ.inj hlen)]
      constructor
      · exact fun heq => List.append_inj heq (h x y)
      · rintro ⟨hx, hxs⟩
        rw [hx, hxs]

/-- A byte of a record stands at its offset in the record after the records before it. -/
theorem getD_flatMap {α : Type} {f : α → List UInt8} {size : ℕ} (h : ∀ x, (f x).length = size)
    {records : List α} {o : ℕ} (ho : o < size) (hi : i < records.length) :
    (records.flatMap f).getD (size * i + o) 0 = (f (records[i])).getD o 0 := by
  induction records generalizing i with
  | nil => exact absurd hi (Nat.not_lt_zero i)
  | cons x records ih =>
      rw [List.flatMap_cons]
      cases i with
      | zero =>
          rw [Nat.mul_zero, Nat.zero_add, List.getD_append _ _ _ _ (by rwa [h])]
          rfl
      | succ i =>
          have hoffset : size * (i + 1) + o = (f x).length + (size * i + o) := by
            rw [h, Nat.mul_add, Nat.mul_one]
            omega
          rw [hoffset, List.getD_append_right _ _ _ _ (by omega), Nat.add_sub_cancel_left,
            ih (Nat.lt_of_succ_lt_succ hi)]
          rfl

/-- Consecutive words are read one by one. -/
theorem slice_eq_flatMap_u64Bytes_iff {words : List UInt64} (h : i + 8 * words.length ≤ l.length) :
    slice l i (8 * words.length) = words.flatMap u64Bytes ↔
      (List.range words.length).map (fun k => u64At l (i + 8 * k)) = words := by
  induction words generalizing i with
  | nil => simp [slice]
  | cons w words ih =>
      rw [List.length_cons] at h
      have hsplit : slice l i (8 * (words.length + 1)) =
          slice l i 8 ++ slice l (i + 8) (8 * words.length) := by
        rw [slice_append_slice, Nat.mul_add, Nat.mul_one, Nat.add_comm 8]
      have hshift : (List.range words.length).map ((fun k => u64At l (i + 8 * k)) ∘ Nat.succ) =
          (List.range words.length).map fun k => u64At l (i + 8 + 8 * k) := by
        refine List.map_congr_left fun k _ => ?_
        rw [Function.comp_apply, Nat.mul_succ, Nat.add_comm (8 * k), ← Nat.add_assoc]
      rw [List.length_cons, hsplit, List.flatMap_cons, List.range_succ_eq_map, List.map_cons,
        List.map_map, hshift, List.cons.injEq, Nat.mul_zero, ← slice_eq_u64Bytes_iff (by omega),
        ← ih (by omega)]
      constructor
      · exact fun heq => List.append_inj heq (by rw [length_slice (by omega), length_u64Bytes])
      · rintro ⟨hw, hwords⟩
        exact congrArg₂ (· ++ ·) hw hwords

/-! ### Strings of a fixed length -/

/-- Byte strings of length `n`. -/
abbrev FixedBytes (n : ℕ) : Type := { l : List UInt8 // l.length = n }

namespace FixedBytes

variable {n : ℕ} (b : FixedBytes n) (start : ℕ) (data : List UInt8) {k : ℕ}

/-- The string of zeros. -/
def zeros (n : ℕ) : FixedBytes n := ⟨List.replicate n 0, List.length_replicate⟩

/-- The string with the bytes from `start` on replaced by `data`, when they fit. -/
def splice : FixedBytes n :=
  if h : start + data.length ≤ n then
    ⟨b.1.take start ++ (data ++ b.1.drop (start + data.length)), by
      have hb := b.2
      simp only [List.length_append, List.length_take, List.length_drop]
      omega⟩
  else b

variable {b start data}

theorem val_splice (h : start + data.length ≤ n) :
    (b.splice start data).1 = b.1.take start ++ (data ++ b.1.drop (start + data.length)) := by
  rw [splice, dif_pos h]

theorem getD_splice_inside (h : start + data.length ≤ n) (hk : k < data.length) :
    (b.splice start data).1.getD (start + k) 0 = data.getD k 0 := by
  have hb := b.2
  have hlen : (b.1.take start).length = start := by
    rw [List.length_take]
    omega
  rw [val_splice h, List.getD_append_right _ _ _ _ (by omega), hlen, Nat.add_sub_cancel_left,
    List.getD_append _ _ _ _ hk]

theorem getD_splice_outside (hk : k < start ∨ start + data.length ≤ k) :
    (b.splice start data).1.getD k 0 = b.1.getD k 0 := by
  by_cases h : start + data.length ≤ n
  · have hb := b.2
    have hlen : (b.1.take start).length = start := by
      rw [List.length_take]
      omega
    rw [val_splice h]
    rcases hk with hk | hk
    · rw [List.getD_append _ _ _ _ (by omega)]
      simp [List.getD_eq_getElem?_getD, hk]
    · rw [List.getD_append_right _ _ _ _ (by omega), List.getD_append_right _ _ _ _ (by omega),
        hlen]
      simp only [List.getD_eq_getElem?_getD, List.getElem?_drop]
      congr 2
      omega
  · rw [splice, dif_neg h]

theorem slice_splice_same (h : start + data.length ≤ n) :
    slice (b.splice start data).1 start data.length = data := by
  have hb := b.2
  have hlen : (b.1.take start).length = start := by
    rw [List.length_take]
    omega
  have hskip := slice_append_right (b.1.take start) (data ++ b.1.drop (start + data.length)) 0
    data.length
  rw [hlen, Nat.add_zero] at hskip
  rw [val_splice h, hskip, slice_append_left (by omega), slice_zero_length]

/-- The bytes of a string from `i` on, as a string of length `n`; what is missing is zero. -/
def at_ (l : List UInt8) (i n : ℕ) : FixedBytes n := (zeros n).splice 0 (slice l i n)

theorem val_at {l : List UInt8} {i : ℕ} (h : i + n ≤ l.length) : (at_ l i n).1 = slice l i n := by
  have hlen := length_slice h
  have hfits : 0 + (slice l i n).length ≤ n := by omega
  have hslice := slice_splice_same (b := zeros n) hfits
  rw [hlen] at hslice
  have hall : slice (at_ l i n).1 0 (at_ l i n).1.length = (at_ l i n).1 := slice_zero_length
  rw [(at_ l i n).2] at hall
  rw [← hall]
  exact hslice

theorem at_eq_iff {l : List UInt8} {i : ℕ} (h : i + n ≤ l.length) :
    at_ l i n = b ↔ slice l i n = b.1 := by
  rw [← Subtype.val_inj, val_at h]

end FixedBytes

end MiniHypervisor.Bytes
