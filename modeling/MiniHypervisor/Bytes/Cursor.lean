import MiniHypervisor.Bytes.Slices
import MiniHypervisor.Control.Outcome

/-!
# Reading a byte string through a cursor

A cursor walks over a byte string and hands out the next bytes, or fails when too few are left.
A reader recognizes a format when it succeeds exactly on the strings of that format, consumes
them and nothing else, and returns the value they stand for.  Formats compose as the readers do:
a sequence of readers recognizes the concatenation of their formats.

## Main definitions

* `Cursor` : a byte string and the offset of the next byte.
* `Cursor.take`, `Cursor.u8`, `Cursor.u16`, `Cursor.u32`, `Cursor.u64` : the readers.
* `Recognizes` : a reader succeeds exactly on the strings of a format.

## Main results

* `Recognizes.bind`, `Recognizes.check_bind` : the format of a sequence.
* `Recognizes.runAll_eq_ok` : a reader that has to use up the whole string.
-/

namespace MiniHypervisor.Bytes

open Control

/-- A byte string and the offset of the next byte. -/
structure Cursor where
  bytes : List UInt8
  offset : ℕ

namespace Cursor

variable {ε : Type}

/-- The cursor at the first byte. -/
def new (bytes : List UInt8) : Cursor := ⟨bytes, 0⟩

/-- The number of bytes left. -/
def remaining (c : Cursor) : ℕ := c.bytes.length - c.offset

/-- The bytes left. -/
def unread (c : Cursor) : List UInt8 := c.bytes.drop c.offset

/-- The cursor `n` bytes further on. -/
def skip (c : Cursor) (n : ℕ) : Cursor := { c with offset := c.offset + n }

/-- The next `length` bytes, or an error made of the offset, the length and the bytes left. -/
def take (truncated : ℕ → ℕ → ℕ → ε) (length : ℕ) : EStateM ε Cursor (List UInt8) := fun c =>
  if c.remaining < length then
    .error (truncated c.offset length c.remaining) c
  else
    .ok (slice c.bytes c.offset length) (c.skip length)

/-- The next byte. -/
def u8 (truncated : ℕ → ℕ → ℕ → ε) : EStateM ε Cursor UInt8 := do
  let bytes ← take truncated 1
  return bytes.getD 0 0

/-- The next 16-bit word. -/
def u16 (truncated : ℕ → ℕ → ℕ → ε) : EStateM ε Cursor UInt16 := do
  let bytes ← take truncated 2
  return u16OfBytes bytes

/-- The next 32-bit word. -/
def u32 (truncated : ℕ → ℕ → ℕ → ε) : EStateM ε Cursor UInt32 := do
  let bytes ← take truncated 4
  return u32OfBytes bytes

/-- The next 64-bit word. -/
def u64 (truncated : ℕ → ℕ → ℕ → ε) : EStateM ε Cursor UInt64 := do
  let bytes ← take truncated 8
  return u64OfBytes bytes

/-- A check that no bytes are left, or an error made of the offset. -/
def atEnd (trailing : ℕ → ε) : EStateM ε Cursor Unit :=
  reads fun c => rejectIf (c.remaining ≠ 0) (trailing c.offset)

/-- The result of a reader on a whole byte string. -/
def runAll {α : Type} (x : EStateM ε Cursor α) (bytes : List UInt8) : Except ε α :=
  match x.run (new bytes) with
  | .ok a _ => .ok a
  | .error e _ => .error e

theorem runAll_eq_ok_iff {α : Type} {x : EStateM ε Cursor α} {bytes : List UInt8} {a : α} :
    runAll x bytes = .ok a ↔ ∃ c, x.run (new bytes) = .ok a c := by
  unfold runAll
  cases x.run (new bytes) <;> simp

theorem run_atEnd_eq_ok {trailing : ℕ → ε} {c c' : Cursor} {u : Unit} :
    (atEnd trailing).run c = .ok u c' ↔ c.remaining = 0 ∧ c' = c := by
  by_cases h : c.remaining = 0
  · have hrun : (atEnd trailing).run c = .ok () c := run_reads_of_ok (if_neg (not_not.mpr h))
    rw [hrun]
    exact ⟨fun hok => ⟨h, by cases hok; rfl⟩, fun hok => by rw [hok.2]⟩
  · have hrun : (atEnd trailing).run c = .error (trailing c.offset) c :=
      run_reads_of_error (if_pos h)
    rw [hrun]
    exact ⟨nofun, fun hok => absurd hok.1 h⟩

@[simp] theorem unread_new (bytes : List UInt8) : (new bytes).unread = bytes := rfl

theorem unread_skip (c : Cursor) (n : ℕ) : (c.skip n).unread = c.unread.drop n := by
  rw [unread, unread, List.drop_drop]
  rfl

theorem length_unread (c : Cursor) : c.unread.length = c.remaining := List.length_drop

@[simp] theorem skip_zero (c : Cursor) : c.skip 0 = c := rfl

theorem skip_skip (c : Cursor) (m n : ℕ) : (c.skip m).skip n = c.skip (m + n) := by
  simp only [skip, Nat.add_assoc]

end Cursor

/-! ### Formats -/

/-- The reader succeeds exactly on the strings of the format, consumes them and nothing else,
and returns the value that they stand for. -/
def Recognizes {ε α : Type} (x : EStateM ε Cursor α) (format : α → List UInt8 → Prop) : Prop :=
  ∀ c v c', x.run c = .ok v c' ↔ ∃ l, format v l ∧ l <+: c.unread ∧ c' = c.skip l.length

namespace Recognizes

variable {ε α β : Type} {x : EStateM ε Cursor α} {f : α → EStateM ε Cursor β}
  {F F' : α → List UInt8 → Prop} {G : α → β → List UInt8 → Prop}

theorem congr (hx : Recognizes x F) (h : ∀ v l, F v l ↔ F' v l) : Recognizes x F' := by
  intro c v c'
  rw [hx c v c']
  exact exists_congr fun l => and_congr_left fun _ => h v l

theorem pure (a : α) : Recognizes (Pure.pure a : EStateM ε Cursor α)
    fun v l => v = a ∧ l = [] := by
  intro c v c'
  change EStateM.Result.ok a c = .ok v c' ↔ _
  constructor
  · rintro ⟨⟩
    exact ⟨[], ⟨rfl, rfl⟩, List.nil_prefix, rfl⟩
  · rintro ⟨_, ⟨rfl, rfl⟩, -, rfl⟩
    rfl

theorem append_prefix_iff {l l' u : List UInt8} :
    l ++ l' <+: u ↔ l <+: u ∧ l' <+: u.drop l.length := by
  constructor
  · rintro ⟨t, rfl⟩
    refine ⟨⟨l' ++ t, by rw [List.append_assoc]⟩, t, ?_⟩
    rw [List.append_assoc, List.drop_left]
  · rintro ⟨⟨t, rfl⟩, t', ht⟩
    rw [List.drop_left] at ht
    exact ⟨t', by rw [List.append_assoc, ht]⟩

/-- The end of a list of records. -/
theorem pure_nil {P : List α → Prop} {record : α → List UInt8} (h : P []) :
    Recognizes (Pure.pure [] : EStateM ε Cursor (List α)) fun v l =>
      v.length = 0 ∧ P v ∧ l = v.flatMap record := by
  refine (Recognizes.pure []).congr fun v l => ?_
  rw [List.length_eq_zero_iff]
  constructor
  · rintro ⟨rfl, rfl⟩
    exact ⟨rfl, h, rfl⟩
  · rintro ⟨rfl, -, rfl⟩
    exact ⟨rfl, rfl⟩

/-- **The format of a sequence** is the concatenation of the formats. -/
theorem bind (hx : Recognizes x F) (hf : ∀ a, Recognizes (f a) (G a)) :
    Recognizes (x >>= f) fun b l => ∃ a l₁ l₂, F a l₁ ∧ G a b l₂ ∧ l = l₁ ++ l₂ := by
  intro c b c''
  rw [run_bind_eq_ok]
  constructor
  · rintro ⟨a, c', hxrun, hfrun⟩
    obtain ⟨l₁, hF, hpre, rfl⟩ := (hx c a c').mp hxrun
    obtain ⟨l₂, hG, hpre', rfl⟩ := (hf a _ b c'').mp hfrun
    rw [Cursor.unread_skip] at hpre'
    refine ⟨l₁ ++ l₂, ⟨a, l₁, l₂, hF, hG, rfl⟩, append_prefix_iff.mpr ⟨hpre, hpre'⟩, ?_⟩
    rw [Cursor.skip_skip, List.length_append]
  · rintro ⟨_, ⟨a, l₁, l₂, hF, hG, rfl⟩, hpre, rfl⟩
    obtain ⟨hpre₁, hpre₂⟩ := append_prefix_iff.mp hpre
    refine ⟨a, c.skip l₁.length, (hx c a _).mpr ⟨l₁, hF, hpre₁, rfl⟩, ?_⟩
    refine (hf a _ b _).mpr ⟨l₂, hG, ?_, ?_⟩
    · rwa [Cursor.unread_skip]
    · rw [Cursor.skip_skip, List.length_append]

/-- A reader followed by a computation of its value. -/
theorem bind_pure (hx : Recognizes x F) (g : α → β) :
    Recognizes (x >>= fun a => Pure.pure (g a)) fun b l => ∃ a, F a l ∧ b = g a :=
  (hx.bind fun a => pure (g a)).congr fun b l => by
    constructor
    · rintro ⟨a, l₁, _, hF, ⟨rfl, rfl⟩, rfl⟩
      exact ⟨a, by rwa [List.append_nil], rfl⟩
    · rintro ⟨a, hF, rfl⟩
      exact ⟨a, l, [], hF, ⟨rfl, rfl⟩, (List.append_nil l).symm⟩

/-- A fallible value that does not depend on the string. -/
theorem value (g : Except ε α) :
    Recognizes (reads fun _ => g) fun v l => g = .ok v ∧ l = [] := by
  intro c v c'
  cases h : g with
  | error e =>
      have hrun : (reads fun _ : Cursor => (.error e : Except ε α)).run c = .error e c :=
        run_reads_of_error rfl
      rw [hrun]
      exact ⟨nofun, fun ⟨_, hl, _⟩ => nomatch hl.1⟩
  | ok a =>
      have hrun : (reads fun _ : Cursor => (.ok a : Except ε α)).run c = .ok a c :=
        run_reads_of_ok rfl
      rw [hrun]
      constructor
      · rintro ⟨⟩
        exact ⟨[], ⟨rfl, rfl⟩, List.nil_prefix, rfl⟩
      · rintro ⟨_, ⟨hv, rfl⟩, -, rfl⟩
        cases hv
        rfl

/-- A check that does not read. -/
theorem check_bind {check : Except ε Unit} {y : EStateM ε Cursor β} {H : β → List UInt8 → Prop}
    (hy : Recognizes y H) :
    Recognizes (reads (fun _ => check) >>= fun _ => y) fun b l => check = .ok () ∧ H b l :=
  ((value check).bind fun _ => hy).congr fun b l => by
    constructor
    · rintro ⟨_, _, l₂, ⟨hok, rfl⟩, hH, rfl⟩
      exact ⟨hok, hH⟩
    · exact fun ⟨hok, hH⟩ => ⟨(), [], l, ⟨hok, rfl⟩, hH, rfl⟩

/-- A guard. -/
theorem guard_bind {c : Prop} [Decidable c] {e : ε} {y : EStateM ε Cursor β}
    {H : β → List UInt8 → Prop} (hy : Recognizes y H) :
    Recognizes (reads (fun _ => rejectIf c e) >>= fun _ => y) fun b l => ¬ c ∧ H b l :=
  (check_bind hy).congr fun _ _ => and_congr_left fun _ => rejectIf_eq_ok

/-- A list of checks that do not read. -/
theorem guards {γ : Type} {p : γ → Prop} [DecidablePred p] {e : γ → ε} (checks : List γ) :
    Recognizes (checks.forM fun x => reads fun _ => rejectIf (p x) (e x))
      fun _ l => (∀ x ∈ checks, ¬ p x) ∧ l = [] := by
  induction checks with
  | nil => exact (pure ()).congr fun _ l => by simp
  | cons x checks ih =>
      refine (guard_bind ih).congr fun _ l => ?_
      rw [List.forall_mem_cons, and_assoc]

/-- Renaming the errors of a reader does not change its format. -/
theorem adaptExcept {ε' : Type} (hx : Recognizes x F) (g : ε → ε') :
    Recognizes (EStateM.adaptExcept g x) F := by
  intro c v c'
  rw [← hx c v c']
  change EStateM.adaptExcept g x c = _ ↔ x c = _
  cases h : x c <;> simp [EStateM.adaptExcept, h]

section Words

variable (truncated : ℕ → ℕ → ℕ → ε)

theorem take (n : ℕ) : Recognizes (Cursor.take truncated n) fun v l => l = v ∧ v.length = n := by
  intro c v c'
  change Cursor.take truncated n c = _ ↔ _
  unfold Cursor.take
  by_cases h : c.remaining < n
  · rw [if_pos h]
    refine ⟨nofun, ?_⟩
    rintro ⟨_, ⟨rfl, hn⟩, hpre, -⟩
    have hle := hpre.length_le
    rw [Cursor.length_unread] at hle
    omega
  · rw [if_neg h]
    have hlen : (slice c.bytes c.offset n).length = n := by
      rw [slice, List.length_take]
      have := Cursor.length_unread c
      rw [Cursor.unread] at this
      omega
    constructor
    · rintro ⟨⟩
      exact ⟨_, ⟨rfl, hlen⟩, List.take_prefix n _, by rw [hlen]⟩
    · rintro ⟨l, ⟨hl, hn⟩, ⟨t, ht⟩, rfl⟩
      have hslice : slice c.bytes c.offset n = v := by
        rw [slice, ← Cursor.unread, ← ht, hl, ← hn, List.take_left]
      rw [hslice, hl, hn]

/-- A fixed number of bytes, converted to a value that determines them. -/
theorem take_bind {n : ℕ} {g : List UInt8 → α} {enc : α → List UInt8}
    (hleft : ∀ v, g (enc v) = v) (hright : ∀ l, l.length = n → enc (g l) = l)
    (hlen : ∀ v, (enc v).length = n) :
    Recognizes (Cursor.take truncated n >>= fun bytes => Pure.pure (g bytes))
      fun v l => l = enc v :=
  ((take truncated n).bind_pure g).congr fun v l => by
    constructor
    · rintro ⟨_, ⟨rfl, hn⟩, rfl⟩
      exact (hright _ hn).symm
    · rintro rfl
      exact ⟨_, ⟨rfl, hlen v⟩, (hleft v).symm⟩

theorem u8 : Recognizes (Cursor.u8 truncated) fun v l => l = [v] :=
  take_bind truncated (fun _ => rfl)
    (fun l hl => by obtain ⟨a, rfl⟩ := List.length_eq_one_iff.mp hl; rfl) (fun _ => rfl)

theorem u16 : Recognizes (Cursor.u16 truncated) fun v l => l = u16Bytes v :=
  take_bind truncated u16OfBytes_u16Bytes (fun _ => u16Bytes_u16OfBytes) length_u16Bytes

theorem u32 : Recognizes (Cursor.u32 truncated) fun v l => l = u32Bytes v :=
  take_bind truncated u32OfBytes_u32Bytes (fun _ => u32Bytes_u32OfBytes) length_u32Bytes

theorem u64 : Recognizes (Cursor.u64 truncated) fun v l => l = u64Bytes v :=
  take_bind truncated u64OfBytes_u64Bytes (fun _ => u64Bytes_u64OfBytes) length_u64Bytes

end Words

/-- A value whose bytes are determined, followed by another reader. -/
theorem field_bind {enc : α → List UInt8} (hx : Recognizes x fun v l => l = enc v)
    (hf : ∀ a, Recognizes (f a) (G a)) :
    Recognizes (x >>= f) fun b l => ∃ a l', G a b l' ∧ l = enc a ++ l' :=
  (hx.bind hf).congr fun b l => by
    constructor
    · rintro ⟨a, _, l₂, rfl, hG, rfl⟩
      exact ⟨a, l₂, hG, rfl⟩
    · rintro ⟨a, l', hG, rfl⟩
      exact ⟨a, _, l', rfl, hG, rfl⟩

/-- A value that has to be a given one, followed by another reader. -/
theorem expect_bind [DecidableEq α] {enc : α → List UInt8} {k : α} {e : α → ε}
    {y : EStateM ε Cursor β} {H : β → List UInt8 → Prop}
    (hx : Recognizes x fun v l => l = enc v) (hy : Recognizes y H) :
    Recognizes (x >>= fun a => reads (fun _ => rejectIf (a ≠ k) (e a)) >>= fun _ => y)
      fun b l => ∃ l', H b l' ∧ l = enc k ++ l' :=
  (hx.field_bind fun _ => guard_bind hy).congr fun b l => by
    constructor
    · rintro ⟨a, l', ⟨ha, hH⟩, rfl⟩
      obtain rfl := not_not.mp ha
      exact ⟨l', hH, rfl⟩
    · rintro ⟨l', hH, rfl⟩
      exact ⟨k, l', ⟨not_not.mpr rfl, hH⟩, rfl⟩

/-- Bytes that have to be given ones, followed by another reader. -/
theorem expectBytes_bind {x : EStateM ε Cursor (List UInt8)} {k : List UInt8} {n : ℕ} {e : ε}
    {y : EStateM ε Cursor β} {H : β → List UInt8 → Prop}
    (hx : Recognizes x fun v l => l = v ∧ v.length = n) (hk : k.length = n)
    (hy : Recognizes y H) :
    Recognizes (x >>= fun a => reads (fun _ => rejectIf (a ≠ k) e) >>= fun _ => y)
      fun b l => ∃ l', H b l' ∧ l = k ++ l' :=
  (hx.bind fun _ => guard_bind hy).congr fun b l => by
    constructor
    · rintro ⟨a, _, l', ⟨rfl, -⟩, ⟨ha, hH⟩, rfl⟩
      obtain rfl := not_not.mp ha
      exact ⟨l', hH, rfl⟩
    · rintro ⟨l', hH, rfl⟩
      exact ⟨k, k, l', ⟨rfl, hk⟩, ⟨not_not.mpr rfl, hH⟩, rfl⟩

/-- A reader that has to use up the whole string accepts exactly the strings of its format. -/
theorem runAll_eq_ok (hx : Recognizes x F) {trailing : α → ℕ → ε} {g : α → β}
    {bytes : List UInt8} {b : β} :
    Cursor.runAll (x >>= fun a => Cursor.atEnd (trailing a) >>= fun _ => Pure.pure (g a)) bytes =
      .ok b ↔ ∃ a, F a bytes ∧ b = g a := by
  rw [Cursor.runAll_eq_ok_iff]
  constructor
  · rintro ⟨c'', hrun⟩
    obtain ⟨a, c', hxrun, hrest⟩ := run_bind_eq_ok.mp hrun
    obtain ⟨u, c₂, hend, hpure⟩ := run_bind_eq_ok.mp hrest
    obtain ⟨l, hF, hpre, rfl⟩ := (hx _ a c').mp hxrun
    have hlen : bytes.length ≤ l.length := by
      have hremaining := (Cursor.run_atEnd_eq_ok.mp hend).1
      simp only [Cursor.remaining, Cursor.skip, Cursor.new] at hremaining
      omega
    obtain rfl := hpre.eq_of_length_le hlen
    cases hpure
    exact ⟨a, hF, rfl⟩
  · rintro ⟨a, hF, rfl⟩
    have hxrun := (hx (Cursor.new bytes) a _).mpr ⟨bytes, hF, List.prefix_rfl, rfl⟩
    have hend : ((Cursor.new bytes).skip bytes.length).remaining = 0 := by
      simp [Cursor.remaining, Cursor.skip, Cursor.new]
    refine ⟨(Cursor.new bytes).skip bytes.length, ?_⟩
    rw [run_bind_of_ok hxrun, run_bind_of_ok (a := ()) (Cursor.run_atEnd_eq_ok.mpr ⟨hend, rfl⟩)]
    rfl

/-- A reader that is told the length of the whole string and finds it declared in the first field
accepts exactly the strings of a value that have its size. -/
theorem runAll_declared_eq_ok {size : β → ℕ} {G : β → ℕ → List UInt8 → Prop}
    {read : ℕ → EStateM ε Cursor (UInt64 × β)}
    (hx : ∀ length, Recognizes (read length) fun w l =>
      w.1.toNat = length ∧ size w.2 = length ∧ G w.2 length l)
    {trailing : UInt64 × β → ℕ → ε} {bytes : List UInt8} {b : β}
    (hsize : G b (size b) bytes → bytes.length = size b ∧ size b < 2 ^ 64) :
    Cursor.runAll (read bytes.length >>= fun w =>
      Cursor.atEnd (trailing w) >>= fun _ => Pure.pure w.2) bytes = .ok b ↔
      G b (size b) bytes := by
  rw [(hx bytes.length).runAll_eq_ok]
  constructor
  · rintro ⟨w, ⟨-, hlength, hG⟩, rfl⟩
    rwa [hlength]
  · intro hG
    obtain ⟨hlength, hlt⟩ := hsize hG
    refine ⟨(UInt64.ofNat bytes.length, b), ⟨?_, hlength.symm, hlength.symm ▸ hG⟩, rfl⟩
    exact UInt64.toNat_ofNat_of_lt' (hlength.symm ▸ hlt)

end Recognizes

end MiniHypervisor.Bytes
