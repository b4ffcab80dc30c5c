import Mathlib.Algebra.Order.Group.Nat

/-!
# Page walks

The page walk of the 64-bit architecture, over any way to look up the entry at an index of a table.
A table has 512 entries; an entry of the lowest one maps a page of 4 KiB, and one of the two tables
above it maps a large page or leads to the table below.  A walk that succeeds records the entries it
has used: the processor sets the accessed bit in each of them and, for a store, the dirty bit in the
last one.  These two bits decide nothing, so a walk leads to the same place whatever they are.

## Main definitions

* `walk` : a walk through the tables of some levels.
* `PageAccess.permits`, `PageAccess.marks` : what an access of user mode needs, and the bits that
  it sets.
* `clean` : an entry without the two bits.

## Main results

* `walk_of_link`, `walk_of_page`, `walk_of_large`, `OnlyFirst.walk_eq` : one level of a walk.
* `trace_walk_clean` : the two bits do not matter.
-/

namespace MiniHypervisor.Paging

/-- The physical address in bits 51 to 12 of an entry, at the given page size. -/
def entryFrame (entry size : ℕ) : ℕ := entry % 2 ^ 52 / size * size

/-- The entry maps a large page. -/
def entryIsLarge (entry : ℕ) : Bool := entry / 2 ^ 7 % 2 = 1

/-- A walk that succeeds: the entries it uses, each with its address, from the upper table down, and
the physical address that it leads to. -/
structure Walk where
  entries : List (ℕ × ℕ)
  address : ℕ

namespace Walk

/-- The walk through one more table. -/
def through (slot entry : ℕ) (w : Walk) : Walk := ⟨(slot, entry) :: w.entries, w.address⟩

/-- The addresses of the entries. -/
def slots (w : Walk) : List ℕ := w.entries.map Prod.fst

/-- Where a walk passes and where it leads. -/
def trace (w : Walk) : List ℕ × ℕ := (w.slots, w.address)

end Walk

/-- The walk of a virtual address through the tables of some levels, from the table at `table` down;
with no level left, `table` is the page. -/
def walk (entry : ℕ → ℕ → Option ℕ) (va : ℕ) : (levels table : ℕ) → Option Walk
  | 0, page => some ⟨[], page + va % 4096⟩
  | level + 1, table => do
      let size := 2 ^ (12 + 9 * level)
      let index := va / size % 512
      let e ← entry table index
      -- In the entries of the uppermost and of the lowest table bit 7 does not mean a large page.
      if (level = 1 ∨ level = 2) ∧ entryIsLarge e then
        return ⟨[(table + 8 * index, e)], entryFrame e size + va % size⟩
      let rest ← walk entry va level (entryFrame e 4096)
      return rest.through (table + 8 * index) e

section Levels

variable {entry : ℕ → ℕ → Option ℕ} {va table e : ℕ} (level : ℕ)

theorem walk_of_none (h : entry table (va / 2 ^ (12 + 9 * level) % 512) = none) :
    walk entry va (level + 1) table = none := by
  rw [walk, h]
  rfl

theorem walk_of_link (h : entry table (va / 2 ^ (12 + 9 * level) % 512) = some e)
    (hlink : entryIsLarge e = false) :
    walk entry va (level + 1) table = (walk entry va level (entryFrame e 4096)).map
      (Walk.through (table + 8 * (va / 2 ^ (12 + 9 * level) % 512)) e) := by
  rw [walk, h]
  simp only [Option.bind_eq_bind, Option.bind_some, hlink, Bool.false_eq_true, and_false, if_false]
  cases walk entry va level (entryFrame e 4096) <;> rfl

theorem walk_of_page (h : entry table (va / 2 ^ 12 % 512) = some e) :
    walk entry va 1 table =
      some ⟨[(table + 8 * (va / 2 ^ 12 % 512), e)], entryFrame e 4096 + va % 4096⟩ := by
  rw [walk, h]
  rfl

theorem walk_of_large (h : entry table (va / 2 ^ 21 % 512) = some e)
    (hlarge : entryIsLarge e = true) :
    walk entry va 2 table =
      some ⟨[(table + 8 * (va / 2 ^ 21 % 512), e)], entryFrame e (2 ^ 21) + va % 2 ^ 21⟩ := by
  rw [walk, h]
  simp only [Option.bind_eq_bind, Option.bind_some, hlarge, true_or, and_self, if_true]
  rfl

/-- Only the first entry of a table is present. -/
def OnlyFirst (entry : ℕ → ℕ → Option ℕ) (table e : ℕ) : Prop :=
  ∀ i < 512, entry table i = if i = 0 then some e else none

variable {level} in
theorem OnlyFirst.walk_eq (h : OnlyFirst entry table e) (hlink : entryIsLarge e = false) :
    walk entry va (level + 1) table = if va / 2 ^ (12 + 9 * level) % 512 = 0 then
      (walk entry va level (entryFrame e 4096)).map (Walk.through table e) else none := by
  have hentry := h (va / 2 ^ (12 + 9 * level) % 512) (Nat.mod_lt _ (by decide))
  split_ifs at hentry ⊢ with hindex
  · rw [walk_of_link level hentry hlink, hindex, Nat.mul_zero, Nat.add_zero]
  · exact walk_of_none level hentry

end Levels

/-! ### Accesses -/

/-- The accessed bit of an entry. -/
def accessed : UInt8 := 0x20

/-- The dirty bit of an entry. -/
def dirty : UInt8 := 0x40

/-- What user mode does with an address. -/
inductive PageAccess where
  | read
  | write
  deriving DecidableEq, Repr

/-- The bits of an entry that an access of user mode needs. -/
def PageAccess.permits : PageAccess → ℕ → Bool
  | read, entry => entry / 2 ^ 2 % 2 = 1
  | write, entry => entry / 2 ^ 1 % 4 = 3

/-- The bits that the processor sets after a walk, each with the address of its entry. -/
def PageAccess.marks : PageAccess → List ℕ → List (ℕ × UInt8)
  | read, slots => slots.map fun slot => (slot, accessed)
  | write, slots =>
      slots.map (fun slot => (slot, accessed)) ++
        slots.getLast?.toList.map fun slot => (slot, dirty)

theorem PageAccess.mem_marks {access : PageAccess} {slots : List ℕ} {p : ℕ × UInt8}
    (h : p ∈ access.marks slots) : p.1 ∈ slots ∧ (p.2 = accessed ∨ p.2 = dirty) := by
  have hread : p ∈ slots.map (fun slot => (slot, accessed)) → p.1 ∈ slots ∧
      (p.2 = accessed ∨ p.2 = dirty) := by
    intro hp
    obtain ⟨slot, hslot, rfl⟩ := List.mem_map.mp hp
    exact ⟨hslot, .inl rfl⟩
  cases access with
  | read => exact hread h
  | write =>
      rcases List.mem_append.mp h with h | h
      · exact hread h
      · obtain ⟨slot, hslot, rfl⟩ := List.mem_map.mp h
        exact ⟨List.mem_of_getLast? (Option.mem_toList.mp hslot), .inr rfl⟩

/-- An entry without the accessed and the dirty bit. -/
def clean (entry : ℕ) : ℕ := entry / 128 * 128 + entry % 32

section Clean

variable (entry : ℕ → ℕ → Option ℕ) (va : ℕ)

theorem entryIsLarge_clean (e : ℕ) : entryIsLarge (clean e) = entryIsLarge e := by
  refine decide_eq_decide.mpr ?_
  rw [clean]
  omega

theorem entryFrame_clean (e : ℕ) : entryFrame (clean e) 4096 = entryFrame e 4096 := by
  simp only [entryFrame, clean]
  omega

theorem PageAccess.permits_clean (access : PageAccess) (e : ℕ) :
    access.permits (clean e) = access.permits e := by
  cases access <;> refine decide_eq_decide.mpr ?_ <;> rw [clean] <;> omega

/-- **The accessed and the dirty bits do not matter.** -/
theorem trace_walk_clean (levels table : ℕ) :
    (walk (fun table index => (entry table index).map clean) va levels table).map Walk.trace =
      (walk entry va levels table).map Walk.trace := by
  induction levels generalizing table with
  | zero => rfl
  | succ level ih =>
      rw [walk, walk]
      cases entry table (va / 2 ^ (12 + 9 * level) % 512) with
      | none => rfl
      | some e =>
          simp only [Option.bind_eq_bind, Option.map_some, Option.bind_some, entryIsLarge_clean,
            entryFrame_clean]
          split_ifs with hlarge
          · have hframe : entryFrame (clean e) (2 ^ (12 + 9 * level)) =
                entryFrame e (2 ^ (12 + 9 * level)) := by
              rcases hlarge.1 with rfl | rfl <;> simp only [entryFrame, clean] <;> omega
            simp only [hframe, Option.pure_def, Option.map_some, Walk.trace, Walk.slots,
              List.map_cons, List.map_nil]
          · -- Both walks go on through the same table.
            have hrest := ih (entryFrame e 4096)
            generalize walk entry va level (entryFrame e 4096) = w at hrest ⊢
            generalize walk _ va level (entryFrame e 4096) = w' at hrest ⊢
            cases w <;> cases w' <;> simp_all [Walk.trace, Walk.slots, Walk.through]

end Clean

end MiniHypervisor.Paging
