import MiniHypervisor.Control.Refinement
import MiniHypervisor.LongMode.AddressSpace

/-!
# Address spaces of user mode

An address space maps the low 2 MiB page by page.  Of its three upper tables only the first entry is
present; the last table gives every page a frame and says whether user mode may use it.  User mode
can use a page if every entry on the way to it has the user bit, and store to it if every entry has
the writable bit as well.  An access sets the accessed bit in the four entries of its walk and, if
it is a store, the dirty bit in the last one.

Several spaces in one memory are isolated when no frame that user mode can use in one of them holds
a table, or is one that user mode can use in another one.  Then accesses of user mode, in any number
and any order, change nothing in the tables but these bits, and each space sees its own stores only.

## Main results

* `Space.Leads.walk_eq` : the walk of every canonical address.
* `Space.holds_overwriteAll` : the tables as they are written.
* `Isolated.held_runSteps`, `Isolated.userByte_runSteps`, `Isolated.byteAt_runSteps` : accesses of
  user mode.
-/

namespace MiniHypervisor.LongMode

open Bytes Control Memory Paging

/-! ### Address spaces -/

/-- The page walk of user mode. -/
def userWalk (mem : GuestMemory) (access : PageAccess) (cr3 va : ℕ) : Option Walk :=
  walk (fun table index => (tableEntry mem table index).filter access.permits) va 4 cr3

/-- The present entry at an index of a table, without its accessed and dirty bits. -/
def cleanEntry (mem : GuestMemory) (table index : ℕ) : Option ℕ :=
  (tableEntry mem table index).map clean

/-- The tables of an address space, and the frame of each page and whether user mode may use it. -/
structure Space where
  pml4 : ℕ
  pdpt : ℕ
  pd : ℕ
  pt : ℕ
  frame : ℕ → ℕ
  user : ℕ → Bool

namespace Space

/-- The entry of a page. -/
def pte (space : Space) (index : ℕ) : ℕ :=
  space.frame index ||| (1 ||| 1 <<< 1 ||| if space.user index then 1 <<< 2 else 0)

/-- The tables are linked and every page of the low 2 MiB is given its entry. -/
def install (space : Space) : EStateM GuestMemoryError GuestMemory Unit := do
  writeU64 space.pml4 (space.pdpt ||| 0x7)
  writeU64 space.pdpt (space.pd ||| 0x7)
  writeU64 space.pd (space.pt ||| 0x7)
  (List.range 512).forM fun index => writeU64 (space.pt + index * 8) (space.pte index)

def upperTables (space : Space) : List ℕ := [space.pml4, space.pdpt, space.pd]

def tables (space : Space) : List ℕ := space.upperTables ++ [space.pt]

/-- The tables are different pages of the low 2 MiB, and so are the frames pages of it. -/
structure Valid (space : Space) : Prop where
  tables : ∀ t ∈ space.tables, t % 4096 = 0 ∧ t + 4096 ≤ 0x200000
  nodup : space.tables.Nodup
  frames : ∀ i < 512, space.frame i % 4096 = 0 ∧ space.frame i + 4096 ≤ 0x200000

/-- The upper tables lead to the last one, which has the given entries. -/
structure Leads (space : Space) (leaf : ℕ → Option ℕ) (entry : ℕ → ℕ → Option ℕ) : Prop where
  pml4 : OnlyFirst entry space.pml4 (space.pdpt + 7)
  pdpt : OnlyFirst entry space.pdpt (space.pd + 7)
  pd : OnlyFirst entry space.pd (space.pt + 7)
  pt : ∀ i < 512, entry space.pt i = leaf i

/-- Memory holds the tables of a space. -/
def Holds (space : Space) (mem : GuestMemory) : Prop :=
  space.Leads (fun i => some (space.pte i)) (cleanEntry mem)

/-- Where an address leads in user mode. -/
def userAddress (space : Space) (va : ℕ) : Option ℕ :=
  if va < 0x200000 ∧ space.user (va / 4096) then some (space.frame (va / 4096) + va % 4096)
  else none

/-- The addresses of the entries on the way to an address. -/
def slots (space : Space) (va : ℕ) : List ℕ :=
  [space.pml4, space.pdpt, space.pd, space.pt + 8 * (va / 4096)]

section Walk

variable {space : Space} {leaf : ℕ → Option ℕ} {entry : ℕ → ℕ → Option ℕ} {mem : GuestMemory}
  {va t i : ℕ}

theorem Valid.pte_eq (h : space.Valid) (hi : i < 512) :
    space.pte i = space.frame i + if space.user i then 7 else 3 := by
  have hframe := (h.frames i hi).1
  rw [pte]
  split_ifs <;> exact or_flags hframe (by decide)

/-- A link leads to its table. -/
theorem Valid.link (h : space.Valid) (ht : t ∈ space.tables) :
    entryIsLarge (t + 7) = false ∧ entryFrame (t + 7) 4096 = t := by
  obtain ⟨haligned, hle⟩ := h.tables t ht
  refine ⟨?_, by rw [entryFrame]; omega⟩
  rw [entryIsLarge, decide_eq_false_iff_not]
  omega

theorem mem_tables (space : Space) : space.pml4 ∈ space.tables ∧ space.pdpt ∈ space.tables ∧
    space.pd ∈ space.tables ∧ space.pt ∈ space.tables := by
  simp [tables, upperTables]

/-- **The walk of every canonical address.** -/
theorem Leads.walk_eq (h : space.Leads leaf entry) (hspace : space.Valid) (hva : Canonical va) :
    (walk entry va 4 space.pml4).map Walk.trace = if va < 0x200000 then
      (leaf (va / 4096)).map fun pte => (space.slots va, entryFrame pte 4096 + va % 4096)
      else none := by
  obtain ⟨-, hpdpt, hpd, hpt⟩ := space.mem_tables
  rw [walk_upper h.pml4 h.pdpt (hspace.link hpdpt) (hspace.link hpd).1 hva, (hspace.link hpd).2,
    h.pd.walk_eq (hspace.link hpt).1, (hspace.link hpt).2]
  by_cases hlow : va < 0x200000
  · have hentry := h.pt (va / 4096) (by omega)
    have hpage : va / 2 ^ 12 % 512 = va / 4096 := by omega
    rw [if_pos (by omega), if_pos (by omega), if_pos hlow]
    rw [← hpage] at hentry
    cases hleaf : leaf (va / 4096) with
    | none =>
        rw [walk_of_none 0 (hentry.trans (by rw [hpage, hleaf]))]
        rfl
    | some pte =>
        rw [walk_of_page (hentry.trans (by rw [hpage, hleaf])), hpage]
        rfl
  · rw [if_neg hlow]
    split_ifs
    · omega
    · rfl
    · rfl

theorem Holds.pageWalk_eq (h : space.Holds mem) (hspace : space.Valid) (hva : Canonical va) :
    pageWalk mem space.pml4 va =
      if va < 0x200000 then some (space.frame (va / 4096) + va % 4096) else none := by
  have htrace := (trace_walk_clean (tableEntry mem) va 4 space.pml4).symm.trans
    (Leads.walk_eq h hspace hva)
  have haddress := congrArg (Option.map Prod.snd) htrace
  rw [Option.map_map] at haddress
  refine haddress.trans ?_
  split_ifs with hlow
  · obtain ⟨haligned, hle⟩ := hspace.frames (va / 4096) (by omega)
    simp only [Option.map_some, hspace.pte_eq (show va / 4096 < 512 by omega), entryFrame]
    refine congrArg (fun frame => some (frame + va % 4096)) ?_
    split_ifs <;> omega
  · rfl

/-- The links permit every access; the entry of a page permits them if user mode may use it. -/
theorem Holds.userWalk_eq (h : space.Holds mem) (hspace : space.Valid) (access : PageAccess)
    (hva : Canonical va) : (userWalk mem access space.pml4 va).map Walk.trace =
      (space.userAddress va).map fun a => (space.slots va, a) := by
  have hpermits : ∀ {frame flags : ℕ}, frame % 4096 = 0 → flags = 7 ∨ flags = 3 →
      access.permits (frame + flags) = decide (flags = 7) := by
    intro frame flags haligned hflags
    cases access <;> simp only [PageAccess.permits, decide_eq_decide] <;> omega
  have hclean : ∀ t i, ((tableEntry mem t i).filter access.permits).map clean =
      (cleanEntry mem t i).filter access.permits := by
    intro t i
    rw [cleanEntry]
    cases tableEntry mem t i with
    | none => rfl
    | some e =>
        rw [Option.filter_some, Option.map_some, Option.filter_some, access.permits_clean]
        split_ifs <;> rfl
  have hlink : ∀ {t u}, t ∈ space.tables → OnlyFirst (cleanEntry mem) u (t + 7) →
      OnlyFirst (fun table index => (cleanEntry mem table index).filter access.permits) u
        (t + 7) := by
    intro t u ht hfirst i hi
    simp only [hfirst i hi]
    split_ifs
    · rw [Option.filter_some, hpermits (hspace.tables t ht).1 (.inl rfl)]
      rfl
    · rfl
  obtain ⟨-, hpdpt, hpd, hpt⟩ := space.mem_tables
  have huser : space.Leads (fun i => (some (space.pte i)).filter access.permits)
      fun table index => (cleanEntry mem table index).filter access.permits :=
    ⟨hlink hpdpt h.pml4, hlink hpd h.pdpt, hlink hpt h.pd, fun i hi => by simp only [h.pt i hi]⟩
  rw [userWalk, ← trace_walk_clean]
  simp only [hclean]
  rw [huser.walk_eq hspace hva, userAddress, ite_and, apply_ite (Option.map _)]
  refine ite_congr rfl (fun hlow => ?_) fun _ => rfl
  obtain ⟨haligned, hle⟩ := hspace.frames (va / 4096) (by omega)
  rw [Option.filter_some, hspace.pte_eq (by omega), hpermits haligned (by split_ifs <;> simp)]
  cases space.user (va / 4096) with
  | true => simp only [if_true, decide_true, Option.map_some, entryFrame]; congr 3; omega
  | false => simp

theorem Holds.address_userWalk (h : space.Holds mem) (hspace : space.Valid) (access : PageAccess)
    (hva : Canonical va) :
    (userWalk mem access space.pml4 va).map Walk.address = space.userAddress va := by
  have htrace := congrArg (Option.map Prod.snd) (h.userWalk_eq hspace access hva)
  rw [Option.map_map, Option.map_map] at htrace
  exact htrace.trans Option.map_id'

end Walk

/-! ### The tables as they are written -/

/-- The entries that are written. -/
def writes (space : Space) : List (ℕ × List UInt8) :=
  [(space.pml4, leBytes 8 (space.pdpt ||| 0x7))] ++ ([(space.pdpt, leBytes 8 (space.pd ||| 0x7))] ++
    ([(space.pd, leBytes 8 (space.pt ||| 0x7))] ++
    (List.range 512).map fun i => (space.pt + i * 8, leBytes 8 (space.pte i))))

section Tables

variable {space : Space} {mem : GuestMemory} {ws : List (ℕ × List UInt8)} {table index v : ℕ}

theorem forall_mem_writes {P : ℕ × List UInt8 → Prop} :
    (∀ w ∈ space.writes, P w) ↔ P (space.pml4, leBytes 8 (space.pdpt ||| 0x7)) ∧
      P (space.pdpt, leBytes 8 (space.pd ||| 0x7)) ∧ P (space.pd, leBytes 8 (space.pt ||| 0x7)) ∧
      ∀ i < 512, P (space.pt + i * 8, leBytes 8 (space.pte i)) := by
  simp only [writes, List.cons_append, List.nil_append, List.forall_mem_cons, List.forall_mem_map,
    List.mem_range]

/-- Every entry lies in one of the tables. -/
theorem mem_writes {w : ℕ × List UInt8} (hw : w ∈ space.writes) :
    w.2.length = 8 ∧ ∃ t ∈ space.tables, ∃ i < 512, w.1 = t + i * 8 := by
  obtain ⟨hpml4, hpdpt, hpd, hpt⟩ := space.mem_tables
  revert w
  rw [forall_mem_writes]
  simp only [length_leBytes, true_and]
  exact ⟨⟨_, hpml4, 0, by omega, rfl⟩, ⟨_, hpdpt, 0, by omega, rfl⟩, ⟨_, hpd, 0, by omega, rfl⟩,
    fun i hi => ⟨_, hpt, i, hi, rfl⟩⟩

/-- The entries of the pages are apart from those of an upper table. -/
theorem Valid.upper_ne (h : space.Valid) (ht : table ∈ space.upperTables) {i j : ℕ} (hi : i < 512)
    (hj : j < 512) : space.pt + j * 8 ≠ table + 8 * i := by
  have hne : table ≠ space.pt :=
    (List.nodup_append.mp h.nodup).2.2 table ht space.pt (List.mem_singleton_self _)
  have haligned := (h.tables table (List.mem_append_left _ ht)).1
  have haligned' := (h.tables _ space.mem_tables.2.2.2).1
  omega

theorem Valid.slotWrites (h : space.Valid) (hlow : CoversLow mem) :
    mem.SlotWrites 8 space.writes where
  contained w hw := by
    obtain ⟨-, t, ht, i, hi, haddr⟩ := mem_writes hw
    have hle := (h.tables t ht).2
    exact hlow.contains (by omega)
  aligned w hw := by
    obtain ⟨-, t, ht, i, hi, haddr⟩ := mem_writes hw
    have haligned := (h.tables t ht).1
    omega
  width w hw := (mem_writes hw).1
  nodup := by
    have hnodup := (List.nodup_append.mp h.nodup).1
    simp only [upperTables, List.nodup_cons, List.mem_cons, List.not_mem_nil, or_false, not_or,
      List.nodup_nil, and_true, not_false_eq_true] at hnodup
    have hapart : ∀ t ∈ space.upperTables, ∀ i < 512, space.pt + i * 8 ≠ t := fun t ht i hi =>
      h.upper_ne ht (i := 0) (by omega) hi
    simp only [upperTables, List.forall_mem_cons] at hapart
    have hpages : ((List.range 512).map fun i => space.pt + i * 8).Nodup :=
      List.nodup_range.map fun i j hij => by omega
    simp only [writes, List.cons_append, List.nil_append, List.map_cons, List.map_map,
      Function.comp_def, List.nodup_cons, List.mem_cons, List.mem_map, List.mem_range, not_or,
      not_exists, not_and, hpages, and_true]
    exact ⟨⟨hnodup.1.1, hnodup.1.2, hapart.1⟩, ⟨hnodup.2, hapart.2.1⟩, hapart.2.2.1⟩

/-- **The tables of a space.** Where no other entry of the upper tables is present, the entries make
the space. -/
theorem holds_overwriteAll (h : space.Valid) (hlow : CoversLow mem)
    (hupper : ∀ t ∈ space.upperTables, ∀ i < 512, i ≠ 0 → tableEntry mem t i = none) :
    space.Holds (mem.overwriteAll space.writes) := by
  have hslots := h.slotWrites hlow
  obtain ⟨hpml4, hpdpt, hpd, hpt⟩ := space.mem_tables
  have hlink : ∀ t ∈ space.upperTables, ∀ u ∈ space.tables,
      (t, leBytes 8 (u ||| 0x7)) ∈ space.writes →
      OnlyFirst (cleanEntry (mem.overwriteAll space.writes)) t (u + 7) := by
    intro t ht u hu hmem i hi
    obtain ⟨haligned, hle⟩ := h.tables u hu
    obtain ⟨haligned', hle'⟩ := h.tables t (List.mem_append_left _ ht)
    rw [cleanEntry]
    split_ifs with hzero
    · rw [or_flags haligned (by decide)] at hmem
      subst hzero
      rw [tableEntry_of_read (hslots.read_of_mem hmem) (by omega) (by omega), Option.map_some,
        clean]
      congr 1
      omega
    · rw [tableEntry, hslots.read_of_not_mem (by omega) (hlow.contains (by omega))
        (forall_mem_writes.mpr ?_), ← tableEntry, hupper t ht i hi hzero]
      · rfl
      · have hpage : ∀ s ∈ space.tables, s ≠ t + 8 * i := by
          intro s hs
          have hs' := (h.tables s hs).1
          omega
        exact ⟨hpage _ hpml4, hpage _ hpdpt, hpage _ hpd, fun j hj => h.upper_ne ht hi hj⟩
  refine ⟨hlink _ (by simp [upperTables]) _ hpdpt (by simp [writes]),
    hlink _ (by simp [upperTables]) _ hpd (by simp [writes]),
    hlink _ (by simp [upperTables]) _ hpt (by simp [writes]), fun i hi => ?_⟩
  obtain ⟨haligned, hle⟩ := h.frames i hi
  have hmem : (space.pt + 8 * i, leBytes 8 (space.pte i)) ∈ space.writes := by
    rw [Nat.mul_comm]
    simp only [writes, List.mem_append, List.mem_map, List.mem_range]
    exact Or.inr (Or.inr (Or.inr ⟨i, hi, rfl⟩))
  have hpte : space.pte i < 2 ^ 64 ∧ space.pte i % 2 = 1 ∧ clean (space.pte i) = space.pte i := by
    rw [h.pte_eq hi, clean]
    split_ifs <;> omega
  rw [cleanEntry, tableEntry_of_read (hslots.read_of_mem hmem) hpte.1 hpte.2.1, Option.map_some,
    hpte.2.2]

theorem tableEntry_overwriteAll_of_away (hlow : CoversLow mem) (htable : table + 4096 ≤ 0x200000)
    (hindex : index < 512)
    (haway : ∀ w ∈ ws, w.1 + w.2.length ≤ table ∨ table + 4096 ≤ w.1) :
    tableEntry (mem.overwriteAll ws) table index = tableEntry mem table index := by
  rw [tableEntry, tableEntry, GuestMemory.read_overwriteAll_disjoint (hlow.contains (by omega))
    (fun w _ => hlow.base_le w.1) fun w hw => ?_]
  have hw' := haway w hw
  omega

theorem Holds.of_cleanEntry_eq (h : space.Holds mem) {mem' : GuestMemory}
    (hentry : ∀ t ∈ space.tables, ∀ i < 512, cleanEntry mem' t i = cleanEntry mem t i) :
    space.Holds mem' := by
  obtain ⟨hpml4, hpdpt, hpd, hpt⟩ := space.mem_tables
  exact ⟨fun i hi => (hentry _ hpml4 i hi).trans (h.pml4 i hi),
    fun i hi => (hentry _ hpdpt i hi).trans (h.pdpt i hi),
    fun i hi => (hentry _ hpd i hi).trans (h.pd i hi),
    fun i hi => (hentry _ hpt i hi).trans (h.pt i hi)⟩

/-- Writes elsewhere leave the tables alone. -/
theorem Holds.overwriteAll (h : space.Holds mem) (hspace : space.Valid) (hlow : CoversLow mem)
    (haway : ∀ w ∈ ws, ∀ t ∈ space.tables, w.1 + w.2.length ≤ t ∨ t + 4096 ≤ w.1) :
    space.Holds (mem.overwriteAll ws) := by
  refine h.of_cleanEntry_eq fun t ht i hi => congrArg (Option.map clean) ?_
  exact tableEntry_overwriteAll_of_away hlow (hspace.tables t ht).2 hi fun w hw => haway w hw t ht

theorem Valid.writes_install {region : GuestMemoryRegion} (h : space.Valid)
    (hin : ∀ a n, a + n ≤ 0x200000 → region.Contains a n) :
    GuestMemory.Writes region space.install space.writes := by
  obtain ⟨hpml4, hpdpt, hpd, hpt⟩ := space.mem_tables
  have hslot : ∀ t ∈ space.tables, ∀ i < 512, ∀ v,
      region.Contains (t + i * 8) (leBytes 8 v).length := by
    intro t ht i hi v
    have hle := (h.tables t ht).2
    exact hin _ _ (by rw [length_leBytes]; omega)
  have hlink : ∀ t ∈ space.tables, ∀ v, GuestMemory.Writes region (writeU64 t v)
      [(t, leBytes 8 v)] := fun t ht v => .write (hslot t ht 0 (by norm_num) v)
  exact (hlink _ hpml4 _).seq ((hlink _ hpdpt _).seq ((hlink _ hpd _).seq
    (.forM (f := fun i => (space.pt + i * 8, leBytes 8 (space.pte i)))
      fun i hi => hslot _ hpt i (List.mem_range.mp hi) _)))

end Tables

/-! ### The bits of a walk -/

section Bits

variable {space : Space} {mem : GuestMemory} {bits : List (ℕ × UInt8)} {table index : ℕ}

/-- The accessed and the dirty bit are apart from the others of the first byte of an entry. -/
theorem bitsAt_marks (h : ∀ p ∈ bits, p.2 = accessed ∨ p.2 = dirty) (a : ℕ) :
    (GuestMemory.bitsAt bits a).toNat / 2 ^ 7 = 0 ∧
      (GuestMemory.bitsAt bits a).toNat % 2 ^ 5 = 0 := by
  refine GuestMemory.bitsAt_induction (P := fun x => x.toNat / 2 ^ 7 = 0 ∧ x.toNat % 2 ^ 5 = 0)
    ⟨rfl, rfl⟩ (fun x y hx hy => ?_) fun p hp _ => ?_
  · rw [UInt8.toNat_or, Nat.or_div_two_pow, Nat.or_mod_two_pow, hx.1, hx.2, hy.1, hy.2]
    exact ⟨rfl, rfl⟩
  · rcases h p hp with hbit | hbit <;> rw [hbit] <;> decide

/-- Setting accessed and dirty bits leaves the rest of an entry. -/
theorem cleanEntry_setBits (hlow : CoversLow mem)
    (hbits : ∀ p ∈ bits, p.1 % 8 = 0 ∧ (p.2 = accessed ∨ p.2 = dirty)) (haligned : table % 8 = 0)
    (htable : table + 4096 ≤ 0x200000) (hindex : index < 512) :
    cleanEntry (mem.setBits bits) table index = cleanEntry mem table index := by
  have hbase := hlow.base_le
  have hin : mem.region.Contains (table + 8 * index) 8 := hlow.contains (by omega)
  have hbyte : ∀ a, (mem.setBits bits).byteAt a = mem.byteAt a ||| GuestMemory.bitsAt bits a :=
    fun a => GuestMemory.byteAt_setBits (fun p _ => hbase p.1) (hbase a)
  -- Only the first byte of the entry can have changed.
  have hrest : ∀ i < 7, (mem.setBits bits).byteAt (table + 8 * index + 1 + i) =
      mem.byteAt (table + 8 * index + 1 + i) := by
    intro i hi
    rw [hbyte, GuestMemory.bitsAt_eq_zero fun p hp => ?_, UInt8.or_zero]
    have hp' := (hbits p hp).1
    omega
  obtain ⟨hhigh, hlow'⟩ := bitsAt_marks (fun p hp => (hbits p hp).2) (table + 8 * index)
  have hfirst := congrArg UInt8.toNat (hbyte (table + 8 * index))
  rw [UInt8.toNat_or] at hfirst
  have hdiv := congrArg (· / 2 ^ 7) hfirst
  have hmod := congrArg (· % 2 ^ 5) hfirst
  simp only [Nat.or_div_two_pow, Nat.or_mod_two_pow, hhigh, hlow', Nat.or_zero] at hdiv hmod
  have hread := GuestMemory.read_succ hin
  have hin' : (mem.setBits bits).region.Contains (table + 8 * index) 8 := by
    rwa [mem.region_setBits]
  have hread' := GuestMemory.read_succ hin'
  rw [GuestMemory.read_congr (mem.region_setBits bits) (hlow.contains (by omega)) hrest] at hread'
  obtain ⟨rest, hrest⟩ : ∃ rest, mem.read (table + 8 * index + 1) 7 = .ok rest :=
    ⟨_, GuestMemory.read_eq_ok.mpr ⟨hlow.contains (by omega), rfl⟩⟩
  rw [hrest] at hread hread'
  rw [cleanEntry, cleanEntry, tableEntry_eq hread, tableEntry_eq hread', ofLE, ofLE]
  generalize ((mem.setBits bits).byteAt (table + 8 * index)).toNat = first' at hdiv hmod ⊢
  split_ifs
  · rw [Option.map_some, Option.map_some, clean, clean]
    congr 1
    omega
  · omega
  · omega
  · rfl

end Bits

end Space

/-! ### Accesses of user mode -/

variable {ι : Type}

/-- An access that user mode tries in one of several spaces: a load, or a store of a byte. -/
structure UserAccess (ι : Type) where
  space : ι
  va : ℕ
  stored : Option UInt8
  canonical : Canonical va

namespace UserAccess

def access (op : UserAccess ι) : PageAccess := if op.stored.isSome then .write else .read

/-- The bits that an access sets in the tables. -/
def marks (spaces : ι → Space) (op : UserAccess ι) : List (ℕ × UInt8) :=
  ((spaces op.space).userAddress op.va).elim [] fun _ =>
    op.access.marks ((spaces op.space).slots op.va)

/-- What an access stores at a physical address. -/
def storedAt (spaces : ι → Space) (op : UserAccess ι) (address : ℕ) : Option UInt8 :=
  if (spaces op.space).userAddress op.va = some address then op.stored else none

end UserAccess

/-- If user mode may use the page, then the bits of the walk are set and a store reaches memory;
otherwise the access faults. -/
def userAccess (spaces : ι → Space) (mem : GuestMemory) (op : UserAccess ι) : GuestMemory :=
  match userWalk mem op.access (spaces op.space).pml4 op.va with
  | some w => (mem.setBits (op.access.marks w.slots)).overwrite w.address op.stored.toList
  | none => mem

/-- What user mode sees at an address of a space. -/
def userByte (spaces : ι → Space) (mem : GuestMemory) (r : ι) (va : ℕ) : Option UInt8 :=
  ((userWalk mem .read (spaces r).pml4 va).map Walk.address).map mem.byteAt

/-- The bytes of the frames that user mode can use. -/
def Space.Owns (space : Space) (address : ℕ) : Prop :=
  ∃ i < 512, space.user i = true ∧ space.frame i = address / 4096 * 4096

/-- Spaces that do not share a frame that user mode can use, and whose tables are no such frames. -/
structure Isolated (spaces : ι → Space) : Prop where
  valid : ∀ r, (spaces r).Valid
  tables : ∀ r s, ∀ t ∈ (spaces s).tables, ¬ (spaces r).Owns t
  apart : ∀ r s address, r ≠ s → (spaces r).Owns address → ¬ (spaces s).Owns address

/-- Memory holds the tables of all spaces. -/
structure Held (spaces : ι → Space) (mem : GuestMemory) : Prop where
  low : CoversLow mem
  holds : ∀ r, (spaces r).Holds mem

theorem Space.owns_of_userAddress {space : Space} {va address : ℕ} (h : space.Valid)
    (haddress : space.userAddress va = some address) : space.Owns address := by
  rw [userAddress] at haddress
  split_ifs at haddress with huser
  · obtain ⟨haligned, -⟩ := h.frames (va / 4096) (by omega)
    have heq := Option.some.inj haddress
    exact ⟨va / 4096, by omega, huser.2, by omega⟩

namespace Isolated

variable {spaces : ι → Space} {mem : GuestMemory} {op : UserAccess ι} {address : ℕ}

/-- What an access does. -/
theorem userAccess_eq (h : Isolated spaces) (hheld : Held spaces mem) :
    userAccess spaces mem op = ((spaces op.space).userAddress op.va).elim mem fun a =>
      (mem.setBits (op.marks spaces)).overwrite a op.stored.toList := by
  have htrace := (hheld.holds op.space).userWalk_eq (h.valid op.space) op.access op.canonical
  rw [userAccess, UserAccess.marks]
  cases hwalk : userWalk mem op.access (spaces op.space).pml4 op.va with
  | none =>
      rw [hwalk, Option.map_none, eq_comm, Option.map_eq_none_iff] at htrace
      rw [htrace]
      rfl
  | some w =>
      rw [hwalk, Option.map_some, eq_comm, Option.map_eq_some_iff] at htrace
      obtain ⟨a, haddress, htrace⟩ := htrace
      obtain ⟨hslots, rfl⟩ := Prod.mk.inj htrace
      rw [haddress, hslots]
      rfl

/-- The bits that an access sets lie in the tables of its space. -/
theorem mem_marks (h : Isolated spaces) {p : ℕ × UInt8} (hp : p ∈ op.marks spaces) :
    p.1 % 8 = 0 ∧ (p.2 = accessed ∨ p.2 = dirty) ∧
      ∃ t ∈ (spaces op.space).tables, t = p.1 / 4096 * 4096 := by
  rw [UserAccess.marks, Space.userAddress] at hp
  split_ifs at hp with huser
  · obtain ⟨hslot, hbit⟩ := PageAccess.mem_marks hp
    have htables := (h.valid op.space).tables
    obtain ⟨hpml4, hpdpt, hpd, hpt⟩ := (spaces op.space).mem_tables
    simp only [Space.slots, List.mem_cons, List.not_mem_nil, or_false] at hslot
    rcases hslot with hslot | hslot | hslot | hslot
    · have haligned := (htables _ hpml4).1
      exact ⟨by omega, hbit, _, hpml4, by omega⟩
    · have haligned := (htables _ hpdpt).1
      exact ⟨by omega, hbit, _, hpdpt, by omega⟩
    · have haligned := (htables _ hpd).1
      exact ⟨by omega, hbit, _, hpd, by omega⟩
    · have haligned := (htables _ hpt).1
      exact ⟨by omega, hbit, _, hpt, by omega⟩
  · cases hp

/-- A frame that user mode can use holds no entry. -/
theorem bitsAt_of_owns (h : Isolated spaces) {r : ι} (howns : (spaces r).Owns address) :
    GuestMemory.bitsAt (op.marks spaces) address = 0 := by
  refine GuestMemory.bitsAt_eq_zero fun p hp heq => ?_
  obtain ⟨-, -, t, ht, htable⟩ := h.mem_marks hp
  obtain ⟨i, hi, huser, hframe⟩ := howns
  refine h.tables r op.space t ht ⟨i, hi, huser, ?_⟩
  rw [hframe, htable, heq, Nat.mul_div_cancel _ (by decide)]

theorem byteAt_userAccess (h : Isolated spaces) (hheld : Held spaces mem) :
    (userAccess spaces mem op).byteAt address = (op.storedAt spaces address).getD
      (mem.byteAt address ||| GuestMemory.bitsAt (op.marks spaces) address) := by
  have hbase := hheld.low.base_le
  have hbits : (mem.setBits (op.marks spaces)).byteAt address =
      mem.byteAt address ||| GuestMemory.bitsAt (op.marks spaces) address :=
    GuestMemory.byteAt_setBits (fun p _ => hbase p.1) (hbase address)
  rw [h.userAccess_eq hheld, UserAccess.storedAt]
  cases haddress : (spaces op.space).userAddress op.va with
  | none =>
      rw [if_neg nofun, Option.getD_none, UserAccess.marks, haddress, Option.elim, Option.elim,
        GuestMemory.bitsAt, UInt8.or_zero]
  | some a =>
      rw [Option.elim, ← hbits]
      have hbase' : ∀ b, (mem.setBits (op.marks spaces)).region.base ≤ b := by
        rw [GuestMemory.region_setBits]
        exact hbase
      split_ifs with heq
      · obtain rfl := Option.some.inj heq
        cases op.stored with
        | none => exact GuestMemory.byteAt_overwrite_outside (hbase' _) (hbase' _) (.inr le_rfl)
        | some v =>
            exact GuestMemory.byteAt_overwrite_inside (i := 0) (hbase' a) Nat.one_pos
      · refine GuestMemory.byteAt_overwrite_outside (hbase' a) (hbase' _) ?_
        have hne : a ≠ address := fun heq' => heq (congrArg some heq')
        cases op.stored <;> simp <;> omega

/-- An access changes nothing in the tables but accessed and dirty bits. -/
theorem held_userAccess (h : Isolated spaces) (mem : GuestMemory) (op : UserAccess ι)
    (hheld : Held spaces mem) : Held spaces (userAccess spaces mem op) := by
  rw [h.userAccess_eq hheld]
  cases haddress : (spaces op.space).userAddress op.va with
  | none => exact hheld
  | some a =>
      have hlow : CoversLow (mem.setBits (op.marks spaces)) :=
        hheld.low.of_region_eq (mem.region_setBits _)
      have hbits : ∀ r, (spaces r).Holds (mem.setBits (op.marks spaces)) := fun r =>
        (hheld.holds r).of_cleanEntry_eq fun t ht i hi => by
          obtain ⟨haligned, hle⟩ := (h.valid r).tables t ht
          exact Space.cleanEntry_setBits hheld.low
            (fun p hp => ⟨(h.mem_marks hp).1, (h.mem_marks hp).2.1⟩) (by omega) hle hi
      obtain ⟨i, hi, huser, hframe⟩ := Space.owns_of_userAddress (h.valid op.space) haddress
      have haway : ∀ r, ∀ t ∈ (spaces r).tables,
          a + op.stored.toList.length ≤ t ∨ t + 4096 ≤ a := by
        intro r t ht
        have hlength : op.stored.toList.length ≤ 1 := by cases op.stored <;> simp
        -- A byte of a table would be owned, and with it the start of its page.
        by_contra hin
        have haligned := ((h.valid r).tables t ht).1
        have hpage : a / 4096 = t / 4096 := by omega
        exact h.tables op.space r t ht ⟨i, hi, huser, by rw [hframe, hpage]⟩
      have hwrite : ∀ r, (spaces r).Holds
          ((mem.setBits (op.marks spaces)).overwriteAll [(a, op.stored.toList)]) := fun r =>
        (hbits r).overwriteAll (h.valid r) hlow (List.forall_mem_singleton.mpr (haway r))
      exact ⟨hlow, hwrite⟩

/-- **The spaces stay.** -/
theorem held_runSteps (h : Isolated spaces) (hheld : Held spaces mem) (ops : List (UserAccess ι)) :
    Held spaces (runSteps (userAccess spaces) mem ops) :=
  runSteps_invariant h.held_userAccess ops hheld

/-- **Outside of the frames of user mode** only the bits of the walks change. -/
theorem byteAt_runSteps (h : Isolated spaces) (hheld : Held spaces mem)
    (hout : ∀ r, ¬ (spaces r).Owns address) (ops : List (UserAccess ι)) :
    (runSteps (userAccess spaces) mem ops).byteAt address = mem.byteAt address |||
      GuestMemory.bitsAt (ops.flatMap (UserAccess.marks spaces)) address := by
  induction ops generalizing mem with
  | nil => exact (UInt8.or_zero).symm
  | cons op ops ih =>
      have hnot : op.storedAt spaces address = none := if_neg fun haddress =>
        hout op.space (Space.owns_of_userAddress (h.valid op.space) haddress)
      rw [runSteps_cons, ih (h.held_userAccess mem op hheld), h.byteAt_userAccess hheld, hnot,
        Option.getD_none, List.flatMap_cons, GuestMemory.bitsAt_append, UInt8.or_assoc]

/-- **Noninterference.** User mode sees in a space what its own stores there have left. -/
theorem userByte_runSteps [DecidableEq ι] (h : Isolated spaces) (hheld : Held spaces mem)
    (ops : List (UserAccess ι)) (r : ι) {va : ℕ} (hva : Canonical va) :
    userByte spaces (runSteps (userAccess spaces) mem ops) r va =
      userByte spaces (runSteps (userAccess spaces) mem (ops.filter fun op => op.space = r)) r
        va := by
  have hwalk := fun ops => ((h.held_runSteps hheld ops).holds r).address_userWalk (h.valid r) .read
    hva
  rw [userByte, userByte, hwalk, hwalk]
  cases haddress : (spaces r).userAddress va with
  | none => rfl
  | some a =>
      have howns := Space.owns_of_userAddress (h.valid r) haddress
      refine congrArg some (runSteps_filter (fun mem => mem.byteAt a) h.held_userAccess
        (fun s t op hs ht hobs => ?_) (fun s op hs hop => ?_) ops hheld hheld rfl)
      · simp only [h.byteAt_userAccess hs, h.byteAt_userAccess ht] at hobs ⊢
        rw [hobs]
      · have hnot : op.storedAt spaces a = none := if_neg fun hstored =>
          h.apart r op.space a (Ne.symm (of_decide_eq_false hop)) howns
            (Space.owns_of_userAddress (h.valid op.space) hstored)
        simp only [h.byteAt_userAccess hs, hnot, Option.getD_none, h.bitsAt_of_owns howns,
          UInt8.or_zero]

end Isolated

end MiniHypervisor.LongMode
