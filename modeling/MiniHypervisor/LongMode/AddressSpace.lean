import MiniHypervisor.LongMode.PageTables

/-!
# The address space of the bootstrap tables

The page walk over the installed tables, for every canonical virtual address.  Only the first entry
of the two upper tables is present, so a walk that succeeds stays below 1 GiB; of the page directory
only the identity window and the alias window are present, and in the alias window only the pages
that were given an entry.  So the address space is exactly the low 2 MiB and the listed pages.
-/

namespace MiniHypervisor.LongMode

open Bytes Control Memory Paging

/-- A virtual address whose bits 63 to 47 are equal. -/
def Canonical (va : ℕ) : Prop := va < 2 ^ 47 ∨ 2 ^ 64 - 2 ^ 47 ≤ va ∧ va < 2 ^ 64

/-- The walk of a canonical address through two upper tables that lead only to the first GiB. -/
theorem walk_upper {entry : ℕ → ℕ → Option ℕ} {va pml4 pdpt pml4e pdpte : ℕ}
    (hpml4 : OnlyFirst entry pml4 pml4e) (hpdpt : OnlyFirst entry pdpt pdpte)
    (hlink : entryIsLarge pml4e = false ∧ entryFrame pml4e 4096 = pdpt)
    (hlink' : entryIsLarge pdpte = false) (hva : Canonical va) :
    walk entry va 4 pml4 = if va < 2 ^ 30 then
      (walk entry va 2 (entryFrame pdpte 4096)).map fun w =>
        (w.through pdpt pdpte).through pml4 pml4e else none := by
  have hindex : va < 2 ^ 30 ↔ va / 2 ^ 39 % 512 = 0 ∧ va / 2 ^ 30 % 512 = 0 := by
    unfold Canonical at hva
    omega
  rw [hpml4.walk_eq hlink.1, hlink.2, hpdpt.walk_eq hlink', if_congr hindex rfl rfl, ite_and]
  refine ite_congr rfl (fun _ => ?_) fun _ => rfl
  split_ifs
  · rw [Option.map_map]
    rfl
  · rfl

/-- Every entry of the four tables: `window` gives the entries of the alias window, which has none
when the page directory does not link it. -/
structure ExactTables (window : ℕ → Option ℕ) (mem : GuestMemory) : Prop where
  pml4 : OnlyFirst (tableEntry mem) 0x1000 0x2003
  pdpt : OnlyFirst (tableEntry mem) 0x2000 0x3003
  pd : ∀ i < 512, i ≠ 2 → tableEntry mem 0x3000 i = if i = 0 then some 0x83 else none
  link : tableEntry mem 0x3000 2 = some 0x4003 ∨
    tableEntry mem 0x3000 2 = none ∧ ∀ i < 512, window i = none
  pt : ∀ i < 512, tableEntry mem 0x4000 i = window i

theorem ExactTables.of_read_eq {window : ℕ → Option ℕ} {mem mem' : GuestMemory}
    (h : ExactTables window mem)
    (hread : ∀ a, 0x1000 ≤ a → a + 8 ≤ 0x5000 → mem'.read a 8 = mem.read a 8) :
    ExactTables window mem' := by
  have hentry : ∀ table i, 0x1000 ≤ table → table ≤ 0x4000 → i < 512 →
      tableEntry mem' table i = tableEntry mem table i := by
    intro table i hfirst hlast hi
    rw [tableEntry, tableEntry, hread _ (by omega) (by omega)]
  refine ⟨fun i hi => ?_, fun i hi => ?_, fun i hi hne => ?_, ?_, fun i hi => ?_⟩
  · rw [hentry _ i (by norm_num) (by norm_num) hi, h.pml4 i hi]
  · rw [hentry _ i (by norm_num) (by norm_num) hi, h.pdpt i hi]
  · rw [hentry _ i (by norm_num) (by norm_num) hi, h.pd i hi hne]
  · rw [hentry _ 2 (by norm_num) (by norm_num) (by norm_num)]
    exact h.link
  · rw [hentry _ i (by norm_num) le_rfl hi, h.pt i hi]

/-! ### The walk -/

section Walk

variable {mem : GuestMemory} {window : ℕ → Option ℕ} {va : ℕ}

/-- The walk of an address of the low 2 MiB. -/
def lowWalk (va : ℕ) : Walk := ⟨[(0x1000, 0x2003), (0x2000, 0x3003), (0x3000, 0x83)], va⟩

/-- The walk of an address of the alias window, with the entry of its page. -/
def windowWalk (va pte : ℕ) : Walk :=
  ⟨[(0x1000, 0x2003), (0x2000, 0x3003), (0x3010, 0x4003),
    (0x4000 + 8 * ((va - 0x400000) / 4096), pte)], entryFrame pte 4096 + va % 4096⟩

private theorem ExactTables.walk_pd (h : ExactTables window mem) (hva : va < 2 ^ 30) :
    walk (tableEntry mem) va 2 0x3000 =
      if va < 0x200000 then some ⟨[(0x3000, 0x83)], va⟩
      else if 0x400000 ≤ va ∧ va < 0x600000 then
        (window ((va - 0x400000) / 4096)).map fun pte =>
          ⟨[(0x3010, 0x4003), (0x4000 + 8 * ((va - 0x400000) / 4096), pte)],
            entryFrame pte 4096 + va % 4096⟩
      else none := by
  split_ifs with hlow hwindow
  · have hindex : va / 2 ^ 21 % 512 = 0 := by omega
    have hframe : entryFrame 0x83 (2 ^ 21) + va % 2 ^ 21 = va := by
      rw [entryFrame]
      omega
    have hpde := h.pd 0 (by norm_num) (by norm_num)
    rw [← hindex] at hpde
    rw [walk_of_large (e := 0x83) (by rw [hpde, hindex]; rfl) rfl, hframe, hindex]
  · have hindex : va / 2 ^ 21 % 512 = 2 := by omega
    have hpage : va / 2 ^ 12 % 512 = (va - 0x400000) / 4096 := by omega
    have hpt := h.pt ((va - 0x400000) / 4096) (by omega)
    rcases h.link with hlink | ⟨hlink, hnone⟩
    · rw [← hindex] at hlink
      rw [walk_of_link 1 hlink rfl, show entryFrame 0x4003 4096 = 0x4000 from rfl]
      rw [← hpage] at hpt ⊢
      cases hentry : window (va / 2 ^ 12 % 512) with
      | none => rw [walk_of_none 0 (hpt.trans hentry)]; rfl
      | some pte => rw [walk_of_page (hpt.trans hentry), hindex]; rfl
    · rw [← hindex] at hlink
      rw [walk_of_none 1 hlink, hnone _ (by omega)]
      rfl
  · have hpd := h.pd (va / 2 ^ 21 % 512) (Nat.mod_lt _ (by norm_num)) (by omega)
    rw [if_neg (by omega)] at hpd
    exact walk_of_none 1 hpd

/-- **The walk of every canonical address.** -/
theorem ExactTables.walk_eq (h : ExactTables window mem) (hva : Canonical va) :
    walk (tableEntry mem) va 4 longModePml4Addr =
      if va < 0x200000 then some (lowWalk va)
      else if 0x400000 ≤ va ∧ va < 0x600000 then
        (window ((va - 0x400000) / 4096)).map (windowWalk va)
      else none := by
  have hupper := walk_upper h.pml4 h.pdpt ⟨rfl, rfl⟩ rfl hva
  rw [show entryFrame 0x3003 4096 = 0x3000 from rfl] at hupper
  refine hupper.trans ?_
  by_cases hfirst : va < 2 ^ 30
  · rw [if_pos hfirst, h.walk_pd hfirst]
    split_ifs
    · rfl
    · rw [Option.map_map]
      rfl
    · rfl
  · rw [if_neg hfirst, if_neg (by omega), if_neg (by omega)]

theorem ExactTables.pageWalk_eq (h : ExactTables window mem) (hva : Canonical va) :
    pageWalk mem longModePml4Addr va =
      if va < 0x200000 then some va
      else if 0x400000 ≤ va ∧ va < 0x600000 then
        (window ((va - 0x400000) / 4096)).map fun pte => entryFrame pte 4096 + va % 4096
      else none := by
  rw [pageWalk, h.walk_eq hva]
  split_ifs
  · rfl
  · rw [Option.map_map]
    rfl
  · rfl

/-- A walk depends only on the bytes of the tables. -/
theorem ExactTables.pageWalk_congr (h : ExactTables window mem) {mem' : GuestMemory}
    (hread : ∀ a, 0x1000 ≤ a → a + 8 ≤ 0x5000 → mem'.read a 8 = mem.read a 8)
    (hva : Canonical va) :
    pageWalk mem' longModePml4Addr va = pageWalk mem longModePml4Addr va := by
  rw [h.pageWalk_eq hva, (h.of_read_eq hread).pageWalk_eq hva]

end Walk

/-! ### The installed tables -/

/-- The entry of a page of the alias window. -/
def windowEntry (pages : List (ℕ × ℕ)) (i : ℕ) : Option ℕ :=
  (pages.find? fun p => (p.1 - 0x400000) / 4096 == i).map fun p => p.2 + 3

section Tables

variable {mem : GuestMemory} {entries : List (ℕ × List UInt8)} {pages : List (ℕ × ℕ)}
  {table index : ℕ}

theorem tableEntry_of_mem (h : TableEntries entries) (hlow : CoversLow mem) {v : ℕ}
    (hmem : (table + 8 * index, leBytes 8 v) ∈ entries) (hv : v < 2 ^ 64) (hpresent : v % 2 = 1) :
    tableEntry (withTables mem entries) table index = some v :=
  tableEntry_of_read (h.read_of_mem hlow hmem) hv hpresent

theorem tableEntry_of_not_mem (h : TableEntries entries) (hlow : CoversLow mem)
    (htable : table ∈ tablePages) (hindex : index < 512)
    (hnot : ∀ w ∈ entries, w.1 ≠ table + 8 * index) :
    tableEntry (withTables mem entries) table index = none := by
  have hread := h.read_of_not_mem hlow htable hindex hnot
  simp [tableEntry, hread, ofLE, Except.toOption]

theorem mem_identityEntries {w : ℕ × List UInt8} (h : w ∈ identityEntries) :
    w.1 = 0x1000 ∨ w.1 = 0x2000 ∨ w.1 = 0x3000 := by
  simp only [identityEntries, List.mem_cons, List.not_mem_nil, or_false] at h
  rcases h with rfl | rfl | rfl <;> simp

/-- One of the three upper tables has only its first entry, apart from the link of the alias
table. -/
private theorem tableEntry_upper (h : TableEntries entries) (hlow : CoversLow mem) {v : ℕ}
    (hrest : ∀ w ∈ entries, w ∈ identityEntries ∨ w.1 = 0x3010 ∨ 0x4000 ≤ w.1)
    (htable : table = 0x1000 ∨ table = 0x2000 ∨ table = 0x3000)
    (hmem : (table, leBytes 8 v) ∈ entries) (hv : v < 2 ^ 64) (hpresent : v % 2 = 1)
    (hindex : index < 512) (hlink : table + 8 * index ≠ 0x3010) :
    tableEntry (withTables mem entries) table index = if index = 0 then some v else none := by
  split_ifs with hzero
  · subst hzero
    exact tableEntry_of_mem h hlow hmem hv hpresent
  · refine tableEntry_of_not_mem h hlow ?_ hindex fun w hw => ?_
    · rcases htable with rfl | rfl | rfl <;> simp [tablePages, longModePml4Addr, longModePdptAddr,
        longModePdAddr, longModeAliasPtAddr]
    · rcases hrest w hw with hw | hw | hw
      · have haddr := mem_identityEntries hw
        omega
      · omega
      · omega

private theorem exactTables_of_entries {window : ℕ → Option ℕ} (h : TableEntries entries)
    (hlow : CoversLow mem) (hidentity : ∀ w ∈ identityEntries, w ∈ entries)
    (hrest : ∀ w ∈ entries, w ∈ identityEntries ∨ w.1 = 0x3010 ∨ 0x4000 ≤ w.1)
    (hlink : tableEntry (withTables mem entries) 0x3000 2 = some 0x4003 ∨
      tableEntry (withTables mem entries) 0x3000 2 = none ∧ ∀ i < 512, window i = none)
    (hpt : ∀ i < 512, tableEntry (withTables mem entries) 0x4000 i = window i) :
    ExactTables window (withTables mem entries) := by
  refine ⟨fun i hi => ?_, fun i hi => ?_, fun i hi hne => ?_, hlink, hpt⟩
  · exact tableEntry_upper h hlow hrest (by simp) (hidentity _ (by simp [identityEntries]))
      (by norm_num) rfl hi (by omega)
  · exact tableEntry_upper h hlow hrest (by simp) (hidentity _ (by simp [identityEntries]))
      (by norm_num) rfl hi (by omega)
  · exact tableEntry_upper h hlow hrest (by simp) (hidentity _ (by simp [identityEntries]))
      (by norm_num) rfl hi (by omega)

theorem exactTables_identityEntries (hlow : CoversLow mem) :
    ExactTables (fun _ => none) (withTables mem identityEntries) := by
  have h := tableEntries_identityEntries
  have hnot : ∀ a, a = 0x3010 ∨ 0x4000 ≤ a → ∀ w ∈ identityEntries, w.1 ≠ a := by
    intro a ha w hw
    have haddr := mem_identityEntries hw
    omega
  refine exactTables_of_entries h hlow (fun _ hw => hw) (fun _ hw => Or.inl hw)
    (Or.inr ⟨?_, fun _ _ => rfl⟩) fun i hi => ?_
  · exact tableEntry_of_not_mem h hlow (by simp [tablePages, longModePdAddr]) (by norm_num)
      (hnot _ (Or.inl rfl))
  · exact tableEntry_of_not_mem h hlow (by simp [tablePages, longModeAliasPtAddr]) hi
      (hnot _ (Or.inr (by omega)))

theorem WindowPages.exactTables (h : WindowPages pages) (hlow : CoversLow mem) :
    ExactTables (windowEntry pages) (withTables mem (identityEntries ++ aliasEntries pages)) := by
  have hentries := h.tableEntries
  refine exactTables_of_entries hentries hlow (fun _ hw => List.mem_append_left _ hw)
    (fun w hw => ?_) (Or.inl ?_) fun i hi => ?_
  · rcases List.mem_append.mp hw with hw | hw
    · exact Or.inl hw
    · rcases List.mem_cons.mp hw with rfl | hw
      · exact Or.inr (Or.inl rfl)
      · obtain ⟨p, hp, rfl⟩ := List.mem_map.mp hw
        exact Or.inr (Or.inr (aliasEntryAddr_bounds (h.window p hp)).1)
  · exact tableEntry_of_mem hentries hlow (List.mem_append_right _ List.mem_cons_self)
      (by norm_num) rfl
  · unfold windowEntry
    cases hfind : pages.find? fun p => (p.1 - 0x400000) / 4096 == i with
    | none =>
        refine tableEntry_of_not_mem hentries hlow (by simp [tablePages, longModeAliasPtAddr]) hi ?_
        refine forall_mem_tableEntries (by norm_num; omega) (by norm_num; omega)
          (by norm_num; omega) (by norm_num; omega) fun p hp heq => ?_
        have hne := List.find?_eq_none.mp hfind p hp
        rw [beq_iff_eq] at hne
        simp only [aliasEntryAddr] at heq
        omega
    | some p =>
        have hp := List.mem_of_find?_eq_some hfind
        have hindex : (p.1 - 0x400000) / 4096 = i := by simpa using List.find?_some hfind
        have hframe := h.frame_lt p hp
        have haligned := h.frame_aligned p hp
        have haddr : aliasEntryAddr p.1 = 0x4000 + 8 * i := by
          simp only [aliasEntryAddr]
          omega
        have hentry : (aliasEntryAddr p.1, leBytes 8 (p.2 + 3)) ∈ aliasEntries pages :=
          List.mem_cons_of_mem _ (List.mem_map.mpr ⟨p, hp, rfl⟩)
        rw [haddr] at hentry
        simp only [Option.map_some]
        exact tableEntry_of_mem hentries hlow (List.mem_append_right _ hentry) (by omega)
          (by omega)

variable {va pa : ℕ}

theorem WindowPages.windowEntry_eq_some (h : WindowPages pages) (hlow : 0x400000 ≤ va) {pte : ℕ} :
    windowEntry pages ((va - 0x400000) / 4096) = some pte ↔
      ∃ p ∈ pages, p.1 = alignDownPage va ∧ pte = p.2 + 3 := by
  have hpage : ∀ p ∈ pages, (p.1 - 0x400000) / 4096 = (va - 0x400000) / 4096 ↔
      p.1 = alignDownPage va := by
    intro p hp
    have haligned := h.aligned p hp
    have hwindow := h.window p hp
    simp only [alignDownPage, longModePageSize]
    omega
  simp only [windowEntry, Option.map_eq_some_iff]
  constructor
  · rintro ⟨p, hfind, rfl⟩
    have hp := List.mem_of_find?_eq_some hfind
    have hindex : (p.1 - 0x400000) / 4096 = (va - 0x400000) / 4096 := by
      simpa using List.find?_some hfind
    exact ⟨p, hp, (hpage p hp).mp hindex, rfl⟩
  · rintro ⟨p, hp, hva, rfl⟩
    cases hfind : pages.find? fun q => (q.1 - 0x400000) / 4096 == (va - 0x400000) / 4096 with
    | none =>
        have hne := List.find?_eq_none.mp hfind p hp
        rw [beq_iff_eq] at hne
        exact absurd ((hpage p hp).mpr hva) hne
    | some q =>
        have hq := List.mem_of_find?_eq_some hfind
        have hindex : (q.1 - 0x400000) / 4096 = (va - 0x400000) / 4096 := by
          simpa using List.find?_some hfind
        have hsame : q.1 = p.1 := ((hpage q hq).mp hindex).trans hva.symm
        exact ⟨q, rfl, by rw [List.inj_on_of_nodup_map h.nodup hq hp hsame]⟩

theorem entryFrame_add_flags {frame : ℕ} (h : frame % 4096 = 0) :
    entryFrame (frame + 3) 4096 = frame % 2 ^ 52 := by
  unfold entryFrame
  omega

/-- **The address space of an alias window.** -/
theorem WindowPages.pageWalk_eq_some (h : WindowPages pages) (hlow : CoversLow mem)
    (hva : Canonical va) :
    pageWalk (withTables mem (identityEntries ++ aliasEntries pages)) longModePml4Addr va =
        some pa ↔
      va < 0x200000 ∧ pa = va ∨
        ∃ p ∈ pages, p.1 = alignDownPage va ∧ pa = p.2 % 2 ^ 52 + va % 4096 := by
  have hwindow : ∀ p ∈ pages, p.1 = alignDownPage va → 0x400000 ≤ va ∧ va < 0x600000 := by
    intro p hp heq
    have haligned := h.aligned p hp
    have hbounds := h.window p hp
    simp only [alignDownPage, longModePageSize] at heq
    omega
  rw [(h.exactTables hlow).pageWalk_eq hva]
  split_ifs with hid hin
  · rw [Option.some.injEq, eq_comm]
    refine ⟨fun heq => Or.inl ⟨hid, heq⟩, ?_⟩
    rintro (⟨-, heq⟩ | ⟨p, hp, heq, -⟩)
    · exact heq
    · have := hwindow p hp heq
      omega
  · rw [Option.map_eq_some_iff]
    constructor
    · rintro ⟨pte, hpte, rfl⟩
      obtain ⟨p, hp, heq, rfl⟩ := (h.windowEntry_eq_some hin.1).mp hpte
      exact Or.inr ⟨p, hp, heq, by rw [entryFrame_add_flags (h.frame_aligned p hp)]⟩
    · rintro (⟨hlt, -⟩ | ⟨p, hp, heq, rfl⟩)
      · exact absurd hlt hid
      · refine ⟨p.2 + 3, (h.windowEntry_eq_some hin.1).mpr ⟨p, hp, heq, rfl⟩, ?_⟩
        rw [entryFrame_add_flags (h.frame_aligned p hp)]
  · refine ⟨False.elim, ?_⟩
    rintro (⟨hlt, -⟩ | ⟨p, hp, heq, -⟩)
    · exact absurd hlt hid
    · exact absurd (hwindow p hp heq) hin

theorem pageWalk_identityEntries (hlow : CoversLow mem) (hva : Canonical va) :
    pageWalk (withTables mem identityEntries) longModePml4Addr va =
      if va < 0x200000 then some va else none := by
  rw [(exactTables_identityEntries hlow).pageWalk_eq hva, Option.map_none, ite_self]

end Tables

/-! ### The address space of a layout -/

namespace LongModeBootLayout

variable {memory : GuestMemoryRegion} {entry sp : ℕ} {pageMappings : List LongModePageMapping}
  {layout : LongModeBootLayout}

theorem eq_of_withPageMappings (h : withPageMappings memory entry sp pageMappings = .ok layout) :
    layout.memory = memory ∧ layout.pageMappings = pageMappings := by
  unfold withPageMappings at h
  split at h
  · cases h
  · split at h
    · cases h
    · obtain ⟨_, -, hlayout⟩ := bind_eq_ok.mp h
      obtain rfl := Except.ok.inj hlayout
      exact ⟨rfl, rfl⟩

theorem exactTables (layout : LongModeBootLayout) {mem : GuestMemory} (hlow : CoversLow mem) :
    ∃ window, ExactTables window (withTables mem layout.entries) := by
  unfold entries
  split_ifs
  · rw [List.append_nil]
    exact ⟨_, exactTables_identityEntries hlow⟩
  · exact ⟨_, layout.windowPages.exactTables hlow⟩

theorem pageWalk_eq_some (layout : LongModeBootLayout) {mem : GuestMemory} (hlow : CoversLow mem)
    {va pa : ℕ} (hva : Canonical va) :
    pageWalk (withTables mem layout.entries) longModePml4Addr va = some pa ↔
      va < longModeIdentityMapSize ∧ pa = va ∨
        ∃ m ∈ layout.pageMappings, m.virtualPage = alignDownPage va ∧
          pa = m.physicalPage + va % longModePageSize := by
  unfold entries
  split_ifs with hempty
  · rw [List.append_nil, pageWalk_identityEntries hlow hva, List.isEmpty_iff.mp hempty]
    simp only [List.not_mem_nil, false_and, exists_false, or_false, longModeIdentityMapSize]
    split_ifs with hid
    · rw [Option.some.injEq, eq_comm]
      exact ⟨fun heq => ⟨hid, heq⟩, fun heq => heq.2⟩
    · exact ⟨False.elim, fun heq => absurd heq.1 hid⟩
  · rw [layout.windowPages.pageWalk_eq_some hlow hva]
    simp only [pages, List.mem_map, exists_exists_and_eq_and]
    refine or_congr Iff.rfl (exists_congr fun m => and_congr_right fun hm => ?_)
    have hle := (layout.admissible m hm).physical_le
    have hframe : m.physicalPage % 2 ^ 52 = m.physicalPage := Nat.mod_eq_of_lt (by omega)
    rw [hframe]
    rfl

/-- **The address space is exact.** For every list of mappings that `with_page_mappings` accepts
and every content of the memory, the installation succeeds; after it a canonical virtual address is
mapped exactly when it is below 2 MiB, to itself, or its page is one of the listed virtual pages, to
the same offset in the page that backs it.  No listed page is a page table, and no byte outside the
tables has changed. -/
theorem exact_address_space (h : withPageMappings memory entry sp pageMappings = .ok layout)
    (mem : GuestMemory) (hregion : mem.region = memory) :
    ∃ mem', layout.installPageTables.run mem = .ok () mem' ∧
      (∀ va pa, Canonical va → (pageWalk mem' longModePml4Addr va = some pa ↔
        va < longModeIdentityMapSize ∧ pa = va ∨
          ∃ m ∈ pageMappings, m.virtualPage = alignDownPage va ∧
            pa = m.physicalPage + va % longModePageSize)) ∧
      (∀ m ∈ pageMappings, ∀ a, m.physicalPage ≤ a → a < m.physicalPage + longModePageSize →
        ¬ isPageTableAddress a) ∧
      mem'.region = mem.region ∧
      ∀ a, a < longModePml4Addr ∨ longModePageTableEnd ≤ a → mem'.byteAt a = mem.byteAt a := by
  obtain ⟨rfl, rfl⟩ := eq_of_withPageMappings h
  have hlow := layout.coversLow hregion
  refine ⟨_, layout.run_installPageTables_eq hregion,
    fun va pa hva => layout.pageWalk_eq_some hlow hva, fun m hm a hfirst hlast => ?_,
    region_withTables _ _, fun a ha => layout.tableEntries.byteAt_outside hlow ha⟩
  · have hnot := (layout.admissible m hm).not_table
    rw [isPageTableAddress_iff]
    simp only [longModePageSize] at hlast
    omega

/-- Two alias pages on one page of the low 2 MiB: both lead there, and the page between them leads
nowhere. -/
theorem exact_address_space_twoPages :
    ∃ region layout, GuestMemoryRegion.new 0 0x200000 = .ok region ∧
      withPageMappings region 0x10000 0x1ff000 [⟨0x400000, 0x10000⟩, ⟨0x402000, 0x10000⟩] =
        .ok layout ∧
      ∃ mem', layout.installPageTables.run ⟨region, fun _ => 0xff⟩ = .ok () mem' ∧
        pageWalk mem' longModePml4Addr 0x402123 = some 0x10123 ∧
        pageWalk mem' longModePml4Addr 0x401000 = none := by
  obtain ⟨region, hregion⟩ : ∃ region, GuestMemoryRegion.new 0 0x200000 = .ok region := ⟨_, rfl⟩
  obtain ⟨layout, hlayout⟩ : ∃ layout, withPageMappings region 0x10000 0x1ff000
      [⟨0x400000, 0x10000⟩, ⟨0x402000, 0x10000⟩] = .ok layout := by
    cases hregion
    exact ⟨_, rfl⟩
  obtain ⟨mem', hrun, hwalk, -⟩ := exact_address_space hlayout ⟨region, fun _ => 0xff⟩ rfl
  refine ⟨region, layout, hregion, hlayout, mem', hrun,
    (hwalk _ _ (Or.inl (by norm_num))).mpr (Or.inr ⟨⟨0x402000, 0x10000⟩, by simp, rfl, rfl⟩), ?_⟩
  refine Option.eq_none_iff_forall_ne_some.mpr fun pa hpa => ?_
  rcases (hwalk _ _ (Or.inl (by norm_num))).mp hpa with ⟨hlt, -⟩ | ⟨m, hm, hpage, -⟩
  · exact absurd hlt (by decide)
  · simp only [List.mem_cons, List.not_mem_nil, or_false] at hm
    rcases hm with rfl | rfl <;> exact absurd hpage (by decide)

end LongModeBootLayout

end MiniHypervisor.LongMode
