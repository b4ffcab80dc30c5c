import MiniHypervisor.Checkpoint.FaithfulRestore
import MiniHypervisor.Control.BinarySearch

/-!
# The pages that a checkpoint owns

A checkpoint of a vCPU with some guest pages (`src/state_snapshot/page_set.rs`) is captured from a
list of page addresses.  The addresses are put in order first, so the order in which they are listed
does not matter, and the pages are found again by binary search.

The pages lie in the memory and do not meet.  So a restore to a memory of the same region always
writes all of them, whatever the operations of the vCPU do after that, and writes nothing else.
-/

namespace MiniHypervisor.Checkpoint

open Control Kvm LongMode Memory

variable {σ : Type}

/-! ### Addresses -/

section Addresses

variable {l l' : List UInt64}

theorem pairwise_mergeSort_le (l : List UInt64) : l.mergeSort.Pairwise (· ≤ ·) := by
  have hsorted : l.mergeSort.Pairwise fun a b => decide (a ≤ b) = true :=
    List.pairwise_mergeSort (fun a b c hab hbc => by
        simpa using UInt64.le_trans (of_decide_eq_true hab) (of_decide_eq_true hbc))
      (fun a b => by simpa using UInt64.le_total a b) l
  exact hsorted.imp of_decide_eq_true

theorem mergeSort_eq_of_perm (h : l.Perm l') : l.mergeSort = l'.mergeSort := by
  have hperm : l.mergeSort.Perm l'.mergeSort :=
    (List.mergeSort_perm l _).trans (h.trans (List.mergeSort_perm l' _).symm)
  exact hperm.eq_of_pairwise (fun _ _ _ _ => UInt64.le_antisymm) (pairwise_mergeSort_le l)
    (pairwise_mergeSort_le l')

theorem adjacentEqual_eq_false_iff (hs : l.Pairwise (· ≤ ·)) :
    adjacentEqual l = false ↔ l.Pairwise (· < ·) := by
  induction l with
  | nil => simp [adjacentEqual]
  | cons a l ih =>
      obtain ⟨hle, hl⟩ := List.pairwise_cons.mp hs
      obtain _ | ⟨b, rest⟩ := l
      · simp [adjacentEqual]
      rw [adjacentEqual, Bool.or_eq_false_iff, ih hl, List.pairwise_cons (a := a),
        and_congr_left_iff]
      intro hlt
      rw [beq_eq_false_iff_ne]
      have hab := List.forall_mem_cons.mp hle
      constructor
      · intro hne
        have hfirst : a < b := UInt64.lt_of_le_of_ne hab.1 hne
        exact List.forall_mem_cons.mpr ⟨hfirst, fun c hc =>
          UInt64.lt_trans hfirst (List.rel_of_pairwise_cons hlt hc)⟩
      · intro h
        exact UInt64.ne_of_lt (List.forall_mem_cons.mp h).1

theorem pairwise_lt_mergeSort_iff : l.mergeSort.Pairwise (· < ·) ↔ l.Nodup := by
  rw [← (List.mergeSort_perm l _).nodup_iff]
  constructor
  · exact fun h => h.imp UInt64.ne_of_lt
  · intro h
    exact (pairwise_mergeSort_le l).imp₂ (fun _ _ => UInt64.lt_of_le_of_ne) h

/-- **The accepted addresses**: from one to eight, distinct and page aligned, and put in order. -/
theorem validatePageAddresses_eq_ok {addresses : List UInt64} :
    validatePageAddresses l = .ok addresses ↔
      (l ≠ [] ∧ l.length ≤ boundedCheckpointPageSetLimit ∧
        (∀ a ∈ l, a.toNat % longModePageSize = 0) ∧ l.Nodup) ∧ addresses = l.mergeSort := by
  have haligned (error : UInt64 → Error) (u : Unit) :
      (l.mergeSort.forM fun a => rejectIf (a.toNat % longModePageSize ≠ 0) (error a)) = .ok u ↔
        ∀ a ∈ l, a.toNat % longModePageSize = 0 := by
    refine forM_eq_ok.trans ?_
    simp only [rejectIf_eq_ok, not_not, List.mem_mergeSort]
  rw [eq_comm (a := addresses)]
  simp only [validatePageAddresses, bind_eq_ok, rejectIf_eq_ok, exists_const, haligned, not_lt,
    Bool.not_eq_true, adjacentEqual_eq_false_iff (pairwise_mergeSort_le l),
    pairwise_lt_mergeSort_iff, pure, Except.pure, Except.ok.injEq, and_assoc, ne_eq]

theorem validatePageAddresses_eq_of_perm (h : l.Perm l') :
    validatePageAddresses l = validatePageAddresses l' := by
  have hempty : l = [] ↔ l' = [] := by
    rw [← List.length_eq_zero_iff, ← List.length_eq_zero_iff, h.length_eq]
  simp only [validatePageAddresses, hempty, h.length_eq, mergeSort_eq_of_perm h]

end Addresses

/-! ### The pages of a capture -/

/-- The steps of `capture` before the vCPU. -/
def capturePages (memory : GuestMemory) (pageAddresses : List UInt64) :
    Except Error (List BoundedCheckpointPage) := do
  let addresses ← validatePageAddresses pageAddresses
  addresses.mapM (capturePage memory)

/-- The page that the memory shows at an address. -/
def shownPage (memory : GuestMemory) (address : UInt64) : BoundedCheckpointPage :=
  ⟨address, memory.mapping.read (address.toNat - memory.region.base) longModePageSize⟩

/-- From one to eight distinct addresses of pages in the region. -/
structure OwnablePages (region : GuestMemoryRegion) (l : List UInt64) : Prop where
  nonempty : 1 ≤ l.length
  limit : l.length ≤ boundedCheckpointPageSetLimit
  distinct : l.Nodup
  aligned : ∀ a ∈ l, a.toNat % longModePageSize = 0
  inside : ∀ a ∈ l, region.Contains a.toNat longModePageSize

section Capture

variable {memory : GuestMemory} {l : List UInt64} {pages : List BoundedCheckpointPage}

theorem capturePage_eq_ok {a : UInt64} {page : BoundedCheckpointPage} :
    capturePage memory a = .ok page ↔
      memory.region.Contains a.toNat longModePageSize ∧ page = shownPage memory a := by
  simp only [capturePage, bind_eq_ok, mapError_eq_ok, GuestMemory.read_eq_ok, pure, Except.pure,
    Except.ok.injEq, shownPage]
  constructor
  · rintro ⟨bytes, ⟨hin, hbytes⟩, hpage⟩
    rw [← hbytes]
    exact ⟨hin, hpage.symm⟩
  · rintro ⟨hin, hpage⟩
    exact ⟨_, ⟨hin, rfl⟩, hpage.symm⟩

theorem mapM_capturePage_eq_ok :
    l.mapM (capturePage memory) = .ok pages ↔
      (∀ a ∈ l, memory.region.Contains a.toNat longModePageSize) ∧
        pages = l.map (shownPage memory) := by
  induction l generalizing pages with
  | nil => simp [pure, Except.pure, eq_comm]
  | cons a l ih =>
      simp only [List.mapM_cons, bind_eq_ok, capturePage_eq_ok, ih, pure, Except.pure,
        Except.ok.injEq, List.forall_mem_cons, List.map_cons]
      constructor
      · rintro ⟨_, ⟨ha, rfl⟩, _, ⟨hl, rfl⟩, rfl⟩
        exact ⟨⟨ha, hl⟩, rfl⟩
      · rintro ⟨⟨ha, hl⟩, rfl⟩
        exact ⟨_, ⟨ha, rfl⟩, _, ⟨hl, rfl⟩, rfl⟩

/-- **The captured pages** are those that the memory shows, in the order of their addresses. -/
theorem capturePages_eq_ok :
    capturePages memory l = .ok pages ↔
      OwnablePages memory.region l ∧ pages = l.mergeSort.map (shownPage memory) := by
  rw [capturePages, bind_eq_ok]
  simp only [validatePageAddresses_eq_ok, mapM_capturePage_eq_ok]
  constructor
  · rintro ⟨_, ⟨⟨hne, hlimit, haligned, hnodup⟩, rfl⟩, hin, rfl⟩
    refine ⟨⟨List.length_pos_iff.mpr hne, hlimit, hnodup, haligned, fun a ha => ?_⟩, rfl⟩
    exact hin a (List.mem_mergeSort.mpr ha)
  · rintro ⟨h, rfl⟩
    refine ⟨_, ⟨⟨List.length_pos_iff.mp h.nonempty, h.limit, h.aligned, h.distinct⟩, rfl⟩, ?_, rfl⟩
    exact fun a ha => h.inside a (List.mem_mergeSort.mp ha)

theorem capturePages_eq_of_perm {l' : List UInt64} (h : l.Perm l') :
    capturePages memory l = capturePages memory l' := by
  rw [capturePages, validatePageAddresses_eq_of_perm h]
  rfl

end Capture

theorem BoundedVcpuPageSetCheckpoint.run_capture_eq_ok {ops : KvmOps σ} {id : VcpuId}
    {policy : GuestMsrAccessPolicy} {l : List UInt64} {memory : GuestMemory} {kvm : σ}
    {checkpoint : BoundedVcpuPageSetCheckpoint} {guest' : Guest σ} :
    (capture ops id policy l).run ⟨memory, kvm⟩ = .ok checkpoint guest' ↔
      capturePages memory l = .ok checkpoint.pages ∧
        ∃ kvm', (captureStateSnapshot ops id policy).run kvm = .ok checkpoint.vcpu kvm' ∧
          guest' = ⟨memory, kvm'⟩ := by
  rw [capturePages, bind_eq_ok]
  constructor
  · intro h
    obtain ⟨addresses, _, hvalidate, hrest⟩ := run_bind_eq_ok.mp h
    obtain ⟨pages, _, hread, hrest⟩ := run_bind_eq_ok.mp hrest
    obtain ⟨vcpu, _, hcapture, hreturn⟩ := run_bind_eq_ok.mp hrest
    obtain ⟨haddresses, rfl⟩ := run_reads_eq_ok.mp hvalidate
    obtain ⟨hpages, rfl⟩ := run_reads_eq_ok.mp hread
    obtain ⟨kvm', hvcpu, rfl⟩ := run_within_eq_ok.mp hcapture
    cases hreturn
    exact ⟨⟨addresses, haddresses, hpages⟩, kvm', hvcpu, rfl⟩
  · rintro ⟨⟨addresses, haddresses, hpages⟩, kvm', hvcpu, rfl⟩
    refine run_bind_eq_ok.mpr ⟨addresses, _, run_reads_eq_ok.mpr ⟨haddresses, rfl⟩, ?_⟩
    refine run_bind_eq_ok.mpr ⟨checkpoint.pages, _, run_reads_eq_ok.mpr ⟨hpages, rfl⟩, ?_⟩
    exact run_bind_eq_ok.mpr
      ⟨checkpoint.vcpu, _, run_within_eq_ok.mpr ⟨kvm', hvcpu, rfl⟩, rfl⟩

/-! ### The page with an address -/

/-- `BoundedVcpuPageSetCheckpoint::page` (lines 65-70). -/
def BoundedVcpuPageSetCheckpoint.page (checkpoint : BoundedVcpuPageSetCheckpoint)
    (address : UInt64) : Option BoundedCheckpointPage :=
  (binarySearchByKey (fun page => page.address.toNat) address.toNat checkpoint.pages).bind
    (checkpoint.pages[·]?)

namespace BoundedPageSetCheckpointComparison

variable (comparison : BoundedPageSetCheckpointComparison)

def allPagesExact : Bool := comparison.pages.all fun page => page.exact_

/-- `BoundedPageSetCheckpointComparison::page_exact` (lines 142-147). -/
def pageExact (address : UInt64) : Option Bool :=
  ((binarySearchByKey (fun page => page.address.toNat) address.toNat comparison.pages).bind
    (comparison.pages[·]?)).map fun page => page.exact_

end BoundedPageSetCheckpointComparison

section Ownership

variable {memory : GuestMemory} {l : List UInt64}

/-- What is found by its address among the values of a function at the addresses in order. -/
theorem find_map_mergeSort {α : Type} (address : α → UInt64) {f : UInt64 → α}
    (hf : ∀ a, address (f a) = a) (h : l.Nodup) {a : UInt64} {x : α} :
    (binarySearchByKey (fun x => (address x).toNat) a.toNat (l.mergeSort.map f)).bind
        ((l.mergeSort.map f)[·]?) = some x ↔ a ∈ l ∧ x = f a := by
  have hincreasing :
      (l.mergeSort.map f).Pairwise fun x y => (address x).toNat < (address y).toNat := by
    refine (pairwise_lt_mergeSort_iff.mpr h).map f fun a b hlt => ?_
    rw [hf, hf]
    exact UInt64.lt_iff_toNat_lt.mp hlt
  rw [getElem?_binarySearchByKey_iff hincreasing, List.mem_map]
  simp only [List.mem_mergeSort, UInt64.toNat_inj]
  constructor
  · rintro ⟨⟨b, hb, rfl⟩, heq⟩
    rw [← heq, hf]
    exact ⟨hb, rfl⟩
  · rintro ⟨ha, rfl⟩
    exact ⟨⟨a, ha, rfl⟩, hf a⟩

namespace BoundedVcpuPageSetCheckpoint

variable {checkpoint : BoundedVcpuPageSetCheckpoint}

theorem page_eq_some_iff (hpages : checkpoint.pages = l.mergeSort.map (shownPage memory))
    (h : l.Nodup) {a : UInt64} {page : BoundedCheckpointPage} :
    checkpoint.page a = some page ↔ a ∈ l ∧ page = shownPage memory a := by
  rw [BoundedVcpuPageSetCheckpoint.page, hpages]
  exact find_map_mergeSort BoundedCheckpointPage.address (fun _ => rfl) h

end BoundedVcpuPageSetCheckpoint

theorem pageExact_eq_some_iff {comparison : BoundedPageSetCheckpointComparison}
    (hpages : comparison.pages = exactPages (l.mergeSort.map (shownPage memory)))
    (h : l.Nodup) {a : UInt64} {exact_ : Bool} :
    comparison.pageExact a = some exact_ ↔ a ∈ l ∧ exact_ = true := by
  rw [exactPages, List.map_map] at hpages
  rw [BoundedPageSetCheckpointComparison.pageExact, hpages, Option.map_eq_some_iff]
  simp only [find_map_mergeSort BoundedCheckpointPageComparison.address
    (f := (fun page : BoundedCheckpointPage => ⟨page.address, true⟩) ∘ shownPage memory)
    (fun _ => rfl) h]
  constructor
  · rintro ⟨_, ⟨ha, rfl⟩, rfl⟩
    exact ⟨ha, rfl⟩
  · rintro ⟨ha, rfl⟩
    exact ⟨_, ⟨ha, rfl⟩, rfl⟩

/-! ### Restores -/

theorem length_shownPage (a : UInt64) : (shownPage memory a).bytes.length = longModePageSize := by
  rw [shownPage, Bytes.ByteMap.length_read]

theorem read_shownPage {a : UInt64} (h : memory.region.Contains a.toNat longModePageSize) :
    memory.read a.toNat longModePageSize = .ok (shownPage memory a).bytes := by
  rw [GuestMemory.read_eq_ok, shownPage, and_iff_left rfl]
  exact h

theorem mem_shownPages {page : BoundedCheckpointPage} :
    page ∈ l.mergeSort.map (shownPage memory) ↔ ∃ a ∈ l, shownPage memory a = page := by
  simp only [List.mem_map, List.mem_mergeSort]

theorem OwnablePages.apart {region : GuestMemoryRegion} (h : OwnablePages region l) :
    ((pageWrites (l.mergeSort.map (shownPage memory))).map GuestMemory.writtenRange).Pairwise
      GuestMemory.RangesApart := by
  have hsorted := pairwise_lt_mergeSort_iff.mpr h.distinct
  rw [pageWrites, List.map_map, List.map_map, List.pairwise_map]
  refine hsorted.imp_of_mem fun {a b} ha hb hlt => .inl ?_
  have hfirst := h.aligned a (List.mem_mergeSort.mp ha)
  have hsecond := h.aligned b (List.mem_mergeSort.mp hb)
  have hnat := UInt64.lt_iff_toNat_lt.mp hlt
  simp only [Function.comp_apply, GuestMemory.writtenRange, length_shownPage]
  simp only [shownPage, longModePageSize] at hfirst hsecond ⊢
  omega

/-- The pages of a capture are inside every memory of the region, and are read back once written. -/
theorem OwnablePages.restored {target : GuestMemory} (h : OwnablePages target.region l)
    (memory : GuestMemory) :
    (∀ page ∈ l.mergeSort.map (shownPage memory),
        target.region.Contains page.address.toNat page.bytes.length) ∧
      HoldsPages (l.mergeSort.map (shownPage memory))
        (withPages (l.mergeSort.map (shownPage memory)) target) := by
  have hin : ∀ page ∈ l.mergeSort.map (shownPage memory),
      target.region.Contains page.address.toNat page.bytes.length := by
    intro page hpage
    obtain ⟨a, ha, rfl⟩ := mem_shownPages.mp hpage
    rw [length_shownPage]
    exact h.inside a ha
  refine ⟨hin, fun page hpage => ?_⟩
  refine GuestMemory.read_overwriteAll_of_mem (w := (page.address.toNat, page.bytes)) ?_ h.apart
    (List.mem_map_of_mem hpage)
  exact List.forall_mem_map.mpr hin

theorem OwnablePages.byteAt_outside {target : GuestMemory} (h : OwnablePages target.region l)
    {b : ℕ} (hb : target.region.base ≤ b)
    (hout : ∀ a ∈ l, b < a.toNat ∨ a.toNat + longModePageSize ≤ b) :
    (withPages (l.mergeSort.map (shownPage memory)) target).byteAt b = target.byteAt b := by
  refine GuestMemory.byteAt_overwriteAll_outside hb ?_ ?_
  · exact List.forall_mem_map.mpr fun page hpage => ((h.restored memory).1 page hpage).1
  · refine List.forall_mem_map.mpr fun page hpage => ?_
    obtain ⟨a, ha, rfl⟩ := mem_shownPages.mp hpage
    rw [length_shownPage]
    exact hout a ha

namespace BoundedVcpuPageSetCheckpoint

variable {checkpoint : BoundedVcpuPageSetCheckpoint} {ops : KvmOps σ} {id : VcpuId} {kvm kvm' : σ}

theorem memory_restoreAndVerify
    (h : ∀ page ∈ checkpoint.pages, memory.region.Contains page.address.toNat page.bytes.length) :
    (finalState ((checkpoint.restoreAndVerify ops id).run ⟨memory, kvm⟩)).memory =
      withPages checkpoint.pages memory := by
  have hwrite : (checkpoint.writePages (σ := σ)).run ⟨memory, kvm⟩ =
      .ok () ⟨withPages checkpoint.pages memory, kvm⟩ := run_writePages h
  have hrest : Keeps Guest.memory (do
      let vcpu ← Guest.onKvm (restoreAndVerifyStateSnapshot ops id checkpoint.vcpu)
      let pages ← reads fun guest : Guest σ => comparePages checkpoint.pages guest.memory
      return ({ pages, vcpu } : BoundedPageSetCheckpointComparison)) :=
    Keeps.bind (.within fun _ _ => rfl) fun _ => .bind (.reads _) fun _ => .pure _
  rw [restoreAndVerify, run_bind_of_ok hwrite]
  exact hrest _

/-- A restore whose pages fit and are read back reports them exact if the vCPU is restored. -/
theorem run_restoreAndVerify_of_ok {vcpu : VcpuStateSnapshotComparison}
    (hin : ∀ page ∈ checkpoint.pages, memory.region.Contains page.address.toNat page.bytes.length)
    (hholds : HoldsPages checkpoint.pages (withPages checkpoint.pages memory))
    (hvcpu : (restoreAndVerifyStateSnapshot ops id checkpoint.vcpu).run kvm = .ok vcpu kvm') :
    (checkpoint.restoreAndVerify ops id).run ⟨memory, kvm⟩ =
      .ok ⟨exactPages checkpoint.pages, vcpu⟩ ⟨withPages checkpoint.pages memory, kvm'⟩ := by
  refine run_bind_eq_ok.mpr ⟨(), _, run_writePages hin, ?_⟩
  refine run_bind_eq_ok.mpr ⟨vcpu, _, run_within_eq_ok.mpr ⟨kvm', hvcpu, rfl⟩, ?_⟩
  exact run_bind_eq_ok.mpr
    ⟨_, _, run_reads_eq_ok.mpr ⟨comparePages_of_holds hholds, rfl⟩, rfl⟩

/-- What holds of a checkpoint of the pages at the given addresses of a memory. -/
structure OwnsExactly (checkpoint : BoundedVcpuPageSetCheckpoint) (ops : KvmOps σ) (id : VcpuId)
    (captured : GuestMemory) (l : List UInt64) : Prop where
  /-- Exactly the pages at these addresses are found. -/
  found : ∀ a, (∃ page, checkpoint.page a = some page) ↔ a ∈ l
  /-- The page that is found has the address, and the bytes that were captured there. -/
  shows : ∀ a page, checkpoint.page a = some page → page ∈ checkpoint.pages ∧ page.address = a ∧
    captured.read a.toNat longModePageSize = .ok page.bytes
  /-- A restore writes every page, whatever its outcome. -/
  restored : ∀ target kvm, target.region = captured.region → ∀ a page,
    checkpoint.page a = some page →
      (finalState ((checkpoint.restoreAndVerify ops id).run ⟨target, kvm⟩)).memory.read a.toNat
        longModePageSize = .ok page.bytes
  /-- A restore changes no byte outside the pages, whatever its outcome. -/
  outside : ∀ target kvm, target.region = captured.region →
    (finalState ((checkpoint.restoreAndVerify ops id).run ⟨target, kvm⟩)).memory.region =
        captured.region ∧
      ∀ b, captured.region.base ≤ b →
        (∀ a ∈ l, b < a.toNat ∨ a.toNat + longModePageSize ≤ b) →
          (finalState ((checkpoint.restoreAndVerify ops id).run ⟨target, kvm⟩)).memory.byteAt b =
            target.byteAt b
  /-- A restore reports every page exact if the operations of the vCPU succeed. -/
  reported : ∀ target kvm vcpu kvm', target.region = captured.region →
    (restoreAndVerifyStateSnapshot ops id checkpoint.vcpu).run kvm = .ok vcpu kvm' →
      ∃ comparison guest',
        (checkpoint.restoreAndVerify ops id).run ⟨target, kvm⟩ = .ok comparison guest' ∧
          comparison.vcpu = vcpu ∧ guest'.kvm = kvm' ∧ comparison.allPagesExact = true ∧
            ∀ a exact_, comparison.pageExact a = some exact_ ↔ a ∈ l ∧ exact_ = true

theorem ownsExactly_of_capture
    (h : OwnablePages memory.region l)
    (hpages : checkpoint.pages = l.mergeSort.map (shownPage memory)) :
    checkpoint.OwnsExactly ops id memory l where
  found a := by simp only [page_eq_some_iff hpages h.distinct, exists_eq_right]
  shows a page hpage := by
    obtain ⟨ha, rfl⟩ := (page_eq_some_iff hpages h.distinct).mp hpage
    refine ⟨hpages ▸ mem_shownPages.mpr ⟨a, ha, rfl⟩, rfl, ?_⟩
    exact read_shownPage (h.inside a ha)
  restored target kvm hregion a page hpage := by
    obtain ⟨ha, rfl⟩ := (page_eq_some_iff hpages h.distinct).mp hpage
    obtain ⟨hin, hholds⟩ := OwnablePages.restored (hregion.symm ▸ h) memory
    have hread := hholds _ (mem_shownPages.mpr ⟨a, ha, rfl⟩)
    rw [length_shownPage] at hread
    rw [memory_restoreAndVerify (hpages ▸ hin), hpages]
    exact hread
  outside target kvm hregion := by
    have htarget : OwnablePages target.region l := hregion.symm ▸ h
    obtain ⟨hin, -⟩ := htarget.restored memory
    rw [memory_restoreAndVerify (hpages ▸ hin), hpages]
    refine ⟨(GuestMemory.region_overwriteAll ..).trans hregion, fun b hb hout => ?_⟩
    exact htarget.byteAt_outside (hregion.symm ▸ hb) hout
  reported target kvm vcpu kvm' hregion hvcpu := by
    obtain ⟨hin, hholds⟩ := OwnablePages.restored (hregion.symm ▸ h) memory
    rw [← hpages] at hin hholds
    refine ⟨_, _, run_restoreAndVerify_of_ok hin hholds hvcpu, rfl, rfl, ?_, fun a exact_ => ?_⟩
    · rw [BoundedPageSetCheckpointComparison.allPagesExact, exactPages, List.all_map,
        List.all_eq_true]
      exact fun _ _ => rfl
    · exact pageExact_eq_some_iff (congrArg exactPages hpages) h.distinct

end BoundedVcpuPageSetCheckpoint

end Ownership

/-- **A page-set checkpoint owns exactly its pages.**  The pages of a capture do not depend on the
order of the addresses, and are accepted exactly if there are from one to eight distinct addresses
of pages in the memory.  The checkpoint finds exactly these, and a restore writes exactly these. -/
theorem page_set_owns_exactly (ops : KvmOps σ) (id : VcpuId) (policy : GuestMsrAccessPolicy)
    (memory : GuestMemory) (l : List UInt64) :
    (∀ l', l'.Perm l → capturePages memory l' = capturePages memory l) ∧
      ((∃ pages, capturePages memory l = .ok pages) ↔ OwnablePages memory.region l) ∧
      (∀ kvm checkpoint guest',
        (BoundedVcpuPageSetCheckpoint.capture ops id policy l).run ⟨memory, kvm⟩ =
            .ok checkpoint guest' ↔
          capturePages memory l = .ok checkpoint.pages ∧
            ∃ kvm', (captureStateSnapshot ops id policy).run kvm = .ok checkpoint.vcpu kvm' ∧
              guest' = ⟨memory, kvm'⟩) ∧
      ∀ checkpoint : BoundedVcpuPageSetCheckpoint,
        capturePages memory l = .ok checkpoint.pages → checkpoint.OwnsExactly ops id memory l := by
  refine ⟨fun l' h => capturePages_eq_of_perm h, ?_, ?_, fun checkpoint h => ?_⟩
  · simp only [capturePages_eq_ok, exists_and_left, exists_eq, and_true]
  · exact fun kvm checkpoint guest' => BoundedVcpuPageSetCheckpoint.run_capture_eq_ok
  · obtain ⟨howned, hpages⟩ := capturePages_eq_ok.mp h
    exact BoundedVcpuPageSetCheckpoint.ownsExactly_of_capture howned hpages

end MiniHypervisor.Checkpoint
