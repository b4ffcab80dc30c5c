import MiniHypervisor.Checkpoint.FaithfulKvm
import MiniHypervisor.Checkpoint.Machine

/-!
# Restores of two vCPUs under a faithful KVM

Under a faithful KVM, a restore of two vCPUs with the controllers comes to its end and is exact
whenever the checkpoint is restorable: the vCPUs are the two of the checkpoint, the pages lie in the
memory and are read back as they were written, and the MSRs can be read and written.  The machine
then shows what the checkpoint holds, and the rest of it is as before.  Conversely, a restore that
ends with an exact guest, under any KVM, is of a restorable checkpoint.
-/

namespace MiniHypervisor.Checkpoint

open Bytes Control Kvm Memory Vcpu

variable {σ τ α : Type}

/-! ### Observations of a machine -/

/-- A guest with its KVM seen through an observation. -/
def Guest.map (view : σ → τ) (guest : Guest σ) : Guest τ := ⟨guest.memory, view guest.kvm⟩

/-- A VM with its KVM seen through an observation. -/
def Vm.map (view : σ → τ) (vm : Vm σ) : Vm τ := ⟨vm.memory, view vm.kvm⟩

section Lifting

variable {view : σ → τ} {v w : τ} {a : α}

theorem Guest.yields_onKvm {x : EStateM Error σ α} {memory : GuestMemory}
    (h : Yields view x v a w) :
    Yields (Guest.map view) (Guest.onKvm x) ⟨memory, v⟩ a ⟨memory, w⟩ := by
  refine Yields.within h ?_ ?_
  · rintro s ⟨⟩
    rfl
  · rintro s t ⟨⟩ rfl
    rfl

theorem Vm.yields_onKvm {x : EStateM Error σ α} {memory : Option GuestMemory}
    (h : Yields view x v a w) : Yields (Vm.map view) (Vm.onKvm x) ⟨memory, v⟩ a ⟨memory, w⟩ := by
  refine Yields.within h ?_ ?_
  · rintro s ⟨⟩
    rfl
  · rintro s t ⟨⟩ rfl
    rfl

theorem Vm.yields_withGuestMemory {missing : Error} {x : EStateM Error (Guest σ) α}
    {memory memory' : GuestMemory}
    (h : Yields (Guest.map view) x ⟨memory, v⟩ a ⟨memory', w⟩) :
    Yields (Vm.map view) (Vm.withGuestMemory missing x) ⟨some memory, v⟩ a ⟨some memory', w⟩ := by
  rintro ⟨_, kvm⟩ ⟨⟩
  obtain ⟨guest, hrun, hguest⟩ := h ⟨memory, kvm⟩ rfl
  refine ⟨_, Vm.run_withGuestMemory_eq_ok.mpr ⟨memory, guest, rfl, hrun, rfl⟩, ?_⟩
  obtain ⟨⟩ := hguest
  rfl

end Lifting

/-! ### Pages -/

/-- The writes of a restore to the memory. -/
def pageWrites (pages : List BoundedCheckpointPage) : List (ℕ × List UInt8) :=
  pages.map fun page => (page.address.toNat, page.bytes)

/-- The memory with the pages written. -/
def withPages (pages : List BoundedCheckpointPage) (memory : GuestMemory) : GuestMemory :=
  memory.overwriteAll (pageWrites pages)

/-- The memory holds the pages. -/
def HoldsPages (pages : List BoundedCheckpointPage) (memory : GuestMemory) : Prop :=
  ∀ page ∈ pages, memory.read page.address.toNat page.bytes.length = .ok page.bytes

/-- The comparison of pages that the memory holds. -/
def exactPages (pages : List BoundedCheckpointPage) : List BoundedCheckpointPageComparison :=
  pages.map fun page => ⟨page.address, true⟩

theorem comparePages_of_holds {pages : List BoundedCheckpointPage} {memory : GuestMemory}
    (h : HoldsPages pages memory) : comparePages pages memory = .ok (exactPages pages) := by
  unfold comparePages
  induction pages with
  | nil => rfl
  | cons page pages ih =>
      obtain ⟨hpage, hpages⟩ := List.forall_mem_cons.mp h
      have hcompare : comparePage memory page = .ok ⟨page.address, true⟩ := by
        rw [comparePage, bind_of_ok (mapError_eq_ok.mpr hpage), decide_eq_true rfl]
        rfl
      rw [List.mapM_cons, bind_of_ok hcompare, bind_of_ok (ih hpages)]
      rfl

theorem holds_of_comparePages {pages : List BoundedCheckpointPage} {memory : GuestMemory}
    {comparisons : List BoundedCheckpointPageComparison}
    (h : comparePages pages memory = .ok comparisons)
    (hexact : comparisons.all fun comparison => comparison.exact_) : HoldsPages pages memory := by
  unfold comparePages at h
  induction pages generalizing comparisons with
  | nil => nofun
  | cons page pages ih =>
      rw [List.mapM_cons] at h
      obtain ⟨comparison, hpage, h⟩ := bind_eq_ok.mp h
      obtain ⟨rest, hrest, h⟩ := bind_eq_ok.mp h
      cases h
      rw [List.all_cons, Bool.and_eq_true] at hexact
      refine List.forall_mem_cons.mpr ⟨?_, ih hrest hexact.2⟩
      obtain ⟨observed, hread, hobserved⟩ := bind_eq_ok.mp hpage
      cases hobserved
      rw [mapError_eq_ok.mp hread, of_decide_eq_true hexact.1]

theorem contains_of_holds {pages : List BoundedCheckpointPage} {memory : GuestMemory}
    (h : HoldsPages pages (withPages pages memory)) :
    ∀ page ∈ pages, memory.region.Contains page.address.toNat page.bytes.length := by
  intro page hpage
  have hin := (GuestMemory.read_eq_ok.mp (h page hpage)).1
  rwa [withPages, GuestMemory.region_overwriteAll] at hin

theorem holdsPages_singleton {address : UInt64} {bytes : List UInt8} {memory : GuestMemory}
    (h : memory.region.Contains address.toNat bytes.length) :
    HoldsPages [⟨address, bytes⟩] (withPages [⟨address, bytes⟩] memory) :=
  List.forall_mem_singleton.mpr (GuestMemory.read_overwrite_same h)

section Pages

variable {view : σ → KvmState} {v w : KvmState} {memory : GuestMemory}

theorem run_writePages {pages : List BoundedCheckpointPage} {kvm : σ}
    (h : ∀ page ∈ pages, memory.region.Contains page.address.toNat page.bytes.length) :
    (pages.forM fun page => Guest.onMemory
        (GuestMemory.write page.address.toNat page.bytes)).run ⟨memory, kvm⟩ =
      .ok () ⟨withPages pages memory, kvm⟩ := by
  induction pages generalizing memory with
  | nil => rfl
  | cons page pages ih =>
      obtain ⟨hpage, hpages⟩ := List.forall_mem_cons.mp h
      have hwrite : (Guest.onMemory (σ := σ)
          (GuestMemory.write page.address.toNat page.bytes)).run ⟨memory, kvm⟩ =
            .ok () ⟨memory.overwrite page.address.toNat page.bytes, kvm⟩ :=
        run_within_of_ok (GuestMemory.run_write_of_contains hpage)
      exact (run_bind_of_ok hwrite).trans (ih hpages)

theorem yields_writePages {pages : List BoundedCheckpointPage}
    (h : ∀ page ∈ pages, memory.region.Contains page.address.toNat page.bytes.length) :
    Yields (Guest.map view) (pages.forM fun page =>
        Guest.onMemory (GuestMemory.write page.address.toNat page.bytes))
      ⟨memory, v⟩ () ⟨withPages pages memory, v⟩ := by
  rintro ⟨_, kvm⟩ ⟨⟩
  exact ⟨_, run_writePages h, rfl⟩

theorem yields_comparePages {pages : List BoundedCheckpointPage} (h : HoldsPages pages memory) :
    Yields (Guest.map view) (reads fun guest : Guest σ => comparePages pages guest.memory)
      ⟨memory, v⟩ (exactPages pages) ⟨memory, v⟩ := by
  refine .reads ?_
  rintro ⟨_, _⟩ ⟨⟩
  exact comparePages_of_holds h

theorem memory_of_writePages {pages : List BoundedCheckpointPage} {guest guest' : Guest σ}
    {u : Unit} (h : (pages.forM fun page => Guest.onMemory (σ := σ)
      (GuestMemory.write page.address.toNat page.bytes)).run guest = .ok u guest') :
    guest'.memory = withPages pages guest.memory := by
  induction pages generalizing guest with
  | nil =>
      cases h
      rfl
  | cons page pages ih =>
      obtain ⟨_, guest₁, hwrite, hrest⟩ := run_bind_eq_ok.mp h
      obtain ⟨memory, hrun, rfl⟩ := run_within_eq_ok.mp hwrite
      rw [ih hrest, (GuestMemory.run_write_eq_ok.mp hrun).2]
      rfl

theorem Guest.memory_of_onKvm {x : EStateM Error σ α} {guest guest' : Guest σ} {a : α}
    (h : (Guest.onKvm x).run guest = .ok a guest') : guest'.memory = guest.memory := by
  obtain ⟨_, -, rfl⟩ := run_within_eq_ok.mp h
  rfl

end Pages

/-! ### One vCPU and its pages -/

namespace BoundedVcpuPageSetCheckpoint

variable {checkpoint : BoundedVcpuPageSetCheckpoint} {ops : KvmOps σ} {view : σ → KvmState}
  {id : VcpuId} {v : KvmState} {memory : GuestMemory}

/-- The comparison of a checkpoint with a guest that shows it. -/
def exactComparison (checkpoint : BoundedVcpuPageSetCheckpoint) :
    BoundedPageSetCheckpointComparison where
  pages := exactPages checkpoint.pages
  vcpu := checkpoint.vcpu.compare checkpoint.vcpu

theorem isExactMatch_exactComparison : checkpoint.exactComparison.isExactMatch = true := by
  rw [BoundedPageSetCheckpointComparison.isExactMatch, Bool.and_eq_true]
  refine ⟨?_, VcpuStateSnapshot.isExactMatch_compare.mpr rfl⟩
  rw [exactComparison, exactPages, List.all_map, List.all_eq_true]
  exact fun _ _ => rfl

theorem yields_capture (hops : Faithful ops view) {policy : GuestMsrAccessPolicy}
    (hpolicy : ReadablePolicy policy) {pageAddresses addresses : List UInt64}
    {pages : List BoundedCheckpointPage}
    (haddresses : validatePageAddresses pageAddresses = .ok addresses)
    (hpages : addresses.mapM (capturePage memory) = .ok pages) :
    Yields (Guest.map view) (capture ops id policy pageAddresses) ⟨memory, v⟩
      ⟨pages, v.vcpu id policy⟩ ⟨memory, v⟩ := by
  refine Yields.bind (.reads fun _ _ => haddresses) ?_
  have hread : Yields (Guest.map view)
      (reads fun guest : Guest σ => addresses.mapM (capturePage guest.memory)) ⟨memory, v⟩ pages
      ⟨memory, v⟩ := by
    refine .reads ?_
    rintro ⟨_, _⟩ ⟨⟩
    exact hpages
  exact hread.bind <| (Guest.yields_onKvm (yields_captureStateSnapshot hops hpolicy)).bind
    (.pure _ _)

theorem yields_verify (hops : Faithful ops view)
    (hpolicy : ReadablePolicy checkpoint.vcpu.msrs.policy)
    (hpages : HoldsPages checkpoint.pages memory)
    (hshows : v.vcpu id checkpoint.vcpu.msrs.policy = checkpoint.vcpu) :
    Yields (Guest.map view) (checkpoint.verify ops id) ⟨memory, v⟩ checkpoint.exactComparison
      ⟨memory, v⟩ := by
  refine (yields_comparePages hpages).bind ?_
  exact (Guest.yields_onKvm (yields_verifyStateSnapshot hops hpolicy hshows)).bind (.pure _ _)

theorem yields_restoreAndVerify (hops : Faithful ops view)
    (hpolicy : ReadablePolicy checkpoint.vcpu.msrs.policy)
    (hpages : HoldsPages checkpoint.pages (withPages checkpoint.pages memory)) :
    Yields (Guest.map view) (checkpoint.restoreAndVerify ops id) ⟨memory, v⟩
      checkpoint.exactComparison
      ⟨withPages checkpoint.pages memory, v.restoreVcpu id checkpoint.vcpu⟩ := by
  refine (yields_writePages (contains_of_holds hpages)).bind ?_
  refine (Guest.yields_onKvm (yields_restoreAndVerifyStateSnapshot hops hpolicy)).bind ?_
  exact (yields_comparePages hpages).bind (.pure _ _)

theorem holds_of_run {guest guest' : Guest σ} {comparison : BoundedPageSetCheckpointComparison}
    (h : (checkpoint.restoreAndVerify ops id).run guest = .ok comparison guest')
    (hexact : comparison.isExactMatch = true) :
    ReadablePolicy checkpoint.vcpu.msrs.policy ∧
      HoldsPages checkpoint.pages (withPages checkpoint.pages guest.memory) := by
  obtain ⟨_, guest₁, hwrite, h⟩ := run_bind_eq_ok.mp h
  obtain ⟨_, guest₂, hvcpu, h⟩ := run_bind_eq_ok.mp h
  obtain ⟨pages, guest₃, hpages, h⟩ := run_bind_eq_ok.mp h
  cases h
  obtain ⟨hcompare, rfl⟩ := run_reads_eq_ok.mp hpages
  obtain ⟨_, hrestore, -⟩ := run_within_eq_ok.mp hvcpu
  refine ⟨readablePolicy_of_run hrestore, ?_⟩
  rw [← memory_of_writePages hwrite, ← Guest.memory_of_onKvm hvcpu]
  rw [BoundedPageSetCheckpointComparison.isExactMatch, Bool.and_eq_true] at hexact
  exact holds_of_comparePages hcompare hexact.1

end BoundedVcpuPageSetCheckpoint

/-! ### Pairs of vCPUs -/

section Pairs

variable {operation : String} {first second : VcpuId} {ids : VcpuId × VcpuId}

theorem canonicalVcpuPair_eq_ok :
    canonicalVcpuPair operation first second = .ok ids ↔
      ids.1 < ids.2 ∧ (ids = (first, second) ∨ ids = (second, first)) := by
  rw [canonicalVcpuPair, rejectIf_bind_eq_ok]
  constructor
  · rintro ⟨hne, h⟩
    obtain rfl := Except.ok.inj h
    split_ifs with hlt
    · exact ⟨hlt, .inl rfl⟩
    · exact ⟨UInt16.lt_of_le_of_ne (UInt16.not_lt.mp hlt) (Ne.symm hne), .inr rfl⟩
  · rintro ⟨hlt, rfl | rfl⟩
    · rw [if_pos hlt]
      exact ⟨UInt16.ne_of_lt hlt, rfl⟩
    · rw [if_neg (UInt16.lt_asymm hlt)]
      exact ⟨(UInt16.ne_of_lt hlt).symm, rfl⟩

theorem canonicalVcpuPair_of_lt (h : first < second) :
    canonicalVcpuPair operation first second = .ok (first, second) :=
  canonicalVcpuPair_eq_ok.mpr ⟨h, .inl rfl⟩

theorem lt_of_canonicalVcpuPair (h : canonicalVcpuPair operation first second = .ok ids) :
    ids.1 < ids.2 :=
  (canonicalVcpuPair_eq_ok.mp h).1

end Pairs

/-! ### Captures -/

namespace KvmState

variable (state : KvmState) (policy : GuestMsrAccessPolicy) (pages : List BoundedCheckpointPage)

/-- One vCPU, given pages and the controllers. -/
def fullController (id : VcpuId) : BoundedFullControllerCheckpoint where
  base := {
    guest := ⟨pages, state.vcpu id policy⟩
    masterPic := ⟨decodePicState (state.irqchips kvmIrqchipPicMaster)⟩
    lapic := state.lapics id }
  slavePic := ⟨decodePicState (state.irqchips kvmIrqchipPicSlave)⟩
  ioapic := ⟨decodeIoapicState (state.irqchips kvmIrqchipIoapic)⟩

/-- Two vCPUs, given pages and the controllers. -/
def twoVcpuFullController (primary secondary : VcpuId) :
    BoundedTwoVcpuFullControllerCheckpoint where
  base := {
    primaryId := primary
    primary := ⟨pages, state.vcpu primary policy⟩
    secondaryId := secondary
    secondary := state.vcpu secondary policy }
  masterPic := ⟨decodePicState (state.irqchips kvmIrqchipPicMaster)⟩
  slavePic := ⟨decodePicState (state.irqchips kvmIrqchipPicSlave)⟩
  ioapic := ⟨decodeIoapicState (state.irqchips kvmIrqchipIoapic)⟩
  lapics := ((primary, state.lapics primary), (secondary, state.lapics secondary))
  mpStates := ((primary, state.mpStates primary), (secondary, state.mpStates secondary))

end KvmState

section Capture

variable {ops : KvmOps σ} {view : σ → KvmState} {v : KvmState} {memory : GuestMemory}
  {policy : GuestMsrAccessPolicy} {pageAddresses addresses : List UInt64}
  {pages : List BoundedCheckpointPage} (hops : Faithful ops view) (hpolicy : ReadablePolicy policy)
  (haddresses : validatePageAddresses pageAddresses = .ok addresses)
  (hpages : addresses.mapM (capturePage memory) = .ok pages)

include hops hpolicy haddresses hpages

/-- The capture of one vCPU with the controllers succeeds if the IOAPIC has nothing pending. -/
theorem BoundedFullControllerCheckpoint.yields_capture {id : VcpuId}
    (hirr : (decodeIoapicState (v.irqchips kvmIrqchipIoapic)).irr = 0) :
    Yields (Vm.map view) (capture ops id policy pageAddresses) ⟨some memory, v⟩
      (v.fullController policy pages id) ⟨some memory, v⟩ := by
  have hguest : Yields (Guest.map view) (BoundedVcpuPageSetCheckpoint.capture ops id policy
      pageAddresses) ⟨memory, v⟩ (v.fullController policy pages id).base.guest ⟨memory, v⟩ :=
    BoundedVcpuPageSetCheckpoint.yields_capture hops hpolicy haddresses hpages
  have hbase : Yields (Vm.map view) (BoundedControllerCheckpoint.capture ops id policy
      pageAddresses) ⟨some memory, v⟩ (v.fullController policy pages id).base ⟨some memory, v⟩ :=
    (Vm.yields_withGuestMemory hguest).bind <|
      (Vm.yields_onKvm (yields_captureMasterPicState hops)).bind <|
        (Vm.yields_onKvm (yields_orElseError (hops.getLapic id v))).bind (.pure _ _)
  exact hbase.bind <| (Vm.yields_onKvm (yields_captureSlavePicState hops)).bind <|
    (Vm.yields_onKvm (yields_captureIoapicState hops)).bind <|
      (Yields.guard (not_not.mpr hirr)).bind (.pure _ _)

theorem BoundedTwoVcpuFullControllerCheckpoint.yields_capture {primary secondary : VcpuId}
    (hlt : primary < secondary) :
    Yields (Vm.map view) (capture ops primary secondary policy pageAddresses) ⟨some memory, v⟩
      (v.twoVcpuFullController policy pages primary secondary) ⟨some memory, v⟩ := by
  have hbase : Yields (Guest.map view)
      (BoundedTwoVcpuCheckpoint.capture ops primary secondary policy pageAddresses) ⟨memory, v⟩
      (v.twoVcpuFullController policy pages primary secondary).base ⟨memory, v⟩ := by
    refine Yields.bind (.reads fun _ _ => canonicalVcpuPair_of_lt hlt) ?_
    exact (BoundedVcpuPageSetCheckpoint.yields_capture hops hpolicy haddresses hpages).bind <|
      (Guest.yields_onKvm (yields_captureStateSnapshot hops hpolicy)).bind (.pure _ _)
  refine (Vm.yields_withGuestMemory hbase).bind ?_
  refine Yields.bind (.reads fun _ _ => canonicalVcpuPair_of_lt hlt) ?_
  refine (Vm.yields_onKvm (yields_captureMasterPicState hops)).bind ?_
  refine (Vm.yields_onKvm (yields_captureSlavePicState hops)).bind ?_
  refine (Vm.yields_onKvm (yields_captureIoapicState hops)).bind ?_
  refine (Vm.yields_onKvm (yields_orElseError (hops.getLapic _ v))).bind ?_
  refine (Vm.yields_onKvm (yields_orElseError (hops.getLapic _ v))).bind ?_
  refine (Vm.yields_onKvm (yields_orElseError (hops.getMpState _ v))).bind ?_
  exact (Vm.yields_onKvm (yields_orElseError (hops.getMpState _ v))).bind (.pure _ _)

end Capture

/-! ### Restores of two vCPUs -/

namespace BoundedTwoVcpuCheckpoint

variable {checkpoint : BoundedTwoVcpuCheckpoint} {ops : KvmOps σ} {view : σ → KvmState}
  {v : KvmState} {memory : GuestMemory}

/-- The comparison of a checkpoint with a guest that shows it. -/
def exactComparison (checkpoint : BoundedTwoVcpuCheckpoint) :
    BoundedTwoVcpuCheckpointComparison where
  primaryId := checkpoint.primaryId
  primary := checkpoint.primary.exactComparison
  secondaryId := checkpoint.secondaryId
  secondary := checkpoint.secondary.compare checkpoint.secondary

theorem isExactMatch_exactComparison : checkpoint.exactComparison.isExactMatch = true := by
  rw [BoundedTwoVcpuCheckpointComparison.isExactMatch, Bool.and_eq_true]
  exact ⟨BoundedVcpuPageSetCheckpoint.isExactMatch_exactComparison,
    VcpuStateSnapshot.isExactMatch_compare.mpr rfl⟩

/-- The MSRs of both vCPUs can be read and written. -/
structure ReadablePolicies (checkpoint : BoundedTwoVcpuCheckpoint) : Prop where
  primary : ReadablePolicy checkpoint.primary.vcpu.msrs.policy
  secondary : ReadablePolicy checkpoint.secondary.msrs.policy

/-- The state of KVM shows both vCPUs. -/
structure Shows (checkpoint : BoundedTwoVcpuCheckpoint) (state : KvmState) : Prop where
  primary : state.vcpu checkpoint.primaryId checkpoint.primary.vcpu.msrs.policy =
    checkpoint.primary.vcpu
  secondary : state.vcpu checkpoint.secondaryId checkpoint.secondary.msrs.policy =
    checkpoint.secondary

/-- The state of KVM with both vCPUs restored. -/
def restoreVcpus (checkpoint : BoundedTwoVcpuCheckpoint) (state : KvmState) : KvmState :=
  (state.restoreVcpu checkpoint.primaryId checkpoint.primary.vcpu).restoreVcpu
    checkpoint.secondaryId checkpoint.secondary

theorem shows_restoreVcpus (hlt : checkpoint.primaryId < checkpoint.secondaryId)
    (h : checkpoint.ReadablePolicies) : checkpoint.Shows (checkpoint.restoreVcpus v) where
  primary := by
    rw [restoreVcpus, KvmState.vcpu_restoreVcpu_of_ne (UInt16.ne_of_lt hlt)]
    exact KvmState.vcpu_restoreVcpu_self h.primary
  secondary := KvmState.vcpu_restoreVcpu_self h.secondary

theorem bindVcpus_self (hlt : checkpoint.primaryId < checkpoint.secondaryId) :
    checkpoint.bindVcpus checkpoint.primaryId checkpoint.secondaryId = .ok checkpoint.vcpuIds := by
  have hpair : canonicalVcpuPair vcpuOwnership checkpoint.primaryId checkpoint.secondaryId =
      .ok checkpoint.vcpuIds := canonicalVcpuPair_of_lt hlt
  rw [bindVcpus, bind_of_ok hpair, rejectIf_bind_eq_ok]
  exact ⟨not_not.mpr rfl, rfl⟩

theorem yields_verify (hops : Faithful ops view)
    (hlt : checkpoint.primaryId < checkpoint.secondaryId) (h : checkpoint.ReadablePolicies)
    (hpages : HoldsPages checkpoint.primary.pages memory) (hshows : checkpoint.Shows v) :
    Yields (Guest.map view) (checkpoint.verify ops checkpoint.primaryId checkpoint.secondaryId)
      ⟨memory, v⟩ checkpoint.exactComparison ⟨memory, v⟩ := by
  refine Yields.bind (.reads fun _ _ => bindVcpus_self hlt) ?_
  refine (BoundedVcpuPageSetCheckpoint.yields_verify hops h.primary hpages hshows.primary).bind ?_
  exact (Guest.yields_onKvm (yields_verifyStateSnapshot hops h.secondary hshows.secondary)).bind
    (.pure _ _)

theorem yields_restoreAndVerify (hops : Faithful ops view)
    (hlt : checkpoint.primaryId < checkpoint.secondaryId) (h : checkpoint.ReadablePolicies)
    (hpages : HoldsPages checkpoint.primary.pages (withPages checkpoint.primary.pages memory)) :
    Yields (Guest.map view)
      (checkpoint.restoreAndVerify ops checkpoint.primaryId checkpoint.secondaryId)
      ⟨memory, v⟩ checkpoint.exactComparison
      ⟨withPages checkpoint.primary.pages memory, checkpoint.restoreVcpus v⟩ := by
  refine Yields.bind (.reads fun _ _ => bindVcpus_self hlt) ?_
  refine (BoundedVcpuPageSetCheckpoint.yields_restoreAndVerify hops h.primary hpages).bind ?_
  exact (Guest.yields_onKvm (yields_restoreAndVerifyStateSnapshot hops h.secondary)).bind
    (.pure _ _)

theorem holds_of_run {first second : VcpuId} {guest guest' : Guest σ}
    {comparison : BoundedTwoVcpuCheckpointComparison}
    (h : (checkpoint.restoreAndVerify ops first second).run guest = .ok comparison guest')
    (hexact : comparison.isExactMatch = true) :
    checkpoint.ReadablePolicies ∧
      HoldsPages checkpoint.primary.pages (withPages checkpoint.primary.pages guest.memory) := by
  obtain ⟨ids, guest₁, hbind, h⟩ := run_bind_eq_ok.mp h
  obtain ⟨primary, guest₂, hprimary, h⟩ := run_bind_eq_ok.mp h
  obtain ⟨secondary, guest₃, hsecondary, h⟩ := run_bind_eq_ok.mp h
  cases h
  obtain ⟨-, rfl⟩ := run_reads_eq_ok.mp hbind
  rw [BoundedTwoVcpuCheckpointComparison.isExactMatch, Bool.and_eq_true] at hexact
  obtain ⟨hpolicy, hpages⟩ := BoundedVcpuPageSetCheckpoint.holds_of_run hprimary hexact.1
  obtain ⟨_, hrestore, -⟩ := run_within_eq_ok.mp hsecondary
  exact ⟨⟨hpolicy, readablePolicy_of_run hrestore⟩, hpages⟩

end BoundedTwoVcpuCheckpoint

/-! ### Two vCPUs and the controllers -/

namespace BoundedTwoVcpuFullControllerCheckpoint

variable {checkpoint : BoundedTwoVcpuFullControllerCheckpoint} {ops : KvmOps σ}
  {view : σ → KvmState} {first second : VcpuId} {v : KvmState} {memory : GuestMemory}

/-- What a restore needs of the checkpoint, of the vCPUs it is given and of the memory: the vCPUs
are those of the checkpoint, the pages are read back as they were written, and the MSRs can be read
and written. -/
structure Restorable (checkpoint : BoundedTwoVcpuFullControllerCheckpoint) (first second : VcpuId)
    (memory : Option GuestMemory) : Prop where
  bound : ∃ ids, checkpoint.bindVcpus first second vcpuMutableOwnership = .ok ids
  pages : ∃ registered, memory = some registered ∧ HoldsPages checkpoint.base.primary.pages
    (withPages checkpoint.base.primary.pages registered)
  policies : checkpoint.base.ReadablePolicies

/-- The state of KVM after a restore. -/
def writtenKvm (checkpoint : BoundedTwoVcpuFullControllerCheckpoint) (state : KvmState) :
    KvmState :=
  let restored := checkpoint.base.restoreVcpus state
  let scheduled := (restored.setMpState checkpoint.base.primaryId
    checkpoint.mpStates.1.2).setMpState checkpoint.base.secondaryId checkpoint.mpStates.2.2
  let routed := ((scheduled.setIrqchip kvmIrqchipPicMaster
    (encodePicState checkpoint.masterPic.state (.zeros _))).setIrqchip kvmIrqchipPicSlave
    (encodePicState checkpoint.slavePic.state (.zeros _))).setIrqchip kvmIrqchipIoapic
    (encodeIoapicState checkpoint.ioapic.state (.zeros _))
  (routed.setLapic checkpoint.base.primaryId checkpoint.lapics.1.2).setLapic
    checkpoint.base.secondaryId checkpoint.lapics.2.2

/-- The machine after a restore. -/
def written (checkpoint : BoundedTwoVcpuFullControllerCheckpoint) (vm : Vm KvmState) :
    Vm KvmState where
  memory := vm.memory.map (withPages checkpoint.base.primary.pages)
  kvm := checkpoint.writtenKvm vm.kvm

/-- The comparison of a checkpoint with a machine that shows it. -/
def exactComparison (checkpoint : BoundedTwoVcpuFullControllerCheckpoint) :
    BoundedTwoVcpuFullControllerCheckpointComparison where
  base := checkpoint.base.exactComparison
  masterPic := true
  slavePic := true
  ioapic := true
  lapics := (true, true)
  mpStates := (true, true)

theorem isExactMatch_exactComparison : checkpoint.exactComparison.isExactMatch = true := by
  simp only [BoundedTwoVcpuFullControllerCheckpointComparison.isExactMatch, exactComparison,
    BoundedTwoVcpuCheckpoint.isExactMatch_exactComparison, Bool.true_and, beq_self_eq_true]

/-- The state of KVM shows the vCPUs and the controllers. -/
structure Shows (checkpoint : BoundedTwoVcpuFullControllerCheckpoint) (state : KvmState) :
    Prop where
  vcpus : checkpoint.base.Shows state
  masterPic : decodePicState (state.irqchips kvmIrqchipPicMaster) = checkpoint.masterPic.state
  slavePic : decodePicState (state.irqchips kvmIrqchipPicSlave) = checkpoint.slavePic.state
  ioapic : decodeIoapicState (state.irqchips kvmIrqchipIoapic) = checkpoint.ioapic.state
  lapics : state.lapics checkpoint.base.primaryId = checkpoint.lapics.1.2 ∧
    state.lapics checkpoint.base.secondaryId = checkpoint.lapics.2.2
  mpStates : state.mpStates checkpoint.base.primaryId = checkpoint.mpStates.1.2 ∧
    state.mpStates checkpoint.base.secondaryId = checkpoint.mpStates.2.2

theorem shows_writtenKvm (hlt : checkpoint.base.primaryId < checkpoint.base.secondaryId)
    (h : checkpoint.base.ReadablePolicies) : checkpoint.Shows (checkpoint.writtenKvm v) := by
  have hne := UInt16.ne_of_lt hlt
  have hvcpus := BoundedTwoVcpuCheckpoint.shows_restoreVcpus (v := v) hlt h
  refine ⟨⟨hvcpus.primary, hvcpus.secondary⟩, ?_, ?_, ?_, ⟨?_, ?_⟩, ⟨?_, ?_⟩⟩
  · exact decodePicState_eq_iff.mpr (val_picSemanticBytes checkpoint.masterPic.state)
  · exact decodePicState_eq_iff.mpr (val_picSemanticBytes checkpoint.slavePic.state)
  · exact decodeIoapicState_eq_iff.mpr checkpoint.ioapic.val_semanticBytes
  · exact (Function.update_of_ne hne _ _).trans (Function.update_self _ _ _)
  · exact Function.update_self _ _ _
  · exact (Function.update_of_ne hne _ _).trans (Function.update_self _ _ _)
  · exact Function.update_self _ _ _

theorem bindVcpus_eq_ok {operation : String} {ids : VcpuId × VcpuId} :
    checkpoint.bindVcpus first second operation = .ok ids ↔
      canonicalVcpuPair operation first second = .ok ids ∧
        checkpoint.requireBoundVcpus ids = .ok () := by
  simp only [bindVcpus, bind_eq_ok, pure, Except.pure, Except.ok.injEq]
  constructor
  · rintro ⟨_, hpair, _, hbound, rfl⟩
    exact ⟨hpair, hbound⟩
  · rintro ⟨hpair, hbound⟩
    exact ⟨ids, hpair, (), hbound, rfl⟩

theorem eq_of_requireBoundVcpus {ids : VcpuId × VcpuId}
    (h : checkpoint.requireBoundVcpus ids = .ok ()) : ids = checkpoint.base.vcpuIds := by
  rw [requireBoundVcpus, rejectIf_eq_ok, not_or, not_not] at h
  exact h.1

theorem yields_verify (hops : Faithful ops view)
    (hlt : checkpoint.base.primaryId < checkpoint.base.secondaryId)
    (hbound : checkpoint.requireBoundVcpus checkpoint.base.vcpuIds = .ok ())
    (h : checkpoint.base.ReadablePolicies)
    (hpages : HoldsPages checkpoint.base.primary.pages memory) (hshows : checkpoint.Shows v) :
    Yields (Vm.map view)
      (checkpoint.verify ops checkpoint.base.primaryId checkpoint.base.secondaryId)
      ⟨some memory, v⟩ checkpoint.exactComparison ⟨some memory, v⟩ := by
  refine (Vm.yields_withGuestMemory
    (BoundedTwoVcpuCheckpoint.yields_verify hops hlt h hpages hshows.vcpus)).bind ?_
  have hbind : checkpoint.bindVcpus checkpoint.base.primaryId checkpoint.base.secondaryId
      vcpuOwnership = .ok checkpoint.base.vcpuIds :=
    bindVcpus_eq_ok.mpr ⟨canonicalVcpuPair_of_lt hlt, hbound⟩
  refine Yields.bind (.reads fun _ _ => hbind) ?_
  refine (Vm.yields_onKvm (yields_captureMasterPicState hops)).bind ?_
  refine (Vm.yields_onKvm (yields_captureSlavePicState hops)).bind ?_
  refine (Vm.yields_onKvm (yields_captureIoapicState hops)).bind ?_
  refine (Vm.yields_onKvm (yields_orElseError (hops.getLapic _ v))).bind ?_
  refine (Vm.yields_onKvm (yields_orElseError (hops.getLapic _ v))).bind ?_
  refine (Vm.yields_onKvm (yields_orElseError (hops.getMpState _ v))).bind ?_
  refine (Vm.yields_onKvm (yields_orElseError (hops.getMpState _ v))).bind ?_
  simp only [hshows.masterPic, hshows.slavePic, hshows.ioapic,
    hshows.lapics, hshows.mpStates, decide_true]
  exact .pure _ _

theorem yields_restoreMpStates (hops : Faithful ops view) :
    Yields (Vm.map view) (checkpoint.restoreMpStates ops checkpoint.base.vcpuIds)
      ⟨some memory, v⟩ ()
      ⟨some memory, (v.setMpState checkpoint.base.primaryId checkpoint.mpStates.1.2).setMpState
        checkpoint.base.secondaryId checkpoint.mpStates.2.2⟩ := by
  refine (Vm.yields_onKvm (yields_restoreMultiprocessingStateRaw hops)).bind ?_
  refine (Vm.yields_onKvm (yields_restoreMultiprocessingStateRaw hops)).bind ?_
  exact .guard (not_or.mpr ⟨not_not.mpr rfl, not_not.mpr rfl⟩)

theorem yields_restoreControllers (hops : Faithful ops view) :
    Yields (Vm.map view) (checkpoint.restoreControllers ops checkpoint.base.vcpuIds)
      ⟨some memory, v⟩ ()
      ⟨some memory, ((((v.setIrqchip kvmIrqchipPicMaster
        (encodePicState checkpoint.masterPic.state (.zeros _))).setIrqchip kvmIrqchipPicSlave
        (encodePicState checkpoint.slavePic.state (.zeros _))).setIrqchip kvmIrqchipIoapic
        (encodeIoapicState checkpoint.ioapic.state (.zeros _))).setLapic
          checkpoint.base.primaryId checkpoint.lapics.1.2).setLapic
          checkpoint.base.secondaryId checkpoint.lapics.2.2⟩ :=
  (Vm.yields_onKvm (yields_orElseError (hops.setIrqchip _ _))).bind <|
    (Vm.yields_onKvm (yields_orElseError (hops.setIrqchip _ _))).bind <|
      (Vm.yields_onKvm (yields_orElseError (hops.setIrqchip _ _))).bind <|
        (Vm.yields_onKvm (yields_orElseError (hops.setLapic _ _ _))).bind <|
          Vm.yields_onKvm (yields_orElseError (hops.setLapic _ _ _))

/-- **A restore under a faithful KVM.** A restorable checkpoint is restored exactly, and the machine
then shows what was written. -/
theorem yields_restoreAndVerify (hops : Faithful ops view) (vm : Vm KvmState)
    (h : checkpoint.Restorable first second vm.memory) :
    Yields (Vm.map view) (checkpoint.restoreAndVerify ops first second) vm
      checkpoint.exactComparison (checkpoint.written vm) := by
  obtain ⟨_, kvm⟩ := vm
  obtain ⟨⟨ids, hbind⟩, ⟨memory, rfl, hpages⟩, hpolicies⟩ := h
  obtain ⟨hpair, hbound⟩ := bindVcpus_eq_ok.mp hbind
  have hlt := lt_of_canonicalVcpuPair hpair
  obtain rfl := eq_of_requireBoundVcpus hbound
  refine Yields.bind (.reads fun _ _ => hbind) ?_
  refine (Vm.yields_withGuestMemory (BoundedTwoVcpuCheckpoint.yields_restoreAndVerify hops hlt
    hpolicies hpages)).bind ?_
  have hexact : ¬ checkpoint.base.exactComparison.isExactMatch = false :=
    (Bool.not_eq_false _).mpr BoundedTwoVcpuCheckpoint.isExactMatch_exactComparison
  refine (Yields.guard hexact).bind ?_
  refine (yields_restoreMpStates hops).bind ((yields_restoreControllers hops).bind ?_)
  exact yields_verify hops hlt hbound hpolicies hpages (shows_writtenKvm hlt hpolicies)

/-- **A restore that succeeds is of a restorable checkpoint**, whatever KVM answers. -/
theorem restorable_of_run {vm vm' : Vm σ}
    {comparison : BoundedTwoVcpuFullControllerCheckpointComparison}
    (h : (checkpoint.restoreAndVerify ops first second).run vm = .ok comparison vm') :
    checkpoint.Restorable first second vm.memory := by
  obtain ⟨ids, vm₁, hbind, h⟩ := run_bind_eq_ok.mp h
  obtain ⟨base, vm₂, hguest, h⟩ := run_bind_eq_ok.mp h
  obtain ⟨_, vm₃, hexact, -⟩ := run_bind_eq_ok.mp h
  obtain ⟨hids, rfl⟩ := run_reads_eq_ok.mp hbind
  have hexact := rejectIf_eq_ok.mp (run_reads_eq_ok.mp hexact).1
  rw [Bool.not_eq_false] at hexact
  obtain ⟨memory, guest, hmemory, hrun, -⟩ := Vm.run_withGuestMemory_eq_ok.mp hguest
  obtain ⟨hpolicies, hpages⟩ := BoundedTwoVcpuCheckpoint.holds_of_run hrun hexact
  exact ⟨⟨ids, hids⟩, ⟨memory, hmemory, hpages⟩, hpolicies⟩

end BoundedTwoVcpuFullControllerCheckpoint

end MiniHypervisor.Checkpoint
