import MiniHypervisor.Schema.Containers

/-!
# The round trip of a checkpoint

A two-vCPU checkpoint that is stored, written, read back and materialized on a host is the same
checkpoint with the MSRs of each vCPU put in the order of their indices.  Storing sorts the values
only; the policy that materializing builds from the stored indices follows their order.  A second
round trip changes nothing: the sorted checkpoint is stored as the same value.
-/

namespace MiniHypervisor.Schema

open Bytes Checkpoint Control Kvm Vcpu

/-! ### Sorting the MSRs -/

/-- The MSRs of `sorted` are those of `snapshot` in the order of their indices. -/
structure SortsMsrs (snapshot sorted : GuestMsrSnapshot) : Prop where
  policy : sorted.policy.entries.Perm snapshot.policy.entries
  values : sorted.values.values.Perm snapshot.values.values
  policyIncreasing : sorted.policy.entries.Pairwise fun x y => x.index < y.index
  valuesIncreasing : sorted.values.values.Pairwise fun x y => x.index < y.index

/-- The policy of stored MSRs. -/
def storedPolicy (msrs : List (MsrIndex × UInt64)) : GuestMsrAccessPolicy :=
  ⟨(msrs.map Prod.fst).map fun index => ⟨index, .readWrite⟩⟩

/-- The values of stored MSRs. -/
def storedValues (msrs : List (MsrIndex × UInt64)) : GuestMsrValueSet :=
  ⟨msrs.map fun msr => ⟨msr.1, msr.2⟩⟩

/-- The snapshot of stored MSRs. -/
def storedSnapshot (msrs : List (MsrIndex × UInt64)) : GuestMsrSnapshot where
  policy := storedPolicy msrs
  values := storedValues msrs
  aligned := by simp [storedPolicy, storedValues, Function.comp_def]

theorem materializeMsrs_eq_ok {hostMsrs : HostMsrIndexList} {msrs : List (MsrIndex × UInt64)}
    (horder : validateMsrOrder msrs = .ok ()) (hhost : ∀ msr ∈ msrs, msr.1 ∈ hostMsrs.indices) :
    materializeMsrs hostMsrs msrs = .ok (storedSnapshot msrs) := by
  have hnodup : (msrs.map Prod.fst).Nodup :=
    List.Pairwise.map _ (fun _ _ h => UInt32.ne_of_lt h) (validateMsrOrder_eq_ok.mp horder)
  have hpolicy : GuestMsrAccessPolicy.fromHost hostMsrs (msrs.map Prod.fst) =
      .ok (storedPolicy msrs) := by
    refine GuestMsrAccessPolicy.fromHost_eq_ok.mpr ⟨hnodup, fun index hindex => ?_, rfl⟩
    obtain ⟨msr, hmsr, rfl⟩ := List.mem_map.mp hindex
    exact hhost msr hmsr
  have hvalues : GuestMsrValueSet.fromPolicy (storedPolicy msrs) msrs =
      .ok (storedValues msrs) := by
    refine GuestMsrValueSet.fromPolicy_eq_ok.mpr ⟨hnodup, fun msr hmsr => ?_, rfl⟩
    exact List.mem_map.mpr ⟨msr.1, List.mem_map_of_mem hmsr, rfl⟩
  have hsnapshot : GuestMsrSnapshot.fromCapture (storedPolicy msrs) (storedValues msrs) =
      .ok (storedSnapshot msrs) := GuestMsrSnapshot.fromCapture_eq_ok.mpr ⟨rfl, rfl⟩
  simp only [materializeMsrs, bind_eq_ok, mapError_eq_ok]
  exact ⟨(), horder, _, hpolicy, _, hvalues, hsnapshot⟩

theorem entries_eq_map_index (policy : GuestMsrAccessPolicy) :
    policy.entries = (policy.entries.map GuestMsrAccess.index).map fun index =>
      ⟨index, .readWrite⟩ := by
  rw [List.map_map]
  exact (List.map_id'' (fun entry => by cases entry.authority; rfl) _).symm

theorem sortedMsrs_perm (snapshot : GuestMsrSnapshot) :
    (sortedMsrs snapshot).Perm
      (snapshot.values.values.map fun value => (value.index, value.value)) :=
  List.mergeSort_perm ..

theorem sortsMsrs_storedSnapshot {snapshot : GuestMsrSnapshot}
    (horder : validateMsrOrder (sortedMsrs snapshot) = .ok ()) :
    SortsMsrs snapshot (storedSnapshot (sortedMsrs snapshot)) := by
  have hincreasing := validateMsrOrder_eq_ok.mp horder
  refine ⟨?_, ?_, ?_, ?_⟩
  · -- the captured policy lists the indices of the captured values
    have hindices := (sortedMsrs_perm snapshot).map Prod.fst
    rw [List.map_map] at hindices
    rw [entries_eq_map_index snapshot.policy, snapshot.aligned]
    exact hindices.map _
  · have hvalues := (sortedMsrs_perm snapshot).map fun msr => (⟨msr.1, msr.2⟩ : GuestMsrValue)
    rwa [List.map_map, List.map_id''] at hvalues
    exact fun _ => rfl
  · rw [show (storedSnapshot (sortedMsrs snapshot)).policy.entries = _ from List.map_map ..]
    exact List.Pairwise.map _ (fun _ _ h => h) hincreasing
  · exact List.Pairwise.map _ (fun _ _ h => h) hincreasing

theorem sortedMsrs_storedSnapshot {msrs : List (MsrIndex × UInt64)}
    (horder : validateMsrOrder msrs = .ok ()) : sortedMsrs (storedSnapshot msrs) = msrs := by
  have hpairs : (storedSnapshot msrs).values.values.map
      (fun value => (value.index, value.value)) = msrs := by
    rw [show (storedSnapshot msrs).values.values = msrs.map _ from rfl, List.map_map]
    exact List.map_id'' (fun _ => rfl) _
  rw [sortedMsrs, hpairs]
  refine List.mergeSort_of_pairwise ((validateMsrOrder_eq_ok.mp horder).imp fun h => ?_)
  exact decide_eq_true (UInt32.le_of_lt h)

/-- **The MSRs of a snapshot through the store.**  The stored MSRs materialize to the captured
ones in the order of their indices, and these are stored as the same list. -/
theorem exists_materializeMsrs_sortedMsrs {hostMsrs : HostMsrIndexList}
    {snapshot : GuestMsrSnapshot} (horder : validateMsrOrder (sortedMsrs snapshot) = .ok ())
    (hhost : ∀ value ∈ snapshot.values.values, value.index ∈ hostMsrs.indices) :
    ∃ sorted, materializeMsrs hostMsrs (sortedMsrs snapshot) = .ok sorted ∧
      SortsMsrs snapshot sorted ∧ sortedMsrs sorted = sortedMsrs snapshot := by
  refine ⟨_, materializeMsrs_eq_ok horder fun msr hmsr => ?_, sortsMsrs_storedSnapshot horder,
    sortedMsrs_storedSnapshot horder⟩
  obtain ⟨value, hvalue, rfl⟩ := List.mem_map.mp ((sortedMsrs_perm snapshot).mem_iff.mp hmsr)
  exact hhost value hvalue

/-! ### One vCPU -/

theorem decoded_encodeSnapshot {special : VcpuSpecialRegisterSnapshot}
    (harch : ∀ segment ∈ segmentsOf special.encodeSnapshot, Architectural segment) :
    Decoded special.encodeSnapshot := by
  refine ⟨fun segment hmem => ⟨harch segment hmem, ?_⟩, rfl, rfl⟩
  simp only [segmentsOf, List.mem_cons, List.not_mem_nil, or_false] at hmem
  rcases hmem with rfl | rfl | rfl | rfl | rfl | rfl | rfl | rfl <;> rfl

namespace VersionedPageVcpuCheckpointV1

variable {v : VersionedPageVcpuCheckpointV1} {checkpoint : BoundedVcpuPageSetCheckpoint}
  {hostMsrs : HostMsrIndexList} {bytes : List UInt8}

theorem decode_of_encode (hencode : v.encode = .ok bytes)
    (harch : ∀ segment ∈ segmentsOf v.specialRegisters.encodeSnapshot, Architectural segment) :
    decode bytes = .ok v := by
  obtain ⟨hvalid, hbytes⟩ := encode_eq_ok.mp hencode
  exact decode_eq_ok.mpr ⟨hvalid, _, decoded_encodeSnapshot harch,
    (VcpuSpecialRegisterSnapshot.fromKvmSregs_encodeSnapshot _).symm, hbytes⟩

/-- A stored checkpoint materializes to the captured one with its MSRs sorted, and that one is
stored as the same value. -/
theorem exists_materialize_of_fromCheckpoint (hfrom : fromCheckpoint checkpoint = .ok v)
    (hhost : ∀ value ∈ checkpoint.vcpu.msrs.values.values, value.index ∈ hostMsrs.indices) :
    ∃ msrs, SortsMsrs checkpoint.vcpu.msrs msrs ∧
      v.materialize hostMsrs =
        .ok { checkpoint with vcpu := { checkpoint.vcpu with msrs := msrs } } ∧
      fromCheckpoint { checkpoint with vcpu := { checkpoint.vcpu with msrs := msrs } } = .ok v := by
  obtain ⟨hvalid, hpages, hregisters, hspecial, hmsrs⟩ := fromCheckpoint_eq_ok.mp hfrom
  obtain ⟨msrs, hmaterialize, hsorts, hsorted⟩ :=
    exists_materializeMsrs_sortedMsrs (hmsrs ▸ hvalid.msrs) hhost
  refine ⟨msrs, hsorts, ?_, fromCheckpoint_eq_ok.mpr
    ⟨hvalid, hpages, hregisters, hspecial, hmsrs.trans hsorted.symm⟩⟩
  simp only [materialize, bind_eq_ok, pure, Except.pure, Except.ok.injEq, hmsrs]
  exact ⟨(), hvalid.pages, msrs, hmaterialize, by rw [hpages, hregisters, hspecial]⟩

end VersionedPageVcpuCheckpointV1

namespace VersionedVcpuStateSnapshotV1

variable {v : VersionedVcpuStateSnapshotV1} {snapshot : VcpuStateSnapshot}
  {hostMsrs : HostMsrIndexList} {bytes : List UInt8}

theorem decode_of_encode (hencode : v.encode = .ok bytes)
    (harch : ∀ segment ∈ segmentsOf v.specialRegisters.encodeSnapshot, Architectural segment) :
    decode bytes = .ok v := by
  obtain ⟨hvalid, hbytes⟩ := encode_eq_ok.mp hencode
  exact decode_eq_ok.mpr ⟨hvalid, _, decoded_encodeSnapshot harch,
    (VcpuSpecialRegisterSnapshot.fromKvmSregs_encodeSnapshot _).symm, hbytes⟩

/-- A stored snapshot materializes to the captured one with its MSRs sorted, and that one is
stored as the same value. -/
theorem exists_materialize_of_fromSnapshot (hfrom : fromSnapshot snapshot = .ok v)
    (hhost : ∀ value ∈ snapshot.msrs.values.values, value.index ∈ hostMsrs.indices) :
    ∃ msrs, SortsMsrs snapshot.msrs msrs ∧
      v.materialize hostMsrs = .ok { snapshot with msrs := msrs } ∧
      fromSnapshot { snapshot with msrs := msrs } = .ok v := by
  obtain ⟨hvalid, hregisters, hspecial, hmsrs⟩ := fromSnapshot_eq_ok.mp hfrom
  obtain ⟨msrs, hmaterialize, hsorts, hsorted⟩ :=
    exists_materializeMsrs_sortedMsrs (hmsrs ▸ hvalid.msrs) hhost
  refine ⟨msrs, hsorts, ?_, fromSnapshot_eq_ok.mpr
    ⟨hvalid, hregisters, hspecial, hmsrs.trans hsorted.symm⟩⟩
  simp only [materialize, bind_eq_ok, mapError_eq_ok, pure, Except.pure, Except.ok.injEq, hmsrs]
  exact ⟨msrs, hmaterialize, by rw [hregisters, hspecial]⟩

end VersionedVcpuStateSnapshotV1

/-! ### Two vCPUs -/

/-- The checkpoint with the given MSR snapshots of its vCPUs. -/
def withMsrs (checkpoint : BoundedTwoVcpuFullControllerCheckpoint)
    (primary secondary : GuestMsrSnapshot) : BoundedTwoVcpuFullControllerCheckpoint :=
  { checkpoint with
    base := {
      checkpoint.base with
      primary := {
        checkpoint.base.primary with
        vcpu := { checkpoint.base.primary.vcpu with msrs := primary } }
      secondary := { checkpoint.base.secondary with msrs := secondary } } }

namespace VersionedTwoVcpuFullControllerCheckpointV1

variable {v : VersionedTwoVcpuFullControllerCheckpointV1}
  {checkpoint : BoundedTwoVcpuFullControllerCheckpoint}

/-- What a value stores of a checkpoint apart from the vCPUs. -/
structure Stores (v : VersionedTwoVcpuFullControllerCheckpointV1)
    (checkpoint : BoundedTwoVcpuFullControllerCheckpoint) : Prop where
  primaryId : checkpoint.base.primaryId = v.vcpuIds.1
  secondaryId : checkpoint.base.secondaryId = v.vcpuIds.2
  masterPic : checkpoint.masterPic = v.masterPic
  slavePic : checkpoint.slavePic = v.slavePic
  ioapic : checkpoint.ioapic = v.ioapic
  lapics : checkpoint.lapics = ((v.vcpuIds.1, v.lapics.1), (v.vcpuIds.2, v.lapics.2))
  mpStates : checkpoint.mpStates = ((v.vcpuIds.1, v.mpStates.1), (v.vcpuIds.2, v.mpStates.2))

theorem fromCheckpoint_eq_ok :
    fromCheckpoint checkpoint = .ok v ↔
      v.Valid ∧ v.Stores checkpoint ∧
        VersionedPageVcpuCheckpointV1.fromCheckpoint checkpoint.base.primary = .ok v.primary ∧
        VersionedVcpuStateSnapshotV1.fromSnapshot checkpoint.base.secondary = .ok v.secondary := by
  obtain ⟨⟨primaryId, primary, secondaryId, secondary⟩, masterPic, slavePic, ioapic,
    ⟨⟨lapicId, lapic⟩, lapicId', lapic'⟩, ⟨mpId, mp⟩, mpId', mp'⟩ := checkpoint
  simp only [fromCheckpoint, bind_eq_ok, rejectIf_eq_ok, mapError_eq_ok, not_or, not_not, pure,
    Except.pure, Except.ok.injEq]
  constructor
  · rintro ⟨_, hids, _, hmp, _, ⟨rfl, rfl, rfl, rfl⟩, _, hpad, _, hprimary, _, hsecondary, rfl⟩
    exact ⟨⟨⟨hids, hmp⟩, hpad⟩, ⟨rfl, rfl, rfl, rfl, rfl, rfl, rfl⟩, hprimary, hsecondary⟩
  · obtain ⟨vprimary, vsecondary, ⟨vid, vid'⟩, ⟨vmp, vmp'⟩, vmaster, vslave, vioapic, vlapic,
      vlapic'⟩ := v
    rintro ⟨⟨⟨hids, hmp⟩, hpad⟩, ⟨hid, hid', hmaster, hslave, hioapic, hlapics, hmpStates⟩,
      hprimary, hsecondary⟩
    dsimp only at *
    subst hid hid' hmaster hslave hioapic
    cases hlapics
    cases hmpStates
    exact ⟨(), hids, (), hmp, (), ⟨rfl, rfl, rfl, rfl⟩, (), hpad, _, hprimary, _, hsecondary, rfl⟩

theorem materialize_eq_ok {hostMsrs : HostMsrIndexList} (hvalid : v.Valid)
    (hstores : v.Stores checkpoint)
    (hprimary : v.primary.materialize hostMsrs = .ok checkpoint.base.primary)
    (hsecondary : v.secondary.materialize hostMsrs = .ok checkpoint.base.secondary) :
    v.materialize hostMsrs = .ok checkpoint := by
  simp only [materialize, bind_eq_ok, rejectIf_eq_ok, mapError_eq_ok, not_not, pure, Except.pure,
    Except.ok.injEq]
  refine ⟨(), hvalid.identity.ids, (), hvalid.identity.mpStates, (), hvalid.pad, _, hprimary, _,
    hsecondary, ?_⟩
  obtain ⟨⟨primaryId, primary, secondaryId, secondary⟩, masterPic, slavePic, ioapic, lapics,
    mpStates⟩ := checkpoint
  obtain ⟨rfl, rfl, rfl, rfl, rfl, rfl, rfl⟩ := hstores
  rfl

theorem assemble_lt {primary secondary : List UInt8} (hprimary : v.primary.encode = .ok primary)
    (hsecondary : v.secondary.encode = .ok secondary) :
    64 + primary.length + (secondary.length + 2296) < 2 ^ 64 := by
  obtain ⟨hvalid, rfl⟩ := VersionedPageVcpuCheckpointV1.encode_eq_ok.mp hprimary
  obtain ⟨hvalid', rfl⟩ := VersionedVcpuStateSnapshotV1.encode_eq_ok.mp hsecondary
  have hpages := hvalid.pageCount.2
  have hmsrs := hvalid.msrCount
  have hmsrs' := hvalid'.msrCount
  rw [boundedCheckpointPageSetLimit] at hpages
  rw [versionedPageVcpuCheckpointMsrLimit] at hmsrs hmsrs'
  rw [encodeSpecialRegisters_eq, encodeSpecialRegisters_eq,
    VersionedPageVcpuCheckpointV1.length_assemble hvalid (length_specialRegisterBlock _),
    VersionedVcpuStateSnapshotV1.length_assemble (length_specialRegisterBlock _),
    VersionedPageVcpuCheckpointV1.size, VersionedVcpuStateSnapshotV1.size]
  omega

end VersionedTwoVcpuFullControllerCheckpointV1

open VersionedTwoVcpuFullControllerCheckpointV1 in
/-- **The round trip of a checkpoint.**  A checkpoint that can be stored, with architectural
segments and MSRs that the host has, is written, read back and materialized with the MSRs of each
vCPU in the order of their indices and nothing else changed; storing and writing the result gives
the same string. -/
theorem twoVcpu_round_trip {checkpoint : BoundedTwoVcpuFullControllerCheckpoint}
    {v : VersionedTwoVcpuFullControllerCheckpointV1} {hostMsrs : HostMsrIndexList}
    (hfrom : fromCheckpoint checkpoint = .ok v)
    (harch : ∀ special ∈ [checkpoint.base.primary.vcpu.specialRegisters,
        checkpoint.base.secondary.specialRegisters],
      ∀ segment ∈ segmentsOf special.encodeSnapshot, Architectural segment)
    (hhost : ∀ msrs ∈ [checkpoint.base.primary.vcpu.msrs, checkpoint.base.secondary.msrs],
      ∀ value ∈ msrs.values.values, value.index ∈ hostMsrs.indices) :
    ∃ bytes w primary secondary, v.encode = .ok bytes ∧ decode bytes = .ok w ∧
      w.materialize hostMsrs = .ok (withMsrs checkpoint primary secondary) ∧
      SortsMsrs checkpoint.base.primary.vcpu.msrs primary ∧
      SortsMsrs checkpoint.base.secondary.msrs secondary ∧
      (fromCheckpoint (withMsrs checkpoint primary secondary) >>= encode) = .ok bytes := by
  obtain ⟨hvalid, hstores, hprimary, hsecondary⟩ := fromCheckpoint_eq_ok.mp hfrom
  obtain ⟨primary, hsorts, hmaterialize, hfrom'⟩ :=
    VersionedPageVcpuCheckpointV1.exists_materialize_of_fromCheckpoint hprimary
      (hhost _ (List.mem_cons_self ..))
  obtain ⟨secondary, hsorts', hmaterialize', hfrom''⟩ :=
    VersionedVcpuStateSnapshotV1.exists_materialize_of_fromSnapshot hsecondary
      (hhost _ (List.mem_cons_of_mem _ (List.mem_cons_self ..)))
  -- sorting the MSRs touches nothing that is stored outside the vCPUs
  have hstores' : v.Stores (withMsrs checkpoint primary secondary) :=
    ⟨hstores.primaryId, hstores.secondaryId, hstores.masterPic, hstores.slavePic, hstores.ioapic,
      hstores.lapics, hstores.mpStates⟩
  obtain ⟨hpageValid, -, -, hspecial, -⟩ :=
    VersionedPageVcpuCheckpointV1.fromCheckpoint_eq_ok.mp hprimary
  obtain ⟨hstateValid, -, hspecial', -⟩ :=
    VersionedVcpuStateSnapshotV1.fromSnapshot_eq_ok.mp hsecondary
  have hpageBytes := VersionedPageVcpuCheckpointV1.encode_eq_ok.mpr ⟨hpageValid, rfl⟩
  have hstateBytes := VersionedVcpuStateSnapshotV1.encode_eq_ok.mpr ⟨hstateValid, rfl⟩
  have hlt := assemble_lt hpageBytes hstateBytes
  have hencode : v.encode = .ok _ :=
    encode_eq_ok.mpr ⟨hvalid, _, _, hpageBytes, hstateBytes, hlt, rfl⟩
  have hdecode : decode _ = .ok v := decode_eq_ok.mpr ⟨hvalid, _, _,
    VersionedPageVcpuCheckpointV1.decode_of_encode hpageBytes
      (hspecial ▸ harch _ (List.mem_cons_self ..)),
    VersionedVcpuStateSnapshotV1.decode_of_encode hstateBytes
      (hspecial' ▸ harch _ (List.mem_cons_of_mem _ (List.mem_cons_self ..))), hlt, rfl⟩
  refine ⟨_, v, primary, secondary, hencode, hdecode,
    materialize_eq_ok hvalid hstores' hmaterialize hmaterialize', hsorts, hsorts',
    bind_eq_ok.mpr ⟨v, ?_, hencode⟩⟩
  exact fromCheckpoint_eq_ok.mpr ⟨hvalid, hstores', hfrom', hfrom''⟩

/-- A host with the MSRs `0x174` to `0x176`. -/
def sysenterHost : HostMsrIndexList := ⟨[0x174, 0x175, 0x176]⟩

/-- Two MSRs captured against the order of their indices. -/
def unsortedMsrs : GuestMsrSnapshot where
  policy := ⟨[⟨0x175, .readWrite⟩, ⟨0x174, .readWrite⟩]⟩
  values := ⟨[⟨0x175, 1⟩, ⟨0x174, 2⟩]⟩
  aligned := rfl

theorem sortedMsrs_unsortedMsrs : sortedMsrs unsortedMsrs = sysenterMsrs := by
  simp [sortedMsrs, unsortedMsrs, sysenterMsrs, List.mergeSort, List.MergeSort.Internal.splitInTwo]

/-- A vCPU with those MSRs; its registers are zero. -/
def unsortedVcpu : VcpuStateSnapshot where
  registers := .fromKvmRegs default
  specialRegisters := .fromKvmSregs default
  msrs := unsortedMsrs

/-- Two such vCPUs and one zero page. -/
def unsortedCheckpoint : BoundedTwoVcpuFullControllerCheckpoint where
  base := {
    primaryId := 0
    primary := ⟨(unusableSegmentCheckpoint 0).pages, unsortedVcpu⟩
    secondaryId := 1
    secondary := unsortedVcpu }
  masterPic := ⟨default⟩
  slavePic := ⟨default⟩
  ioapic := idleIoapic
  lapics := ((0, ⟨.zeros _⟩), (1, ⟨.zeros _⟩))
  mpStates := ((0, 0), (1, 0))

/-- What is stored of those vCPUs and their page. -/
def unsortedStored : VersionedTwoVcpuFullControllerCheckpointV1 :=
  { idleTwoVcpu with
    primary := {
      unusableSegmentCheckpoint 0 with
      specialRegisters := .fromKvmSregs default }
    secondary := {
      unusableSegmentState 0 with
      specialRegisters := .fromKvmSregs default } }

theorem fromCheckpoint_unsortedCheckpoint :
    VersionedTwoVcpuFullControllerCheckpointV1.fromCheckpoint unsortedCheckpoint =
      .ok unsortedStored := by
  have hpages : validatePages (unusableSegmentCheckpoint 0).pages = .ok () :=
    valid_unusableSegmentCheckpoint.pages
  have hmsrs : validateMsrOrder sysenterMsrs = .ok () := by decide
  refine VersionedTwoVcpuFullControllerCheckpointV1.fromCheckpoint_eq_ok.mpr
    ⟨⟨valid_idleTwoVcpu.identity, valid_idleTwoVcpu.pad⟩, ⟨rfl, rfl, rfl, rfl, rfl, rfl, rfl⟩,
      ?_, ?_⟩
  · exact VersionedPageVcpuCheckpointV1.fromCheckpoint_eq_ok.mpr
      ⟨⟨hpages, hmsrs, of_decide_eq_true rfl⟩, rfl, rfl, rfl, sortedMsrs_unsortedMsrs.symm⟩
  · exact VersionedVcpuStateSnapshotV1.fromSnapshot_eq_ok.mpr
      ⟨⟨hmsrs, of_decide_eq_true rfl⟩, rfl, rfl, sortedMsrs_unsortedMsrs.symm⟩

/-- The round trip of two vCPUs whose MSRs are out of order. -/
theorem unsortedCheckpoint_round_trip :
    ∃ bytes primary secondary, unsortedStored.encode = .ok bytes ∧
      SortsMsrs unsortedMsrs primary ∧ SortsMsrs unsortedMsrs secondary ∧
      (VersionedTwoVcpuFullControllerCheckpointV1.fromCheckpoint
        (withMsrs unsortedCheckpoint primary secondary) >>= fun v => v.encode) = .ok bytes := by
  have harch : ∀ special ∈ [unsortedVcpu.specialRegisters, unsortedVcpu.specialRegisters],
      ∀ segment ∈ segmentsOf special.encodeSnapshot, Architectural segment := by
    decide +kernel
  have hhost : ∀ msrs ∈ [unsortedMsrs, unsortedMsrs], ∀ value ∈ msrs.values.values,
      value.index ∈ sysenterHost.indices := by
    decide
  obtain ⟨bytes, _, primary, secondary, hencode, -, -, hsorts, hsorts', hagain⟩ :=
    twoVcpu_round_trip fromCheckpoint_unsortedCheckpoint harch hhost
  exact ⟨bytes, primary, secondary, hencode, hsorts, hsorts', hagain⟩

end MiniHypervisor.Schema
