import MiniHypervisor.Checkpoint.PageSet

/-!
# The two vCPUs of a checkpoint

The checkpoints of two vCPUs, without and with the interrupt controllers
(`src/state_snapshot/two_vcpu_checkpoint.rs`), work on the vCPUs in the order of their ids.  So the
order in which the vCPUs are given does not matter.  Equal ids are refused, and so are ids other
than those of the checkpoint, before KVM is called.

What is restored to a vCPU is what was captured from the vCPU with its id.  This is said by a KVM
that refuses to write anything else to the vCPUs (`KvmOps.onlyWriting`): a restore does the same
under it as under the KVM without that restriction.
-/

namespace MiniHypervisor.Checkpoint

open Control Kvm Memory Vcpu

variable {σ α β : Type}

/-! ### The pair of vCPUs -/

theorem canonicalVcpuPair_self (operation : String) (id : VcpuId) :
    canonicalVcpuPair operation id id =
      .error (twoVcpuCheckpointError id operation "checkpoint requires two distinct vCPU ids") := by
  rw [canonicalVcpuPair, rejectIf, if_pos rfl]
  rfl

theorem canonicalVcpuPair_comm (operation : String) (first second : VcpuId) :
    canonicalVcpuPair operation first second = canonicalVcpuPair operation second first := by
  by_cases h : first = second
  · rw [h]
  · have hok : ∃ ids, canonicalVcpuPair operation first second = .ok ids := by
      rw [canonicalVcpuPair, rejectIf, if_neg h]
      exact ⟨_, rfl⟩
    obtain ⟨ids, hids⟩ := hok
    rw [hids, eq_comm, canonicalVcpuPair_eq_ok]
    obtain ⟨hlt, hpair⟩ := canonicalVcpuPair_eq_ok.mp hids
    exact ⟨hlt, hpair.symm⟩

/-- What holds of a capture, a verification and a restore of two vCPUs, given the ids that a
checkpoint holds. -/
structure SymmetricAndBound {τ κ ρ : Type} (capture : VcpuId → VcpuId → EStateM Error τ κ)
    (verify restore : κ → VcpuId → VcpuId → EStateM Error τ ρ) (ids : κ → VcpuId × VcpuId) :
    Prop where
  /-- The order of the vCPUs does not matter. -/
  capture_swap : ∀ first second, capture second first = capture first second
  verify_swap : ∀ checkpoint first second,
    verify checkpoint second first = verify checkpoint first second
  restore_swap : ∀ checkpoint first second,
    restore checkpoint second first = restore checkpoint first second
  /-- Equal ids are refused. -/
  capture_distinct : ∀ id s, ∃ e, (capture id id).run s = .error e s
  verify_distinct : ∀ checkpoint id s, ∃ e, (verify checkpoint id id).run s = .error e s
  restore_distinct : ∀ checkpoint id s, ∃ e, (restore checkpoint id id).run s = .error e s
  /-- Ids other than those of the checkpoint are refused, and nothing changes. -/
  verify_bound : ∀ checkpoint first second, ids checkpoint ≠ (first, second) →
    ids checkpoint ≠ (second, first) → ∀ s, ∃ e, (verify checkpoint first second).run s = .error e s
  restore_bound : ∀ checkpoint first second, ids checkpoint ≠ (first, second) →
    ids checkpoint ≠ (second, first) →
      ∀ s, ∃ e, (restore checkpoint first second).run s = .error e s

/-! ### Two vCPUs -/

namespace BoundedTwoVcpuCheckpoint

variable (checkpoint : BoundedTwoVcpuCheckpoint) (ops : KvmOps σ) (first second : VcpuId)

theorem bindVcpus_comm : checkpoint.bindVcpus second first = checkpoint.bindVcpus first second := by
  rw [bindVcpus, canonicalVcpuPair_comm, ← bindVcpus]

theorem capture_comm (policy : GuestMsrAccessPolicy) (pageAddresses : List UInt64) :
    capture ops second first policy pageAddresses =
      capture ops first second policy pageAddresses := by
  rw [capture, canonicalVcpuPair_comm, ← capture]

theorem verify_comm : checkpoint.verify ops second first = checkpoint.verify ops first second := by
  rw [verify, bindVcpus_comm, ← verify]

variable {checkpoint first second}

theorem bindVcpus_eq_ok {ids : VcpuId × VcpuId} :
    checkpoint.bindVcpus first second = .ok ids ↔
      canonicalVcpuPair vcpuOwnership first second = .ok ids ∧ ids = checkpoint.vcpuIds := by
  simp only [bindVcpus, bind_eq_ok, rejectIf_eq_ok, not_not, exists_const, pure, Except.pure,
    Except.ok.injEq]
  constructor
  · rintro ⟨_, hpair, hbound, rfl⟩
    exact ⟨hpair, hbound⟩
  · rintro ⟨hpair, hbound⟩
    exact ⟨ids, hpair, hbound, rfl⟩

theorem exists_bindVcpus_eq_error (h : checkpoint.vcpuIds ≠ (first, second))
    (h' : checkpoint.vcpuIds ≠ (second, first)) :
    ∃ e, checkpoint.bindVcpus first second = .error e := by
  cases hbind : checkpoint.bindVcpus first second with
  | error e => exact ⟨e, rfl⟩
  | ok ids =>
      obtain ⟨hpair, rfl⟩ := bindVcpus_eq_ok.mp hbind
      rcases (canonicalVcpuPair_eq_ok.mp hpair).2 with heq | heq
      · exact absurd heq h
      · exact absurd heq h'

theorem exists_bindVcpus_self (checkpoint : BoundedTwoVcpuCheckpoint) (id : VcpuId) :
    ∃ e, checkpoint.bindVcpus id id = .error e := by
  rw [bindVcpus, canonicalVcpuPair_self]
  exact ⟨_, rfl⟩

theorem symmetricAndBound (ops : KvmOps σ) (policy : GuestMsrAccessPolicy)
    (pageAddresses : List UInt64) :
    SymmetricAndBound (fun first second => capture ops first second policy pageAddresses)
      (fun checkpoint first second => checkpoint.verify ops first second)
      (fun checkpoint first second => checkpoint.restoreAndVerify ops first second) vcpuIds where
  capture_swap first second := capture_comm ops first second policy pageAddresses
  verify_swap checkpoint first second := checkpoint.verify_comm ops first second
  restore_swap checkpoint first second := by
    rw [restoreAndVerify, bindVcpus_comm, ← restoreAndVerify]
  capture_distinct id s :=
    ⟨_, run_bind_of_error (run_reads_of_error (canonicalVcpuPair_self vcpuOwnership id))⟩
  verify_distinct checkpoint id s := by
    obtain ⟨e, he⟩ := checkpoint.exists_bindVcpus_self id
    exact ⟨e, run_bind_of_error (run_reads_of_error he)⟩
  restore_distinct checkpoint id s := by
    obtain ⟨e, he⟩ := checkpoint.exists_bindVcpus_self id
    exact ⟨e, run_bind_of_error (run_reads_of_error he)⟩
  verify_bound checkpoint first second h h' s := by
    obtain ⟨e, he⟩ := exists_bindVcpus_eq_error h h'
    exact ⟨e, run_bind_of_error (run_reads_of_error he)⟩
  restore_bound checkpoint first second h h' s := by
    obtain ⟨e, he⟩ := exists_bindVcpus_eq_error h h'
    exact ⟨e, run_bind_of_error (run_reads_of_error he)⟩

end BoundedTwoVcpuCheckpoint

/-! ### Two vCPUs and the controllers -/

theorem Vm.exists_withGuestMemory_error {missing : Error} {x : EStateM Error (Guest σ) α}
    (h : ∀ guest, ∃ e, x.run guest = .error e guest) (vm : Vm σ) :
    ∃ e, (Vm.withGuestMemory missing x).run vm = .error e vm := by
  obtain ⟨_ | memory, kvm⟩ := vm
  · exact ⟨missing, rfl⟩
  · obtain ⟨e, he⟩ := h ⟨memory, kvm⟩
    refine ⟨e, ?_⟩
    rw [run_withGuestMemory_some]
    change within _ _ _ x _ = _
    simp only [within, he]

namespace BoundedTwoVcpuFullControllerCheckpoint

variable {checkpoint : BoundedTwoVcpuFullControllerCheckpoint} {first second : VcpuId}
  {operation : String}

theorem bindVcpus_comm (checkpoint : BoundedTwoVcpuFullControllerCheckpoint)
    (first second : VcpuId) (operation : String) :
    checkpoint.bindVcpus second first operation = checkpoint.bindVcpus first second operation := by
  rw [bindVcpus, canonicalVcpuPair_comm, ← bindVcpus]

theorem exists_bindVcpus_eq_error (h : checkpoint.base.vcpuIds ≠ (first, second))
    (h' : checkpoint.base.vcpuIds ≠ (second, first)) :
    ∃ e, checkpoint.bindVcpus first second operation = .error e := by
  cases hbind : checkpoint.bindVcpus first second operation with
  | error e => exact ⟨e, rfl⟩
  | ok ids =>
      obtain ⟨hpair, hbound⟩ := bindVcpus_eq_ok.mp hbind
      obtain rfl := eq_of_requireBoundVcpus hbound
      rcases (canonicalVcpuPair_eq_ok.mp hpair).2 with heq | heq
      · exact absurd heq h
      · exact absurd heq h'

theorem exists_bindVcpus_self (checkpoint : BoundedTwoVcpuFullControllerCheckpoint) (id : VcpuId)
    (operation : String) : ∃ e, checkpoint.bindVcpus id id operation = .error e := by
  rw [bindVcpus, canonicalVcpuPair_self]
  exact ⟨_, rfl⟩

theorem symmetricAndBound (ops : KvmOps σ) (policy : GuestMsrAccessPolicy)
    (pageAddresses : List UInt64) :
    SymmetricAndBound (fun first second => capture ops first second policy pageAddresses)
      (fun checkpoint first second => checkpoint.verify ops first second)
      (fun checkpoint first second => checkpoint.restoreAndVerify ops first second)
      fun checkpoint => checkpoint.base.vcpuIds where
  capture_swap first second := by
    rw [capture, BoundedTwoVcpuCheckpoint.capture_comm, canonicalVcpuPair_comm, ← capture]
  verify_swap checkpoint first second := by
    rw [verify, BoundedTwoVcpuCheckpoint.verify_comm, bindVcpus_comm, ← verify]
  restore_swap checkpoint first second := by
    rw [restoreAndVerify, bindVcpus_comm, ← restoreAndVerify]
  capture_distinct id s := by
    obtain ⟨e, he⟩ := Vm.exists_withGuestMemory_error
      ((BoundedTwoVcpuCheckpoint.symmetricAndBound ops policy pageAddresses).capture_distinct id) s
    exact ⟨e, run_bind_of_error he⟩
  verify_distinct checkpoint id s := by
    obtain ⟨e, he⟩ := Vm.exists_withGuestMemory_error
      ((BoundedTwoVcpuCheckpoint.symmetricAndBound ops policy pageAddresses).verify_distinct
        checkpoint.base id) s
    exact ⟨e, run_bind_of_error he⟩
  restore_distinct checkpoint id s := by
    obtain ⟨e, he⟩ := checkpoint.exists_bindVcpus_self id vcpuMutableOwnership
    exact ⟨e, run_bind_of_error (run_reads_of_error he)⟩
  verify_bound checkpoint first second h h' s := by
    obtain ⟨e, he⟩ := Vm.exists_withGuestMemory_error
      ((BoundedTwoVcpuCheckpoint.symmetricAndBound ops policy pageAddresses).verify_bound
        checkpoint.base first second h h') s
    exact ⟨e, run_bind_of_error he⟩
  restore_bound checkpoint first second h h' s := by
    obtain ⟨e, he⟩ := exists_bindVcpus_eq_error h h'
    exact ⟨e, run_bind_of_error (run_reads_of_error he)⟩

end BoundedTwoVcpuFullControllerCheckpoint

/-! ### What is written to a vCPU -/

/-- For each vCPU, what may be written to it. -/
structure VcpuPayloads where
  regs : VcpuId → Option KvmRegs
  sregs : VcpuId → Option KvmSregs
  msrs : VcpuId → Option (KvmMsrs vcpuMsrWriteCapacity)
  lapic : VcpuId → Option KvmLapicState
  mpState : VcpuId → Option UInt32

/-- A write that goes through only if it is the given one. -/
def onlyIf [DecidableEq α] (allowed : Option α) (payload : α) (x : EStateM String σ β) :
    EStateM String σ β :=
  if allowed = some payload then x else throw "refused"

/-- KVM, with all other writes to the vCPUs refused. -/
def KvmOps.onlyWriting (ops : KvmOps σ) (payloads : VcpuPayloads) : KvmOps σ :=
  { ops with
    setRegs := fun id regs => onlyIf (payloads.regs id) regs (ops.setRegs id regs)
    setSregs := fun id sregs => onlyIf (payloads.sregs id) sregs (ops.setSregs id sregs)
    setMsrs := fun id request => onlyIf (payloads.msrs id) request (ops.setMsrs id request)
    setLapic := fun id state => onlyIf (payloads.lapic id) state (ops.setLapic id state)
    setMpState := fun id state => onlyIf (payloads.mpState id) state (ops.setMpState id state) }

theorem onlyIf_of_eq [DecidableEq α] {allowed : Option α} {payload : α} {x : EStateM String σ β}
    (h : allowed = some payload) : onlyIf allowed payload x = x := if_pos h

/-- The second of the entry that has the id. -/
def entryOf (entries : (VcpuId × α) × (VcpuId × α)) (id : VcpuId) : Option α :=
  if entries.1.1 = id then some entries.1.2
  else if entries.2.1 = id then some entries.2.2
  else none

/-- The request that writes the MSRs of a snapshot, if there is one. -/
def msrRequest? (snapshot : GuestMsrSnapshot) : Option (KvmMsrs vcpuMsrWriteCapacity) :=
  (prepareVcpuMsrWriteRequest snapshot.values).toOption.join

/-- The payloads of given states, local APICs and multiprocessing states. -/
def VcpuPayloads.ofParts (state : VcpuId → Option VcpuStateSnapshot)
    (lapic : VcpuId → Option KvmLapicState) (mpState : VcpuId → Option UInt32) : VcpuPayloads where
  regs id := (state id).map fun snapshot => snapshot.registers.toKvmRegs
  sregs id := (state id).map fun snapshot => snapshot.specialRegisters.encodeSnapshot
  msrs id := (state id).bind fun snapshot => msrRequest? snapshot.msrs
  lapic := lapic
  mpState := mpState

section Writes

variable {ops : KvmOps σ} {id : VcpuId} {state : VcpuId → Option VcpuStateSnapshot}
  {lapic : VcpuId → Option KvmLapicState} {mpState : VcpuId → Option UInt32}

theorem checked_ok_bind {wrap : String → Error} {a : α} {f : α → EStateM Error σ β} :
    checked wrap (.ok a) >>= f = f a := rfl

theorem restoreMsrSnapshot_onlyWriting {payloads : VcpuPayloads} {snapshot : GuestMsrSnapshot}
    (h : payloads.msrs id = msrRequest? snapshot) :
    restoreMsrSnapshot (ops.onlyWriting payloads) id snapshot =
      restoreMsrSnapshot ops id snapshot := by
  unfold restoreMsrSnapshot setMsrs
  cases hprepare : prepareVcpuMsrWriteRequest snapshot.values with
  | error e => rfl
  | ok request =>
      cases request with
      | none => rfl
      | some request =>
          have hallowed : payloads.msrs id = some request := by
            rw [h, msrRequest?, hprepare]
            rfl
          have hset : (ops.onlyWriting payloads).setMsrs id request = ops.setMsrs id request :=
            onlyIf_of_eq hallowed
          rw [checked_ok_bind, checked_ok_bind]
          dsimp only
          rw [hset]

theorem restoreStateSnapshot_onlyWriting {snapshot : VcpuStateSnapshot}
    (h : state id = some snapshot) :
    restoreStateSnapshot (ops.onlyWriting (.ofParts state lapic mpState)) id snapshot =
      restoreStateSnapshot ops id snapshot := by
  have hsregs : (VcpuPayloads.ofParts state lapic mpState).sregs id =
      some snapshot.specialRegisters.encodeSnapshot := by
    simp only [VcpuPayloads.ofParts, h, Option.map_some]
  have hregs : (VcpuPayloads.ofParts state lapic mpState).regs id =
      some snapshot.registers.toKvmRegs := by
    simp only [VcpuPayloads.ofParts, h, Option.map_some]
  have hmsrs : (VcpuPayloads.ofParts state lapic mpState).msrs id = msrRequest? snapshot.msrs := by
    simp only [VcpuPayloads.ofParts, h, Option.bind_some]
  unfold restoreStateSnapshot
  rw [restoreMsrSnapshot_onlyWriting hmsrs]
  unfold restoreSpecialRegisterSnapshot restoreRegisterSnapshot
  simp only [KvmOps.onlyWriting, onlyIf_of_eq hsregs, onlyIf_of_eq hregs]

theorem restoreAndVerifyStateSnapshot_onlyWriting {snapshot : VcpuStateSnapshot}
    (h : state id = some snapshot) :
    restoreAndVerifyStateSnapshot (ops.onlyWriting (.ofParts state lapic mpState)) id snapshot =
      restoreAndVerifyStateSnapshot ops id snapshot := by
  rw [restoreAndVerifyStateSnapshot, restoreStateSnapshot_onlyWriting h]
  rfl

theorem restoreLapicCheckpointState_onlyWriting {payloads : VcpuPayloads} {held : KvmLapicState}
    (h : payloads.lapic id = some held) :
    restoreLapicCheckpointState (ops.onlyWriting payloads) id held =
      restoreLapicCheckpointState ops id held := by
  rw [restoreLapicCheckpointState, KvmOps.onlyWriting]
  simp only [onlyIf_of_eq h, restoreLapicCheckpointState]

theorem restoreMultiprocessingStateRaw_onlyWriting {payloads : VcpuPayloads} {held : UInt32}
    (h : payloads.mpState id = some held) :
    restoreMultiprocessingStateRaw (ops.onlyWriting payloads) id held =
      restoreMultiprocessingStateRaw ops id held := by
  rw [restoreMultiprocessingStateRaw, KvmOps.onlyWriting]
  simp only [onlyIf_of_eq h, restoreMultiprocessingStateRaw, multiprocessingStateRaw]

theorem reads_bind_congr {τ : Type} {x : Except Error α} {f f' : α → EStateM Error τ β}
    (h : ∀ a, x = .ok a → f a = f' a) :
    (reads fun _ => x) >>= f = (reads fun _ => x) >>= f' := by
  cases x with
  | error e => rfl
  | ok a => exact h a rfl

theorem entryOf_first {entries : (VcpuId × α) × (VcpuId × α)} (h : entries.1.1 = id) :
    entryOf entries id = some entries.1.2 := if_pos h

theorem entryOf_second {entries : (VcpuId × α) × (VcpuId × α)} {id' : VcpuId}
    (h : entries.1.1 = id') (h' : entries.2.1 = id) (hne : id' ≠ id) :
    entryOf entries id = some entries.2.2 := by
  rw [entryOf, h, if_neg hne, if_pos h']

end Writes

namespace BoundedTwoVcpuCheckpoint

variable (checkpoint : BoundedTwoVcpuCheckpoint)

/-- The states of the two vCPUs with their ids. -/
def states : (VcpuId × VcpuStateSnapshot) × (VcpuId × VcpuStateSnapshot) :=
  ((checkpoint.primaryId, checkpoint.primary.vcpu), (checkpoint.secondaryId, checkpoint.secondary))

/-- What the checkpoint holds for each vCPU. -/
def payloads : VcpuPayloads := .ofParts (entryOf checkpoint.states) (fun _ => none) fun _ => none

theorem restoreAndVerify_ofParts (ops : KvmOps σ) (first second : VcpuId)
    (lapic : VcpuId → Option KvmLapicState) (mpState : VcpuId → Option UInt32) :
    checkpoint.restoreAndVerify
        (ops.onlyWriting (.ofParts (entryOf checkpoint.states) lapic mpState)) first second =
      checkpoint.restoreAndVerify ops first second := by
  refine reads_bind_congr fun ids hids => ?_
  obtain ⟨hpair, rfl⟩ := bindVcpus_eq_ok.mp hids
  have hlt := (canonicalVcpuPair_eq_ok.mp hpair).1
  have hprimary : entryOf checkpoint.states checkpoint.primaryId = some checkpoint.primary.vcpu :=
    entryOf_first rfl
  have hsecondary : entryOf checkpoint.states checkpoint.secondaryId = some checkpoint.secondary :=
    entryOf_second rfl rfl (UInt16.ne_of_lt hlt)
  simp only [vcpuIds, BoundedVcpuPageSetCheckpoint.restoreAndVerify,
    restoreAndVerifyStateSnapshot_onlyWriting hprimary,
    restoreAndVerifyStateSnapshot_onlyWriting hsecondary]

/-- **A restore of two vCPUs** writes to each vCPU what the checkpoint holds for it, and nothing
else. -/
theorem restoreAndVerify_onlyWriting (ops : KvmOps σ) (first second : VcpuId) :
    checkpoint.restoreAndVerify (ops.onlyWriting checkpoint.payloads) first second =
      checkpoint.restoreAndVerify ops first second :=
  checkpoint.restoreAndVerify_ofParts ops first second _ _

end BoundedTwoVcpuCheckpoint

namespace BoundedTwoVcpuFullControllerCheckpoint

variable (checkpoint : BoundedTwoVcpuFullControllerCheckpoint)

/-- What the checkpoint holds for each vCPU. -/
def payloads : VcpuPayloads :=
  .ofParts (entryOf checkpoint.base.states) (entryOf checkpoint.lapics)
    (entryOf checkpoint.mpStates)

/-- **A restore of two vCPUs with the controllers** writes to each vCPU what the checkpoint holds
for it, and nothing else. -/
theorem restoreAndVerify_onlyWriting (ops : KvmOps σ) (first second : VcpuId) :
    checkpoint.restoreAndVerify (ops.onlyWriting checkpoint.payloads) first second =
      checkpoint.restoreAndVerify ops first second := by
  refine reads_bind_congr fun ids hids => ?_
  obtain ⟨hpair, hbound⟩ := bindVcpus_eq_ok.mp hids
  have hne : ids.1 ≠ ids.2 := UInt16.ne_of_lt (canonicalVcpuPair_eq_ok.mp hpair).1
  rw [requireBoundVcpus, rejectIf_eq_ok] at hbound
  simp only [not_or, not_not] at hbound
  obtain ⟨-, hlapic, hlapic', hmp, hmp'⟩ := hbound
  have hmpStates : checkpoint.restoreMpStates (ops.onlyWriting checkpoint.payloads) ids =
      checkpoint.restoreMpStates ops ids := by
    rw [restoreMpStates, restoreMultiprocessingStateRaw_onlyWriting (entryOf_first hmp),
      restoreMultiprocessingStateRaw_onlyWriting (entryOf_second hmp hmp' hne), ← restoreMpStates]
  have hcontrollers : checkpoint.restoreControllers (ops.onlyWriting checkpoint.payloads) ids =
      checkpoint.restoreControllers ops ids := by
    rw [restoreControllers, restoreLapicCheckpointState_onlyWriting (entryOf_first hlapic),
      restoreLapicCheckpointState_onlyWriting (entryOf_second hlapic hlapic' hne)]
    rfl
  have hbase := checkpoint.base.restoreAndVerify_ofParts ops ids.1 ids.2
    (entryOf checkpoint.lapics) (entryOf checkpoint.mpStates)
  rw [payloads] at hmpStates hcontrollers ⊢
  rw [hbase, hmpStates, hcontrollers]
  rfl

end BoundedTwoVcpuFullControllerCheckpoint

/-! ### What is captured from a vCPU -/

/-- The calls whose results the checkpoint holds, from one state of KVM to another: the state of
each vCPU is captured from the vCPU with its id. -/
structure BoundedTwoVcpuCheckpoint.CapturedFrom (checkpoint : BoundedTwoVcpuCheckpoint)
    (ops : KvmOps σ) (policy : GuestMsrAccessPolicy) (kvm kvm' : σ) : Prop where
  ordered : checkpoint.primaryId < checkpoint.secondaryId
  states : ∃ kvm₁,
    (captureStateSnapshot ops checkpoint.primaryId policy).run kvm =
        .ok checkpoint.primary.vcpu kvm₁ ∧
      (captureStateSnapshot ops checkpoint.secondaryId policy).run kvm₁ =
        .ok checkpoint.secondary kvm'

/-- The calls whose results the checkpoint holds, from one state of KVM to another: the local APIC
and the multiprocessing state of each vCPU, too, are captured from the vCPU with its id. -/
structure BoundedTwoVcpuFullControllerCheckpoint.CapturedFrom
    (checkpoint : BoundedTwoVcpuFullControllerCheckpoint) (ops : KvmOps σ)
    (policy : GuestMsrAccessPolicy) (kvm kvm' : σ) : Prop where
  lapic_ids : (checkpoint.lapics.1.1, checkpoint.lapics.2.1) = checkpoint.base.vcpuIds
  mpState_ids : (checkpoint.mpStates.1.1, checkpoint.mpStates.2.1) = checkpoint.base.vcpuIds
  calls : ∃ kvm₁ kvm₂ kvm₃ kvm₄ kvm₅ kvm₆ kvm₇,
    checkpoint.base.CapturedFrom ops policy kvm kvm₁ ∧
      (captureMasterPicState ops).run kvm₁ = .ok checkpoint.masterPic kvm₂ ∧
      (captureSlavePicState ops).run kvm₂ = .ok checkpoint.slavePic kvm₃ ∧
      (captureIoapicState ops).run kvm₃ = .ok checkpoint.ioapic kvm₄ ∧
      (captureLapicCheckpointState ops checkpoint.base.primaryId).run kvm₄ =
        .ok checkpoint.lapics.1.2 kvm₅ ∧
      (captureLapicCheckpointState ops checkpoint.base.secondaryId).run kvm₅ =
        .ok checkpoint.lapics.2.2 kvm₆ ∧
      (multiprocessingStateRaw ops checkpoint.base.primaryId).run kvm₆ =
        .ok checkpoint.mpStates.1.2 kvm₇ ∧
      (multiprocessingStateRaw ops checkpoint.base.secondaryId).run kvm₇ =
        .ok checkpoint.mpStates.2.2 kvm'

theorem Guest.kvm_of_onKvm {x : EStateM Error σ α} {a : α} {guest guest' : Guest σ}
    (h : (Guest.onKvm x).run guest = .ok a guest') : x.run guest.kvm = .ok a guest'.kvm := by
  obtain ⟨kvm, hrun, rfl⟩ := run_within_eq_ok.mp h
  exact hrun

theorem Vm.kvm_of_onKvm {x : EStateM Error σ α} {a : α} {vm vm' : Vm σ}
    (h : (Vm.onKvm x).run vm = .ok a vm') : x.run vm.kvm = .ok a vm'.kvm := by
  obtain ⟨kvm, hrun, rfl⟩ := run_within_eq_ok.mp h
  exact hrun

section Capture

variable {ops : KvmOps σ} {first second : VcpuId} {policy : GuestMsrAccessPolicy}
  {pageAddresses : List UInt64}

theorem BoundedTwoVcpuCheckpoint.capturedFrom_of_run {guest guest' : Guest σ}
    {checkpoint : BoundedTwoVcpuCheckpoint}
    (h : (capture ops first second policy pageAddresses).run guest = .ok checkpoint guest') :
    canonicalVcpuPair vcpuOwnership first second = .ok checkpoint.vcpuIds ∧
      checkpoint.CapturedFrom ops policy guest.kvm guest'.kvm := by
  obtain ⟨⟨primaryId, secondaryId⟩, _, hids, hrest⟩ := run_bind_eq_ok.mp h
  obtain ⟨primary, guest₁, hprimary, hrest⟩ := run_bind_eq_ok.mp hrest
  obtain ⟨secondary, guest₂, hsecondary, hreturn⟩ := run_bind_eq_ok.mp hrest
  cases hreturn
  obtain ⟨hpair, rfl⟩ := run_reads_eq_ok.mp hids
  obtain ⟨-, kvm₁, hstate, rfl⟩ := BoundedVcpuPageSetCheckpoint.run_capture_eq_ok.mp hprimary
  refine ⟨hpair, (canonicalVcpuPair_eq_ok.mp hpair).1, kvm₁, hstate, ?_⟩
  exact Guest.kvm_of_onKvm hsecondary

theorem BoundedTwoVcpuFullControllerCheckpoint.capturedFrom_of_run {vm vm' : Vm σ}
    {checkpoint : BoundedTwoVcpuFullControllerCheckpoint}
    (h : (capture ops first second policy pageAddresses).run vm = .ok checkpoint vm') :
    canonicalVcpuPair vcpuOwnership first second = .ok checkpoint.base.vcpuIds ∧
      checkpoint.CapturedFrom ops policy vm.kvm vm'.kvm := by
  obtain ⟨base, vm₁, hguest, hrest⟩ := run_bind_eq_ok.mp h
  obtain ⟨memory, guest', -, hbase, rfl⟩ := Vm.run_withGuestMemory_eq_ok.mp hguest
  obtain ⟨hpair, hcaptured⟩ := BoundedTwoVcpuCheckpoint.capturedFrom_of_run hbase
  obtain ⟨ids, _, hagain, hrest⟩ := run_bind_eq_ok.mp hrest
  obtain ⟨masterPic, vm₂, hmaster, hrest⟩ := run_bind_eq_ok.mp hrest
  obtain ⟨slavePic, vm₃, hslave, hrest⟩ := run_bind_eq_ok.mp hrest
  obtain ⟨ioapic, vm₄, hioapic, hrest⟩ := run_bind_eq_ok.mp hrest
  obtain ⟨primaryLapic, vm₅, hlapic, hrest⟩ := run_bind_eq_ok.mp hrest
  obtain ⟨secondaryLapic, vm₆, hlapic', hrest⟩ := run_bind_eq_ok.mp hrest
  obtain ⟨primaryMp, vm₇, hmp, hrest⟩ := run_bind_eq_ok.mp hrest
  obtain ⟨secondaryMp, vm₈, hmp', hreturn⟩ := run_bind_eq_ok.mp hrest
  cases hreturn
  obtain ⟨hids, rfl⟩ := run_reads_eq_ok.mp hagain
  cases hpair.symm.trans hids
  exact ⟨hpair, rfl, rfl, _, vm₂.kvm, vm₃.kvm, vm₄.kvm, vm₅.kvm, vm₆.kvm, vm₇.kvm, hcaptured,
    Vm.kvm_of_onKvm hmaster, Vm.kvm_of_onKvm hslave, Vm.kvm_of_onKvm hioapic,
    Vm.kvm_of_onKvm hlapic, Vm.kvm_of_onKvm hlapic', Vm.kvm_of_onKvm hmp, Vm.kvm_of_onKvm hmp'⟩

end Capture

/-- **Checkpoints of two vCPUs are symmetric and bound to the ids of the vCPUs**, without and with
the controllers: the order of the vCPUs does not matter, ids that are equal or not those of the
checkpoint are refused, and a restore writes to a vCPU nothing but what was captured from the vCPU
with its id. -/
theorem two_vcpu_checkpoints_symmetric_and_bound (ops : KvmOps σ) (policy : GuestMsrAccessPolicy)
    (pageAddresses : List UInt64) :
    SymmetricAndBound
        (fun first second =>
          BoundedTwoVcpuCheckpoint.capture ops first second policy pageAddresses)
        (fun checkpoint first second => checkpoint.verify ops first second)
        (fun checkpoint first second => checkpoint.restoreAndVerify ops first second)
        BoundedTwoVcpuCheckpoint.vcpuIds ∧
      SymmetricAndBound
        (fun first second =>
          BoundedTwoVcpuFullControllerCheckpoint.capture ops first second policy pageAddresses)
        (fun checkpoint first second => checkpoint.verify ops first second)
        (fun checkpoint first second => checkpoint.restoreAndVerify ops first second)
        (fun checkpoint => checkpoint.base.vcpuIds) ∧
      (∀ (checkpoint : BoundedTwoVcpuCheckpoint) first second,
        checkpoint.restoreAndVerify (ops.onlyWriting checkpoint.payloads) first second =
          checkpoint.restoreAndVerify ops first second) ∧
      (∀ (checkpoint : BoundedTwoVcpuFullControllerCheckpoint) first second,
        checkpoint.restoreAndVerify (ops.onlyWriting checkpoint.payloads) first second =
          checkpoint.restoreAndVerify ops first second) ∧
      (∀ first second guest checkpoint guest',
        (BoundedTwoVcpuCheckpoint.capture ops first second policy pageAddresses).run guest =
            .ok checkpoint guest' →
          canonicalVcpuPair vcpuOwnership first second = .ok checkpoint.vcpuIds ∧
            checkpoint.CapturedFrom ops policy guest.kvm guest'.kvm) ∧
      ∀ first second vm checkpoint vm',
        (BoundedTwoVcpuFullControllerCheckpoint.capture ops first second policy pageAddresses).run
            vm = .ok checkpoint vm' →
          canonicalVcpuPair vcpuOwnership first second = .ok checkpoint.base.vcpuIds ∧
            checkpoint.CapturedFrom ops policy vm.kvm vm'.kvm :=
  ⟨BoundedTwoVcpuCheckpoint.symmetricAndBound ops policy pageAddresses,
    BoundedTwoVcpuFullControllerCheckpoint.symmetricAndBound ops policy pageAddresses,
    fun checkpoint first second => checkpoint.restoreAndVerify_onlyWriting ops first second,
    fun checkpoint first second => checkpoint.restoreAndVerify_onlyWriting ops first second,
    fun _ _ _ _ _ => BoundedTwoVcpuCheckpoint.capturedFrom_of_run,
    fun _ _ _ _ _ => BoundedTwoVcpuFullControllerCheckpoint.capturedFrom_of_run⟩

end MiniHypervisor.Checkpoint
