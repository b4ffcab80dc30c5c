import Mathlib.Logic.Function.Basic
import MiniHypervisor.Checkpoint.Verification
import MiniHypervisor.Control.Triples

/-!
# A faithful KVM

A KVM is faithful when each of its operations succeeds, a read returns what the state shows and a
write changes exactly what it names.  The state of KVM may hold more than that: it is seen through
an observation.  Under a faithful KVM the registers and MSRs of a vCPU can be captured and restored,
and a restored vCPU shows its snapshot, if the MSRs are distinct and fit the buffers.
-/

namespace MiniHypervisor.Checkpoint

open Bytes Control Kvm Vcpu

/-! ### What KVM shows -/

/-- The state of the vCPUs and of the interrupt controllers. -/
@[ext] structure KvmState where
  regs : VcpuId → KvmRegs
  sregs : VcpuId → KvmSregs
  msrs : VcpuId → MsrIndex → UInt64
  lapics : VcpuId → KvmLapicState
  mpStates : VcpuId → UInt32
  irqchips : UInt32 → FixedBytes kvmIrqchipPayloadSize

/-- The entries of a buffer in use. -/
def KvmMsrs.used {n : ℕ} (request : KvmMsrs n) : List KvmMsrEntry :=
  request.entries.1.take request.nmsrs.toNat

/-- A buffer with the values of its entries in use filled in. -/
def KvmMsrs.filled {n : ℕ} (request : KvmMsrs n) (value : MsrIndex → UInt64) : KvmMsrs n where
  nmsrs := request.nmsrs
  pad := request.pad
  entries := ⟨(request.used.map fun entry => { entry with data := value entry.index }) ++
    request.entries.1.drop request.nmsrs.toNat, by
      rw [List.length_append, List.length_map, ← List.length_append, used, List.take_append_drop]
      exact request.entries.2⟩

/-- MSRs with some of them written in order. -/
def writeMsrs (msrs : MsrIndex → UInt64) (values : List (MsrIndex × UInt64)) : MsrIndex → UInt64 :=
  values.foldl (fun msrs value => Function.update msrs value.1 value.2) msrs

namespace KvmState

variable (state : KvmState)

/-- The state after `KVM_SET_REGS`. -/
def setRegs (id : VcpuId) (regs : KvmRegs) : KvmState :=
  { state with regs := Function.update state.regs id regs }

/-- The state after `KVM_SET_SREGS`. -/
def setSregs (id : VcpuId) (sregs : KvmSregs) : KvmState :=
  { state with sregs := Function.update state.sregs id sregs }

/-- The state after `KVM_SET_MSRS`. -/
def setMsrs (id : VcpuId) (values : List (MsrIndex × UInt64)) : KvmState :=
  { state with msrs := Function.update state.msrs id (writeMsrs (state.msrs id) values) }

/-- The state after `KVM_SET_LAPIC`. -/
def setLapic (id : VcpuId) (lapic : KvmLapicState) : KvmState :=
  { state with lapics := Function.update state.lapics id lapic }

/-- The state after `KVM_SET_MP_STATE`. -/
def setMpState (id : VcpuId) (mpState : UInt32) : KvmState :=
  { state with mpStates := Function.update state.mpStates id mpState }

/-- The state after `KVM_SET_IRQCHIP`. -/
def setIrqchip (chipId : UInt32) (chip : FixedBytes kvmIrqchipPayloadSize) : KvmState :=
  { state with irqchips := Function.update state.irqchips chipId chip }

end KvmState

variable {σ α : Type}

/-- The KVM is faithful to what `view` shows of its state. -/
structure Faithful (ops : KvmOps σ) (view : σ → KvmState) : Prop where
  getRegs : ∀ id v, Yields view (ops.getRegs id) v (v.regs id) v
  setRegs : ∀ id regs v, Yields view (ops.setRegs id regs) v () (v.setRegs id regs)
  getSregs : ∀ id v, Yields view (ops.getSregs id) v (v.sregs id) v
  setSregs : ∀ id sregs v, Yields view (ops.setSregs id sregs) v () (v.setSregs id sregs)
  getMsrs : ∀ id request v, Yields view (ops.getMsrs id request) v
    (request.nmsrs.toNat, request.filled (v.msrs id)) v
  setMsrs : ∀ id request v, Yields view (ops.setMsrs id request) v request.nmsrs.toNat
    (v.setMsrs id (request.used.map fun entry => (entry.index, entry.data)))
  getLapic : ∀ id v, Yields view (ops.getLapic id) v (v.lapics id) v
  setLapic : ∀ id lapic v, Yields view (ops.setLapic id lapic) v () (v.setLapic id lapic)
  getMpState : ∀ id v, Yields view (ops.getMpState id) v (v.mpStates id) v
  setMpState : ∀ id mpState v, Yields view (ops.setMpState id mpState) v ()
    (v.setMpState id mpState)
  getIrqchip : ∀ request v, Yields view (ops.getIrqchip request) v
    { request with chip := v.irqchips request.chipId } v
  setIrqchip : ∀ request v, Yields view (ops.setIrqchip request) v ()
    (v.setIrqchip request.chipId request.chip)

/-- A KVM whose state is what it shows. -/
def exactOps : KvmOps KvmState where
  getRegs id := fun v => .ok (v.regs id) v
  setRegs id regs := fun v => .ok () (v.setRegs id regs)
  getSregs id := fun v => .ok (v.sregs id) v
  setSregs id sregs := fun v => .ok () (v.setSregs id sregs)
  getMsrs id request := fun v => .ok (request.nmsrs.toNat, request.filled (v.msrs id)) v
  setMsrs id request := fun v => .ok request.nmsrs.toNat
    (v.setMsrs id (request.used.map fun entry => (entry.index, entry.data)))
  getLapic id := fun v => .ok (v.lapics id) v
  setLapic id lapic := fun v => .ok () (v.setLapic id lapic)
  getMpState id := fun v => .ok (v.mpStates id) v
  setMpState id mpState := fun v => .ok () (v.setMpState id mpState)
  getIrqchip request := fun v => .ok { request with chip := v.irqchips request.chipId } v
  setIrqchip request := fun v => .ok () (v.setIrqchip request.chipId request.chip)

theorem faithful_exactOps : Faithful exactOps id := by
  constructor <;> (intros; rintro v rfl; exact ⟨_, rfl, rfl⟩)

/-- A policy whose MSRs can be read and written: they are distinct and fit a buffer. -/
structure ReadablePolicy (policy : GuestMsrAccessPolicy) : Prop where
  fits : policy.entries.length ≤ vcpuMsrReadbackCapacity
  nodup : (policyMsrIndices policy).Nodup

namespace KvmState

variable (state : KvmState) (id : VcpuId)

/-- The MSRs of a vCPU that a policy names. -/
def msrSnapshot (policy : GuestMsrAccessPolicy) : GuestMsrSnapshot where
  policy := policy
  values := ⟨policy.entries.map fun entry => ⟨entry.index, state.msrs id entry.index⟩⟩
  aligned := by rw [List.map_map]; rfl

/-- The registers of a vCPU, and the MSRs that a policy names. -/
def vcpu (policy : GuestMsrAccessPolicy) : VcpuStateSnapshot where
  registers := .fromKvmRegs (state.regs id)
  specialRegisters := .fromKvmSregs (state.sregs id)
  msrs := state.msrSnapshot id policy

/-- The state with a vCPU restored. -/
def restoreVcpu (snapshot : VcpuStateSnapshot) : KvmState :=
  ((state.setSregs id snapshot.specialRegisters.encodeSnapshot).setRegs id
    snapshot.registers.toKvmRegs).setMsrs id
      (snapshot.msrs.values.values.map fun value => (value.index, value.value))

end KvmState

/-! ### Registers -/

section Operations

variable {ops : KvmOps σ} {view : σ → KvmState} {id : VcpuId} {v w : KvmState} {a : α}

theorem yields_orElseError {wrap : String → Error} {x : EStateM String σ α}
    (h : Yields view x v a w) : Yields view (orElseError wrap x) v a w :=
  .within h (fun _ hs => hs) fun _ _ _ ht => ht

theorem yields_checked {wrap : String → Error} {x : Except String α} (h : x = .ok a) :
    Yields view (checked wrap x) v a v :=
  .reads fun _ _ => mapError_eq_ok.mpr h

theorem yields_guard {c : Prop} [Decidable c] {wrap : String → Error} {detail : String}
    (h : ¬ c) : Yields view (checked wrap (rejectIf c detail)) v () v :=
  yields_checked (rejectIf_eq_ok.mpr h)

variable (hops : Faithful ops view)

include hops

theorem yields_captureRegisterSnapshot :
    Yields view (captureRegisterSnapshot ops id) v (.fromKvmRegs (v.regs id)) v :=
  (yields_orElseError (hops.getRegs id v)).bind (.pure _ _)

theorem yields_captureSpecialRegisterSnapshot :
    Yields view (captureSpecialRegisterSnapshot ops id) v (.fromKvmSregs (v.sregs id)) v :=
  (yields_orElseError (hops.getSregs id v)).bind (.pure _ _)

/-! ### MSRs -/

omit hops in
theorem KvmMsrs.used_ofEntries {n : ℕ} {entries : List KvmMsrEntry} (h : entries.length ≤ n)
    (hn : n < 2 ^ 32) :
    (KvmMsrs.ofEntries entries h).nmsrs.toNat = entries.length ∧
      (KvmMsrs.ofEntries entries h).used = entries := by
  have hcount : (KvmMsrs.ofEntries entries h).nmsrs.toNat = entries.length := by
    change (UInt32.ofNat entries.length).toNat = _
    rw [UInt32.toNat_ofNat']
    exact Nat.mod_eq_of_lt (by omega)
  refine ⟨hcount, ?_⟩
  rw [used, hcount]
  exact List.take_left

omit hops in
theorem decodeVcpuMsrResponse_filled {n : ℕ} {request : KvmMsrs n} {indices : List MsrIndex}
    (value : MsrIndex → UInt64) (hcount : request.nmsrs.toNat = indices.length)
    (hused : request.used = indices.map fun index => ⟨index, 0, 0⟩) :
    decodeVcpuMsrResponse indices request.nmsrs.toNat
        ((request.filled value).entries.1.take indices.length) =
      .ok (indices.map fun index => (index, value index)) := by
  have htake : (request.filled value).entries.1.take indices.length =
      indices.map fun index => ⟨index, 0, value index⟩ := by
    have hlen : (request.used.map fun entry => { entry with data := value entry.index }).length =
        indices.length := by
      rw [List.length_map, hused, List.length_map]
    change ((request.used.map fun entry => { entry with data := value entry.index }) ++ _).take
      indices.length = _
    rw [← hlen, List.take_left, hused, List.map_map]
    rfl
  rw [htake, hcount, decodeVcpuMsrResponse_eq_ok (List.length_map _), List.map_map, List.map_map]
  exact ⟨rfl, List.map_id _, rfl⟩

theorem yields_msrs {indices : List MsrIndex} (h : indices.length ≤ vcpuMsrReadbackCapacity) :
    Yields view (msrs ops id indices) v (indices.map fun index => (index, v.msrs id index)) v := by
  unfold msrs
  split_ifs with hempty
  · rw [List.isEmpty_iff.mp hempty]
    exact .pure _ _
  · have hfits : (indices.map fun index => (⟨index, 0, 0⟩ : KvmMsrEntry)).length ≤
        vcpuMsrReadbackCapacity := by
      rwa [List.length_map]
    obtain ⟨hcount, hused⟩ := KvmMsrs.used_ofEntries hfits (by decide)
    have hprepare : prepareVcpuMsrRequest indices = .ok (.ofEntries _ hfits) := dif_pos h
    refine (yields_checked hprepare).bind ?_
    refine (yields_orElseError (hops.getMsrs id _ v)).bind (yields_checked ?_)
    exact decodeVcpuMsrResponse_filled (v.msrs id) (hcount.trans (List.length_map _)) hused

theorem yields_captureMsrSnapshot {policy : GuestMsrAccessPolicy} (h : ReadablePolicy policy) :
    Yields view (captureMsrSnapshot ops id policy) v (v.msrSnapshot id policy) v := by
  have hmaterialize : materializePolicyCapture policy
      ((policyMsrIndices policy).map fun index => (index, v.msrs id index)) =
        .ok (v.msrSnapshot id policy).values := by
    rw [materializePolicyCapture_eq_ok, List.map_map]
    refine ⟨List.map_id _, h.nodup, ?_⟩
    rw [policyMsrIndices, List.map_map, List.map_map]
    rfl
  have hcapture : Yields view (captureMsrs ops id policy) v (v.msrSnapshot id policy).values v := by
    rw [captureMsrs_eq]
    refine (yields_msrs hops ?_).bind (yields_checked hmaterialize)
    rw [policyMsrIndices, List.length_map]
    exact h.fits
  refine hcapture.bind (yields_checked ?_)
  exact mapError_eq_ok.mpr (GuestMsrSnapshot.fromCapture_eq_ok.mpr ⟨rfl, rfl⟩)

theorem yields_captureStateSnapshot {policy : GuestMsrAccessPolicy} (h : ReadablePolicy policy) :
    Yields view (captureStateSnapshot ops id policy) v (v.vcpu id policy) v :=
  (yields_captureRegisterSnapshot hops).bind <|
    (yields_captureSpecialRegisterSnapshot hops).bind <|
      (yields_captureMsrSnapshot hops h).bind (.pure _ _)

/-! ### Restores of a vCPU -/

theorem yields_restoreMsrSnapshot {snapshot : GuestMsrSnapshot}
    (h : ReadablePolicy snapshot.policy) :
    Yields view (restoreMsrSnapshot ops id snapshot) v ()
      (v.setMsrs id (snapshot.values.values.map fun value => (value.index, value.value))) := by
  have hlen : snapshot.values.values.length ≤ vcpuMsrWriteCapacity := by
    have haligned := congrArg List.length snapshot.aligned
    rw [List.length_map, List.length_map] at haligned
    exact haligned ▸ h.fits
  unfold restoreMsrSnapshot setMsrs
  by_cases hempty : snapshot.values.values.isEmpty
  · have hprepare : prepareVcpuMsrWriteRequest snapshot.values = .ok none := if_pos hempty
    refine (yields_checked hprepare).bind ?_
    rw [List.isEmpty_iff.mp hempty, KvmState.setMsrs]
    have hsame : Function.update v.msrs id (writeMsrs (v.msrs id) []) = v.msrs :=
      Function.update_eq_self id v.msrs
    exact hsame.symm ▸ Yields.pure () v
  · have hfits : (snapshot.values.values.map fun value =>
        (⟨value.index, 0, value.value⟩ : KvmMsrEntry)).length ≤ vcpuMsrWriteCapacity := by
      rwa [List.length_map]
    obtain ⟨hcount, hused⟩ := KvmMsrs.used_ofEntries hfits (by decide)
    have hprepare : prepareVcpuMsrWriteRequest snapshot.values = .ok (some (.ofEntries _ hfits)) :=
      (if_neg hempty).trans (dif_pos hlen)
    refine (yields_checked hprepare).bind ?_
    have hset := hops.setMsrs id (.ofEntries _ hfits) v
    rw [hcount, hused, List.length_map, List.map_map] at hset
    refine (yields_orElseError hset).bind (.reads fun _ _ => ?_)
    exact if_pos rfl

theorem yields_restoreStateSnapshot {snapshot : VcpuStateSnapshot}
    (h : ReadablePolicy snapshot.msrs.policy) :
    Yields view (restoreStateSnapshot ops id snapshot) v () (v.restoreVcpu id snapshot) :=
  (yields_orElseError (hops.setSregs id _ v)).bind <|
    (yields_orElseError (hops.setRegs id _ _)).bind (yields_restoreMsrSnapshot hops h)

omit hops in
theorem writeMsrs_of_notMem {values : List (MsrIndex × UInt64)} {index : MsrIndex}
    (h : index ∉ values.map Prod.fst) (msrs : MsrIndex → UInt64) :
    writeMsrs msrs values index = msrs index := by
  induction values generalizing msrs with
  | nil => rfl
  | cons value values ih =>
      rw [List.map_cons, List.mem_cons, not_or] at h
      exact (ih h.2 _).trans (Function.update_of_ne h.1 _ _)

omit hops in
theorem writeMsrs_of_mem {values : List (MsrIndex × UInt64)} {value : MsrIndex × UInt64}
    (hnodup : (values.map Prod.fst).Nodup) (h : value ∈ values) (msrs : MsrIndex → UInt64) :
    writeMsrs msrs values value.1 = value.2 := by
  induction values generalizing msrs with
  | nil => cases h
  | cons head values ih =>
      rw [List.map_cons, List.nodup_cons] at hnodup
      rcases List.mem_cons.mp h with rfl | h
      · exact (writeMsrs_of_notMem hnodup.1 _).trans (Function.update_self _ _ _)
      · exact ih hnodup.2 h _

omit hops in
theorem KvmState.msrSnapshot_eq_of_written {snapshot : GuestMsrSnapshot}
    (h : ReadablePolicy snapshot.policy) {msrs : MsrIndex → UInt64}
    (hwritten : v.msrs id = writeMsrs msrs (snapshot.values.values.map fun value =>
      (value.index, value.value))) :
    v.msrSnapshot id snapshot.policy = snapshot := by
  obtain ⟨policy, ⟨values⟩, haligned⟩ := snapshot
  dsimp only at h hwritten haligned ⊢
  have hnodup : ((values.map fun value => (value.index, value.value)).map Prod.fst).Nodup := by
    rw [List.map_map]
    exact haligned ▸ h.nodup
  have hvalues : policy.entries.map (fun entry => (⟨entry.index, v.msrs id entry.index⟩ :
      GuestMsrValue)) = values :=
    calc policy.entries.map (fun entry => (⟨entry.index, v.msrs id entry.index⟩ : GuestMsrValue))
      _ = (policy.entries.map GuestMsrAccess.index).map fun index =>
          (⟨index, v.msrs id index⟩ : GuestMsrValue) := by rw [List.map_map]; rfl
      _ = values.map fun value => (⟨value.index, v.msrs id value.index⟩ : GuestMsrValue) := by
          rw [haligned, List.map_map]; rfl
      _ = values.map fun value => value := by
          refine List.map_congr_left fun value hvalue => ?_
          have hmem := List.mem_map_of_mem (f := fun value : GuestMsrValue =>
            (value.index, value.value)) hvalue
          rw [hwritten, writeMsrs_of_mem hnodup hmem]
      _ = values := List.map_id _
  simp only [msrSnapshot, hvalues]

omit hops in
theorem KvmState.vcpu_restoreVcpu_self {snapshot : VcpuStateSnapshot}
    (h : ReadablePolicy snapshot.msrs.policy) :
    (v.restoreVcpu id snapshot).vcpu id snapshot.msrs.policy = snapshot := by
  have hregs : (v.restoreVcpu id snapshot).regs id = snapshot.registers.toKvmRegs :=
    Function.update_self _ _ _
  have hsregs : (v.restoreVcpu id snapshot).sregs id = snapshot.specialRegisters.encodeSnapshot :=
    Function.update_self _ _ _
  rw [vcpu, hregs, hsregs, msrSnapshot_eq_of_written h (Function.update_self _ _ _),
    VcpuRegisterSnapshot.fromKvmRegs_toKvmRegs,
    VcpuSpecialRegisterSnapshot.fromKvmSregs_encodeSnapshot]

omit hops in
theorem KvmState.vcpu_restoreVcpu_of_ne {other : VcpuId} (hne : other ≠ id)
    (snapshot : VcpuStateSnapshot) (policy : GuestMsrAccessPolicy) :
    (v.restoreVcpu id snapshot).vcpu other policy = v.vcpu other policy := by
  simp only [vcpu, msrSnapshot, restoreVcpu, setSregs, setRegs, setMsrs, Function.update_of_ne hne]

theorem yields_verifyStateSnapshot {snapshot : VcpuStateSnapshot}
    (h : ReadablePolicy snapshot.msrs.policy) (hshows : v.vcpu id snapshot.msrs.policy = snapshot) :
    Yields view (verifyStateSnapshot ops id snapshot) v (snapshot.compare snapshot) v := by
  have hcapture : Yields view (captureStateSnapshot ops id snapshot.msrs.policy) v snapshot v :=
    hshows ▸ yields_captureStateSnapshot hops h
  exact hcapture.bind (.pure _ _)

theorem yields_restoreAndVerifyStateSnapshot {snapshot : VcpuStateSnapshot}
    (h : ReadablePolicy snapshot.msrs.policy) :
    Yields view (restoreAndVerifyStateSnapshot ops id snapshot) v (snapshot.compare snapshot)
      (v.restoreVcpu id snapshot) :=
  (yields_restoreStateSnapshot hops h).bind
    (yields_verifyStateSnapshot hops h (KvmState.vcpu_restoreVcpu_self h))

/-! ### Controllers -/

theorem yields_captureIrqchip {chipId : UInt32} {chipName : String} :
    Yields view (captureIrqchip ops chipId chipName) v ⟨chipId, 0, v.irqchips chipId⟩ v := by
  refine (yields_orElseError (hops.getIrqchip (.request chipId) v)).bind ?_
  refine (yields_guard ?_).bind (.pure _ _)
  exact not_or.mpr ⟨not_not.mpr rfl, not_not.mpr rfl⟩

theorem yields_captureMasterPicState :
    Yields view (captureMasterPicState ops) v
      ⟨decodePicState (v.irqchips kvmIrqchipPicMaster)⟩ v :=
  (yields_captureIrqchip hops).bind (.pure _ _)

theorem yields_captureSlavePicState :
    Yields view (captureSlavePicState ops) v ⟨decodePicState (v.irqchips kvmIrqchipPicSlave)⟩ v :=
  (yields_captureIrqchip hops).bind (.pure _ _)

theorem yields_captureIoapicState :
    Yields view (captureIoapicState ops) v ⟨decodeIoapicState (v.irqchips kvmIrqchipIoapic)⟩ v :=
  (yields_captureIrqchip hops).bind (.pure _ _)

theorem yields_restoreMultiprocessingStateRaw {requested : UInt32} :
    Yields view (restoreMultiprocessingStateRaw ops id requested) v requested
      (v.setMpState id requested) := by
  refine (yields_orElseError (hops.setMpState id requested v)).bind ?_
  have hget := hops.getMpState id (v.setMpState id requested)
  have hsame : (v.setMpState id requested).mpStates id = requested := Function.update_self _ _ _
  rw [hsame] at hget
  refine (yields_orElseError hget).bind ?_
  exact (yields_guard (not_not.mpr rfl)).bind (.pure _ _)

end Operations

/-! ### Restores that succeed -/

section Inversion

variable {ops : KvmOps σ} {id : VcpuId} {s s' : σ}

/-- **A restore that succeeds is of a readable policy**, whatever KVM answers. -/
theorem readablePolicy_of_run {snapshot : VcpuStateSnapshot}
    {comparison : VcpuStateSnapshotComparison}
    (h : (restoreAndVerifyStateSnapshot ops id snapshot).run s = .ok comparison s') :
    ReadablePolicy snapshot.msrs.policy := by
  obtain ⟨_, t, hrestore, hverify⟩ := run_bind_eq_ok.mp h
  obtain ⟨_, _, -, hrestore⟩ := run_bind_eq_ok.mp hrestore
  obtain ⟨_, _, -, hmsrs⟩ := run_bind_eq_ok.mp hrestore
  obtain ⟨observed, _, hcapture, -⟩ := run_bind_eq_ok.mp hverify
  obtain ⟨_, _, -, hcapture⟩ := run_bind_eq_ok.mp hcapture
  obtain ⟨_, _, -, hcapture⟩ := run_bind_eq_ok.mp hcapture
  obtain ⟨_, _, hcapture, -⟩ := run_bind_eq_ok.mp hcapture
  refine ⟨?_, (run_captureMsrSnapshot_eq_ok.mp hcapture).2.1⟩
  have haligned := congrArg List.length snapshot.msrs.aligned
  rw [List.length_map, List.length_map] at haligned
  rw [haligned]
  exact (run_setMsrs_eq_ok.mp hmsrs).length_le

end Inversion

end MiniHypervisor.Checkpoint
