import MiniHypervisor.Checkpoint.Operations

/-!
# The verification of a vCPU

The comparison of two snapshots of a vCPU and the pipeline that reads and writes its MSRs
(`src/vcpu/special_register_snapshot.rs`, `src/vcpu/special_register_restore.rs`,
`src/vcpu/msr_readback.rs`, `src/vcpu/msr_write.rs`), under a KVM that may answer anything.

The snapshot of the special registers forgets bit 0 of the type of an unusable segment, and nothing
else that a restore writes.  So what is restored is read back as the snapshot, also from a KVM that
changes that bit.

A capture of MSRs makes one call, for exactly the MSRs of the policy, and succeeds exactly when the
answer names them all in order (`ReadBack`).  A restore makes one call, with exactly the pairs of
the snapshot, and succeeds exactly when KVM has processed them all (`WrittenBack`).
-/

namespace MiniHypervisor.Checkpoint

open Control Kvm Vcpu

/-! ### Bit 0 of the type of a segment -/

/-- The segment with bit 0 of its type flipped, if it is unusable. -/
def flipTypeBit (segment : KvmSegment) : KvmSegment :=
  if segment.unusable ≠ 0 then
    { segment with type_ := segment.type_ ^^^ segmentTypeBitZero }
  else segment

/-- The special registers with bit 0 of the type flipped in the chosen segments that are
unusable. -/
def flipTypeBits (chosen : VcpuSegmentRegister → Bool) (sregs : KvmSregs) : KvmSregs :=
  let flip (register : VcpuSegmentRegister) (segment : KvmSegment) : KvmSegment :=
    if chosen register then flipTypeBit segment else segment
  { sregs with
    cs := flip .cs sregs.cs
    ds := flip .ds sregs.ds
    es := flip .es sregs.es
    fs := flip .fs sregs.fs
    gs := flip .gs sregs.gs
    ss := flip .ss sregs.ss
    tr := flip .tr sregs.tr
    ldt := flip .ldt sregs.ldt }

theorem flip_bit_zero_and (b : UInt8) :
    (b ^^^ segmentTypeBitZero) &&& ~~~segmentTypeBitZero = b &&& ~~~segmentTypeBitZero := by
  have hall : ∀ n < 256, (UInt8.ofNat n ^^^ segmentTypeBitZero) &&& ~~~segmentTypeBitZero =
      UInt8.ofNat n &&& ~~~segmentTypeBitZero := by
    decide +kernel
  have hb := hall b.toNat b.toNat_lt
  rwa [UInt8.ofNat_toNat] at hb

theorem fromKvmSegment_flipTypeBit (segment : KvmSegment) :
    VcpuSegmentState.fromKvmSegment (flipTypeBit segment) = .fromKvmSegment segment := by
  unfold flipTypeBit
  split_ifs with h
  · simp only [VcpuSegmentState.fromKvmSegment, canonicalSegmentType, if_pos h, flip_bit_zero_and]
  · rfl

theorem fromKvmSregs_flipTypeBits (chosen : VcpuSegmentRegister → Bool) (sregs : KvmSregs) :
    VcpuSpecialRegisterSnapshot.fromKvmSregs (flipTypeBits chosen sregs) =
      .fromKvmSregs sregs := by
  have hflip : ∀ (c : Bool) (segment : KvmSegment),
      VcpuSegmentState.fromKvmSegment (if c then flipTypeBit segment else segment) =
        .fromKvmSegment segment := by
    rintro (_ | _) segment
    · rfl
    · exact fromKvmSegment_flipTypeBit segment
  simp only [VcpuSpecialRegisterSnapshot.fromKvmSregs, flipTypeBits, hflip]

/-- **Verification is exact and stable under restore.**  Two snapshots of a vCPU compare as an exact
match exactly when they are equal, and the payload that restores a snapshot of the special registers
is captured as that snapshot, whichever unusable segments have bit 0 of their type flipped. -/
theorem vcpu_verification_exact :
    (∀ s t : VcpuStateSnapshot, (s.compare t).isExactMatch = true ↔ s = t) ∧
      ∀ (s : VcpuSpecialRegisterSnapshot) (chosen : VcpuSegmentRegister → Bool),
        VcpuSpecialRegisterSnapshot.fromKvmSregs s.encodeSnapshot = s ∧
          VcpuSpecialRegisterSnapshot.fromKvmSregs
            (flipTypeBits chosen s.encodeSnapshot) = s := by
  refine ⟨fun s t => VcpuStateSnapshot.isExactMatch_compare, fun s chosen => ⟨?_, ?_⟩⟩
  · exact VcpuSpecialRegisterSnapshot.fromKvmSregs_encodeSnapshot s
  · rw [fromKvmSregs_flipTypeBits, VcpuSpecialRegisterSnapshot.fromKvmSregs_encodeSnapshot]

/-! ### Reads and writes that KVM completes -/

/-- The entry that asks for an MSR. -/
def readEntry (index : MsrIndex) : KvmMsrEntry := ⟨index, 0, 0⟩

/-- The entry that writes an MSR. -/
def writeEntry (value : GuestMsrValue) : KvmMsrEntry := ⟨value.index, 0, value.value⟩

/-- What an entry of an answer says. -/
def readValue (entry : KvmMsrEntry) : GuestMsrValue := ⟨entry.index, entry.data⟩

section Pipeline

variable {σ : Type}

/-- KVM is asked for some MSRs and answers with the given values, all of them and in order.  It is
not asked for none, nor for more than the buffer holds. -/
inductive ReadBack (ops : KvmOps σ) (id : VcpuId) :
    List MsrIndex → σ → List GuestMsrValue → σ → Prop
  | none {s : σ} : ReadBack ops id [] s [] s
  | some {indices : List MsrIndex} {s s' : σ} {response : KvmMsrs vcpuMsrReadbackCapacity}
      (asked : indices ≠ [])
      (fits : (indices.map readEntry).length ≤ vcpuMsrReadbackCapacity)
      (answered : (ops.getMsrs id (.ofEntries (indices.map readEntry) fits)).run s =
        .ok (indices.length, response) s')
      (inOrder : (response.entries.1.take indices.length).map KvmMsrEntry.index = indices) :
      ReadBack ops id indices s ((response.entries.1.take indices.length).map readValue) s'

/-- KVM is given some MSRs with their values and processes all of them. -/
inductive WrittenBack (ops : KvmOps σ) (id : VcpuId) : List GuestMsrValue → σ → σ → Prop
  | none {s : σ} : WrittenBack ops id [] s s
  | some {written : List GuestMsrValue} {s s' : σ}
      (given : written ≠ [])
      (fits : (written.map writeEntry).length ≤ vcpuMsrWriteCapacity)
      (processed : (ops.setMsrs id (.ofEntries (written.map writeEntry) fits)).run s =
        .ok written.length s') :
      WrittenBack ops id written s s'

variable {ops : KvmOps σ} {id : VcpuId} {s s' : σ}

theorem ReadBack.length_le {indices : List MsrIndex} {read : List GuestMsrValue}
    (h : ReadBack ops id indices s read s') : indices.length ≤ vcpuMsrReadbackCapacity := by
  cases h with
  | none => exact Nat.zero_le _
  | some asked fits answered inOrder => rwa [List.length_map] at fits

theorem ReadBack.map_index {indices : List MsrIndex} {read : List GuestMsrValue}
    (h : ReadBack ops id indices s read s') : read.map GuestMsrValue.index = indices := by
  cases h with
  | none => rfl
  | some asked fits answered inOrder => rwa [List.map_map]

theorem WrittenBack.length_le {written : List GuestMsrValue}
    (h : WrittenBack ops id written s s') : written.length ≤ vcpuMsrWriteCapacity := by
  cases h with
  | none => exact Nat.zero_le _
  | some given fits processed => rwa [List.length_map] at fits

theorem run_checked_eq_ok {α : Type} {wrap : String → Error} {x : Except String α} {a : α} :
    (checked wrap x).run s = .ok a s' ↔ x = .ok a ∧ s' = s := by
  rw [checked, run_reads_eq_ok, mapError_eq_ok]

/-! ### Reading MSRs -/

theorem decodeEntriesFrom_eq_ok {position : ℕ} {expected : List MsrIndex}
    {entries : List KvmMsrEntry} {read : List (MsrIndex × UInt64)}
    (hlen : entries.length = expected.length) :
    decodeEntriesFrom position expected entries = .ok read ↔
      entries.map KvmMsrEntry.index = expected ∧
        read = entries.map fun entry => (entry.index, entry.data) := by
  induction expected generalizing position entries read with
  | nil =>
      rw [List.length_eq_zero_iff.mp hlen]
      simp [decodeEntriesFrom, pure, Except.pure, eq_comm]
  | cons index expected ih =>
      obtain _ | ⟨entry, entries⟩ := entries
      · cases hlen
      rw [decodeEntriesFrom, rejectIf_bind_eq_ok, not_not, bind_eq_ok]
      simp only [ih (Nat.succ.inj hlen), pure, Except.pure, Except.ok.injEq, List.map_cons,
        List.cons.injEq]
      constructor
      · rintro ⟨rfl, _, ⟨hindices, rfl⟩, rfl⟩
        exact ⟨⟨rfl, hindices⟩, rfl⟩
      · rintro ⟨⟨rfl, hindices⟩, rfl⟩
        exact ⟨rfl, _, ⟨hindices, rfl⟩, rfl⟩

theorem decodeVcpuMsrResponse_eq_ok {expected : List MsrIndex} {returned : ℕ}
    {entries : List KvmMsrEntry} {read : List (MsrIndex × UInt64)}
    (hlen : entries.length = expected.length) :
    decodeVcpuMsrResponse expected returned entries = .ok read ↔
      returned = expected.length ∧ entries.map KvmMsrEntry.index = expected ∧
        read = entries.map fun entry => (entry.index, entry.data) := by
  rw [decodeVcpuMsrResponse, rejectIf_bind_eq_ok, rejectIf_bind_eq_ok, rejectIf_bind_eq_ok,
    decodeEntriesFrom_eq_ok hlen]
  constructor
  · rintro ⟨hlow, hhigh, -, hread⟩
    exact ⟨by omega, hread⟩
  · rintro ⟨rfl, hread⟩
    exact ⟨by omega, by omega, by omega, hread⟩

theorem length_take_entries (response : KvmMsrs vcpuMsrReadbackCapacity) {n : ℕ}
    (h : n ≤ vcpuMsrReadbackCapacity) : (response.entries.1.take n).length = n := by
  rw [List.length_take, response.entries.2, Nat.min_eq_left h]

theorem readBack_of_run_msrs {indices : List MsrIndex} {read : List (MsrIndex × UInt64)}
    (h : (msrs ops id indices).run s = .ok read s') :
    ReadBack ops id indices s (read.map fun pair => ⟨pair.1, pair.2⟩) s' := by
  unfold msrs prepareVcpuMsrRequest at h
  split_ifs at h with hempty hfits
  · cases List.isEmpty_iff.mp hempty
    cases h
    exact .none
  · obtain ⟨request, t, hrequest, hcall⟩ := run_bind_eq_ok.mp h
    obtain ⟨⟨⟩, rfl⟩ := run_checked_eq_ok.mp hrequest
    obtain ⟨⟨returned, response⟩, t', hget, hresponse⟩ := run_bind_eq_ok.mp hcall
    obtain ⟨_, hget, rfl⟩ := run_within_eq_ok.mp hget
    obtain ⟨hdecode, rfl⟩ := run_checked_eq_ok.mp hresponse
    rw [decodeVcpuMsrResponse_eq_ok (length_take_entries response hfits)] at hdecode
    obtain ⟨rfl, hindices, rfl⟩ := hdecode
    rw [List.map_map]
    exact .some (fun h => hempty (List.isEmpty_iff.mpr h)) _ hget hindices
  · obtain ⟨request, t, hrequest, -⟩ := run_bind_eq_ok.mp h
    cases (run_checked_eq_ok.mp hrequest).1

theorem ReadBack.run_msrs {indices : List MsrIndex} {read : List GuestMsrValue}
    (h : ReadBack ops id indices s read s') :
    (msrs ops id indices).run s = .ok (read.map fun value => (value.index, value.value)) s' := by
  have hlength := h.length_le
  unfold msrs prepareVcpuMsrRequest
  cases h with
  | none => rfl
  | some asked fits answered inOrder =>
      rw [if_neg (fun h => asked (List.isEmpty_iff.mp h)), dif_pos hlength]
      refine run_bind_eq_ok.mpr ⟨_, s, run_checked_eq_ok.mpr ⟨rfl, rfl⟩, ?_⟩
      refine run_bind_eq_ok.mpr ⟨_, s', run_within_eq_ok.mpr ⟨s', answered, rfl⟩, ?_⟩
      refine run_checked_eq_ok.mpr ⟨?_, rfl⟩
      rw [decodeVcpuMsrResponse_eq_ok (length_take_entries _ hlength), List.map_map]
      exact ⟨rfl, inOrder, rfl⟩

/-! ### Capturing MSRs -/

theorem captureMismatch?_eq_none_iff {position : ℕ} {indices : List MsrIndex}
    {captured : List (MsrIndex × UInt64)} (hlen : captured.length = indices.length) :
    captureMismatch? position indices captured = none ↔ captured.map Prod.fst = indices := by
  induction indices generalizing position captured with
  | nil => simp [List.length_eq_zero_iff.mp hlen, captureMismatch?]
  | cons index indices ih =>
      obtain _ | ⟨value, captured⟩ := captured
      · cases hlen
      rw [captureMismatch?, List.map_cons, List.cons.injEq]
      split_ifs with hindex
      · exact ⟨nofun, fun h => absurd h.1.symm hindex⟩
      · rw [ih (Nat.succ.inj hlen), ← not_not.mp hindex, and_iff_right rfl]

/-- **Materialisation**: the captured MSRs are those of the policy, in order, and distinct. -/
theorem materializePolicyCapture_eq_ok {policy : GuestMsrAccessPolicy}
    {captured : List (MsrIndex × UInt64)} {values : GuestMsrValueSet} :
    materializePolicyCapture policy captured = .ok values ↔
      captured.map Prod.fst = policyMsrIndices policy ∧ (policyMsrIndices policy).Nodup ∧
        values = ⟨captured.map fun pair => ⟨pair.1, pair.2⟩⟩ := by
  have hlength : captured.length = policy.entries.length ↔
      captured.length = (policyMsrIndices policy).length := by
    rw [policyMsrIndices, List.length_map]
  rw [materializePolicyCapture, rejectIf_bind_eq_ok, not_not, hlength]
  constructor
  · rintro ⟨hlen, h⟩
    split at h
    · cases h
    · rename_i hmatch
      have hindices := (captureMismatch?_eq_none_iff hlen).mp hmatch
      obtain ⟨hnodup, -, hvalues⟩ := GuestMsrValueSet.fromPolicy_eq_ok.mp (mapError_eq_ok.mp h)
      exact ⟨hindices, hindices ▸ hnodup, hvalues⟩
  · rintro ⟨hindices, hnodup, hvalues⟩
    have hlen : captured.length = (policyMsrIndices policy).length := by
      rw [← hindices, List.length_map]
    rw [(captureMismatch?_eq_none_iff hlen).mpr hindices]
    refine ⟨hlen, mapError_eq_ok.mpr (GuestMsrValueSet.fromPolicy_eq_ok.mpr ⟨?_, ?_, hvalues⟩)⟩
    · exact hindices.symm ▸ hnodup
    · intro pair hpair
      have hindex : pair.1 ∈ policyMsrIndices policy :=
        hindices ▸ List.mem_map_of_mem (f := Prod.fst) hpair
      obtain ⟨⟨index, ⟨⟩⟩, hentry, heq⟩ := List.mem_map.mp hindex
      exact heq ▸ hentry

theorem captureMsrs_eq (policy : GuestMsrAccessPolicy) :
    captureMsrs ops id policy = msrs ops id (policyMsrIndices policy) >>= fun captured =>
      checked (vcpuOperation id "materialize guest MSR capture")
        (materializePolicyCapture policy captured) := by
  unfold captureMsrs
  dsimp only
  split_ifs with hempty
  · rw [msrs, if_pos hempty]
    rfl
  · rfl

/-- **A capture of MSRs** succeeds exactly when the MSRs of the policy are distinct and KVM answers
with all of them in order; the snapshot holds what KVM answered. -/
theorem run_captureMsrSnapshot_eq_ok {policy : GuestMsrAccessPolicy} {snapshot : GuestMsrSnapshot} :
    (captureMsrSnapshot ops id policy).run s = .ok snapshot s' ↔
      snapshot.policy = policy ∧ (policyMsrIndices policy).Nodup ∧
        ReadBack ops id (policyMsrIndices policy) s snapshot.values.values s' := by
  rw [captureMsrSnapshot, captureMsrs_eq]
  constructor
  · intro h
    obtain ⟨values, t, hcapture, hsnapshot⟩ := run_bind_eq_ok.mp h
    obtain ⟨captured, t', hread, hvalues⟩ := run_bind_eq_ok.mp hcapture
    obtain ⟨hfull, rfl⟩ := run_checked_eq_ok.mp hsnapshot
    obtain ⟨hmaterialize, rfl⟩ := run_checked_eq_ok.mp hvalues
    obtain ⟨hpolicy, rfl⟩ := GuestMsrSnapshot.fromCapture_eq_ok.mp (mapError_eq_ok.mp hfull)
    obtain ⟨-, hnodup, hcaptured⟩ := materializePolicyCapture_eq_ok.mp hmaterialize
    refine ⟨hpolicy, hnodup, ?_⟩
    rw [hcaptured]
    exact readBack_of_run_msrs hread
  · rintro ⟨hpolicy, hnodup, hread⟩
    have hmaterialize : materializePolicyCapture policy
        (snapshot.values.values.map fun value => (value.index, value.value)) =
          .ok snapshot.values := by
      rw [materializePolicyCapture_eq_ok, List.map_map, List.map_map]
      exact ⟨hread.map_index, hnodup, congrArg GuestMsrValueSet.mk (List.map_id _).symm⟩
    have hfull := GuestMsrSnapshot.fromCapture_eq_ok.mpr ⟨hpolicy, rfl⟩
    refine run_bind_eq_ok.mpr ⟨snapshot.values, s', ?_, ?_⟩
    · refine run_bind_eq_ok.mpr ⟨_, s', hread.run_msrs, ?_⟩
      exact run_checked_eq_ok.mpr ⟨hmaterialize, rfl⟩
    · exact run_checked_eq_ok.mpr ⟨mapError_eq_ok.mpr hfull, rfl⟩

/-! ### Restoring MSRs -/

/-- **A restore of MSRs** succeeds exactly when KVM processes all the values of the snapshot. -/
theorem run_setMsrs_eq_ok {values : GuestMsrValueSet} {u : Unit} :
    (setMsrs ops id values).run s = .ok u s' ↔ WrittenBack ops id values.values s s' := by
  unfold setMsrs prepareVcpuMsrWriteRequest
  constructor
  · intro h
    obtain ⟨request, t, hrequest, hcall⟩ := run_bind_eq_ok.mp h
    obtain ⟨hprepare, rfl⟩ := run_checked_eq_ok.mp hrequest
    split_ifs at hprepare with hempty hfits
    · cases hprepare
      cases hcall
      rw [List.isEmpty_iff.mp hempty]
      exact .none
    · cases hprepare
      obtain ⟨processed, t', hset, hcompletion⟩ := run_bind_eq_ok.mp hcall
      obtain ⟨_, hset, rfl⟩ := run_within_eq_ok.mp hset
      obtain ⟨hcompletion, rfl⟩ := run_reads_eq_ok.mp hcompletion
      have hall : processed = values.values.length := by
        unfold validateVcpuMsrWriteCompletion at hcompletion
        dsimp only at hcompletion
        split_ifs at hcompletion with hall
        · exact hall
        · split at hcompletion <;> cases hcompletion
      exact .some (fun h => hempty (List.isEmpty_iff.mpr h)) _ (hall ▸ hset)
  · intro h
    have hlength := h.length_le
    obtain ⟨written⟩ := values
    cases h with
    | none => rfl
    | some given fits processed =>
        rw [if_neg (fun h => given (List.isEmpty_iff.mp h)), dif_pos hlength]
        refine run_bind_eq_ok.mpr ⟨_, s, run_checked_eq_ok.mpr ⟨rfl, rfl⟩, ?_⟩
        refine run_bind_eq_ok.mpr ⟨_, s', run_within_eq_ok.mpr ⟨s', processed, rfl⟩, ?_⟩
        exact run_reads_eq_ok.mpr ⟨if_pos rfl, rfl⟩

/-- `Vcpu::restore_and_verify_msr_snapshot` (lines 28-37, 47-60). -/
def restoreAndVerifyMsrSnapshot (ops : KvmOps σ) (id : VcpuId) (snapshot : GuestMsrSnapshot) :
    EStateM Error σ GuestMsrSnapshotComparison := do
  restoreMsrSnapshot ops id snapshot
  let observed ← captureMsrSnapshot ops id snapshot.policy
  return snapshot.compare observed

/-! ### The calls that are made -/

theorem finalState_bind_of_keeps {α β : Type} {x : EStateM Error σ α} {f : α → EStateM Error σ β}
    (hf : ∀ a, Keeps (fun t => t) (f a)) : finalState ((x >>= f).run s) = finalState (x.run s) := by
  cases h : x.run s with
  | ok a t =>
      rw [run_bind_of_ok h]
      exact hf a t
  | error e t =>
      rw [run_bind_of_error h]
      rfl

theorem finalState_orElseError {α : Type} {wrap : String → Error} {x : EStateM String σ α} :
    finalState ((orElseError wrap x).run s) = finalState (x.run s) := by
  cases h : x.run s with
  | ok a t =>
      rw [orElseError, run_within_of_ok h]
      rfl
  | error e t =>
      rw [orElseError, run_within_of_error h]
      rfl

theorem finalState_captureMsrSnapshot (policy : GuestMsrAccessPolicy) :
    finalState ((captureMsrSnapshot ops id policy).run s) = s ∨
      ∃ fits : ((policyMsrIndices policy).map readEntry).length ≤ vcpuMsrReadbackCapacity,
        finalState ((captureMsrSnapshot ops id policy).run s) =
          finalState ((ops.getMsrs id
            (.ofEntries ((policyMsrIndices policy).map readEntry) fits)).run s) := by
  have hmsrs : finalState ((captureMsrSnapshot ops id policy).run s) =
      finalState ((msrs ops id (policyMsrIndices policy)).run s) := by
    rw [captureMsrSnapshot, captureMsrs_eq]
    exact (finalState_bind_of_keeps fun _ => .reads _).trans
      (finalState_bind_of_keeps fun _ => .reads _)
  rw [hmsrs]
  unfold msrs prepareVcpuMsrRequest
  split_ifs with hempty hfits
  · exact .inl rfl
  · refine .inr ⟨by rwa [List.length_map], ?_⟩
    exact (finalState_bind_of_keeps fun _ => .reads _).trans finalState_orElseError
  · exact .inl rfl

/-- A restore changes nothing but by one call, with exactly the values of the snapshot. -/
theorem finalState_restoreMsrSnapshot (snapshot : GuestMsrSnapshot) :
    finalState ((restoreMsrSnapshot ops id snapshot).run s) = s ∨
      ∃ fits : (snapshot.values.values.map writeEntry).length ≤ vcpuMsrWriteCapacity,
        finalState ((restoreMsrSnapshot ops id snapshot).run s) =
          finalState ((ops.setMsrs id
            (.ofEntries (snapshot.values.values.map writeEntry) fits)).run s) := by
  unfold restoreMsrSnapshot setMsrs prepareVcpuMsrWriteRequest
  split_ifs with hempty hfits
  · exact .inl rfl
  · refine .inr ⟨by rwa [List.length_map], ?_⟩
    exact (finalState_bind_of_keeps fun _ => .reads _).trans finalState_orElseError
  · exact .inl rfl

/-! ### The pipeline -/

/-- What holds of the MSRs that a policy of the requested indices reads and writes. -/
structure MsrPipeline (ops : KvmOps σ) (id : VcpuId) (requested : List MsrIndex)
    (policy : GuestMsrAccessPolicy) : Prop where
  /-- A snapshot is captured exactly when KVM returns every index in order, and it holds the
  returned values. -/
  captured : ∀ s snapshot s', (captureMsrSnapshot ops id policy).run s = .ok snapshot s' ↔
    snapshot.policy = policy ∧ ReadBack ops id requested s snapshot.values.values s'
  /-- A snapshot is captured only of a policy that fits the buffer. -/
  bounded : ∀ s snapshot s', (captureMsrSnapshot ops id policy).run s = .ok snapshot s' →
    requested.length ≤ vcpuMsrReadbackCapacity
  /-- Whatever comes of a capture, KVM has been asked for nothing else. -/
  asks : ∀ s, finalState ((captureMsrSnapshot ops id policy).run s) = s ∨
    ∃ fits : (requested.map readEntry).length ≤ vcpuMsrReadbackCapacity,
      finalState ((captureMsrSnapshot ops id policy).run s) =
        finalState ((ops.getMsrs id (.ofEntries (requested.map readEntry) fits)).run s)
  /-- A snapshot of the policy holds the requested indices, in order. -/
  owned : ∀ snapshot : GuestMsrSnapshot, snapshot.policy = policy →
    snapshot.values.values.map GuestMsrValue.index = requested
  /-- A snapshot is restored exactly when KVM processes all its values. -/
  restored : ∀ snapshot : GuestMsrSnapshot, ∀ s s',
    (restoreMsrSnapshot ops id snapshot).run s = .ok () s' ↔
      WrittenBack ops id snapshot.values.values s s'
  /-- Whatever comes of a restore, KVM has been given nothing else. -/
  writes : ∀ snapshot : GuestMsrSnapshot, ∀ s,
    finalState ((restoreMsrSnapshot ops id snapshot).run s) = s ∨
      ∃ fits : (snapshot.values.values.map writeEntry).length ≤ vcpuMsrWriteCapacity,
        finalState ((restoreMsrSnapshot ops id snapshot).run s) = finalState
          ((ops.setMsrs id (.ofEntries (snapshot.values.values.map writeEntry) fits)).run s)
  /-- A restore read back as it was written compares exact. -/
  verified : ∀ snapshot : GuestMsrSnapshot, snapshot.policy = policy → ∀ s t s',
    WrittenBack ops id snapshot.values.values s t →
      ReadBack ops id requested t snapshot.values.values s' →
        ∃ comparison, (restoreAndVerifyMsrSnapshot ops id snapshot).run s = .ok comparison s' ∧
          comparison.isExactMatch = true

theorem policyMsrIndices_of_fromHost {host : HostMsrIndexList} {requested : List MsrIndex}
    {policy : GuestMsrAccessPolicy}
    (h : GuestMsrAccessPolicy.fromHost host requested = .ok policy) :
    policyMsrIndices policy = requested := by
  obtain ⟨-, -, rfl⟩ := GuestMsrAccessPolicy.fromHost_eq_ok.mp h
  rw [policyMsrIndices, List.map_map]
  exact List.map_id _

theorem msrPipeline_of_nodup (ops : KvmOps σ) (id : VcpuId) {policy : GuestMsrAccessPolicy}
    (hnodup : (policyMsrIndices policy).Nodup) :
    MsrPipeline ops id (policyMsrIndices policy) policy where
  captured s snapshot s' := by rw [run_captureMsrSnapshot_eq_ok, and_iff_right hnodup]
  bounded s snapshot s' h := (run_captureMsrSnapshot_eq_ok.mp h).2.2.length_le
  asks s := finalState_captureMsrSnapshot policy
  owned snapshot hpolicy := hpolicy ▸ snapshot.aligned.symm
  restored snapshot s s' := run_setMsrs_eq_ok
  writes snapshot s := finalState_restoreMsrSnapshot snapshot
  verified snapshot hpolicy s t s' hwritten hread := by
    cases hpolicy
    have hcapture : (captureMsrSnapshot ops id snapshot.policy).run t = .ok snapshot s' :=
      run_captureMsrSnapshot_eq_ok.mpr ⟨rfl, hnodup, hread⟩
    refine ⟨snapshot.compare snapshot, ?_, GuestMsrSnapshot.isExactMatch_compare.mpr rfl⟩
    refine run_bind_eq_ok.mpr ⟨(), t, run_setMsrs_eq_ok.mpr hwritten, ?_⟩
    exact run_bind_eq_ok.mpr ⟨snapshot, s', hcapture, rfl⟩

/-- **The MSR pipeline.**  A policy is built exactly when the requested indices are distinct and all
in the host's list, and then KVM is asked for and given exactly these, under whatever it answers. -/
theorem msr_authority_pipeline (ops : KvmOps σ) (id : VcpuId) (host : HostMsrIndexList)
    (requested : List MsrIndex) :
    ((∃ policy, GuestMsrAccessPolicy.fromHost host requested = .ok policy) ↔
        requested.Nodup ∧ requested ⊆ host.indices) ∧
      ∀ policy, GuestMsrAccessPolicy.fromHost host requested = .ok policy →
        MsrPipeline ops id requested policy := by
  refine ⟨?_, fun policy h => ?_⟩
  · simp only [GuestMsrAccessPolicy.fromHost_eq_ok, exists_and_left, exists_eq, and_true]
  · have hindices := policyMsrIndices_of_fromHost h
    have hnodup : (policyMsrIndices policy).Nodup :=
      hindices ▸ (GuestMsrAccessPolicy.fromHost_eq_ok.mp h).1
    exact hindices ▸ msrPipeline_of_nodup ops id hnodup

end Pipeline

end MiniHypervisor.Checkpoint
