import Mathlib.Data.List.Nodup
import MiniHypervisor.Control.Outcome

/-!
# Model-specific registers

The MSRs that a guest may use and their captured values (`src/kvm/msr.rs`,
`src/kvm/msr/value_set.rs`).  A policy lists distinct indices that the host supports, a value set
gives values to distinct indices of a policy, and a snapshot is a value set that covers its
policy entry by entry.
-/

namespace MiniHypervisor.Kvm

open Control

abbrev MsrIndex : Type := UInt32

structure HostMsrIndexList where
  indices : List MsrIndex
  deriving DecidableEq, Repr

/-! ### Lists of distinct admitted indices -/

section AdmitDistinct

variable {ε α β : Type}

/-- The loop of `GuestMsrAccessPolicy::from_host` and `GuestMsrValueSet::from_policy`: each entry
is checked against the positions `seen` so far and then for admission. -/
def admitDistinct (index : α → MsrIndex) (make : α → β) (duplicateIndex : MsrIndex → ℕ → ℕ → ε)
    (refusedIndex : MsrIndex → ℕ → ε) (admitted : MsrIndex → Bool) :
    List α → ℕ → List (MsrIndex × ℕ) → Except ε (List β)
  | [], _, _ => .ok []
  | x :: requested, position, seen =>
      match seen.lookup (index x) with
      | some firstPosition => .error (duplicateIndex (index x) firstPosition position)
      | none => do
          rejectIf (¬ admitted (index x)) (refusedIndex (index x) position)
          let entries ← admitDistinct index make duplicateIndex refusedIndex admitted requested
            (position + 1) ((index x, position) :: seen)
          return make x :: entries

variable {index : α → MsrIndex} {make : α → β} {duplicateIndex : MsrIndex → ℕ → ℕ → ε}
  {refusedIndex : MsrIndex → ℕ → ε} {admitted : MsrIndex → Bool}

theorem lookup_eq_none_iff_notMem {i : MsrIndex} {seen : List (MsrIndex × ℕ)} :
    seen.lookup i = none ↔ i ∉ seen.map Prod.fst := by
  rw [List.lookup_eq_none_iff, List.mem_map]
  constructor
  · rintro h ⟨entry, hentry, rfl⟩
    exact (bne_iff_ne.mp (h entry hentry)) rfl
  · intro h entry hentry
    exact bne_iff_ne.mpr fun heq => h ⟨entry, hentry, heq.symm⟩

theorem admitDistinct_eq_ok {requested : List α} {position : ℕ} {seen : List (MsrIndex × ℕ)}
    {out : List β} :
    admitDistinct index make duplicateIndex refusedIndex admitted requested position seen =
        .ok out ↔
      (requested.map index).Nodup ∧
        (∀ x ∈ requested, index x ∉ seen.map Prod.fst ∧ admitted (index x) = true) ∧
        out = requested.map make := by
  induction requested generalizing position seen out with
  | nil =>
      simp only [admitDistinct, Except.ok.injEq, List.map_nil, List.nodup_nil, true_and]
      exact ⟨fun h => ⟨nofun, h.symm⟩, fun h => h.2.symm⟩
  | cons x requested ih =>
      unfold admitDistinct
      cases hseen : seen.lookup (index x) with
      | some first =>
          have hmem : index x ∈ seen.map Prod.fst := by
            by_contra hnot
            rw [lookup_eq_none_iff_notMem.mpr hnot] at hseen
            cases hseen
          exact ⟨nofun, fun h => absurd hmem (h.2.1 x List.mem_cons_self).1⟩
      | none =>
          have hnot := lookup_eq_none_iff_notMem.mp hseen
          dsimp only
          rw [List.map_cons, List.nodup_cons, List.forall_mem_cons]
          simp only [bind_eq_ok, rejectIf_eq_ok, not_not, ih, pure, Except.pure,
            Except.ok.injEq, List.map_cons, List.mem_cons, not_or]
          constructor
          · rintro ⟨-, hadmit, _, ⟨hnodup, hrest, rfl⟩, rfl⟩
            refine ⟨⟨?_, hnodup⟩, ⟨⟨hnot, hadmit⟩, fun y hy => ⟨(hrest y hy).1.2, (hrest y hy).2⟩⟩,
              rfl⟩
            rw [List.mem_map]
            rintro ⟨y, hy, heq⟩
            exact (hrest y hy).1.1 heq
          · rintro ⟨⟨hx, hnodup⟩, ⟨⟨-, hadmit⟩, hrest⟩, rfl⟩
            refine ⟨(), hadmit, _, ⟨hnodup, fun y hy => ⟨⟨fun heq => hx ?_, (hrest y hy).1⟩,
              (hrest y hy).2⟩, rfl⟩, rfl⟩
            exact List.mem_map.mpr ⟨y, hy, heq⟩

end AdmitDistinct

/-! ### Policies -/

inductive MsrAccessAuthority where
  | readWrite
  deriving DecidableEq, Repr

structure GuestMsrAccess where
  index : MsrIndex
  authority : MsrAccessAuthority
  deriving DecidableEq, Repr

inductive GuestMsrPolicyError where
  | unsupportedIndex (index : MsrIndex) (position : ℕ)
  | duplicateIndex (index : MsrIndex) (firstPosition duplicatePosition : ℕ)
  deriving DecidableEq, Repr

/-- The text of a policy error. -/
def GuestMsrPolicyError.text : GuestMsrPolicyError → String
  | .unsupportedIndex index position =>
      "guest MSR policy index " ++ hexText index.toNat ++ " at position " ++ toString position ++
        " is not present in KVM_GET_MSR_INDEX_LIST"
  | .duplicateIndex index firstPosition duplicatePosition =>
      "guest MSR policy index " ++ hexText index.toNat ++ " is duplicated at positions " ++
        toString firstPosition ++ " and " ++ toString duplicatePosition

structure GuestMsrAccessPolicy where
  entries : List GuestMsrAccess
  deriving DecidableEq, Repr

/-- `GuestMsrAccessPolicy::from_host` (lines 667-690). -/
def GuestMsrAccessPolicy.fromHost (host : HostMsrIndexList) (requested : List MsrIndex) :
    Except GuestMsrPolicyError GuestMsrAccessPolicy := do
  let entries ← admitDistinct id (fun index => ⟨index, .readWrite⟩)
    GuestMsrPolicyError.duplicateIndex GuestMsrPolicyError.unsupportedIndex
    (fun index => host.indices.contains index) requested 0 []
  return ⟨entries⟩

theorem GuestMsrAccessPolicy.fromHost_eq_ok {host : HostMsrIndexList} {requested : List MsrIndex}
    {policy : GuestMsrAccessPolicy} :
    fromHost host requested = .ok policy ↔
      requested.Nodup ∧ requested ⊆ host.indices ∧
        policy = ⟨requested.map fun index => ⟨index, .readWrite⟩⟩ := by
  simp only [fromHost, bind_eq_ok, admitDistinct_eq_ok, List.map_id, List.map_nil,
    List.not_mem_nil, not_false_eq_true, true_and, List.contains_iff_mem, id_eq, pure,
    Except.pure, Except.ok.injEq]
  constructor
  · rintro ⟨_, ⟨hnodup, hsub, rfl⟩, rfl⟩
    exact ⟨hnodup, hsub, rfl⟩
  · rintro ⟨hnodup, hsub, rfl⟩
    exact ⟨_, ⟨hnodup, hsub, rfl⟩, rfl⟩

/-! ### Value sets -/

structure GuestMsrValue where
  index : MsrIndex
  value : UInt64
  deriving DecidableEq, Repr

inductive GuestMsrValueSetError where
  | unauthorizedIndex (index : MsrIndex) (position : ℕ)
  | duplicateIndex (index : MsrIndex) (firstPosition duplicatePosition : ℕ)
  deriving DecidableEq, Repr

/-- The text of a value set error. -/
def GuestMsrValueSetError.text : GuestMsrValueSetError → String
  | .unauthorizedIndex index position =>
      "guest MSR value index " ++ hexText index.toNat ++ " at position " ++ toString position ++
        " is not authorized by the guest MSR access policy"
  | .duplicateIndex index firstPosition duplicatePosition =>
      "guest MSR value index " ++ hexText index.toNat ++ " is duplicated at positions " ++
        toString firstPosition ++ " and " ++ toString duplicatePosition

structure GuestMsrValueSet where
  values : List GuestMsrValue
  deriving DecidableEq, Repr

/-- `GuestMsrValueSet::from_policy` (lines 32-60). -/
def GuestMsrValueSet.fromPolicy (policy : GuestMsrAccessPolicy)
    (requested : List (MsrIndex × UInt64)) : Except GuestMsrValueSetError GuestMsrValueSet := do
  let values ← admitDistinct Prod.fst (fun pair => ⟨pair.1, pair.2⟩)
    GuestMsrValueSetError.duplicateIndex GuestMsrValueSetError.unauthorizedIndex
    (fun index => policy.entries.any fun entry =>
      entry.index == index && entry.authority == MsrAccessAuthority.readWrite) requested 0 []
  return ⟨values⟩

theorem GuestMsrValueSet.fromPolicy_eq_ok {policy : GuestMsrAccessPolicy}
    {requested : List (MsrIndex × UInt64)} {values : GuestMsrValueSet} :
    fromPolicy policy requested = .ok values ↔
      (requested.map Prod.fst).Nodup ∧
        (∀ pair ∈ requested, ⟨pair.1, .readWrite⟩ ∈ policy.entries) ∧
        values = ⟨requested.map fun pair => ⟨pair.1, pair.2⟩⟩ := by
  have hmem : ∀ index : MsrIndex, (policy.entries.any fun entry =>
      entry.index == index && entry.authority == MsrAccessAuthority.readWrite) = true ↔
        ⟨index, .readWrite⟩ ∈ policy.entries := by
    intro index
    rw [List.any_eq_true]
    constructor
    · rintro ⟨⟨_, ⟨⟩⟩, hentry, hmatch⟩
      rw [Bool.and_eq_true, beq_iff_eq] at hmatch
      exact hmatch.1 ▸ hentry
    · exact fun hentry => ⟨_, hentry, by simp⟩
  simp only [fromPolicy, bind_eq_ok, admitDistinct_eq_ok, List.map_nil, List.not_mem_nil,
    not_false_eq_true, true_and, hmem, pure, Except.pure, Except.ok.injEq]
  constructor
  · rintro ⟨_, ⟨hnodup, hauth, rfl⟩, rfl⟩
    exact ⟨hnodup, hauth, rfl⟩
  · rintro ⟨hnodup, hauth, rfl⟩
    exact ⟨_, ⟨hnodup, hauth, rfl⟩, rfl⟩

/-! ### Snapshots -/

inductive GuestMsrSnapshotError where
  | coverageMismatch (policyEntries valueEntries : ℕ)
  | indexMismatch (position : ℕ) (policyIndex valueIndex : MsrIndex)
  deriving DecidableEq, Repr

/-- The text of a snapshot error. -/
def GuestMsrSnapshotError.text : GuestMsrSnapshotError → String
  | .coverageMismatch policyEntries valueEntries =>
      "full guest MSR snapshot has " ++ toString valueEntries ++ " values for " ++
        toString policyEntries ++ " policy entries"
  | .indexMismatch position policyIndex valueIndex =>
      "full guest MSR snapshot index mismatch at position " ++ toString position ++ ": policy " ++
        hexText policyIndex.toNat ++ ", values " ++ hexText valueIndex.toNat

/-- The first position at which a policy and a value set name different indices. -/
def indexMismatch? : ℕ → List GuestMsrAccess → List GuestMsrValue → Option GuestMsrSnapshotError
  | position, entry :: entries, value :: values =>
      if entry.index ≠ value.index then
        some (.indexMismatch position entry.index value.index)
      else indexMismatch? (position + 1) entries values
  | _, _, _ => none

theorem indexMismatch?_eq_none {position : ℕ} {entries : List GuestMsrAccess}
    {values : List GuestMsrValue} (hlen : entries.length = values.length) :
    indexMismatch? position entries values = none ↔
      entries.map GuestMsrAccess.index = values.map GuestMsrValue.index := by
  induction entries generalizing position values with
  | nil =>
      cases values with
      | nil => exact ⟨fun _ => rfl, fun _ => rfl⟩
      | cons value values => cases hlen
  | cons entry entries ih =>
      cases values with
      | nil => cases hlen
      | cons value values =>
          rw [indexMismatch?, List.map_cons, List.map_cons, List.cons.injEq]
          by_cases h : entry.index = value.index
          · rw [if_neg (not_not.mpr h), ih (Nat.succ.inj hlen)]
            exact ⟨fun hmap => ⟨h, hmap⟩, fun hmap => hmap.2⟩
          · rw [if_pos h]
            exact ⟨nofun, fun hmap => absurd hmap.1 h⟩

/-- `GuestMsrSnapshot`: the values stand in the order of the policy. -/
structure GuestMsrSnapshot where
  policy : GuestMsrAccessPolicy
  values : GuestMsrValueSet
  aligned : policy.entries.map GuestMsrAccess.index = values.values.map GuestMsrValue.index
  deriving DecidableEq, Repr

/-- `GuestMsrSnapshot::from_capture` (lines 111-141). -/
def GuestMsrSnapshot.fromCapture (policy : GuestMsrAccessPolicy) (values : GuestMsrValueSet) :
    Except GuestMsrSnapshotError GuestMsrSnapshot :=
  if hlen : policy.entries.length = values.values.length then
    match hmatch : indexMismatch? 0 policy.entries values.values with
    | some error => .error error
    | none => .ok ⟨policy, values, (indexMismatch?_eq_none hlen).mp hmatch⟩
  else
    .error (.coverageMismatch policy.entries.length values.values.length)

theorem GuestMsrSnapshot.fromCapture_eq_ok {policy : GuestMsrAccessPolicy}
    {values : GuestMsrValueSet} {snapshot : GuestMsrSnapshot} :
    fromCapture policy values = .ok snapshot ↔
      snapshot.policy = policy ∧ snapshot.values = values := by
  constructor
  · unfold fromCapture
    intro h
    split_ifs at h
    split at h
    · cases h
    · cases h
      exact ⟨rfl, rfl⟩
  · obtain ⟨policy', values', haligned⟩ := snapshot
    rintro ⟨rfl, rfl⟩
    have hlen : policy'.entries.length = values'.values.length := by
      simpa using congrArg List.length haligned
    have hnone := (@indexMismatch?_eq_none 0 _ _ hlen).mpr haligned
    unfold fromCapture
    rw [dif_pos hlen]
    split
    · rename_i error herror
      rw [hnone] at herror
      cases herror
    · rfl

end MiniHypervisor.Kvm
