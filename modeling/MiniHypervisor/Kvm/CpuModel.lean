import MiniHypervisor.Control.Differences
import MiniHypervisor.Kvm.Msr

/-!
# CPU models

What a host offers to a guest: the CPUID entries (`src/kvm/cpu.rs`) and the values of the MSRs that
describe features (`src/kvm/msr.rs`, lines 66-310).  A model of one host is compared with the model
of another (`src/model.rs`): entries are found by their key, and a comparison lists those that are
missing, extra or different.
-/

namespace MiniHypervisor.Kvm

open Control

/-! ### CPUID entries -/

def cpuidFeatures : UInt32 := 0x00000001

def cpuidFeatureX2apic : UInt32 := (1 : UInt32) <<< 21

def cpuidFeatureTscDeadline : UInt32 := (1 : UInt32) <<< 24

def cpuidXstate : UInt32 := 0x0000000d

def cpuidXstateControl : UInt32 := 0

def cpuidXstateFeatures : UInt32 := 1

def cpuidXstateXsavec : UInt32 := (1 : UInt32) <<< 1

def cpuidXstateXsaves : UInt32 := (1 : UInt32) <<< 3

def resetXsaveAreaSize : UInt32 := 576

def kvmCpuidFeatures : UInt32 := 0x40000001

def kvmFeaturePvUnhalt : UInt32 := (1 : UInt32) <<< 7

structure CpuidEntry where
  function : UInt32
  index : UInt32
  flags : UInt32
  eax : UInt32
  ebx : UInt32
  ecx : UInt32
  edx : UInt32
  deriving DecidableEq, Repr

structure CpuidPolicyKey where
  function : UInt32
  index : UInt32
  deriving DecidableEq, Repr

inductive CpuidPolicyField where
  | flags | eax | ebx | ecx | edx
  deriving DecidableEq, Repr

/-- The fields in the order in which `CpuidPolicyEntryMismatch::between` visits them. -/
def cpuidPolicyFields : List CpuidPolicyField := [.flags, .eax, .ebx, .ecx, .edx]

namespace CpuidEntry

def key (entry : CpuidEntry) : CpuidPolicyKey := ⟨entry.function, entry.index⟩

/-- The field of an entry. -/
def value (entry : CpuidEntry) : CpuidPolicyField → UInt32
  | .flags => entry.flags
  | .eax => entry.eax
  | .ebx => entry.ebx
  | .ecx => entry.ecx
  | .edx => entry.edx

theorem eq_of_value {entry entry' : CpuidEntry} (hkey : entry.key = entry'.key)
    (hvalue : ∀ field, entry.value field = entry'.value field) : entry = entry' := by
  cases entry
  cases entry'
  rw [key, key, CpuidPolicyKey.mk.injEq] at hkey
  rw [mk.injEq]
  exact ⟨hkey.1, hkey.2, hvalue .flags, hvalue .eax, hvalue .ebx, hvalue .ecx, hvalue .edx⟩

end CpuidEntry

structure CpuidPolicyEntryMismatch where
  key : CpuidPolicyKey
  referenceEntry : CpuidEntry
  observedEntry : CpuidEntry
  differingFields : List CpuidPolicyField
  deriving DecidableEq, Repr

namespace CpuidPolicyEntryMismatch

/-- The fields that `between` collects (lines 75-90). -/
def fieldsBetween (referenceEntry observedEntry : CpuidEntry) : List CpuidPolicyField :=
  cpuidPolicyFields.filter fun field => referenceEntry.value field ≠ observedEntry.value field

/-- `CpuidPolicyEntryMismatch::between` (lines 72-102). -/
def between (referenceEntry observedEntry : CpuidEntry) : Option CpuidPolicyEntryMismatch :=
  if (fieldsBetween referenceEntry observedEntry).isEmpty then none
  else some
    { key := referenceEntry.key
      referenceEntry := referenceEntry
      observedEntry := observedEntry
      differingFields := fieldsBetween referenceEntry observedEntry }

theorem isEmpty_fieldsBetween {reference observed : CpuidEntry} :
    (fieldsBetween reference observed).isEmpty = true ↔
      ∀ field, reference.value field = observed.value field := by
  have hall : ∀ field, field ∈ cpuidPolicyFields := by
    intro field
    cases field <;> decide
  rw [List.isEmpty_iff, fieldsBetween, List.filter_eq_nil_iff]
  simp only [decide_eq_true_eq, ne_eq, not_not, hall, forall_const]

theorem tells : Tells CpuidEntry.key CpuidPolicyEntryMismatch.key between where
  none_iff {reference observed} hkey := by
    rw [between, ite_eq_left_iff, isEmpty_fieldsBetween]
    simp only [reduceCtorEq, imp_false, not_not]
    constructor
    · exact CpuidEntry.eq_of_value hkey
    · rintro rfl _
      rfl
  keyOf_eq {reference observed report} h := by
    rw [between, Option.ite_none_left_eq_some, Option.some.injEq] at h
    rw [← h.2]

end CpuidPolicyEntryMismatch

/-! ### CPU policies -/

structure HostCpuid where
  entries : List CpuidEntry
  deriving DecidableEq, Repr

structure GuestCpuPolicy where
  entries : List CpuidEntry
  deriving DecidableEq, Repr

structure GuestCpuPolicyComparison where
  reference : GuestCpuPolicy
  observed : GuestCpuPolicy
  missingFromObserved : List CpuidEntry
  extraInObserved : List CpuidEntry
  entryMismatches : List CpuidPolicyEntryMismatch
  deriving DecidableEq, Repr

def GuestCpuPolicyComparison.isExactMatch (comparison : GuestCpuPolicyComparison) : Bool :=
  comparison.missingFromObserved.isEmpty && comparison.extraInObserved.isEmpty &&
    comparison.entryMismatches.isEmpty

namespace GuestCpuPolicy

/-- What `GuestCpuPolicy::from_host` does to one entry (lines 151-173): features that the guest
must not see are cleared, and the sizes of the XSAVE area are those after a reset. -/
def filterEntry (entry : CpuidEntry) : CpuidEntry :=
  if entry.function = cpuidFeatures then
    { entry with ecx := entry.ecx &&& ~~~(cpuidFeatureX2apic ||| cpuidFeatureTscDeadline) }
  else if entry.function = cpuidXstate ∧ entry.index = cpuidXstateControl then
    { entry with ebx := resetXsaveAreaSize }
  else if entry.function = cpuidXstate ∧ entry.index = cpuidXstateFeatures ∧
      entry.eax &&& (cpuidXstateXsavec ||| cpuidXstateXsaves) ≠ 0 then
    { entry with ebx := resetXsaveAreaSize }
  else if entry.function = kvmCpuidFeatures then
    { entry with eax := entry.eax &&& ~~~kvmFeaturePvUnhalt }
  else entry

/-- `GuestCpuPolicy::from_host` (lines 148-176). -/
def fromHost (host : HostCpuid) : GuestCpuPolicy := ⟨host.entries.map filterEntry⟩

variable (policy observed : GuestCpuPolicy)

/-- No two entries of the policy have the same key. -/
def DistinctKeys : Prop := (policy.entries.map CpuidEntry.key).Nodup

instance : Decidable policy.DistinctKeys := inferInstanceAs (Decidable (List.Nodup _))

/-- `GuestCpuPolicy::compare` (lines 184-226). -/
def compare : GuestCpuPolicyComparison where
  reference := policy
  observed := observed
  missingFromObserved := unmatched CpuidEntry.key policy.entries observed.entries
  extraInObserved := unmatched CpuidEntry.key observed.entries policy.entries
  entryMismatches :=
    mismatched CpuidEntry.key CpuidPolicyEntryMismatch.between policy.entries observed.entries

variable {policy observed}

theorem isExactMatch_compare (h : policy.DistinctKeys) (h' : observed.DistinctKeys) :
    (policy.compare observed).isExactMatch = true ↔ policy.entries.Perm observed.entries := by
  rw [GuestCpuPolicyComparison.isExactMatch, Bool.and_eq_true, Bool.and_eq_true, List.isEmpty_iff,
    List.isEmpty_iff, List.isEmpty_iff, and_assoc]
  exact perm_iff_of_tells CpuidPolicyEntryMismatch.tells h h'

end GuestCpuPolicy

/-! ### MSR features -/

def msrIa32UcodeRev : MsrIndex := 0x0000008b

inductive MsrFeatureStability where
  | modelImmutable
  | hostMutable
  deriving DecidableEq, Repr

def classifyFeatureStability (index : MsrIndex) : MsrFeatureStability :=
  if index = msrIa32UcodeRev then .hostMutable else .modelImmutable

/-- `MsrFeatureValue`.  The stability is that of the index: `MsrFeatureValue::new` is the only
constructor. -/
structure MsrFeatureValue where
  index : MsrIndex
  value : UInt64
  stability : MsrFeatureStability
  classified : stability = classifyFeatureStability index
  deriving DecidableEq, Repr

def MsrFeatureValue.new (index : MsrIndex) (value : UInt64) : MsrFeatureValue :=
  ⟨index, value, classifyFeatureStability index, rfl⟩

theorem MsrFeatureValue.eq_iff {value value' : MsrFeatureValue} :
    value = value' ↔ value.index = value'.index ∧ value.value = value'.value := by
  obtain ⟨index, content, _, rfl⟩ := value
  obtain ⟨index', content', _, rfl⟩ := value'
  rw [mk.injEq]
  constructor
  · exact fun h => ⟨h.1, h.2.1⟩
  · rintro ⟨rfl, rfl⟩
    exact ⟨rfl, rfl, rfl⟩

structure HostMsrFeatureValues where
  values : List MsrFeatureValue
  deriving DecidableEq, Repr

def HostMsrFeatureValues.modelImmutableValues (observation : HostMsrFeatureValues) :
    List MsrFeatureValue :=
  observation.values.filter fun value => value.stability = .modelImmutable

/-- `HostMsrModelCandidate`.  The values are those of the observation that do not change with the
host: `HostMsrModelCandidate::from_observation` is the only constructor. -/
structure HostMsrModelCandidate where
  sourceObservation : HostMsrFeatureValues
  values : List MsrFeatureValue
  observed : values = sourceObservation.modelImmutableValues
  deriving DecidableEq, Repr

structure MsrModelValueMismatch where
  index : MsrIndex
  referenceValue : UInt64
  observedValue : UInt64
  deriving DecidableEq, Repr

namespace MsrModelValueMismatch

/-- The mismatch of two values of one MSR (lines 205-213). -/
def between (reference candidate : MsrFeatureValue) : Option MsrModelValueMismatch :=
  if candidate.value ≠ reference.value then
    some ⟨reference.index, reference.value, candidate.value⟩
  else none

theorem tells : Tells MsrFeatureValue.index MsrModelValueMismatch.index between where
  none_iff {reference candidate} hkey := by
    rw [between, ite_eq_right_iff, MsrFeatureValue.eq_iff]
    simp only [reduceCtorEq, imp_false, not_not, hkey, true_and]
    exact eq_comm
  keyOf_eq {reference candidate report} h := by
    rw [between, Option.ite_none_right_eq_some, Option.some.injEq] at h
    rw [← h.2]

end MsrModelValueMismatch

structure HostMsrModelComparison where
  reference : HostMsrModelCandidate
  observed : HostMsrModelCandidate
  missingFromObserved : List MsrFeatureValue
  extraInObserved : List MsrFeatureValue
  valueMismatches : List MsrModelValueMismatch
  deriving DecidableEq, Repr

def HostMsrModelComparison.isExactMatch (comparison : HostMsrModelComparison) : Bool :=
  comparison.missingFromObserved.isEmpty && comparison.extraInObserved.isEmpty &&
    comparison.valueMismatches.isEmpty

namespace HostMsrModelCandidate

def fromObservation (observation : HostMsrFeatureValues) : HostMsrModelCandidate :=
  ⟨observation, observation.modelImmutableValues, rfl⟩

variable (candidate observed : HostMsrModelCandidate)

/-- No two values of the candidate have the same index. -/
def DistinctKeys : Prop := (candidate.values.map MsrFeatureValue.index).Nodup

instance : Decidable candidate.DistinctKeys := inferInstanceAs (Decidable (List.Nodup _))

/-- `HostMsrModelCandidate::compare` (lines 176-226). -/
def compare : HostMsrModelComparison where
  reference := candidate
  observed := observed
  missingFromObserved := unmatched MsrFeatureValue.index candidate.values observed.values
  extraInObserved := unmatched MsrFeatureValue.index observed.values candidate.values
  valueMismatches :=
    mismatched MsrFeatureValue.index MsrModelValueMismatch.between candidate.values observed.values

variable {candidate observed}

theorem isExactMatch_compare (h : candidate.DistinctKeys) (h' : observed.DistinctKeys) :
    (candidate.compare observed).isExactMatch = true ↔
      candidate.values.Perm observed.values := by
  rw [HostMsrModelComparison.isExactMatch, Bool.and_eq_true, Bool.and_eq_true, List.isEmpty_iff,
    List.isEmpty_iff, List.isEmpty_iff, and_assoc]
  exact perm_iff_of_tells MsrModelValueMismatch.tells h h'

end HostMsrModelCandidate

/-! ### Models -/

structure CpuModelCandidate where
  guestCpuPolicy : GuestCpuPolicy
  hostMsrModelCandidate : HostMsrModelCandidate
  deriving DecidableEq, Repr

structure CpuModelComparison where
  guestCpuPolicyComparison : GuestCpuPolicyComparison
  hostMsrModelComparison : HostMsrModelComparison
  deriving DecidableEq, Repr

def CpuModelComparison.isExactMatch (comparison : CpuModelComparison) : Bool :=
  comparison.guestCpuPolicyComparison.isExactMatch &&
    comparison.hostMsrModelComparison.isExactMatch

/-- `CpuModelCandidate::compare` (`src/model.rs`, lines 34-41). -/
def CpuModelCandidate.compare (candidate observed : CpuModelCandidate) : CpuModelComparison where
  guestCpuPolicyComparison := candidate.guestCpuPolicy.compare observed.guestCpuPolicy
  hostMsrModelComparison :=
    candidate.hostMsrModelCandidate.compare observed.hostMsrModelCandidate

/-- The policies with distinct keys that match exactly. -/
def PolicyMatch (policy observed : { policy : GuestCpuPolicy // policy.DistinctKeys }) : Prop :=
  (policy.1.compare observed.1).isExactMatch = true

/-- The candidates with distinct keys that match exactly. -/
def CandidateMatch
    (candidate observed : { candidate : HostMsrModelCandidate // candidate.DistinctKeys }) :
    Prop :=
  (candidate.1.compare observed.1).isExactMatch = true

theorem equivalence_of_iff_perm {π α : Type} {r : π → π → Prop} (entries : π → List α)
    (h : ∀ x y, r x y ↔ (entries x).Perm (entries y)) : Equivalence r where
  refl x := (h x x).mpr (.refl _)
  symm {x y} hxy := (h y x).mpr ((h x y).mp hxy).symm
  trans {x y z} hxy hyz := (h x z).mpr (((h x y).mp hxy).trans ((h y z).mp hyz))

theorem equivalence_policyMatch : Equivalence PolicyMatch :=
  equivalence_of_iff_perm (fun policy => policy.1.entries) fun policy observed =>
    GuestCpuPolicy.isExactMatch_compare policy.2 observed.2

theorem equivalence_candidateMatch : Equivalence CandidateMatch :=
  equivalence_of_iff_perm (fun candidate => candidate.1.values) fun candidate observed =>
    HostMsrModelCandidate.isExactMatch_compare candidate.2 observed.2

/-- **Comparison of models.** Policies and candidates with distinct keys match exactly when they
have the same entries, in any order, which is an equivalence.  A comparison names the keys that only
the first has, those that only the second has and those with different contents, each once. -/
theorem model_comparison_equivalence :
    Equivalence PolicyMatch ∧ Equivalence CandidateMatch ∧
      (∀ a b : CpuModelCandidate,
        a.guestCpuPolicy.DistinctKeys → b.guestCpuPolicy.DistinctKeys →
        a.hostMsrModelCandidate.DistinctKeys → b.hostMsrModelCandidate.DistinctKeys →
        ((a.compare b).isExactMatch = true ↔
          a.guestCpuPolicy.entries.Perm b.guestCpuPolicy.entries ∧
            a.hostMsrModelCandidate.values.Perm b.hostMsrModelCandidate.values)) ∧
      (∀ a b : GuestCpuPolicy, a.DistinctKeys → b.DistinctKeys →
        ((a.compare b).isExactMatch = true ↔ a.entries.Perm b.entries) ∧
        Reports CpuidEntry.key a.entries b.entries
          ((a.compare b).missingFromObserved.map CpuidEntry.key)
          ((a.compare b).extraInObserved.map CpuidEntry.key)
          ((a.compare b).entryMismatches.map CpuidPolicyEntryMismatch.key)) ∧
      ∀ a b : HostMsrModelCandidate, a.DistinctKeys → b.DistinctKeys →
        ((a.compare b).isExactMatch = true ↔ a.values.Perm b.values) ∧
        Reports MsrFeatureValue.index a.values b.values
          ((a.compare b).missingFromObserved.map MsrFeatureValue.index)
          ((a.compare b).extraInObserved.map MsrFeatureValue.index)
          ((a.compare b).valueMismatches.map MsrModelValueMismatch.index) := by
  refine ⟨equivalence_policyMatch, equivalence_candidateMatch, ?_, ?_, ?_⟩
  · intro a b hpolicy hpolicy' hcandidate hcandidate'
    rw [CpuModelComparison.isExactMatch, Bool.and_eq_true]
    exact and_congr (GuestCpuPolicy.isExactMatch_compare hpolicy hpolicy')
      (HostMsrModelCandidate.isExactMatch_compare hcandidate hcandidate')
  · intro a b h h'
    exact ⟨GuestCpuPolicy.isExactMatch_compare h h',
      reports_of_tells CpuidPolicyEntryMismatch.tells h h'⟩
  · intro a b h h'
    exact ⟨HostMsrModelCandidate.isExactMatch_compare h h',
      reports_of_tells MsrModelValueMismatch.tells h h'⟩

/-- Two policies that share one of three keys, with another value. -/
theorem model_comparison_equivalence_two_policies :
    Reports CpuidEntry.key [⟨1, 0, 0, 7, 0, 0, 0⟩, ⟨2, 0, 0, 0, 0, 0, 0⟩]
      [⟨3, 0, 0, 0, 0, 0, 0⟩, ⟨1, 0, 0, 8, 0, 0, 0⟩] [⟨2, 0⟩] [⟨3, 0⟩] [⟨1, 0⟩] :=
  (model_comparison_equivalence.2.2.2.1 ⟨[⟨1, 0, 0, 7, 0, 0, 0⟩, ⟨2, 0, 0, 0, 0, 0, 0⟩]⟩
    ⟨[⟨3, 0, 0, 0, 0, 0, 0⟩, ⟨1, 0, 0, 8, 0, 0, 0⟩]⟩ (by decide) (by decide)).2

end MiniHypervisor.Kvm
