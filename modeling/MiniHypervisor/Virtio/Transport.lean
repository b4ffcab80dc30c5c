import MiniHypervisor.VirtioBlk.Registers

/-!
# The virtio transport

What the block device and the entropy device have in common: the negotiated features, the status
register, one queue with three ring addresses, the indices of the two rings, the pending
notification and the interrupt status.  A register access or a served request is an event of the
transport.  An event has a guard, which says when the devices let it happen, and an effect;
everything that is said about the two devices along their runs follows from the guards and effects.

A request for a status with invalid features is answered by storing it without `FEATURES_OK`, and
nothing else is then checked.  So a request for `FEATURES_OK` and `DRIVER_OK` together leaves
`DRIVER_OK` without `FEATURES_OK`.  And a queue may be disabled while a notification is pending,
which stays pending.
-/

namespace MiniHypervisor.Virtio

open Bytes Control

open VirtioBlk (virtioStatusAcknowledge virtioStatusDriver virtioStatusDriverOk
  virtioStatusFeaturesOk virtioStatusKnown virtioQueueMaxSize virtioIsrQueueInterrupt)

/-! ### Events -/

/-- The registers of a device that the transport reads, and the state of its queue. -/
@[ext] structure Transport where
  driverFeatures : UInt64
  status : UInt8
  queueSelect : UInt16
  queueSize : UInt16
  queueEnabled : Bool
  queueDesc : UInt64
  queueDriver : UInt64
  queueDevice : UInt64
  notifyPending : Bool
  lastAvailIdx : UInt16
  lastUsedIdx : UInt16
  isrStatus : UInt8

/-- What happens to a transport.  Everything that does not change it is `other`. -/
inductive Event where
  | other
  | select (queue : UInt16)
  | features (value : UInt64)
  | status (requested : UInt8)
  | reset
  | resize (size : UInt16)
  | enable
  | disable
  | rings (desc driver device : UInt64)
  | notified
  | completed
  | isrRead

namespace Transport

/-- The transport of a new device, and of one that was reset. -/
def new : Transport where
  driverFeatures := 0
  status := 0
  queueSelect := 0
  queueSize := virtioQueueMaxSize
  queueEnabled := false
  queueDesc := 0
  queueDriver := 0
  queueDevice := 0
  notifyPending := false
  lastAvailIdx := 0
  lastUsedIdx := 0
  isrStatus := 0

/-- The size of the queue and its ring addresses. -/
def config (t : Transport) : UInt16 × UInt64 × UInt64 × UInt64 :=
  (t.queueSize, t.queueDesc, t.queueDriver, t.queueDevice)

/-- The three ring addresses are set. -/
def RingsSet (t : Transport) : Prop := t.queueDesc ≠ 0 ∧ t.queueDriver ≠ 0 ∧ t.queueDevice ≠ 0

section Guards

variable (valid : UInt64 → Bool) (t : Transport)

/-- The queue can be served. -/
structure Ready : Prop where
  driverOk : t.status &&& virtioStatusDriverOk ≠ 0
  featuresOk : t.status &&& virtioStatusFeaturesOk ≠ 0
  features : valid t.driverFeatures = true
  enabled : t.queueEnabled = true
  rings : t.RingsSet

/-- A request for features that are not valid: it is stored without `FEATURES_OK`. -/
def RefusesFeatures (requested : UInt8) : Prop :=
  requested &&& virtioStatusFeaturesOk ≠ 0 ∧ valid t.driverFeatures = false

instance (requested : UInt8) : Decidable (t.RefusesFeatures valid requested) :=
  inferInstanceAs (Decidable (_ ∧ _))

/-- A status that the device stores, in full or without `FEATURES_OK`. -/
structure AcceptsStatus (requested : UInt8) : Prop where
  ne_zero : requested ≠ 0
  known : requested &&& ~~~virtioStatusKnown = 0
  keeps : requested &&& t.status = t.status
  driver : requested &&& virtioStatusDriver ≠ 0 → requested &&& virtioStatusAcknowledge ≠ 0
  features : requested &&& virtioStatusFeaturesOk ≠ 0 →
    requested &&& (virtioStatusAcknowledge ||| virtioStatusDriver) =
      virtioStatusAcknowledge ||| virtioStatusDriver
  driverOk : ¬ t.RefusesFeatures valid requested → requested &&& virtioStatusDriverOk ≠ 0 →
    requested &&& virtioStatusFeaturesOk ≠ 0 ∧ t.queueEnabled = true

/-- The guard of an event. -/
def Allows : Event → Prop
  | .features _ => t.status &&& virtioStatusFeaturesOk = 0
  | .status requested => t.AcceptsStatus valid requested
  | .resize size => t.queueEnabled = false ∧ ∃ k ≤ 3, size.toNat = 2 ^ k
  | .enable => t.RingsSet
  | .disable => t.queueSelect = 0
  | .rings _ _ _ => t.queueEnabled = false
  | .notified => t.Ready valid
  | .completed => t.Ready valid ∧ t.notifyPending = true
  | _ => True

/-- The effect of an event. -/
def next : Event → Transport
  | .other => t
  | .select queue => { t with queueSelect := queue }
  | .features value => { t with driverFeatures := value }
  | .status requested => { t with
      status := if t.RefusesFeatures valid requested then requested &&& ~~~virtioStatusFeaturesOk
        else requested }
  | .reset => new
  | .resize size => { t with queueSize := size }
  | .enable => { t with queueEnabled := true }
  | .disable => { t with queueEnabled := false }
  | .rings desc driver device =>
      { t with queueDesc := desc, queueDriver := driver, queueDevice := device }
  | .notified => { t with notifyPending := true }
  | .completed => { t with
      lastAvailIdx := t.lastAvailIdx + 1
      lastUsedIdx := t.lastUsedIdx + 1
      notifyPending := false
      isrStatus := t.isrStatus ||| virtioIsrQueueInterrupt }
  | .isrRead => { t with isrStatus := 0 }

/-- The event was allowed and had its effect. -/
def Realises (event : Event) (t' : Transport) : Prop :=
  t.Allows valid event ∧ t' = t.next valid event

end Guards

end Transport

theorem Transport.realises_completed {valid : UInt64 → Bool} {t shown : Transport}
    {avail used : UInt16} (hallows : t.Allows valid .completed) (hshown : shown = t)
    (havail : avail = t.lastAvailIdx + 1) (hused : used = t.lastUsedIdx + 1) :
    t.Realises valid .completed { shown with
      lastAvailIdx := avail
      lastUsedIdx := used
      notifyPending := false
      isrStatus := shown.isrStatus ||| virtioIsrQueueInterrupt } := by
  subst hshown havail hused
  exact ⟨hallows, rfl⟩

theorem Transport.acceptsStatus_iff {valid : UInt64 → Bool} {t : Transport} {requested : UInt8} :
    t.AcceptsStatus valid requested ↔ requested ≠ 0 ∧
      ¬ (requested &&& ~~~virtioStatusKnown ≠ 0 ∨ requested &&& t.status ≠ t.status) ∧
      ¬ (requested &&& virtioStatusDriver ≠ 0 ∧ requested &&& virtioStatusAcknowledge = 0) ∧
      ¬ (requested &&& virtioStatusFeaturesOk ≠ 0 ∧
        requested &&& (virtioStatusAcknowledge ||| virtioStatusDriver) ≠
          virtioStatusAcknowledge ||| virtioStatusDriver) ∧
      (¬ t.RefusesFeatures valid requested → ¬ (requested &&& virtioStatusDriverOk ≠ 0 ∧
        (requested &&& virtioStatusFeaturesOk = 0 ∨ ¬ t.queueEnabled = true))) := by
  constructor
  · rintro ⟨hne, hknown, hkeeps, hdriver, hfeatures, hok⟩
    tauto
  · rintro ⟨hne, hknown, hdriver, hfeatures, hok⟩
    constructor <;> tauto

/-! ### Bookkeeping -/

/-- What the past of a device amounts to: the completions since the last reset, whether a
notification was accepted since the last completion or reset, and whether a completion happened
since the last read of the interrupt status or reset. -/
structure Ledger where
  completions : ℕ
  awaitsService : Bool
  awaitsIsrRead : Bool
  deriving DecidableEq, Repr

namespace Ledger

/-- The ledger of an empty history. -/
def empty : Ledger := ⟨0, false, false⟩

/-- The ledger after one more event. -/
def record (ledger : Ledger) : Event → Ledger
  | .reset => empty
  | .notified => { ledger with awaitsService := true }
  | .completed => ⟨ledger.completions + 1, false, true⟩
  | .isrRead => { ledger with awaitsIsrRead := false }
  | _ => ledger

/-- The ledger of a history. -/
def ofEvents (events : List Event) : Ledger := events.foldl record empty

theorem ofEvents_concat (events : List Event) (event : Event) :
    ofEvents (events ++ [event]) = (ofEvents events).record event :=
  List.foldl_append

end Ledger

/-- The bookkeeping of a queue. -/
structure Bookkeeping (ledger : Ledger) (t : Transport) : Prop where
  avail : t.lastAvailIdx.toNat = ledger.completions % 2 ^ 16
  used : t.lastUsedIdx.toNat = ledger.completions % 2 ^ 16
  size : ∃ k ≤ 3, t.queueSize.toNat = 2 ^ k
  rings : t.queueEnabled = true → t.RingsSet
  pending : t.notifyPending = ledger.awaitsService
  isr : t.isrStatus = if ledger.awaitsIsrRead then virtioIsrQueueInterrupt else 0

section Bookkeeping

variable {valid : UInt64 → Bool} {ledger : Ledger} {t : Transport} {event : Event}

theorem bookkeeping_new : Bookkeeping .empty .new :=
  ⟨rfl, rfl, ⟨3, le_rfl, rfl⟩, nofun, rfl, rfl⟩

theorem Bookkeeping.next (h : Bookkeeping ledger t) (hallows : t.Allows valid event) :
    Bookkeeping (ledger.record event) (t.next valid event) := by
  have hsucc {v : UInt16} (hv : v.toNat = ledger.completions % 2 ^ 16) :
      (v + 1).toNat = (ledger.completions + 1) % 2 ^ 16 := by
    rw [UInt16.toNat_add, hv]
    exact Nat.mod_add_mod _ _ _
  cases event with
  | reset => exact bookkeeping_new
  | resize size => exact { h with size := hallows.2 }
  | enable => exact { h with rings := fun _ => hallows }
  | disable => exact { h with rings := nofun }
  | rings desc driver device =>
      exact { h with rings := fun henabled => absurd henabled (Bool.eq_false_iff.mp hallows) }
  | notified => exact { h with pending := rfl }
  | completed =>
      refine { h with avail := hsucc h.avail, used := hsucc h.used, pending := rfl, isr := ?_ }
      change t.isrStatus ||| virtioIsrQueueInterrupt = virtioIsrQueueInterrupt
      rw [h.isr]
      split <;> rfl
  | isrRead => exact { h with isr := rfl }
  | other | select | features | status => exact { h with }

/-- A ring of a power of two of slots is indexed alike by a count and by its low sixteen bits. -/
theorem Bookkeeping.slot (h : Bookkeeping ledger t) {index : UInt16}
    (hindex : index.toNat = ledger.completions % 2 ^ 16) :
    (index % t.queueSize).toNat = ledger.completions % t.queueSize.toNat := by
  obtain ⟨k, hk, hsize⟩ := h.size
  rw [UInt16.toNat_mod, hindex, hsize]
  exact Nat.mod_mod_of_dvd _ (pow_dvd_pow 2 (by omega))

theorem Transport.config_next (hallows : t.Allows valid event) (henabled : t.queueEnabled = true)
    (hreset : event ≠ .reset) : (t.next valid event).config = t.config := by
  cases event with
  | resize size => exact absurd henabled (Bool.eq_false_iff.mp hallows.1)
  | rings desc driver device => exact absurd henabled (Bool.eq_false_iff.mp hallows)
  | reset => exact absurd rfl hreset
  | _ => rfl

end Bookkeeping

/-! ### The order of the status bits -/

namespace Transport

/-- The order of the status bits. -/
structure Nested (valid : UInt64 → Bool) (t : Transport) : Prop where
  driver : t.status &&& virtioStatusDriver ≠ 0 → t.status &&& virtioStatusAcknowledge ≠ 0
  featuresOk : t.status &&& virtioStatusFeaturesOk ≠ 0 →
    t.status &&& virtioStatusAcknowledge ≠ 0 ∧ t.status &&& virtioStatusDriver ≠ 0 ∧
      valid t.driverFeatures = true
  driverOk : t.status &&& virtioStatusDriverOk ≠ 0 → t.status &&& virtioStatusFeaturesOk ≠ 0

/-- A request for `FEATURES_OK` and `DRIVER_OK` at once, with the bits below them, while the
features are not valid. -/
structure EarlyDriverOk (valid : UInt64 → Bool) (t : Transport) (requested : UInt8) : Prop where
  known : requested &&& ~~~virtioStatusKnown = 0
  keeps : requested &&& t.status = t.status
  acknowledgedDriver : requested &&& (virtioStatusAcknowledge ||| virtioStatusDriver) =
    virtioStatusAcknowledge ||| virtioStatusDriver
  featuresOk : requested &&& virtioStatusFeaturesOk ≠ 0
  driverOk : requested &&& virtioStatusDriverOk ≠ 0
  invalid : valid t.driverFeatures = false

end Transport

section Bits

variable {r s b m : UInt8}

theorem and_ne_zero_of_keeps (h : r &&& s = s) (hs : s &&& b ≠ 0) : r &&& b ≠ 0 := by
  intro hr
  apply hs
  calc s &&& b = (r &&& s) &&& b := by rw [h]
    _ = s &&& (r &&& b) := by rw [UInt8.and_comm r s, UInt8.and_assoc]
    _ = 0 := by rw [hr, UInt8.and_zero]

theorem and_mask_and (h : m &&& b = b) : (r &&& m) &&& b = r &&& b := by
  rw [UInt8.and_assoc, h]

theorem and_ne_zero_of_mask (h : r &&& m = m) (hb : m &&& b = b) (hne : b ≠ 0) : r &&& b ≠ 0 := by
  rw [← and_mask_and hb, h, hb]
  exact hne

theorem clear_featuresOk (r : UInt8) :
    (r &&& ~~~virtioStatusFeaturesOk) &&& virtioStatusFeaturesOk = 0 := by
  rw [UInt8.and_assoc]
  exact UInt8.and_zero

end Bits

namespace Transport

variable {valid : UInt64 → Bool} {t : Transport} {event : Event} {requested : UInt8}

/-! ### Stored status bits -/

/-- What every stored status satisfies, also one that was stored without `FEATURES_OK`. -/
structure StatusBits (t : Transport) : Prop where
  known : t.status &&& ~~~virtioStatusKnown = 0
  driver : t.status &&& virtioStatusDriver ≠ 0 → t.status &&& virtioStatusAcknowledge ≠ 0
  featuresOk : t.status &&& virtioStatusFeaturesOk ≠ 0 →
    t.status &&& (virtioStatusAcknowledge ||| virtioStatusDriver) =
      virtioStatusAcknowledge ||| virtioStatusDriver

theorem statusBits_new : StatusBits .new :=
  ⟨rfl, fun h => absurd rfl h, fun h => absurd rfl h⟩

theorem AcceptsStatus.statusBits (h : t.AcceptsStatus valid requested) :
    StatusBits { t with status := requested } :=
  ⟨h.known, h.driver, h.features⟩

theorem AcceptsStatus.statusBits_refused (h : t.AcceptsStatus valid requested) :
    StatusBits { t with status := requested &&& ~~~virtioStatusFeaturesOk } where
  known := by
    dsimp only
    rw [UInt8.and_assoc, UInt8.and_comm (~~~virtioStatusFeaturesOk), ← UInt8.and_assoc, h.known,
      UInt8.zero_and]
  driver := by
    dsimp only
    rw [and_mask_and (by decide), and_mask_and (by decide)]
    exact h.driver
  featuresOk hset := absurd (clear_featuresOk requested) hset

theorem StatusBits.next (h : StatusBits t) (hallows : t.Allows valid event) :
    StatusBits (t.next valid event) := by
  cases event with
  | status requested =>
      have haccepts : t.AcceptsStatus valid requested := hallows
      by_cases hrefuses : t.RefusesFeatures valid requested
      · simp only [Transport.next, if_pos hrefuses]
        exact haccepts.statusBits_refused
      · simp only [Transport.next, if_neg hrefuses]
        exact haccepts.statusBits
  | reset => exact statusBits_new
  | _ => exact { h with }

/-! ### Nested status bits -/

theorem nested_new : Nested valid .new :=
  ⟨fun h => absurd rfl h, fun h => absurd rfl h, fun h => absurd rfl h⟩

/-- The status after a request that is refused in part has every other bit of the request. -/
theorem nested_of_refuses (haccepts : t.AcceptsStatus valid requested)
    (hdriverOk : requested &&& virtioStatusDriverOk = 0) :
    Nested valid { t with status := requested &&& ~~~virtioStatusFeaturesOk } where
  driver := haccepts.statusBits_refused.driver
  featuresOk h := absurd (clear_featuresOk requested) h
  driverOk h := by
    refine absurd ?_ h
    dsimp only
    rwa [and_mask_and (by decide)]

theorem nested_of_accepts (haccepts : t.AcceptsStatus valid requested)
    (hrefuses : ¬ t.RefusesFeatures valid requested) :
    Nested valid { t with status := requested } where
  driver := haccepts.driver
  featuresOk h := by
    have hmask := haccepts.features h
    refine ⟨and_ne_zero_of_mask hmask (by decide) (by decide),
      and_ne_zero_of_mask hmask (by decide) (by decide), ?_⟩
    exact Bool.of_not_eq_false fun hinvalid => hrefuses ⟨h, hinvalid⟩
  driverOk h := (haccepts.driverOk hrefuses h).1

theorem Nested.next (h : Nested valid t) (hallows : t.Allows valid event)
    (hevent : ∀ requested, event = .status requested → ¬ t.EarlyDriverOk valid requested) :
    Nested valid (t.next valid event) := by
  cases event with
  | features value => exact { h with featuresOk := fun hset => absurd hallows hset }
  | status requested =>
      have haccepts : t.AcceptsStatus valid requested := hallows
      by_cases hrefuses : t.RefusesFeatures valid requested
      · simp only [Transport.next, if_pos hrefuses]
        refine nested_of_refuses haccepts (by_contra fun hset => ?_)
        exact hevent requested rfl ⟨haccepts.known, haccepts.keeps, haccepts.features hrefuses.1,
          hrefuses.1, hset, hrefuses.2⟩
      · simp only [Transport.next, if_neg hrefuses]
        exact nested_of_accepts haccepts hrefuses
  | reset => exact nested_new
  | _ => exact { h with }

theorem EarlyDriverOk.accepts (h : t.EarlyDriverOk valid requested) :
    t.AcceptsStatus valid requested where
  ne_zero := by
    rintro rfl
    exact h.featuresOk rfl
  known := h.known
  keeps := h.keeps
  driver _ := and_ne_zero_of_mask h.acknowledgedDriver (by decide) (by decide)
  features _ := h.acknowledgedDriver
  driverOk hrefuses := absurd ⟨h.featuresOk, h.invalid⟩ hrefuses

theorem EarlyDriverOk.not_nested (h : t.EarlyDriverOk valid requested) :
    ¬ Nested valid (t.next valid (.status requested)) := by
  have hrefuses : t.RefusesFeatures valid requested := ⟨h.featuresOk, h.invalid⟩
  simp only [Transport.next, if_pos hrefuses]
  intro hnested
  refine hnested.driverOk ?_ ?_
  · rw [and_mask_and (by decide)]
    exact h.driverOk
  · exact clear_featuresOk requested

/-! ### Negotiated features -/

/-- `FEATURES_OK` stands for valid features. -/
def FeaturesValid (valid : UInt64 → Bool) (t : Transport) : Prop :=
  t.status &&& virtioStatusFeaturesOk ≠ 0 → valid t.driverFeatures = true

theorem featuresValid_next (h : t.FeaturesValid valid) (hallows : t.Allows valid event) :
    (t.next valid event).FeaturesValid valid := by
  cases event with
  | features value => exact fun hset => absurd hallows hset
  | status requested =>
      by_cases hrefuses : t.RefusesFeatures valid requested
      · simp only [Transport.next, if_pos hrefuses]
        exact fun hset => absurd (clear_featuresOk requested) hset
      · simp only [Transport.next, if_neg hrefuses]
        exact fun hset => Bool.of_not_eq_false fun hinvalid => hrefuses ⟨hset, hinvalid⟩
  | reset => exact fun hset => absurd UInt8.zero_and hset
  | _ => exact h

theorem features_locked_next (h : t.FeaturesValid valid) (hallows : t.Allows valid event)
    (hset : t.status &&& virtioStatusFeaturesOk ≠ 0) (hreset : event ≠ .reset) :
    (t.next valid event).status &&& virtioStatusFeaturesOk ≠ 0 ∧
      (t.next valid event).driverFeatures = t.driverFeatures := by
  cases event with
  | features value => exact absurd hallows hset
  | status requested =>
      have hrefuses : ¬ t.RefusesFeatures valid requested := fun hrefuses =>
        Bool.noConfusion (hrefuses.2.symm.trans (h hset))
      simp only [Transport.next, if_neg hrefuses]
      exact ⟨and_ne_zero_of_keeps (AcceptsStatus.keeps hallows) hset, trivial⟩
  | reset => exact absurd rfl hreset
  | _ => exact ⟨hset, rfl⟩

/-! ### Pending notifications -/

/-- A pending notification belongs to a ready queue, with the settings it had when the notification
was accepted. -/
def PendingReady (valid : UInt64 → Bool) (accepted : Option Transport) (t : Transport) : Prop :=
  t.notifyPending = true → t.Ready valid ∧ accepted.map config = some t.config

/-- The transport after the last accepted notification. -/
def noteNotified (accepted : Option Transport) (event : Event) (after : Transport) :
    Option Transport :=
  match event with
  | .notified => some after
  | _ => accepted

theorem Ready.status (h : t.Ready valid) (haccepts : t.AcceptsStatus valid requested) :
    (t.next valid (.status requested)).Ready valid := by
  have hrefuses : ¬ t.RefusesFeatures valid requested := fun hrefuses =>
    Bool.noConfusion (hrefuses.2.symm.trans h.features)
  simp only [Transport.next, if_neg hrefuses]
  exact { h with
    driverOk := and_ne_zero_of_keeps haccepts.keeps h.driverOk
    featuresOk := and_ne_zero_of_keeps haccepts.keeps h.featuresOk }

/-- Every event but the disabling of a queue with a pending notification keeps pending notifications
with ready queues. -/
theorem PendingReady.next {accepted : Option Transport} (h : t.PendingReady valid accepted)
    (hallows : t.Allows valid event) (hevent : event = .disable → t.notifyPending = false) :
    (t.next valid event).PendingReady valid (noteNotified accepted event (t.next valid event)) := by
  cases event with
  | features value => exact fun hpending => absurd hallows (h hpending).1.featuresOk
  | status requested => exact fun hpending => ⟨(h hpending).1.status hallows, (h hpending).2⟩
  | resize size =>
      exact fun hpending => absurd (h hpending).1.enabled (Bool.eq_false_iff.mp hallows.1)
  | enable => exact fun hpending => ⟨{ (h hpending).1 with enabled := rfl }, (h hpending).2⟩
  | disable =>
      exact fun hpending => absurd hpending (Bool.eq_false_iff.mp (hevent rfl))
  | rings desc driver device =>
      exact fun hpending => absurd (h hpending).1.enabled (Bool.eq_false_iff.mp hallows)
  | notified => exact fun _ => ⟨{ (show t.Ready valid from hallows) with }, rfl⟩
  | completed => exact nofun
  | reset => exact nofun
  | other | select | isrRead => exact fun hpending => ⟨{ (h hpending).1 with }, (h hpending).2⟩

theorem not_pendingReady_disable {accepted : Option Transport} (hpending : t.notifyPending = true) :
    ¬ (t.next valid .disable).PendingReady valid accepted :=
  fun h => Bool.noConfusion (h hpending).1.enabled

end Transport

end MiniHypervisor.Virtio
