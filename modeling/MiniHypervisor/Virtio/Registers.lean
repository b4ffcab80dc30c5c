import MiniHypervisor.Control.Triples
import MiniHypervisor.Virtio.Calls

/-!
# Register accesses and the transport

The transport of a device is read off its registers.  Here is what the accesses of the registers do
to it: a read or a write realises its event, or it fails and changes nothing.
-/

namespace MiniHypervisor

open Bytes Control Virtio

/-- The transport that the registers hold. -/
def VirtioBlk.VirtioRegisters.transport (registers : VirtioRegisters) : Transport where
  driverFeatures := registers.driverFeatures
  status := registers.status
  queueSelect := registers.queueSelect
  queueSize := registers.queueSize
  queueEnabled := registers.queueEnabled
  queueDesc := registers.queueDesc
  queueDriver := registers.queueDriver
  queueDevice := registers.queueDevice
  notifyPending := registers.notifyPending
  lastAvailIdx := registers.lastAvailIdx
  lastUsedIdx := registers.lastUsedIdx
  isrStatus := registers.isrStatus

namespace Virtio

open VirtioBlk (Register RegisterSpec VirtioRegisters virtioStatusFeaturesOk)

variable {ε α π η : Type} {spec : RegisterSpec ε} {registers : VirtioRegisters}
  {payload : List UInt8} {register : Register}

/-! ### Guards -/

theorem ready_of_ensureQueueReady (h : spec.ensureQueueReady registers = .ok ()) :
    registers.transport.Ready spec.featuresValid := by
  have hguard := rejectIf_eq_ok.mp h
  simp only [not_or, not_not] at hguard
  obtain ⟨hdriverOk, hfeaturesOk, hvalid, henabled, hdesc, hdriver, hdevice⟩ := hguard
  exact ⟨hdriverOk, hfeaturesOk, hvalid, henabled, hdesc, hdriver, hdevice⟩

theorem unlocked_of_ensureQueueUnlocked (h : spec.ensureQueueUnlocked registers = .ok ()) :
    registers.transport.queueEnabled = false := by
  obtain ⟨-, -, hunlocked⟩ := bind_eq_ok.mp h
  exact Bool.eq_false_iff.mpr (rejectIf_eq_ok.mp hunlocked)

theorem ensureSelectedQueue_eq_ok (hindex : spec.queueIndex = 0) (registers : VirtioRegisters) :
    spec.ensureSelectedQueue registers = .ok () ↔ registers.transport.queueSelect = 0 := by
  rw [RegisterSpec.ensureSelectedQueue, rejectIf_eq_ok, not_not, hindex]
  rfl

/-! ### Writes of single registers -/

/-- A write of a register realises its event, or fails, changes nothing and need not be accepted. -/
def RealisesWrite (valid : UInt64 → Bool) (payload : List UInt8) (register : Register)
    (x : EStateM ε VirtioRegisters Unit) : Prop :=
  ∀ t, Ensures (fun r => r.transport = t) x
    (fun _ r => t.Realises valid (writeEvent r.transport payload register) r.transport)
    (fun r => r.transport = t ∧ ¬ t.MustAccept valid payload register)

theorem RealisesWrite.guarded {valid : UInt64 → Bool} {check : VirtioRegisters → Except ε Unit}
    {update : VirtioRegisters → VirtioRegisters}
    (hfree : ∀ t, ¬ Transport.MustAccept valid t payload register)
    (h : ∀ r, check r = .ok () → r.transport.Realises valid
      (writeEvent (update r).transport payload register) (update r).transport) :
    RealisesWrite valid payload register (do reads check; modify update) := by
  intro t
  refine .bind (Q := fun _ r => check r = .ok () ∧ r.transport = t) (.reads ?_ ?_) fun _ =>
    .modify ?_
  · exact fun r _ hr hcheck => ⟨hcheck, hr⟩
  · exact fun r hr => ⟨hr, hfree t⟩
  · rintro r ⟨hcheck, rfl⟩
    exact h r hcheck

theorem RealisesWrite.unguarded {valid : UInt64 → Bool}
    {update : VirtioRegisters → VirtioRegisters}
    (h : ∀ r : VirtioRegisters, r.transport.Realises valid
      (writeEvent (update r).transport payload register) (update r).transport) :
    RealisesWrite valid payload register (modify update : EStateM ε VirtioRegisters Unit) := by
  refine fun t => .modify ?_
  rintro r rfl
  exact h r

theorem realises_writeStatus :
    RealisesWrite spec.featuresValid payload .deviceStatus
      (spec.writeStatus (payload.getD 0 0)) := by
  intro t
  generalize hrequested : payload.getD 0 0 = requested
  refine .get_bind fun r hr => ?_
  subst hr
  have hiff : requested &&& virtioStatusFeaturesOk ≠ 0 ∧ ¬ spec.featuresValid r.driverFeatures ↔
      r.transport.RefusesFeatures spec.featuresValid requested :=
    and_congr_right fun _ => Bool.eq_false_iff.symm
  have hrefused : ∀ c : Prop, c → (r.transport.AcceptsStatus spec.featuresValid requested → ¬ c) →
      ∀ r', r' = r → r'.transport = r.transport ∧
        ¬ r.transport.MustAccept spec.featuresValid payload .deviceStatus := by
    rintro c hc haccepts _ rfl
    exact ⟨rfl, fun h => haccepts (hrequested ▸ h) hc⟩
  refine .ite (fun hzero => .set ?_) fun hzero => .ite (fun hc => .throw ?_) fun hknown =>
    .ite (fun hc => .throw ?_) fun hdriver => .ite (fun hc => .throw ?_) fun hfeatures =>
    .ite (fun hrefuses => .set ?_) fun hrefuses => .ite (fun hc => .throw ?_) fun hok => .set ?_
  · rw [writeEvent, if_pos (hrequested.trans hzero)]
    exact ⟨trivial, rfl⟩
  · exact hrefused _ hc fun h => (Transport.acceptsStatus_iff.mp h).2.1
  · exact hrefused _ hc fun h => (Transport.acceptsStatus_iff.mp h).2.2.1
  · exact hrefused _ hc fun h => (Transport.acceptsStatus_iff.mp h).2.2.2.1
  · rw [writeEvent, hrequested, if_neg hzero]
    refine ⟨Transport.acceptsStatus_iff.mpr ⟨hzero, hknown, hdriver, hfeatures,
      fun h => absurd (hiff.mp hrefuses) h⟩, ?_⟩
    simp only [Transport.next, if_pos (hiff.mp hrefuses)]
    rfl
  · exact hrefused _ hc fun h =>
      (Transport.acceptsStatus_iff.mp h).2.2.2.2 fun hr => hrefuses (hiff.mpr hr)
  · rw [writeEvent, hrequested, if_neg hzero]
    refine ⟨Transport.acceptsStatus_iff.mpr ⟨hzero, hknown, hdriver, hfeatures, fun _ => hok⟩, ?_⟩
    simp only [Transport.next, if_neg fun hr => hrefuses (hiff.mpr hr)]
    rfl

theorem realises_writeQueueEnable (hindex : spec.queueIndex = 0) :
    RealisesWrite spec.featuresValid payload .queueEnable
      (spec.writeQueueEnable (u16OfBytes payload)) := by
  rintro t r rfl
  have hselected := ensureSelectedQueue_eq_ok hindex r
  unfold RegisterSpec.writeQueueEnable
  cases hcheck : spec.ensureSelectedQueue r with
  | error e =>
      rw [run_bind_of_error (run_reads_of_error hcheck)]
      refine ⟨nofun, ?_⟩
      rintro _ _ ⟨⟩
      refine ⟨rfl, fun h => ?_⟩
      rw [hselected.mpr h.2] at hcheck
      cases hcheck
  | ok u =>
      rw [run_bind_of_ok (run_reads_of_ok hcheck)]
      refine Ensures.get_bind (P := fun r' => r' = r) (fun r' hr' => ?_) r rfl
      subst hr'
      refine .ite (fun hzero => .set ?_) fun hzero => .ite (fun hrings => .set ?_) fun hrings =>
        .throw ?_
      · rw [writeEvent, if_pos hzero]
        exact ⟨hselected.mp hcheck, rfl⟩
      · rw [writeEvent, if_neg hzero]
        exact ⟨hrings.2, rfl⟩
      · rintro _ rfl
        exact ⟨rfl, fun h => hzero h.1⟩

theorem realises_writeDriverFeatureWord (value : UInt32) :
    RealisesWrite spec.featuresValid payload .driverFeature
      (spec.writeDriverFeatureWord value) := by
  intro t
  refine .get_bind fun r hr => ?_
  subst hr
  have hrejected : ∀ r', r' = r → r'.transport = r.transport ∧
      ¬ r.transport.MustAccept spec.featuresValid payload .driverFeature := by
    rintro _ rfl
    exact ⟨rfl, id⟩
  have hrealises (features : UInt64)
      (hset : ¬ r.status &&& virtioStatusFeaturesOk ≠ 0) :
      r.transport.Realises spec.featuresValid (.features features)
        { r with driverFeatures := features }.transport :=
    ⟨not_not.mp hset, rfl⟩
  refine .ite (fun _ => .throw hrejected) fun hset =>
    .ite (fun _ => .set (hrealises _ hset)) fun _ =>
    .ite (fun _ => .set (hrealises _ hset)) fun _ =>
    .ite (fun _ => .pure ?_) fun _ => .throw hrejected
  rintro _ rfl
  exact hrealises _ hset

theorem realises_writeQueueSize :
    RealisesWrite spec.featuresValid payload .queueSize
      (spec.writeQueueSize (u16OfBytes payload)) := by
  intro t
  refine .bind (Q := fun _ r => r.transport = t)
    (.reads (fun _ _ hr _ => hr) fun _ hr => ⟨hr, id⟩) fun _ => ?_
  refine .bind (Q := fun _ r => spec.ensureQueueUnlocked r = .ok () ∧ r.transport = t)
    (.reads (fun _ _ hr hcheck => ⟨hcheck, hr⟩) fun _ hr => ⟨hr, id⟩) fun _ => ?_
  refine .ite (fun _ => .throw fun _ hr => ⟨hr.2, id⟩) fun hsize => .modify ?_
  rintro r ⟨hcheck, rfl⟩
  exact ⟨⟨unlocked_of_ensureQueueUnlocked hcheck, RegisterSpec.queueSize_iff.mp hsize⟩, rfl⟩

theorem realises_writeNotify :
    RealisesWrite spec.featuresValid payload .notify (spec.writeNotify (u16OfBytes payload)) := by
  refine fun t => .ite (fun _ => .throw fun _ hr => ⟨hr, id⟩) fun _ => ?_
  have hguarded : RealisesWrite spec.featuresValid payload .notify (do
      reads spec.ensureQueueReady
      modify fun registers => { registers with notifyPending := true }) :=
    .guarded (fun _ => id) fun _ hcheck => ⟨ready_of_ensureQueueReady hcheck, rfl⟩
  exact hguarded t

theorem realises_writeRegister (hindex : spec.queueIndex = 0)
    {update : EStateM ε VirtioRegisters Unit}
    (h : spec.writeRegister payload register = some update) :
    RealisesWrite spec.featuresValid payload register update := by
  unfold RegisterSpec.writeRegister at h
  cases register <;> simp only [Option.some.injEq, reduceCtorEq] at h <;> subst h
  case driverFeature => exact realises_writeDriverFeatureWord _
  case deviceStatus => exact realises_writeStatus
  case queueSize => exact realises_writeQueueSize
  case queueEnable => exact realises_writeQueueEnable hindex
  case notify => exact realises_writeNotify
  case deviceFeatureSelect | driverFeatureSelect | queueSelect =>
    exact .unguarded fun _ => ⟨trivial, rfl⟩
  all_goals
    exact .guarded (fun _ => id) fun _ hcheck => ⟨unlocked_of_ensureQueueUnlocked hcheck, rfl⟩

/-! ### Register accesses -/

variable {D : Type} {transport : D → Transport} {valid : UInt64 → Bool}

variable (transport valid) in
/-- A call realises its event, or fails, changes nothing and was no write that must be accepted. -/
def RealisesCall (call : Call π) (x : EStateM ε D α) : Prop :=
  ∀ t, Ensures (fun d => transport d = t) x
    (fun _ d' => t.Realises valid (call.event (transport d')) (transport d'))
    (fun d' => transport d' = t ∧
      ∀ register payload, call.Writes register payload → ¬ t.MustAccept valid payload register)

theorem realises_write (hindex : spec.queueIndex = 0) (notified : UInt16 → η) (offset : ℕ)
    (payload : List UInt8) :
    RealisesCall VirtioRegisters.transport spec.featuresValid
      (.write offset payload : Call π) (spec.write notified offset payload) := by
  unfold RegisterSpec.write
  intro t
  dsimp only
  split
  · rename_i hrefused
    refine .throw fun r hr => ⟨hr, ?_⟩
    rintro register _ ⟨_, ⟨⟩, hregister⟩
    rw [hregister, Option.bind_some] at hrefused
    cases register with
    | deviceStatus | queueEnable => cases hrefused
    | _ => exact id
  · rename_i update hupdate
    obtain ⟨register, hregister, hwrite⟩ := Option.bind_eq_some_iff.mp hupdate
    have hwrites : (Call.write offset payload : Call π).Writes register payload :=
      ⟨offset, rfl, hregister⟩
    refine .bind ((realises_writeRegister hindex hwrite t).weaken_error fun r hr => ⟨hr.1, ?_⟩)
      fun _ => ?_
    · rintro _ _ ⟨_, ⟨⟩, hregister'⟩
      cases hregister.symm.trans hregister'
      exact hr.2
    · split_ifs
      all_goals
        refine .pure fun r hr => ?_
        rwa [Call.event_eq_of_writes hwrites]

theorem realises_read (offset length : ℕ) :
    RealisesCall VirtioRegisters.transport valid (.read offset length : Call π)
      (spec.read offset length) := by
  intro t
  refine .bind (Q := fun _ r => r.transport = t) (.reads (fun _ _ hr _ => hr) ?_) fun _ => ?_
  · refine fun r hr => ⟨hr, ?_⟩
    rintro _ _ ⟨_, ⟨⟩, -⟩
  · refine .ite (fun hisr => .bind (Q := fun _ r => r.transport = { t with isrStatus := 0 })
      (.modify ?_) fun _ => .pure ?_) fun hisr => .pure ?_
    · rintro r rfl
      rfl
    · intro r hr
      rw [Call.event, if_pos hisr]
      exact ⟨trivial, hr⟩
    · intro r hr
      rw [Call.event, if_neg hisr]
      exact ⟨trivial, hr⟩

/-- What holds of the registers holds of a device that has them. -/
theorem RealisesCall.within {ε' : Type} {get : D → VirtioRegisters}
    {set : D → VirtioRegisters → D} {wrap : ε' → ε} {call : Call π}
    {x : EStateM ε' VirtioRegisters α}
    (h : RealisesCall VirtioRegisters.transport valid call x)
    (hget : ∀ d registers, get (set d registers) = registers) :
    RealisesCall (fun d => (get d).transport) valid call (Control.within get set wrap x) :=
  fun t => (h t).within hget

theorem RealisesCall.run {call : Call π} {x : EStateM ε D α}
    (h : RealisesCall transport valid call x) (d : D) :
    (transport d).Realises valid
      (if succeeded (x.run d) then call.event (transport (finalState (x.run d))) else .other)
      (transport (finalState (x.run d))) := by
  rcases (h (transport d)).outcome rfl with ⟨hok, hend⟩ | ⟨hok, hend, -⟩
  · rwa [if_pos hok]
  · rw [hok, hend]
    exact ⟨trivial, rfl⟩

theorem RealisesCall.accepts {call : Call π} {x : EStateM ε D α}
    (h : RealisesCall transport valid call x) {d : D} {register : Register} {payload : List UInt8}
    (hwrites : call.Writes register payload)
    (hmust : (transport d).MustAccept valid payload register) : succeeded (x.run d) = true := by
  rcases (h (transport d)).outcome rfl with ⟨hok, -⟩ | ⟨-, -, hfree⟩
  · exact hok
  · exact absurd hmust (hfree register payload hwrites)

/-- The device that its register accesses and services make. -/
def TransportDevice.ofPrograms {ω : Type} (transport : D → Transport) (valid : UInt64 → Bool)
    (read : ℕ → ℕ → EStateM ε D α) (write : ℕ → List UInt8 → EStateM ε D ω)
    (serve : D → π → Bool × D)
    (hread : ∀ offset length,
      RealisesCall transport valid (.read offset length : Call π) (read offset length))
    (hwrite : ∀ offset payload,
      RealisesCall transport valid (.write offset payload : Call π) (write offset payload))
    (hserve : ∀ d service,
      ((serve d service).1 = true ∧
        (transport d).Realises valid .completed (transport (serve d service).2)) ∨
      ((serve d service).1 = false ∧ transport (serve d service).2 = transport d)) :
    TransportDevice D π where
  transport := transport
  valid := valid
  run d call := match call with
    | .read offset length =>
        (succeeded ((read offset length).run d), finalState ((read offset length).run d))
    | .write offset payload =>
        (succeeded ((write offset payload).run d), finalState ((write offset payload).run d))
    | .process service => serve d service
  realises := by
    rintro d (⟨offset, length⟩ | ⟨offset, payload⟩ | service)
    · exact (hread offset length).run d
    · exact (hwrite offset payload).run d
    · dsimp only
      rcases hserve d service with ⟨hok, hend⟩ | ⟨hok, hend⟩
      · rwa [if_pos hok]
      · rw [hok, hend]
        exact ⟨trivial, rfl⟩
  accepts := by
    rintro d _ register payload ⟨offset, rfl, hregister⟩ hmust
    exact (hwrite offset payload).accepts ⟨offset, rfl, hregister⟩ hmust

end Virtio

end MiniHypervisor
