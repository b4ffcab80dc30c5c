import MiniHypervisor.Control.Refinement
import MiniHypervisor.Virtio.Transport

/-!
# Runs of a virtio device

A device is used by register reads, register writes and calls that serve its queue.  Which event a
call was is read from the call, its outcome and the registers after it.  A device whose calls
realise their events has the properties of the transport along every run, from any initial state
that has the transport of a new device.
-/

namespace MiniHypervisor.Virtio

open Bytes Control

open VirtioBlk (Register virtioStatusFeaturesOk)

/-! ### Calls -/

/-- A call of a device whose queue is served with a `π`. -/
inductive Call (π : Type) where
  | read (offset length : ℕ)
  | write (offset : ℕ) (payload : List UInt8)
  | process (service : π)

/-- The event of a successful write. -/
def writeEvent (after : Transport) (payload : List UInt8) : Register → Event
  | .driverFeature => .features after.driverFeatures
  | .deviceStatus => if payload.getD 0 0 = 0 then .reset else .status (payload.getD 0 0)
  | .queueSelect => .select (u16OfBytes payload)
  | .queueSize => .resize (u16OfBytes payload)
  | .queueEnable => if u16OfBytes payload = 0 then .disable else .enable
  | .queueDesc | .queueDescHigh | .queueDriver | .queueDriverHigh | .queueDevice
  | .queueDeviceHigh => .rings after.queueDesc after.queueDriver after.queueDevice
  | .notify => .notified
  | _ => .other

namespace Call

variable {π : Type}

/-- The event of a successful call. -/
def event (after : Transport) : Call π → Event
  | .read offset length => if Register.find? offset length = some .isr then .isrRead else .other
  | .write offset payload =>
      match Register.find? offset payload.length with
      | some register => writeEvent after payload register
      | none => .other
  | .process _ => .completed

/-- The call writes the payload to the register. -/
def Writes (register : Register) (payload : List UInt8) (call : Call π) : Prop :=
  ∃ offset, call = .write offset payload ∧
    Register.find? offset payload.length = some register

variable {after : Transport} {call : Call π}

theorem event_eq_of_writes {register : Register} {payload : List UInt8}
    (h : call.Writes register payload) : call.event after = writeEvent after payload register := by
  obtain ⟨offset, rfl, hregister⟩ := h
  simp only [event, hregister]

/-- Every event but a completion and a read of the interrupt status is that of a write. -/
theorem writes_of_event {event : Event} (h : call.event after = event) (hother : event ≠ .other)
    (hcompleted : event ≠ .completed) (hisr : event ≠ .isrRead) :
    ∃ register payload, call.Writes register payload ∧
      writeEvent after payload register = event := by
  cases call with
  | read offset length =>
      simp only [Call.event] at h
      split_ifs at h
      · exact absurd h.symm hisr
      · exact absurd h.symm hother
  | process service => exact absurd h.symm hcompleted
  | write offset payload =>
      cases hregister : Register.find? offset payload.length with
      | none =>
          simp only [Call.event, hregister] at h
          exact absurd h.symm hother
      | some register =>
          have hwrites : (Call.write offset payload : Call π).Writes register payload :=
            ⟨offset, rfl, hregister⟩
          exact ⟨register, payload, hwrites, (event_eq_of_writes hwrites).symm.trans h⟩

theorem writes_of_event_eq_status {requested : UInt8} (h : call.event after = .status requested) :
    ∃ payload, call.Writes .deviceStatus payload ∧ payload.getD 0 0 = requested := by
  obtain ⟨register, payload, hwrites, hevent⟩ := writes_of_event h nofun nofun nofun
  cases register <;> simp only [writeEvent, reduceCtorEq] at hevent <;> split_ifs at hevent
  exact ⟨payload, hwrites, Event.status.inj hevent⟩

theorem writes_of_event_eq_disable (h : call.event after = .disable) :
    ∃ payload, call.Writes .queueEnable payload ∧ u16OfBytes payload = 0 := by
  obtain ⟨register, payload, hwrites, hevent⟩ := writes_of_event h nofun nofun nofun
  cases register <;> simp only [writeEvent, reduceCtorEq] at hevent <;>
    split_ifs at hevent with hvalue
  exact ⟨payload, hwrites, hvalue⟩

end Call

/-! ### Devices -/

/-- The writes that a device must not refuse: a status with its guard, and the disabling of the
selected queue. -/
def Transport.MustAccept (valid : UInt64 → Bool) (t : Transport) (payload : List UInt8) :
    Register → Prop
  | .deviceStatus => t.AcceptsStatus valid (payload.getD 0 0)
  | .queueEnable => u16OfBytes payload = 0 ∧ t.queueSelect = 0
  | _ => False

/-- A device with states `D` that is served with a `π`: whether a call succeeds and the state after
it.  Every call realises its event, and the writes that must be accepted succeed. -/
structure TransportDevice (D π : Type) where
  transport : D → Transport
  valid : UInt64 → Bool
  run : D → Call π → Bool × D
  realises : ∀ d call, (transport d).Realises valid
    (if (run d call).1 then call.event (transport (run d call).2) else .other)
    (transport (run d call).2)
  accepts : ∀ d call register payload, call.Writes register payload →
    (transport d).MustAccept valid payload register → (run d call).1 = true

namespace TransportDevice

variable {D π : Type} (m : TransportDevice D π)

/-- The state after a call. -/
def step (d : D) (call : Call π) : D := (m.run d call).2

/-- The event of a call.  A call that fails shows nothing. -/
def event (d : D) (call : Call π) : Event :=
  if (m.run d call).1 then call.event (m.transport (m.step d call)) else .other

/-- The state after a run. -/
def reach (d : D) (calls : List (Call π)) : D := runSteps m.step d calls

/-- The events of a run. -/
def events (d : D) (calls : List (Call π)) : List Event := eventsOf m.step m.event d calls

/-- The events of a run, with the transport after each. -/
def history (d : D) (calls : List (Call π)) : List (Event × Transport) :=
  eventsOf m.step (fun d call => (m.event d call, m.transport (m.step d call))) d calls

/-- The transport at the last accepted notification of a history. -/
def lastNotified (history : List (Event × Transport)) : Option Transport :=
  history.foldl (fun accepted entry => Transport.noteNotified accepted entry.1 entry.2) none

variable {m} {d : D}

theorem reach_append (m : TransportDevice D π) (d : D) (ran later : List (Call π)) :
    m.reach d (ran ++ later) = m.reach (m.reach d ran) later :=
  List.foldl_append

theorem realises_step (m : TransportDevice D π) (d : D) (call : Call π) :
    (m.transport d).Realises m.valid (m.event d call) (m.transport (m.step d call)) :=
  m.realises d call

theorem call_event_of_event {call : Call π} {event : Event} (h : m.event d call = event)
    (hother : event ≠ .other) : call.event (m.transport (m.step d call)) = event := by
  unfold TransportDevice.event at h
  split_ifs at h
  · exact h
  · exact absurd h.symm hother

theorem transport_step_of_writes {call : Call π} {register : Register} {payload : List UInt8}
    (hwrites : call.Writes register payload) (hok : (m.run d call).1 = true) :
    m.transport (m.step d call) = (m.transport d).next m.valid
      (writeEvent (m.transport (m.step d call)) payload register) := by
  rw [← Call.event_eq_of_writes hwrites]
  have hnext := (m.realises_step d call).2
  rwa [event, if_pos hok] at hnext

/-! ### Bookkeeping -/

theorem bookkeeping_step {events : List Event} {call : Call π}
    (h : Bookkeeping (.ofEvents events) (m.transport d)) :
    Bookkeeping (.ofEvents (events ++ [m.event d call])) (m.transport (m.step d call)) := by
  obtain ⟨hallows, hnext⟩ := m.realises_step d call
  rw [Ledger.ofEvents_concat, hnext]
  exact h.next hallows

/-- The bookkeeping of the queue after a run: the indices, the slots they name, the pending
notification and the interrupt, and that no call changes the settings of an enabled queue. -/
structure KeepsBooks (m : TransportDevice D π) (d : D) (calls : List (Call π)) : Prop where
  bookkeeping : Bookkeeping (.ofEvents (m.events d calls)) (m.transport (m.reach d calls))
  availSlot : let t := m.transport (m.reach d calls)
    (t.lastAvailIdx % t.queueSize).toNat =
      (Ledger.ofEvents (m.events d calls)).completions % t.queueSize.toNat
  usedSlot : let t := m.transport (m.reach d calls)
    (t.lastUsedIdx % t.queueSize).toNat =
      (Ledger.ofEvents (m.events d calls)).completions % t.queueSize.toNat
  locked : ∀ call, (m.transport (m.reach d calls)).queueEnabled = true →
    (m.transport (m.reach d (calls ++ [call]))).queueEnabled = true →
      (m.transport (m.reach d (calls ++ [call]))).config = (m.transport (m.reach d calls)).config

theorem config_step {call : Call π} (hbefore : (m.transport d).queueEnabled = true)
    (hafter : (m.transport (m.step d call)).queueEnabled = true) :
    (m.transport (m.step d call)).config = (m.transport d).config := by
  obtain ⟨hallows, hnext⟩ := m.realises_step d call
  rw [hnext] at hafter ⊢
  refine Transport.config_next hallows hbefore fun hreset => ?_
  rw [hreset] at hafter
  exact Bool.noConfusion hafter

/-- **Bookkeeping along runs.** -/
theorem keepsBooks_run (hd : m.transport d = .new) (calls : List (Call π)) :
    m.KeepsBooks d calls := by
  have hbooks : Bookkeeping (.ofEvents (m.events d calls)) (m.transport (m.reach d calls)) := by
    have hinit : Bookkeeping (.ofEvents []) (m.transport d) := hd ▸ bookkeeping_new
    exact @history_invariant D (Call π) Event m.step m.event d
      (fun events d => Bookkeeping (.ofEvents events) (m.transport d)) hinit
      (fun _ _ _ h => bookkeeping_step h) calls
  refine ⟨hbooks, hbooks.slot hbooks.avail, hbooks.slot hbooks.used, fun call hbefore hafter => ?_⟩
  rw [reach, runSteps_concat] at hafter ⊢
  exact config_step hbefore hafter

/-! ### The status handshake -/

/-- The status handshake along a run: the status bits are nested after every part of it, and
negotiated features change only with a reset. -/
structure Handshake (m : TransportDevice D π) (d : D) (calls : List (Call π)) : Prop where
  nested : ∀ ran, ran <+: calls → (m.transport (m.reach d ran)).Nested m.valid
  locked : ∀ ran later, ran ++ later <+: calls →
    (m.transport (m.reach d ran)).status &&& virtioStatusFeaturesOk ≠ 0 →
    Event.reset ∉ m.events (m.reach d ran) later →
    (m.transport (m.reach d (ran ++ later))).driverFeatures =
      (m.transport (m.reach d ran)).driverFeatures

/-- The call asks for `DRIVER_OK` together with features that are not valid. -/
def AsksEarly (m : TransportDevice D π) (d : D) (call : Call π) : Prop :=
  ∃ payload, call.Writes .deviceStatus payload ∧
    (m.transport d).EarlyDriverOk m.valid (payload.getD 0 0)

theorem nested_step {call : Call π} (h : (m.transport d).Nested m.valid)
    (hearly : ¬ m.AsksEarly d call) : (m.transport (m.step d call)).Nested m.valid := by
  obtain ⟨hallows, hnext⟩ := m.realises_step d call
  rw [hnext]
  refine h.next hallows fun requested hevent hasks => hearly ?_
  obtain ⟨payload, hwrites, rfl⟩ :=
    Call.writes_of_event_eq_status (call_event_of_event hevent nofun)
  exact ⟨payload, hwrites, hasks⟩

theorem not_nested_step {call : Call π} (hearly : m.AsksEarly d call) :
    ¬ (m.transport (m.step d call)).Nested m.valid := by
  obtain ⟨payload, hwrites, hasks⟩ := hearly
  have hok := m.accepts d call .deviceStatus payload hwrites hasks.accepts
  rw [transport_step_of_writes hwrites hok, writeEvent, if_neg hasks.accepts.ne_zero]
  exact hasks.not_nested

theorem featuresValid_step {call : Call π} (h : (m.transport d).FeaturesValid m.valid) :
    (m.transport (m.step d call)).FeaturesValid m.valid := by
  obtain ⟨hallows, hnext⟩ := m.realises_step d call
  rw [hnext]
  exact Transport.featuresValid_next h hallows

theorem featuresValid_run (hd : m.transport d = .new) (calls : List (Call π)) :
    (m.transport (m.reach d calls)).FeaturesValid m.valid := by
  have hinit : (m.transport d).FeaturesValid m.valid := hd ▸ fun hset => absurd rfl hset
  have hstep : ∀ d call, (m.transport d).FeaturesValid m.valid →
      (m.transport (m.step d call)).FeaturesValid m.valid := fun _ _ h => featuresValid_step h
  exact runSteps_invariant hstep calls hinit

theorem statusBits_run (hd : m.transport d = .new) (calls : List (Call π)) :
    (m.transport (m.reach d calls)).StatusBits := by
  have hinit : (m.transport d).StatusBits := hd ▸ Transport.statusBits_new
  have hstep : ∀ d call, (m.transport d).StatusBits → (m.transport (m.step d call)).StatusBits := by
    intro d call h
    obtain ⟨hallows, hnext⟩ := m.realises_step d call
    rw [hnext]
    exact h.next hallows
  exact runSteps_invariant hstep calls hinit

theorem features_locked_run (hvalid : (m.transport d).FeaturesValid m.valid)
    (hset : (m.transport d).status &&& virtioStatusFeaturesOk ≠ 0) (later : List (Call π))
    (hreset : Event.reset ∉ m.events d later) :
    (m.transport (m.reach d later)).driverFeatures = (m.transport d).driverFeatures := by
  induction later generalizing d with
  | nil => rfl
  | cons call later ih =>
      obtain ⟨hfirst, hrest⟩ := not_or.mp (mt List.mem_cons.mpr hreset)
      obtain ⟨hallows, hnext⟩ := m.realises_step d call
      obtain ⟨hset', hsame⟩ :=
        Transport.features_locked_next hvalid hallows hset (Ne.symm hfirst)
      rw [← hnext] at hset' hsame
      exact (ih (featuresValid_step hvalid) hset' hrest).trans hsame

/-- **The status handshake along runs** holds exactly when no call asks early. -/
theorem handshake_run_iff (hd : m.transport d = .new) (calls : List (Call π)) :
    m.Handshake d calls ↔
      ∀ ran call, ran ++ [call] <+: calls → ¬ m.AsksEarly (m.reach d ran) call := by
  have hnested : (∀ ran, ran <+: calls → (m.transport (m.reach d ran)).Nested m.valid) ↔
      ∀ ran call, ran ++ [call] <+: calls → ¬ m.AsksEarly (m.reach d ran) call :=
    @always_iff_never D (Call π) Event m.step m.event d
      (fun _ d => (m.transport d).Nested m.valid) (fun _ d => (m.transport d).Nested m.valid)
      m.AsksEarly (hd ▸ Transport.nested_new) (fun _ _ h => h)
      (fun _ _ _ h hearly => nested_step h hearly)
      (fun _ _ _ _ hearly => not_nested_step hearly) calls
  refine ⟨fun h => hnested.mp h.nested, fun h => ⟨hnested.mpr h, ?_⟩⟩
  intro ran later _ hset hreset
  rw [reach_append]
  exact features_locked_run (featuresValid_run hd ran) hset later hreset

/-! ### Pending notifications -/

/-- After the calls, a pending notification belongs to a ready queue with the settings of the
notification. -/
def PendingReadyAfter (m : TransportDevice D π) (d : D) (calls : List (Call π)) : Prop :=
  (m.transport (m.reach d calls)).PendingReady m.valid (lastNotified (m.history d calls))

/-- The call disables the queue while a notification is pending. -/
def DisablesPending (m : TransportDevice D π) (d : D) (call : Call π) : Prop :=
  ∃ payload, call.Writes .queueEnable payload ∧ u16OfBytes payload = 0 ∧
    (m.transport d).queueSelect = 0 ∧ (m.transport d).notifyPending = true

theorem lastNotified_concat (history : List (Event × Transport)) (entry : Event × Transport) :
    lastNotified (history ++ [entry]) =
      Transport.noteNotified (lastNotified history) entry.1 entry.2 :=
  List.foldl_append

theorem pendingReady_step {call : Call π} {history : List (Event × Transport)}
    (h : (m.transport d).PendingReady m.valid (lastNotified history))
    (hdisables : ¬ m.DisablesPending d call) :
    (m.transport (m.step d call)).PendingReady m.valid
      (lastNotified (history ++ [(m.event d call, m.transport (m.step d call))])) := by
  obtain ⟨hallows, hnext⟩ := m.realises_step d call
  rw [lastNotified_concat, hnext]
  refine h.next hallows fun hevent => Bool.eq_false_iff.mpr fun hpending => hdisables ?_
  have hselected : (m.transport d).queueSelect = 0 := by
    rw [show m.event d call = .disable from hevent] at hallows
    exact hallows
  obtain ⟨payload, hwrites, hvalue⟩ :=
    Call.writes_of_event_eq_disable (call_event_of_event hevent nofun)
  exact ⟨payload, hwrites, hvalue, hselected, hpending⟩

theorem not_pendingReady_step {call : Call π} {accepted : Option Transport}
    (hdisables : m.DisablesPending d call) :
    ¬ (m.transport (m.step d call)).PendingReady m.valid accepted := by
  obtain ⟨payload, hwrites, hvalue, hselected, hpending⟩ := hdisables
  have hok := m.accepts d call .queueEnable payload hwrites ⟨hvalue, hselected⟩
  rw [transport_step_of_writes hwrites hok, writeEvent, if_pos hvalue]
  exact Transport.not_pendingReady_disable hpending

/-- **Pending notifications along runs** belong to ready queues exactly when no call disables the
queue while one is pending. -/
theorem pendingReady_run_iff (hd : m.transport d = .new) (calls : List (Call π)) :
    (∀ ran, ran <+: calls → m.PendingReadyAfter d ran) ↔
      ∀ ran call, ran ++ [call] <+: calls → ¬ m.DisablesPending (m.reach d ran) call := by
  have hinit : (m.transport d).PendingReady m.valid (lastNotified []) := hd ▸ nofun
  exact @always_iff_never D (Call π) (Event × Transport) m.step
    (fun d call => (m.event d call, m.transport (m.step d call))) d
    (fun history d => (m.transport d).PendingReady m.valid (lastNotified history))
    (fun history d => (m.transport d).PendingReady m.valid (lastNotified history))
    m.DisablesPending hinit (fun _ _ h => h)
    (fun _ _ _ h hdisables => pendingReady_step h hdisables)
    (fun _ _ _ _ hdisables => not_pendingReady_step hdisables) calls

end TransportDevice

end MiniHypervisor.Virtio
