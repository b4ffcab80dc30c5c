import MiniHypervisor.Checkpoint.Operations
import MiniHypervisor.Control.Triples
import Mathlib.Data.Set.Insert

/-!
# Reconstructing host registrations

The host registers two things in KVM for a device: an ioeventfd, which turns a doorbell write of the
guest into an event, and an irqfd, which turns an event into an interrupt
(`src/kvm/host_registration.rs`, `src/kvm/irqfd_timer.rs`, `src/kvm/ioeventfd_roundtrip.rs`).  A
checkpoint keeps only their descriptors, and a restore registers them again, for a pair of devices
(`src/kvm/host_registration_pair.rs`).  Each registration takes several steps that can fail after
something has been registered, and what has been registered is then removed.

The operations of the host and of KVM are a parameter, with any outcomes.  What they register is
read through an observation of their state.
-/

namespace MiniHypervisor.Checkpoint

open Bytes Control Kvm

/-! ### Requests -/

def kvmIrqfdFlagDeassign : UInt32 := 1

def kvmIoeventfdFlagDatamatch : UInt32 := 1

def kvmIoeventfdFlagDeassign : UInt32 := 4

structure KvmIrqfd where
  fd : UInt32
  gsi : UInt32
  flags : UInt32
  resamplefd : UInt32
  pad : FixedBytes 16
  deriving DecidableEq, Repr

def KvmIrqfd.assign (fd gsi : UInt32) : KvmIrqfd := ⟨fd, gsi, 0, 0, .zeros _⟩

def KvmIrqfd.deassign (fd gsi : UInt32) : KvmIrqfd := ⟨fd, gsi, kvmIrqfdFlagDeassign, 0, .zeros _⟩

structure KvmIoEventFd where
  datamatch : UInt64
  addr : UInt64
  len : UInt32
  fd : Int32
  flags : UInt32
  pad : FixedBytes 36
  deriving DecidableEq, Repr

/-- The request for the doorbell of a descriptor. -/
def KvmIoEventFd.doorbell (spec : HostRegistrationSpec) (fd : Int32) (flags : UInt32) :
    KvmIoEventFd :=
  ⟨spec.doorbellDatamatch, spec.doorbellAddress, spec.doorbellLength, fd, flags, .zeros _⟩

/-- The operations of the host and of KVM on a state of type `σ`; one that fails does so with the
text of an `io::Error`.  A poll returns the events of the descriptor, if any; interrupted polls are
repeated before it returns. -/
structure HostOps (σ : Type) where
  checkExtension : Int32 → EStateM String σ Int32
  setIrqLine : UInt32 → Bool → EStateM String σ Unit
  eventfd : EStateM String σ Int32
  dup : Int32 → EStateM String σ Int32
  setIrqfd : KvmIrqfd → EStateM String σ Unit
  setIoeventfd : KvmIoEventFd → EStateM String σ Unit
  poll : Int32 → EStateM String σ (Option UInt16)

variable {σ : Type} (host : HostOps σ)

/-- `host_registration_error_with_source`. -/
def registrationError (operation source : String) : Error :=
  .hostEnvironment (hostRegistrationError operation source)

/-! ### Capabilities and interrupt lines -/

/-- The check that an extension is there. -/
def requireCapability (name : String) (id : Int32) : EStateM Error σ Unit := do
  let value ← orElseError
    (fun source => .hostEnvironment (.io ("KVM_CHECK_EXTENSION " ++ name) source))
    (host.checkExtension id)
  reads fun _ => rejectIf (value ≤ 0) (.kvmCapability (.missingExtension name id))

/-- `require_irqfd_capability` (`irqfd_timer.rs`, lines 168-187). -/
def requireIrqfdCapability : EStateM Error σ Unit := requireCapability host "KVM_CAP_IRQFD" 32

/-- `require_ioeventfd_capability` (`ioeventfd_roundtrip.rs`, lines 435-454). -/
def requireIoeventfdCapability : EStateM Error σ Unit :=
  requireCapability host "KVM_CAP_IOEVENTFD" 36

/-- `Vm::set_gsi_level` (`irqchip.rs`, lines 285-294). -/
def setGsiLevel (gsi : UInt32) (asserted : Bool) : EStateM Error σ Unit :=
  orElseError
    (registrationError (if asserted then "KVM_IRQ_LINE assert" else "KVM_IRQ_LINE deassert"))
    (host.setIrqLine gsi asserted)

/-! ### Events -/

structure EventFd where
  fd : Int32
  deriving DecidableEq, Repr

namespace EventFd

/-- `EventFd::new` (lines 43-52). -/
def new : EStateM String σ EventFd := do
  let fd ← host.eventfd
  return ⟨fd⟩

/-- `EventFd::duplicate` (lines 54-63). -/
def duplicate (eventfd : EventFd) : EStateM String σ EventFd := do
  let fd ← host.dup eventfd.fd
  return ⟨fd⟩

/-- `EventFd::raw_u32` (lines 65-72). -/
def rawU32 (eventfd : EventFd) : Except String UInt32 :=
  if eventfd.fd < 0 then
    .error "eventfd descriptor unexpectedly did not fit the KVM u32 fd field"
  else .ok eventfd.fd.toUInt32

end EventFd

def pollIn : UInt16 := 1

/-- `POLLERR | POLLHUP | POLLNVAL`. -/
def pollTerminal : UInt16 := 0x38

/-- `eventfd_pending` (lines 202-230). -/
def eventfdPending (eventfd : EventFd) : EStateM String σ Bool := do
  match ← host.poll eventfd.fd with
  | none => return false
  | some revents => do
      reads fun _ => rejectIf (revents &&& pollTerminal ≠ 0)
        ("eventfd checkpoint-quiescence poll returned terminal revents " ++ hexText revents.toNat)
      return revents &&& pollIn != 0

/-! ### One interrupt line -/

structure IrqfdTimerRegistration where
  eventfd : EventFd
  gsi : UInt32
  deriving DecidableEq, Repr

namespace IrqfdTimerRegistration

/-- `IrqfdTimerRegistration::assign_with_signal` (lines 113-122). -/
def assignWithSignal (gsi : UInt32) : EStateM String σ (IrqfdTimerRegistration × EventFd) := do
  let eventfd ← EventFd.new host
  let signal ← eventfd.duplicate host
  let fd ← reads fun _ => eventfd.rawU32
  host.setIrqfd (.assign fd gsi)
  return (⟨eventfd, gsi⟩, signal)

/-- `IrqfdTimerRegistration::deassign` (lines 124-127). -/
def deassign (registration : IrqfdTimerRegistration) : EStateM String σ Unit := do
  let fd ← reads fun _ => registration.eventfd.rawU32
  host.setIrqfd (.deassign fd registration.gsi)

end IrqfdTimerRegistration

/-! ### One device -/

structure ReconstructedHostRegistrations where
  spec : HostRegistrationSpec
  doorbellEventfd : EventFd
  doorbellReader : EventFd
  irqfdRegistration : IrqfdTimerRegistration
  irqSignal : EventFd
  deriving DecidableEq, Repr

namespace ReconstructedHostRegistrations

/-- `ReconstructedHostRegistrations::reconstruct` (lines 102-153). -/
def reconstruct (spec : HostRegistrationSpec) :
    EStateM Error σ ReconstructedHostRegistrations := do
  requireIrqfdCapability host
  requireIoeventfdCapability host
  setGsiLevel host spec.gsi false
  let doorbellEventfd ← orElseError (registrationError "create reconstructed ioeventfd eventfd")
    (EventFd.new host)
  let doorbellReader ← orElseError (registrationError "duplicate reconstructed ioeventfd reader")
    (doorbellEventfd.duplicate host)
  let ⟨irqfdRegistration, irqSignal⟩ ← orElseError
    (registrationError "assign reconstructed KVM_IRQFD")
    (IrqfdTimerRegistration.assignWithSignal host spec.gsi)
  match ← attempt (host.setIoeventfd
    (.doorbell spec doorbellEventfd.fd kvmIoeventfdFlagDatamatch)) with
  | .ok _ => return { spec, doorbellEventfd, doorbellReader, irqfdRegistration, irqSignal }
  | .error source => do
      match ← attempt (irqfdRegistration.deassign host) with
      | .ok _ => throw (registrationError "assign reconstructed KVM_IOEVENTFD" source)
      | .error cleanup => throw (registrationError
          "cleanup reconstructed irqfd after ioeventfd assign failure" cleanup)

variable (registrations : ReconstructedHostRegistrations)

/-- `ReconstructedHostRegistrations::doorbell_pending` (lines 161-168). -/
def doorbellPending : EStateM Error σ Bool :=
  orElseError (registrationError "probe reconstructed ioeventfd checkpoint quiescence")
    (eventfdPending host registrations.doorbellReader)

/-- `ReconstructedHostRegistrations::deassign` (lines 176-199). -/
def deassign : EStateM Error σ Unit := do
  let ioeventfdResult ← attempt (host.setIoeventfd
    (.doorbell registrations.spec registrations.doorbellEventfd.fd
      (kvmIoeventfdFlagDatamatch ||| kvmIoeventfdFlagDeassign)))
  let irqfdResult ← attempt (registrations.irqfdRegistration.deassign host)
  match ioeventfdResult, irqfdResult with
  | .ok _, .ok _ => return ()
  | .error source, _ => throw (registrationError "deassign reconstructed KVM_IOEVENTFD" source)
  | .ok _, .error source => throw (registrationError "deassign reconstructed KVM_IRQFD" source)

end ReconstructedHostRegistrations

/-! ### A pair of devices -/

structure ReconstructedHostRegistrationPair where
  registrations : ReconstructedHostRegistrations × ReconstructedHostRegistrations
  deriving DecidableEq, Repr

namespace ReconstructedHostRegistrationPair

/-- `ReconstructedHostRegistrationPair::reconstruct` (lines 71-95). -/
def reconstruct (pair : HostRegistrationSpecPair) :
    EStateM Error σ ReconstructedHostRegistrationPair := do
  let first ← ReconstructedHostRegistrations.reconstruct host pair.specs.1
  match ← attempt (ReconstructedHostRegistrations.reconstruct host pair.specs.2) with
  | .ok second => return ⟨first, second⟩
  | .error secondError => do
      match ← attempt (first.deassign host) with
      | .ok _ => throw secondError
      | .error cleanupError => throw (registrationError
          "rollback first host registration after second reconstruction failure"
          ("second reconstruction failed: " ++ Error.text secondError ++
            "; first rollback also failed: " ++ Error.text cleanupError))

variable (pair : ReconstructedHostRegistrationPair)

/-- `ReconstructedHostRegistrationPair::pending_doorbells` (lines 121-126). -/
def pendingDoorbells : EStateM Error σ (Bool × Bool) := do
  let first ← pair.registrations.1.doorbellPending host
  let second ← pair.registrations.2.doorbellPending host
  return (first, second)

/-- `ReconstructedHostRegistrationPair::require_checkpoint_quiescent` (lines 128-139). -/
def requireCheckpointQuiescent : EStateM Error σ Unit := do
  let pending ← pair.pendingDoorbells host
  reads fun _ => rejectIf (pending ≠ (false, false))
    (registrationError "validate host-registration pair checkpoint quiescence"
      ("accelerated ioeventfd doorbells remain pending: [" ++ toString pending.1 ++ ", " ++
        toString pending.2 ++
        "]; service or explicitly cancel them before checkpoint capture"))

/-- `ReconstructedHostRegistrationPair::deassign` (lines 141-155). -/
def deassign : EStateM Error σ Unit := do
  let secondResult ← attempt (pair.registrations.2.deassign host)
  let firstResult ← attempt (pair.registrations.1.deassign host)
  match secondResult, firstResult with
  | .ok _, .ok _ => return ()
  | .error error, .ok _ => throw error
  | .ok _, .error error => throw error
  | .error secondError, .error firstError => throw (registrationError
      "deassign reconstructed host registration pair"
      ("second registration cleanup failed: " ++ Error.text secondError ++
        "; first registration cleanup failed: " ++ Error.text firstError))

end ReconstructedHostRegistrationPair

/-! ### What is registered -/

/-- An irqfd or an ioeventfd that is registered in KVM. -/
inductive Registration where
  | irqfd (fd gsi : UInt32)
  | ioeventfd (fd : Int32) (address : UInt64) (length : UInt32) (datamatch : UInt64)
  deriving DecidableEq, Repr

/-- The registration is for the interrupt line or the doorbell of a descriptor. -/
def Registration.Concerns (spec : HostRegistrationSpec) : Registration → Prop
  | irqfd _ gsi => gsi = spec.gsi
  | ioeventfd _ address length datamatch => address = spec.doorbellAddress ∧
      length = spec.doorbellLength ∧ datamatch = spec.doorbellDatamatch

/-- The ioeventfd of a descriptor. -/
def doorbellEntry (spec : HostRegistrationSpec) (fd : Int32) : Registration :=
  .ioeventfd fd spec.doorbellAddress spec.doorbellLength spec.doorbellDatamatch

/-- Nothing is registered for a descriptor. -/
def Unregistered (spec : HostRegistrationSpec) (registered : Set Registration) : Prop :=
  ∀ entry ∈ registered, ¬ entry.Concerns spec

/-- `registered` shows what is registered: an assignment that succeeds registers what it names and
one that fails registers nothing, removing what is registered succeeds and removes exactly that, and
the other operations change nothing. -/
structure Tracks (registered : σ → Set Registration) : Prop where
  checkExtension (id : Int32) : Keeps registered (host.checkExtension id)
  setIrqLine (gsi : UInt32) (level : Bool) : Keeps registered (host.setIrqLine gsi level)
  eventfd : Keeps registered host.eventfd
  dup (fd : Int32) : Keeps registered (host.dup fd)
  poll (fd : Int32) : Keeps registered (host.poll fd)
  assignIrqfd (fd gsi : UInt32) (entries : Set Registration) :
    Ensures (fun s => registered s = entries) (host.setIrqfd (.assign fd gsi))
      (fun _ s => registered s = insert (.irqfd fd gsi) entries) fun s => registered s = entries
  deassignIrqfd (fd gsi : UInt32) (s : σ) (h : .irqfd fd gsi ∈ registered s) :
    ∃ s', (host.setIrqfd (.deassign fd gsi)).run s = .ok () s' ∧
      registered s' = registered s \ {.irqfd fd gsi}
  assignIoeventfd (spec : HostRegistrationSpec) (fd : Int32) (entries : Set Registration) :
    Ensures (fun s => registered s = entries)
      (host.setIoeventfd (.doorbell spec fd kvmIoeventfdFlagDatamatch))
      (fun _ s => registered s = insert (doorbellEntry spec fd) entries)
      fun s => registered s = entries
  deassignIoeventfd (spec : HostRegistrationSpec) (fd : Int32) (s : σ)
    (h : doorbellEntry spec fd ∈ registered s) :
    ∃ s', (host.setIoeventfd (.doorbell spec fd
        (kvmIoeventfdFlagDatamatch ||| kvmIoeventfdFlagDeassign))).run s = .ok () s' ∧
      registered s' = registered s \ {doorbellEntry spec fd}

/-- The irqfd of a registration. -/
def IrqfdTimerRegistration.entry (registration : IrqfdTimerRegistration) : Registration :=
  .irqfd registration.eventfd.fd.toUInt32 registration.gsi

namespace ReconstructedHostRegistrations

/-- The ioeventfd and the irqfd of a device. -/
def entries (registrations : ReconstructedHostRegistrations) : Set Registration :=
  {doorbellEntry registrations.spec registrations.doorbellEventfd.fd,
    registrations.irqfdRegistration.entry}

/-- The registrations are those of a descriptor. -/
structure For (registrations : ReconstructedHostRegistrations) (spec : HostRegistrationSpec) :
    Prop where
  gsi : registrations.irqfdRegistration.gsi = spec.gsi
  spec : registrations.spec = spec
  fd : registrations.irqfdRegistration.eventfd.rawU32 =
    .ok registrations.irqfdRegistration.eventfd.fd.toUInt32

end ReconstructedHostRegistrations

/-- The four registrations of a pair. -/
def ReconstructedHostRegistrationPair.entries (pair : ReconstructedHostRegistrationPair) :
    Set Registration :=
  pair.registrations.1.entries ∪ pair.registrations.2.entries

section Tracking

variable {host} {registered : σ → Set Registration} {spec : HostRegistrationSpec}
  {R : Set Registration}

theorem ensures_orElseError {α : Type} {P E : σ → Prop} {Q : α → σ → Prop} {wrap : String → Error}
    {x : EStateM String σ α} (h : Ensures P x Q E) : Ensures P (orElseError wrap x) Q E :=
  .within h fun _ _ => rfl

theorem keeps_requireCapability (htracks : Tracks host registered) (name : String) (id : Int32) :
    Keeps registered (requireCapability host name id) :=
  Keeps.bind (.within_get (htracks.checkExtension id) (fun _ _ => rfl) fun _ => rfl) fun _ =>
    .reads _

theorem EventFd.eq_of_rawU32 {eventfd : EventFd} {fd : UInt32} (h : eventfd.rawU32 = .ok fd) :
    eventfd.fd.toUInt32 = fd := by
  unfold rawU32 at h
  split_ifs at h
  exact Except.ok.inj h

theorem ensures_assignWithSignal (htracks : Tracks host registered) (gsi : UInt32) :
    Ensures (fun s => registered s = R) (IrqfdTimerRegistration.assignWithSignal host gsi)
      (fun a s => (a.1.gsi = gsi ∧ a.1.eventfd.rawU32 = .ok a.1.eventfd.fd.toUInt32) ∧
        registered s = insert a.1.entry R)
      fun s => registered s = R := by
  have hnew : Keeps registered (EventFd.new host) := htracks.eventfd.bind fun _ => .pure _
  have hdup (eventfd : EventFd) : Keeps registered (eventfd.duplicate host) :=
    (htracks.dup _).bind fun _ => .pure _
  have hraw (eventfd : EventFd) : Ensures (fun s => registered s = R)
      (reads fun _ => eventfd.rawU32) (fun fd s => eventfd.rawU32 = .ok fd ∧ registered s = R)
      fun s => registered s = R := .reads (fun _ _ hs hfd => ⟨hfd, hs⟩) fun _ hs => hs
  refine (Ensures.of_keeps hnew).bind fun eventfd => (Ensures.of_keeps (hdup eventfd)).bind
    fun signal => (hraw eventfd).bind fun fd => .of_fact fun hfd => ?_
  obtain rfl := EventFd.eq_of_rawU32 hfd
  exact (htracks.assignIrqfd _ gsi R).bind fun _ => .pure fun _ hs => ⟨⟨rfl, hfd⟩, hs⟩

theorem IrqfdTimerRegistration.run_deassign (htracks : Tracks host registered)
    {registration : IrqfdTimerRegistration} {s : σ}
    (hfd : registration.eventfd.rawU32 = .ok registration.eventfd.fd.toUInt32)
    (hentry : registration.entry ∈ registered s) :
    ∃ s', (registration.deassign host).run s = .ok () s' ∧
      registered s' = registered s \ {registration.entry} := by
  obtain ⟨s', hrun, hs'⟩ := htracks.deassignIrqfd _ _ s hentry
  have hraw : (reads fun _ : σ => registration.eventfd.rawU32).run s = .ok _ s :=
    run_reads_of_ok hfd
  exact ⟨s', (run_bind_of_ok hraw).trans hrun, hs'⟩

namespace ReconstructedHostRegistrations

variable {registrations : ReconstructedHostRegistrations}

theorem For.concerns_of_mem (h : registrations.For spec) {entry : Registration}
    (hentry : entry ∈ registrations.entries) : entry.Concerns spec := by
  rcases hentry with rfl | rfl
  · rw [← h.spec]
    exact ⟨rfl, rfl, rfl⟩
  · exact h.gsi

theorem For.sdiff_entries (h : registrations.For spec) (hfree : Unregistered spec R) :
    R \ registrations.entries = R :=
  Set.ext fun entry => ⟨fun hdiff => hdiff.1, fun hR =>
    ⟨hR, fun hentry => hfree entry hR (h.concerns_of_mem hentry)⟩⟩

theorem run_deassign (htracks : Tracks host registered) (h : registrations.For spec) {s : σ}
    (hentries : registrations.entries ⊆ registered s) :
    ∃ s', (registrations.deassign host).run s = .ok () s' ∧
      registered s' = registered s \ registrations.entries := by
  obtain ⟨t, ht, htable⟩ := htracks.deassignIoeventfd registrations.spec
    registrations.doorbellEventfd.fd s (hentries (.inl rfl))
  have hirqfd : registrations.irqfdRegistration.entry ∈ registered t := by
    rw [htable]
    exact ⟨hentries (.inr rfl), nofun⟩
  obtain ⟨s', hs', htable'⟩ := IrqfdTimerRegistration.run_deassign htracks h.fd hirqfd
  refine ⟨s', ?_, ?_⟩
  · exact (run_bind_of_ok (run_attempt_of_ok ht)).trans (run_bind_of_ok (run_attempt_of_ok hs'))
  · rw [htable', htable, Set.sdiff_sdiff]
    rfl

/-- **A device is registered completely or not at all.** -/
theorem ensures_reconstruct (htracks : Tracks host registered) (hfree : Unregistered spec R) :
    Ensures (fun s => registered s = R) (reconstruct host spec)
      (fun registrations s => registrations.For spec ∧ registered s = registrations.entries ∪ R)
      fun s => registered s = R := by
  have hcapability (name : String) (id : Int32) :=
    Ensures.of_keeps (v := R) (keeps_requireCapability htracks name id)
  have hline : Ensures (fun s => registered s = R) (setGsiLevel host spec.gsi false)
      (fun _ s => registered s = R) fun s => registered s = R :=
    ensures_orElseError (.of_keeps (htracks.setIrqLine spec.gsi false))
  refine (hcapability _ _).bind fun _ => (hcapability _ _).bind fun _ => hline.bind fun _ => ?_
  have hnew : Keeps registered (EventFd.new host) := htracks.eventfd.bind fun _ => .pure _
  refine (ensures_orElseError (.of_keeps hnew)).bind fun eventfd => ?_
  have hdup : Keeps registered (eventfd.duplicate host) := (htracks.dup _).bind fun _ => .pure _
  refine (ensures_orElseError (.of_keeps hdup)).bind fun reader => ?_
  refine (ensures_orElseError (ensures_assignWithSignal htracks spec.gsi)).bind
    fun irqfd => .of_fact fun hirqfd => ?_
  refine (htracks.assignIoeventfd spec eventfd.fd _).attempt_bind (fun _ => ?_) fun source => ?_
  · refine .pure fun s hs => ⟨⟨hirqfd.1, rfl, hirqfd.2⟩, ?_⟩
    rw [hs, entries, Set.insert_union, Set.singleton_union]
  · -- the irqfd is removed again, and it was not there before
    have hnew : irqfd.1.entry ∉ R := fun hmem => hfree _ hmem hirqfd.1
    intro s hs
    obtain ⟨t, ht, htable⟩ := IrqfdTimerRegistration.run_deassign htracks hirqfd.2
      (hs ▸ Set.mem_insert _ _)
    rw [run_bind_of_ok (run_attempt_of_ok ht)]
    refine ⟨nofun, ?_⟩
    rintro _ _ ⟨⟩
    rw [htable, hs, Set.insert_sdiff_self_of_notMem hnew]

end ReconstructedHostRegistrations

variable {pair : HostRegistrationSpecPair}

theorem Registration.not_concerns_second {entry : Registration} (h : entry.Concerns pair.first) :
    ¬ entry.Concerns pair.second := by
  cases entry with
  | irqfd fd gsi => exact fun hsecond => pair.gsi_ne (h.symm.trans hsecond)
  | ioeventfd fd address length datamatch =>
      exact fun hsecond => UInt64.ne_of_lt pair.first_lt_second (h.1.symm.trans hsecond.1)

theorem ReconstructedHostRegistrations.For.unregistered_second
    {first : ReconstructedHostRegistrations} (h : first.For pair.first)
    (hsecond : Unregistered pair.second R) : Unregistered pair.second (first.entries ∪ R) := by
  rintro entry (hentry | hentry)
  · exact Registration.not_concerns_second (h.concerns_of_mem hentry)
  · exact hsecond entry hentry

namespace ReconstructedHostRegistrationPair

/-- The registrations are those of a pair of descriptors. -/
structure For (reconstructed : ReconstructedHostRegistrationPair)
    (pair : HostRegistrationSpecPair) : Prop where
  first : reconstructed.registrations.1.For pair.first
  second : reconstructed.registrations.2.For pair.second

/-- **A pair is registered completely or not at all.** -/
theorem ensures_reconstruct (htracks : Tracks host registered)
    (hfirst : Unregistered pair.first R) (hsecond : Unregistered pair.second R) :
    Ensures (fun s => registered s = R) (reconstruct host pair)
      (fun reconstructed s => reconstructed.For pair ∧ registered s = reconstructed.entries ∪ R)
      fun s => registered s = R := by
  refine (ReconstructedHostRegistrations.ensures_reconstruct htracks hfirst).bind
    fun first => .of_fact fun hfor => ?_
  refine (ReconstructedHostRegistrations.ensures_reconstruct htracks
    (hfor.unregistered_second hsecond)).attempt_bind (fun second => ?_) fun secondError => ?_
  · refine .pure fun s hs => ⟨⟨hfor, hs.1⟩, ?_⟩
    rw [hs.2, entries, Set.union_left_comm, Set.union_assoc]
  · -- only the first device is registered, and it was not before
    intro s hs
    obtain ⟨t, ht, htable⟩ := ReconstructedHostRegistrations.run_deassign htracks hfor
      (hs ▸ Set.subset_union_left)
    rw [run_bind_of_ok (run_attempt_of_ok ht)]
    refine ⟨nofun, ?_⟩
    rintro _ _ ⟨⟩
    rw [htable, hs, Set.union_sdiff_left, hfor.sdiff_entries hfirst]

variable {reconstructed : ReconstructedHostRegistrationPair}

theorem run_deassign (htracks : Tracks host registered) (h : reconstructed.For pair) {s : σ}
    (hs : registered s = reconstructed.entries ∪ R) (hfirst : Unregistered pair.first R)
    (hsecond : Unregistered pair.second R) :
    ∃ s', (reconstructed.deassign host).run s = .ok () s' ∧ registered s' = R := by
  rw [entries, Set.union_right_comm, Set.union_comm] at hs
  obtain ⟨t, ht, htable⟩ := ReconstructedHostRegistrations.run_deassign htracks h.second
    (hs ▸ Set.subset_union_left)
  rw [hs, Set.union_sdiff_left,
    h.second.sdiff_entries (h.first.unregistered_second hsecond)] at htable
  obtain ⟨s', hs', htable'⟩ := ReconstructedHostRegistrations.run_deassign htracks h.first
    (htable ▸ Set.subset_union_left)
  refine ⟨s', ?_, ?_⟩
  · exact (run_bind_of_ok (run_attempt_of_ok ht)).trans (run_bind_of_ok (run_attempt_of_ok hs'))
  · rw [htable', htable, Set.union_sdiff_left, h.first.sdiff_entries hfirst]

end ReconstructedHostRegistrationPair

end Tracking

end MiniHypervisor.Checkpoint
