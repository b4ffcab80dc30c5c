import MiniHypervisor.Checkpoint.Frame
import MiniHypervisor.Checkpoint.HostRegistrations
import MiniHypervisor.Checkpoint.TokenRestore

/-!
# Restoring a transaction and its host registrations

A transaction is a checkpoint of two vCPUs and two devices together with the descriptors of their
host registrations (`src/state_snapshot/page_set/two_vcpu_two_device_transaction.rs`).  Restoring it
restores the machine, registers the pair, checks that no doorbell is pending and verifies the
machine again.  What fails after the pair has been registered removes it, except for the last check
of the restores with a token, which looks at the token and the checkpoint again; it cannot fail,
since the bus has made the same check before it replaced the devices.

## Main results

* `registrations_do_not_leak` : the restores register the pair or nothing.
-/

namespace MiniHypervisor.Checkpoint

open Control Kvm Mmio Vcpu VirtioBlk

variable {σ α : Type}

def TwoDeviceCheckpointComparison.isExactMatch
    (comparison : TwoDeviceCheckpointComparison BoundedTwoVcpuFullControllerCheckpointComparison) :
    Bool :=
  comparison.controller.isExactMatch && comparison.allDevicesExact

structure TwoVcpuTwoDeviceCheckpointTransaction where
  checkpoint : BoundedTwoVcpuFullControllerTwoVirtioBlkCheckpoint
  registrations : HostRegistrationSpecPair

/-- An operation of the host. -/
def Machine.onHost (x : EStateM Error σ α) : EStateM Error (Machine σ) α :=
  Machine.onVm (Vm.onKvm x)

/-- The operations and details that a restore reports. -/
structure TransactionTexts where
  restore : String
  notExact : String
  reconstructionCleanup : String
  verificationCleanup : String
  verification : String
  changed : String
  cleanup : String

namespace TwoVcpuTwoDeviceCheckpointTransaction

variable (transaction : TwoVcpuTwoDeviceCheckpointTransaction) (ops : KvmOps σ) (host : HostOps σ)
  (first second : VcpuId)

/-- The removal of the pair after a failure. -/
def cleanUp (registrations : ReconstructedHostRegistrationPair) (operation detail : String)
    (error : Error) : EStateM Error (Machine σ) α := do
  match ← attempt (Machine.onHost (registrations.deassign host)) with
  | .ok _ => throw error
  | .error cleanupError =>
      throw (pageSetError operation
        (detail ++ "; cleanup also failed: " ++ Error.text cleanupError))

/-- A restore, the reconstruction of the pair, and the verification of both. -/
def restoreAndReconstructWith (texts : TransactionTexts)
    (restore : EStateM Error (Machine σ)
      (TwoDeviceCheckpointComparison BoundedTwoVcpuFullControllerCheckpointComparison)) :
    EStateM Error (Machine σ)
      (TwoDeviceCheckpointComparison BoundedTwoVcpuFullControllerCheckpointComparison ×
        ReconstructedHostRegistrationPair) := do
  let restored ← restore
  reads fun _ => rejectIf (restored.isExactMatch = false)
    (pageSetError texts.restore texts.notExact)
  let registrations ← Machine.onHost
    (ReconstructedHostRegistrationPair.reconstruct host transaction.registrations)
  match ← attempt (Machine.onHost (registrations.requireCheckpointQuiescent host)) with
  | .error error =>
      cleanUp host registrations texts.reconstructionCleanup
        ("reconstructed pair was not quiescent: " ++ Error.text error) error
  | .ok _ => do
      match ← attempt (BoundedTwoVcpuFullControllerTwoVirtioBlkCheckpoint.verify
        transaction.checkpoint ops first second) with
      | .error error =>
          cleanUp host registrations texts.verificationCleanup
            ("post-registration verification failed: " ++ Error.text error) error
      | .ok postReconstruction =>
          if postReconstruction.isExactMatch = false then
            cleanUp host registrations texts.cleanup
              "registration reconstruction changed restored state"
              (pageSetError texts.verification texts.changed)
          else return (postReconstruction, registrations)

/-- `TwoVcpuTwoDeviceCheckpointTransaction::restore_and_reconstruct` (lines 403-471). -/
def restoreAndReconstruct := transaction.restoreAndReconstructWith ops host first second
  { restore := "two-vCPU two-device transaction restore"
    notExact := "checkpoint did not verify exactly; host registrations were not reconstructed"
    reconstructionCleanup := "two-vCPU two-device registration reconstruction cleanup"
    verificationCleanup := "two-vCPU two-device post-registration verification cleanup"
    verification := "two-vCPU two-device post-registration verification"
    changed := "reconstructing the host-registration pair changed restored checkpoint state"
    cleanup := "two-vCPU two-device post-registration cleanup" }
  (BoundedTwoVcpuFullControllerTwoVirtioBlkCheckpoint.restoreAndVerify transaction.checkpoint ops
    first second)

variable {kind : PendingKind} (token : PendingToken kind)

/-- What the texts of the restores with a token start with. -/
def pendingRestore (kind : PendingKind) : String :=
  "two-vCPU pending-" ++ MmioBus.pendingText kind

/-- The last check of the restores with a token. -/
def validateToken : Except Error Unit :=
  match transaction.checkpoint.device token.bar0 with
  | none => .error (pageSetError (pendingRestore kind ++ " restored token binding")
      ("token BAR " ++ hexText token.bar0.toNat ++ " disappeared"))
  | some device => (token.validateDevice device).mapError fun error =>
      pageSetError (pendingRestore kind ++ " restored token validation") error.text

/-- `restore_and_reconstruct_with_pending_notification` (lines 473-558) and
`restore_and_reconstruct_with_pending_completion` (lines 560-645). -/
def restoreAndReconstructWithPending := do
  let result ← transaction.restoreAndReconstructWith ops host first second
    { restore := pendingRestore kind ++ " transaction restore"
      notExact := "token-aware checkpoint did not verify exactly; " ++
        "host registrations were not reconstructed"
      reconstructionCleanup := pendingRestore kind ++ " reconstruction cleanup"
      verificationCleanup := pendingRestore kind ++ " post-registration cleanup"
      verification := pendingRestore kind ++ " post-registration verification"
      changed := "reconstructing host registrations changed token-aware restored state"
      cleanup := pendingRestore kind ++ " post-registration cleanup" }
    (BoundedTwoVcpuFullControllerTwoVirtioBlkCheckpoint.restoreAndVerifyWithPending
      transaction.checkpoint ops first second token)
  reads fun _ => transaction.validateToken token
  return result

/-! ### The token of a successful restore -/

variable {transaction ops host first second token}

theorem validateToken_of_admits
    (hconcerns : (TwoDeviceRestore.pending kind token).Concerns
      transaction.checkpoint.devices.1.1 transaction.checkpoint.devices.2.1)
    (hfirst : (TwoDeviceRestore.pending kind token).Admits transaction.checkpoint.devices.1)
    (hsecond : (TwoDeviceRestore.pending kind token).Admits transaction.checkpoint.devices.2) :
    transaction.validateToken token = .ok () := by
  unfold validateToken BoundedTwoDeviceCheckpoint.device
  by_cases hbar : transaction.checkpoint.devices.1.1 = token.bar0
  · have hvalid := hfirst.2
    rw [if_pos hbar] at hvalid
    rw [if_pos hbar]
    exact mapError_eq_ok.mpr hvalid.2
  · have hbar' : transaction.checkpoint.devices.2.1 = token.bar0 :=
      (hconcerns.resolve_left (Ne.symm hbar)).symm
    have hvalid := hsecond.2
    rw [if_pos hbar'] at hvalid
    rw [if_neg hbar, if_pos hbar']
    exact mapError_eq_ok.mpr hvalid.2

theorem validateToken_of_restore {machine machine' : Machine σ}
    {comparison : TwoDeviceCheckpointComparison BoundedTwoVcpuFullControllerCheckpointComparison}
    (h : (BoundedTwoVcpuFullControllerTwoVirtioBlkCheckpoint.restoreAndVerifyWithPending
      transaction.checkpoint ops first second token).run machine = .ok comparison machine') :
    transaction.validateToken token = .ok () := by
  obtain ⟨_, _, -, h⟩ := run_bind_eq_ok.mp h
  obtain ⟨_, restored, -, h⟩ := run_bind_eq_ok.mp h
  obtain ⟨_, _, hbus, -⟩ := run_bind_eq_ok.mp h
  obtain ⟨_, hbus, -⟩ := run_within_eq_ok.mp hbus
  rcases TwoDeviceRestore.run_cases (.pending kind token) restored.bus
    transaction.checkpoint.devices with ⟨e, herror⟩ | ⟨i, j, haccept, -⟩
  · rw [herror] at hbus
    cases hbus
  · obtain ⟨-, hconcerns, hfirst, hsecond, -⟩ := TwoDeviceRestore.accept_eq_ok.mp haccept
    exact validateToken_of_admits hconcerns hfirst hsecond

/-! ### What the restores register -/

section Tracking

variable {registered : σ → Set Registration} {R : Set Registration}

/-- What is registered in the KVM of a machine. -/
def registeredAt (registered : σ → Set Registration) (machine : Machine σ) : Set Registration :=
  registered machine.vm.kvm

theorem ensures_onHost {P E : σ → Prop} {Q : α → σ → Prop} {x : EStateM Error σ α}
    (h : Ensures P x Q E) :
    Ensures (fun machine : Machine σ => P machine.vm.kvm) (Machine.onHost x)
      (fun a machine => Q a machine.vm.kvm) fun machine => E machine.vm.kvm := by
  have hvm : Ensures (fun vm : Vm σ => P vm.kvm) (Vm.onKvm x) (fun a vm => Q a vm.kvm)
      fun vm => E vm.kvm := .within h fun _ _ => rfl
  exact .within hvm fun _ _ => rfl

variable (htracks : Tracks host registered)

include htracks

theorem run_deassign_onHost {reconstructed : ReconstructedHostRegistrationPair}
    (hfirst : Unregistered transaction.registrations.first R)
    (hsecond : Unregistered transaction.registrations.second R)
    (hfor : reconstructed.For transaction.registrations) {machine : Machine σ}
    (hmachine : registeredAt registered machine = reconstructed.entries ∪ R) :
    ∃ machine', (Machine.onHost (reconstructed.deassign host)).run machine = .ok () machine' ∧
      registeredAt registered machine' = R := by
  obtain ⟨s', hrun, hs'⟩ := reconstructed.run_deassign htracks hfor hmachine hfirst hsecond
  exact ⟨_, run_within_of_ok (run_within_of_ok hrun), hs'⟩

theorem ensures_cleanUp {reconstructed : ReconstructedHostRegistrationPair}
    (hfirst : Unregistered transaction.registrations.first R)
    (hsecond : Unregistered transaction.registrations.second R)
    (hfor : reconstructed.For transaction.registrations) {Q : α → Machine σ → Prop}
    (operation detail : String) (error : Error) :
    Ensures (fun machine => registeredAt registered machine = reconstructed.entries ∪ R)
      (cleanUp host reconstructed operation detail error) Q
      fun machine => registeredAt registered machine = R := by
  intro machine hmachine
  obtain ⟨machine', hrun, hmachine'⟩ :=
    run_deassign_onHost htracks hfirst hsecond hfor hmachine
  have hcleanUp : (cleanUp host reconstructed operation detail error :
      EStateM Error (Machine σ) α).run machine = .error error machine' :=
    run_bind_of_ok (run_attempt_of_ok hrun)
  rw [hcleanUp]
  refine ⟨nofun, ?_⟩
  rintro _ _ ⟨⟩
  exact hmachine'

theorem keeps_requireCheckpointQuiescent (reconstructed : ReconstructedHostRegistrationPair) :
    Keeps registered (reconstructed.requireCheckpointQuiescent host) := by
  have hpoll (eventfd : EventFd) : Keeps registered (eventfdPending host eventfd) := by
    refine (htracks.poll eventfd.fd).bind fun revents => ?_
    cases revents with
    | none => exact .pure _
    | some revents => exact .bind (.reads _) fun _ => .pure _
  have hpending (registrations : ReconstructedHostRegistrations) :
      Keeps registered (registrations.doorbellPending host) :=
    keeps_orElseError (hpoll _)
  refine Keeps.bind ?_ fun _ => .reads _
  exact (hpending _).bind fun _ => (hpending _).bind fun _ => .pure _

/-- **The pair is registered or nothing is**, if the restore of the machine changes nothing that is
registered; a fact that the restore establishes holds at the end. -/
theorem ensures_restoreAndReconstructWith (hops : ops.Spares registered)
    (hfirst : Unregistered transaction.registrations.first R)
    (hsecond : Unregistered transaction.registrations.second R) {fact : Prop}
    {texts : TransactionTexts} {restore : EStateM Error (Machine σ)
      (TwoDeviceCheckpointComparison BoundedTwoVcpuFullControllerCheckpointComparison)}
    (hrestore : Ensures (fun machine => registeredAt registered machine = R) restore
      (fun _ machine => fact ∧ registeredAt registered machine = R)
      fun machine => registeredAt registered machine = R) :
    Ensures (fun machine => registeredAt registered machine = R)
      (transaction.restoreAndReconstructWith ops host first second texts restore)
      (fun result machine => fact ∧ result.2.For transaction.registrations ∧
        registeredAt registered machine = result.2.entries ∪ R)
      fun machine => registeredAt registered machine = R := by
  refine hrestore.bind fun restored => .of_fact fun hfact => ?_
  refine (Ensures.of_keeps (.reads _)).bind fun _ => ?_
  refine (ensures_onHost (ReconstructedHostRegistrationPair.ensures_reconstruct htracks hfirst
    hsecond)).bind fun reconstructed => .of_fact fun hfor => ?_
  have hquiescent : Ensures
      (fun machine => registeredAt registered machine = reconstructed.entries ∪ R)
      (Machine.onHost (reconstructed.requireCheckpointQuiescent host))
      (fun _ machine => registeredAt registered machine = reconstructed.entries ∪ R)
      fun machine => registeredAt registered machine = reconstructed.entries ∪ R :=
    ensures_onHost (.of_keeps (keeps_requireCheckpointQuiescent htracks reconstructed))
  have hverify : Ensures
      (fun machine => registeredAt registered machine = reconstructed.entries ∪ R)
      (BoundedTwoVcpuFullControllerTwoVirtioBlkCheckpoint.verify transaction.checkpoint ops first
        second)
      (fun _ machine => registeredAt registered machine = reconstructed.entries ∪ R)
      fun machine => registeredAt registered machine = reconstructed.entries ∪ R :=
    .of_keeps (BoundedTwoVcpuFullControllerTwoVirtioBlkCheckpoint.keeps_verify hops first second
      transaction.checkpoint)
  refine hquiescent.attempt_bind (fun _ => hverify.attempt_bind (fun post => ?_) fun _ => ?_)
    fun _ => ?_
  · dsimp only
    split_ifs
    · exact ensures_cleanUp htracks hfirst hsecond hfor _ _ _
    · exact .pure fun machine hmachine => ⟨hfact, hfor, hmachine⟩
  · exact ensures_cleanUp htracks hfirst hsecond hfor _ _ _
  · exact ensures_cleanUp htracks hfirst hsecond hfor _ _ _

theorem ensures_restoreAndReconstruct (hops : ops.Spares registered)
    (hfirst : Unregistered transaction.registrations.first R)
    (hsecond : Unregistered transaction.registrations.second R) :
    Ensures (fun machine => registeredAt registered machine = R)
      (transaction.restoreAndReconstruct ops host first second)
      (fun result machine => result.2.For transaction.registrations ∧
        registeredAt registered machine = result.2.entries ∪ R)
      fun machine => registeredAt registered machine = R := by
  have hrestore : Ensures (fun machine => registeredAt registered machine = R)
      (BoundedTwoVcpuFullControllerTwoVirtioBlkCheckpoint.restoreAndVerify transaction.checkpoint
        ops first second)
      (fun _ machine => registeredAt registered machine = R)
      fun machine => registeredAt registered machine = R :=
    .of_keeps (BoundedTwoVcpuFullControllerTwoVirtioBlkCheckpoint.keeps_restoreAndVerify hops first
      second transaction.checkpoint)
  exact (ensures_restoreAndReconstructWith htracks hops hfirst hsecond
    (hrestore.weaken fun _ _ h => ⟨trivial, h⟩)).weaken fun _ _ h => h.2

theorem ensures_restoreAndReconstructWithPending (hops : ops.Spares registered)
    (hfirst : Unregistered transaction.registrations.first R)
    (hsecond : Unregistered transaction.registrations.second R) :
    Ensures (fun machine => registeredAt registered machine = R)
      (transaction.restoreAndReconstructWithPending ops host first second token)
      (fun result machine => result.2.For transaction.registrations ∧
        registeredAt registered machine = result.2.entries ∪ R)
      fun machine => registeredAt registered machine = R := by
  have hrestore : Ensures (fun machine => registeredAt registered machine = R)
      (BoundedTwoVcpuFullControllerTwoVirtioBlkCheckpoint.restoreAndVerifyWithPending
        transaction.checkpoint ops first second token)
      (fun _ machine => transaction.validateToken token = .ok () ∧
        registeredAt registered machine = R)
      fun machine => registeredAt registered machine = R := by
    intro machine hmachine
    have hkeeps := BoundedTwoVcpuFullControllerTwoVirtioBlkCheckpoint.keeps_restoreDevices hops
      first second transaction.checkpoint (.pending kind token)
    obtain ⟨hok, herror⟩ := Ensures.of_keeps hkeeps machine hmachine
    exact ⟨fun a machine' hrun => ⟨validateToken_of_restore hrun, hok a machine' hrun⟩, herror⟩
  refine (ensures_restoreAndReconstructWith htracks hops hfirst hsecond hrestore).bind
    fun result => .of_fact fun htoken machine hmachine => ?_
  have hcheck : (reads fun _ : Machine σ => transaction.validateToken token).run machine =
      .ok () machine := run_reads_of_ok htoken
  rw [run_bind_of_ok hcheck]
  refine ⟨?_, nofun⟩
  rintro _ _ ⟨⟩
  exact hmachine

end Tracking

end TwoVcpuTwoDeviceCheckpointTransaction

/-! ### No leaks -/

/-- Starting at `s`, a failure leaves registered what was registered; a success registers the
ioeventfds and irqfds of the pair and nothing else, and removing the pair it returns leaves what was
registered before. -/
structure RegistersPair {τ : Type} (view : τ → Set Registration) (pair : HostRegistrationSpecPair)
    (result : α → ReconstructedHostRegistrationPair)
    (deassign : ReconstructedHostRegistrationPair → EStateM Error τ Unit)
    (x : EStateM Error τ α) (s : τ) : Prop where
  error (e : Error) (s' : τ) (h : x.run s = .error e s') : view s' = view s
  ok (a : α) (s' : τ) (h : x.run s = .ok a s') :
    ∃ doorbell₁ irq₁ doorbell₂ irq₂, view s' =
      {doorbellEntry pair.first doorbell₁, .irqfd irq₁ pair.first.gsi,
        doorbellEntry pair.second doorbell₂, .irqfd irq₂ pair.second.gsi} ∪ view s
  removed (a : α) (s' : τ) (h : x.run s = .ok a s') (t : τ) (ht : view t = view s') :
    ∃ t', (deassign (result a)).run t = .ok () t' ∧ view t' = view s

theorem ReconstructedHostRegistrationPair.For.entries_eq
    {reconstructed : ReconstructedHostRegistrationPair} {pair : HostRegistrationSpecPair}
    (h : reconstructed.For pair) :
    ∃ doorbell₁ irq₁ doorbell₂ irq₂, reconstructed.entries =
      {doorbellEntry pair.first doorbell₁, .irqfd irq₁ pair.first.gsi,
        doorbellEntry pair.second doorbell₂, .irqfd irq₂ pair.second.gsi} := by
  refine ⟨reconstructed.registrations.1.doorbellEventfd.fd,
    reconstructed.registrations.1.irqfdRegistration.eventfd.fd.toUInt32,
    reconstructed.registrations.2.doorbellEventfd.fd,
    reconstructed.registrations.2.irqfdRegistration.eventfd.fd.toUInt32, ?_⟩
  rw [entries, ReconstructedHostRegistrations.entries, ReconstructedHostRegistrations.entries,
    IrqfdTimerRegistration.entry, IrqfdTimerRegistration.entry, h.first.spec, h.first.gsi,
    h.second.spec, h.second.gsi, Set.insert_union, Set.singleton_union]

theorem RegistersPair.of_ensures {τ : Type} {view : τ → Set Registration}
    {pair : HostRegistrationSpecPair} {result : α → ReconstructedHostRegistrationPair}
    {deassign : ReconstructedHostRegistrationPair → EStateM Error τ Unit} {x : EStateM Error τ α}
    {s : τ}
    (hx : Ensures (fun t => view t = view s) x
      (fun a t => (result a).For pair ∧ view t = (result a).entries ∪ view s)
      fun t => view t = view s)
    (hdeassign : ∀ reconstructed t, reconstructed.For pair →
      view t = reconstructed.entries ∪ view s →
        ∃ t', (deassign reconstructed).run t = .ok () t' ∧ view t' = view s) :
    RegistersPair view pair result deassign x s where
  error := (hx s rfl).2
  ok a s' h := by
    obtain ⟨hfor, hs'⟩ := (hx s rfl).1 a s' h
    obtain ⟨doorbell₁, irq₁, doorbell₂, irq₂, hentries⟩ := hfor.entries_eq
    exact ⟨doorbell₁, irq₁, doorbell₂, irq₂, hentries ▸ hs'⟩
  removed a s' h t ht := by
    obtain ⟨hfor, hs'⟩ := (hx s rfl).1 a s' h
    exact hdeassign _ t hfor (ht.trans hs')

/-- **No registration leaks.** Whatever the operations of the host and of KVM return, as long as
failed assignments register nothing, what is registered can be removed, and the operations on vCPUs
and controllers register and remove nothing: reconstructing a pair, and each of the three restores
of a transaction, leaves registered what was registered before when it fails, and in addition
exactly the two ioeventfds and the two irqfds of the pair when it succeeds; removing these leaves
what was registered before. -/
theorem registrations_do_not_leak {host : HostOps σ} {ops : KvmOps σ}
    {registered : σ → Set Registration} (htracks : Tracks host registered)
    (hops : ops.Spares registered) :
    (∀ (pair : HostRegistrationSpecPair) (s : σ), Unregistered pair.first (registered s) →
      Unregistered pair.second (registered s) →
      RegistersPair registered pair (fun reconstructed => reconstructed)
        (ReconstructedHostRegistrationPair.deassign host)
        (ReconstructedHostRegistrationPair.reconstruct host pair) s) ∧
    ∀ (transaction : TwoVcpuTwoDeviceCheckpointTransaction) (first second : VcpuId)
      (machine : Machine σ),
      Unregistered transaction.registrations.first (registered machine.vm.kvm) →
      Unregistered transaction.registrations.second (registered machine.vm.kvm) →
      RegistersPair (fun machine => registered machine.vm.kvm) transaction.registrations Prod.snd
        (fun reconstructed => Machine.onHost (reconstructed.deassign host))
        (transaction.restoreAndReconstruct ops host first second) machine ∧
      ∀ (kind : PendingKind) (token : PendingToken kind),
        RegistersPair (fun machine => registered machine.vm.kvm) transaction.registrations Prod.snd
          (fun reconstructed => Machine.onHost (reconstructed.deassign host))
          (transaction.restoreAndReconstructWithPending ops host first second token) machine := by
  refine ⟨fun pair s hfirst hsecond => ?_, fun transaction first second machine hfirst hsecond =>
    ⟨?_, fun kind token => ?_⟩⟩
  · exact .of_ensures
      (ReconstructedHostRegistrationPair.ensures_reconstruct htracks hfirst hsecond)
      fun reconstructed t hfor ht => reconstructed.run_deassign htracks hfor ht hfirst hsecond
  · exact .of_ensures (TwoVcpuTwoDeviceCheckpointTransaction.ensures_restoreAndReconstruct htracks
      hops hfirst hsecond) fun reconstructed t hfor ht =>
        TwoVcpuTwoDeviceCheckpointTransaction.run_deassign_onHost htracks hfirst hsecond hfor ht
  · exact .of_ensures
      (TwoVcpuTwoDeviceCheckpointTransaction.ensures_restoreAndReconstructWithPending htracks hops
        hfirst hsecond) fun reconstructed t hfor ht =>
        TwoVcpuTwoDeviceCheckpointTransaction.run_deassign_onHost htracks hfirst hsecond hfor ht

/-! ### A host with a table of bounded size -/

section Table

variable {τ γ : Type}

/-- An operation on the first component. -/
def onFirst {ε : Type} (x : EStateM ε τ α) : EStateM ε (τ × γ) α :=
  within Prod.fst (fun s t => (t, s.2)) (fun e => e) x

/-- Operations of KVM beside something else. -/
def KvmOps.beside (ops : KvmOps τ) : KvmOps (τ × γ) where
  getRegs id := onFirst (ops.getRegs id)
  setRegs id regs := onFirst (ops.setRegs id regs)
  getSregs id := onFirst (ops.getSregs id)
  setSregs id sregs := onFirst (ops.setSregs id sregs)
  getMsrs id request := onFirst (ops.getMsrs id request)
  setMsrs id request := onFirst (ops.setMsrs id request)
  getLapic id := onFirst (ops.getLapic id)
  setLapic id state := onFirst (ops.setLapic id state)
  getMpState id := onFirst (ops.getMpState id)
  setMpState id state := onFirst (ops.setMpState id state)
  getIrqchip request := onFirst (ops.getIrqchip request)
  setIrqchip request := onFirst (ops.setIrqchip request)

theorem spares_beside {β : Type} (ops : KvmOps τ) (view : γ → β) :
    ops.beside.Spares fun s : τ × γ => view s.2 := by
  constructor <;> (intros; exact .within fun _ _ => rfl)

/-- The table with one more entry, if there is room. -/
def assignEntry (capacity : ℕ) (entry : Registration) :
    EStateM String (τ × List Registration) Unit := fun s =>
  if s.2.length < capacity then .ok () (s.1, entry :: s.2) else .error "no space left" s

/-- The table without an entry. -/
def deassignEntry (entry : Registration) : EStateM String (τ × List Registration) Unit := fun s =>
  .ok () (s.1, s.2.filter (· ≠ entry))

/-- A host that keeps at most so many registrations in a table, and where nothing else fails. -/
def tableHost (capacity : ℕ) : HostOps (τ × List Registration) where
  checkExtension _ := pure 1
  setIrqLine _ _ := pure ()
  eventfd := pure 3
  dup _ := pure 4
  setIrqfd request :=
    if request.flags &&& kvmIrqfdFlagDeassign = 0 then
      assignEntry capacity (.irqfd request.fd request.gsi)
    else deassignEntry (.irqfd request.fd request.gsi)
  setIoeventfd request :=
    if request.flags &&& kvmIoeventfdFlagDeassign = 0 then
      assignEntry capacity (.ioeventfd request.fd request.addr request.len request.datamatch)
    else deassignEntry (.ioeventfd request.fd request.addr request.len request.datamatch)
  poll _ := pure none

/-- What stands in the table. -/
def tableEntries (s : τ × List Registration) : Set Registration := { entry | entry ∈ s.2 }

theorem ensures_assignEntry (capacity : ℕ) (entry : Registration) (R : Set Registration) :
    Ensures (fun s : τ × List Registration => tableEntries s = R) (assignEntry capacity entry)
      (fun _ s => tableEntries s = insert entry R) fun s => tableEntries s = R := by
  rintro ⟨kvm, table⟩ rfl
  by_cases hroom : table.length < capacity
  · have hrun : (assignEntry capacity entry).run (kvm, table) = .ok () (kvm, entry :: table) :=
      if_pos hroom
    rw [hrun]
    refine ⟨?_, nofun⟩
    rintro _ _ ⟨⟩
    exact Set.ext fun _ => List.mem_cons
  · have hrun : (assignEntry capacity entry).run (kvm, table) = .error "no space left" _ :=
      if_neg hroom
    rw [hrun]
    refine ⟨nofun, ?_⟩
    rintro _ _ ⟨⟩
    rfl

theorem run_deassignEntry (entry : Registration) (s : τ × List Registration) :
    ∃ s', (deassignEntry entry).run s = .ok () s' ∧ tableEntries s' = tableEntries s \ {entry} :=
  ⟨_, rfl, Set.ext fun _ => by simp [tableEntries]⟩

theorem tableHost_assign (capacity : ℕ) (fd gsi : UInt32) :
    (tableHost capacity : HostOps (τ × List Registration)).setIrqfd (.assign fd gsi) =
      assignEntry capacity (.irqfd fd gsi) :=
  if_pos (show (0 : UInt32) &&& kvmIrqfdFlagDeassign = 0 by decide)

theorem tableHost_deassign (capacity : ℕ) (fd gsi : UInt32) :
    (tableHost capacity : HostOps (τ × List Registration)).setIrqfd (.deassign fd gsi) =
      deassignEntry (.irqfd fd gsi) :=
  if_neg (show ¬ kvmIrqfdFlagDeassign &&& kvmIrqfdFlagDeassign = 0 by decide)

theorem tableHost_assignDoorbell (capacity : ℕ) (spec : HostRegistrationSpec) (fd : Int32) :
    (tableHost capacity : HostOps (τ × List Registration)).setIoeventfd
        (.doorbell spec fd kvmIoeventfdFlagDatamatch) =
      assignEntry capacity (doorbellEntry spec fd) :=
  if_pos (show kvmIoeventfdFlagDatamatch &&& kvmIoeventfdFlagDeassign = 0 by decide)

theorem tableHost_deassignDoorbell (capacity : ℕ) (spec : HostRegistrationSpec) (fd : Int32) :
    (tableHost capacity : HostOps (τ × List Registration)).setIoeventfd
        (.doorbell spec fd (kvmIoeventfdFlagDatamatch ||| kvmIoeventfdFlagDeassign)) =
      deassignEntry (doorbellEntry spec fd) :=
  if_neg (show ¬ (kvmIoeventfdFlagDatamatch ||| kvmIoeventfdFlagDeassign) &&&
    kvmIoeventfdFlagDeassign = 0 by decide)

theorem tracks_tableHost (capacity : ℕ) :
    Tracks (tableHost capacity) (tableEntries (τ := τ)) where
  checkExtension _ := .pure _
  setIrqLine _ _ := .pure _
  eventfd := .pure _
  dup _ := .pure _
  poll _ := .pure _
  assignIrqfd fd gsi R := by
    rw [tableHost_assign]
    exact ensures_assignEntry capacity _ R
  deassignIrqfd fd gsi s _ := by
    rw [tableHost_deassign]
    exact run_deassignEntry _ s
  assignIoeventfd spec fd R := by
    rw [tableHost_assignDoorbell]
    exact ensures_assignEntry capacity _ R
  deassignIoeventfd spec fd s _ := by
    rw [tableHost_deassignDoorbell]
    exact run_deassignEntry _ s

end Table

theorem valid_notify {address : UInt64} (h : address.toNat + 2 < 2 ^ 64) :
    HostRegistrationSpec.Valid address 2 0 :=
  ⟨.inr (.inl rfl), by decide, h⟩

theorem firstNotify_lt : (0x10000100 : UInt64).toNat + 2 < 2 ^ 64 := by decide

theorem secondNotify_lt : (0x10001100 : UInt64).toNat + 2 < 2 ^ 64 := by decide

theorem firstNotify_le : (0x10000100 : UInt64).toNat + (2 : UInt32).toNat ≤
    (0x10001100 : UInt64).toNat := by decide

theorem firstGsi_ne : (0 : UInt32) ≠ 1 := by decide

/-- The registrations of the devices of `resetMachine`. -/
def resetPair : HostRegistrationSpecPair where
  first := ⟨0x10000100, 2, 0, 0, valid_notify firstNotify_lt⟩
  second := ⟨0x10001100, 2, 0, 1, valid_notify secondNotify_lt⟩
  disjoint := firstNotify_le
  gsi_ne := firstGsi_ne

/-- The transaction of `notifiedCheckpoint`. -/
def notifiedTransaction : TwoVcpuTwoDeviceCheckpointTransaction where
  checkpoint := BoundedTwoVcpuFullControllerTwoVirtioBlkCheckpoint.notifiedCheckpoint
  registrations := resetPair

/-- `resetMachine` with an empty table. -/
def tableMachine : Machine (KvmState × List Registration) :=
  ⟨⟨(resetMachine 0).vm.memory, (resetKvm, [])⟩, (resetMachine 0).bus⟩

theorem tableMachine_does_not_leak :
    RegistersPair tableEntries resetPair (fun reconstructed => reconstructed)
      (ReconstructedHostRegistrationPair.deassign (tableHost 3))
      (ReconstructedHostRegistrationPair.reconstruct (tableHost 3) resetPair) (resetKvm, []) ∧
    RegistersPair (fun machine => tableEntries machine.vm.kvm) resetPair Prod.snd
      (fun reconstructed => Machine.onHost (reconstructed.deassign (tableHost 3)))
      (notifiedTransaction.restoreAndReconstruct exactOps.beside (tableHost 3) 0 1)
      tableMachine ∧
    RegistersPair (fun machine => tableEntries machine.vm.kvm) resetPair Prod.snd
      (fun reconstructed => Machine.onHost (reconstructed.deassign (tableHost 3)))
      (notifiedTransaction.restoreAndReconstructWithPending exactOps.beside (tableHost 3) 0 1
        (BoundedTwoVcpuFullControllerTwoVirtioBlkCheckpoint.notifiedToken 0x10000000))
      tableMachine := by
  have hleak := registrations_do_not_leak (tracks_tableHost 3)
    (spares_beside exactOps fun table => { entry | entry ∈ table })
  have hrestores := hleak.2 notifiedTransaction 0 1 tableMachine nofun nofun
  exact ⟨hleak.1 resetPair (resetKvm, []) nofun nofun, hrestores.1, hrestores.2 .notification _⟩

end MiniHypervisor.Checkpoint
