import MiniHypervisor.Mmio.Bus
import MiniHypervisor.PortIo.Bus

/-!
# Servicing one exit of a vCPU

`run_once` (`src/vcpu.rs`) enters the guest, and `dispatch_vcpu_exit` (`src/vmexit.rs`) services the
exit that comes back: port and MMIO accesses go to their bus and their answers into the `kvm_run`
mapping, three kinds of exits stop the vCPU, and all others are errors.

The kernel may do anything.  `GuestEntry` says what it does when the guest is entered: `KVM_RUN`
may be interrupted any number of times, which the source repeats, and then it does not come back,
or fails, or leaves any contents in the mapping.  The entries are counted, and so are the calls of
`KVM_RUN`.
-/

namespace MiniHypervisor.Execution

open Bytes Control Kvm Mmio PortIo Vcpu

/-! ### The machine and its kernel -/

structure VcpuRegisters where
  rip : UInt64
  rflags : UInt64
  deriving DecidableEq, Repr

/-- How an entry ends: `KVM_RUN` does not come back, fails, or completes an exit with the contents
of the mapping; then `KVM_GET_REGS` answers with registers or fails. -/
inductive EntryOutcome where
  | blocked
  | failed (source : String)
  | exited (contents : ByteMap) (registers : Except String VcpuRegisters)

/-- One entry of the guest: the number of times that `KVM_RUN` is interrupted and called again, and
how the entry ends. -/
structure GuestEntry where
  interruptions : ℕ
  outcome : EntryOutcome

/-- A vCPU with its buses.  The registers are those that `KVM_GET_REGS` would answer; `observed` is
the state of the observer of the run. -/
structure Machine (O : Type) where
  id : UInt16
  supportsInternalErrorData : Bool
  run : KvmRunMapping
  registers : Except String VcpuRegisters
  portIo : PortIoBus
  mmio : MmioBus
  observed : O
  entries : ℕ
  kvmRuns : ℕ

/-- `Error`, as far as running a vCPU returns it; an observer may also return others. -/
inductive Error (ω : Type) where
  | vmExit (error : VmExitError)
  | portIo (error : PortIoError)
  | bus (error : BusError)
  | hostEnvironment (error : HostEnvironmentError)
  | other (error : ω)

/-- The trace of exit reasons that an error carries. -/
def Error.trace? {ω : Type} : Error ω → Option (List UInt32)
  | vmExit error => error.trace?
  | _ => none

/-- The error says that the budget of exits is used up. -/
def Error.IsBudgetExhausted {ω : Type} : Error ω → Prop
  | vmExit error => error.IsBudgetExhausted
  | _ => False

structure VmExitReport where
  vcpuId : UInt16
  exit : VcpuExit
  rip : UInt64
  rflags : UInt64
  deriving DecidableEq, Repr

inductive VmExitContinuation where
  | portIo (io : PortIoExit)
  | mmio (access : MmioExit)
  deriving DecidableEq, Repr

inductive VmExitDisposition where
  | continue (continuation : VmExitContinuation)
  | stopped (report : VmExitReport)
  deriving DecidableEq, Repr

variable {ω O : Type}

/-! ### Entering the guest -/

/-- The machine after the kernel was entered `interruptions + 1` times for one entry. -/
def Machine.enter (m : Machine O) (interruptions : ℕ) : Machine O :=
  { m with entries := m.entries + 1, kvmRuns := m.kvmRuns + interruptions + 1 }

/-- The machine after an exit completed. -/
def Machine.exited (m : Machine O) (contents : ByteMap) (registers : Except String VcpuRegisters) :
    Machine O :=
  { m with run := { m.run with contents }, registers }

/-- `Vcpu::run_once` (`src/vcpu.rs`, lines 268-278); nothing is returned when `KVM_RUN` does not
come back. -/
def runOnce (behaviour : ℕ → GuestEntry) : EStateM (Error ω) (Machine O) (Option VcpuExit) := do
  let entry := behaviour (← get).entries
  modify fun m => m.enter entry.interruptions
  match entry.outcome with
  | .blocked => return none
  | .failed source =>
      throw (.hostEnvironment (.vcpuOperation (← get).id "KVM_RUN" source))
  | .exited contents registers =>
      modify fun m => m.exited contents registers
      return some (.fromRaw (← get).run.exitReason)

/-! ### Servicing an exit -/

/-- `Vcpu::registers` (`src/vcpu.rs`, lines 259-266). -/
def registers : EStateM (Error ω) (Machine O) VcpuRegisters :=
  reads fun m => m.registers.mapError fun source =>
    .hostEnvironment (.vcpuOperation m.id "KVM_GET_REGS" source)

/-- A decoder of the payload of an exit. -/
def payload {α : Type} (decode : Machine O → Except VmExitError α) :
    EStateM (Error ω) (Machine O) α :=
  reads fun m => (decode m).mapError .vmExit

/-- An answer into the mapping. -/
def answer (write : UInt16 → EStateM VmExitError KvmRunMapping Unit) :
    EStateM (Error ω) (Machine O) Unit := do
  let id := (← get).id
  within Machine.run (fun m run => { m with run }) .vmExit (write id)

def stoppedReport (vcpuId : UInt16) (exit : VcpuExit) (registers : VcpuRegisters) : VmExitReport :=
  ⟨vcpuId, exit, registers.rip, registers.rflags⟩

/-- The service of an exit that stops the vCPU. -/
def stop (exit : VcpuExit) : EStateM (Error ω) (Machine O) VmExitDisposition := do
  let registers ← registers
  return .stopped (stoppedReport (← get).id exit registers)

/-- The service of a port access by its bus. -/
def onPortIo (io : PortIoExit) : EStateM (Error ω) (Machine O) PortIoService :=
  within Machine.portIo (fun m portIo => { m with portIo }) .portIo (PortIoBus.dispatch io)

/-- The service of an MMIO access by its bus. -/
def onMmio (access : MmioExit) : EStateM (Error ω) (Machine O) MmioService :=
  within Machine.mmio (fun m mmio => { m with mmio }) .bus (MmioBus.dispatch access)

/-- What a port access gets back. -/
def answerPortIo : PortIoService → EStateM (Error ω) (Machine O) Unit
  | .output => pure ()
  | .input response => answer fun id => KvmRunMapping.writePortIoInput id response

/-- What an MMIO access gets back. -/
def answerMmio : MmioService → EStateM (Error ω) (Machine O) Unit
  | .write => pure ()
  | .read response => answer fun id => KvmRunMapping.writeMmioReadResponse id response

/-- `dispatch_vcpu_exit` (`src/vmexit.rs`, lines 64-140). -/
def dispatchVcpuExit (exit : VcpuExit) : EStateM (Error ω) (Machine O) VmExitDisposition := do
  match exit with
  | .io =>
      let io ← payload fun m => m.run.portIoExit m.id
      answerPortIo (← onPortIo io)
      return .continue (.portIo io)
  | .mmio =>
      let access ← payload fun m => m.run.mmioExit m.id
      answerMmio (← onMmio access)
      return .continue (.mmio access)
  | .debug => stop .debug
  | .hlt => stop .hlt
  | .shutdown => stop .shutdown
  | .kvmUnknown =>
      let hardwareExitReason ← payload fun m => m.run.kvmUnknownExit m.id
      throw (.vmExit (.kvmUnknownExit (← get).id hardwareExitReason [VcpuExit.kvmUnknown.reason]))
  | .exception =>
      let (exception, errorCode) ← payload fun m => m.run.exception m.id
      throw (.vmExit (.exception (← get).id exception errorCode [VcpuExit.exception.reason]))
  | .failEntry =>
      let (hardwareEntryFailureReason, cpu) ← payload fun m => m.run.failEntry m.id
      throw (.vmExit (.entryFailure (← get).id hardwareEntryFailureReason cpu
        [VcpuExit.failEntry.reason]))
  | .internalError =>
      let (suberror, data) ← payload fun m => m.run.internalError m.id m.supportsInternalErrorData
      throw (.vmExit (.internalError (← get).id suberror data [VcpuExit.internalError.reason]))
  | .systemEvent =>
      let (eventType, data) ← payload fun m => m.run.systemEvent m.id
      let registers ← registers
      throw (.vmExit (.unsupportedSystemEvent (← get).id eventType data registers.rip
        registers.rflags [VcpuExit.systemEvent.reason]))
  | .unhandled reason =>
      let registers ← registers
      throw (.vmExit (.unhandled (← get).id reason registers.rip registers.rflags [reason]))

/-! ### What one entry does -/

section Entry

variable {behaviour : ℕ → GuestEntry} {m : Machine O}

theorem run_runOnce_blocked (h : (behaviour m.entries).outcome = .blocked) :
    (runOnce behaviour : EStateM (Error ω) (Machine O) _).run m =
      .ok none (m.enter (behaviour m.entries).interruptions) := by
  simp only [runOnce, EStateM.run_bind, EStateM.run_get, EStateM.run_modify, h]
  rfl

theorem run_runOnce_failed {source : String} (h : (behaviour m.entries).outcome = .failed source) :
    (runOnce behaviour : EStateM (Error ω) (Machine O) _).run m =
      .error (.hostEnvironment (.vcpuOperation m.id "KVM_RUN" source))
        (m.enter (behaviour m.entries).interruptions) := by
  simp only [runOnce, EStateM.run_bind, EStateM.run_get, EStateM.run_modify, h]
  rfl

theorem run_runOnce_exited {contents : ByteMap} {registers : Except String VcpuRegisters}
    (h : (behaviour m.entries).outcome = .exited contents registers) :
    (runOnce behaviour : EStateM (Error ω) (Machine O) _).run m =
      .ok (some (.fromRaw { m.run with contents }.exitReason))
        ((m.enter (behaviour m.entries).interruptions).exited contents registers) := by
  simp only [runOnce, EStateM.run_bind, EStateM.run_get, EStateM.run_modify, h]
  rfl

end Entry

/-! ### What a service leaves alone -/

/-- What no service and no observer changes. -/
def Machine.frame (m : Machine O) : (UInt16 × ℕ × ℕ) × ℕ :=
  ((m.id, m.entries, m.kvmRuns), m.run.len)

theorem answer_keeps_frame {write : UInt16 → EStateM VmExitError KvmRunMapping Unit}
    (hwrite : ∀ id, Keeps KvmRunMapping.len (write id)) :
    Keeps Machine.frame (answer write : EStateM (Error ω) (Machine O) Unit) := by
  refine .get_bind fun m => ?_
  have hrest : Keeps (fun m : Machine O => (m.id, m.entries, m.kvmRuns))
      (within Machine.run (fun m run => { m with run }) (Error.vmExit (ω := ω)) (write m.id)) :=
    Keeps.within fun _ _ => rfl
  exact hrest.prod ((hwrite m.id).within_get (fun _ _ => rfl) fun _ => rfl) m

theorem answerPortIo_keeps_frame (service : PortIoService) :
    Keeps Machine.frame (answerPortIo service : EStateM (Error ω) (Machine O) Unit) := by
  cases service with
  | output => exact Keeps.pure _
  | input response =>
      rw [answerPortIo]
      exact answer_keeps_frame fun id => KvmRunMapping.writePortIoInput_keeps_len id response

theorem answerMmio_keeps_frame (service : MmioService) :
    Keeps Machine.frame (answerMmio service : EStateM (Error ω) (Machine O) Unit) := by
  cases service with
  | write => exact Keeps.pure _
  | read response =>
      rw [answerMmio]
      exact answer_keeps_frame fun id => KvmRunMapping.writeMmioReadResponse_keeps_len id response

theorem stop_keeps_frame (exit : VcpuExit) :
    Keeps Machine.frame (stop exit : EStateM (Error ω) (Machine O) _) :=
  (Keeps.reads _).bind fun _ => .get_bind fun _ => rfl

/-- **A service keeps the identity of the vCPU, the length of its mapping and the counters.** -/
theorem dispatch_keeps_frame (exit : VcpuExit) :
    Keeps Machine.frame (dispatchVcpuExit exit : EStateM (Error ω) (Machine O) _) := by
  cases exit with
  | io =>
      have hbus : ∀ io, Keeps Machine.frame (onPortIo io : EStateM (Error ω) (Machine O) _) :=
        fun _ => Keeps.within fun _ _ => rfl
      exact (Keeps.reads _).bind fun io => (hbus io).bind fun service =>
        (answerPortIo_keeps_frame service).bind fun _ => Keeps.pure _
  | mmio =>
      have hbus : ∀ io, Keeps Machine.frame (onMmio io : EStateM (Error ω) (Machine O) _) :=
        fun _ => Keeps.within fun _ _ => rfl
      exact (Keeps.reads _).bind fun access => (hbus access).bind fun service =>
        (answerMmio_keeps_frame service).bind fun _ => Keeps.pure _
  | debug => exact stop_keeps_frame _
  | hlt => exact stop_keeps_frame _
  | shutdown => exact stop_keeps_frame _
  | systemEvent =>
      exact (Keeps.reads _).bind fun _ => (Keeps.reads _).bind fun _ => .get_bind fun _ => rfl
  | _ => exact (Keeps.reads _).bind fun _ => .get_bind fun _ => rfl

/-! ### Errors of a service -/

theorem throws_payload {α : Type} {decode : Machine O → Except VmExitError α}
    (h : ∀ m, Refuses (¬ VmExitError.IsBudgetExhausted ·) (decode m)) :
    Throws (¬ Error.IsBudgetExhausted ·) (payload decode : EStateM (Error ω) (Machine O) α) :=
  .reads fun m => (h m).mapError_of fun _ he => he

theorem throws_registers :
    Throws (¬ Error.IsBudgetExhausted ·) (registers : EStateM (Error ω) (Machine O) _) :=
  .reads fun _ => .mapError fun _ => not_false

theorem throws_answer {write : UInt16 → EStateM VmExitError KvmRunMapping Unit}
    (h : ∀ id, Throws (¬ VmExitError.IsBudgetExhausted ·) (write id)) :
    Throws (¬ Error.IsBudgetExhausted ·) (answer write : EStateM (Error ω) (Machine O) Unit) :=
  .get_bind fun m => (h m.id).within fun _ he => he

theorem throws_answerPortIo (service : PortIoService) :
    Throws (¬ Error.IsBudgetExhausted ·)
      (answerPortIo service : EStateM (Error ω) (Machine O) Unit) := by
  cases service with
  | output => exact .pure _
  | input response =>
      rw [answerPortIo]
      exact throws_answer fun _ => KvmRunMapping.throws_writePortIoInput

theorem throws_answerMmio (service : MmioService) :
    Throws (¬ Error.IsBudgetExhausted ·)
      (answerMmio service : EStateM (Error ω) (Machine O) Unit) := by
  cases service with
  | write => exact .pure _
  | read response =>
      rw [answerMmio]
      exact throws_answer fun _ => KvmRunMapping.throws_writeMmioReadResponse

theorem throws_stop (exit : VcpuExit) :
    Throws (¬ Error.IsBudgetExhausted ·) (stop exit : EStateM (Error ω) (Machine O) _) :=
  throws_registers.bind fun _ => .get_bind fun _ => .pure _

theorem throws_onPortIo (io : PortIoExit) :
    Throws (¬ Error.IsBudgetExhausted ·) (onPortIo io : EStateM (Error ω) (Machine O) _) :=
  .within_wrap fun _ => not_false

theorem throws_onMmio (access : MmioExit) :
    Throws (¬ Error.IsBudgetExhausted ·) (onMmio access : EStateM (Error ω) (Machine O) _) :=
  .within_wrap fun _ => not_false

/-- **No service says that the budget is used up.** -/
theorem dispatch_throws (exit : VcpuExit) :
    Throws (¬ Error.IsBudgetExhausted ·)
      (dispatchVcpuExit exit : EStateM (Error ω) (Machine O) _) := by
  cases exit with
  | io =>
      exact (throws_payload fun _ => KvmRunMapping.refuses_portIoExit).bind fun io =>
        (throws_onPortIo io).bind fun service =>
          (throws_answerPortIo service).bind fun _ => .pure _
  | mmio =>
      exact (throws_payload fun _ => KvmRunMapping.refuses_mmioExit).bind fun access =>
        (throws_onMmio access).bind fun service =>
          (throws_answerMmio service).bind fun _ => .pure _
  | debug => exact throws_stop _
  | hlt => exact throws_stop _
  | shutdown => exact throws_stop _
  | kvmUnknown =>
      exact (throws_payload fun _ => KvmRunMapping.refuses_kvmUnknownExit).bind fun _ =>
        .get_bind fun _ => .throw not_false
  | exception =>
      exact (throws_payload fun _ => KvmRunMapping.refuses_exception).bind fun _ =>
        .get_bind fun _ => .throw not_false
  | failEntry =>
      exact (throws_payload fun _ => KvmRunMapping.refuses_failEntry).bind fun _ =>
        .get_bind fun _ => .throw not_false
  | internalError =>
      exact (throws_payload fun _ => KvmRunMapping.refuses_internalError).bind fun _ =>
        .get_bind fun _ => .throw not_false
  | systemEvent =>
      exact (throws_payload fun _ => KvmRunMapping.refuses_systemEvent).bind fun _ =>
        throws_registers.bind fun _ => .get_bind fun _ => .throw not_false
  | unhandled reason => exact throws_registers.bind fun _ => .get_bind fun _ => .throw not_false

/-! ### Which exits are serviced -/

section Outcomes

variable {exit : VcpuExit} {m m' : Machine O}

theorem run_payload_eq_ok {α : Type} {decode : Machine O → Except VmExitError α} {a : α} :
    (payload decode : EStateM (Error ω) (Machine O) α).run m = .ok a m' ↔
      decode m = .ok a ∧ m' = m := by
  rw [payload, run_reads_eq_ok]
  cases decode m <;> simp [Except.mapError]

theorem stop_eq_ok {d : VmExitDisposition}
    (h : (stop exit : EStateM (Error ω) (Machine O) _).run m = .ok d m') :
    ∃ report, d = .stopped report ∧ report.exit = exit := by
  obtain ⟨registers, s, -, h⟩ := run_bind_eq_ok.mp h
  obtain ⟨s', s'', -, h⟩ := run_bind_eq_ok.mp h
  cases h
  exact ⟨_, rfl, rfl⟩

theorem throw_ne_ok {α β : Type} {x : EStateM (Error ω) (Machine O) α}
    {e : α → Machine O → Error ω} {b : β}
    (h : (do throw (e (← x) (← get)) : EStateM (Error ω) (Machine O) β).run m = .ok b m') :
    False := by
  obtain ⟨a, s, -, h⟩ := run_bind_eq_ok.mp h
  obtain ⟨s', s'', -, h⟩ := run_bind_eq_ok.mp h
  cases h

/-- **The exits that are serviced.** The service of a port or MMIO access goes on, with the payload
that was decoded; three other kinds of exits stop the vCPU, which reports them. -/
theorem dispatch_eq_ok {d : VmExitDisposition}
    (h : (dispatchVcpuExit exit : EStateM (Error ω) (Machine O) _).run m = .ok d m') :
    (exit = .io ∧ ∃ io, d = .continue (.portIo io) ∧ m.run.portIoExit m.id = .ok io) ∨
      (exit = .mmio ∧ ∃ access, d = .continue (.mmio access) ∧
        m.run.mmioExit m.id = .ok access) ∨
      ((exit = .debug ∨ exit = .hlt ∨ exit = .shutdown) ∧
        ∃ report, d = .stopped report ∧ report.exit = exit) := by
  cases exit with
  | io =>
      obtain ⟨io, s, hdecode, h⟩ := run_bind_eq_ok.mp h
      obtain ⟨service, s', -, h⟩ := run_bind_eq_ok.mp h
      obtain ⟨⟨⟩, s'', -, h⟩ := run_bind_eq_ok.mp h
      cases h
      exact .inl ⟨rfl, io, rfl, (run_payload_eq_ok.mp hdecode).1⟩
  | mmio =>
      obtain ⟨access, s, hdecode, h⟩ := run_bind_eq_ok.mp h
      obtain ⟨service, s', -, h⟩ := run_bind_eq_ok.mp h
      obtain ⟨⟨⟩, s'', -, h⟩ := run_bind_eq_ok.mp h
      cases h
      exact .inr (.inl ⟨rfl, access, rfl, (run_payload_eq_ok.mp hdecode).1⟩)
  | debug => exact .inr (.inr ⟨.inl rfl, stop_eq_ok h⟩)
  | hlt => exact .inr (.inr ⟨.inr (.inl rfl), stop_eq_ok h⟩)
  | shutdown => exact .inr (.inr ⟨.inr (.inr rfl), stop_eq_ok h⟩)
  | systemEvent =>
      obtain ⟨a, s, -, h⟩ := run_bind_eq_ok.mp h
      exact (throw_ne_ok h).elim
  | _ => exact (throw_ne_ok h).elim

end Outcomes

end MiniHypervisor.Execution
