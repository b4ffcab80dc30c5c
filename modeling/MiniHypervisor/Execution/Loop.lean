import MiniHypervisor.Execution.Dispatch

/-!
# Running a vCPU within a budget of exits

`run_vcpu_until_stopped_with_mmio_observer` (`src/execution.rs`) enters the guest until an exit
stops the vCPU or the budget of exits is used up.  It records the reason of every exit that
completes before it services the exit, shows every serviced exit to an observer, and gives the
errors of a service the trace of all exits so far.

The bookkeeping is compared with what the kernel did.  `completedExits` are the mappings that the
first entries left, and `ServicedExits` says that so many exits in a row were serviced and accepted.
The loop keeps `Progressed`, which relates its four vectors and its counter to them, and each way of
leaving the loop is a case of `RunEnds`.
-/

namespace MiniHypervisor.Execution

open Bytes Control Kvm Mmio PortIo Vcpu

variable {ω O : Type}

/-! ### The budget and the trace -/

structure ExitBudget where
  vcpuId : UInt16
  limit : UInt32
  completed : UInt32
  lastExitReason : Option UInt32
  deriving DecidableEq, Repr

namespace ExitBudget

def new (vcpuId : UInt16) (limit : UInt32) : ExitBudget := ⟨vcpuId, limit, 0, none⟩

/-- `ExitBudget::ensure_run_allowed` (`src/execution.rs`, lines 276-291). -/
def ensureRunAllowed (budget : ExitBudget) (exitReasons : List UInt32) :
    Except (Error ω) Unit :=
  rejectIf (¬ budget.completed < budget.limit)
    (.vmExit (.exitBudgetExhausted budget.vcpuId budget.limit budget.completed
      budget.lastExitReason exitReasons))

def record (budget : ExitBudget) (reason : UInt32) : ExitBudget :=
  { budget with completed := budget.completed + 1, lastExitReason := some reason }

end ExitBudget

/-- `attach_completed_exit_trace` (`src/execution.rs`, lines 107-250). -/
def attachCompletedExitTrace (exitReasons : List UInt32) : Error ω → Error ω
  | .vmExit (.unhandled vcpuId reason rip rflags _) =>
      .vmExit (.unhandled vcpuId reason rip rflags exitReasons)
  | .vmExit (.kvmUnknownExit vcpuId hardwareExitReason _) =>
      .vmExit (.kvmUnknownExit vcpuId hardwareExitReason exitReasons)
  | .vmExit (.exception vcpuId exception errorCode _) =>
      .vmExit (.exception vcpuId exception errorCode exitReasons)
  | .vmExit (.entryFailure vcpuId hardwareEntryFailureReason cpu _) =>
      .vmExit (.entryFailure vcpuId hardwareEntryFailureReason cpu exitReasons)
  | .vmExit (.internalError vcpuId suberror data _) =>
      .vmExit (.internalError vcpuId suberror data exitReasons)
  | .vmExit (.invalidInternalErrorDataCount vcpuId suberror ndata capacity _) =>
      .vmExit (.invalidInternalErrorDataCount vcpuId suberror ndata capacity exitReasons)
  | .vmExit (.unsupportedSystemEvent vcpuId eventType data rip rflags _) =>
      .vmExit (.unsupportedSystemEvent vcpuId eventType data rip rflags exitReasons)
  | .vmExit (.invalidSystemEventDataCount vcpuId ndata capacity _) =>
      .vmExit (.invalidSystemEventDataCount vcpuId ndata capacity exitReasons)
  | error => error

/-! ### The loop -/

structure VmExecutionResult where
  report : VmExitReport
  ioExits : List PortIoExit
  mmioExits : List MmioExit
  exitReasons : List UInt32
  completedExits : UInt32
  deriving DecidableEq, Repr

/-- The variables of the loop. -/
structure Progress where
  budget : ExitBudget
  ioExits : List PortIoExit
  mmioExits : List MmioExit
  exitReasons : List UInt32
  deriving DecidableEq, Repr

namespace Progress

def recordCompletedExit (p : Progress) (reason : UInt32) : Progress :=
  { p with budget := p.budget.record reason, exitReasons := p.exitReasons ++ [reason] }

/-- A serviced exit goes to the vector of its kind. -/
def push (p : Progress) : VmExitContinuation → Progress
  | .portIo io => { p with ioExits := p.ioExits ++ [io] }
  | .mmio access => { p with mmioExits := p.mmioExits ++ [access] }

/-- The result of a run that an exit stopped. -/
def finish (p : Progress) (report : VmExitReport) : VmExecutionResult :=
  ⟨report, p.ioExits, p.mmioExits, p.exitReasons, p.budget.completed⟩

end Progress

/-- An observer of a run: it sees every serviced exit and may use the MMIO bus. -/
abbrev Observer (ω O : Type) := VmExitContinuation → EStateM (Error ω) (MmioBus × O) Unit

/-- A call of the observer. -/
def observe (observer : Observer ω O) (continuation : VmExitContinuation) :
    EStateM (Error ω) (Machine O) Unit :=
  within (fun m => (m.mmio, m.observed)) (fun m s => { m with mmio := s.1, observed := s.2 }) id
    (observer continuation)

/-- A computation whose errors get the trace of the completed exits. -/
def attaching {α : Type} (exitReasons : List UInt32) (x : EStateM (Error ω) (Machine O) α) :
    EStateM (Error ω) (Machine O) α :=
  within id (fun _ m => m) (attachCompletedExitTrace exitReasons) x

section Attaching

variable {α : Type} {exitReasons : List UInt32} {x : EStateM (Error ω) (Machine O) α}
  {m m' : Machine O}

theorem run_attaching_of_ok {a : α} (h : x.run m = .ok a m') :
    (attaching exitReasons x).run m = .ok a m' := by
  have hid : x.run (id m) = .ok a m' := h
  exact run_within_of_ok hid

theorem run_attaching_of_error {e : Error ω} (h : x.run m = .error e m') :
    (attaching exitReasons x).run m = .error (attachCompletedExitTrace exitReasons e) m' := by
  have hid : x.run (id m) = .error e m' := h
  exact run_within_of_error hid

end Attaching

/-- How an iteration ends, unless with an error: the guest does not come back, the loop goes on, or
it returns. -/
inductive Iteration where
  | blocked
  | next (p : Progress)
  | finished (result : VmExecutionResult)

/-- What follows the service of an exit. -/
def settle (observer : Observer ω O) (p : Progress) :
    VmExitDisposition → EStateM (Error ω) (Machine O) Iteration
  | .continue continuation => do
      attaching p.exitReasons (observe observer continuation)
      return .next (p.push continuation)
  | .stopped report => return .finished (p.finish report)

/-- The iteration after the guest was entered. -/
def completeExit (observer : Observer ω O) (p : Progress) :
    Option VcpuExit → EStateM (Error ω) (Machine O) Iteration
  | none => return .blocked
  | some exit => do
      let p := p.recordCompletedExit exit.reason
      settle observer p (← attaching p.exitReasons (dispatchVcpuExit exit))

/-- One iteration of the loop. -/
def runIteration (behaviour : ℕ → GuestEntry) (observer : Observer ω O) (p : Progress) :
    EStateM (Error ω) (Machine O) Iteration := do
  reads fun _ => p.budget.ensureRunAllowed p.exitReasons
  completeExit observer p (← runOnce behaviour)

/-- The loop, for a number of iterations; nothing is returned when the guest does not come back. -/
def runLoop (behaviour : ℕ → GuestEntry) (observer : Observer ω O) :
    ℕ → Progress → EStateM (Error ω) (Machine O) (Option VmExecutionResult)
  | 0, _ => return none
  | fuel + 1, p => do
      match ← runIteration behaviour observer p with
      | .blocked => return none
      | .next p => runLoop behaviour observer fuel p
      | .finished result => return some result

/-- `run_vcpu_until_stopped_with_mmio_observer` (`src/execution.rs`, lines 61-105).  The budget
refuses the iteration after its last exit, so that the iterations suffice. -/
def runVcpuUntilStoppedWithMmioObserver (behaviour : ℕ → GuestEntry) (observer : Observer ω O)
    (exitBudget : UInt32) : EStateM (Error ω) (Machine O) (Option VmExecutionResult) := do
  let budget := ExitBudget.new (← get).id exitBudget
  runLoop behaviour observer (exitBudget.toNat + 1) ⟨budget, [], [], []⟩

/-! ### What the kernel did -/

/-- The mapping that an entry leaves, if it completes an exit. -/
def GuestEntry.mapping? (entry : GuestEntry) (run : KvmRunMapping) : Option KvmRunMapping :=
  match entry.outcome with
  | .exited contents _ => some { run with contents }
  | _ => none

section Kernel

variable (behaviour : ℕ → GuestEntry) (machine : Machine O)

/-- The mappings that the first `n` entries from a machine leave, of those that complete an exit. -/
def completedExits (n : ℕ) : List KvmRunMapping :=
  (List.range n).filterMap fun i => (behaviour (machine.entries + i)).mapping? machine.run

/-- How often `KVM_RUN` is interrupted during the first `n` entries from a machine. -/
def interruptions (n : ℕ) : ℕ :=
  ((List.range n).map fun i => (behaviour (machine.entries + i)).interruptions).sum

/-- What no service changes, after `n` entries. -/
def frameAfter (n : ℕ) : (UInt16 × ℕ × ℕ) × ℕ :=
  ((machine.id, machine.entries + n, machine.kvmRuns + n + interruptions behaviour machine n),
    machine.run.len)

variable {behaviour machine}

theorem completedExits_succ {n : ℕ} {contents : ByteMap}
    {registers : Except String VcpuRegisters}
    (h : (behaviour (machine.entries + n)).outcome = .exited contents registers) :
    completedExits behaviour machine (n + 1) =
      completedExits behaviour machine n ++ [{ machine.run with contents }] := by
  have hmapping : (behaviour (machine.entries + n)).mapping? machine.run =
      some { machine.run with contents } := by
    rw [GuestEntry.mapping?, h]
  simp only [completedExits, List.range_succ, List.filterMap_append, List.filterMap_cons,
    List.filterMap_nil, hmapping]

theorem interruptions_succ (n : ℕ) :
    interruptions behaviour machine (n + 1) =
      interruptions behaviour machine n + (behaviour (machine.entries + n)).interruptions := by
  simp only [interruptions, List.range_succ, List.map_append, List.sum_append, List.map_cons,
    List.map_nil, List.sum_singleton]

end Kernel

/-- The payloads of the exits with a reason, as they are decoded. -/
def payloads {α : Type} (reason : UInt32) (decode : KvmRunMapping → Except VmExitError α)
    (exits : List KvmRunMapping) : List (Except VmExitError α) :=
  (exits.filter (·.exitReason = reason)).map decode

section Payloads

variable {α : Type} {reason : UInt32} {decode : KvmRunMapping → Except VmExitError α}
  {exits : List KvmRunMapping} {run : KvmRunMapping}

theorem payloads_concat (h : run.exitReason = reason) :
    payloads reason decode (exits ++ [run]) = payloads reason decode exits ++ [decode run] := by
  simp [payloads, h]

theorem payloads_concat_of_ne (h : run.exitReason ≠ reason) :
    payloads reason decode (exits ++ [run]) = payloads reason decode exits := by
  simp [payloads, h]

end Payloads

/-- The exit of the next entry completes, is serviced as a port or MMIO access, and the observer
accepts it. -/
def ServicesExit (behaviour : ℕ → GuestEntry) (observer : Observer ω O) (m m' : Machine O) : Prop :=
  ∃ exit m₁ continuation m₂,
    (runOnce behaviour : EStateM (Error ω) _ _).run m = .ok (some exit) m₁ ∧
    (dispatchVcpuExit exit : EStateM (Error ω) _ _).run m₁ = .ok (.continue continuation) m₂ ∧
    (observe observer continuation).run m₂ = .ok () m'

/-- So many exits in a row complete, are serviced and are accepted. -/
def ServicedExits (behaviour : ℕ → GuestEntry) (observer : Observer ω O) :
    ℕ → Machine O → Machine O → Prop
  | 0, m, m' => m' = m
  | n + 1, m, m' => ∃ t, ServicedExits behaviour observer n m t ∧
      ServicesExit behaviour observer t m'

section Serviced

variable {behaviour : ℕ → GuestEntry} {observer : Observer ω O} {m a b : Machine O}

theorem ServicesExit.unique (ha : ServicesExit behaviour observer m a)
    (hb : ServicesExit behaviour observer m b) : a = b := by
  obtain ⟨exit, m₁, c, m₂, hrun, hdispatch, hobserve⟩ := ha
  obtain ⟨exit', m₁', c', m₂', hrun', hdispatch', hobserve'⟩ := hb
  cases hrun.symm.trans hrun'
  cases hdispatch.symm.trans hdispatch'
  cases hobserve.symm.trans hobserve'
  rfl

theorem ServicedExits.unique {n : ℕ} (ha : ServicedExits behaviour observer n m a)
    (hb : ServicedExits behaviour observer n m b) : a = b := by
  induction n generalizing a b with
  | zero => exact ha.trans hb.symm
  | succ n ih =>
      obtain ⟨s, hs, ha⟩ := ha
      obtain ⟨t, ht, hb⟩ := hb
      cases ih hs ht
      exact ha.unique hb

theorem ServicedExits.of_le {k n : ℕ} (h : ServicedExits behaviour observer n m a) (hk : k ≤ n) :
    ∃ b, ServicedExits behaviour observer k m b := by
  induction n generalizing a with
  | zero =>
      obtain rfl : k = 0 := by omega
      exact ⟨a, h⟩
  | succ n ih =>
      rcases hk.lt_or_eq with hlt | rfl
      · obtain ⟨t, ht, -⟩ := h
        exact ih ht (by omega)
      · exact ⟨a, h⟩

end Serviced

/-! ### Errors with a trace -/

section Trace

variable {e : Error ω} {exitReasons : List UInt32}

theorem trace?_attach (h : ¬ e.IsBudgetExhausted) :
    (attachCompletedExitTrace exitReasons e).trace? = e.trace?.map fun _ => exitReasons := by
  cases e with
  | vmExit error =>
      cases error with
      | exitBudgetExhausted => exact (h trivial).elim
      | _ => rfl
  | _ => rfl

theorem isBudgetExhausted_attach :
    (attachCompletedExitTrace exitReasons e).IsBudgetExhausted ↔ e.IsBudgetExhausted := by
  cases e with
  | vmExit error => cases error <;> exact Iff.rfl
  | _ => exact Iff.rfl

theorem not_isBudgetExhausted_of_trace? (h : e.trace? = none) : ¬ e.IsBudgetExhausted := by
  cases e with
  | vmExit error =>
      cases error with
      | exitBudgetExhausted => cases h
      | _ => exact not_false
  | _ => exact not_false

end Trace

/-! ### The bookkeeping -/

section Accounting

variable (behaviour : ℕ → GuestEntry) (observer : Observer ω O) (machine : Machine O)
  (limit : UInt32)

/-- The counter and the trace after `n` exits completed. -/
structure Recorded (n : ℕ) (p : Progress) (m : Machine O) : Prop where
  le : n ≤ limit.toNat
  frame : m.frame = frameAfter behaviour machine n
  length : (completedExits behaviour machine n).length = n
  exitReasons : p.exitReasons = (completedExits behaviour machine n).map (·.exitReason)
  budget : p.budget = ⟨machine.id, limit, .ofNat n, p.exitReasons.getLast?⟩

/-- The payloads of exits that were serviced. -/
structure Collected (exits : List KvmRunMapping) (ioExits : List PortIoExit)
    (mmioExits : List MmioExit) : Prop where
  serviced : ∀ run ∈ exits, run.exitReason = kvmExitIo ∨ run.exitReason = kvmExitMmio
  ioExits : ioExits.map .ok = payloads kvmExitIo (·.portIoExit machine.id) exits
  mmioExits : mmioExits.map .ok = payloads kvmExitMmio (·.mmioExit machine.id) exits

/-- The loop before its next iteration, after `n` exits. -/
structure Progressed (n : ℕ) (p : Progress) (m : Machine O) : Prop
    extends Recorded behaviour machine limit n p m where
  collected : Collected machine (completedExits behaviour machine n) p.ioExits p.mmioExits
  servicedExits : ServicedExits behaviour observer n machine m

/-- The run ends with an exit that is not serviced, or without one, before the budget is used
up. -/
structure EndsEarly (n : ℕ) (m : Machine O) : Prop where
  lt : n < limit.toNat
  frame : m.frame = frameAfter behaviour machine (n + 1)
  not_serviced : ¬ ∃ t, ServicedExits behaviour observer (n + 1) machine t

/-- The result of a run that the last of `n` exits stopped. -/
structure Stops (n : ℕ) (result : VmExecutionResult) : Prop where
  exitReasons : result.exitReasons = (completedExits behaviour machine n).map (·.exitReason)
  length : result.exitReasons.length = n
  count : result.completedExits.toNat = n
  last : result.exitReasons.getLast? = some result.report.exit.reason
  earlier : ∀ reason ∈ result.exitReasons.dropLast, reason = kvmExitIo ∨ reason = kvmExitMmio
  ioExits : result.ioExits.map .ok =
    payloads kvmExitIo (·.portIoExit machine.id) (completedExits behaviour machine n)
  mmioExits : result.mmioExits.map .ok =
    payloads kvmExitMmio (·.mmioExit machine.id) (completedExits behaviour machine n)

/-- The ways in which a run ends. -/
inductive RunEnds : EStateM.Result (Error ω) (Machine O) (Option VmExecutionResult) → Prop
  | exhausted {p m} (h : Progressed behaviour observer machine limit limit.toNat p m) :
      RunEnds (.error (.vmExit (.exitBudgetExhausted machine.id limit limit
        p.exitReasons.getLast? p.exitReasons)) m)
  | blocked {n m} (early : EndsEarly behaviour observer machine limit n m)
      (h : (behaviour (machine.entries + n)).outcome = .blocked) : RunEnds (.ok none m)
  | failed {n e m} (early : EndsEarly behaviour observer machine limit n m)
      (h : ¬ e.IsBudgetExhausted)
      (trace : ∀ exitReasons, e.trace? = some exitReasons →
        exitReasons = (completedExits behaviour machine (n + 1)).map (·.exitReason) ∧
          exitReasons.length = n + 1) : RunEnds (.error e m)
  | stopped {n result m} (early : EndsEarly behaviour observer machine limit n m)
      (h : Stops behaviour machine (n + 1) result) : RunEnds (.ok (some result) m)

/-- What an iteration after `n` exits leaves: the loop goes on after one more exit, or the run
ends. -/
def IterationEnds (n : ℕ) : EStateM.Result (Error ω) (Machine O) Iteration → Prop
  | .ok (.next p) m => Progressed behaviour observer machine limit (n + 1) p m
  | .ok .blocked m => RunEnds behaviour observer machine limit (.ok none m)
  | .ok (.finished result) m => RunEnds behaviour observer machine limit (.ok (some result) m)
  | .error e m => RunEnds behaviour observer machine limit (.error e m)

end Accounting

section Steps

variable {behaviour : ℕ → GuestEntry} {observer : Observer ω O} {machine m m' : Machine O}
  {limit : UInt32} {n : ℕ} {p : Progress} {contents : ByteMap}
  {registers : Except String VcpuRegisters}

theorem observe_keeps_frame (observer : Observer ω O) (c : VmExitContinuation) :
    Keeps Machine.frame (observe observer c) :=
  Keeps.within fun _ _ => rfl

theorem throws_observe (hobserver : ∀ c, Throws (fun e => e.trace? = none) (observer c))
    (c : VmExitContinuation) : Throws (fun e => e.trace? = none) (observe observer c) :=
  (hobserver c).within fun _ he => he

theorem Recorded.entries (h : Recorded behaviour machine limit n p m) :
    m.entries = machine.entries + n :=
  congrArg (·.1.2.1) h.frame

theorem Recorded.id (h : Recorded behaviour machine limit n p m) : m.id = machine.id :=
  congrArg (·.1.1) h.frame

theorem Recorded.length_exitReasons (h : Recorded behaviour machine limit n p m) :
    p.exitReasons.length = n := by
  rw [h.exitReasons, List.length_map, h.length]

theorem Recorded.frame_enter (h : Recorded behaviour machine limit n p m) :
    (m.enter (behaviour m.entries).interruptions).frame = frameAfter behaviour machine (n + 1) := by
  have hruns : m.kvmRuns = machine.kvmRuns + n + interruptions behaviour machine n :=
    congrArg (·.1.2.2) h.frame
  have hlen : m.run.len = machine.run.len := congrArg (·.2) h.frame
  simp only [Machine.frame, Machine.enter, frameAfter, interruptions_succ, h.entries, h.id, hruns,
    hlen, Prod.mk.injEq, true_and, and_true]
  omega

theorem Recorded.run_exited (h : Recorded behaviour machine limit n p m) (i : ℕ) :
    ((m.enter i).exited contents registers).run = { machine.run with contents } := by
  have hlen : m.run.len = machine.run.len := congrArg (·.2) h.frame
  simp only [Machine.exited, Machine.enter, hlen]

/-- **Recording an exit.** The counter and the trace stay those of the completed exits. -/
theorem Recorded.record (h : Recorded behaviour machine limit n p m) (hlt : n < limit.toNat)
    (hexit : (behaviour m.entries).outcome = .exited contents registers)
    (hframe : m'.frame = frameAfter behaviour machine (n + 1)) :
    Recorded behaviour machine limit (n + 1)
      (p.recordCompletedExit { machine.run with contents }.exitReason) m' := by
  have hsucc := completedExits_succ (h.entries ▸ hexit)
  refine ⟨hlt, hframe, ?_, ?_, ?_⟩
  · rw [hsucc, List.length_append, h.length, List.length_singleton]
  · rw [hsucc, List.map_append, ← h.exitReasons]
    rfl
  · simp only [Progress.recordCompletedExit, ExitBudget.record, h.budget, List.getLast?_concat,
      UInt32.ofNat_add, UInt32.ofNat_one]

theorem Recorded.completed_lt_iff (h : Recorded behaviour machine limit n p m) :
    p.budget.completed < p.budget.limit ↔ n < limit.toNat := by
  have hn : n < 2 ^ 32 := h.le.trans_lt limit.toNat_lt
  rw [h.budget, UInt32.lt_iff_toNat_lt, UInt32.toNat_ofNat_of_lt' hn]

theorem Collected.reasons {exits : List KvmRunMapping} {ioExits : List PortIoExit}
    {mmioExits : List MmioExit} (h : Collected machine exits ioExits mmioExits) :
    ∀ reason ∈ exits.map (·.exitReason), reason = kvmExitIo ∨ reason = kvmExitMmio :=
  List.forall_mem_map.mpr h.serviced

theorem Collected.push {exits : List KvmRunMapping} {run : KvmRunMapping} {c : VmExitContinuation}
    (h : Collected machine exits p.ioExits p.mmioExits)
    (hc : (run.exitReason = kvmExitIo ∧ ∃ io, c = .portIo io ∧
        run.portIoExit machine.id = .ok io) ∨
      (run.exitReason = kvmExitMmio ∧ ∃ access, c = .mmio access ∧
        run.mmioExit machine.id = .ok access)) :
    Collected machine (exits ++ [run]) (p.push c).ioExits (p.push c).mmioExits := by
  have hreason : run.exitReason = kvmExitIo ∨ run.exitReason = kvmExitMmio :=
    hc.imp And.left And.left
  have hserviced : ∀ r ∈ exits ++ [run], r.exitReason = kvmExitIo ∨ r.exitReason = kvmExitMmio := by
    intro r hr
    rcases List.mem_append.mp hr with hr | hr
    · exact h.serviced r hr
    · exact List.mem_singleton.mp hr ▸ hreason
  obtain ⟨hio, io, rfl, hdecode⟩ | ⟨hmmio, access, rfl, hdecode⟩ := hc
  · have hne : run.exitReason ≠ kvmExitMmio := hio ▸ by decide
    refine ⟨hserviced, ?_, ?_⟩
    · rw [payloads_concat hio, hdecode, ← h.ioExits, Progress.push, List.map_append]
      rfl
    · rw [payloads_concat_of_ne hne, ← h.mmioExits, Progress.push]
  · have hne : run.exitReason ≠ kvmExitIo := hmmio ▸ by decide
    refine ⟨hserviced, ?_, ?_⟩
    · rw [payloads_concat_of_ne hne, ← h.ioExits, Progress.push]
    · rw [payloads_concat hmmio, hdecode, ← h.mmioExits, Progress.push, List.map_append]
      rfl

/-- After exits that were serviced, an entry whose exit is not serviced ends the run early. -/
theorem Progressed.endsEarly (h : Progressed behaviour observer machine limit n p m)
    (hlt : n < limit.toNat) (hframe : m'.frame = frameAfter behaviour machine (n + 1))
    (hnone : ∀ t, ¬ ServicesExit behaviour observer m t) :
    EndsEarly behaviour observer machine limit n m' := by
  refine ⟨hlt, hframe, ?_⟩
  rintro ⟨t, s, hs, ht⟩
  cases h.servicedExits.unique hs
  exact hnone t ht

theorem Progressed.stops {run : KvmRunMapping} {report : VmExitReport} {q : Progress}
    (h : Progressed behaviour observer machine limit n p m)
    (hq : Recorded behaviour machine limit (n + 1) q m')
    (hsucc : completedExits behaviour machine (n + 1) = completedExits behaviour machine n ++ [run])
    (hio : q.ioExits = p.ioExits) (hmmio : q.mmioExits = p.mmioExits)
    (hstop : run.exitReason ≠ kvmExitIo ∧ run.exitReason ≠ kvmExitMmio)
    (hreport : report.exit.reason = run.exitReason) :
    Stops behaviour machine (n + 1) (q.finish report) := by
  have hreasons : q.exitReasons =
      (completedExits behaviour machine n).map (·.exitReason) ++ [run.exitReason] := by
    rw [hq.exitReasons, hsucc, List.map_append]
    rfl
  have hlt : n + 1 < 2 ^ 32 := hq.le.trans_lt limit.toNat_lt
  refine ⟨hq.exitReasons, hq.length_exitReasons, ?_, ?_, ?_, ?_, ?_⟩
  · simp only [Progress.finish, hq.budget, UInt32.toNat_ofNat_of_lt' hlt]
  · simp only [Progress.finish, hreasons, List.getLast?_concat, hreport]
  · simp only [Progress.finish, hreasons, List.dropLast_concat]
    exact h.collected.reasons
  · rw [hsucc, payloads_concat_of_ne hstop.1, ← h.collected.ioExits, ← hio]
    rfl
  · rw [hsucc, payloads_concat_of_ne hstop.2, ← h.collected.mmioExits, ← hmmio]
    rfl

/-- The exit of the next entry completes and leaves the mapping `run`. -/
structure ExitCompletes (behaviour : ℕ → GuestEntry) (observer : Observer ω O)
    (machine : Machine O) (limit : UInt32) (n : ℕ) (p : Progress) (m : Machine O)
    (run : KvmRunMapping) (m₁ : Machine O) : Prop where
  progressed : Progressed behaviour observer machine limit n p m
  lt : n < limit.toNat
  once : (runOnce behaviour : EStateM (Error ω) _ _).run m =
    .ok (some (.fromRaw run.exitReason)) m₁
  run_eq : m₁.run = run
  completedExits : completedExits behaviour machine (n + 1) =
    completedExits behaviour machine n ++ [run]
  recorded : Recorded behaviour machine limit (n + 1) (p.recordCompletedExit run.exitReason) m₁

theorem Progressed.exitCompletes (h : Progressed behaviour observer machine limit n p m)
    (hlt : n < limit.toNat)
    (hexit : (behaviour m.entries).outcome = .exited contents registers) :
    ExitCompletes behaviour observer machine limit n p m { machine.run with contents }
      ((m.enter (behaviour m.entries).interruptions).exited contents registers) where
  progressed := h
  lt := hlt
  once := run_runOnce_exited hexit
  run_eq := h.run_exited _
  completedExits := completedExits_succ (h.entries ▸ hexit)
  recorded := h.record hlt hexit h.frame_enter

theorem Recorded.of_frame (h : Recorded behaviour machine limit n p m) (hm : m'.frame = m.frame) :
    Recorded behaviour machine limit n p m' :=
  ⟨h.le, hm.trans h.frame, h.length, h.exitReasons, h.budget⟩

namespace ExitCompletes

variable {run : KvmRunMapping} {m₁ m₂ : Machine O} {e : Error ω}

theorem calls_of_servicesExit (h : ExitCompletes behaviour observer machine limit n p m run m₁)
    (hserviced : ServicesExit behaviour observer m m') :
    ∃ c m₂, (dispatchVcpuExit (.fromRaw run.exitReason) : EStateM (Error ω) _ _).run m₁ =
        .ok (.continue c) m₂ ∧ (observe observer c).run m₂ = .ok () m' := by
  obtain ⟨exit, s, c, m₂, honce, hcalls⟩ := hserviced
  cases h.once.symm.trans honce
  exact ⟨c, m₂, hcalls⟩

/-- An error of the service or of the observer ends the run, with the trace of all exits. -/
theorem failed (h : ExitCompletes behaviour observer machine limit n p m run m₁)
    (hframe : m₂.frame = m₁.frame) (hnone : ∀ t, ¬ ServicesExit behaviour observer m t)
    (he : ¬ e.IsBudgetExhausted) :
    RunEnds behaviour observer machine limit (.error (attachCompletedExitTrace
      (p.recordCompletedExit run.exitReason).exitReasons e) m₂) := by
  have hrecorded := h.recorded.of_frame hframe
  refine .failed (h.progressed.endsEarly h.lt hrecorded.frame hnone)
    (isBudgetExhausted_attach.not.mpr he) fun exitReasons htrace => ?_
  rw [trace?_attach he, Option.map_eq_some_iff] at htrace
  obtain ⟨-, -, rfl⟩ := htrace
  exact ⟨hrecorded.exitReasons, hrecorded.length_exitReasons⟩

theorem stopped (h : ExitCompletes behaviour observer machine limit n p m run m₁)
    {report : VmExitReport}
    (hdispatch : (dispatchVcpuExit (.fromRaw run.exitReason) : EStateM (Error ω) _ _).run m₁ =
      .ok (.stopped report) m₂) (hframe : m₂.frame = m₁.frame) :
    RunEnds behaviour observer machine limit
      (.ok (some ((p.recordCompletedExit run.exitReason).finish report)) m₂) := by
  have hrecorded := h.recorded.of_frame hframe
  have hnone : ∀ t, ¬ ServicesExit behaviour observer m t := by
    intro t ht
    obtain ⟨c, s, hserviced, -⟩ := h.calls_of_servicesExit ht
    cases hdispatch.symm.trans hserviced
  obtain ⟨-, _, ⟨⟩, -⟩ | ⟨-, _, ⟨⟩, -⟩ | ⟨hstop, _, ⟨⟩, hreport⟩ := dispatch_eq_ok hdispatch
  have hreason : run.exitReason ≠ kvmExitIo ∧ run.exitReason ≠ kvmExitMmio := by
    rcases hstop with hstop | hstop | hstop
    all_goals
      rw [VcpuExit.eq_reason_of_fromRaw hstop]
      decide
  refine .stopped (h.progressed.endsEarly h.lt hrecorded.frame hnone)
    (h.progressed.stops hrecorded h.completedExits rfl rfl hreason ?_)
  rw [hreport, VcpuExit.reason_fromRaw]

theorem continued (h : ExitCompletes behaviour observer machine limit n p m run m₁)
    {c : VmExitContinuation}
    (hdispatch : (dispatchVcpuExit (.fromRaw run.exitReason) : EStateM (Error ω) _ _).run m₁ =
      .ok (.continue c) m₂) (hobserve : (observe observer c).run m₂ = .ok () m')
    (hframe : m'.frame = m₁.frame) :
    Progressed behaviour observer machine limit (n + 1)
      ((p.recordCompletedExit run.exitReason).push c) m' := by
  have hrecorded := h.recorded.of_frame hframe
  have hserviced : ServicesExit behaviour observer m m' :=
    ⟨_, m₁, c, m₂, h.once, hdispatch, hobserve⟩
  have hpayload := dispatch_eq_ok hdispatch
  rw [h.run_eq, h.recorded.id] at hpayload
  have hcollected : Collected machine (MiniHypervisor.Execution.completedExits behaviour machine
      (n + 1)) ((p.recordCompletedExit run.exitReason).push c).ioExits
        ((p.recordCompletedExit run.exitReason).push c).mmioExits := by
    rw [h.completedExits]
    refine Collected.push (p := p.recordCompletedExit run.exitReason) h.progressed.collected ?_
    obtain ⟨hio, io, hc, hdecode⟩ | ⟨hmmio, access, hc, hdecode⟩ | ⟨-, _, ⟨⟩, -⟩ := hpayload
    · exact .inl ⟨VcpuExit.eq_reason_of_fromRaw hio, io, VmExitDisposition.continue.inj hc, hdecode⟩
    · exact .inr ⟨VcpuExit.eq_reason_of_fromRaw hmmio, access, VmExitDisposition.continue.inj hc,
        hdecode⟩
  refine ⟨⟨hrecorded.le, hrecorded.frame, hrecorded.length, ?_, ?_⟩, hcollected,
    m, h.progressed.servicedExits, hserviced⟩
  · cases c <;> exact hrecorded.exitReasons
  · cases c <;> exact hrecorded.budget

/-- **The service of an exit within the loop.** The loop goes on after one more exit, or the run
ends with the result or the error of the exit. -/
theorem ends (hobserver : ∀ c, Throws (fun e => e.trace? = none) (observer c))
    (h : ExitCompletes behaviour observer machine limit n p m run m₁) :
    IterationEnds behaviour observer machine limit n
      ((completeExit observer p (some (.fromRaw run.exitReason))).run m₁) := by
  have hframe := dispatch_keeps_frame (ω := ω) (.fromRaw run.exitReason) m₁
  rw [completeExit, VcpuExit.reason_fromRaw]
  cases hdispatch :
      (dispatchVcpuExit (.fromRaw run.exitReason) : EStateM (Error ω) _ _).run m₁ with
  | error e m₂ =>
      rw [hdispatch] at hframe
      rw [run_bind_of_error (run_attaching_of_error hdispatch)]
      refine h.failed hframe (fun t ht => ?_) (dispatch_throws _ _ _ _ hdispatch)
      obtain ⟨c, s, hserviced, -⟩ := h.calls_of_servicesExit ht
      cases hdispatch.symm.trans hserviced
  | ok d m₂ =>
      rw [hdispatch] at hframe
      rw [run_bind_of_ok (run_attaching_of_ok hdispatch)]
      cases d with
      | stopped report => exact h.stopped hdispatch hframe
      | «continue» c =>
          have hframe' := observe_keeps_frame observer c m₂
          cases hobserve : (observe observer c).run m₂ with
          | error e m₃ =>
              rw [hobserve] at hframe'
              rw [settle, run_bind_of_error (run_attaching_of_error hobserve)]
              refine h.failed (hframe'.trans hframe) (fun t ht => ?_)
                (not_isBudgetExhausted_of_trace? (throws_observe hobserver c _ _ _ hobserve))
              obtain ⟨c', s, hserviced, haccepted⟩ := h.calls_of_servicesExit ht
              cases hdispatch.symm.trans hserviced
              cases hobserve.symm.trans haccepted
          | ok u m₃ =>
              rw [hobserve] at hframe'
              rw [settle, run_bind_of_ok (run_attaching_of_ok hobserve)]
              exact h.continued hdispatch hobserve (hframe'.trans hframe)

end ExitCompletes

/-- **One iteration.** The budget refuses it, the guest does not come back, `KVM_RUN` fails, or an
exit completes. -/
theorem runIteration_ends (hobserver : ∀ c, Throws (fun e => e.trace? = none) (observer c))
    (h : Progressed behaviour observer machine limit n p m) :
    IterationEnds behaviour observer machine limit n
      ((runIteration behaviour observer p).run m) := by
  simp only [runIteration, ExitBudget.ensureRunAllowed]
  rcases h.le.lt_or_eq with hlt | rfl
  · rw [run_bind_of_ok (run_guard_of_not (not_not.mpr (h.completed_lt_iff.mpr hlt)))]
    cases houtcome : (behaviour m.entries).outcome with
    | blocked =>
        have honce := run_runOnce_blocked (ω := ω) houtcome
        rw [run_bind_of_ok honce]
        refine .blocked (h.endsEarly hlt h.frame_enter ?_) (h.entries ▸ houtcome)
        rintro t ⟨exit, s, c, s', hexit, -⟩
        cases honce.symm.trans hexit
    | failed source =>
        have honce := run_runOnce_failed (ω := ω) houtcome
        rw [run_bind_of_error honce]
        refine .failed (h.endsEarly hlt h.frame_enter ?_) not_false nofun
        rintro t ⟨exit, s, c, s', hexit, -⟩
        cases honce.symm.trans hexit
    | exited contents registers =>
        have hcompletes := h.exitCompletes hlt houtcome
        rw [run_bind_of_ok hcompletes.once]
        exact hcompletes.ends hobserver
  · rw [run_bind_of_error (run_guard_of (h.completed_lt_iff.not.mpr (lt_irrefl _))), h.budget,
      UInt32.ofNat_toNat]
    exact .exhausted h

/-- **How the loop ends.** By induction on the iterations that are left, which suffice for the
exits that are left. -/
theorem runLoop_ends (hobserver : ∀ c, Throws (fun e => e.trace? = none) (observer c))
    {fuel : ℕ} (hfuel : limit.toNat - n < fuel)
    (h : Progressed behaviour observer machine limit n p m) :
    RunEnds behaviour observer machine limit ((runLoop behaviour observer fuel p).run m) := by
  induction fuel generalizing n p m with
  | zero => omega
  | succ fuel ih =>
      have hends := runIteration_ends hobserver h
      rw [runLoop]
      cases hrun : (runIteration behaviour observer p).run m with
      | error e m' =>
          rw [hrun] at hends
          rw [run_bind_of_error hrun]
          exact hends
      | ok i m' =>
          rw [hrun] at hends
          rw [run_bind_of_ok hrun]
          cases i with
          | blocked => exact hends
          | finished result => exact hends
          | next q =>
              have hle := hends.le
              exact ih (by omega) hends

theorem counters_of_frame (h : m.frame = frameAfter behaviour machine n) :
    m.entries = machine.entries + n ∧
      m.kvmRuns = machine.kvmRuns + n + interruptions behaviour machine n :=
  ⟨congrArg (·.1.2.1) h, congrArg (·.1.2.2) h⟩

theorem EndsEarly.not_servicedExits (h : EndsEarly behaviour observer machine limit n m) :
    ¬ ∃ t, ServicedExits behaviour observer limit.toNat machine t := by
  rintro ⟨t, ht⟩
  exact h.not_serviced (ht.of_le h.lt)

theorem progressed_start :
    Progressed behaviour observer machine limit 0 ⟨.new machine.id limit, [], [], []⟩ machine where
  le := Nat.zero_le _
  frame := rfl
  length := rfl
  exitReasons := rfl
  budget := rfl
  collected := ⟨nofun, rfl, rfl⟩
  servicedExits := rfl

end Steps

/-- **Accounting of a run.** For every kernel, machine and budget, and every observer whose errors
carry no trace, the guest is entered at most as often as the budget allows; `KVM_RUN` is called once
for each entry and once more for each interruption.  The budget is reported as used up exactly when
all its exits were serviced and accepted, and then with the trace of all of them.  A result accounts
for every exit, and so does every error with a trace.  A run returns, unless `KVM_RUN` does not. -/
theorem run_accounting (behaviour : ℕ → GuestEntry) (observer : Observer ω O) (machine : Machine O)
    (exitBudget : UInt32) (hobserver : ∀ c, Throws (fun e => e.trace? = none) (observer c)) :
    let outcome := (runVcpuUntilStoppedWithMmioObserver behaviour observer exitBudget).run machine
    ∃ n ≤ exitBudget.toNat,
      ((finalState outcome).entries = machine.entries + n ∧
        (finalState outcome).kvmRuns =
          machine.kvmRuns + n + interruptions behaviour machine n) ∧
      ((∃ e m, outcome = .error e m ∧ e.IsBudgetExhausted) ↔
        ∃ m, ServicedExits behaviour observer exitBudget.toNat machine m) ∧
      (∀ e m, outcome = .error e m → e.IsBudgetExhausted →
        n = exitBudget.toNat ∧ ∃ exitReasons : List UInt32,
          e = .vmExit (.exitBudgetExhausted machine.id exitBudget exitBudget
            exitReasons.getLast? exitReasons) ∧
          exitReasons = (completedExits behaviour machine n).map (·.exitReason) ∧
          exitReasons.length = n ∧
          ∀ reason ∈ exitReasons, reason = kvmExitIo ∨ reason = kvmExitMmio) ∧
      (∀ result m, outcome = .ok (some result) m → Stops behaviour machine n result) ∧
      (∀ e m exitReasons, outcome = .error e m → e.trace? = some exitReasons →
        exitReasons = (completedExits behaviour machine n).map (·.exitReason) ∧
          exitReasons.length = n) ∧
      ∀ m, outcome = .ok none m →
        ∃ k, n = k + 1 ∧ (behaviour (machine.entries + k)).outcome = .blocked := by
  intro outcome
  have hends : RunEnds behaviour observer machine exitBudget outcome :=
    runLoop_ends hobserver (Nat.lt_succ_of_le (Nat.sub_le _ _)) progressed_start
  generalize outcome = r at hends ⊢
  cases hends with
  | @exhausted p m h =>
      refine ⟨exitBudget.toNat, le_rfl, counters_of_frame h.frame,
        ⟨fun _ => ⟨m, h.servicedExits⟩, fun _ => ⟨_, m, rfl, trivial⟩⟩, ?_, ?_, ?_, ?_⟩
      · rintro _ _ ⟨⟩ -
        refine ⟨rfl, p.exitReasons, rfl, h.exitReasons, h.length_exitReasons, ?_⟩
        rw [h.exitReasons]
        exact h.collected.reasons
      · rintro _ _ ⟨⟩
      · rintro _ _ _ ⟨⟩ ⟨⟩
        exact ⟨h.exitReasons, h.length_exitReasons⟩
      · rintro _ ⟨⟩
  | @blocked n m early h =>
      refine ⟨n + 1, early.lt, counters_of_frame early.frame,
        iff_of_false ?_ early.not_servicedExits, ?_, ?_, ?_, ?_⟩
      · rintro ⟨_, _, ⟨⟩, -⟩
      · rintro _ _ ⟨⟩
      · rintro _ _ ⟨⟩
      · rintro _ _ _ ⟨⟩
      · exact fun _ _ => ⟨n, rfl, h⟩
  | @failed n e m early h trace =>
      refine ⟨n + 1, early.lt, counters_of_frame early.frame,
        iff_of_false ?_ early.not_servicedExits, ?_, ?_, ?_, ?_⟩
      · rintro ⟨_, _, ⟨⟩, he⟩
        exact (h he).elim
      · rintro _ _ ⟨⟩ he
        exact (h he).elim
      · rintro _ _ ⟨⟩
      · rintro _ _ exitReasons ⟨⟩ he
        exact trace exitReasons he
      · rintro _ ⟨⟩
  | @stopped n result m early h =>
      refine ⟨n + 1, early.lt, counters_of_frame early.frame,
        iff_of_false ?_ early.not_servicedExits, ?_, ?_, ?_, ?_⟩
      · rintro ⟨_, _, ⟨⟩, -⟩
      · rintro _ _ ⟨⟩
      · rintro _ _ ⟨⟩
        exact h
      · rintro _ _ _ ⟨⟩
      · rintro _ ⟨⟩

/-- A guest that writes a byte to the debug port and halts; its first entry is interrupted once. -/
def printThenHalt (k : ℕ) : GuestEntry :=
  if k = 0 then
    ⟨1, .exited (fun i => ([(8, 2), (32, 1), (33, 1), (34, 0xe9), (36, 1), (40, 64),
      (64, 0x41)].lookup i).getD 0) (.ok ⟨0, 2⟩)⟩
  else ⟨0, .exited (fun i => if i = 8 then 5 else 0) (.ok ⟨1, 2⟩)⟩

/-- A vCPU with a debug port. -/
def debugMachine : Machine Unit where
  id := 0
  supportsInternalErrorData := true
  run := ⟨fun _ => 0, requiredKvmRunPrefixSize, le_rfl⟩
  registers := .ok ⟨0, 2⟩
  portIo := .withDebugPort
  mmio := .empty
  observed := ()
  entries := 0
  kvmRuns := 0

theorem run_accounting_printThenHalt :
    ∃ result m, (runVcpuUntilStoppedWithMmioObserver printThenHalt
        (fun _ => pure () : Observer Empty Unit) 3).run debugMachine = .ok (some result) m ∧
      Stops printThenHalt debugMachine 2 result ∧ result.exitReasons = [kvmExitIo, kvmExitHlt] ∧
      result.ioExits = [⟨.out, 1, 0xe9, 1, [0x41]⟩] ∧ m.kvmRuns = 3 := by
  obtain ⟨n, -, ⟨hentries, -⟩, -, -, hstops, -⟩ := run_accounting printThenHalt
    (fun _ => pure () : Observer Empty Unit) debugMachine 3 fun _ => .pure ()
  refine ⟨_, _, rfl, ?_, rfl, rfl, rfl⟩
  obtain rfl : 2 = n := hentries.trans (Nat.zero_add n)
  exact hstops _ _ rfl

end MiniHypervisor.Execution
