import MiniHypervisor.Control.Outcome
import MiniHypervisor.Control.Refinement
import MiniHypervisor.Kvm.HostRegistration

/-!
# Wait channels

A task blocks on a channel, and a wake that names the channel makes it runnable again
(`src/task/wait_channel.rs`, lines 84-150).  The model counts the wakes that named the channel and
those that named another one in one byte each, and refuses to count further.  The refusal comes
after the update of the task: the call fails and the model is changed.
-/

namespace MiniHypervisor.Task

open Control Kvm

/-- `TaskRunState` (`src/task/wakeup.rs`, lines 28-33). -/
inductive TaskRunState where
  | blocked
  | runnable
  deriving DecidableEq, Repr

def taskWaitChannelNone : UInt8 := 0

/-- `verification_error` (`src/task.rs`, lines 520-526). -/
def verificationError (stage detail : String) : HostEnvironmentError :=
  .vcpuOperation 0 stage detail

/-- A counter of one byte, one higher. -/
def checkedIncrement (count : UInt8) (overflow : HostEnvironmentError) :
    Except HostEnvironmentError UInt8 := do
  rejectIf (count = 255) overflow
  return count + 1

structure WaitChannelModel where
  state : TaskRunState
  owner : UInt8
  mismatchCount : UInt8
  wakeCount : UInt8
  lastAttempt : UInt8
  deriving DecidableEq, Repr

namespace WaitChannelModel

def new : WaitChannelModel where
  state := .runnable
  owner := taskWaitChannelNone
  mismatchCount := 0
  wakeCount := 0
  lastAttempt := taskWaitChannelNone

/-- `WaitChannelModel::block` (lines 104-120). -/
def block (channel : UInt8) : EStateM HostEnvironmentError WaitChannelModel Unit := do
  reads fun _ => rejectIf (channel = taskWaitChannelNone)
    (verificationError "bounded wait-channel block" "channel zero is reserved for no owner")
  reads fun model => rejectIf (model.state ≠ .runnable ∨ model.owner ≠ taskWaitChannelNone)
    (verificationError "bounded wait-channel block"
      "task must be runnable and unowned before blocking")
  modify fun model => { model with state := .blocked, owner := channel }

/-- The end of a wake that names another channel (lines 136-142). -/
def countMismatch : EStateM HostEnvironmentError WaitChannelModel Bool := do
  let count ← reads fun model => checkedIncrement model.mismatchCount
    (verificationError "bounded wait-channel wake" "mismatch count overflow")
  modify fun model => { model with mismatchCount := count }
  return false

/-- The end of a wake that names the channel of the task (lines 143-149). -/
def release : EStateM HostEnvironmentError WaitChannelModel Bool := do
  modify fun model => { model with owner := taskWaitChannelNone, state := .runnable }
  let count ← reads fun model => checkedIncrement model.wakeCount
    (verificationError "bounded wait-channel wake" "wake count overflow")
  modify fun model => { model with wakeCount := count }
  return true

/-- `WaitChannelModel::wake` (lines 122-150). -/
def wake (channel : UInt8) : EStateM HostEnvironmentError WaitChannelModel Bool := do
  reads fun _ => rejectIf (channel = taskWaitChannelNone)
    (verificationError "bounded wait-channel wake" "channel zero cannot wake a task")
  reads fun model => rejectIf (model.state ≠ .blocked ∨ model.owner = taskWaitChannelNone)
    (verificationError "bounded wait-channel wake"
      "wake requires a blocked task with an owning channel")
  modify fun model => { model with lastAttempt := channel }
  if (← get).owner ≠ channel then countMismatch else release

end WaitChannelModel

/-! ### Calls -/

/-- A call of the model. -/
inductive Call where
  | block (channel : UInt8)
  | wake (channel : UInt8)
  deriving DecidableEq, Repr

/-- What a call returns. -/
inductive Returned where
  | blocked
  | woken (matched : Bool)
  | refused (error : HostEnvironmentError)
  deriving DecidableEq, Repr

namespace Call

/-- The call of the model. -/
def run : Call → EStateM HostEnvironmentError WaitChannelModel Returned
  | block channel => do
      WaitChannelModel.block channel
      return .blocked
  | wake channel => return .woken (← WaitChannelModel.wake channel)

/-- The model after a call, whether it succeeds or fails. -/
def next (model : WaitChannelModel) (call : Call) : WaitChannelModel :=
  finalState (call.run.run model)

/-- What a call returns, errors included. -/
def returned (model : WaitChannelModel) (call : Call) : Returned :=
  match call.run.run model with
  | .ok returned _ => returned
  | .error error _ => .refused error

/-- A wake that cannot be counted any more and has changed the model: one that names the channel of
the task, or one that names another channel than the last wake did. -/
def Overflows (model : WaitChannelModel) : Call → Prop
  | block _ => False
  | wake channel => model.state = .blocked ∧ model.owner ≠ taskWaitChannelNone ∧
      channel ≠ taskWaitChannelNone ∧
      ((channel = model.owner ∧ model.wakeCount = 255) ∨
        (channel ≠ model.owner ∧ model.mismatchCount = 255 ∧ channel ≠ model.lastAttempt))

/-- What one call can do. -/
inductive Does (model : WaitChannelModel) : Call → Returned → WaitChannelModel → Prop
  | refuses {call : Call} (error : HostEnvironmentError) (counted : ¬ call.Overflows model)
      (owned : ∀ channel, call = .wake channel →
        channel = taskWaitChannelNone ∨ model.state ≠ .blocked ∨ channel ≠ model.owner) :
      Does model call (.refused error) model
  | blocks {channel : UInt8} (named : channel ≠ taskWaitChannelNone)
      (free : model.owner = taskWaitChannelNone) :
      Does model (.block channel) .blocked { model with state := .blocked, owner := channel }
  | misses {channel : UInt8} (other : channel ≠ model.owner) (below : model.mismatchCount ≠ 255) :
      Does model (.wake channel) (.woken false)
        { model with lastAttempt := channel, mismatchCount := model.mismatchCount + 1 }
  | wakes {channel : UInt8} (named : channel ≠ taskWaitChannelNone) (owner : channel = model.owner)
      (below : model.wakeCount ≠ 255) :
      Does model (.wake channel) (.woken true)
        { model with
          lastAttempt := channel
          owner := taskWaitChannelNone
          state := .runnable
          wakeCount := model.wakeCount + 1 }
  | missOverflows {channel : UInt8} (error : HostEnvironmentError)
      (overflows : (Call.wake channel).Overflows model) (other : channel ≠ model.owner) :
      Does model (.wake channel) (.refused error) { model with lastAttempt := channel }
  | wakeOverflows {channel : UInt8} (error : HostEnvironmentError)
      (overflows : (Call.wake channel).Overflows model) (owner : channel = model.owner) :
      Does model (.wake channel) (.refused error)
        { model with
          lastAttempt := channel
          owner := taskWaitChannelNone
          state := .runnable }

theorem does_of_ok {model model' : WaitChannelModel} {call : Call} {returned : Returned}
    (hrun : call.run.run model = .ok returned model') (h : call.Does model returned model') :
    call.Does model (call.returned model) (call.next model) := by
  rw [Call.returned, next, hrun]
  exact h

theorem does_of_error {model model' : WaitChannelModel} {call : Call} {error : HostEnvironmentError}
    (hrun : call.run.run model = .error error model')
    (h : call.Does model (.refused error) model') :
    call.Does model (call.returned model) (call.next model) := by
  rw [Call.returned, next, hrun]
  exact h

theorem does_block (model : WaitChannelModel) (channel : UInt8) :
    (block channel).Does model ((block channel).returned model) ((block channel).next model) := by
  by_cases hzero : channel = taskWaitChannelNone
  · refine does_of_error (run_bind_of_error (run_bind_of_error (run_guard_of hzero))) ?_
    exact .refuses _ id nofun
  by_cases hbusy : model.state ≠ .runnable ∨ model.owner ≠ taskWaitChannelNone
  · refine does_of_error (run_bind_of_error ((run_bind_of_ok (run_guard_of_not hzero)).trans
      (run_bind_of_error (run_reads_of_error (if_pos hbusy))))) ?_
    exact .refuses _ id nofun
  · refine does_of_ok (run_bind_of_ok ((run_bind_of_ok (run_guard_of_not hzero)).trans
      (run_bind_of_ok (run_reads_of_ok (if_neg hbusy))))) ?_
    exact .blocks hzero (not_not.mp (not_or.mp hbusy).2)

theorem checkedIncrement_of_ne {count : UInt8} (h : count ≠ 255) (overflow : HostEnvironmentError) :
    checkedIncrement count overflow = .ok (count + 1) :=
  rejectIf_bind_eq_ok.mpr ⟨h, rfl⟩

theorem checkedIncrement_of_eq {count : UInt8} (h : count = 255) (overflow : HostEnvironmentError) :
    checkedIncrement count overflow = .error overflow := by
  rw [h]
  rfl

theorem run_release (model : WaitChannelModel) :
    WaitChannelModel.release.run model = (do
      let count ← reads fun model : WaitChannelModel => checkedIncrement model.wakeCount
        (verificationError "bounded wait-channel wake" "wake count overflow")
      modify fun model => { model with wakeCount := count }
      return true : EStateM HostEnvironmentError WaitChannelModel Bool).run
        { model with owner := taskWaitChannelNone, state := .runnable } :=
  run_bind_of_ok rfl

theorem does_wake (model : WaitChannelModel) (channel : UInt8) :
    (wake channel).Does model ((wake channel).returned model) ((wake channel).next model) := by
  by_cases hzero : channel = taskWaitChannelNone
  · refine does_of_error (run_bind_of_error (run_bind_of_error (run_guard_of hzero))) ?_
    refine .refuses _ (fun h => h.2.2.1 hzero) ?_
    rintro _ ⟨⟩
    exact .inl hzero
  by_cases hidle : model.state ≠ .blocked ∨ model.owner = taskWaitChannelNone
  · refine does_of_error (run_bind_of_error ((run_bind_of_ok (run_guard_of_not hzero)).trans
      (run_bind_of_error (run_reads_of_error (if_pos hidle))))) ?_
    refine .refuses _ (fun h => hidle.elim (· h.1) h.2.1) ?_
    rintro _ ⟨⟩
    rcases hidle with hstate | hfree
    · exact .inr (.inl hstate)
    · exact .inr (.inr fun h => hzero (h.trans hfree))
  have hrun : (WaitChannelModel.wake channel).run model =
      (if model.owner ≠ channel then WaitChannelModel.countMismatch
        else WaitChannelModel.release).run { model with lastAttempt := channel } :=
    (run_bind_of_ok (run_guard_of_not hzero)).trans
      (run_bind_of_ok (run_reads_of_ok (if_neg hidle)))
  obtain ⟨hstate, howner⟩ := not_or.mp hidle
  have hblocked := not_not.mp hstate
  by_cases hmatch : channel = model.owner
  · rw [if_neg (not_not.mpr hmatch.symm)] at hrun
    have hrelease := hrun.trans (run_release _)
    by_cases hfull : model.wakeCount = 255
    · refine does_of_error (run_bind_of_error (hrelease.trans (run_bind_of_error
        (run_reads_of_error (checkedIncrement_of_eq hfull _))))) ?_
      exact .wakeOverflows _ ⟨hblocked, howner, hzero, .inl ⟨hmatch, hfull⟩⟩ hmatch
    · refine does_of_ok (run_bind_of_ok (hrelease.trans (run_bind_of_ok
        (run_reads_of_ok (checkedIncrement_of_ne hfull _))))) ?_
      exact .wakes hzero hmatch hfull
  · rw [if_pos (Ne.symm hmatch)] at hrun
    by_cases hfull : model.mismatchCount = 255
    · refine does_of_error (run_bind_of_error (hrun.trans (run_bind_of_error
        (run_reads_of_error (checkedIncrement_of_eq hfull _))))) ?_
      by_cases hlast : channel = model.lastAttempt
      · subst hlast
        refine .refuses _ ?_ ?_
        · rintro ⟨-, -, -, ⟨hsame, -⟩ | ⟨-, -, hnew⟩⟩
          · exact hmatch hsame
          · exact hnew rfl
        · rintro _ ⟨⟩
          exact .inr (.inr hmatch)
      · exact .missOverflows _ ⟨hblocked, howner, hzero, .inr ⟨hmatch, hfull, hlast⟩⟩ hmatch
    · refine does_of_ok (run_bind_of_ok (hrun.trans (run_bind_of_ok
        (run_reads_of_ok (checkedIncrement_of_ne hfull _))))) ?_
      exact .misses hmatch hfull

/-- **What one call can do.** -/
theorem does (model : WaitChannelModel) (call : Call) :
    call.Does model (call.returned model) (call.next model) := by
  cases call with
  | block channel => exact does_block model channel
  | wake channel => exact does_wake model channel

end Call

/-! ### Runs -/

/-- The model after some calls. -/
def reach (calls : List Call) : WaitChannelModel := runSteps Call.next .new calls

/-- What the calls returned, in order. -/
def returns (calls : List Call) : List Returned := eventsOf Call.next Call.returned .new calls

/-- The task has a channel exactly while it is blocked, and the counters are the numbers of wakes
that were counted. -/
structure Tracks (returns : List Returned) (model : WaitChannelModel) : Prop where
  blocked_iff : model.state = .blocked ↔ model.owner ≠ taskWaitChannelNone
  wakeCount : model.wakeCount.toNat = returns.count (.woken true)
  mismatchCount : model.mismatchCount.toNat = returns.count (.woken false)

section Tracks

variable {model model' : WaitChannelModel} {call : Call} {past : List Returned}
  {returned : Returned}

theorem toNat_increment {count : UInt8} (h : count ≠ 255) :
    (count + 1).toNat = count.toNat + 1 := by
  have hne : count.toNat ≠ 255 := fun heq => h (UInt8.toNat_inj.mp heq)
  have hlt := count.toNat_lt
  rw [UInt8.toNat_add, UInt8.toNat_one]
  omega

theorem Tracks.step (h : Tracks past model) (hdoes : call.Does model returned model') :
    Tracks (past ++ [returned]) model' := by
  obtain ⟨hblocked, hwakes, hmismatches⟩ := h
  cases hdoes with
  | refuses => exact ⟨hblocked, by simpa using hwakes, by simpa using hmismatches⟩
  | blocks named free =>
      exact ⟨iff_of_true rfl named, by simpa using hwakes, by simpa using hmismatches⟩
  | misses other below =>
      refine ⟨hblocked, by simpa using hwakes, ?_⟩
      rw [toNat_increment below, hmismatches, List.count_append, List.count_singleton_self]
  | wakes named owner below =>
      refine ⟨iff_of_false nofun (not_not.mpr rfl), ?_, by simpa using hmismatches⟩
      rw [toNat_increment below, hwakes, List.count_append, List.count_singleton_self]
  | missOverflows => exact ⟨hblocked, by simpa using hwakes, by simpa using hmismatches⟩
  | wakeOverflows =>
      exact ⟨iff_of_false nofun (not_not.mpr rfl), by simpa using hwakes,
        by simpa using hmismatches⟩

/-- **The channel and the counters along a run.** -/
theorem tracks_run (calls : List Call) : Tracks (returns calls) (reach calls) :=
  history_invariant ⟨by decide, rfl, rfl⟩ (fun _ model call h => h.step (call.does model)) calls

theorem Call.Does.owner_iff {channel : UInt8} (h : (Call.wake channel).Does model returned model')
    (hblocked : model.state = .blocked ↔ model.owner ≠ taskWaitChannelNone) :
    model'.owner ≠ model.owner ↔ channel ≠ taskWaitChannelNone ∧ channel = model.owner := by
  cases h with
  | refuses error counted owned =>
      refine iff_of_false (not_not.mpr rfl) ?_
      rintro ⟨hzero, rfl⟩
      rcases owned _ rfl with hnone | hstate | hother
      · exact hzero hnone
      · exact hstate (hblocked.mpr hzero)
      · exact hother rfl
  | misses other => exact iff_of_false (not_not.mpr rfl) fun h => other h.2
  | wakes named owner => exact iff_of_true (fun h => named (owner.trans h.symm)) ⟨named, owner⟩
  | missOverflows error overflows other =>
      exact iff_of_false (not_not.mpr rfl) fun h => other h.2
  | wakeOverflows error overflows owner =>
      exact iff_of_true (fun h => overflows.2.1 h.symm) ⟨overflows.2.2.1, owner⟩

theorem Call.Does.runnable {channel : UInt8} (h : (Call.wake channel).Does model returned model')
    (hchanged : model'.owner ≠ model.owner) : model'.state = .runnable := by
  cases h with
  | refuses | misses | missOverflows => exact absurd rfl hchanged
  | wakes | wakeOverflows => rfl

theorem Call.Does.woken {channel : UInt8} {matched : Bool}
    (h : (Call.wake channel).Does model (.woken matched) model') :
    matched = true ↔ channel = model.owner := by
  cases h with
  | misses other => exact iff_of_false nofun other
  | wakes named owner => exact iff_of_true rfl owner

theorem Call.Does.unchanged_iff (h : call.Does model returned model') :
    (∀ error, returned = .refused error → model' = model) ↔ ¬ call.Overflows model := by
  cases h with
  | refuses error counted => exact iff_of_true (fun _ _ => rfl) counted
  | blocks => exact iff_of_true nofun id
  | misses other below =>
      refine iff_of_true nofun ?_
      rintro ⟨-, -, -, ⟨hsame, -⟩ | ⟨-, hfull, -⟩⟩
      · exact other hsame
      · exact below hfull
  | wakes named owner below =>
      refine iff_of_true nofun ?_
      rintro ⟨-, -, -, ⟨-, hfull⟩ | ⟨hother, -⟩⟩
      · exact below hfull
      · exact hother owner
  | missOverflows error overflows other =>
      refine iff_of_false (fun h => ?_) (not_not.mpr overflows)
      obtain ⟨-, -, -, ⟨hsame, -⟩ | ⟨-, -, hnew⟩⟩ := overflows
      · exact other hsame
      · exact hnew (congrArg WaitChannelModel.lastAttempt (h error rfl))
  | wakeOverflows error overflows owner =>
      refine iff_of_false (fun h => ?_) (not_not.mpr overflows)
      exact overflows.2.1 (congrArg WaitChannelModel.owner (h error rfl)).symm

end Tracks

/-- A run up to a call is as it should be: the task has a channel exactly while it is blocked, the
counters are right, a wake takes the channel away only if it names it and then makes the task
runnable, and a call that fails changes nothing. -/
structure ExactAt (calls : List Call) (call : Call) : Prop where
  blocked_iff : (reach calls).state = .blocked ↔ (reach calls).owner ≠ taskWaitChannelNone
  wakeCount : (reach calls).wakeCount.toNat = (returns calls).count (.woken true)
  mismatchCount : (reach calls).mismatchCount.toNat = (returns calls).count (.woken false)
  woken_iff : ∀ channel matched, call = .wake channel →
    call.returned (reach calls) = .woken matched →
    (matched = true ↔ channel = (reach calls).owner)
  owner_iff : ∀ channel, call = .wake channel →
    ((call.next (reach calls)).owner ≠ (reach calls).owner ↔
      channel ≠ taskWaitChannelNone ∧ channel = (reach calls).owner)
  runnable : ∀ channel, call = .wake channel →
    (call.next (reach calls)).owner ≠ (reach calls).owner →
    (call.next (reach calls)).state = .runnable
  unchanged : ∀ error, call.returned (reach calls) = .refused error →
    call.next (reach calls) = reach calls

/-- **When the model is exact.** For every run and every call after it, everything is as it should
be exactly when the call does not overflow. -/
theorem wait_channel_exact_iff (calls : List Call) (call : Call) :
    ExactAt calls call ↔ ¬ call.Overflows (reach calls) := by
  have htracks := tracks_run calls
  have hdoes := call.does (reach calls)
  refine ⟨fun h => hdoes.unchanged_iff.mp h.unchanged, fun h => ?_⟩
  exact {
    blocked_iff := htracks.blocked_iff
    wakeCount := htracks.wakeCount
    mismatchCount := htracks.mismatchCount
    woken_iff := by
      rintro channel matched rfl hreturned
      exact (hreturned ▸ hdoes).woken
    owner_iff := by
      rintro channel rfl
      exact hdoes.owner_iff htracks.blocked_iff
    runnable := by
      rintro channel rfl hchanged
      exact hdoes.runnable hchanged
    unchanged := hdoes.unchanged_iff.mpr h }

/-- A task that is blocked and woken some times. -/
def wokenRounds (rounds : ℕ) : List Call :=
  (List.replicate rounds [Call.block 0x11, .wake 0x11]).flatten

theorem runSteps_round : ∀ count : Fin 255,
    runSteps Call.next ⟨.runnable, 0, 0, .ofNat count, 0x11⟩ [.block 0x11, .wake 0x11] =
      ⟨.runnable, 0, 0, .ofNat (count + 1), 0x11⟩ := by
  decide +kernel

theorem wokenRounds_succ (rounds : ℕ) :
    wokenRounds (rounds + 1) = wokenRounds rounds ++ [.block 0x11, .wake 0x11] := by
  rw [wokenRounds, List.replicate_succ', List.flatten_append]
  rfl

theorem reach_wokenRounds {rounds : ℕ} (hpos : 1 ≤ rounds) (h : rounds ≤ 255) :
    reach (wokenRounds rounds) = ⟨.runnable, 0, 0, .ofNat rounds, 0x11⟩ := by
  induction rounds, hpos using Nat.le_induction with
  | base => decide
  | succ rounds hpos ih =>
      rw [reach, wokenRounds_succ, runSteps, List.foldl_append]
      exact (congrArg (List.foldl Call.next · _) (ih (by omega))).trans
        (runSteps_round ⟨rounds, h⟩)

/-- After 255 rounds, a task that is blocked once more is made runnable by a wake that fails. -/
theorem wake_overflow_changes_model :
    (reach (wokenRounds 255 ++ [.block 0x11])).state = .blocked ∧
      Call.returned (reach (wokenRounds 255 ++ [.block 0x11])) (.wake 0x11) =
        .refused (verificationError "bounded wait-channel wake" "wake count overflow") ∧
      (Call.next (reach (wokenRounds 255 ++ [.block 0x11])) (.wake 0x11)).state = .runnable := by
  have hblocked : reach (wokenRounds 255 ++ [.block 0x11]) = ⟨.blocked, 0x11, 0, 255, 0x11⟩ := by
    rw [reach, runSteps_concat, ← reach, reach_wokenRounds (by decide) le_rfl]
    rfl
  rw [hblocked]
  decide

end MiniHypervisor.Task
