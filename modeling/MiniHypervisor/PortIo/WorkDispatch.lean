import MiniHypervisor.Kvm.HostRegistration
import MiniHypervisor.Machine.X86

/-!
# Work dispatch between two vCPUs

Two guest programs hand over one piece of work through a mailbox in guest memory
(`src/portio/two_vcpu_work_dispatch_fixture.rs`).  The first vCPU writes a payload, posts a command
and waits a bounded time for the acknowledgement; the second one waits a bounded time for the
command, claims it, writes twice the payload and acknowledges.

The work is handed over in six transitions of the mailbox, each made by one of the two programs, and
at every instruction of a program only some phases of the mailbox are possible.  The invariant has
one case for each instruction and bounds the number of instructions that are left.

## Main results

* `runningFor_step` : what one action can do.
* `work_dispatch_outcome` : how a run can end, and what the host then reports.
* `work_dispatch_bounded` : every run ends.
-/

namespace MiniHypervisor.PortIo.WorkDispatch

open Bytes Control Kvm X86

/-! ### The programs -/

def bspGuestBytes : List UInt8 :=
  [0x48, 0xc7, 0xc3, 0x00, 0x90, 0x00, 0x00,
    0xb0, 0x42, 0xe6, 0xe9,
    0xc6, 0x03, 0x21,
    0xb0, 0x01, 0x86, 0x43, 0x08,
    0xb0, 0x43, 0xe6, 0xe9,
    0xb9, 0x00, 0x00, 0x00, 0x08,
    0x80, 0x7b, 0x18, 0x01, 0x74, 0x08,
    0xf3, 0x90, 0xff, 0xc9, 0x75, 0xf4, 0xeb, 0x19,
    0x31, 0xc0, 0x86, 0x43, 0x18, 0x3c, 0x01, 0x75, 0x10,
    0x8a, 0x43, 0x10, 0x3c, 0x42, 0x75, 0x09,
    0xb0, 0x56, 0xe6, 0xe9,
    0xb0, 0x44, 0xe6, 0xe9,
    0xf4,
    0xb0, 0x46, 0xe6, 0xe9, 0xf4]

def apGuestBytes : List UInt8 :=
  [0x48, 0xc7, 0xc3, 0x00, 0x90, 0x00, 0x00,
    0xb0, 0x52, 0xe6, 0xe9,
    0xb9, 0x00, 0x00, 0x00, 0x08,
    0x80, 0x7b, 0x08, 0x01, 0x74, 0x08,
    0xf3, 0x90, 0xff, 0xc9, 0x75, 0xf4, 0xeb, 0x1e,
    0x31, 0xc0, 0x86, 0x43, 0x08, 0x3c, 0x01, 0x75, 0x15,
    0x8a, 0x03, 0x00, 0xc0, 0x88, 0x43, 0x10,
    0xb0, 0x01, 0x86, 0x43, 0x18,
    0xb0, 0x50, 0xe6, 0xe9,
    0xb0, 0x44, 0xe6, 0xe9,
    0xf4,
    0xb0, 0x46, 0xe6, 0xe9, 0xf4]

/-- The two vCPUs. -/
inductive Vcpu where
  | bsp
  | ap
  deriving DecidableEq, Repr

/-- The programs at `BSP_ENTRY` and `AP_ENTRY`. -/
def images : Vcpu → Image
  | .bsp => ⟨0x10000, bspGuestBytes⟩
  | .ap => ⟨0x11000, apGuestBytes⟩

/-- The instructions of the first program. -/
inductive BspInstr where
  | setMailbox | loadStart | showStart | writePayload | loadCommand | postCommand | loadPosted
  | showPosted | setPolls | pollAck | jumpAcked | pause | countPoll | jumpPoll | giveUp | clearAl
  | takeAck | compareAck | jumpUnacked | loadResult | compareResult | jumpWrong | loadVerified
  | showVerified | loadDone | showDone | haltDone | loadFailed | showFailed | haltFailed

/-- Where they stand. -/
def BspInstr.line : BspInstr → ℕ × Instr × ℕ
  | setMailbox => (0x10000, .movRbx 0x9000, 0x10007)
  | loadStart => (0x10007, .movAl 0x42, 0x10009)
  | showStart => (0x10009, .out 0xe9, 0x1000b)
  | writePayload => (0x1000b, .movByte 0 0x21, 0x1000e)
  | loadCommand => (0x1000e, .movAl 1, 0x10010)
  | postCommand => (0x10010, .xchg 8, 0x10013)
  | loadPosted => (0x10013, .movAl 0x43, 0x10015)
  | showPosted => (0x10015, .out 0xe9, 0x10017)
  | setPolls => (0x10017, .movEcx 0x8000000, 0x1001c)
  | pollAck => (0x1001c, .cmpByte 0x18 1, 0x10020)
  | jumpAcked => (0x10020, .je 8, 0x10022)
  | pause => (0x10022, .pause, 0x10024)
  | countPoll => (0x10024, .decEcx, 0x10026)
  | jumpPoll => (0x10026, .jne (-12), 0x10028)
  | giveUp => (0x10028, .jmp 0x19, 0x1002a)
  | clearAl => (0x1002a, .xorEaxEax, 0x1002c)
  | takeAck => (0x1002c, .xchg 0x18, 0x1002f)
  | compareAck => (0x1002f, .cmpAl 1, 0x10031)
  | jumpUnacked => (0x10031, .jne 0x10, 0x10033)
  | loadResult => (0x10033, .load 0x10, 0x10036)
  | compareResult => (0x10036, .cmpAl 0x42, 0x10038)
  | jumpWrong => (0x10038, .jne 9, 0x1003a)
  | loadVerified => (0x1003a, .movAl 0x56, 0x1003c)
  | showVerified => (0x1003c, .out 0xe9, 0x1003e)
  | loadDone => (0x1003e, .movAl 0x44, 0x10040)
  | showDone => (0x10040, .out 0xe9, 0x10042)
  | haltDone => (0x10042, .hlt, 0x10043)
  | loadFailed => (0x10043, .movAl 0x46, 0x10045)
  | showFailed => (0x10045, .out 0xe9, 0x10047)
  | haltFailed => (0x10047, .hlt, 0x10048)

def bspListing : Listing (images .bsp) BspInstr where
  line := BspInstr.line
  fetch := by
    rintro ⟨⟩ <;> decide +kernel

/-- The instructions of the second program. -/
inductive ApInstr where
  | setMailbox | loadReady | showReady | setPolls | pollCommand | jumpPosted | pause | countPoll
  | jumpPoll | giveUp | clearAl | claimCommand | compareCommand | jumpUnclaimed | loadPayload
  | doublePayload | storeResult | loadAck | postAck | loadAnswered | showAnswered | loadDone
  | showDone | haltDone | loadFailed | showFailed | haltFailed

/-- Where they stand. -/
def ApInstr.line : ApInstr → ℕ × Instr × ℕ
  | setMailbox => (0x11000, .movRbx 0x9000, 0x11007)
  | loadReady => (0x11007, .movAl 0x52, 0x11009)
  | showReady => (0x11009, .out 0xe9, 0x1100b)
  | setPolls => (0x1100b, .movEcx 0x8000000, 0x11010)
  | pollCommand => (0x11010, .cmpByte 8 1, 0x11014)
  | jumpPosted => (0x11014, .je 8, 0x11016)
  | pause => (0x11016, .pause, 0x11018)
  | countPoll => (0x11018, .decEcx, 0x1101a)
  | jumpPoll => (0x1101a, .jne (-12), 0x1101c)
  | giveUp => (0x1101c, .jmp 0x1e, 0x1101e)
  | clearAl => (0x1101e, .xorEaxEax, 0x11020)
  | claimCommand => (0x11020, .xchg 8, 0x11023)
  | compareCommand => (0x11023, .cmpAl 1, 0x11025)
  | jumpUnclaimed => (0x11025, .jne 0x15, 0x11027)
  | loadPayload => (0x11027, .load 0, 0x11029)
  | doublePayload => (0x11029, .addAlAl, 0x1102b)
  | storeResult => (0x1102b, .store 0x10, 0x1102e)
  | loadAck => (0x1102e, .movAl 1, 0x11030)
  | postAck => (0x11030, .xchg 0x18, 0x11033)
  | loadAnswered => (0x11033, .movAl 0x50, 0x11035)
  | showAnswered => (0x11035, .out 0xe9, 0x11037)
  | loadDone => (0x11037, .movAl 0x44, 0x11039)
  | showDone => (0x11039, .out 0xe9, 0x1103b)
  | haltDone => (0x1103b, .hlt, 0x1103c)
  | loadFailed => (0x1103c, .movAl 0x46, 0x1103e)
  | showFailed => (0x1103e, .out 0xe9, 0x11040)
  | haltFailed => (0x11040, .hlt, 0x11041)

def apListing : Listing (images .ap) ApInstr where
  line := ApInstr.line
  fetch := by
    rintro ⟨⟩ <;> decide +kernel

/-! ### The mailbox -/

structure WorkMailboxSnapshot where
  payload : UInt8
  command : UInt8
  result : UInt8
  ack : UInt8
  deriving DecidableEq, Repr

/-- The mailbox at `WORK_MAILBOX`. -/
def mailbox (memory : ByteMap) : WorkMailboxSnapshot :=
  ⟨memory 0x9000, memory 0x9008, memory 0x9010, memory 0x9018⟩

/-- The phases of the mailbox, in order. -/
inductive Phase where
  | fresh
  | written
  | posted
  | claimed
  | computed
  | acked
  | consumed
  deriving DecidableEq, Repr

namespace Phase

/-- What the mailbox holds. -/
def mailbox : Phase → WorkMailboxSnapshot
  | fresh => ⟨0, 0, 0, 0⟩
  | written => ⟨0x21, 0, 0, 0⟩
  | posted => ⟨0x21, 1, 0, 0⟩
  | claimed => ⟨0x21, 0, 0, 0⟩
  | computed => ⟨0x21, 0, 0x42, 0⟩
  | acked => ⟨0x21, 0, 0x42, 1⟩
  | consumed => ⟨0x21, 0, 0x42, 0⟩

/-- The phase after a phase. -/
def next : Phase → Phase
  | fresh => written
  | written => posted
  | posted => claimed
  | claimed => computed
  | computed => acked
  | acked => consumed
  | consumed => consumed

/-- The vCPU whose turn it is. -/
def mover : Phase → Option Vcpu
  | fresh | written | acked => some .bsp
  | posted | claimed | computed => some .ap
  | consumed => none

/-- The phases in which the second vCPU waits for the command. -/
def awaitsCommand : Phase → Bool
  | fresh | written | posted => true
  | _ => false

/-- The phases in which the first vCPU waits for the acknowledgement. -/
def awaitsAck : Phase → Bool
  | posted | claimed | computed | acked => true
  | _ => false

/-- The phases after the acknowledgement. -/
def answered : Phase → Bool
  | acked | consumed => true
  | _ => false

variable {φ : Phase}

theorem awaitsAck_next (h : φ.mover = some .ap) : φ.next.awaitsAck = true := by
  cases φ with
  | posted | claimed | computed => rfl
  | fresh | written | acked | consumed => cases h

theorem awaitsCommand_next (h : φ.awaitsCommand = true) (hmover : φ.mover = some .bsp) :
    φ.next.awaitsCommand = true := by
  cases φ with
  | fresh | written => rfl
  | posted | claimed | computed | consumed => cases hmover
  | acked => cases h

theorem answered_next (h : φ.answered = true) : φ.next.answered = true := by
  cases φ with
  | acked | consumed => rfl
  | fresh | written | posted | claimed | computed => cases h

theorem eq_acked (h : φ.awaitsAck = true) (h' : φ.answered = true) : φ = .acked := by
  revert h h'
  cases φ <;> decide

theorem eq_posted (h : φ.awaitsAck = true) (h' : φ.awaitsCommand = true) : φ = .posted := by
  revert h h'
  cases φ <;> decide

end Phase

/-! ### The programs, instruction by instruction -/

/-- A vCPU that uses the mailbox; its output went to the debug port. -/
def coreAt (rip : ℕ) (al : UInt8) (ecx : ℕ) (zf : Bool) (buffer : List (ℕ × UInt8))
    (output : List UInt8) : Core :=
  ⟨⟨rip, al, 0x9000, ecx, zf⟩, buffer, output.map (Prod.mk 0xe9), false⟩

/-- A vCPU that has halted. -/
def haltedWith (output : List UInt8) (c : Core) : Prop :=
  c.halted = true ∧ c.buffer = [] ∧ c.output = output.map (Prod.mk 0xe9)

/-- The actions of a loop that polls until it gives up. -/
def pollActions : ℕ := 5 * 0x8000000

/-- The first vCPU where it uses memory or has halted, and a bound for the actions it has left. -/
inductive BspAt : ℕ → Phase → Core → Prop
  | writes {al ecx zf} : BspAt (pollActions + 16) .fresh (coreAt 0x1000b al ecx zf [] [0x42])
  | waits {ecx zf} :
      BspAt (pollActions + 14) .fresh (coreAt 0x10010 1 ecx zf [(0x9000, 0x21)] [0x42])
  | posts {ecx zf} : BspAt (pollActions + 13) .written (coreAt 0x10010 1 ecx zf [] [0x42])
  | polls {φ al ecx zf} (awaits : φ.awaitsAck = true) (left : 1 ≤ ecx ∧ ecx ≤ 0x8000000) :
      BspAt (5 * ecx + 9) φ (coreAt 0x1001c al ecx zf [] [0x42, 0x43])
  | consumes {ecx zf} : BspAt 11 .acked (coreAt 0x1002c 0 ecx zf [] [0x42, 0x43])
  | checks {al ecx zf} : BspAt 8 .consumed (coreAt 0x10033 al ecx zf [] [0x42, 0x43])
  | done {c} (halted : haltedWith [0x42, 0x43, 0x56, 0x44] c) : BspAt 0 .consumed c
  | failed {φ c} (awaits : φ.awaitsAck = true) (halted : haltedWith [0x42, 0x43, 0x46] c) :
      BspAt 0 φ c

/-- The second vCPU where it uses memory or has halted, and a bound for the actions it has left. -/
inductive ApAt : ℕ → Phase → Core → Prop
  | polls {φ al ecx zf} (awaits : φ.awaitsCommand = true) (left : 1 ≤ ecx ∧ ecx ≤ 0x8000000) :
      ApAt (5 * ecx + 12) φ (coreAt 0x11010 al ecx zf [] [0x52])
  | claims {ecx zf} : ApAt 14 .posted (coreAt 0x11020 0 ecx zf [] [0x52])
  | loads {al ecx zf} : ApAt 11 .claimed (coreAt 0x11027 al ecx zf [] [0x52])
  | writes {ecx zf} : ApAt 9 .claimed (coreAt 0x1102b 0x42 ecx zf [] [0x52])
  | waits {ecx zf} : ApAt 7 .claimed (coreAt 0x11030 1 ecx zf [(0x9010, 0x42)] [0x52])
  | acks {ecx zf} : ApAt 6 .computed (coreAt 0x11030 1 ecx zf [] [0x52])
  | done {φ c} (answered : φ.answered = true) (halted : haltedWith [0x52, 0x50, 0x44] c) :
      ApAt 0 φ c
  | failed {φ c} (awaits : φ.awaitsCommand = true) (halted : haltedWith [0x52, 0x46] c) :
      ApAt 0 φ c

/-- The places of the two programs. -/
def At : Vcpu → ℕ → Phase → Core → Prop
  | .bsp => BspAt
  | .ap => ApAt

/-- A vCPU on the way to the next such place. -/
def OnWay (v : Vcpu) (n : ℕ) (φ : Phase) (c : Core) : Prop :=
  ∃ k m final, k + m = n ∧ Quiet (images v) final k c ∧ At v m φ final

/-- A vCPU stays on its way, has fewer actions left and moves the mailbox only in its turn. -/
def Keeps (v : Vcpu) (n : ℕ) (φ : Phase) (c : Core) (memory : ByteMap) : Prop :=
  ∃ n' < n, ∃ φ', (φ' = φ ∨ φ.mover = some v ∧ φ' = φ.next) ∧ OnWay v n' φ' c ∧
    mailbox memory = φ'.mailbox

/-- The next instruction of a vCPU keeps it on its way; a vCPU without one has halted or waits for
its stores. -/
inductive Advances (v : Vcpu) (n : ℕ) (φ : Phase) (c : Core) (memory : ByteMap) : Prop
  | moves {c' : Core} {memory' : ByteMap}
      (advance : c.advance (images v) memory = some (c', memory'))
      (keeps : Keeps v n φ c' memory')
  | rests (advance : c.advance (images v) memory = none)
      (reason : c.halted = true ∨ c.buffer ≠ [])

section Actions

variable {v : Vcpu} {n k m ecx : ℕ} {φ : Phase} {c final : Core} {memory : ByteMap}
  {al : UInt8} {zf : Bool} {buffer : List (ℕ × UInt8)} {output : List UInt8}

theorem Keeps.of_quiet (hquiet : Quiet (images v) final k c) (hat : At v m φ final)
    (hn : k + m < n) (hm : mailbox memory = φ.mailbox) : Keeps v n φ c memory :=
  ⟨_, hn, φ, .inl rfl, ⟨k, m, final, rfl, hquiet, hat⟩, hm⟩

theorem Keeps.of_move (hmover : φ.mover = some v) (hquiet : Quiet (images v) final k c)
    (hat : At v m φ.next final) (hn : k + m < n) (hm : mailbox memory = φ.next.mailbox) :
    Keeps v n φ c memory :=
  ⟨_, hn, φ.next, .inr ⟨hmover, rfl⟩, ⟨k, m, final, rfl, hquiet, hat⟩, hm⟩

theorem Advances.of_fetch {r : Registers} {output : List (UInt8 × UInt8)} {address : ℕ}
    {fetched : Instr × ℕ} {c' : Core} {memory' : ByteMap}
    (hfetch : (images v).fetch address = some fetched) (hrip : r.rip = address)
    (hexec : Core.execute ⟨r, buffer, output, false⟩ memory fetched = some (c', memory'))
    (h : Keeps v n φ c' memory') :
    Advances v n φ ⟨r, buffer, output, false⟩ memory :=
  .moves ((Core.advance_of_fetch (by rwa [hrip])).trans hexec) h

theorem Advances.of_halted {output : List UInt8} (h : haltedWith output c) :
    Advances v n φ c memory :=
  .rests (if_pos h.1) (.inl h.1)

theorem mailbox_update (memory : ByteMap) (value : UInt8) :
    mailbox (Function.update memory 0x9000 value) = { mailbox memory with payload := value } ∧
    mailbox (Function.update memory 0x9008 value) = { mailbox memory with command := value } ∧
    mailbox (Function.update memory 0x9010 value) = { mailbox memory with result := value } ∧
    mailbox (Function.update memory 0x9018 value) = { mailbox memory with ack := value } := by
  simp [mailbox]

theorem execute_decEcx {rip next : ℕ} {zero : Bool} (left : 1 ≤ ecx ∧ ecx ≤ 0x8000000)
    (hzero : (ecx - 1 == 0) = zero) :
    (coreAt rip al ecx zf buffer output).execute zeros (.decEcx, next) =
      some (coreAt next al (ecx - 1) zero buffer output, zeros) := by
  have hdec : (ecx + (2 ^ 32 - 1)) % 2 ^ 32 = ecx - 1 := by omega
  simp only [coreAt, Core.execute, Instr.exec, hdec, hzero, Core.commit]

/-- A poll that finds nothing: the jump is not taken, and one poll less is left. -/
theorem Keeps.of_poll {poll pause count next : ℕ} {offset : ℤ}
    (hjump : (images v).fetch poll = some (.je offset, pause))
    (hpause : (images v).fetch pause = some (.pause, count))
    (hcount : (images v).fetch count = some (.decEcx, next))
    (left : 1 ≤ ecx ∧ ecx ≤ 0x8000000) (hm : mailbox memory = φ.mailbox)
    (hrest : ∀ zero, (ecx - 1 == 0) = zero → ∃ k m final,
      Quiet (images v) final k (coreAt next al (ecx - 1) zero buffer output) ∧ At v m φ final ∧
        k + m + 3 < n) :
    Keeps v n φ (coreAt poll al ecx false buffer output) memory := by
  obtain ⟨k, m, final, hquiet, hat, hn⟩ := hrest _ rfl
  exact .of_quiet (.step hjump rfl rfl rfl (.step hpause rfl rfl rfl
    (.step hcount rfl rfl (execute_decEcx left rfl) hquiet))) hat (by omega) hm

/-- After a poll without the acknowledgement the first vCPU polls again or gives up. -/
theorem BspAt.keeps_polling (awaits : φ.awaitsAck = true) (left : 1 ≤ ecx ∧ ecx ≤ 0x8000000)
    (hm : mailbox memory = φ.mailbox) :
    Keeps .bsp (5 * ecx + 9) φ (coreAt 0x10020 al ecx false [] [0x42, 0x43]) memory := by
  refine .of_poll (bspListing.fetch .jumpAcked) (bspListing.fetch .pause)
    (bspListing.fetch .countPoll) left hm fun zero hzero => ?_
  cases zero with
  | true =>
      exact ⟨5, 0, _, bspListing.quiet 5 [.jumpPoll, .giveUp, .loadFailed, .showFailed,
        .haltFailed] rfl rfl, .failed awaits ⟨rfl, rfl, rfl⟩, by omega⟩
  | false =>
      have hmore := beq_eq_false_iff_ne.mp hzero
      have hpolls :
          BspAt (5 * (ecx - 1) + 9) φ (coreAt 0x1001c al (ecx - 1) false [] [0x42, 0x43]) :=
        .polls awaits (by omega)
      exact ⟨1, _, _, bspListing.quiet 1 [.jumpPoll] rfl rfl, hpolls, by omega⟩

theorem BspAt.advance (h : BspAt n φ c) (hm : mailbox memory = φ.mailbox) :
    Advances .bsp n φ c memory := by
  cases h with
  | writes =>
      exact .of_fetch (bspListing.fetch .writePayload) rfl rfl
        (.of_quiet (bspListing.quiet 1 [.loadCommand] rfl rfl) .waits (by omega) hm)
  | waits =>
      exact .rests ((Core.advance_of_fetch (bspListing.fetch .postCommand)).trans rfl)
        (.inr (List.cons_ne_nil _ _))
  | posts =>
      refine .of_fetch (bspListing.fetch .postCommand) rfl rfl
        (.of_move rfl (bspListing.quiet 3 [.loadPosted, .showPosted, .setPolls] rfl rfl)
        (.polls rfl (by omega)) (by rw [pollActions]; omega) ?_)
      exact (mailbox_update _ _).2.1.trans (by rw [hm]; rfl)
  | polls awaits left =>
      have hack : memory 0x9018 = φ.mailbox.ack := congrArg WorkMailboxSnapshot.ack hm
      refine .of_fetch (bspListing.fetch .pollAck) rfl rfl ?_
      change Keeps _ _ _ (coreAt 0x10020 _ _ (memory 0x9018 == 1) _ [0x42, 0x43]) _
      rw [hack]
      cases φ with
      | posted | claimed | computed => exact keeps_polling awaits left hm
      | acked =>
          exact .of_quiet (bspListing.quiet 2 [.jumpAcked, .clearAl] rfl rfl) .consumes
            (by omega) hm
      | fresh | written | consumed => cases awaits
  | consumes =>
      have hack : memory 0x9018 = 1 := congrArg WorkMailboxSnapshot.ack hm
      refine .of_fetch (bspListing.fetch .takeAck) rfl rfl ?_
      change Keeps _ _ _ (coreAt 0x1002f (memory 0x9018) _ _ _ [0x42, 0x43]) _
      rw [hack]
      refine .of_move rfl (bspListing.quiet 2 [.compareAck, .jumpUnacked] rfl rfl) .checks
        (by omega) ?_
      exact (mailbox_update _ _).2.2.2.trans (by rw [hm]; rfl)
  | checks =>
      have hresult : memory 0x9010 = 0x42 := congrArg WorkMailboxSnapshot.result hm
      refine .of_fetch (bspListing.fetch .loadResult) rfl rfl ?_
      change Keeps _ _ _ (coreAt 0x10036 (memory 0x9010) _ _ _ [0x42, 0x43]) _
      rw [hresult]
      exact .of_quiet (bspListing.quiet 7 [.compareResult, .jumpWrong, .loadVerified, .showVerified,
        .loadDone, .showDone, .haltDone] rfl rfl) (.done ⟨rfl, rfl, rfl⟩) (by omega) hm
  | done halted => exact .of_halted halted
  | failed awaits halted => exact .of_halted halted

/-- After a poll without the command the second vCPU polls again or gives up. -/
theorem ApAt.keeps_polling (awaits : φ.awaitsCommand = true) (left : 1 ≤ ecx ∧ ecx ≤ 0x8000000)
    (hm : mailbox memory = φ.mailbox) :
    Keeps .ap (5 * ecx + 12) φ (coreAt 0x11014 al ecx false [] [0x52]) memory := by
  refine .of_poll (apListing.fetch .jumpPosted) (apListing.fetch .pause)
    (apListing.fetch .countPoll) left hm fun zero hzero => ?_
  cases zero with
  | true =>
      exact ⟨5, 0, _, apListing.quiet 5 [.jumpPoll, .giveUp, .loadFailed, .showFailed,
        .haltFailed] rfl rfl, .failed awaits ⟨rfl, rfl, rfl⟩, by omega⟩
  | false =>
      have hmore := beq_eq_false_iff_ne.mp hzero
      have hpolls : ApAt (5 * (ecx - 1) + 12) φ (coreAt 0x11010 al (ecx - 1) false [] [0x52]) :=
        .polls awaits (by omega)
      exact ⟨1, _, _, apListing.quiet 1 [.jumpPoll] rfl rfl, hpolls, by omega⟩

theorem ApAt.advance (h : ApAt n φ c) (hm : mailbox memory = φ.mailbox) :
    Advances .ap n φ c memory := by
  cases h with
  | polls awaits left =>
      have hcommand : memory 0x9008 = φ.mailbox.command := congrArg WorkMailboxSnapshot.command hm
      refine .of_fetch (apListing.fetch .pollCommand) rfl rfl ?_
      change Keeps _ _ _ (coreAt 0x11014 _ _ (memory 0x9008 == 1) _ [0x52]) _
      rw [hcommand]
      cases φ with
      | fresh | written => exact keeps_polling awaits left hm
      | posted =>
          exact .of_quiet (apListing.quiet 2 [.jumpPosted, .clearAl] rfl rfl) .claims (by omega) hm
      | claimed | computed | acked | consumed => cases awaits
  | claims =>
      have hcommand : memory 0x9008 = 1 := congrArg WorkMailboxSnapshot.command hm
      refine .of_fetch (apListing.fetch .claimCommand) rfl rfl ?_
      change Keeps _ _ _ (coreAt 0x11023 (memory 0x9008) _ _ _ [0x52]) _
      rw [hcommand]
      refine .of_move rfl (apListing.quiet 2 [.compareCommand, .jumpUnclaimed] rfl rfl) .loads
        (by omega) ?_
      exact (mailbox_update _ _).2.1.trans (by rw [hm]; rfl)
  | loads =>
      have hpayload : memory 0x9000 = 0x21 := congrArg WorkMailboxSnapshot.payload hm
      refine .of_fetch (apListing.fetch .loadPayload) rfl rfl ?_
      change Keeps _ _ _ (coreAt 0x11029 (memory 0x9000) _ _ _ [0x52]) _
      rw [hpayload]
      exact .of_quiet (apListing.quiet 1 [.doublePayload] rfl rfl) .writes (by omega) hm
  | writes =>
      exact .of_fetch (apListing.fetch .storeResult) rfl rfl
        (.of_quiet (apListing.quiet 1 [.loadAck] rfl rfl) .waits (by omega) hm)
  | waits =>
      exact .rests ((Core.advance_of_fetch (apListing.fetch .postAck)).trans rfl)
        (.inr (List.cons_ne_nil _ _))
  | acks =>
      refine .of_fetch (apListing.fetch .postAck) rfl rfl (.of_move rfl (apListing.quiet 5
        [.loadAnswered, .showAnswered, .loadDone, .showDone, .haltDone] rfl rfl)
        (.done rfl ⟨rfl, rfl, rfl⟩) (by omega) ?_)
      exact (mailbox_update _ _).2.2.2.trans (by rw [hm]; rfl)
  | done answered halted => exact .of_halted halted
  | failed awaits halted => exact .of_halted halted

theorem OnWay.advance (h : OnWay v n φ c) (hm : mailbox memory = φ.mailbox) :
    Advances v n φ c memory := by
  obtain ⟨k, m, final, rfl, hquiet, hat⟩ := h
  cases k with
  | zero =>
      cases hquiet
      rw [Nat.zero_add]
      cases v with
      | bsp => exact BspAt.advance hat hm
      | ap => exact ApAt.advance hat hm
  | succ k =>
      obtain ⟨next, hadvance, hrest⟩ := hquiet.advance memory
      exact .moves hadvance (.of_quiet hrest hat (by omega) hm)

/-- The oldest store of a vCPU reaches memory. -/
theorem OnWay.drain {address : ℕ} {value : UInt8} {rest : List (ℕ × UInt8)}
    (h : OnWay v n φ c) (hm : mailbox memory = φ.mailbox)
    (hbuffer : c.buffer = (address, value) :: rest) :
    Keeps v n φ { c with buffer := rest } (Function.update memory address value) := by
  obtain ⟨k, m, final, rfl, hquiet, hat⟩ := h
  rw [← hquiet.buffer_eq] at hbuffer
  have hrest := hquiet.withBuffer rest
  cases v with
  | bsp =>
      cases hat with
      | waits =>
          obtain ⟨⟨rfl, rfl⟩, rfl⟩ := List.cons_eq_cons.mp hbuffer |>.imp_left Prod.mk.inj
          exact .of_move rfl hrest .posts (by omega)
            ((mailbox_update _ _).1.trans (by rw [hm]; rfl))
      | writes | posts | polls | consumes | checks => cases hbuffer
      | done halted => rw [halted.2.1] at hbuffer; cases hbuffer
      | failed awaits halted => rw [halted.2.1] at hbuffer; cases hbuffer
  | ap =>
      cases hat with
      | waits =>
          obtain ⟨⟨rfl, rfl⟩, rfl⟩ := List.cons_eq_cons.mp hbuffer |>.imp_left Prod.mk.inj
          exact .of_move rfl hrest .acks (by omega)
            ((mailbox_update _ _).2.2.1.trans (by rw [hm]; rfl))
      | polls | claims | loads | writes | acks => cases hbuffer
      | done answered halted => rw [halted.2.1] at hbuffer; cases hbuffer
      | failed awaits halted => rw [halted.2.1] at hbuffer; cases hbuffer

/-- A move of one vCPU leaves the other on its way. -/
theorem OnWay.next {w : Vcpu} (h : OnWay v n φ c) (hmover : φ.mover = some w) (hne : w ≠ v) :
    OnWay v n φ.next c := by
  obtain ⟨k, m, final, hn, hquiet, hat⟩ := h
  refine ⟨k, m, final, hn, hquiet, ?_⟩
  cases v with
  | bsp =>
      obtain rfl : w = .ap := by cases w <;> first | rfl | exact absurd rfl hne
      cases hat with
      | polls awaits left => exact .polls (Phase.awaitsAck_next hmover) left
      | failed awaits halted => exact .failed (Phase.awaitsAck_next hmover) halted
      | writes | waits | posts | consumes | checks | done => cases hmover
  | ap =>
      obtain rfl : w = .bsp := by cases w <;> first | rfl | exact absurd rfl hne
      cases hat with
      | polls awaits left => exact .polls (Phase.awaitsCommand_next awaits hmover) left
      | failed awaits halted => exact .failed (Phase.awaitsCommand_next awaits hmover) halted
      | done answered halted => exact .done (Phase.answered_next answered) halted
      | claims | loads | writes | waits | acks => cases hmover

end Actions

/-! ### Runs -/

/-- Both vCPUs are on their way, with so many actions left. -/
structure Running (left : Vcpu → ℕ) (φ : Phase) (s : System Vcpu) : Prop where
  mailbox : mailbox s.memory = φ.mailbox
  onWay : ∀ v, OnWay v (left v) φ (s.cores v)

/-- Both vCPUs together have at most so many actions left. -/
def RunningFor (n : ℕ) (s : System Vcpu) : Prop :=
  ∃ left φ, left .bsp + left .ap = n ∧ Running left φ s

section Runs

variable {left : Vcpu → ℕ} {n : ℕ} {φ : Phase} {s : System Vcpu} {v : Vcpu} {c : Core}
  {memory : ByteMap}

theorem Running.of_keeps (h : Running left φ s) (hkeeps : Keeps v (left v) φ c memory) :
    ∃ n < left .bsp + left .ap, RunningFor n ⟨memory, Function.update s.cores v c⟩ := by
  obtain ⟨n, hn, φ', hφ, hway, hm⟩ := hkeeps
  refine ⟨_, ?_, Function.update left v n, φ', rfl, hm, fun w => ?_⟩
  · cases v <;> simpa
  · by_cases hw : w = v
    · subst hw
      simpa
    · simp only [Function.update_of_ne hw]
      rcases hφ with rfl | ⟨hmover, rfl⟩
      · exact h.onWay w
      · exact (h.onWay w).next hmover (Ne.symm hw)

/-- **One action.** An action that can happen leaves fewer actions. -/
theorem runningFor_step (n : ℕ) (s : System Vcpu) (action : Action Vcpu)
    (h : RunningFor n s) :
    s.step images action = s ∨ ∃ n' < n, RunningFor n' (s.step images action) := by
  obtain ⟨left, φ, rfl, h⟩ := h
  cases action with
  | execute v =>
      cases (h.onWay v).advance h.mailbox with
      | moves advance keeps =>
          simp only [System.step, advance]
          exact .inr (h.of_keeps keeps)
      | rests advance => exact .inl (by simp only [System.step, advance])
  | drain v =>
      rw [System.step]
      split
      · next hbuffer => exact .inr (h.of_keeps ((h.onWay v).drain h.mailbox hbuffer))
      · exact .inl rfl

theorem RunningFor.runSteps (h : RunningFor n s) (schedule : List (Action Vcpu)) :
    ∃ n', RunningFor n' (runSteps (System.step images) s schedule) :=
  ranked_runSteps runningFor_step schedule h

/-- Where nothing can happen, both vCPUs have halted. -/
theorem RunningFor.halted_of_stuck (h : RunningFor n s)
    (hstuck : ∀ action, s.step images action = s) (v : Vcpu) : (s.cores v).halted = true := by
  -- An instruction that changed nothing would lower the bound again and again.
  have hrests : (s.cores v).advance (images v) s.memory = none := by
    induction n using Nat.strong_induction_on with
    | _ n ih =>
        obtain ⟨left, φ, rfl, h⟩ := h
        cases (h.onWay v).advance h.mailbox with
        | moves advance keeps =>
            obtain ⟨n, hn, hafter⟩ := h.of_keeps keeps
            have hsame := hstuck (.execute v)
            simp only [System.step, advance] at hsame
            rw [hsame] at hafter
            exact ih n hn hafter
        | rests advance => exact advance
  obtain ⟨left, φ, -, h⟩ := h
  cases (h.onWay v).advance h.mailbox with
  | moves advance keeps =>
      rw [hrests] at advance
      cases advance
  | rests advance reason =>
      refine reason.resolve_right fun hbuffer => ?_
      obtain ⟨store, rest, hbuffer⟩ := List.exists_cons_of_ne_nil hbuffer
      have hsame := congrArg (fun t => (t.cores v).buffer.length) (hstuck (.drain v))
      simp [System.step, hbuffer] at hsame

end Runs

/-! ### What the host sees -/

def bspWorkProof : List UInt8 := [0x42, 0x43, 0x56, 0x44]

def apWorkProof : List UInt8 := [0x52, 0x50, 0x44]

def bspExitBudget : ℕ := 5

def apRemainingExitBudget : ℕ := 3

/-- What a vCPU wrote to the debug port. -/
def debugOutput (c : Core) : List UInt8 := (c.output.filter fun o => o.1 == 0xe9).map Prod.snd

/-- `verification_error` (lines 318-324). -/
def verificationError (id : UInt16) (operation detail : String) : HostEnvironmentError :=
  .vcpuOperation id operation detail

/-- A list of numbers, as `Debug` prints it. -/
def bytesText (bytes : List UInt8) : String :=
  "[" ++ ", ".intercalate (bytes.map fun b => toString b.toNat) ++ "]"

/-- `Debug` of `WorkMailboxSnapshot`. -/
def WorkMailboxSnapshot.text (m : WorkMailboxSnapshot) : String :=
  "WorkMailboxSnapshot \x7b payload: " ++ toString m.payload.toNat ++ ", command: " ++
    toString m.command.toNat ++ ", result: " ++ toString m.result.toNat ++ ", ack: " ++
    toString m.ack.toNat ++ " \x7d"

/-- The checks at the end of `run_two_vcpu_work_dispatch` (lines 241-268). -/
def checkWorkDispatch (bspProof apProof : List UInt8) (mailbox : WorkMailboxSnapshot) :
    Except HostEnvironmentError Unit := do
  rejectIf (bspProof ≠ bspWorkProof) (verificationError 0 "BSP work-dispatch proof"
    ("expected " ++ bytesText bspWorkProof ++ ", got " ++ bytesText bspProof))
  rejectIf (apProof ≠ apWorkProof) (verificationError 1 "AP work-dispatch proof"
    ("expected " ++ bytesText apWorkProof ++ ", got " ++ bytesText apProof))
  rejectIf (mailbox ≠ ⟨0x21, 0, 0x42, 0⟩) (verificationError 0 "work-dispatch mailbox completion"
    ("unexpected final mailbox state: " ++ mailbox.text))

/-- The vCPUs at the entries of their programs. -/
def start (memory : ByteMap) (registers : Vcpu → Registers) : System Vcpu :=
  ⟨memory, fun v => ⟨{ registers v with rip := (images v).base }, [], [], false⟩⟩

theorem runningFor_start {memory : ByteMap} (registers : Vcpu → Registers)
    (h : mailbox memory = ⟨0, 0, 0, 0⟩) :
    RunningFor (2 * pollActions + 35) (start memory registers) := by
  have hpolls : pollActions + 16 = 4 + (5 * 0x8000000 + 12) := rfl
  refine ⟨fun v => pollActions + if v = .bsp then 19 else 16, .fresh, ?_, h, fun v => ?_⟩
  · simp
    omega
  · cases v with
    | bsp =>
        exact ⟨3, _, _, Nat.add_comm _ _,
          bspListing.quiet 3 [.setMailbox, .loadStart, .showStart] rfl rfl, .writes⟩
    | ap =>
        exact ⟨4, _, _, hpolls.symm,
          apListing.quiet 4 [.setMailbox, .loadReady, .showReady, .setPolls] rfl rfl,
          .polls rfl (by omega)⟩

/-- How a run ends: the outputs of the two vCPUs and the mailbox. -/
def outcomes : List (List UInt8 × List UInt8 × WorkMailboxSnapshot) :=
  [(bspWorkProof, apWorkProof, ⟨0x21, 0, 0x42, 0⟩),
    ([0x42, 0x43, 0x46], apWorkProof, ⟨0x21, 0, 0x42, 1⟩),
    ([0x42, 0x43, 0x46], [0x52, 0x46], ⟨0x21, 1, 0, 0⟩)]

theorem BspAt.of_halted {n : ℕ} {φ : Phase} {c : Core} (h : BspAt n φ c)
    (hhalted : c.halted = true) :
    φ = .consumed ∧ c.output = bspWorkProof.map (Prod.mk 0xe9) ∨
      φ.awaitsAck = true ∧ c.output = [0x42, 0x43, 0x46].map (Prod.mk 0xe9) := by
  cases h with
  | done halted => exact .inl ⟨rfl, halted.2.2⟩
  | failed awaits halted => exact .inr ⟨awaits, halted.2.2⟩
  | writes | waits | posts | polls | consumes | checks => exact absurd hhalted Bool.false_ne_true

theorem ApAt.of_halted {n : ℕ} {φ : Phase} {c : Core} (h : ApAt n φ c)
    (hhalted : c.halted = true) :
    φ.answered = true ∧ c.output = apWorkProof.map (Prod.mk 0xe9) ∨
      φ.awaitsCommand = true ∧ c.output = [0x52, 0x46].map (Prod.mk 0xe9) := by
  cases h with
  | done answered halted => exact .inl ⟨answered, halted.2.2⟩
  | failed awaits halted => exact .inr ⟨awaits, halted.2.2⟩
  | polls | claims | loads | writes | waits | acks => exact absurd hhalted Bool.false_ne_true

theorem RunningFor.outcome {n : ℕ} {s : System Vcpu} (h : RunningFor n s)
    (hhalted : ∀ v, (s.cores v).halted = true) :
    ∃ o ∈ outcomes, (s.cores .bsp).output = o.1.map (Prod.mk 0xe9) ∧
      (s.cores .ap).output = o.2.1.map (Prod.mk 0xe9) ∧ mailbox s.memory = o.2.2 := by
  obtain ⟨left, φ, -, hm, hway⟩ := h
  obtain ⟨_, _, bsp, -, hquiet, hbsp⟩ := hway .bsp
  obtain ⟨_, _, ap, -, hquiet', hap⟩ := hway .ap
  obtain rfl := hquiet.eq_of_halted (hhalted .bsp)
  obtain rfl := hquiet'.eq_of_halted (hhalted .ap)
  rcases BspAt.of_halted hbsp (hhalted .bsp) with ⟨rfl, hb⟩ | ⟨hφ, hb⟩ <;>
    rcases ApAt.of_halted hap (hhalted .ap) with ⟨hφ', ha⟩ | ⟨hφ', ha⟩
  · exact ⟨_, .head _, hb, ha, hm⟩
  · cases hφ'
  · obtain rfl := Phase.eq_acked hφ hφ'
    exact ⟨_, .tail _ (.head _), hb, ha, hm⟩
  · obtain rfl := Phase.eq_posted hφ hφ'
    exact ⟨_, .tail _ (.tail _ (.head _)), hb, ha, hm⟩

theorem debugOutput_of_map {c : Core} {output : List UInt8}
    (h : c.output = output.map (Prod.mk 0xe9)) : debugOutput c = output := by
  simp [debugOutput, h, List.filter_map, Function.comp_def]

/-- **How a work dispatch ends.** Whatever the order in which the two vCPUs execute their
instructions and their stores reach memory, once both have halted the work is complete, or it was
not acknowledged in time, or not claimed in time; the host accepts the run exactly if it is
complete.  The exits, one for each output and the halt, are within the budgets; the first output of
the second vCPU is taken before its budget counts. -/
theorem work_dispatch_outcome (memory : ByteMap) (registers : Vcpu → Registers)
    (hmailbox : mailbox memory = ⟨0, 0, 0, 0⟩) (schedule : List (Action Vcpu)) :
    let s := runSteps (System.step images) (start memory registers) schedule
    (∀ v, (s.cores v).halted = true) →
      (debugOutput (s.cores .bsp), debugOutput (s.cores .ap), mailbox s.memory) ∈ outcomes ∧
      (s.cores .bsp).output.length + 1 ≤ bspExitBudget ∧
      (s.cores .ap).output.length ≤ apRemainingExitBudget ∧
      (checkWorkDispatch (debugOutput (s.cores .bsp)) (debugOutput (s.cores .ap))
        (mailbox s.memory) = .ok () ↔ debugOutput (s.cores .bsp) = bspWorkProof) := by
  intro s hhalted
  obtain ⟨n, hrunning⟩ := (runningFor_start registers hmailbox).runSteps schedule
  obtain ⟨o, ho, hbsp, hap, hm⟩ := hrunning.outcome hhalted
  have hexits : ∀ o ∈ outcomes,
      o.1.length + 1 ≤ bspExitBudget ∧ o.2.1.length ≤ apRemainingExitBudget := by decide
  have hverdict : ∀ o ∈ outcomes,
      checkWorkDispatch o.1 o.2.1 o.2.2 = .ok () ↔ o.1 = bspWorkProof := by decide
  rw [debugOutput_of_map hbsp, debugOutput_of_map hap, hm, hbsp, hap, List.length_map,
    List.length_map]
  exact ⟨ho, (hexits o ho).1, (hexits o ho).2, hverdict o ho⟩

/-- An order of actions that completes the work. -/
def completing : List (Action Vcpu) :=
  List.replicate 5 (.execute .bsp) ++ [.drain .bsp] ++ List.replicate 4 (.execute .bsp) ++
    List.replicate 14 (.execute .ap) ++ [.drain .ap] ++ List.replicate 6 (.execute .ap) ++
    List.replicate 14 (.execute .bsp)

/-- Registers before the start. -/
def resetRegisters (_ : Vcpu) : Registers := ⟨0, 0, 0, 0, false⟩

theorem completing_halted (v : Vcpu) :
    let s := runSteps (System.step images) (start zeros resetRegisters) completing
    (s.cores v).halted = true ∧ (s.cores v).buffer = [] := by
  cases v <;> decide +kernel

theorem work_dispatch_outcome_completing :
    let s := runSteps (System.step images) (start zeros resetRegisters) completing
    (debugOutput (s.cores .bsp), debugOutput (s.cores .ap), mailbox s.memory) ∈ outcomes :=
  (work_dispatch_outcome zeros resetRegisters rfl completing fun v => (completing_halted v).1).1

/-- **Every work dispatch ends.** No order of actions in which each one does something goes on
forever, and where nothing can happen any more both vCPUs have halted. -/
theorem work_dispatch_bounded (memory : ByteMap) (registers : Vcpu → Registers)
    (hmailbox : mailbox memory = ⟨0, 0, 0, 0⟩) (schedule : List (Action Vcpu)) :
    (Effective (System.step images) (start memory registers) schedule →
      schedule.length ≤ 2 * pollActions + 35) ∧
    ((∀ action, (runSteps (System.step images) (start memory registers) schedule).step images
        action = runSteps (System.step images) (start memory registers) schedule) →
      ∀ v, ((runSteps (System.step images) (start memory registers) schedule).cores v).halted) := by
  have hstart := runningFor_start registers hmailbox
  obtain ⟨n, hrunning⟩ := hstart.runSteps schedule
  exact ⟨fun heffective => length_le_of_ranked runningFor_step heffective hstart,
    hrunning.halted_of_stuck⟩

theorem work_dispatch_bounded_completing :
    Effective (System.step images) (start zeros resetRegisters) completing ∧
    completing.length ≤ 2 * pollActions + 35 ∧
    let s := runSteps (System.step images) (start zeros resetRegisters) completing
    ∀ v, (s.cores v).halted = true := by
  have heffective : Effective (System.step images) (start zeros resetRegisters) completing :=
    effective_of_observe (fun s => (s.cores .bsp, s.cores .ap)) (by decide +kernel)
  refine ⟨heffective, (work_dispatch_bounded zeros resetRegisters rfl completing).1 heffective,
    (work_dispatch_bounded zeros resetRegisters rfl completing).2 ?_⟩
  rintro (v | v)
  · simp only [System.step, Core.advance, if_pos (completing_halted v).1]
  · simp only [System.step, (completing_halted v).2]

end MiniHypervisor.PortIo.WorkDispatch
