import MiniHypervisor.Control.Triples

/-!
# Byte-wide MMIO devices

The accesses a guest makes to a memory-mapped device, and the simplest devices of the bus
(`src/mmio.rs`, `src/vcpu/mmio.rs`).  A byte device answers reads with a fixed value and records the
bytes written to it.  One mode requests an edge interrupt on each write; another drives an interrupt
line, with a status register and an acknowledge register next to its command register.

## Main results

* `ByteMmioDevice.handle_keeps_addressRange`, `ByteMmioDevice.addressRange_takeEvent` : no operation
  moves the device.
-/

namespace MiniHypervisor.Mmio

open Control

/-! ### Accesses and events -/

inductive MmioDirection where
  | read
  | write
  deriving DecidableEq, Repr

def MmioDirection.raw : MmioDirection → UInt8
  | .read => 0
  | .write => 1

structure MmioExit where
  address : UInt64
  direction : MmioDirection
  length : UInt32
  writeData : List UInt8
  deriving DecidableEq, Repr

inductive MmioService where
  | write
  | read (response : List UInt8)
  deriving DecidableEq, Repr

inductive MmioDeviceEvent where
  | interruptRequested
  | interruptLineAssertRequested
  | interruptLineDeassertRequested
  | virtioQueueNotified (queue : UInt16)
  deriving DecidableEq, Repr

structure MmioDeviceEventRecord where
  deviceAddress : UInt64
  event : MmioDeviceEvent
  deriving DecidableEq, Repr

inductive MmioError where
  | unhandledAddress (address : UInt64) (direction : UInt8) (length : UInt32)
  | unsupportedByteDeviceAccess (address : UInt64) (direction : UInt8) (length : UInt32)
  | invalidWritePayload (address : UInt64) (expected actual : ℕ)
  deriving DecidableEq, Repr

/-! ### Address ranges -/

/-- The exclusive end of a range fits 64 bits (`u64::checked_add`). -/
def RangeFits (range : UInt64 × UInt64) : Prop := range.1.toNat + range.2.toNat < 2 ^ 64

instance (range : UInt64 × UInt64) : Decidable (RangeFits range) :=
  inferInstanceAs (Decidable (_ < _))

/-- The address lies in the range, whose end fits 64 bits. -/
def rangeHandles (range : UInt64 × UInt64) (address : UInt64) : Bool :=
  decide (RangeFits range) && decide (range.1.toNat ≤ address.toNat) &&
    decide (address.toNat < range.1.toNat + range.2.toNat)

theorem rangeHandles_iff {range : UInt64 × UInt64} {address : UInt64} :
    rangeHandles range address = true ↔ RangeFits range ∧ range.1.toNat ≤ address.toNat ∧
      address.toNat < range.1.toNat + range.2.toNat := by
  simp only [rangeHandles, Bool.and_eq_true, decide_eq_true_eq, and_assoc]

theorem rangeHandles_base {range : UInt64 × UInt64} (hfits : RangeFits range)
    (hsize : 0 < range.2.toNat) : rangeHandles range range.1 = true :=
  rangeHandles_iff.mpr ⟨hfits, Nat.le_refl _, Nat.lt_add_of_pos_right hsize⟩

/-! ### The device -/

def levelInterruptStatusOffset : UInt64 := 1

def levelInterruptAckOffset : UInt64 := 2

def levelInterruptAckValue : UInt8 := 1

inductive ByteMmioDeviceMode where
  | plain
  | edgeInterrupt
  | levelInterrupt
  deriving DecidableEq, Repr

structure ByteMmioDevice where
  address : UInt64
  writes : List UInt8
  readValue : UInt8
  mode : ByteMmioDeviceMode
  edgeInterruptPending : Bool
  levelInterruptPending : Bool
  levelLineAsserted : Bool
  deriving DecidableEq, Repr

namespace ByteMmioDevice

variable (device : ByteMmioDevice)

/-- `ByteMmioDevice::new` (lines 552-562). -/
def new (address : UInt64) (readValue : UInt8) (mode : ByteMmioDeviceMode) : ByteMmioDevice where
  address := address
  writes := []
  readValue := readValue
  mode := mode
  edgeInterruptPending := false
  levelInterruptPending := false
  levelLineAsserted := false

/-- `address_range` (lines 564-570). -/
def addressRange : UInt64 × UInt64 :=
  let size := match device.mode with
    | .plain => 1
    | .edgeInterrupt => 1
    | .levelInterrupt => levelInterruptAckOffset + 1
  (device.address, size)

/-- `handles` (lines 572-576). -/
def handles (address : UInt64) : Bool := rangeHandles device.addressRange address

/-- The error for an access that the device does not have. -/
def unsupportedAccess (exit : MmioExit) : MmioError :=
  .unsupportedByteDeviceAccess exit.address exit.direction.raw exit.length

/-- `exact_write_byte` (lines 677-686). -/
def exactWriteByte (exit : MmioExit) : Except MmioError UInt8 :=
  match exit.writeData with
  | [value] => .ok value
  | data => .error (.invalidWritePayload exit.address 1 data.length)

/-- `handle_plain` (lines 594-610). -/
def handlePlain (exit : MmioExit) (interruptOnWrite : Bool) :
    EStateM MmioError ByteMmioDevice MmioService := do
  match exit.direction with
  | .write =>
      let value ← reads fun _ => exactWriteByte exit
      modify fun device => { device with
        writes := device.writes ++ [value]
        edgeInterruptPending := device.edgeInterruptPending || interruptOnWrite }
      return .write
  | .read => return .read [(← get).readValue]

/-- `handle_level` (lines 612-645): the command register, the status register and the acknowledge
register. -/
def handleLevel (exit : MmioExit) : EStateM MmioError ByteMmioDevice MmioService := do
  let offset := exit.address - (← get).address
  if offset = 0 ∧ exit.direction = .write then
    let value ← reads fun _ => exactWriteByte exit
    modify fun device => { device with
      writes := device.writes ++ [value]
      levelInterruptPending := true }
    return .write
  else if offset = levelInterruptStatusOffset ∧ exit.direction = .read then
    return .read [if (← get).levelInterruptPending then 1 else 0]
  else if offset = levelInterruptAckOffset ∧ exit.direction = .write then
    let value ← reads fun _ => exactWriteByte exit
    if value ≠ levelInterruptAckValue then
      throw (unsupportedAccess exit)
    else
      modify fun device => { device with
        writes := device.writes ++ [value]
        levelInterruptPending := false }
      return .write
  else
    throw (unsupportedAccess exit)

/-- `handle` (lines 578-592). -/
def handle (exit : MmioExit) : EStateM MmioError ByteMmioDevice MmioService := do
  if exit.length ≠ 1 then
    throw (unsupportedAccess exit)
  else
    match (← get).mode with
    | .plain => handlePlain exit false
    | .edgeInterrupt => handlePlain exit true
    | .levelInterrupt => handleLevel exit

/-- `take_event` (lines 647-670): the event that is due, and the device afterwards. -/
def takeEvent : Option MmioDeviceEvent × ByteMmioDevice :=
  match device.mode with
  | .plain => (none, device)
  | .edgeInterrupt =>
      if device.edgeInterruptPending then
        (some .interruptRequested, { device with edgeInterruptPending := false })
      else (none, device)
  | .levelInterrupt =>
      if device.levelInterruptPending ∧ ¬ device.levelLineAsserted then
        (some .interruptLineAssertRequested, { device with levelLineAsserted := true })
      else if ¬ device.levelInterruptPending ∧ device.levelLineAsserted then
        (some .interruptLineDeassertRequested, { device with levelLineAsserted := false })
      else (none, device)

/-! ### No operation moves the device -/

theorem addressRange_pos : 0 < device.addressRange.2.toNat := by
  unfold addressRange
  cases device.mode <;> dsimp only <;> decide

/-- What no operation changes: the base and the mode. -/
def place : UInt64 × ByteMmioDeviceMode := (device.address, device.mode)

theorem handlePlain_keeps_place (exit : MmioExit) (interruptOnWrite : Bool) :
    Keeps place (handlePlain exit interruptOnWrite) := by
  unfold handlePlain
  cases exit.direction with
  | write => exact .bind (.reads _) fun _ => .bind (.modify fun _ => rfl) fun _ => .pure _
  | read => exact .bind (fun _ => rfl) fun _ => .pure _

theorem handleLevel_keeps_place (exit : MmioExit) : Keeps place (handleLevel exit) := by
  refine .bind (fun _ => rfl) fun _ => .ite ?command (.ite ?status (.ite ?acknowledge (.throw _)))
  case command => exact .bind (.reads _) fun _ => .bind (.modify fun _ => rfl) fun _ => .pure _
  case status => exact .bind (fun _ => rfl) fun _ => .pure _
  case acknowledge =>
    exact .bind (.reads _) fun _ => .ite (.throw _) (.bind (.modify fun _ => rfl) fun _ => .pure _)

theorem handle_keeps_place (exit : MmioExit) : Keeps place (handle exit) := by
  refine .ite (.throw _) (.bind (fun _ => rfl) fun d => ?_)
  cases d.mode with
  | plain => exact handlePlain_keeps_place exit false
  | edgeInterrupt => exact handlePlain_keeps_place exit true
  | levelInterrupt => exact handleLevel_keeps_place exit

theorem handle_keeps_addressRange (exit : MmioExit) : Keeps addressRange (handle exit) :=
  (handle_keeps_place exit).comp fun p => (new p.1 0 p.2).addressRange

theorem place_takeEvent : device.takeEvent.2.place = device.place := by
  unfold takeEvent
  cases hmode : device.mode <;> dsimp only
  all_goals split_ifs <;> simp [place, hmode]

theorem addressRange_takeEvent : device.takeEvent.2.addressRange = device.addressRange :=
  congrArg (fun p : UInt64 × ByteMmioDeviceMode => (new p.1 0 p.2).addressRange)
    device.place_takeEvent

theorem takeEvent_of_none (h : device.takeEvent.1 = none) : device.takeEvent.2 = device := by
  revert h
  unfold takeEvent
  cases device.mode <;> dsimp only
  case plain => exact fun _ => rfl
  all_goals split_ifs <;> simp

theorem takeEvent_of_level (hmode : device.mode = .levelInterrupt) :
    (device.levelInterruptPending = device.levelLineAsserted ∧ device.takeEvent.1 = none) ∨
    device.takeEvent =
      (some (if device.levelLineAsserted then .interruptLineDeassertRequested
        else .interruptLineAssertRequested),
      { device with levelLineAsserted := !device.levelLineAsserted }) := by
  unfold takeEvent
  cases hpending : device.levelInterruptPending <;> cases hline : device.levelLineAsserted <;>
    simp [hmode]

theorem takeEvent_takeEvent {event : MmioDeviceEvent} (h : device.takeEvent.1 = some event) :
    device.takeEvent.2.takeEvent.1 = none := by
  revert h
  cases hmode : device.mode <;> cases hedge : device.edgeInterruptPending <;>
    cases hpending : device.levelInterruptPending <;> cases hline : device.levelLineAsserted <;>
    simp [takeEvent, hmode, hedge, hpending, hline]

/-! ### Outcomes of an access -/

/-- The access writes the register of a device at `base` with the given offset. -/
def WritesAt (base offset : UInt64) (exit : MmioExit) : Prop :=
  exit.direction = .write ∧ exit.address - base = offset

instance (base offset : UInt64) (exit : MmioExit) : Decidable (WritesAt base offset exit) :=
  inferInstanceAs (Decidable (_ ∧ _))

/-- The pending flag of a level device after an accepted access: a write of the command register
sets it, and a write of the acknowledge register clears it. -/
def pendingAfter (base : UInt64) (pending : Bool) (exit : MmioExit) : Bool :=
  if WritesAt base 0 exit then true
  else if WritesAt base levelInterruptAckOffset exit then false
  else pending

section Outcomes

variable (exit : MmioExit) (d : ByteMmioDevice)

theorem ensures_exactWriteByte :
    Ensures (fun s => s = d) (reads fun _ => exactWriteByte exit) (fun _ s => s = d)
      fun s => s = d :=
  .reads (fun _ _ hs _ => hs) fun _ hs => hs

theorem ensures_handlePlain (interruptOnWrite : Bool) :
    Ensures (fun s => s = d) (handlePlain exit interruptOnWrite) (fun _ _ => True)
      fun s => s = d := by
  unfold handlePlain
  cases exit.direction with
  | write =>
      exact .bind (ensures_exactWriteByte exit d) fun _ =>
        .bind (Q := fun _ _ => True) (.modify fun _ _ => trivial) fun _ => .pure fun _ _ => trivial
  | read => exact .get_bind fun _ _ => .pure fun _ _ => trivial

theorem ensures_handleLevel :
    Ensures (fun s => s = d) (handleLevel exit)
      (fun _ s => s.levelLineAsserted = d.levelLineAsserted ∧
        s.levelInterruptPending = pendingAfter d.address d.levelInterruptPending exit)
      fun s => s = d := by
  refine .get_bind ?_
  rintro s rfl
  have hend {x : EStateM MmioError ByteMmioDevice Unit}
      (hx : Ensures (fun t => t = s) x (fun _ t => t.levelLineAsserted = s.levelLineAsserted ∧
        t.levelInterruptPending = pendingAfter s.address s.levelInterruptPending exit)
        fun t => t = s) :
      Ensures (fun t => t = s) (do x; return MmioService.write)
        (fun _ t => t.levelLineAsserted = s.levelLineAsserted ∧
          t.levelInterruptPending = pendingAfter s.address s.levelInterruptPending exit)
        fun t => t = s :=
    .bind hx fun _ => .pure fun _ ht => ht
  refine .ite (fun hcommand => ?_) fun hcommand => .ite (fun hstatus => ?_) fun hstatus =>
    .ite (fun hacknowledge => ?_) fun _ => .throw fun _ hs => hs
  · refine .bind (ensures_exactWriteByte exit s) fun _ => hend (.modify ?_)
    rintro _ rfl
    exact ⟨rfl, (if_pos ⟨hcommand.2, hcommand.1⟩).symm⟩
  · have hread (offset : UInt64) : ¬ WritesAt s.address offset exit := by
      rintro ⟨hwrite, -⟩
      cases hwrite.symm.trans hstatus.2
    refine .get_bind fun t ht => .pure ?_
    rintro _ rfl
    rw [ht, pendingAfter, if_neg (hread _), if_neg (hread _)]
    exact ⟨rfl, rfl⟩
  · refine .bind (ensures_exactWriteByte exit s) fun _ => .ite (fun _ => .throw fun _ hs => hs)
      fun _ => hend (.modify ?_)
    rintro _ rfl
    refine ⟨rfl, Eq.symm ?_⟩
    rw [pendingAfter, if_neg fun h => hcommand ⟨h.2, h.1⟩,
      if_pos ⟨hacknowledge.2, hacknowledge.1⟩]

theorem ensures_handle :
    Ensures (fun s => s = d) (handle exit)
      (fun _ s => d.mode = .levelInterrupt → s.levelLineAsserted = d.levelLineAsserted ∧
        s.levelInterruptPending = pendingAfter d.address d.levelInterruptPending exit)
      fun s => s = d := by
  refine .ite (fun _ => .throw fun _ hs => hs) fun _ => .get_bind ?_
  rintro s rfl
  cases hmode : s.mode with
  | plain => exact (ensures_handlePlain exit s false).weaken fun _ _ _ => nofun
  | edgeInterrupt => exact (ensures_handlePlain exit s true).weaken fun _ _ _ => nofun
  | levelInterrupt => exact (ensures_handleLevel exit s).weaken fun _ _ hs _ => hs

end Outcomes

end ByteMmioDevice

end MiniHypervisor.Mmio
