import MiniHypervisor.Mmio.AtomicBus
import MiniHypervisor.VirtioBlk.Atomicity

/-!
# Routing on the MMIO bus

The ranges of the registered devices never overlap, whatever is done with the bus: a registration
checks its range against the registered ones, and nothing else moves a device.  An address therefore
has at most one device, and an operation that is addressed to one device leaves the others alone.
-/

namespace MiniHypervisor.Mmio

open Control Memory VirtioBlk VirtioRng

namespace MmioBus

/-- Every range fits 64 bits, and the ranges are pairwise disjoint. -/
structure Routed (bus : MmioBus) : Prop where
  fits : ∀ range ∈ bus.registeredRanges, RangeFits range
  disjoint : bus.registeredRanges.Pairwise fun range other => ¬ RangesOverlap range other

variable {bus : MmioBus} {slot slot' : Slot} {d d' : Device} {address : UInt64}

/-! ### Slots and ranges -/

/-- The position of the range of a slot. -/
def position (bus : MmioBus) : Slot → ℕ
  | .byte i => i
  | .rng i => bus.byteDevices.length + i
  | .blk i => bus.byteDevices.length + bus.virtioRngDevices.length + i

theorem getElem?_registeredRanges (hd : bus.device? slot = some d) :
    bus.registeredRanges[bus.position slot]? = some d.range := by
  cases slot with
  | byte i =>
      obtain ⟨b, hb, rfl⟩ := Option.map_eq_some_iff.mp hd
      obtain ⟨hi, -⟩ := List.getElem?_eq_some_iff.mp hb
      rw [registeredRanges, List.append_assoc, position, List.getElem?_append_left (by simpa),
        List.getElem?_map, hb]
      rfl
  | rng i =>
      obtain ⟨b, hb, rfl⟩ := Option.map_eq_some_iff.mp hd
      obtain ⟨hi, -⟩ := List.getElem?_eq_some_iff.mp hb
      rw [registeredRanges, List.append_assoc, position,
        List.getElem?_append_right (by simp), List.length_map, Nat.add_sub_cancel_left,
        List.getElem?_append_left (by simpa), List.getElem?_map, hb]
      rfl
  | blk i =>
      obtain ⟨b, hb, rfl⟩ := Option.map_eq_some_iff.mp hd
      rw [registeredRanges, position, List.getElem?_append_right (by simp), List.length_append,
        List.length_map, List.length_map, Nat.add_sub_cancel_left, List.getElem?_map, hb]
      rfl

theorem position_inj (hd : bus.device? slot = some d) (hd' : bus.device? slot' = some d')
    (h : bus.position slot = bus.position slot') : slot = slot' := by
  cases slot <;> cases slot' <;>
    simp only [device?, Option.map_eq_some_iff, List.getElem?_eq_some_iff] at hd hd' <;>
    obtain ⟨_, ⟨_, -⟩, -⟩ := hd <;> obtain ⟨_, ⟨_, -⟩, -⟩ := hd' <;>
    simp only [position] at h <;> simp only [reduceCtorEq, Slot.byte.injEq, Slot.rng.injEq,
      Slot.blk.injEq] <;> omega

theorem range_mem (hd : bus.device? slot = some d) : d.range ∈ bus.registeredRanges :=
  List.mem_of_getElem? (getElem?_registeredRanges hd)

theorem rangesOverlap_of_handles {range range' : UInt64 × UInt64}
    (h : rangeHandles range address = true) (h' : rangeHandles range' address = true) :
    RangesOverlap range range' := by
  obtain ⟨-, hlo, hhi⟩ := rangeHandles_iff.mp h
  obtain ⟨-, hlo', hhi'⟩ := rangeHandles_iff.mp h'
  exact ⟨by omega, by omega⟩

namespace Routed

theorem slot_eq (hbus : bus.Routed) (hd : bus.device? slot = some d)
    (hd' : bus.device? slot' = some d') (h : d.handles address = true)
    (h' : d'.handles address = true) : slot = slot' := by
  obtain ⟨hi, hrange⟩ := List.getElem?_eq_some_iff.mp (getElem?_registeredRanges hd)
  obtain ⟨hi', hrange'⟩ := List.getElem?_eq_some_iff.mp (getElem?_registeredRanges hd')
  have hpairwise := List.pairwise_iff_getElem.mp hbus.disjoint
  refine position_inj hd hd' (Nat.le_antisymm (Nat.le_of_not_lt fun hlt => ?_)
    (Nat.le_of_not_lt fun hlt => ?_))
  · refine hpairwise _ _ hi' hi hlt ?_
    rw [hrange, hrange']
    exact rangesOverlap_of_handles h' h
  · refine hpairwise _ _ hi hi' hlt ?_
    rw [hrange, hrange']
    exact rangesOverlap_of_handles h h'

theorem handles_base (hbus : bus.Routed) (hd : bus.device? slot = some d) :
    d.handles d.range.1 = true := by
  refine rangeHandles_base (hbus.fits _ (range_mem hd)) ?_
  cases d with
  | byte b => exact b.addressRange_pos
  | rng b => exact Nat.zero_lt_succ _
  | blk b => exact Nat.zero_lt_succ _

theorem base_ne (hbus : bus.Routed) (hd : bus.device? slot = some d)
    (h : d.handles address = false) : d.range.1 ≠ address := by
  rintro rfl
  rw [hbus.handles_base hd] at h
  exact Bool.noConfusion h

end Routed

/-! ### Registrations -/

/-- The bus with a device added at the end of its list. -/
def push (bus : MmioBus) : Device → MmioBus
  | .byte b => { bus with byteDevices := bus.byteDevices ++ [b] }
  | .rng b => { bus with virtioRngDevices := bus.virtioRngDevices ++ [b] }
  | .blk b => { bus with virtioBlkDevices := bus.virtioBlkDevices ++ [b] }

theorem registeredRanges_push (bus : MmioBus) (d : Device) :
    (bus.push d).registeredRanges.Perm (d.range :: bus.registeredRanges) := by
  cases d with
  | byte b =>
      simp only [push, registeredRanges, List.map_append, List.map_cons, List.map_nil,
        List.append_assoc, List.singleton_append]
      exact List.perm_middle
  | rng b =>
      simp only [push, registeredRanges, List.map_append, List.map_cons, List.map_nil,
        ← List.append_assoc]
      rw [List.append_assoc, List.singleton_append]
      exact List.perm_middle
  | blk b =>
      simp only [push, registeredRanges, List.map_append, List.map_cons, List.map_nil,
        ← List.append_assoc]
      exact List.perm_append_singleton _ _

theorem device?_push (d' : Device) (hd : bus.device? slot = some d) :
    (bus.push d').device? slot = some d := by
  cases slot <;> cases d' <;> obtain ⟨b, hb, rfl⟩ := Option.map_eq_some_iff.mp hd <;>
    obtain ⟨hi, -⟩ := List.getElem?_eq_some_iff.mp hb <;>
    simp only [device?, push, hb, List.getElem?_append_left hi, Option.map_some]

theorem Routed.push (hbus : bus.Routed) (hfits : RangeFits d.range)
    (hdisjoint : ∀ range ∈ bus.registeredRanges, ¬ RangesOverlap d.range range) :
    (bus.push d).Routed := by
  have hperm := bus.registeredRanges_push d
  refine ⟨fun range hrange => ?_, ?_⟩
  · rcases List.mem_cons.mp (hperm.mem_iff.mp hrange) with rfl | hmem
    · exact hfits
    · exact hbus.fits range hmem
  · refine (hperm.pairwise_iff fun hxy hyx => hxy ⟨hyx.2, hyx.1⟩).mpr ?_
    exact List.pairwise_cons.mpr ⟨hdisjoint, hbus.disjoint⟩

end MmioBus

/-- The calls that register a device. -/
inductive Registration where
  | byteDeviceAt (address : UInt64) (readValue : UInt8)
  | levelInterruptByteDeviceAt (address : UInt64)
  | virtioRngDeviceAt (address : UInt64)
  | virtioBlkDeviceAt (address : UInt64)
  deriving DecidableEq, Repr

namespace Registration

/-- The registration on a bus. -/
def run : Registration → EStateM MmioRegistrationError MmioBus Unit
  | byteDeviceAt address readValue => MmioBus.registerByteDeviceAt address readValue
  | levelInterruptByteDeviceAt address => MmioBus.registerLevelInterruptByteDeviceAt address
  | virtioRngDeviceAt address => MmioBus.registerVirtioRngDeviceAt address
  | virtioBlkDeviceAt address => MmioBus.registerVirtioBlkDeviceAt address

/-- The device that is registered. -/
def device : Registration → Device
  | byteDeviceAt address readValue => .byte (.new address readValue .plain)
  | levelInterruptByteDeviceAt address => .byte (.new address 0 .levelInterrupt)
  | virtioRngDeviceAt address => .rng (.new address)
  | virtioBlkDeviceAt address => .blk (.new address)

variable {bus : MmioBus} {registration : Registration}

theorem run_eq (registration : Registration) : registration.run = (do
    reads fun bus => bus.ensureRangeAvailable registration.device.range
    modify fun bus => bus.push registration.device) := by
  cases registration <;> rfl

theorem run_cases (registration : Registration) (bus : MmioBus) :
    (∃ e, bus.ensureRangeAvailable registration.device.range = .error e ∧
      registration.run.run bus = .error e bus) ∨
    (bus.ensureRangeAvailable registration.device.range = .ok () ∧
      registration.run.run bus = .ok () (bus.push registration.device)) := by
  rw [run_eq]
  cases h : bus.ensureRangeAvailable registration.device.range with
  | error e => exact .inl ⟨e, rfl, run_bind_of_error (run_reads_of_error h)⟩
  | ok _ => exact .inr ⟨rfl, run_bind_of_ok (run_reads_of_ok h)⟩

/-- **When a registration succeeds.** Its range fits 64 bits and overlaps no registered range. -/
theorem run_eq_ok_iff (hbus : bus.Routed) :
    (∃ bus', registration.run.run bus = .ok () bus') ↔
      RangeFits registration.device.range ∧
        ∀ range ∈ bus.registeredRanges,
          ¬ MmioBus.RangesOverlap registration.device.range range := by
  have hiff : bus.ensureRangeAvailable registration.device.range = .ok () ↔
      RangeFits registration.device.range ∧ ∀ range ∈ bus.registeredRanges,
        ¬ MmioBus.RangesOverlap registration.device.range range := by
    rw [MmioBus.ensureRangeAvailable_eq_ok]
    exact and_congr_right fun _ => forall₂_congr fun range hrange =>
      and_iff_right (hbus.fits range hrange)
  rw [← hiff]
  rcases registration.run_cases bus with ⟨e, herror, hrun⟩ | ⟨hok, hrun⟩
  · rw [herror, hrun]
    exact ⟨nofun, nofun⟩
  · exact ⟨fun _ => hok, fun _ => ⟨_, hrun⟩⟩

end Registration

/-! ### Calls -/

/-- The constructors of the bus. -/
inductive BusConstructor where
  | empty
  | withByteDevice (readValue : UInt8)
  | withByteDeviceAt (address : UInt64) (readValue : UInt8)
  | withInterruptingByteDeviceAt (address : UInt64) (readValue : UInt8)
  | withLevelInterruptByteDeviceAt (address : UInt64)
  deriving DecidableEq, Repr

/-- The bus that a constructor builds. -/
def BusConstructor.build : BusConstructor → MmioBus
  | empty => .empty
  | withByteDevice readValue => .withByteDevice readValue
  | withByteDeviceAt address readValue => .withByteDeviceAt address readValue
  | withInterruptingByteDeviceAt address readValue =>
      .withInterruptingByteDeviceAt address readValue
  | withLevelInterruptByteDeviceAt address => .withLevelInterruptByteDeviceAt address

/-- The operations on a bus.  A queue is served on any guest memory, and with any host state. -/
inductive Call (H : Type) where
  | register (registration : Registration)
  | dispatch (exit : MmioExit)
  | takeDeviceEvent
  | hostNotification (address : UInt64) (queue : UInt16)
  | processRng (address : UInt64) (memory : GuestMemory)
  | processBlk (address : UInt64) (memory : GuestMemory)
  | processBlkAtomic (address : UInt64) (memory : GuestMemory) (host : H)
  | restore (address : UInt64) (snapshot : VirtioBlkDevice)
  | restoreTwo (variant : TwoDeviceRestore) (checkpoints : MmioBus.Checkpoints)

namespace Call

variable {H : Type} (files : HostFiles H)

/-- The bus after an operation, whether it succeeds or fails. -/
def run (bus : MmioBus) : Call H → MmioBus
  | register registration => finalState (registration.run.run bus)
  | dispatch exit => finalState ((MmioBus.dispatch exit).run bus)
  | takeDeviceEvent => bus.takeDeviceEventRecord.2
  | hostNotification address queue =>
      finalState ((MmioBus.applyVirtioBlkHostNotification address queue).run bus)
  | processRng address memory =>
      (finalState ((processVirtioRngNotification address).run ⟨bus, memory, ()⟩)).bus
  | processBlk address memory =>
      (finalState ((processVirtioBlkNotification address).run ⟨bus, memory, ()⟩)).bus
  | processBlkAtomic address memory host =>
      (finalState ((processVirtioBlkNotificationAtomic files address).run ⟨bus, memory, host⟩)).bus
  | restore address snapshot =>
      finalState ((MmioBus.restoreVirtioBlkCheckpointAt address snapshot).run bus)
  | restoreTwo variant checkpoints => finalState ((variant.run checkpoints).run bus)

/-- The addresses an operation is addressed to: of the access, of the BARs, or of the device whose
event is taken.  A registration is addressed to no device. -/
def addresses (bus : MmioBus) : Call H → List UInt64
  | register _ => []
  | dispatch exit => [exit.address]
  | takeDeviceEvent => (bus.takeDeviceEventRecord.1.map (·.deviceAddress)).toList
  | hostNotification address _ => [address]
  | processRng address _ => [address]
  | processBlk address _ => [address]
  | processBlkAtomic address _ _ => [address]
  | restore address _ => [address]
  | restoreTwo _ checkpoints => [checkpoints.1.1, checkpoints.2.1]

variable {bus : MmioBus}

theorem layout_run (bus : MmioBus) (call : Call H)
    (h : ∀ registration, call ≠ register registration) :
    (call.run files bus).layout = bus.layout := by
  cases call with
  | register registration => exact absurd rfl (h registration)
  | dispatch exit => exact MmioBus.dispatch_keeps_layout exit bus
  | takeDeviceEvent => exact bus.layout_takeDeviceEventRecord
  | hostNotification address queue =>
      exact MmioBus.applyVirtioBlkHostNotification_keeps_layout address queue bus
  | processRng address memory =>
      exact MmioBus.onVirtioRngState_keeps_layout VirtioRng.processNotifiedQueue_keeps_bar0 _
  | processBlk address memory =>
      exact MmioBus.onVirtioBlkState_keeps_layout VirtioBlk.processNotifiedQueue_keeps_bar0 _
  | processBlkAtomic address memory host =>
      exact MmioBus.onVirtioBlkState_keeps_layout (processNotifiedQueueAtomic_keeps_bar0 files) _
  | restore address snapshot =>
      rcases bus.restoreVirtioBlkCheckpointAt_cases address snapshot with
        hsame | ⟨i, rfl, -, hindex, hset⟩
      · exact congrArg MmioBus.layout hsame
      · refine (congrArg MmioBus.layout hset).trans ?_
        exact MmioBus.layout_withBlk hindex
  | restoreTwo variant checkpoints =>
      rcases variant.run_cases bus checkpoints with ⟨e, hrun⟩ | ⟨i, j, haccept, hrun⟩
      · exact congrArg (fun r => (finalState r).layout) hrun
      · exact (congrArg (fun r => (finalState r).layout) hrun).trans
          (TwoDeviceRestore.layout_of_accept haccept)

theorem routed_run (hbus : bus.Routed) (call : Call H) : (call.run files bus).Routed := by
  by_cases hregister : ∃ registration, call = register registration
  · obtain ⟨registration, rfl⟩ := hregister
    rcases registration.run_cases bus with ⟨e, -, hrun⟩ | ⟨havailable, hrun⟩
    · rwa [run, hrun]
    · obtain ⟨hfits, hranges⟩ := MmioBus.ensureRangeAvailable_eq_ok.mp havailable
      rw [run, hrun]
      exact hbus.push hfits fun range hrange => (hranges range hrange).2
  · have hranges := MmioBus.registeredRanges_of_layout
      (layout_run files bus call fun registration h => hregister ⟨registration, h⟩)
    exact ⟨hranges.symm ▸ hbus.fits, hranges.symm ▸ hbus.disjoint⟩

theorem device?_run {slot : Slot} {d : Device} (hbus : bus.Routed) (call : Call H)
    (hd : bus.device? slot = some d)
    (h : ∀ address ∈ call.addresses bus, d.handles address = false) :
    (call.run files bus).device? slot = some d := by
  -- a device at a BAR handles the BAR
  have hblk : ∀ address ∈ call.addresses bus, ∀ b, d = .blk b → b.bar0 ≠ address := by
    rintro address haddress b rfl
    exact hbus.base_ne hd (h address haddress)
  cases call with
  | register registration =>
      rcases registration.run_cases bus with ⟨e, -, hrun⟩ | ⟨-, hrun⟩
      · rwa [run, hrun]
      · rw [run, hrun]
        exact MmioBus.device?_push _ hd
  | dispatch exit =>
      exact MmioBus.dispatch_preserves (h exit.address List.mem_cons_self) bus hd
  | takeDeviceEvent =>
      refine MmioBus.device?_takeDeviceEventRecord hd fun record hrecord => ?_
      refine hbus.base_ne hd (h _ ?_)
      simp only [addresses, hrecord, Option.map_some, Option.toList_some, List.mem_singleton]
  | hostNotification address queue =>
      exact MmioBus.applyVirtioBlkHostNotification_preserves queue
        (hblk address List.mem_cons_self) bus hd
  | processRng address memory =>
      refine MmioBus.onVirtioRngState_preserves ?_ ⟨bus, memory, ()⟩ hd
      rintro b rfl
      exact hbus.base_ne hd (h address List.mem_cons_self)
  | processBlk address memory =>
      exact MmioBus.onVirtioBlkState_preserves (hblk address List.mem_cons_self)
        ⟨bus, memory, ()⟩ hd
  | processBlkAtomic address memory host =>
      exact MmioBus.onVirtioBlkState_preserves (hblk address List.mem_cons_self)
        ⟨bus, memory, host⟩ hd
  | restore address snapshot =>
      rcases bus.restoreVirtioBlkCheckpointAt_cases address snapshot with
        hsame | ⟨i, -, -, hindex, hset⟩
      · rwa [run, hsame]
      · rw [run, hset, MmioBus.device?_withBlk, hd]
        exact MmioBus.slot_ne_of_indexAt hindex hd (hblk address List.mem_cons_self)
  | restoreTwo variant checkpoints =>
      rcases variant.run_cases bus checkpoints with ⟨e, hrun⟩ | ⟨i, j, haccept, hrun⟩
      · rwa [run, hrun]
      · obtain ⟨-, -, -, -, hi, hj, -⟩ := TwoDeviceRestore.accept_eq_ok.mp haccept
        have hmem : checkpoints.2.1 ∈ (restoreTwo variant checkpoints : Call H).addresses bus :=
          List.mem_cons_of_mem _ List.mem_cons_self
        rw [run, hrun]
        refine (MmioBus.device?_withTwo ?_ ?_).trans hd
        · exact MmioBus.slot_ne_of_indexAt hi hd (hblk _ List.mem_cons_self)
        · exact MmioBus.slot_ne_of_indexAt hj hd (hblk _ hmem)

end Call

/-! ### Runs -/

section Runs

variable {H : Type} (files : HostFiles H)

/-- The bus after a run of operations. -/
def runCalls (bus : MmioBus) (calls : List (Call H)) : MmioBus :=
  calls.foldl (fun bus call => call.run files bus) bus

theorem routed_runCalls {bus : MmioBus} (hbus : bus.Routed) (calls : List (Call H)) :
    (runCalls files bus calls).Routed := by
  induction calls generalizing bus with
  | nil => exact hbus
  | cons call calls ih => exact ih (call.routed_run files hbus)

theorem routed_build {constructor : BusConstructor}
    (h : ∀ range ∈ constructor.build.registeredRanges, RangeFits range) :
    constructor.build.Routed := by
  refine ⟨h, ?_⟩
  cases constructor with
  | empty => exact List.Pairwise.nil
  | _ => exact List.pairwise_singleton _ _

/-- The bus has one byte device, whose range does not fit 64 bits, so that every registration
fails. -/
def Sealed (bus : MmioBus) : Prop := ∃ range, bus.layout = ([range], [], []) ∧ ¬ RangeFits range

theorem sealed_run {bus : MmioBus} (h : Sealed bus) (call : Call H) :
    Sealed (call.run files bus) := by
  obtain ⟨range, hlayout, hfits⟩ := h
  by_cases hregister : ∃ registration, call = .register registration
  · obtain ⟨registration, rfl⟩ := hregister
    rcases registration.run_cases bus with ⟨e, -, hrun⟩ | ⟨havailable, -⟩
    · rw [Call.run, hrun]
      exact ⟨range, hlayout, hfits⟩
    · have hmem : range ∈ bus.registeredRanges := by
        rw [MmioBus.registeredRanges_eq, hlayout]
        exact List.mem_cons_self
      exact absurd ((MmioBus.ensureRangeAvailable_eq_ok.mp havailable).2 range hmem).1 hfits
  · refine ⟨range, (Call.layout_run files bus call fun registration h => ?_).trans hlayout, hfits⟩
    exact hregister ⟨registration, h⟩

theorem sealed_runCalls {bus : MmioBus} (h : Sealed bus) (calls : List (Call H)) :
    Sealed (runCalls files bus calls) := by
  induction calls generalizing bus with
  | nil => exact h
  | cons call calls ih => exact ih (sealed_run files h call)

theorem routed_or_sealed (constructor : BusConstructor) (calls : List (Call H)) :
    (runCalls files constructor.build calls).Routed ∨
      Sealed (runCalls files constructor.build calls) := by
  by_cases hfits : ∀ range ∈ constructor.build.registeredRanges, RangeFits range
  · exact .inl (routed_runCalls files (routed_build hfits) calls)
  · have hsealed : Sealed constructor.build := by
      cases constructor with
      | empty => exact absurd nofun hfits
      | _ => exact ⟨_, rfl, fun h => hfits (List.forall_mem_singleton.mpr h)⟩
    exact .inr (sealed_runCalls files hsealed calls)

/-- **Routing invariant of the bus.** After any run of operations on a bus that a constructor built
with a range that does not overflow: all ranges have their exclusive end at `2 ^ 64 - 1` or below
and are pairwise disjoint; an address has at most one device; a registration succeeds exactly when
its range ends at `2 ^ 64 - 1` or below and overlaps no registered one, and leaves the bus as it was
when it fails; and an operation changes no device but those that handle the addresses it is
addressed to. -/
theorem routing_invariant (constructor : BusConstructor)
    (hconstructor : ∀ range ∈ constructor.build.registeredRanges, RangeFits range)
    (calls : List (Call H)) (bus : MmioBus) (hrun : bus = runCalls files constructor.build calls) :
    (∀ range ∈ bus.registeredRanges, range.1.toNat + range.2.toNat ≤ 2 ^ 64 - 1) ∧
    (bus.registeredRanges.Pairwise fun range other => ¬ MmioBus.RangesOverlap range other) ∧
    (∀ (address : UInt64) (slot slot' : Slot) (d d' : Device), bus.device? slot = some d →
      bus.device? slot' = some d' → d.handles address = true → d'.handles address = true →
      slot = slot') ∧
    (∀ registration : Registration,
      ((∃ bus', registration.run.run bus = .ok () bus') ↔
        registration.device.range.1.toNat + registration.device.range.2.toNat ≤ 2 ^ 64 - 1 ∧
          ∀ range ∈ bus.registeredRanges,
            ¬ MmioBus.RangesOverlap registration.device.range range) ∧
      ∀ e bus', registration.run.run bus = .error e bus' → bus' = bus) ∧
    (∀ (call : Call H) (slot : Slot) (d : Device), bus.device? slot = some d →
      (∀ address ∈ call.addresses bus, d.handles address = false) →
      (call.run files bus).device? slot = some d) := by
  have hbus : bus.Routed := hrun ▸ routed_runCalls files (routed_build hconstructor) calls
  have hfits (range : UInt64 × UInt64) :
      RangeFits range ↔ range.1.toNat + range.2.toNat ≤ 2 ^ 64 - 1 := by
    unfold RangeFits
    omega
  refine ⟨fun range hrange => (hfits range).mp (hbus.fits range hrange), hbus.disjoint,
    fun address slot slot' d d' hd hd' h h' => hbus.slot_eq hd hd' h h', fun registration => ?_,
    fun call slot d hd h => call.device?_run files hbus hd h⟩
  refine ⟨?_, fun e bus' herror => ?_⟩
  · rw [← hfits]
    exact Registration.run_eq_ok_iff hbus
  · rcases registration.run_cases bus with ⟨e', -, hrun'⟩ | ⟨-, hrun'⟩
    · rw [hrun'] at herror
      cases herror
      rfl
    · rw [hrun'] at herror
      cases herror

/-- A bus with one virtio-blk device, at `0x1000`. -/
def oneBlkBus : MmioBus :=
  runCalls noFiles BusConstructor.empty.build [.register (.virtioBlkDeviceAt 0x1000)]

theorem registeredRanges_oneBlkBus : oneBlkBus.registeredRanges = [(0x1000, 0x1000)] := by
  have havailable : MmioBus.empty.ensureRangeAvailable (virtioBlkRange 0x1000) = .ok () :=
    MmioBus.ensureRangeAvailable_eq_ok.mpr ⟨by decide, nofun⟩
  rcases (Registration.virtioBlkDeviceAt 0x1000).run_cases .empty with ⟨e, herror, -⟩ | ⟨-, hrun⟩
  · exact absurd (herror.symm.trans havailable) nofun
  · have hbus : oneBlkBus = MmioBus.empty.push (.blk (.new 0x1000)) := congrArg finalState hrun
    rw [hbus]
    rfl

/-- Next to a virtio-blk device at `0x1000` there is room for a virtio-rng device. -/
theorem routing_invariant_nextRange :
    ∃ bus', (Registration.virtioRngDeviceAt 0x2000).run.run oneBlkBus = .ok () bus' := by
  refine ((routing_invariant noFiles .empty nofun [.register (.virtioBlkDeviceAt 0x1000)] oneBlkBus
    rfl).2.2.2.1 (.virtioRngDeviceAt 0x2000)).1.mpr ⟨by decide, ?_⟩
  rw [registeredRanges_oneBlkBus]
  rintro range hrange ⟨hlt, -⟩
  obtain rfl := List.mem_singleton.mp hrange
  exact absurd hlt (by decide)

end Runs

end MiniHypervisor.Mmio
