import MiniHypervisor.Mmio.Events

/-!
# The level-interrupt protocol

A level device asks for its line to be asserted when its interrupt becomes pending, and to be
deasserted once the interrupt is acknowledged.  The bus drains such requests one at a time, in the
order of the devices, between accesses of the guest to any of them.

The drained records and accepted accesses of a bus are sorted by the base of the device.  What is
left for one byte device is a run of that device alone, and the protocol is proved there.
-/

namespace MiniHypervisor.Mmio

open Bytes Control Memory VirtioBlk VirtioRng
open ByteMmioDevice (WritesAt pendingAfter)

/-! ### A lone device -/

/-- A run of a byte device: the events that were taken from it, the accesses that it accepted, and
the device at the end. -/
inductive DeviceRun (start : ByteMmioDevice) :
    List MmioDeviceEvent → List MmioExit → ByteMmioDevice → Prop
  | start : DeviceRun start [] [] start
  | access {events : List MmioDeviceEvent} {exits : List MmioExit} {d d' : ByteMmioDevice}
      {exit : MmioExit} {service : MmioService} (before : DeviceRun start events exits d)
      (accepted : (ByteMmioDevice.handle exit).run d = .ok service d') :
      DeviceRun start events (exits ++ [exit]) d'
  | take {events : List MmioDeviceEvent} {exits : List MmioExit} {d : ByteMmioDevice}
      {event : MmioDeviceEvent} (before : DeviceRun start events exits d)
      (due : d.takeEvent.1 = some event) :
      DeviceRun start (events ++ [event]) exits d.takeEvent.2

/-- The event at a position of an alternating sequence that starts with an assertion. -/
def lineEvent (k : ℕ) : MmioDeviceEvent :=
  if k % 2 = 0 then .interruptLineAssertRequested else .interruptLineDeassertRequested

/-- A write of the command register, with no write of the acknowledge register after it. -/
def Triggered (base : UInt64) (exits : List MmioExit) : Prop :=
  ∃ before exit after, exits = before ++ exit :: after ∧ WritesAt base 0 exit ∧
    ∀ later ∈ after, ¬ WritesAt base levelInterruptAckOffset later

section Device

variable {base address : UInt64} {readValue : UInt8} {start d d' : ByteMmioDevice}
  {events : List MmioDeviceEvent} {exits : List MmioExit} {exit : MmioExit}

theorem getLast?_lineEvents (n : ℕ) :
    ((List.range n).map lineEvent).getLast? = some .interruptLineAssertRequested ↔ n % 2 = 1 := by
  cases n with
  | zero => simp
  | succ n =>
      simp only [List.range_succ, List.map_append, List.map_singleton, List.getLast?_append,
        List.getLast?_singleton, Option.some_or, Option.some.injEq, lineEvent]
      split_ifs with hn
      · simp; omega
      · simp; omega

theorem triggered_concat :
    Triggered base (exits ++ [exit]) ↔ WritesAt base 0 exit ∨
      (Triggered base exits ∧ ¬ WritesAt base levelInterruptAckOffset exit) := by
  constructor
  · rintro ⟨before, found, after, hsplit, hcommand, hafter⟩
    rcases List.eq_nil_or_concat' after with rfl | ⟨after', last, rfl⟩
    · obtain ⟨-, hfound⟩ := List.append_inj' hsplit rfl
      cases hfound
      exact .inl hcommand
    · rw [← List.cons_append, ← List.append_assoc] at hsplit
      obtain ⟨rfl, hlast⟩ := List.append_inj' hsplit rfl
      cases hlast
      exact .inr ⟨⟨before, found, after', rfl, hcommand, fun later hlater =>
        hafter later (List.mem_append_left _ hlater)⟩, hafter exit (by simp)⟩
  · rintro (hcommand | ⟨⟨before, found, after, rfl, hcommand, hafter⟩, hlast⟩)
    · exact ⟨exits, exit, [], rfl, hcommand, nofun⟩
    · refine ⟨before, found, after ++ [exit], by simp, hcommand, fun later hlater => ?_⟩
      rcases List.mem_append.mp hlater with hlater | hlater
      · exact hafter later hlater
      · rwa [List.mem_singleton.mp hlater]

theorem foldl_pendingAfter_iff (exits : List MmioExit) :
    exits.foldl (pendingAfter base) false = true ↔ Triggered base exits := by
  induction exits using List.reverseRecOn with
  | nil => simp [Triggered]
  | append_singleton exits exit ih =>
      rw [List.foldl_concat, triggered_concat, ← ih, pendingAfter]
      split_ifs with hcommand hacknowledge
      · simp [hcommand]
      · simp [hcommand, hacknowledge]
      · simp [hcommand, hacknowledge]

/-- The state of a level device against its past. -/
structure LevelProtocol (address : UInt64) (events : List MmioDeviceEvent) (exits : List MmioExit)
    (d : ByteMmioDevice) : Prop where
  place : d.place = (address, .levelInterrupt)
  line : ∃ n, events = (List.range n).map lineEvent ∧ (d.levelLineAsserted = true ↔ n % 2 = 1)
  pending : d.levelInterruptPending = exits.foldl (pendingAfter address) false

theorem LevelProtocol.access {service : MmioService} (h : LevelProtocol address events exits d)
    (haccepted : (ByteMmioDevice.handle exit).run d = .ok service d') :
    LevelProtocol address events (exits ++ [exit]) d' := by
  obtain ⟨haddress, hmode⟩ := Prod.mk.inj h.place
  obtain ⟨hline, hpending⟩ :=
    (ByteMmioDevice.ensures_handle exit d d rfl).1 service d' haccepted hmode
  have hplace := ByteMmioDevice.handle_keeps_place exit d
  rw [haccepted] at hplace
  obtain ⟨n, hevents, hasserted⟩ := h.line
  refine ⟨hplace.trans h.place, ⟨n, hevents, hline ▸ hasserted⟩, ?_⟩
  rw [hpending, List.foldl_concat, ← h.pending, haddress]

theorem LevelProtocol.take {event : MmioDeviceEvent} (h : LevelProtocol address events exits d)
    (hdue : d.takeEvent.1 = some event) :
    LevelProtocol address (events ++ [event]) exits d.takeEvent.2 := by
  obtain ⟨-, hmode⟩ := Prod.mk.inj h.place
  obtain ⟨n, rfl, hasserted⟩ := h.line
  rcases d.takeEvent_of_level hmode with ⟨-, hnone⟩ | htake
  · rw [hnone] at hdue
    cases hdue
  · rw [htake] at hdue ⊢
    obtain rfl := Option.some.inj hdue
    have hparity : lineEvent n = if d.levelLineAsserted then .interruptLineDeassertRequested
        else .interruptLineAssertRequested := by
      rw [lineEvent]
      split_ifs with heven hline hline
      · have hodd := hasserted.mp hline
        omega
      · rfl
      · rfl
      · exact absurd (hasserted.mpr (by omega)) hline
    refine ⟨h.place, ⟨n + 1, ?_, ?_⟩, h.pending⟩
    · rw [List.range_succ, List.map_append, List.map_singleton, hparity]
    · rw [Bool.not_eq_true', ← Bool.not_eq_true, hasserted]
      omega

/-- **The protocol of a lone level device.** -/
theorem DeviceRun.levelProtocol
    (h : DeviceRun (.new address readValue .levelInterrupt) events exits d) :
    LevelProtocol address events exits d := by
  induction h with
  | start => exact ⟨rfl, ⟨0, rfl, by simp [ByteMmioDevice.new]⟩, rfl⟩
  | access _ accepted ih => exact ih.access accepted
  | take _ due ih => exact ih.take due

theorem DeviceRun.place (h : DeviceRun start events exits d) : d.place = start.place := by
  induction h with
  | start => rfl
  | @access _ _ d d' exit _ _ accepted ih =>
      have hplace := ByteMmioDevice.handle_keeps_place exit d
      rw [accepted] at hplace
      exact hplace.trans ih
  | @take _ _ d _ _ _ ih => exact d.place_takeEvent.trans ih

end Device

/-! ### The devices of a bus -/

/-- The drained events of the device with the base. -/
def eventsAt (base : UInt64) (drained : List MmioDeviceEventRecord) : List MmioDeviceEvent :=
  (drained.filter fun record => record.deviceAddress = base).map (·.event)

/-- The accepted accesses of the device with the base. -/
def exitsAt (base : UInt64) (accepted : List (Device × MmioExit)) : List MmioExit :=
  (accepted.filter fun access => access.1.range.1 = base).map Prod.snd

/-- The bases of the devices. -/
def MmioBus.bases (bus : MmioBus) : List UInt64 := bus.byteDevices.map (·.address) ++ bus.bars

section Bases

variable {bus : MmioBus}

theorem map_fst_registeredRanges (bus : MmioBus) :
    bus.registeredRanges.map Prod.fst = bus.bases := by
  simp only [MmioBus.registeredRanges, MmioBus.bases, MmioBus.bars, MmioBus.layout,
    List.map_append, List.map_map, List.append_assoc]
  rfl

theorem bases_of_layout {bus' : MmioBus} (h : bus'.layout = bus.layout) :
    bus'.bases = bus.bases := by
  rw [← map_fst_registeredRanges, ← map_fst_registeredRanges,
    MmioBus.registeredRanges_of_layout h]

theorem size_pos {range : UInt64 × UInt64} (h : range ∈ bus.registeredRanges) :
    0 < range.2.toNat := by
  simp only [MmioBus.registeredRanges, List.mem_append, List.mem_map] at h
  rcases h with (⟨d, -, rfl⟩ | ⟨d, -, rfl⟩) | ⟨d, -, rfl⟩
  · exact d.addressRange_pos
  · exact Nat.zero_lt_succ _
  · exact Nat.zero_lt_succ _

theorem nodup_of_routed (h : bus.Routed) : bus.bases.Nodup := by
  rw [← map_fst_registeredRanges]
  refine List.pairwise_map.mpr ?_
  refine h.disjoint.imp_of_mem fun {range other} hrange hother hdisjoint hbase => hdisjoint ?_
  have hsize := size_pos hrange
  have hsize' := size_pos hother
  exact ⟨by rw [hbase]; omega, by rw [hbase]; omega⟩

theorem nodup_of_sealed (h : Sealed bus) : bus.bases.Nodup := by
  obtain ⟨range, hlayout, -⟩ := h
  rw [← map_fst_registeredRanges, MmioBus.registeredRanges_eq, hlayout]
  exact List.nodup_singleton _

variable {i j : ℕ} {d d' : ByteMmioDevice}

theorem address_mem_bases (hd : bus.byteDevices[i]? = some d) : d.address ∈ bus.bases :=
  List.mem_append_left _ (List.mem_map_of_mem (List.mem_of_getElem? hd))

theorem address_ne_of_bar (h : bus.bases.Nodup) (hd : bus.byteDevices[i]? = some d)
    {bar : UInt64} (hbar : bar ∈ bus.bars) : bar ≠ d.address := by
  rintro rfl
  exact List.disjoint_of_nodup_append h (List.mem_map_of_mem (List.mem_of_getElem? hd)) hbar

theorem address_ne (h : bus.bases.Nodup) (hd : bus.byteDevices[i]? = some d)
    (hd' : bus.byteDevices[j]? = some d') (hne : i ≠ j) : d.address ≠ d'.address := by
  intro haddress
  obtain ⟨hi, -⟩ := List.getElem?_eq_some_iff.mp hd
  refine hne ((List.getElem?_inj (l := bus.byteDevices.map (·.address)) (by simpa)
    (List.Nodup.of_append_left h)).mp ?_)
  rw [List.getElem?_map, List.getElem?_map, hd, hd', Option.map_some, haddress, Option.map_some]

end Bases

/-- The past of a bus, given by the drained records and the accepted accesses: it concerns devices
of the bus only, the queued records concern its virtio devices, and what concerns a byte device is a
run of that device from its registration on. -/
structure Recorded (drained : List MmioDeviceEventRecord) (accepted : List (Device × MmioExit))
    (bus : MmioBus) : Prop where
  drained_mem : ∀ record ∈ drained, record.deviceAddress ∈ bus.bases
  accepted_mem : ∀ access ∈ accepted, access.1.range.1 ∈ bus.bases
  queued_mem : ∀ record ∈ bus.virtioEvents, record.deviceAddress ∈ bus.bars
  devices : ∀ (i : ℕ) (d : ByteMmioDevice), bus.byteDevices[i]? = some d → ∃ readValue mode,
    DeviceRun (.new d.address readValue mode) (eventsAt d.address drained)
      (exitsAt d.address accepted) d

section Recorded

variable {bus bus' : MmioBus} {base : UInt64} {drained drained' : List MmioDeviceEventRecord}
  {accepted accepted' : List (Device × MmioExit)}

theorem eventsAt_append : eventsAt base (drained ++ drained') =
    eventsAt base drained ++ eventsAt base drained' := by
  simp only [eventsAt, List.filter_append, List.map_append]

theorem exitsAt_append : exitsAt base (accepted ++ accepted') =
    exitsAt base accepted ++ exitsAt base accepted' := by
  simp only [exitsAt, List.filter_append, List.map_append]

theorem eventsAt_of_ne (h : ∀ record ∈ drained, record.deviceAddress ≠ base) :
    eventsAt base drained = [] := by
  simpa [eventsAt] using h

theorem exitsAt_of_ne (h : ∀ access ∈ accepted, access.1.range.1 ≠ base) :
    exitsAt base accepted = [] := by
  refine List.map_eq_nil_iff.mpr (List.filter_eq_nil_iff.mpr fun access haccess => ?_)
  simpa using h access haccess

theorem eventsAt_concat (event : MmioDeviceEvent) :
    eventsAt base (drained ++ [⟨base, event⟩]) = eventsAt base drained ++ [event] := by
  simp [eventsAt]

theorem exitsAt_concat (d : ByteMmioDevice) (exit : MmioExit) :
    exitsAt d.address (accepted ++ [(.byte d, exit)]) = exitsAt d.address accepted ++ [exit] := by
  simp [exitsAt, Device.range, ByteMmioDevice.addressRange]

theorem notification_address {device : Device} {exit : MmioExit} {record : MmioDeviceEventRecord}
    (h : record ∈ (device.notification exit).toList) : record.deviceAddress = device.range.1 := by
  rw [Option.mem_toList] at h
  cases device with
  | byte d => cases h
  | rng d | blk d =>
      simp only [Device.notification, Option.ite_none_right_eq_some, Option.some.injEq] at h
      rw [← h.2]
      rfl

theorem Recorded.of_layout (h : Recorded drained accepted bus) (hlayout : bus'.layout = bus.layout)
    (hdrained : ∀ record ∈ drained', record.deviceAddress ∈ bus.bases)
    (haccepted : ∀ access ∈ accepted', access.1.range.1 ∈ bus.bases)
    (hqueued : ∀ record ∈ bus'.virtioEvents, record.deviceAddress ∈ bus.bars)
    (hdevices : ∀ (i : ℕ) (d : ByteMmioDevice), bus'.byteDevices[i]? = some d →
      ∃ readValue mode, DeviceRun (.new d.address readValue mode)
        (eventsAt d.address (drained ++ drained')) (exitsAt d.address (accepted ++ accepted')) d) :
    Recorded (drained ++ drained') (accepted ++ accepted') bus' := by
  have hbases := bases_of_layout hlayout
  have hbars : bus'.bars = bus.bars := by rw [MmioBus.bars, hlayout, MmioBus.bars]
  refine ⟨?_, ?_, ?_, hdevices⟩
  · rw [hbases]
    exact List.forall_mem_append.mpr ⟨h.drained_mem, hdrained⟩
  · rw [hbases]
    exact List.forall_mem_append.mpr ⟨h.accepted_mem, haccepted⟩
  · rwa [hbars]

theorem Recorded.of_ne (h : Recorded drained accepted bus) {i : ℕ} {d : ByteMmioDevice}
    (hd : bus.byteDevices[i]? = some d)
    (hdrained : ∀ record ∈ drained', record.deviceAddress ≠ d.address)
    (haccepted : ∀ access ∈ accepted', access.1.range.1 ≠ d.address) :
    ∃ readValue mode, DeviceRun (.new d.address readValue mode)
      (eventsAt d.address (drained ++ drained')) (exitsAt d.address (accepted ++ accepted')) d := by
  rw [eventsAt_append, exitsAt_append, eventsAt_of_ne hdrained, exitsAt_of_ne haccepted,
    List.append_nil, List.append_nil]
  exact h.devices i d hd

theorem Recorded.of_set (h : Recorded drained accepted bus) (hnodup : bus.bases.Nodup) {i : ℕ}
    {d d' : ByteMmioDevice} (hd : bus.byteDevices[i]? = some d) (hplace : d'.place = d.place)
    (hdrained : ∀ record ∈ drained', record.deviceAddress = d.address)
    (haccepted : ∀ access ∈ accepted', access.1.range.1 = d.address)
    (hrun : ∀ {start}, DeviceRun start (eventsAt d.address drained) (exitsAt d.address accepted) d →
      DeviceRun start (eventsAt d.address (drained ++ drained'))
        (exitsAt d.address (accepted ++ accepted')) d') :
    Recorded (drained ++ drained') (accepted ++ accepted')
      { bus with byteDevices := bus.byteDevices.set i d' } := by
  have haddress : d'.address = d.address := congrArg Prod.fst hplace
  have hbase := address_mem_bases hd
  refine h.of_layout (MmioBus.layout_set_byte hd ?_) ?_ ?_ h.queued_mem ?_
  · exact congrArg (fun p : UInt64 × ByteMmioDeviceMode =>
      (ByteMmioDevice.new p.1 0 p.2).addressRange) hplace
  · exact fun record hrecord => hdrained record hrecord ▸ hbase
  · exact fun access haccess => haccepted access haccess ▸ hbase
  · intro j other hother
    by_cases hij : i = j
    · subst hij
      obtain rfl : d' = other := by
        simpa [(List.getElem?_eq_some_iff.mp hd).1] using hother
      obtain ⟨readValue, mode, hbefore⟩ := h.devices i d hd
      rw [haddress]
      exact ⟨readValue, mode, hrun hbefore⟩
    · rw [List.getElem?_set_ne hij] at hother
      have hne := address_ne hnodup hd hother hij
      exact h.of_ne hother (fun record hrecord => hdrained record hrecord ▸ hne)
        fun access haccess => haccepted access haccess ▸ hne

theorem bars_subset_push (device : Device) : bus.bars ⊆ (bus.push device).bars := by
  intro bar hbar
  cases device <;> simp only [MmioBus.bars, MmioBus.layout, MmioBus.push, List.map_append,
    List.mem_append] at hbar ⊢
  · exact hbar
  · exact hbar.imp_left .inl
  · exact hbar.imp_right .inl

theorem byteDevices_push (registration : Registration) {i : ℕ} {d : ByteMmioDevice}
    (hd : (bus.push registration.device).byteDevices[i]? = some d) :
    bus.byteDevices[i]? = some d ∨
      ∃ address readValue mode, d = .new address readValue mode ∧
        registration.device.range.1 = address := by
  have hconcat {b : ByteMmioDevice} (h : (bus.byteDevices ++ [b])[i]? = some d) :
      bus.byteDevices[i]? = some d ∨ d = b := by
    rw [List.getElem?_append] at h
    split_ifs at h
    · exact .inl h
    · exact .inr (List.mem_singleton.mp (List.mem_of_getElem? h))
  cases registration with
  | byteDeviceAt address readValue =>
      exact (hconcat hd).imp_right fun h => ⟨address, readValue, .plain, h, rfl⟩
  | levelInterruptByteDeviceAt address =>
      exact (hconcat hd).imp_right fun h => ⟨address, 0, .levelInterrupt, h, rfl⟩
  | virtioRngDeviceAt address | virtioBlkDeviceAt address => exact .inl hd

theorem Recorded.push (h : Recorded drained accepted bus) (registration : Registration)
    (hnodup : (bus.push registration.device).bases.Nodup) :
    Recorded drained accepted (bus.push registration.device) := by
  have hperm : (bus.push registration.device).bases.Perm
      (registration.device.range.1 :: bus.bases) := by
    have hranges := (bus.registeredRanges_push registration.device).map Prod.fst
    rwa [map_fst_registeredRanges, List.map_cons, map_fst_registeredRanges] at hranges
  have hfresh : ∀ base ∈ bus.bases, base ≠ registration.device.range.1 := by
    rintro base hbase rfl
    exact (List.nodup_cons.mp (hperm.nodup_iff.mp hnodup)).1 hbase
  have hmem {base : UInt64} (hbase : base ∈ bus.bases) :
      base ∈ (bus.push registration.device).bases :=
    hperm.mem_iff.mpr (List.mem_cons_of_mem _ hbase)
  refine ⟨fun record hrecord => hmem (h.drained_mem record hrecord),
    fun access haccess => hmem (h.accepted_mem access haccess), fun record hrecord => ?_,
    fun i d hd => ?_⟩
  · refine bars_subset_push _ (h.queued_mem record ?_)
    cases registration <;> exact hrecord
  · rcases byteDevices_push registration hd with hold | ⟨address, readValue, mode, rfl, rfl⟩
    · exact h.devices i d hold
    · refine ⟨readValue, mode, ?_⟩
      rw [eventsAt_of_ne, exitsAt_of_ne]
      · exact .start
      · exact fun access haccess => hfresh _ (h.accepted_mem access haccess)
      · exact fun record hrecord => hfresh _ (h.drained_mem record hrecord)

theorem Recorded.step (h : Recorded drained accepted bus) (hnodup : bus.bases.Nodup)
    (hnodup' : bus'.bases.Nodup) (hstep : BusStep bus drained' accepted' bus') :
    Recorded (drained ++ drained') (accepted ++ accepted') bus' := by
  cases hstep with
  | quiet bytes queue layout =>
      refine h.of_layout layout (List.forall_mem_nil _) (List.forall_mem_nil _)
        (queue ▸ h.queued_mem) fun i d hd => ?_
      rw [bytes] at hd
      exact h.of_ne hd (List.forall_mem_nil _) (List.forall_mem_nil _)
  | registers registration available =>
      rw [List.append_nil, List.append_nil]
      exact h.push registration hnodup'
  | @byteAccess i d d' exit service target haccepted =>
      have hplace := ByteMmioDevice.handle_keeps_place exit d
      rw [haccepted] at hplace
      refine h.of_set hnodup target hplace (List.forall_mem_nil _)
        (List.forall_mem_singleton.mpr rfl) fun hbefore => ?_
      rw [List.append_nil, exitsAt_concat]
      exact .access hbefore haccepted
  | virtioAccess target bytes queue layout =>
      refine h.of_layout layout (List.forall_mem_nil _) ?_ ?_ fun i d hd => ?_
      · exact List.forall_mem_singleton.mpr (List.mem_append_right _ target)
      · rw [queue]
        refine List.forall_mem_append.mpr ⟨h.queued_mem, fun record hrecord => ?_⟩
        rwa [notification_address hrecord]
      · rw [bytes] at hd
        exact h.of_ne hd (List.forall_mem_nil _)
          (List.forall_mem_singleton.mpr (address_ne_of_bar hnodup hd target))
  | @byteEvent i d event target due =>
      refine h.of_set hnodup target d.place_takeEvent (List.forall_mem_singleton.mpr rfl)
        (List.forall_mem_nil _) fun hbefore => ?_
      rw [List.append_nil, eventsAt_concat]
      exact .take hbefore due
  | @queuedEvent record rest queue =>
      have hqueued : ∀ queued ∈ record :: rest, queued.deviceAddress ∈ bus.bars :=
        queue ▸ h.queued_mem
      have hrecord := hqueued record List.mem_cons_self
      refine h.of_layout rfl ?_ (List.forall_mem_nil _) ?_ fun i d hd =>
        h.of_ne hd ?_ (List.forall_mem_nil _)
      · exact List.forall_mem_singleton.mpr (List.mem_append_right _ hrecord)
      · exact fun queued hmem => hqueued queued (List.mem_cons_of_mem _ hmem)
      · exact List.forall_mem_singleton.mpr (address_ne_of_bar hnodup hd hrecord)

end Recorded

section Runs

variable {H : Type} (files : HostFiles H)

theorem nodup_bases (constructor : BusConstructor) (calls : List (Call H)) :
    (runCalls files constructor.build calls).bases.Nodup :=
  (routed_or_sealed files constructor calls).elim nodup_of_routed nodup_of_sealed

/-- **Every byte device of a bus has run alone.** -/
theorem recorded_run (constructor : BusConstructor) (calls : List (Call H)) :
    Recorded (drainedRecords files constructor.build calls)
      (acceptedAccesses files constructor.build calls)
      (runCalls files constructor.build calls) := by
  induction calls using List.reverseRecOn with
  | nil =>
      refine ⟨List.forall_mem_nil _, List.forall_mem_nil _, ?_, fun i d hd => ?_⟩
      · cases constructor <;> exact List.forall_mem_nil _
      · have hmem := List.mem_of_getElem? hd
        cases constructor with
        | empty => cases hmem
        | _ =>
            cases List.mem_singleton.mp hmem
            exact ⟨_, _, .start⟩
  | append_singleton calls call ih =>
      have hnodup' := nodup_bases files constructor (calls ++ [call])
      have hrun : runCalls files constructor.build (calls ++ [call]) =
          call.run files (runCalls files constructor.build calls) := runSteps_concat calls call
      rw [hrun] at hnodup' ⊢
      rw [drainedRecords, acceptedAccesses, eventsOf_concat, eventsOf_concat, List.flatten_concat,
        List.flatten_concat]
      exact ih.step (nodup_bases files constructor calls) hnodup' (call.busStep_run files _)

end Runs

/-! ### Draining -/

/-- The events that are due and the records that are queued. -/
def MmioBus.dueCount (bus : MmioBus) : ℕ :=
  bus.byteDevices.countP (fun d => d.takeEvent.1.isSome) + bus.virtioEvents.length

theorem dueCount_take {bus : MmioBus} {record : MmioDeviceEventRecord}
    (h : bus.takeDeviceEventRecord.1 = some record) :
    bus.takeDeviceEventRecord.2.dueCount + 1 = bus.dueCount := by
  rcases bus.takeDeviceEventRecord_cases with ⟨i, d, event, hd, hdue, htake⟩ | ⟨-, htake⟩
  · obtain ⟨hi, rfl⟩ := List.getElem?_eq_some_iff.mp hd
    have hpos : 0 < bus.byteDevices.countP fun d => d.takeEvent.1.isSome :=
      List.countP_pos_iff.mpr ⟨_, List.getElem_mem hi, by rw [hdue]; rfl⟩
    rw [htake]
    simp only [MmioBus.dueCount, List.countP_set hi, hdue, Option.isSome_some, if_true,
      ByteMmioDevice.takeEvent_takeEvent _ hdue, Option.isSome_none, Bool.false_eq_true, if_false]
    omega
  · rw [htake] at h ⊢
    cases hqueue : bus.virtioEvents with
    | nil =>
        rw [hqueue] at h
        cases h
    | cons first rest => simp [MmioBus.dueCount, hqueue, Nat.add_assoc]

theorem line_of_take_eq_none {bus : MmioBus} {d : ByteMmioDevice}
    (h : bus.takeDeviceEventRecord.1 = none) (hd : d ∈ bus.byteDevices)
    (hmode : d.mode = .levelInterrupt) : d.levelInterruptPending = d.levelLineAsserted := by
  rcases bus.takeDeviceEventRecord_cases with ⟨i, due, event, -, -, htake⟩ | ⟨hnone, -⟩
  · rw [htake] at h
    cases h
  · rcases d.takeEvent_of_level hmode with ⟨hline, -⟩ | htake
    · exact hline
    · have hevent := hnone d hd
      rw [htake] at hevent
      cases hevent

theorem exists_take_eq_none (bus : MmioBus) :
    ∃ n ≤ bus.dueCount,
      ((fun b : MmioBus => b.takeDeviceEventRecord.2)^[n] bus).takeDeviceEventRecord.1 = none := by
  induction hcount : bus.dueCount generalizing bus with
  | zero =>
      cases htake : bus.takeDeviceEventRecord.1 with
      | none => exact ⟨0, Nat.le_refl _, htake⟩
      | some record => exact absurd (dueCount_take htake) (by omega)
  | succ count ih =>
      cases htake : bus.takeDeviceEventRecord.1 with
      | none => exact ⟨0, Nat.zero_le _, htake⟩
      | some record =>
          have hdecrease := dueCount_take htake
          obtain ⟨n, hn, hnone⟩ := ih bus.takeDeviceEventRecord.2 (by omega)
          exact ⟨n + 1, Nat.succ_le_succ hn, hnone⟩

section Protocol

variable {H : Type} (files : HostFiles H)

/-- **The level-interrupt protocol.** Along every run of operations on a bus, for each of its level
devices: the drained events alternate, starting with an assertion; the interrupt is pending exactly
when a write of the command register was accepted after the last accepted acknowledgement; and
whenever no event is left to take, the line that the drained events imply is the pending flag.  From
every state, finitely many takes leave no event. -/
theorem level_interrupt_protocol (constructor : BusConstructor) (calls : List (Call H)) :
    (∀ bus, bus = runCalls files constructor.build calls → ∀ d ∈ bus.byteDevices,
      d.mode = .levelInterrupt → ∀ events,
      events = eventsAt d.address (drainedRecords files constructor.build calls) →
      (∃ n, events = (List.range n).map lineEvent) ∧
      (d.levelInterruptPending = true ↔ Triggered d.address
        (exitsAt d.address (acceptedAccesses files constructor.build calls))) ∧
      (bus.takeDeviceEventRecord.1 = none →
        (events.getLast? = some .interruptLineAssertRequested ↔
          d.levelInterruptPending = true))) ∧
    ∀ bus : MmioBus, ∃ n,
      ((fun b : MmioBus => b.takeDeviceEventRecord.2)^[n] bus).takeDeviceEventRecord.1 = none := by
  refine ⟨?_, fun bus => ?_⟩
  · rintro bus rfl d hd hmode events rfl
    obtain ⟨i, hi⟩ := List.getElem?_of_mem hd
    obtain ⟨readValue, mode, hrun⟩ := (recorded_run files constructor calls).devices i d hi
    obtain rfl : mode = .levelInterrupt := (congrArg Prod.snd hrun.place).symm.trans hmode
    obtain ⟨-, ⟨n, hevents, hline⟩, hpending⟩ := hrun.levelProtocol
    refine ⟨⟨n, hevents⟩, ?_, fun hnone => ?_⟩
    · rw [hpending, foldl_pendingAfter_iff]
    · rw [hevents, getLast?_lineEvents, ← hline, line_of_take_eq_none hnone hd hmode]
  · obtain ⟨n, -, hnone⟩ := exists_take_eq_none bus
    exact ⟨n, hnone⟩

end Protocol

end MiniHypervisor.Mmio
