import Mathlib.Data.Nat.Bitwise
import MiniHypervisor.Control.Registers
import MiniHypervisor.PortIo.Pci

/-!
# The configuration space behind the two ports

What a guest sees of PCI configuration mechanism 1 is a set of registers: the address register and
the dwords of the one function that is present.  A write that is accepted sets one register to the
value written, and nothing else changes any of them.  So each register holds the last write that was
accepted, whichever function is present and whatever the guest does with the ports.
-/

namespace MiniHypervisor.PortIo

open Bytes Control Vcpu

/-! ### Bit fields -/

theorem and_shifted_mask (n k j : ℕ) :
    n &&& (2 ^ k * (2 ^ j - 1)) = 2 ^ k * (n / 2 ^ k % 2 ^ j) := by
  have hpos := Nat.two_pow_pos k
  rw [← Nat.div_add_mod (n &&& (2 ^ k * (2 ^ j - 1))) (2 ^ k), Nat.and_div_two_pow,
    Nat.and_mod_two_pow, Nat.mul_div_cancel_left _ hpos, Nat.mul_mod_right, Nat.and_zero,
    Nat.add_zero, Nat.and_two_pow_sub_one_eq_mod]

/-- The address register is enabled and names function 0 of device 1 on bus 0, and `offset` is its
register, aligned to a dword. -/
structure Selects (address : UInt32) (offset : UInt8) : Prop where
  enabled : address.toNat.testBit 31 = true
  bus : address.toNat / 2 ^ 16 % 2 ^ 8 = 0
  device : address.toNat / 2 ^ 11 % 2 ^ 5 = 1
  function : address.toNat / 2 ^ 8 % 2 ^ 3 = 0
  aligned : offset.toNat = 4 * (address.toNat % 2 ^ 8 / 4)

section Selects

variable (address : UInt32)

theorem and_pciConfigEnable_eq_zero :
    address &&& pciConfigEnable = 0 ↔ address.toNat.testBit 31 = false := by
  rw [← UInt32.toNat_inj, UInt32.toNat_and]
  change address.toNat &&& 2 ^ 31 = 0 ↔ _
  rw [Nat.and_two_pow]
  cases address.toNat.testBit 31 <;> simp

theorem toNat_bus : ((address >>> 16) &&& 0xff).toNat = address.toNat / 2 ^ 16 % 2 ^ 8 := by
  rw [UInt32.toNat_and, UInt32.toNat_shiftRight, Nat.shiftRight_eq_div_pow]
  exact Nat.and_two_pow_sub_one_eq_mod _ 8

theorem toNat_device : ((address >>> 11) &&& 0x1f).toNat = address.toNat / 2 ^ 11 % 2 ^ 5 := by
  rw [UInt32.toNat_and, UInt32.toNat_shiftRight, Nat.shiftRight_eq_div_pow]
  exact Nat.and_two_pow_sub_one_eq_mod _ 5

theorem toNat_function : ((address >>> 8) &&& 0x07).toNat = address.toNat / 2 ^ 8 % 2 ^ 3 := by
  rw [UInt32.toNat_and, UInt32.toNat_shiftRight, Nat.shiftRight_eq_div_pow]
  exact Nat.and_two_pow_sub_one_eq_mod _ 3

theorem toNat_register :
    (address &&& pciConfigRegisterMask).toUInt8.toNat = 4 * (address.toNat % 2 ^ 8 / 4) := by
  rw [UInt32.toNat_toUInt8, UInt32.toNat_and]
  change (address.toNat &&& (2 ^ 2 * (2 ^ 6 - 1))) % 2 ^ 8 = _
  rw [and_shifted_mask]
  omega

end Selects

theorem PciConfigMechanism1.selectedOffset_eq_some {config : PciConfigMechanism1}
    {offset : UInt8} : config.selectedOffset = some offset ↔ Selects config.address offset := by
  simp only [selectedOffset, Option.ite_none_left_eq_some, and_pciConfigEnable_eq_zero,
    Bool.not_eq_false]
  simp only [ne_eq, ← UInt32.toNat_inj, toNat_bus, toNat_device, toNat_function, not_or,
    not_not, Option.some.injEq, ← UInt8.toNat_inj, toNat_register]
  constructor
  · rintro ⟨henabled, ⟨hbus, hdevice, hfunction⟩, hoffset⟩
    exact ⟨henabled, hbus, hdevice, hfunction, hoffset.symm⟩
  · rintro ⟨henabled, hbus, hdevice, hfunction, hoffset⟩
    exact ⟨henabled, ⟨hbus, hdevice, hfunction⟩, hoffset.symm⟩

/-! ### The MSI capability -/

namespace PciMsiCapability

variable {msi msi' : PciMsiCapability} {offset : UInt8} {value : UInt32}

/-- The writes that set the capability: its header with no bit but the enable bit in the control
word, any address, and data of 16 bits. -/
def Takes (offset : UInt8) (value : UInt32) : Prop :=
  (offset = virtioMsiCapabilityOffset ∧ value.toNat % 2 ^ 16 = 5 ∧ value.toNat / 2 ^ 16 ≤ 1) ∨
    offset = virtioMsiAddressOffset ∨ (offset = virtioMsiDataOffset ∧ value.toNat < 2 ^ 16)

theorem toNat_control (value : UInt32) : (value >>> 16).toUInt16.toNat = value.toNat / 2 ^ 16 := by
  have hlt := value.toNat_lt
  rw [UInt32.toNat_toUInt16, UInt32.toNat_shiftRight, Nat.shiftRight_eq_div_pow]
  change value.toNat / 2 ^ 16 % 2 ^ 16 = _
  omega

theorem and_not_pciMsiEnable_eq_zero {control : UInt16} :
    control &&& ~~~pciMsiEnable = 0 ↔ control.toNat ≤ 1 := by
  have hlt := control.toNat_lt
  rw [← UInt16.toNat_inj, UInt16.toNat_and]
  change control.toNat &&& (2 ^ 1 * (2 ^ 15 - 1)) = 0 ↔ _
  rw [and_shifted_mask]
  omega

theorem and_pciMsiEnable_eq_zero {control : UInt16} :
    control &&& pciMsiEnable = 0 ↔ control.toNat % 2 = 0 := by
  rw [← UInt16.toNat_inj, UInt16.toNat_and]
  exact iff_of_eq (congrArg (· = 0) (Nat.and_two_pow_sub_one_eq_mod _ 1))

theorem toNat_header (control : UInt16) :
    (u32OfBytes ([pciCapIdMsi, 0] ++ u16Bytes control)).toNat = 5 + 2 ^ 16 * control.toNat := by
  have hlt := control.toNat_lt
  have hbytes : ofLE (u16Bytes control) = control.toNat := ofLE_leBytes (by simpa using hlt)
  rw [u32OfBytes, UInt32.toNat_ofNat']
  change (5 + 256 * (0 + 256 * ofLE (u16Bytes control))) % 2 ^ 32 = _
  rw [hbytes]
  omega

/-- What an accepted write does. -/
inductive Writes (msi : PciMsiCapability) : UInt8 → UInt32 → PciMsiCapability → Prop
  | control (value : UInt32) (header : value.toNat % 2 ^ 16 = 5)
      (enable : value.toNat / 2 ^ 16 ≤ 1) :
      Writes msi virtioMsiCapabilityOffset value
        { msi with control := (value >>> 16).toUInt16 }
  | address (value : UInt32) :
      Writes msi virtioMsiAddressOffset value { msi with address := value }
  | data (value : UInt32) (fits : value.toNat < 2 ^ 16) :
      Writes msi virtioMsiDataOffset value { msi with data := value.toUInt16 }

theorem writeDword_control :
    msi.writeDword virtioMsiCapabilityOffset value = some msi' ↔
      (value.toNat % 2 ^ 16 = 5 ∧ value.toNat / 2 ^ 16 ≤ 1) ∧
        { msi with control := (value >>> 16).toUInt16 } = msi' := by
  have hheader : value.toUInt16 = u16OfBytes [pciCapIdMsi, 0] ↔ value.toNat % 2 ^ 16 = 5 := by
    rw [← UInt16.toNat_inj, UInt32.toNat_toUInt16]
    rfl
  rw [writeDword, if_pos rfl, Option.ite_none_left_eq_some, Option.ite_none_left_eq_some, not_not,
    not_not, hheader, and_not_pciMsiEnable_eq_zero, toNat_control, Option.some.injEq, and_assoc]

theorem writeDword_data :
    msi.writeDword virtioMsiDataOffset value = some msi' ↔
      value.toNat < 2 ^ 16 ∧ { msi with data := value.toUInt16 } = msi' := by
  have hdata : value >>> 16 = 0 ↔ value.toNat < 2 ^ 16 := by
    rw [← UInt32.toNat_inj, UInt32.toNat_shiftRight, Nat.shiftRight_eq_div_pow]
    change value.toNat / 2 ^ 16 = 0 ↔ _
    omega
  rw [writeDword, if_neg (by decide), if_neg (by decide), if_pos rfl,
    Option.ite_none_left_eq_some, not_not, hdata, Option.some.injEq]

theorem writeDword_eq_some :
    msi.writeDword offset value = some msi' ↔ msi.Writes offset value msi' := by
  constructor
  · intro h
    by_cases hcontrol : offset = virtioMsiCapabilityOffset
    · subst hcontrol
      obtain ⟨⟨hheader, henable⟩, rfl⟩ := writeDword_control.mp h
      exact .control value hheader henable
    by_cases haddress : offset = virtioMsiAddressOffset
    · subst haddress
      obtain rfl := Option.some.inj h
      exact .address value
    by_cases hdata : offset = virtioMsiDataOffset
    · subst hdata
      obtain ⟨hfits, rfl⟩ := writeDword_data.mp h
      exact .data value hfits
    rw [writeDword, if_neg hcontrol, if_neg haddress, if_neg hdata] at h
    cases h
  · rintro (⟨_, hheader, henable⟩ | ⟨_⟩ | ⟨_, hfits⟩)
    · exact writeDword_control.mpr ⟨⟨hheader, henable⟩, rfl⟩
    · rfl
    · exact writeDword_data.mpr ⟨hfits, rfl⟩

theorem exists_writes_iff : (∃ msi', msi.Writes offset value msi') ↔ Takes offset value := by
  constructor
  · rintro ⟨msi', hwrites⟩
    cases hwrites with
    | control _ hheader henable => exact .inl ⟨rfl, hheader, henable⟩
    | address => exact .inr (.inl rfl)
    | data _ hfits => exact .inr (.inr ⟨rfl, hfits⟩)
  · rintro (⟨rfl, hheader, henable⟩ | rfl | ⟨rfl, hfits⟩)
    · exact ⟨_, .control value hheader henable⟩
    · exact ⟨_, .address value⟩
    · exact ⟨_, .data value hfits⟩

theorem Writes.readDword (h : msi.Writes offset value msi') (other : UInt8) :
    msi'.readDword other = if other = offset then some value else msi.readDword other := by
  cases h with
  | control _ hheader henable =>
      split_ifs with hother
      · subst hother
        have hread :
            u32OfBytes ([pciCapIdMsi, 0] ++ u16Bytes (value >>> 16).toUInt16) = value := by
          rw [← UInt32.toNat_inj, toNat_header, toNat_control]
          omega
        exact congrArg some hread
      · simp only [PciMsiCapability.readDword, if_neg hother]
  | address =>
      split_ifs with hother
      · subst hother
        rfl
      · simp only [PciMsiCapability.readDword, if_neg hother]
  | data _ hfits =>
      split_ifs with hother
      · subst hother
        have hread : value.toUInt16.toUInt32 = value := by
          rw [← UInt32.toNat_inj, UInt16.toNat_toUInt32, UInt32.toNat_toUInt16]
          omega
        exact congrArg some hread
      · simp only [PciMsiCapability.readDword, if_neg hother]

theorem message_eq_some {message : PciMsiMessage} :
    msi.message = some message ↔
      msi.control.toNat % 2 = 1 ∧ message.address = msi.address ∧ message.data = msi.data := by
  rw [PciMsiCapability.message, Option.ite_none_left_eq_some, and_pciMsiEnable_eq_zero,
    Option.some.injEq, Nat.mod_two_not_eq_zero]
  cases message
  rw [PciMsiMessage.mk.injEq, eq_comm (a := msi.address), eq_comm (a := msi.data)]

end PciMsiCapability

/-! ### The function -/

/-- The function has an MSI capability. -/
def PciFunction.MsiCapable : PciFunction → Bool
  | synthetic _ => false
  | virtioRng endpoint => endpoint.msi.isSome
  | virtioBlk _ => false

/-- The writes of a dword that the function accepts. -/
def PciFunction.Takes (function : PciFunction) (offset : UInt8) (value : UInt32) : Prop :=
  function.MsiCapable = true ∧ PciMsiCapability.Takes offset value

/-- The functions are the same but for the capability, which is there in both. -/
def PciFunction.SameButMsi (function function' : PciFunction) : Prop :=
  ∃ rng msi msi', function = .virtioRng ⟨rng, some msi⟩ ∧ function' = .virtioRng ⟨rng, some msi'⟩

namespace PciFunction

variable {function function' : PciFunction} {offset : UInt8} {value : UInt32}

theorem msiCapable_iff :
    function.MsiCapable = true ↔ ∃ rng msi, function = .virtioRng ⟨rng, some msi⟩ := by
  constructor
  · intro h
    cases function with
    | synthetic | virtioBlk => cases h
    | virtioRng endpoint =>
        obtain ⟨rng, _ | msi⟩ := endpoint
        · cases h
        · exact ⟨rng, msi, rfl⟩
  · rintro ⟨rng, msi, rfl⟩
    rfl

theorem msiMessage_of_not_capable (h : ¬ function.MsiCapable = true) :
    function.msiMessage = none := by
  cases function with
  | synthetic | virtioBlk => rfl
  | virtioRng endpoint =>
      obtain ⟨rng, _ | msi⟩ := endpoint
      · rfl
      · exact absurd rfl h

theorem writeDword_eq_some :
    function.writeDword offset value = some function' ↔
      ∃ rng msi msi', function = .virtioRng ⟨rng, some msi⟩ ∧ msi.Writes offset value msi' ∧
        function' = .virtioRng ⟨rng, some msi'⟩ := by
  constructor
  · intro h
    cases function with
    | synthetic | virtioBlk => cases h
    | virtioRng endpoint =>
        obtain ⟨rng, _ | msi⟩ := endpoint
        · cases h
        obtain ⟨endpoint', hendpoint, rfl⟩ := Option.map_eq_some_iff.mp h
        obtain ⟨msi', hmsi, rfl⟩ := Option.map_eq_some_iff.mp hendpoint
        exact ⟨rng, msi, msi', rfl, PciMsiCapability.writeDword_eq_some.mp hmsi, rfl⟩
  · rintro ⟨rng, msi, msi', rfl, hwrites, rfl⟩
    simp [writeDword, VirtioRngPciEndpoint.writeDword,
      PciMsiCapability.writeDword_eq_some.mpr hwrites]

theorem exists_writeDword_iff :
    (∃ function', function.writeDword offset value = some function') ↔
      function.Takes offset value := by
  simp only [writeDword_eq_some, Takes, msiCapable_iff]
  constructor
  · rintro ⟨_, rng, msi, msi', rfl, hwrites, rfl⟩
    exact ⟨⟨rng, msi, rfl⟩, PciMsiCapability.exists_writes_iff.mp ⟨msi', hwrites⟩⟩
  · rintro ⟨⟨rng, msi, rfl⟩, htakes⟩
    obtain ⟨msi', hwrites⟩ : ∃ msi', msi.Writes offset value msi' :=
      PciMsiCapability.exists_writes_iff.mpr htakes
    exact ⟨_, rng, msi, msi', rfl, hwrites, rfl⟩

theorem readDword_of_writeDword (h : function.writeDword offset value = some function') :
    (function'.readDword ·) = Function.update (function.readDword ·) offset value := by
  obtain ⟨rng, msi, msi', rfl, hwrites, rfl⟩ := writeDword_eq_some.mp h
  funext other
  by_cases hother : other = offset
  · subst hother
    simp [readDword, VirtioRngPciEndpoint.readDword, hwrites.readDword]
  · simp [readDword, VirtioRngPciEndpoint.readDword, hwrites.readDword, hother]

end PciFunction

/-! ### Accesses -/

/-- An access of one dword at a port. -/
structure IsDword (io : PortIoExit) (port : UInt16) (direction : PortIoDirection) : Prop where
  port_eq : io.port = port
  direction_eq : io.direction = direction
  size_eq : io.size = 4
  count_eq : io.count = 1

/-- A write of one dword at a port. -/
structure IsDwordWrite (io : PortIoExit) (port : UInt16) : Prop extends IsDword io port .out where
  length_eq : io.outputData.length = 4

namespace PciConfigMechanism1

/-- What an access can do. -/
inductive Does (config : PciConfigMechanism1) (io : PortIoExit) :
    EStateM.Result PortIoError PciConfigMechanism1 PciConfigService → Prop
  | selects (write : IsDwordWrite io pciConfigAddressPort) :
      Does config io (.ok .output { config with address := u32OfBytes io.outputData })
  | answersAddress (read : IsDword io pciConfigAddressPort .in) :
      Does config io (.ok (.input (u32Bytes config.address)) config)
  | answersData (read : IsDword io pciConfigDataPort .in) :
      Does config io (.ok (.input (u32Bytes config.readSelectedDword)) config)
  | writesData {offset : UInt8} {function' : PciFunction}
      (write : IsDwordWrite io pciConfigDataPort)
      (selected : config.selectedOffset = some offset)
      (taken : config.function.writeDword offset (u32OfBytes io.outputData) = some function') :
      Does config io (.ok .output { config with function := function' })
  | refuses (notSelects : ¬ IsDwordWrite io pciConfigAddressPort)
      (notReads : ∀ port, handlesPort port → ¬ IsDword io port .in)
      (notWrites : IsDwordWrite io pciConfigDataPort →
        config.writeSelectedDword (u32OfBytes io.outputData) = none) :
      Does config io (.error (unhandled io) config)

section Does

variable (config : PciConfigMechanism1) (io : PortIoExit)

theorem run_outputDword (h : io.outputData.length = 4) :
    (reads fun _ => outputDword io : EStateM PortIoError PciConfigMechanism1 UInt32).run config =
      .ok (u32OfBytes io.outputData) config :=
  run_reads_of_ok (by rw [outputDword, rejectIf, if_neg (not_not.mpr h)]; rfl)

theorem run_outputDword_of_ne (h : io.outputData.length ≠ 4) :
    (reads fun _ => outputDword io : EStateM PortIoError PciConfigMechanism1 UInt32).run config =
      .error (unhandled io) config :=
  run_reads_of_error (by rw [outputDword, rejectIf, if_pos h]; rfl)

theorem does_address (hport : io.port = pciConfigAddressPort) (hsize : io.size = 4)
    (hcount : io.count = 1) : Does config io ((dispatch io).run config) := by
  rw [dispatch, run_bind_of_ok (run_guard_of_not (by simp [hsize, hcount])), if_pos hport]
  cases hdirection : io.direction with
  | out =>
      by_cases hlength : io.outputData.length = 4
      · rw [run_bind_of_ok (run_outputDword config io hlength)]
        exact .selects ⟨⟨hport, hdirection, hsize, hcount⟩, hlength⟩
      · rw [run_bind_of_error (run_outputDword_of_ne config io hlength)]
        refine .refuses (fun h => hlength h.length_eq) (fun _ _ h => ?_)
          fun h => absurd h.length_eq hlength
        cases hdirection.symm.trans h.direction_eq
  | «in» => exact .answersAddress ⟨hport, hdirection, hsize, hcount⟩

theorem does_data (hport : io.port = pciConfigDataPort) (hsize : io.size = 4)
    (hcount : io.count = 1) : Does config io ((dispatch io).run config) := by
  have hne : io.port ≠ pciConfigAddressPort := by
    rw [hport]
    decide
  rw [dispatch, run_bind_of_ok (run_guard_of_not (by simp [hsize, hcount])), if_neg hne,
    if_pos hport]
  cases hdirection : io.direction with
  | «in» => exact .answersData ⟨hport, hdirection, hsize, hcount⟩
  | out =>
      have hin : ∀ port, handlesPort port → ¬ IsDword io port .in := by
        rintro _ - h
        cases hdirection.symm.trans h.direction_eq
      by_cases hlength : io.outputData.length = 4
      · have hget : (get : EStateM PortIoError _ _).run config = .ok config config := rfl
        rw [run_bind_of_ok (run_outputDword config io hlength), run_bind_of_ok hget]
        cases hwrite : config.writeSelectedDword (u32OfBytes io.outputData) with
        | none => exact .refuses (fun h => hne h.port_eq) hin fun _ => hwrite
        | some config' =>
            obtain ⟨function', hfunction, rfl⟩ := Option.map_eq_some_iff.mp hwrite
            obtain ⟨offset, hselected, htaken⟩ := Option.bind_eq_some_iff.mp hfunction
            exact .writesData ⟨⟨hport, hdirection, hsize, hcount⟩, hlength⟩ hselected htaken
      · rw [run_bind_of_error (run_outputDword_of_ne config io hlength)]
        exact .refuses (fun h => hne h.port_eq) hin fun h => absurd h.length_eq hlength

/-- **One access.** -/
theorem does : Does config io ((dispatch io).run config) := by
  by_cases hdword : io.size = 4 ∧ io.count = 1
  · by_cases haddress : io.port = pciConfigAddressPort
    · exact does_address config io haddress hdword.1 hdword.2
    by_cases hdata : io.port = pciConfigDataPort
    · exact does_data config io hdata hdword.1 hdword.2
    rw [dispatch, run_bind_of_ok (run_guard_of_not (by simp [hdword])), if_neg haddress,
      if_neg hdata]
    refine .refuses (fun h => haddress h.port_eq) (fun port hport h => ?_)
      fun h => absurd h.port_eq hdata
    simp [handlesPort, ← h.port_eq, haddress, hdata] at hport
  · rw [dispatch, run_bind_of_error (run_guard_of (not_and_or.mp hdword))]
    exact .refuses (fun h => hdword ⟨h.size_eq, h.count_eq⟩)
      (fun _ _ h => hdword ⟨h.size_eq, h.count_eq⟩) fun h => absurd ⟨h.size_eq, h.count_eq⟩ hdword

end Does

/-! ### Registers -/

end PciConfigMechanism1

/-- What a guest can read or write through the ports. -/
inductive Location where
  | address
  | register (offset : UInt8)
  deriving DecidableEq, Repr

namespace PciConfigMechanism1

section Registers

variable (config : PciConfigMechanism1) (io : PortIoExit)

/-- What the registers hold. -/
def contents : Location → UInt32
  | .address => config.address
  | .register offset => config.function.readDword offset

/-- The machine after an access. -/
def next : PciConfigMechanism1 := finalState ((dispatch io).run config)

/-- The answer to an access. -/
def answer : Except PortIoError PciConfigService :=
  match (dispatch io).run config with
  | .ok service _ => .ok service
  | .error error _ => .error error

/-- The write that an access makes, if it is accepted. -/
def accepted : Option (Location × UInt32) :=
  match config.answer io with
  | .ok .output =>
      (if io.port = pciConfigAddressPort then some .address
        else config.selectedOffset.map .register).map (·, u32OfBytes io.outputData)
  | _ => none

end Registers

section Step

variable {config config' : PciConfigMechanism1} {io : PortIoExit}

theorem IsDwordWrite.not_address (h : IsDwordWrite io pciConfigDataPort) :
    io.port ≠ pciConfigAddressPort := by
  rw [h.port_eq]
  decide

theorem contents_next (config : PciConfigMechanism1) (io : PortIoExit) :
    (config.next io).contents = applyWrite config.contents (config.accepted io) := by
  have hdoes := config.does io
  unfold next accepted answer
  generalize (dispatch io).run config = result at hdoes ⊢
  cases hdoes with
  | selects write =>
      simp only [if_pos write.port_eq]
      change _ = Function.update config.contents .address (u32OfBytes io.outputData)
      funext location
      cases location with
      | address =>
          rw [Function.update_self]
          rfl
      | register offset =>
          rw [Function.update_of_ne (by simp)]
          rfl
  | answersAddress | answersData | refuses => rfl
  | @writesData offset function' write selected taken =>
      simp only [if_neg (IsDwordWrite.not_address write), selected]
      change _ = Function.update config.contents (.register offset) (u32OfBytes io.outputData)
      funext location
      cases location with
      | address =>
          rw [Function.update_of_ne (by simp)]
          rfl
      | register other =>
          refine (congrFun (PciFunction.readDword_of_writeDword taken) other).trans ?_
          by_cases hother : other = offset
          · rw [hother, Function.update_self, Function.update_self]
          · rw [Function.update_of_ne hother, Function.update_of_ne (by simpa using hother)]
            rfl

theorem accepted_address_iff {value : UInt32} :
    config.accepted io = some (.address, value) ↔
      IsDwordWrite io pciConfigAddressPort ∧ value = u32OfBytes io.outputData := by
  have hdoes := config.does io
  unfold accepted answer
  generalize (dispatch io).run config = result at hdoes ⊢
  cases hdoes with
  | selects write => simp [write, write.port_eq, eq_comm]
  | answersAddress read | answersData read =>
      refine iff_of_false (by simp) fun h => ?_
      cases read.direction_eq.symm.trans h.1.direction_eq
  | writesData write selected =>
      have hne := IsDwordWrite.not_address write
      exact iff_of_false (by simp [hne, selected]) fun h => hne h.1.port_eq
  | refuses notSelects => exact iff_of_false (by simp) fun h => notSelects h.1

theorem accepted_register_iff {offset : UInt8} {value : UInt32} :
    config.accepted io = some (.register offset, value) ↔
      IsDwordWrite io pciConfigDataPort ∧ value = u32OfBytes io.outputData ∧
        Selects config.address offset ∧ config.function.Takes offset value := by
  have hdoes := config.does io
  unfold accepted answer
  generalize (dispatch io).run config = result at hdoes ⊢
  cases hdoes with
  | selects write =>
      refine iff_of_false (by simp [write.port_eq]) fun h => ?_
      exact IsDwordWrite.not_address h.1 write.port_eq
  | answersAddress read | answersData read =>
      refine iff_of_false (by simp) fun h => ?_
      cases read.direction_eq.symm.trans h.1.direction_eq
  | @writesData offset' function' write selected taken =>
      simp only [if_neg (IsDwordWrite.not_address write), selected, Option.map_some,
        Option.some.injEq, Prod.mk.injEq, Location.register.injEq, ← selectedOffset_eq_some, write,
        true_and]
      constructor
      · rintro ⟨rfl, rfl⟩
        exact ⟨rfl, rfl, PciFunction.exists_writeDword_iff.mp ⟨function', taken⟩⟩
      · exact fun h => ⟨h.2.1, h.1.symm⟩
  | refuses notSelects notReads notWrites =>
      refine iff_of_false (by simp) ?_
      rintro ⟨hwrite, rfl, hselects, htakes⟩
      obtain ⟨function', htaken⟩ := PciFunction.exists_writeDword_iff.mpr htakes
      have hnone := notWrites hwrite
      rw [writeSelectedDword, selectedOffset_eq_some.mpr hselects, Option.bind_some,
        htaken] at hnone
      cases hnone

theorem next_of_data (hport : io.port = pciConfigDataPort) :
    (config.next io).address = config.address ∧
      ((config.next io).function = config.function ∨
        config.function.SameButMsi (config.next io).function) := by
  have hdoes := config.does io
  unfold next
  generalize (dispatch io).run config = result at hdoes ⊢
  cases hdoes with
  | selects write => cases hport.symm.trans write.port_eq
  | answersAddress | answersData | refuses => exact ⟨rfl, .inl rfl⟩
  | writesData write selected taken =>
      obtain ⟨rng, msi, msi', hfunction, -, hfunction'⟩ := PciFunction.writeDword_eq_some.mp taken
      exact ⟨rfl, .inr ⟨rng, msi, msi', hfunction, hfunction'⟩⟩

theorem next_of_refused {error : PortIoError} (h : config.answer io = .error error) :
    config.next io = config := by
  have hdoes := config.does io
  unfold answer at h
  unfold next
  generalize (dispatch io).run config = result at hdoes h ⊢
  cases hdoes with
  | selects | answersAddress | answersData | writesData => cases h
  | refuses => rfl

theorem answer_address (h : IsDword io pciConfigAddressPort .in) :
    config.answer io = .ok (.input (u32Bytes config.address)) := by
  have hdoes := config.does io
  unfold answer
  generalize (dispatch io).run config = result at hdoes ⊢
  cases hdoes with
  | selects write | writesData write =>
      cases h.direction_eq.symm.trans write.direction_eq
  | answersAddress => rfl
  | answersData read => cases h.port_eq.symm.trans read.port_eq
  | refuses notSelects notReads => exact absurd h (notReads _ (by decide))

theorem answer_data (h : IsDword io pciConfigDataPort .in) :
    config.answer io = .ok (.input (u32Bytes config.readSelectedDword)) := by
  have hdoes := config.does io
  unfold answer
  generalize (dispatch io).run config = result at hdoes ⊢
  cases hdoes with
  | selects write | writesData write =>
      cases h.direction_eq.symm.trans write.direction_eq
  | answersAddress read => cases h.port_eq.symm.trans read.port_eq
  | answersData => rfl
  | refuses notSelects notReads => exact absurd h (notReads _ (by decide))

theorem readSelectedDword_of_selects {offset : UInt8} (h : Selects config.address offset) :
    config.readSelectedDword = config.contents (.register offset) := by
  rw [readSelectedDword, selectedOffset_eq_some.mpr h]
  rfl

theorem readSelectedDword_of_not_selects (h : ∀ offset, ¬ Selects config.address offset) :
    config.readSelectedDword = 0xffffffff := by
  have hnone : config.selectedOffset = none :=
    Option.eq_none_iff_forall_ne_some.mpr fun offset heq =>
      h offset (selectedOffset_eq_some.mp heq)
  rw [readSelectedDword, hnone]

theorem function_next (config : PciConfigMechanism1) (io : PortIoExit) :
    (config.next io).function = config.function ∨
      ∃ offset value, config.function.writeDword offset value = some (config.next io).function := by
  have hdoes := config.does io
  unfold next
  generalize (dispatch io).run config = result at hdoes ⊢
  cases hdoes with
  | selects | answersAddress | answersData | refuses => exact .inl rfl
  | writesData write selected taken => exact .inr ⟨_, _, taken⟩

/-- The function is as it was made, and its control word has no bit but the enable bit. -/
def OnlyEnable (capable : Bool) (config : PciConfigMechanism1) : Prop :=
  config.function.MsiCapable = capable ∧
    ∀ rng msi, config.function = .virtioRng ⟨rng, some msi⟩ → msi.control.toNat ≤ 1

theorem OnlyEnable.next {capable : Bool} (h : OnlyEnable capable config) (io : PortIoExit) :
    OnlyEnable capable (config.next io) := by
  rcases config.function_next io with hsame | ⟨offset, value, hwrite⟩
  · rwa [OnlyEnable, hsame]
  · obtain ⟨rng, msi, msi', hfunction, hwrites, hfunction'⟩ :=
      PciFunction.writeDword_eq_some.mp hwrite
    obtain ⟨hcapable, hcontrol⟩ := h
    rw [hfunction] at hcapable
    refine ⟨by rw [hfunction']; exact hcapable, ?_⟩
    rintro rng' msi'' heq
    rw [hfunction'] at heq
    cases heq
    have hbefore := hcontrol rng msi hfunction
    cases hwrites with
    | control _ _ henable => exact (PciMsiCapability.toNat_control value).trans_le henable
    | address | data => exact hbefore

theorem virtioRngMsiMessage_eq_some {message : PciMsiMessage} :
    config.virtioRngMsiMessage = some message ↔
      config.function.MsiCapable = true ∧
        (config.contents (.register virtioMsiCapabilityOffset)).toNat / 2 ^ 16 % 2 = 1 ∧
        message.address = config.contents (.register virtioMsiAddressOffset) ∧
        message.data.toUInt32 = config.contents (.register virtioMsiDataOffset) := by
  by_cases hcapable : config.function.MsiCapable = true
  · obtain ⟨rng, msi, hfunction⟩ := PciFunction.msiCapable_iff.mp hcapable
    have hmessage : config.virtioRngMsiMessage = msi.message := by
      rw [virtioRngMsiMessage, hfunction]
      rfl
    have hheader : config.contents (.register virtioMsiCapabilityOffset) =
        u32OfBytes ([pciCapIdMsi, 0] ++ u16Bytes msi.control) := by
      rw [contents, hfunction]
      rfl
    have haddress : config.contents (.register virtioMsiAddressOffset) = msi.address := by
      rw [contents, hfunction]
      rfl
    have hdata : config.contents (.register virtioMsiDataOffset) = msi.data.toUInt32 := by
      rw [contents, hfunction]
      rfl
    have henable : (5 + 2 ^ 16 * msi.control.toNat) / 2 ^ 16 % 2 = msi.control.toNat % 2 := by
      omega
    rw [hmessage, PciMsiCapability.message_eq_some, hheader, PciMsiCapability.toNat_header, henable,
      haddress, hdata, UInt16.toUInt32_inj]
    exact (and_iff_right hcapable).symm
  · refine iff_of_false (fun h => ?_) fun h => hcapable h.1
    rw [virtioRngMsiMessage, PciFunction.msiMessage_of_not_capable hcapable] at h
    cases h

end Step

/-! ### Runs -/

/-- The functions that can be present. -/
inductive Present where
  | synthetic (function : SyntheticPciFunction)
  | virtioRng (function : VirtioRngPciFunction)
  | virtioRngMsi (function : VirtioRngPciFunction)
  | virtioBlk (function : VirtioBlkPciFunction)
  deriving DecidableEq, Repr

/-- The machine at the start. -/
def Present.config : Present → PciConfigMechanism1
  | synthetic function => .new function
  | virtioRng function => .withVirtioRng function
  | virtioRngMsi function => .withVirtioRngMsi function
  | virtioBlk function => .withVirtioBlk function

section Runs

variable (present : Present) (ios : List PortIoExit)

/-- The machine after some accesses. -/
def reach : PciConfigMechanism1 := runSteps next present.config ios

/-- The writes that were accepted, one entry for each access. -/
def writes : List (Option (Location × UInt32)) := eventsOf next accepted present.config ios

theorem onlyEnable_reach :
    OnlyEnable present.config.function.MsiCapable (reach present ios) := by
  refine runSteps_invariant (fun _ io h => h.next io) ios ⟨rfl, ?_⟩
  rintro rng msi heq
  cases present with
  | synthetic | virtioRng | virtioBlk => cases heq
  | virtioRngMsi =>
      cases heq
      decide

/-- After some accesses, the ports show a configuration space to the next one. -/
structure RefinesSpace (io : PortIoExit) : Prop where
  holds : ∀ location, (reach present ios).contents location =
    (lastWrite location (writes present ios)).getD (present.config.contents location)
  selects_iff : ∀ value, (reach present ios).accepted io = some (.address, value) ↔
    IsDwordWrite io pciConfigAddressPort ∧ value = u32OfBytes io.outputData
  reads_address : IsDword io pciConfigAddressPort .in →
    (reach present ios).answer io =
      .ok (.input (u32Bytes ((lastWrite .address (writes present ios)).getD 0)))
  reads_data : IsDword io pciConfigDataPort .in →
    ∀ offset, Selects (reach present ios).address offset →
      (reach present ios).answer io =
        .ok (.input (u32Bytes ((reach present ios).contents (.register offset))))
  reads_ones : IsDword io pciConfigDataPort .in →
    (∀ offset, ¬ Selects (reach present ios).address offset) →
      (reach present ios).answer io = .ok (.input (u32Bytes 0xffffffff))
  writes_iff : ∀ offset value, (reach present ios).accepted io = some (.register offset, value) ↔
    IsDwordWrite io pciConfigDataPort ∧ value = u32OfBytes io.outputData ∧
      Selects (reach present ios).address offset ∧ present.config.function.Takes offset value
  only_msi : io.port = pciConfigDataPort →
    ((reach present ios).next io).address = (reach present ios).address ∧
      (((reach present ios).next io).function = (reach present ios).function ∨
        (reach present ios).function.SameButMsi ((reach present ios).next io).function)
  only_enable : ∀ rng msi, (reach present ios).function = .virtioRng ⟨rng, some msi⟩ →
    msi.control.toNat ≤ 1
  rejected : ∀ error, (reach present ios).answer io = .error error →
    (reach present ios).next io = reach present ios
  message_iff : ∀ message, (reach present ios).virtioRngMsiMessage = some message ↔
    present.config.function.MsiCapable = true ∧
      ((reach present ios).contents (.register virtioMsiCapabilityOffset)).toNat / 2 ^ 16 % 2 = 1 ∧
      message.address = (reach present ios).contents (.register virtioMsiAddressOffset) ∧
      message.data.toUInt32 = (reach present ios).contents (.register virtioMsiDataOffset)

/-- **The ports refine a configuration space.** Whichever function is present, and after any
accesses, every register holds the last write to it that was accepted.  The address register takes
every dword.  The data port reads the selected dword, or ones if there is none, and writes only the
MSI capability; what is refused changes nothing.  The MSI message is the one in the registers, while
it is enabled. -/
theorem refines_config_space (io : PortIoExit) : RefinesSpace present ios io := by
  have hheld := holds_lastWrite contents_next present.config ios
  obtain ⟨hcapable, henable⟩ := onlyEnable_reach present ios
  have haddress : (reach present ios).address =
      (lastWrite .address (writes present ios)).getD 0 := by
    refine (hheld .address).trans ?_
    cases present <;> rfl
  exact {
    holds := hheld
    selects_iff := fun _ => accepted_address_iff
    reads_address := fun h => haddress ▸ answer_address h
    reads_data := fun h offset hselects =>
      readSelectedDword_of_selects hselects ▸ answer_data h
    reads_ones := fun h hnone => readSelectedDword_of_not_selects hnone ▸ answer_data h
    writes_iff := fun offset value => by
      rw [accepted_register_iff, PciFunction.Takes, hcapable, PciFunction.Takes]
    only_msi := next_of_data
    only_enable := henable
    rejected := fun _ => next_of_refused
    message_iff := fun message => by rw [virtioRngMsiMessage_eq_some, hcapable] }

end Runs

end PciConfigMechanism1

end MiniHypervisor.PortIo
