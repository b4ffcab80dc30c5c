import MiniHypervisor.Control.Triples
import MiniHypervisor.Vcpu.KvmRun

/-!
# PCI configuration mechanism 1

The configuration space of the one PCI function of a machine is reached through two ports
(`src/pci.rs`): an address port that selects a register and a data port that reads or writes it.
The function is the synthetic one, a virtio-rng function with or without an MSI capability, or a
virtio-blk function (`src/pci/virtio.rs`, `src/pci/virtio_blk.rs`).  Only the MSI capability can
be written.

## Main results

* `PciConfigMechanism1.dispatch_refused` : a refused access changes nothing.
-/

namespace MiniHypervisor.PortIo

open Bytes Control Vcpu

inductive PortIoError where
  | unhandledPort (port : UInt16) (direction size : UInt8) (count : UInt32)
  | unsupportedDebugAccess (port : UInt16) (direction size : UInt8) (count : UInt32)
  | invalidOutputPayload (port : UInt16) (expected actual : ℕ)
  deriving DecidableEq, Repr

/-- `unhandled` (lines 346-352; `src/portio.rs`, lines 114-121). -/
def unhandled (io : PortIoExit) : PortIoError :=
  .unhandledPort io.port io.direction.raw io.size io.count

def pciConfigAddressPort : UInt16 := 0x0cf8

def pciConfigDataPort : UInt16 := 0x0cfc

def pciConfigEnable : UInt32 := 0x80000000

def pciConfigRegisterMask : UInt32 := 0xfc

/-! ### The MSI capability -/

def pciCapIdMsi : UInt8 := 0x05

def virtioMsiCapabilityOffset : UInt8 := 0x74

def virtioMsiAddressOffset : UInt8 := 0x78

def virtioMsiDataOffset : UInt8 := 0x7c

def pciMsiEnable : UInt16 := 1

structure PciMsiMessage where
  address : UInt32
  data : UInt16
  deriving DecidableEq, Repr

structure PciMsiCapability where
  control : UInt16
  address : UInt32
  data : UInt16
  deriving DecidableEq, Repr

namespace PciMsiCapability

def new : PciMsiCapability := ⟨0, 0, 0⟩

variable (msi : PciMsiCapability)

/-- `PciMsiCapability::read_dword` (lines 70-82). -/
def readDword (offset : UInt8) : Option UInt32 :=
  if offset = virtioMsiCapabilityOffset then
    some (u32OfBytes ([pciCapIdMsi, 0] ++ u16Bytes msi.control))
  else if offset = virtioMsiAddressOffset then
    some msi.address
  else if offset = virtioMsiDataOffset then
    some msi.data.toUInt32
  else
    none

/-- `PciMsiCapability::write_dword` (lines 84-110): the registers afterwards, or nothing when the
write is refused. -/
def writeDword (offset : UInt8) (value : UInt32) : Option PciMsiCapability :=
  if offset = virtioMsiCapabilityOffset then
    if value.toUInt16 ≠ u16OfBytes [pciCapIdMsi, 0] then none
    else
      let control := (value >>> 16).toUInt16
      if control &&& ~~~pciMsiEnable ≠ 0 then none
      else some { msi with control }
  else if offset = virtioMsiAddressOffset then
    some { msi with address := value }
  else if offset = virtioMsiDataOffset then
    if value >>> 16 ≠ 0 then none
    else some { msi with data := value.toUInt16 }
  else
    none

/-- `PciMsiCapability::message` (lines 112-121). -/
def message : Option PciMsiMessage :=
  if msi.control &&& pciMsiEnable = 0 then none else some ⟨msi.address, msi.data⟩

end PciMsiCapability

/-! ### The functions -/

/-- A register with a device identifier above a vendor identifier. -/
def identityDword (device vendor : UInt16) : UInt32 :=
  (device.toUInt32 <<< 16) ||| vendor.toUInt32

/-- A register with a class code above a revision. -/
def classDword (classCode revision : UInt8) : UInt32 :=
  (classCode.toUInt32 <<< 24) ||| revision.toUInt32

structure SyntheticPciFunction where
  bar0 : UInt32
  deriving DecidableEq, Repr

def SyntheticPciFunction.new (bar0 : UInt32) : SyntheticPciFunction := ⟨bar0 &&& 0xfffffff0⟩

/-- `SyntheticPciFunction::read_dword` (lines 142-151). -/
def SyntheticPciFunction.readDword (function : SyntheticPciFunction) (offset : UInt8) : UInt32 :=
  match offset.toNat with
  | 0x00 => identityDword 0x0001 0xcafe
  | 0x08 => classDword 0xff 1
  | 0x10 => function.bar0
  | _ => 0

def virtioPciVendorId : UInt16 := 0x1af4

/-- `PCI_STATUS_CAPABILITIES_LIST`, in the upper half of its register. -/
def capabilitiesListDword : UInt32 := (0x10 : UInt32) <<< 16

/-- `capability_header`, with the vendor identifier of virtio capabilities. -/
def capabilityHeader (next length cfgType : UInt8) : UInt32 :=
  u32OfBytes [0x09, next, length, cfgType]

structure VirtioRngPciFunction where
  bar0 : UInt32
  deriving DecidableEq, Repr

def VirtioRngPciFunction.new (bar0 : UInt32) : VirtioRngPciFunction := ⟨bar0 &&& 0xfffff000⟩

/-- `VirtioRngPciFunction::read_dword` (`src/pci/virtio.rs`, lines 259-285): the capabilities of the
common configuration, the notifications and the ISR. -/
def VirtioRngPciFunction.readDword (function : VirtioRngPciFunction) (offset : UInt8) : UInt32 :=
  match offset.toNat with
  | 0x00 => identityDword (0x1040 + 4) virtioPciVendorId
  | 0x04 => capabilitiesListDword
  | 0x08 => classDword 0xff 1
  | 0x10 => function.bar0
  | 0x2c => identityDword 0x0044 virtioPciVendorId
  | 0x34 => 0x40
  | 0x40 => capabilityHeader 0x50 16 1
  | 0x48 => 0x000
  | 0x4c => 0x38
  | 0x50 => capabilityHeader 0x64 20 2
  | 0x58 => 0x100
  | 0x5c => 2
  | 0x60 => 2
  | 0x64 => capabilityHeader 0 16 3
  | 0x6c => 0x200
  | 0x70 => 1
  | _ => 0

structure VirtioBlkPciFunction where
  bar0 : UInt32
  deriving DecidableEq, Repr

def VirtioBlkPciFunction.new (bar0 : UInt32) : VirtioBlkPciFunction := ⟨bar0 &&& 0xfffff000⟩

/-- `VirtioBlkPciFunction::read_dword` (`src/pci/virtio_blk.rs`, lines 280-310): the capabilities
of virtio-rng and that of the device configuration. -/
def VirtioBlkPciFunction.readDword (function : VirtioBlkPciFunction) (offset : UInt8) : UInt32 :=
  match offset.toNat with
  | 0x00 => identityDword (0x1040 + 2) virtioPciVendorId
  | 0x04 => capabilitiesListDword
  | 0x08 => classDword 0x01 1
  | 0x10 => function.bar0
  | 0x2c => identityDword 0x0002 virtioPciVendorId
  | 0x34 => 0x40
  | 0x40 => capabilityHeader 0x50 16 1
  | 0x48 => 0
  | 0x4c => 0x38
  | 0x50 => capabilityHeader 0x64 20 2
  | 0x58 => 0x100
  | 0x5c => 2
  | 0x60 => 2
  | 0x64 => capabilityHeader 0x74 16 3
  | 0x6c => 0x200
  | 0x70 => 1
  | 0x74 => capabilityHeader 0 16 4
  | 0x7c => 0x300
  | 0x80 => 8
  | _ => 0

structure VirtioRngPciEndpoint where
  function : VirtioRngPciFunction
  msi : Option PciMsiCapability
  deriving DecidableEq, Repr

namespace VirtioRngPciEndpoint

def new (function : VirtioRngPciFunction) : VirtioRngPciEndpoint := ⟨function, none⟩

def withMsi (function : VirtioRngPciFunction) : VirtioRngPciEndpoint := ⟨function, some .new⟩

variable (endpoint : VirtioRngPciEndpoint)

/-- `VirtioRngPciEndpoint::read_dword` (lines 175-187): the MSI capability, if there is one, hides
the registers of the function, and the last capability of the function points to it. -/
def readDword (offset : UInt8) : UInt32 :=
  match endpoint.msi.bind fun msi => msi.readDword offset with
  | some value => value
  | none =>
      let value := endpoint.function.readDword offset
      if offset = 0x64 ∧ endpoint.msi.isSome then
        u32OfBytes ((u32Bytes value).set 1 virtioMsiCapabilityOffset)
      else
        value

/-- `VirtioRngPciEndpoint::write_dword` (lines 189-193). -/
def writeDword (offset : UInt8) (value : UInt32) : Option VirtioRngPciEndpoint :=
  (endpoint.msi.bind fun msi => msi.writeDword offset value).map fun msi =>
    { endpoint with msi := some msi }

/-- `VirtioRngPciEndpoint::msi_message` (lines 195-197). -/
def msiMessage : Option PciMsiMessage := endpoint.msi.bind PciMsiCapability.message

end VirtioRngPciEndpoint

inductive PciFunction where
  | synthetic (function : SyntheticPciFunction)
  | virtioRng (endpoint : VirtioRngPciEndpoint)
  | virtioBlk (function : VirtioBlkPciFunction)
  deriving DecidableEq, Repr

namespace PciFunction

/-- `PciFunction::read_dword` (lines 208-214). -/
def readDword (offset : UInt8) : PciFunction → UInt32
  | synthetic function => function.readDword offset
  | virtioRng endpoint => endpoint.readDword offset
  | virtioBlk function => function.readDword offset

/-- `PciFunction::write_dword` (lines 216-221): the function afterwards, or nothing when the write
is refused. -/
def writeDword (offset : UInt8) (value : UInt32) : PciFunction → Option PciFunction
  | synthetic _ => none
  | virtioRng endpoint => (endpoint.writeDword offset value).map virtioRng
  | virtioBlk _ => none

/-- `PciFunction::msi_message` (lines 223-228). -/
def msiMessage : PciFunction → Option PciMsiMessage
  | synthetic _ => none
  | virtioRng endpoint => endpoint.msiMessage
  | virtioBlk _ => none

end PciFunction

/-! ### The two ports -/

inductive PciConfigService where
  | output
  | input (bytes : List UInt8)
  deriving DecidableEq, Repr

structure PciConfigMechanism1 where
  address : UInt32
  function : PciFunction
  deriving DecidableEq, Repr

namespace PciConfigMechanism1

def new (function : SyntheticPciFunction) : PciConfigMechanism1 := ⟨0, .synthetic function⟩

def withVirtioRng (function : VirtioRngPciFunction) : PciConfigMechanism1 :=
  ⟨0, .virtioRng (.new function)⟩

def withVirtioRngMsi (function : VirtioRngPciFunction) : PciConfigMechanism1 :=
  ⟨0, .virtioRng (.withMsi function)⟩

def withVirtioBlk (function : VirtioBlkPciFunction) : PciConfigMechanism1 :=
  ⟨0, .virtioBlk function⟩

/-- `PciConfigMechanism1::handles_port` (lines 271-273). -/
def handlesPort (port : UInt16) : Bool :=
  port = pciConfigAddressPort || port = pciConfigDataPort

section Registers

variable (config : PciConfigMechanism1)

/-- `PciConfigMechanism1::selected_offset` (lines 309-324): the enable bit is set and the address
names the function 0 of device 1 on bus 0. -/
def selectedOffset : Option UInt8 :=
  if config.address &&& pciConfigEnable = 0 then none
  else
    let bus := (config.address >>> 16) &&& 0xff
    let device := (config.address >>> 11) &&& 0x1f
    let function := (config.address >>> 8) &&& 0x07
    if bus ≠ 0 ∨ device ≠ 1 ∨ function ≠ 0 then none
    else some (config.address &&& pciConfigRegisterMask).toUInt8

/-- `PciConfigMechanism1::read_selected_dword` (lines 326-329). -/
def readSelectedDword : UInt32 :=
  match config.selectedOffset with
  | some offset => config.function.readDword offset
  | none => 0xffffffff

/-- `PciConfigMechanism1::write_selected_dword` (lines 331-334). -/
def writeSelectedDword (value : UInt32) : Option PciConfigMechanism1 :=
  (config.selectedOffset.bind fun offset => config.function.writeDword offset value).map
    fun function => { config with function }

/-- `PciConfigMechanism1::virtio_rng_msi_message` (lines 276-278). -/
def virtioRngMsiMessage : Option PciMsiMessage := config.function.msiMessage

end Registers

/-- The four bytes of an output access. -/
def outputDword (io : PortIoExit) : Except PortIoError UInt32 := do
  rejectIf (io.outputData.length ≠ 4) (unhandled io)
  return u32OfBytes io.outputData

/-- `PciConfigMechanism1::dispatch` (lines 280-307). -/
def dispatch (io : PortIoExit) : EStateM PortIoError PciConfigMechanism1 PciConfigService := do
  reads fun _ => rejectIf (io.size ≠ 4 ∨ io.count ≠ 1) (unhandled io)
  if io.port = pciConfigAddressPort then
    match io.direction with
    | .out =>
        let value ← reads fun _ => outputDword io
        modify fun config => { config with address := value }
        return .output
    | .in => return .input (u32Bytes (← get).address)
  else if io.port = pciConfigDataPort then
    match io.direction with
    | .in => return .input (u32Bytes (← get).readSelectedDword)
    | .out =>
        let value ← reads fun _ => outputDword io
        match (← get).writeSelectedDword value with
        | some config => set config
        | none => throw (unhandled io)
        return .output
  else
    throw (unhandled io)

theorem dispatch_refused (io : PortIoExit) (config : PciConfigMechanism1) :
    Ensures (fun t => t = config) (dispatch io) (fun _ _ => True) fun t => t = config := by
  refine .bind (.reads (Q := fun _ t => t = config) (fun _ _ h _ => h) fun _ h => h) fun _ => ?_
  refine .ite (fun _ => ?_) fun _ => .ite (fun _ => ?_) fun _ => .throw fun _ h => h
  · cases io.direction with
    | out =>
        refine .bind (.reads (Q := fun _ t => t = config) (fun _ _ h _ => h) fun _ h => h) ?_
        exact fun value => .bind (.modify (Q := fun _ _ => True) fun _ _ => trivial)
          fun _ => .pure fun _ _ => trivial
    | «in» => exact .get_bind fun _ _ => .pure fun _ _ => trivial
  · cases io.direction with
    | «in» => exact .get_bind fun _ _ => .pure fun _ _ => trivial
    | out =>
        refine .bind (.reads (Q := fun _ t => t = config) (fun _ _ h _ => h) fun _ h => h) ?_
        refine fun value => .get_bind fun s hs => ?_
        cases s.writeSelectedDword value with
        | some config' =>
            exact .bind (.set (Q := fun _ _ => True) trivial) fun _ => .pure fun _ _ => trivial
        | none => exact (Ensures.throw fun t ht => ht.trans hs).bind (Q := fun _ _ => False) nofun

end PciConfigMechanism1

end MiniHypervisor.PortIo
