import MiniHypervisor.Kvm.Irqchip
import MiniHypervisor.Kvm.Msr
import MiniHypervisor.Vcpu.Registers
import MiniHypervisor.VirtioBlk.Device

/-!
# Checkpoints of a vCPU and its pages

The state that a checkpoint holds for one vCPU (`src/state_snapshot.rs`), for one vCPU together
with a set of guest pages (`src/state_snapshot/page_set.rs`), for one or two vCPUs together with the
interrupt controllers (`page_set/full_controller.rs`, `two_vcpu_checkpoint.rs`), and for these
together with virtio-blk devices (`page_set/full_controller_virtio_blk.rs`,
`page_set/full_controller_two_virtio_blk.rs`, `page_set/two_vcpu_two_device_transaction.rs`).
-/

namespace MiniHypervisor.Checkpoint

open Kvm Vcpu VirtioBlk

structure VcpuStateSnapshot where
  registers : VcpuRegisterSnapshot
  specialRegisters : VcpuSpecialRegisterSnapshot
  msrs : GuestMsrSnapshot
  deriving DecidableEq, Repr

structure BoundedCheckpointPage where
  address : UInt64
  bytes : List UInt8
  deriving DecidableEq, Repr

structure BoundedVcpuPageSetCheckpoint where
  pages : List BoundedCheckpointPage
  vcpu : VcpuStateSnapshot
  deriving DecidableEq, Repr

def boundedCheckpointPageSetLimit : ℕ := 8

/-! ### Interrupt controllers -/

structure BoundedControllerCheckpoint where
  guest : BoundedVcpuPageSetCheckpoint
  masterPic : MasterPicStateSnapshot
  lapic : KvmLapicState
  deriving DecidableEq, Repr

structure BoundedFullControllerCheckpoint where
  base : BoundedControllerCheckpoint
  slavePic : SlavePicStateSnapshot
  ioapic : IoapicStateSnapshot
  deriving DecidableEq, Repr

/-! ### Two vCPUs -/

abbrev VcpuId : Type := UInt16

structure BoundedTwoVcpuCheckpoint where
  primaryId : VcpuId
  primary : BoundedVcpuPageSetCheckpoint
  secondaryId : VcpuId
  secondary : VcpuStateSnapshot
  deriving DecidableEq, Repr

structure BoundedTwoVcpuFullControllerCheckpoint where
  base : BoundedTwoVcpuCheckpoint
  masterPic : MasterPicStateSnapshot
  slavePic : SlavePicStateSnapshot
  ioapic : IoapicStateSnapshot
  lapics : (VcpuId × KvmLapicState) × (VcpuId × KvmLapicState)
  mpStates : (VcpuId × UInt32) × (VcpuId × UInt32)
  deriving DecidableEq, Repr

/-! ### Devices -/

structure BoundedFullControllerVirtioBlkCheckpoint where
  controller : BoundedFullControllerCheckpoint
  bar0 : UInt64
  device : VirtioBlkDevice
  deriving DecidableEq, Repr

/-- A checkpoint of two devices with their BARs, over the checkpoint of the rest of the machine. -/
structure BoundedTwoDeviceCheckpoint (κ : Type) where
  controller : κ
  devices : (UInt64 × VirtioBlkDevice) × (UInt64 × VirtioBlkDevice)
  deriving DecidableEq, Repr

abbrev BoundedFullControllerTwoVirtioBlkCheckpoint : Type :=
  BoundedTwoDeviceCheckpoint BoundedFullControllerCheckpoint

abbrev BoundedTwoVcpuFullControllerTwoVirtioBlkCheckpoint : Type :=
  BoundedTwoDeviceCheckpoint BoundedTwoVcpuFullControllerCheckpoint

namespace BoundedTwoDeviceCheckpoint

variable {κ : Type} (checkpoint : BoundedTwoDeviceCheckpoint κ)

def deviceBars : UInt64 × UInt64 := (checkpoint.devices.1.1, checkpoint.devices.2.1)

def device (bar : UInt64) : Option VirtioBlkDevice :=
  if checkpoint.devices.1.1 = bar then some checkpoint.devices.1.2
  else if checkpoint.devices.2.1 = bar then some checkpoint.devices.2.2
  else none

end BoundedTwoDeviceCheckpoint

end MiniHypervisor.Checkpoint
