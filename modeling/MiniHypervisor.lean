import MiniHypervisor.Bytes.LittleEndian
import MiniHypervisor.Bytes.ByteMap
import MiniHypervisor.Control.Outcome
import MiniHypervisor.Memory.GuestMemory
import MiniHypervisor.LongMode.BootLayout
import MiniHypervisor.LongMode.PageTables
import MiniHypervisor.Loader.Elf64
import MiniHypervisor.Loader.Boot
import MiniHypervisor.Bytes.Slices
import MiniHypervisor.VirtioBlk.Device
import MiniHypervisor.VirtioBlk.Queue
import MiniHypervisor.VirtioBlk.Atomicity
import MiniHypervisor.Control.Refinement
import MiniHypervisor.VirtioBlk.Disk
import MiniHypervisor.Bytes.Cursor
import MiniHypervisor.Kvm.Msr
import MiniHypervisor.Vcpu.Registers
import MiniHypervisor.Schema.Fields
import MiniHypervisor.Control.Increasing
import MiniHypervisor.Checkpoint.Types
import MiniHypervisor.Schema.PageVcpu
import MiniHypervisor.Schema.VcpuState
import MiniHypervisor.Schema.Canonicality
import MiniHypervisor.Schema.Acceptance
import MiniHypervisor.Bytes.Envelope
import MiniHypervisor.Kvm.Irqchip
import MiniHypervisor.Schema.Controllers
import MiniHypervisor.VirtioBlk.Checkpoint
import MiniHypervisor.Bytes.Codec
import MiniHypervisor.Kvm.HostRegistration
import MiniHypervisor.Schema.Devices
import MiniHypervisor.Schema.Transactions
import MiniHypervisor.Schema.Containers
import MiniHypervisor.Control.Keyed
import MiniHypervisor.Mmio.Bus
import MiniHypervisor.Schema.RoundTrip
import MiniHypervisor.VirtioRng.Device
import MiniHypervisor.Mmio.ByteDevice
import MiniHypervisor.Mmio.AtomicBus
import MiniHypervisor.Mmio.Routing
import MiniHypervisor.Schema.Restorable
import MiniHypervisor.Checkpoint.Operations
import MiniHypervisor.Checkpoint.Machine
import MiniHypervisor.Checkpoint.Errors
import MiniHypervisor.Checkpoint.FaithfulKvm
import MiniHypervisor.Checkpoint.FaithfulRestore
import MiniHypervisor.Checkpoint.TwoDevice
import MiniHypervisor.Checkpoint.TokenRestore
import MiniHypervisor.Control.Simulation
import MiniHypervisor.VirtioBlk.HostIndependence
import MiniHypervisor.Schema.Migration
import MiniHypervisor.Checkpoint.Frame
import MiniHypervisor.Checkpoint.HostRegistrations
import MiniHypervisor.Checkpoint.Transaction
import MiniHypervisor.LongMode.AddressSpace
import MiniHypervisor.LongMode.DeviceMappings
import MiniHypervisor.LongMode.Interrupt
import MiniHypervisor.Memory.ByteArray
import MiniHypervisor.Virtio.Calls
import MiniHypervisor.Virtio.Devices
import MiniHypervisor.Virtio.Runs
import MiniHypervisor.Control.Panics
import MiniHypervisor.Execution.Dispatch
import MiniHypervisor.Execution.Loop
import MiniHypervisor.Loader.Acceptance
import MiniHypervisor.Loader.PanicFreedom
import MiniHypervisor.VirtioBlk.Durability
import MiniHypervisor.Checkpoint.OneVcpu
import MiniHypervisor.Checkpoint.Quiescence
import MiniHypervisor.Mmio.Events
import MiniHypervisor.Mmio.LevelInterrupt
import MiniHypervisor.Schema.Binding
import MiniHypervisor.Schema.Quiescence
import MiniHypervisor.VirtioBlk.Capturable
import MiniHypervisor.Checkpoint.PageSet
import MiniHypervisor.Checkpoint.TwoVcpu
import MiniHypervisor.Control.Differences
import MiniHypervisor.Control.Registers
import MiniHypervisor.Execution.Answers
import MiniHypervisor.Kvm.CpuModel
import MiniHypervisor.Task.WaitChannel
import MiniHypervisor.LongMode.UserSpaces
import MiniHypervisor.LongMode.Privilege
import MiniHypervisor.Machine.X86
import MiniHypervisor.PortIo.WorkDispatch
