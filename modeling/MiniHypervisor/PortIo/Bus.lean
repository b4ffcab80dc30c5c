import MiniHypervisor.PortIo.Pci

/-!
# The port I/O bus

A bus (`src/portio.rs`) has at most two devices: the debug port, which records the bytes written to
it and answers with one fixed byte, and the two ports of the PCI configuration space.  An access to
any other port, or to a device that is not there, is refused.

## Main results

* `PortIoBus.dispatch_refused` : a refused access changes nothing.
-/

namespace MiniHypervisor.PortIo

open Bytes Control Vcpu

/-- `DEBUG_PORT`. -/
def debugPortNumber : UInt16 := 0x00e9

inductive PortIoService where
  | output
  | input (response : List UInt8)
  deriving DecidableEq, Repr

structure DebugPort where
  bytes : List UInt8
  inputByte : UInt8
  deriving DecidableEq, Repr

namespace DebugPort

def default : DebugPort := ⟨[], 0⟩

/-- `DebugPort::handle` (lines 130-155). -/
def handle (io : PortIoExit) : EStateM PortIoError DebugPort PortIoService := do
  reads fun _ => rejectIf (io.size ≠ 1 ∨ io.count ≠ 1)
    (.unsupportedDebugAccess io.port io.direction.raw io.size io.count)
  match io.direction with
  | .out =>
      reads fun _ => rejectIf (io.outputData.length ≠ 1)
        (.invalidOutputPayload io.port 1 io.outputData.length)
      modify fun port => { port with bytes := port.bytes ++ [io.outputData.getD 0 0] }
      return .output
  | .in => return .input [(← get).inputByte]

theorem handle_refused (io : PortIoExit) (port : DebugPort) :
    Ensures (fun t => t = port) (handle io) (fun _ _ => True) fun t => t = port := by
  refine .bind (.reads (Q := fun _ t => t = port) (fun _ _ h _ => h) fun _ h => h) fun _ => ?_
  cases io.direction with
  | out =>
      refine .bind (.reads (Q := fun _ t => t = port) (fun _ _ h _ => h) fun _ h => h) fun _ => ?_
      exact .bind (.modify (Q := fun _ _ => True) fun _ _ => trivial)
        fun _ => .pure fun _ _ => trivial
  | «in» => exact .get_bind fun _ _ => .pure fun _ _ => trivial

end DebugPort

structure PortIoBus where
  debugPort : Option DebugPort
  pciConfig : Option PciConfigMechanism1
  deriving DecidableEq, Repr

def convertPciService : PciConfigService → PortIoService
  | .output => .output
  | .input bytes => .input bytes

namespace PortIoBus

def empty : PortIoBus := ⟨none, none⟩

def withDebugPort : PortIoBus := ⟨some .default, none⟩

/-- `PortIoBus::dispatch` (lines 73-92). -/
def dispatch (io : PortIoExit) : EStateM PortIoError PortIoBus PortIoService := do
  if io.port = debugPortNumber then
    match (← get).debugPort with
    | some device =>
        within (fun _ => device) (fun bus device => { bus with debugPort := some device }) id
          (DebugPort.handle io)
    | none => throw (unhandled io)
  else if PciConfigMechanism1.handlesPort io.port then
    match (← get).pciConfig with
    | some config =>
        let service ← within (fun _ => config)
          (fun bus config => { bus with pciConfig := some config }) id
          (PciConfigMechanism1.dispatch io)
        return convertPciService service
    | none => throw (unhandled io)
  else
    throw (unhandled io)

theorem within_refused {δ β : Type} {device : δ} {put : PortIoBus → δ → PortIoBus} {bus : PortIoBus}
    {x : EStateM PortIoError δ β}
    (hx : Ensures (fun t => t = device) x (fun _ _ => True) fun t => t = device)
    (hput : put bus device = bus) :
    Ensures (fun t => t = bus) (within (fun _ => device) put id x) (fun _ _ => True)
      fun t => t = bus := by
  rintro _ rfl
  refine ⟨fun _ _ _ => trivial, fun e t hrun => ?_⟩
  cases hdevice : x.run device with
  | ok b device' =>
      rw [run_within_of_ok hdevice] at hrun
      cases hrun
  | error e' device' =>
      rw [run_within_of_error hdevice] at hrun
      cases hrun
      rw [(hx device rfl).2 e' device' hdevice, hput]

/-- **A refused access changes nothing.** -/
theorem dispatch_refused (io : PortIoExit) (bus : PortIoBus) :
    Ensures (fun t => t = bus) (dispatch io) (fun _ _ => True) fun t => t = bus := by
  refine .ite (fun _ => .get_bind ?_) fun _ => .ite (fun _ => .get_bind ?_)
    fun _ => .throw fun _ h => h
  · intro s hs
    subst hs
    cases hdevice : s.debugPort with
    | none => exact .throw fun _ h => h
    | some device =>
        refine within_refused (DebugPort.handle_refused io device) ?_
        rw [← hdevice]
  · intro s hs
    subst hs
    cases hconfig : s.pciConfig with
    | none => exact .throw fun _ h => h
    | some config =>
        refine .bind (within_refused (PciConfigMechanism1.dispatch_refused io config) ?_)
          fun _ => .pure fun _ _ => trivial
        rw [← hconfig]

end PortIoBus

end MiniHypervisor.PortIo
