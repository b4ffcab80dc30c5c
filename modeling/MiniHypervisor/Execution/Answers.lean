import MiniHypervisor.Execution.Dispatch
import MiniHypervisor.PortIo.ConfigSpace

/-!
# Answers fit their exits

A port or MMIO access that reads is answered into the `kvm_run` mapping.  Every device answers with
as many bytes as the access asked for, so the answer is never refused for its length, and it
replaces exactly the bytes of the range that was checked when the exit was decoded.  What an access
writes are the bytes of the same range.
-/

namespace MiniHypervisor

open Bytes Control Mmio PortIo Vcpu

/-! ### Answers of the port bus -/

namespace Vcpu.PortIoExit

variable (io : PortIoExit)

/-- The number of bytes of the access. -/
def dataLength : ℕ := io.size.toNat * io.count.toNat

/-- The bytes are an answer to the access: it reads, and there are as many as it asks for. -/
def Fits (response : List UInt8) : Prop := io.direction = .in ∧ response.length = io.dataLength

end Vcpu.PortIoExit

namespace PortIo

variable {io : PortIoExit}

theorem dataLength_of_isDword {port : UInt16} {direction : PortIoDirection}
    (h : IsDword io port direction) : io.dataLength = 4 := by
  rw [PortIoExit.dataLength, h.size_eq, h.count_eq]
  rfl

theorem DebugPort.handle_fits (io : PortIoExit) :
    Gives (fun service => ∀ response, service = .input response → io.Fits response)
      (DebugPort.handle io) := by
  refine .bind (.reads fun _ _ h => rejectIf_eq_ok.mp h) fun _ hwidth => ?_
  cases hdirection : io.direction with
  | out => exact .then fun _ => .then fun _ => .pure nofun
  | «in» =>
      refine .then fun port => .pure ?_
      rintro _ ⟨⟩
      refine ⟨hdirection, ?_⟩
      simp only [ne_eq, not_or, not_not] at hwidth
      rw [PortIoExit.dataLength, hwidth.1, hwidth.2]
      rfl

theorem PciConfigMechanism1.dispatch_fits (io : PortIoExit) :
    Gives (fun service => ∀ bytes, service = .input bytes → io.Fits bytes)
      (PciConfigMechanism1.dispatch io) := by
  rintro config _ _ hrun bytes rfl
  have hdoes := config.does io
  rw [hrun] at hdoes
  cases hdoes with
  | answersAddress read | answersData read =>
      exact ⟨read.direction_eq, (length_u32Bytes _).trans (dataLength_of_isDword read).symm⟩

theorem PortIoBus.dispatch_fits (io : PortIoExit) :
    Gives (fun service => ∀ response, service = .input response → io.Fits response)
      (PortIoBus.dispatch io) := by
  refine .ite (fun _ => .then fun bus => ?_) fun _ => .ite (fun _ => .then fun bus => ?_)
    fun _ => .throw _
  · cases bus.debugPort with
    | none => exact .throw _
    | some device => exact .within (DebugPort.handle_fits io)
  · cases bus.pciConfig with
    | none => exact .throw _
    | some config =>
        refine .bind (.within (PciConfigMechanism1.dispatch_fits io)) fun service h => .pure ?_
        cases service with
        | output => nofun
        | input bytes =>
            rintro _ ⟨⟩
            exact h bytes rfl

end PortIo

/-! ### Answers of the MMIO bus -/

namespace Mmio

/-- The bytes are an answer to the access: it reads, and there are as many as it asks for. -/
def MmioExit.Fits (exit : MmioExit) (response : List UInt8) : Prop :=
  exit.direction = .read ∧ response.length = exit.length.toNat

/-- The service is no answer, or one that fits. -/
def MmioExit.FitsService (exit : MmioExit) (service : MmioService) : Prop :=
  ∀ response, service = .read response → exit.Fits response

section ByteDevices

variable {exit : MmioExit}

theorem MmioExit.fitsService_write : exit.FitsService .write := by
  rintro _ ⟨⟩

theorem MmioExit.fitsService_byte (hread : exit.direction = .read) (hlength : exit.length = 1)
    (byte : UInt8) : exit.FitsService (.read [byte]) := by
  rintro _ ⟨⟩
  refine ⟨hread, ?_⟩
  rw [hlength]
  rfl

theorem ByteMmioDevice.handlePlain_fits (hlength : exit.length = 1) (interruptOnWrite : Bool) :
    Gives exit.FitsService (ByteMmioDevice.handlePlain exit interruptOnWrite) := by
  unfold ByteMmioDevice.handlePlain
  cases hdirection : exit.direction with
  | write => exact .then fun _ => .then fun _ => .pure MmioExit.fitsService_write
  | read => exact .then fun _ => .pure (MmioExit.fitsService_byte hdirection hlength _)

theorem ByteMmioDevice.handleLevel_fits (hlength : exit.length = 1) :
    Gives exit.FitsService (ByteMmioDevice.handleLevel exit) := by
  refine .then fun device => .ite (fun _ => ?command) fun _ => .ite (fun hstatus => ?status)
    fun _ => .ite (fun _ => ?acknowledge) fun _ => .throw _
  case command => exact .then fun _ => .then fun _ => .pure MmioExit.fitsService_write
  case status => exact .then fun _ => .pure (MmioExit.fitsService_byte hstatus.2 hlength _)
  case acknowledge =>
    exact .then fun _ => .ite (fun _ => .throw _) fun _ =>
      .then fun _ => .pure MmioExit.fitsService_write

theorem ByteMmioDevice.handle_fits (exit : MmioExit) :
    Gives exit.FitsService (ByteMmioDevice.handle exit) := by
  refine .ite (fun _ => .throw _) fun hlength => .then fun device => ?_
  rw [ne_eq, not_not] at hlength
  cases device.mode with
  | plain => exact ByteMmioDevice.handlePlain_fits hlength false
  | edgeInterrupt => exact ByteMmioDevice.handlePlain_fits hlength true
  | levelInterrupt => exact ByteMmioDevice.handleLevel_fits hlength

end ByteDevices

/-! ### Registers of the virtio devices -/

open VirtioBlk (Register RegisterSpec)

/-- A read gives as many bytes as it asks for: every register has the width it is accessed with. -/
theorem read_length {ε : Type} {spec : RegisterSpec ε}
    (hcapacity : ∀ bytes, spec.capacity = some bytes → bytes.length = 8) (offset length : ℕ) :
    Gives (fun bytes => bytes.length = length) (spec.read offset length) := by
  refine .bind (.reads fun registers bytes h => ?_) fun bytes hlength =>
    .ite (fun _ => .then fun _ => .pure hlength) fun _ => .pure hlength
  split at h
  · rename_i hbytes
    cases h
    obtain ⟨register, hfind, hvalue⟩ := Option.bind_eq_some_iff.mp hbytes
    obtain rfl : register.access.2 = length := congrArg Prod.snd (Register.access_of_find? hfind)
    cases register with
    | capacity => exact hcapacity bytes hvalue
    | _ => cases hvalue <;> simp [Register.access]
  · cases h

theorem MmioBus.dispatchVirtio_fits {ε D η : Type} {bar0 : D → UInt64}
    {read : ℕ → ℕ → EStateM ε D (List UInt8)} {write : ℕ → List UInt8 → EStateM ε D (Option η)}
    {queue : η → UInt16}
    (hread : ∀ offset length, Gives (fun bytes => bytes.length = length) (read offset length))
    (exit : MmioExit) :
    Gives (fun result => exit.FitsService result.1)
      (MmioBus.dispatchVirtio bar0 read write queue exit) := by
  refine .then fun device => ?_
  cases hdirection : exit.direction with
  | read =>
      refine .bind (hread _ _) fun bytes hlength => .pure ?_
      rintro _ ⟨⟩
      exact ⟨hdirection, hlength⟩
  | write => exact .then fun _ => .then fun _ => .pure MmioExit.fitsService_write

theorem MmioBus.dispatch_fits (exit : MmioExit) :
    Gives exit.FitsService (MmioBus.dispatch exit) := by
  have hnone : ∀ bytes, VirtioRng.VirtioRngDevice.registerSpec.capacity = some bytes →
      bytes.length = 8 := nofun
  have hrng : Gives (fun result => exit.FitsService result.1) (MmioBus.dispatchVirtioRng exit) :=
    MmioBus.dispatchVirtio_fits (fun _ _ => .within (read_length hnone _ _)) exit
  have hcapacity : ∀ bytes, VirtioBlk.VirtioBlkDevice.registerSpec.capacity = some bytes →
      bytes.length = 8 := by
    rintro _ ⟨⟩
    rfl
  have hblk : Gives (fun result => exit.FitsService result.1) (MmioBus.dispatchVirtioBlk exit) :=
    MmioBus.dispatchVirtio_fits (fun _ _ => .within (read_length hcapacity _ _)) exit
  refine .bind (.within (.onFirst (.within (ByteMmioDevice.handle_fits exit)))) ?_
  rintro (_ | service) hservice
  · refine .bind (.within (.onFirst (.within hrng))) ?_
    rintro (_ | ⟨service, record⟩) hservice
    · refine .bind (.within (.onFirst (.within hblk))) ?_
      rintro (_ | ⟨service, record⟩) hservice
      · exact .throw _
      · exact .then fun _ => .pure (hservice _ rfl)
    · exact .then fun _ => .pure (hservice _ rfl)
  · exact .pure (hservice _ rfl)

end Mmio

/-! ### Payloads -/

namespace Vcpu.KvmRunMapping

variable {run : KvmRunMapping} {id : UInt16}

theorem checkedIoDataRange_eq_ok {io : KvmRunIo} {mappingSize : ℕ} {range : ℕ × ℕ} :
    checkedIoDataRange id io mappingSize = .ok range ↔
      (io.size.toNat * io.count.toNat < 2 ^ 64 ∧
        io.dataOffset.toNat + io.size.toNat * io.count.toNat < 2 ^ 64 ∧
        io.dataOffset.toNat + io.size.toNat * io.count.toNat ≤ mappingSize) ∧
      range = (io.dataOffset.toNat, io.size.toNat * io.count.toNat) := by
  simp only [checkedIoDataRange, rejectIf_bind_eq_ok, not_le, not_lt, pure, Except.pure,
    Except.ok.injEq, and_assoc, eq_comm (a := range)]

theorem portIoExit_eq_ok {io : PortIoExit} (h : run.portIoExit id = .ok io) :
    run.exitReason = kvmExitIo ∧ portIoDirection id run.io.direction = .ok io.direction ∧
      checkedIoDataRange id run.io run.len = .ok (run.io.dataOffset.toNat, io.dataLength) ∧
      run.io.dataOffset.toNat + io.dataLength ≤ run.len ∧
      (io.direction = .out →
        io.outputData = run.contents.read run.io.dataOffset.toNat io.dataLength) := by
  simp only [portIoExit, bind_eq_ok, rejectIf_eq_ok, exists_const, not_not,
    checkedIoDataRange_eq_ok, pure, Except.pure, Except.ok.injEq] at h
  obtain ⟨hreason, direction, hdirection, range, ⟨hrange, rfl⟩, rfl⟩ := h
  exact ⟨hreason, hdirection, checkedIoDataRange_eq_ok.mpr ⟨hrange, rfl⟩, hrange.2.2,
    fun hout => if_pos hout⟩

theorem mmioExit_eq_ok {access : MmioExit} (h : run.mmioExit id = .ok access) :
    run.exitReason = kvmExitMmio ∧
      mmioDirection id (run.contents (unionOffset + 20)) = .ok access.direction ∧
      checkedMmioLength id (run.u64At unionOffset) (run.u32At (unionOffset + 16)) =
        .ok access.length.toNat ∧
      access.length.toNat ≤ kvmMmioDataCapacity ∧
      (access.direction = .write →
        access.writeData = run.contents.read mmioDataOffset access.length.toNat) := by
  simp only [mmioExit, bind_eq_ok, rejectIf_eq_ok, exists_const, not_not, pure, Except.pure,
    Except.ok.injEq] at h
  obtain ⟨hreason, direction, hdirection, length, hlength, rfl⟩ := h
  have hchecked := hlength
  simp only [checkedMmioLength, rejectIf_bind_eq_ok, not_or, not_lt, pure, Except.pure,
    Except.ok.injEq] at hlength
  obtain ⟨hcapacity, rfl⟩ := hlength
  exact ⟨hreason, hdirection, hchecked, hcapacity.2, fun hwrite => if_pos hwrite⟩

theorem overwrite_nil (run : KvmRunMapping) (offset : ℕ) : run.overwrite offset [] = run := by
  rw [overwrite, ByteMap.write_nil]

theorem run_writePortIoInput {io : PortIoExit} {response : List UInt8}
    (h : run.portIoExit id = .ok io) (hfits : io.Fits response) :
    (writePortIoInput id response).run run =
      .ok () (run.overwrite run.io.dataOffset.toNat response) := by
  obtain ⟨hreason, hdirection, hrange, -, -⟩ := portIoExit_eq_ok h
  rw [hfits.1] at hdirection
  refine (run_bind_of_ok (run_reads_of_ok (a := (run.io.dataOffset.toNat, io.dataLength)) ?_)).trans
    ?_
  · simp only [checkedIoResponseRange, bind_eq_ok, rejectIf_eq_ok, exists_const, not_not, pure,
      Except.pure, Except.ok.injEq]
    exact ⟨hreason, .in, hdirection, rfl, _, hrange, hfits.2, rfl⟩
  · cases response with
    | nil => exact congrArg (EStateM.Result.ok ()) (overwrite_nil run _).symm
    | cons byte response => rfl

theorem run_writeMmioReadResponse {access : MmioExit} {response : List UInt8}
    (h : run.mmioExit id = .ok access) (hfits : access.Fits response) :
    (writeMmioReadResponse id response).run run =
      .ok () (run.overwrite mmioDataOffset response) := by
  obtain ⟨hreason, hdirection, hlength, -, -⟩ := mmioExit_eq_ok h
  rw [hfits.1] at hdirection
  refine run_bind_of_ok (run_reads_of_ok (a := ()) ?_)
  simp only [bind_eq_ok, rejectIf_eq_ok, exists_const, not_not]
  exact ⟨hreason, .read, hdirection, rfl, _, hlength, hfits.2⟩

end Vcpu.KvmRunMapping

/-! ### Serviced exits -/

namespace Execution

variable {ω O : Type}

/-- The service of an exit has put an answer into the mapping, at an offset where there is room, and
left the other bytes of the mapping alone. -/
structure Machine.AnsweredAt (m m' : Machine O) (offset : ℕ) (response : List UInt8) : Prop where
  inside : offset + response.length ≤ m.run.len
  len_eq : m'.run.len = m.run.len
  answered : m'.run.contents.read offset response.length = response
  others : ∀ i, i < offset ∨ offset + response.length ≤ i →
    m'.run.contents i = m.run.contents i

theorem answeredAt_overwrite {m m' : Machine O} {offset : ℕ} {response : List UInt8}
    (hrun : m'.run = m.run.overwrite offset response)
    (hinside : offset + response.length ≤ m.run.len) : m.AnsweredAt m' offset response where
  inside := hinside
  len_eq := by rw [hrun]; rfl
  answered := by rw [hrun]; exact ByteMap.read_write_same _ _
  others i hi := by rw [hrun]; exact ByteMap.write_apply_outside _ hi

theorem mmioDataOffset_add_le (run : KvmRunMapping) :
    KvmRunMapping.mmioDataOffset + kvmMmioDataCapacity ≤ run.len := by
  have hprefix : KvmRunMapping.mmioDataOffset + kvmMmioDataCapacity ≤ requiredKvmRunPrefixSize := by
    decide
  exact hprefix.trans run.len_ge

theorem run_answer (m : Machine O) {write : UInt16 → EStateM VmExitError KvmRunMapping Unit}
    {run : KvmRunMapping} (h : (write m.id).run m.run = .ok () run) :
    (answer write : EStateM (Error ω) (Machine O) Unit).run m = .ok () { m with run } := by
  change (within Machine.run (fun m run => { m with run }) _ (write m.id)).run m = _
  exact run_within_of_ok h

/-- **Serviced reads fit their exit.** The range of a decoded access lies in the mapping, and what
an access writes are the bytes of this range.  If a bus answers an access, the answer has the length
of the range, and servicing the exit succeeds and replaces exactly these bytes. -/
theorem serviced_reads_fit (m : Machine O) :
    (∀ io, m.run.portIoExit m.id = .ok io →
      m.run.io.dataOffset.toNat + io.dataLength ≤ m.run.len ∧
      (io.direction = .out →
        io.outputData = m.run.contents.read m.run.io.dataOffset.toNat io.dataLength) ∧
      ∀ response portIo,
        (PortIoBus.dispatch io).run m.portIo = .ok (.input response) portIo →
        response.length = io.dataLength ∧
        ∃ m', (dispatchVcpuExit .io : EStateM (Error ω) (Machine O) _).run m =
            .ok (.continue (.portIo io)) m' ∧ m'.portIo = portIo ∧
          m.AnsweredAt m' m.run.io.dataOffset.toNat response) ∧
    ∀ access, m.run.mmioExit m.id = .ok access →
      access.length.toNat ≤ kvmMmioDataCapacity ∧
      (access.direction = .write →
        access.writeData =
          m.run.contents.read KvmRunMapping.mmioDataOffset access.length.toNat) ∧
      ∀ response mmio,
        (MmioBus.dispatch access).run m.mmio = .ok (.read response) mmio →
        response.length = access.length.toNat ∧
        ∃ m', (dispatchVcpuExit .mmio : EStateM (Error ω) (Machine O) _).run m =
            .ok (.continue (.mmio access)) m' ∧ m'.mmio = mmio ∧
          m.AnsweredAt m' KvmRunMapping.mmioDataOffset response := by
  constructor
  · intro io hdecode
    obtain ⟨-, -, -, hinside, houtput⟩ := KvmRunMapping.portIoExit_eq_ok hdecode
    refine ⟨hinside, houtput, fun response portIo hdispatch => ?_⟩
    have hfits := PortIoBus.dispatch_fits io m.portIo _ portIo hdispatch response rfl
    have hwrite := KvmRunMapping.run_writePortIoInput hdecode hfits
    refine ⟨hfits.2, { m with
      portIo
      run := m.run.overwrite m.run.io.dataOffset.toNat response }, ?_, rfl, ?_⟩
    · refine (run_bind_of_ok (run_payload_eq_ok.mpr ⟨hdecode, rfl⟩)).trans ?_
      refine (run_bind_of_ok (run_within_of_ok hdispatch)).trans ?_
      rw [answerPortIo]
      exact run_bind_of_ok (run_answer { m with portIo } hwrite)
    · exact answeredAt_overwrite rfl (hfits.2.symm ▸ hinside)
  · intro access hdecode
    obtain ⟨-, -, -, hcapacity, hwritten⟩ := KvmRunMapping.mmioExit_eq_ok hdecode
    refine ⟨hcapacity, hwritten, fun response mmio hdispatch => ?_⟩
    have hfits := MmioBus.dispatch_fits access m.mmio _ mmio hdispatch response rfl
    have hwrite := KvmRunMapping.run_writeMmioReadResponse hdecode hfits
    refine ⟨hfits.2, { m with
      mmio
      run := m.run.overwrite KvmRunMapping.mmioDataOffset response }, ?_, rfl, ?_⟩
    · refine (run_bind_of_ok (run_payload_eq_ok.mpr ⟨hdecode, rfl⟩)).trans ?_
      refine (run_bind_of_ok (run_within_of_ok hdispatch)).trans ?_
      rw [answerMmio]
      exact run_bind_of_ok (run_answer { m with mmio } hwrite)
    · refine answeredAt_overwrite rfl ?_
      have hroom := mmioDataOffset_add_le m.run
      rw [hfits.2]
      omega

/-- A vCPU that has left the guest to read a byte from the debug port. -/
def debugRead : Machine Unit where
  id := 0
  supportsInternalErrorData := true
  run := ⟨fun i => ([(8, 2), (33, 1), (34, 0xe9), (36, 1), (40, 64)].lookup i).getD 0,
    requiredKvmRunPrefixSize, le_rfl⟩
  registers := .ok ⟨0, 2⟩
  portIo := ⟨some ⟨[], 0x41⟩, none⟩
  mmio := .empty
  observed := ()
  entries := 1
  kvmRuns := 1

example :
    ∃ m, (dispatchVcpuExit .io : EStateM (Error Empty) (Machine Unit) _).run debugRead =
        .ok (.continue (.portIo ⟨.in, 1, debugPortNumber, 1, []⟩)) m ∧
      m.run.contents.read 63 3 = [0, 0x41, 0] :=
  ⟨_, rfl, by decide⟩

end Execution

end MiniHypervisor
