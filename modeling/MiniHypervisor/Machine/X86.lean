import Mathlib.Logic.Function.Basic
import MiniHypervisor.Bytes.ByteMap
import MiniHypervisor.Control.Refinement

/-!
# Processors that share memory

The instructions of the 64-bit architecture that short guest programs are written in: moves and
comparisons of bytes, an exchange with memory, jumps, output to a port and the halt.  Of the
registers only those are kept that these instructions read: `al`, `rbx`, `ecx` and the zero flag.
An instruction is found by its first bytes in a table of encodings.

A processor that executes an instruction reads through its own stores, which wait in a buffer until
they reach memory, oldest first.  An exchange with memory is locked: it waits for the buffer to be
empty and then acts on memory itself.  Between two instructions of one processor any number of
instructions of the others and any stores from the buffers may happen.

## Main results

* `Core.advance_of_fetch` : the next instruction of a program.
* `Quiet.advance`, `Quiet.withBuffer` : others do not disturb such instructions.
-/

namespace MiniHypervisor.X86

open Bytes

/-! ### Instructions -/

/-- An instruction.  Memory is named by its displacement from `rbx`, and the offset of a jump counts
from its end. -/
inductive Instr where
  | cmpByte (displacement : ℤ) (value : UInt8)
  | movByte (displacement : ℤ) (value : UInt8)
  | xchg (displacement : ℤ)
  | load (displacement : ℤ)
  | store (displacement : ℤ)
  | movAl (value : UInt8)
  | cmpAl (value : UInt8)
  | addAlAl
  | xorEaxEax
  | movRbx (value : ℕ)
  | movEcx (value : ℕ)
  | decEcx
  | pause
  | out (port : UInt8)
  | hlt
  | jmp (offset : ℤ)
  | je (offset : ℤ)
  | jne (offset : ℤ)
  deriving DecidableEq, Repr

/-- The number that the first `k` bytes of the operands give in two's complement. -/
def signed (k : ℕ) (operands : List UInt8) : ℤ :=
  let value : ℤ := ofLE (operands.take k)
  if value < 2 ^ (8 * k - 1) then value else value - 2 ^ (8 * k)

/-- A number as a word. -/
def word (value : ℤ) : ℕ := (value % 2 ^ 64).toNat

/-- How an instruction is written: its first bytes and the number of bytes of its operands. -/
structure Encoding where
  opcode : List UInt8
  width : ℕ
  instr : List UInt8 → Instr

/-- The encodings that are understood. -/
def encodings : List Encoding :=
  [⟨[0x80, 0x7b], 2, fun o => .cmpByte (signed 1 o) (o.getD 1 0)⟩,
    ⟨[0xc6, 0x03], 1, fun o => .movByte 0 (o.getD 0 0)⟩,
    ⟨[0x86, 0x43], 1, fun o => .xchg (signed 1 o)⟩,
    ⟨[0x8a, 0x03], 0, fun _ => .load 0⟩,
    ⟨[0x8a, 0x43], 1, fun o => .load (signed 1 o)⟩,
    ⟨[0x88, 0x43], 1, fun o => .store (signed 1 o)⟩,
    ⟨[0xb0], 1, fun o => .movAl (o.getD 0 0)⟩,
    ⟨[0x3c], 1, fun o => .cmpAl (o.getD 0 0)⟩,
    ⟨[0x00, 0xc0], 0, fun _ => .addAlAl⟩,
    ⟨[0x31, 0xc0], 0, fun _ => .xorEaxEax⟩,
    ⟨[0x48, 0xc7, 0xc3], 4, fun o => .movRbx (word (signed 4 o))⟩,
    ⟨[0xb9], 4, fun o => .movEcx (ofLE (o.take 4))⟩,
    ⟨[0xff, 0xc9], 0, fun _ => .decEcx⟩,
    ⟨[0xf3, 0x90], 0, fun _ => .pause⟩,
    ⟨[0xe6], 1, fun o => .out (o.getD 0 0)⟩,
    ⟨[0xf4], 0, fun _ => .hlt⟩,
    ⟨[0xeb], 1, fun o => .jmp (signed 1 o)⟩,
    ⟨[0x74], 1, fun o => .je (signed 1 o)⟩,
    ⟨[0x75], 1, fun o => .jne (signed 1 o)⟩]

/-- The instruction at the start of a byte string, and its length. -/
def decode (code : List UInt8) : Option (Instr × ℕ) := do
  let e ← encodings.find? fun e =>
    e.opcode.isPrefixOf code && e.opcode.length + e.width ≤ code.length
  return (e.instr (code.drop e.opcode.length), e.opcode.length + e.width)

/-- A program loaded at an address. -/
structure Image where
  base : ℕ
  bytes : List UInt8

/-- The instruction of a program at an address, and the address after it. -/
def Image.fetch (image : Image) (rip : ℕ) : Option (Instr × ℕ) := do
  guard (image.base ≤ rip)
  let (instr, length) ← decode (image.bytes.drop (rip - image.base))
  return (instr, rip + length)

/-! ### Execution -/

/-- The registers. -/
structure Registers where
  rip : ℕ
  al : UInt8
  rbx : ℕ
  ecx : ℕ
  zf : Bool
  deriving DecidableEq, Repr

/-- The address of a byte of memory. -/
def Registers.address (r : Registers) (displacement : ℤ) : ℕ := word (r.rbx + displacement)

/-- The registers after a jump. -/
def Registers.jump (r : Registers) (offset : ℤ) : Registers :=
  { r with rip := word (r.rip + offset) }

/-- What an instruction does outside of the registers. -/
inductive Effect where
  | none
  | store (address : ℕ) (value : UInt8)
  | exchange (address : ℕ) (value : UInt8)
  | output (port value : UInt8)
  | halt
  deriving DecidableEq, Repr

/-- An instruction on registers that point behind it, and on the memory that the processor sees. -/
def Instr.exec (instr : Instr) (view : ByteMap) (r : Registers) : Registers × Effect :=
  match instr with
  | cmpByte p v => ({ r with zf := view (r.address p) == v }, .none)
  | movByte p v => (r, .store (r.address p) v)
  | xchg p => ({ r with al := view (r.address p) }, .exchange (r.address p) r.al)
  | load p => ({ r with al := view (r.address p) }, .none)
  | store p => (r, .store (r.address p) r.al)
  | movAl v => ({ r with al := v }, .none)
  | cmpAl v => ({ r with zf := r.al == v }, .none)
  | addAlAl => ({ r with al := r.al + r.al, zf := r.al + r.al == 0 }, .none)
  | xorEaxEax => ({ r with al := 0, zf := true }, .none)
  | movRbx v => ({ r with rbx := v }, .none)
  | movEcx v => ({ r with ecx := v }, .none)
  | decEcx =>
      let v := (r.ecx + (2 ^ 32 - 1)) % 2 ^ 32
      ({ r with ecx := v, zf := v == 0 }, .none)
  | pause => (r, .none)
  | out port => (r, .output port r.al)
  | hlt => (r, .halt)
  | jmp offset => (r.jump offset, .none)
  | je offset => (if r.zf then r.jump offset else r, .none)
  | jne offset => (if r.zf then r else r.jump offset, .none)

/-- A processor: the stores that wait, oldest first, and what was written to the ports. -/
structure Core where
  registers : Registers
  buffer : List (ℕ × UInt8)
  output : List (UInt8 × UInt8)
  halted : Bool
  deriving DecidableEq, Repr

/-- The memory that a processor sees. -/
def Core.view (c : Core) (memory : ByteMap) : ByteMap :=
  c.buffer.foldl (fun m store => Function.update m store.1 store.2) memory

/-- The effect of an instruction; an exchange waits while there are stores in the buffer. -/
def Core.commit (c : Core) (memory : ByteMap) : Registers × Effect → Option (Core × ByteMap)
  | (r, .none) => some ({ c with registers := r }, memory)
  | (r, .store a v) =>
      some ({ c with registers := r, buffer := c.buffer ++ [(a, v)] }, memory)
  | (r, .exchange a v) =>
      if c.buffer.isEmpty then some ({ c with registers := r }, Function.update memory a v)
      else Option.none
  | (r, .output port v) =>
      some ({ c with registers := r, output := c.output ++ [(port, v)] }, memory)
  | (r, .halt) => some ({ c with registers := r, halted := true }, memory)

/-- An instruction of a processor, given with the address behind it. -/
def Core.execute (c : Core) (memory : ByteMap) (fetched : Instr × ℕ) : Option (Core × ByteMap) :=
  c.commit memory (fetched.1.exec (c.view memory) { c.registers with rip := fetched.2 })

/-- The next instruction of a processor, unless it has halted, has left its program or waits. -/
def Core.advance (image : Image) (c : Core) (memory : ByteMap) : Option (Core × ByteMap) :=
  if c.halted then none else (image.fetch c.registers.rip).bind (c.execute memory)

theorem Core.advance_of_fetch {image : Image} {r : Registers} {buffer : List (ℕ × UInt8)}
    {output : List (UInt8 × UInt8)} {memory : ByteMap} {fetched : Instr × ℕ}
    (h : image.fetch r.rip = some fetched) :
    Core.advance image ⟨r, buffer, output, false⟩ memory =
      Core.execute ⟨r, buffer, output, false⟩ memory fetched := by
  rw [advance, if_neg Bool.false_ne_true, h, Option.bind_some]

/-! ### Instructions that do not use memory -/

/-- The instruction does not use memory. -/
def Instr.isLocal : Instr → Bool
  | cmpByte _ _ | movByte _ _ | xchg _ | load _ | store _ => false
  | _ => true

/-- Memory that holds zeros. -/
def zeros : ByteMap := fun _ => 0

/-- A number of instructions that do not use memory, from one state of a processor to another. -/
inductive Quiet (image : Image) (final : Core) : ℕ → Core → Prop
  | refl : Quiet image final 0 final
  | step {n : ℕ} {r : Registers} {buffer : List (ℕ × UInt8)} {output : List (UInt8 × UInt8)}
      {address : ℕ} {fetched : Instr × ℕ} {next : Core} (fetch : image.fetch address = some fetched)
      (rip : r.rip = address) (quiet : fetched.1.isLocal = true)
      (exec : Core.execute ⟨r, buffer, output, false⟩ zeros fetched = some (next, zeros))
      (rest : Quiet image final n next) : Quiet image final (n + 1) ⟨r, buffer, output, false⟩

section Quiet

variable {image : Image} {c final : Core} {fetched : Instr × ℕ} {n : ℕ}

theorem Core.execute_of_isLocal (h : fetched.1.isLocal = true) (memory : ByteMap) :
    c.execute memory fetched = (c.execute zeros fetched).map fun after => (after.1, memory) := by
  obtain ⟨instr, next⟩ := fetched
  cases instr <;> first | rfl | cases h

theorem Core.execute_withBuffer (h : fetched.1.isLocal = true) (buffer : List (ℕ × UInt8)) :
    ({ c with buffer := buffer } : Core).execute zeros fetched =
      (c.execute zeros fetched).map fun after => ({ after.1 with buffer := buffer }, after.2) := by
  obtain ⟨instr, next⟩ := fetched
  cases instr <;> first | rfl | cases h

/-- Such an instruction is executed on every memory, which it leaves alone. -/
theorem Quiet.advance (h : Quiet image final (n + 1) c) (memory : ByteMap) :
    ∃ next, c.advance image memory = some (next, memory) ∧ Quiet image final n next := by
  cases h with
  | step fetch rip quiet exec rest =>
      refine ⟨_, ?_, rest⟩
      rw [Core.advance_of_fetch (by rwa [rip]), Core.execute_of_isLocal quiet, exec,
        Option.map_some]

/-- Stores may reach memory meanwhile. -/
theorem Quiet.withBuffer (h : Quiet image final n c) (buffer : List (ℕ × UInt8)) :
    Quiet image { final with buffer := buffer } n { c with buffer := buffer } := by
  induction h with
  | refl => exact .refl
  | step fetch rip quiet exec rest ih =>
      have hexec := congrArg (Option.map fun after : Core × ByteMap =>
        ({ after.1 with buffer := buffer }, after.2)) exec
      rw [← Core.execute_withBuffer quiet] at hexec
      exact .step fetch rip quiet hexec ih

theorem Quiet.buffer_eq (h : Quiet image final n c) : final.buffer = c.buffer := by
  induction h with
  | refl => rfl
  | @step n r buffer output address fetched next fetch rip quiet exec rest ih =>
      have hexec := Core.execute_withBuffer (c := ⟨r, buffer, output, false⟩) quiet buffer
      rw [exec] at hexec
      exact ih.trans (congrArg (fun after => after.1.buffer) (Option.some.inj hexec))

/-- The instructions of a program by name: where each stands, and where the next one starts. -/
structure Listing (image : Image) (ν : Type) where
  line : ν → ℕ × Instr × ℕ
  fetch : ∀ name, image.fetch (line name).1 = some (line name).2

variable {ν : Type}

/-- A processor that executes the named instructions, none of which uses memory. -/
def Listing.follow (listing : Listing image ν) : List ν → Core → Option Core
  | [], c => some c
  | name :: path, c =>
      if c.halted = false ∧ c.registers.rip = (listing.line name).1 ∧
          (listing.line name).2.1.isLocal = true then
        (c.execute zeros (listing.line name).2).bind fun after => listing.follow path after.1
      else none

/-- A path of so many instructions is a way through the program. -/
theorem Listing.quiet (listing : Listing image ν) (n : ℕ) (path : List ν)
    (hlength : path.length = n) (h : listing.follow path c = some final) :
    Quiet image final n c := by
  subst hlength
  induction path generalizing c with
  | nil =>
      cases h
      exact .refl
  | cons name path ih =>
      rw [follow, Option.ite_none_right_eq_some, Option.bind_eq_some_iff] at h
      obtain ⟨⟨hhalted, hrip, hlocal⟩, ⟨next, memory⟩, hexec, hrest⟩ := h
      obtain ⟨r, buffer, output, halted⟩ := c
      subst hhalted
      obtain ⟨_, -, hmemory⟩ :=
        Option.map_eq_some_iff.mp ((Core.execute_of_isLocal hlocal zeros).symm.trans hexec)
      cases hmemory
      exact .step (listing.fetch name) hrip hlocal hexec (ih hrest)

theorem Quiet.eq_of_halted (h : Quiet image final n c) (hhalted : c.halted = true) :
    final = c := by
  cases h with
  | refl => rfl
  | step => cases hhalted

end Quiet

/-! ### Several processors -/

variable {ι : Type} [DecidableEq ι]

/-- Processors that share memory. -/
structure System (ι : Type) where
  memory : ByteMap
  cores : ι → Core

/-- A processor executes its next instruction, or its oldest store reaches memory. -/
inductive Action (ι : Type) where
  | execute (core : ι)
  | drain (core : ι)
  deriving DecidableEq, Repr

/-- One action, if it can happen. -/
def System.step (images : ι → Image) (s : System ι) : Action ι → System ι
  | .execute i =>
      match (s.cores i).advance (images i) s.memory with
      | some (core, memory) => ⟨memory, Function.update s.cores i core⟩
      | none => s
  | .drain i =>
      match (s.cores i).buffer with
      | (a, v) :: rest =>
          ⟨Function.update s.memory a v,
            Function.update s.cores i { s.cores i with buffer := rest }⟩
      | [] => s

end MiniHypervisor.X86
