import Chip8.Action
import Chip8.Instruction
import Chip8.Memory

/-!
# The instruction cycle

A processor has registers, a memory, a count of finished cycles and devices.  What
a word means and what an instruction does is the matter of an architecture; the
order of a cycle is the same for all of them:

* what the memory log holds from outside the cycle is dropped,
* the word at the program counter is fetched and decoded,
* the program counter moves on by the two bytes of the word, modulo 65536,
* the instruction is executed,
* the cycle is counted and recorded, with the accesses it made.

There is no halted state.  A cycle ends with a record or with a fault, and a fault
leaves the processor as it is at that moment.
-/

namespace Chip8

set_option autoImplicit false

/-- A processor with registers of type `ρ` and devices of type `π`. -/
structure Processor (ρ π : Type) where
  registers : ρ
  memory : Memory
  cycles : Nat
  devices : π

/-- The record of one cycle. -/
structure Snapshot (ρ : Type) where
  /-- The registers after the cycle. -/
  registers : ρ
  operation : Operation
  /-- The number of the cycle, counted from one. -/
  cycle : Nat
  /-- The accesses of the cycle in order, the fetch first. -/
  accesses : List Access
  deriving DecidableEq, Repr

/-- The instruction of a cycle on one line. -/
def Snapshot.text {ρ : Type} (snapshot : Snapshot ρ) : String := snapshot.operation.text

/-- What a processor needs to know about its registers and instructions, whose
decoded form is of type `ω`. -/
structure Architecture (ρ π ω : Type) where
  initial : ρ
  counter : ρ → Int
  setCounter : Int → ρ → ρ
  decode : Nat → ω
  execute : ω → Action (Processor ρ π) Unit
  describe : ω → Operation

namespace Processor

variable {ρ π : Type}

/-- Drops the log of the memory. -/
def dropLog (p : Processor ρ π) : Processor ρ π := { p with memory := p.memory.takeLog.2 }

/-- An action on the memory that either fails or gives an answer and a new memory. -/
def withMemory {α : Type} (f : Memory → Except Fault (α × Memory)) :
    Action (Processor ρ π) α := fun p =>
  match f p.memory with
  | .ok (a, memory) => ⟨{ p with memory := memory }, .ok a, []⟩
  | .error fault => ⟨p, .error fault, []⟩

/-- An action on the memory that either fails or gives a new memory. -/
def changeMemory (f : Memory → Except Fault Memory) : Action (Processor ρ π) Unit := fun p =>
  match f p.memory with
  | .ok memory => ⟨{ p with memory := memory }, .ok (), []⟩
  | .error fault => ⟨p, .error fault, []⟩

/-- Reads the window at an address. -/
def fetch (address : Int) : Action (Processor ρ π) Nat :=
  withMemory fun memory => memory.fetch address

/-- Stores a datum at an address. -/
def write (address datum : Int) : Action (Processor ρ π) Unit :=
  changeMemory fun memory => memory.write address datum

/-- Fails unless a range of cells exists. -/
def checkRange (address length : Int) : Action (Processor ρ π) Unit := fun p =>
  ⟨p, p.memory.checkRange address length, []⟩

/-- Changes the registers. -/
def changeRegisters (f : ρ → ρ) : Action (Processor ρ π) Unit :=
  Action.update fun p => { p with registers := f p.registers }

/-- Changes the devices. -/
def changeDevices (f : π → π) : Action (Processor ρ π) Unit :=
  Action.update fun p => { p with devices := f p.devices }

end Processor

namespace Architecture

variable {ρ π ω : Type}

/-- Moves the program counter on by the length of a word. -/
def advance (a : Architecture ρ π ω) (registers : ρ) : ρ :=
  a.setCounter ((a.counter registers + 2) % 65536) registers

/-- Counts the cycle and takes its record. -/
def record (a : Architecture ρ π ω) (decoded : ω) : Action (Processor ρ π) (Snapshot ρ) :=
  fun p =>
    ⟨{ p with cycles := p.cycles + 1, memory := p.memory.takeLog.2 },
      .ok ⟨p.registers, a.describe decoded, p.cycles + 1, p.memory.log⟩, []⟩

/-- One cycle. -/
def step (a : Architecture ρ π ω) : Action (Processor ρ π) (Snapshot ρ) := do
  Action.update Processor.dropLog
  let p ← Action.state
  let word ← Processor.fetch (a.counter p.registers)
  let decoded := a.decode word
  Processor.changeRegisters a.advance
  a.execute decoded
  a.record decoded

/-- The registers as they are at the start, and no cycle counted. -/
def restart (a : Architecture ρ π ω) (p : Processor ρ π) : Processor ρ π :=
  { p with registers := a.initial, cycles := 0 }

end Architecture

end Chip8
