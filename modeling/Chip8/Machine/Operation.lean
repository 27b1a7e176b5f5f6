import Chip8.Disassembly
import Chip8.Machine.Execute

/-!
# Operating the machine

Cycles, ticks, reset and loading a program: what a host does with a machine.

A tick is a cycle followed by a look at the source of timer ticks.  The record of the
cycle is taken before the timers go down.
-/

namespace Chip8

set_option autoImplicit false

/-- The architecture of this machine.  A word without an instruction does nothing and
is reported. -/
def chip8 : Architecture Registers Devices Opcode where
  initial := Registers.initial
  counter := fun r => r.pc
  setCounter := fun pc r => { r with pc := pc }
  decode := fun word => Opcode.decode word
  execute := fun op => do
    let known ← Machine.perform op
    if known then pure ()
    else do
      let m ← Action.state
      Action.report (.unmappedWord op.word.toNat m.registers.retreat.pc)
  describe := Operation.ofOpcode

namespace Machine

/-- One cycle. -/
def step : Action Machine (Snapshot Registers) := chip8.step

/-- Takes the timer ticks that are due. -/
def updateTimers : Action Machine Unit := do
  let ticks ← Action.within (fun m => m.devices.ticks)
    (fun source (m : Machine) => { m with devices := { m.devices with ticks := source } })
    TickSource.take
  Processor.changeRegisters (·.elapse ticks)

/-- One cycle and the timer ticks due after it. -/
def tick : Action Machine (Snapshot Registers) := do
  let snapshot ← step
  updateTimers
  pure snapshot

/-- Forgets the timer ticks that were due, after a pause. -/
def syncTimers : Action Machine Unit :=
  Processor.changeDevices fun d => { d with ticks := d.ticks.restart }

/-- Registers, cycle count, memory, stack and screen as at the start.  Keys and random
bytes go on as they are. -/
def reset : Action Machine Unit := do
  Action.update chip8.restart
  prepareMemory
  Processor.changeDevices fun d => { d with screen := d.screen.clear, ticks := d.ticks.restart }

/-- Places a program in memory. -/
def loadProgram (program : List UInt8) : Action Machine Unit := do
  if programLimit < program.length then
    Action.fail (.romTooLong program.length programLimit)
  else do
    Processor.changeMemory fun memory => memory.loadBytes Registers.programStart program
    Action.report (.programLoaded program.length Registers.programStart)

/-- Executes a word that is put at the program counter first, without a trace in the
log. -/
def stepWord (word : Int) : Action Machine (Snapshot Registers) := do
  let m ← Action.state
  Processor.changeMemory fun memory => memory.load m.registers.pc [word / 256, word % 256]
  step

/-- Writes a pixel of the screen. -/
def setPixel (row column : Int) (on : Bool) : Action Machine Unit := fun m =>
  match m.devices.screen.set row column on with
  | .ok screen => ⟨{ m with devices := { m.devices with screen := screen } }, .ok (), []⟩
  | .error fault => ⟨m, .error fault, []⟩

/-- Changes the keypad. -/
def changeKeypad (f : Keypad → Except Fault Keypad) : Action Machine Unit := fun m =>
  match f m.devices.keypad with
  | .ok keypad => ⟨{ m with devices := { m.devices with keypad := keypad } }, .ok (), []⟩
  | .error fault => ⟨m, .error fault, []⟩

end Machine

end Chip8
