import Chip8.Framebuffer
import Chip8.Font
import Chip8.Keypad
import Chip8.Processor
import Chip8.Random
import Chip8.Registers
import Chip8.Timer

/-!
# The machine

A processor with sixteen registers and four devices: a screen, a keypad, a source of
random bytes and a source of timer ticks.  A machine starts with all cells zero
except the built-in glyphs.
-/

namespace Chip8

set_option autoImplicit false

/-- What a machine has besides registers and memory. -/
structure Devices where
  screen : Framebuffer
  keypad : Keypad
  random : RandomSource
  ticks : TickSource

/-- A processor with the registers and devices of this machine. -/
abbrev Machine : Type := Processor Registers Devices

namespace Machine

/-- The memory of a machine that does not ask for another. -/
def defaultMemory : Memory :=
  ⟨Array.replicate Memory.defaultSize 0, ⟨CallStack.defaultCapacity, []⟩, []⟩

/-- The screen of a machine that does not ask for another. -/
def defaultScreen : Framebuffer :=
  Framebuffer.blank Framebuffer.defaultWidth Framebuffer.defaultHeight

/-- The longest program: what lies from its start to the end of the memory that
machines usually have. -/
def programLimit : Nat := Memory.defaultSize - Registers.programStart

/-- Clears the memory and places the glyphs. -/
def prepareMemory : Action Machine Unit := do
  Action.update fun m => { m with memory := m.memory.clear }
  Processor.changeMemory fun memory => memory.loadBytes Font.smallStart Font.small
  Processor.changeMemory fun memory => memory.loadBytes Font.largeStart Font.large

/-- A machine that was just switched on.  The memory has to hold the glyphs. -/
def create (memory : Memory) (devices : Devices) : Except Fault Machine :=
  let o := prepareMemory ⟨Registers.initial, memory, 0, devices⟩
  match o.result with
  | .ok () => .ok o.state
  | .error fault => .error fault

/-! ## Register names -/

/-- The names and widths in bits of the registers, in the groups in which they are
shown. -/
def layout : List (String × List (String × Nat)) :=
  let general (first : Nat) : List (String × Nat) :=
    (List.range 8).map fun k => (Instruction.register ((first + k : Nat) : Int), 8)
  [("V0-V7", general 0), ("V8-VF", general 8), ("Pointers", [("PC", 16), ("I", 16), ("SP", 8)]),
    ("Timers", [("DT", 8), ("ST", 8)])]

/-- The names and values of the registers.  The depth of the call stack counts as
one. -/
def namedValues (m : Machine) : List (String × Int) :=
  (List.finRange 16).map
      (fun k => (Instruction.register (Int.ofNat k.val), Int.ofNat (m.registers.v.get k))) ++
    [("PC", m.registers.pc), ("I", m.registers.index), ("SP", (m.memory.stack.depth : Int)),
      ("DT", m.registers.delay), ("ST", m.registers.sound)]

/-- Whether the sound timer is running. -/
def sounding (m : Machine) : Bool := 0 < m.registers.sound

end Machine

end Chip8
