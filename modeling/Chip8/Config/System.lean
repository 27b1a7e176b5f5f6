import Chip8.CallStack
import Chip8.HostKeys

/-!
# System configurations

What can be chosen about a system, with the choices made for whoever does not choose:
the pace of the machine, the source of timer ticks, the depth of the call stack, a seed
for the random bytes, the look of the screen, the host keys, breakpoints and a program.
-/

namespace Chip8

set_option autoImplicit false

/-- Where timer ticks come from. -/
inductive TimerMode where
  /-- From a clock. -/
  | realtime
  /-- One for every cycle. -/
  | cycle
  deriving DecidableEq, Repr

/-- The name of a timer mode in a configuration. -/
def TimerMode.name : TimerMode → String
  | realtime => "realtime"
  | cycle => "cycle"

/-- The choices about the machine. -/
structure MachineConfig where
  cyclesPerSecond : Nat
  frameRate : Nat
  timerMode : TimerMode
  stackDepth : Nat
  /-- Without a seed the random bytes are not predictable. -/
  seed : Option Int
  deriving DecidableEq, Repr

/-- The cycles between two frames, at least one. -/
def MachineConfig.cyclesPerFrame (config : MachineConfig) : Nat :=
  max 1 (config.cyclesPerSecond / config.frameRate)

/-- The choices about the look of the screen. -/
structure DisplayConfig where
  scale : Nat
  foreground : String
  background : String
  deriving DecidableEq, Repr

/-- All choices. -/
structure SystemConfig where
  machine : MachineConfig
  display : DisplayConfig
  keymap : Keymap
  breakpoints : List Int
  rom : Option String
  deriving DecidableEq, Repr

namespace SystemConfig

/-- The host keys of a system that does not choose others: four rows of four, at the left
of the keyboard, for the rows `123C`, `456D`, `789E` and `A0BF` of the keypad. -/
def defaultKeymap : Keymap :=
  [("1", 0x1), ("2", 0x2), ("3", 0x3), ("4", 0xC),
    ("q", 0x4), ("w", 0x5), ("e", 0x6), ("r", 0xD),
    ("a", 0x7), ("s", 0x8), ("d", 0x9), ("f", 0xE),
    ("z", 0xA), ("x", 0x0), ("c", 0xB), ("v", 0xF)]

/-- A system about which nothing was chosen. -/
def standard : SystemConfig where
  machine := ⟨700, 60, .realtime, CallStack.defaultCapacity, none⟩
  display := ⟨10, "#FFFFFF", "#000000"⟩
  keymap := defaultKeymap
  breakpoints := []
  rom := none

end SystemConfig

end Chip8
