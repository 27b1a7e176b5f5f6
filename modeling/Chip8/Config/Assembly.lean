import Chip8.Config.System
import Chip8.Debugger.Session
import Chip8.Rom

/-!
# Building a system

A configuration is made into a machine with its program, and the machine is put under a
debugger with the configured breakpoints.  What a configuration leaves open comes from the
host: random bytes where there is no seed, and the present reading of a clock.
-/

namespace Chip8

set_option autoImplicit false

/-- What a host contributes to a system. -/
structure Host where
  files : Files
  /-- The random bytes of a machine without a seed. -/
  random : RandomSource
  /-- The present reading of the clock, in seconds. -/
  clock : ClockTime

namespace SystemConfig

/-- The ticks of a machine. -/
def ticks (config : MachineConfig) (host : Host) : Except Fault TickSource :=
  match config.timerMode with
  | .cycle => .ok .everyCycle
  | .realtime => TickSource.ofClock TickSource.defaultRate host.clock

/-- The devices of a machine. -/
def devices (config : MachineConfig) (host : Host) : Except Fault Devices :=
  (ticks config host).map fun ticks =>
    { screen := Machine.defaultScreen
      keypad := Keypad.idle
      random := (config.seed.map RandomSource.seeded).getD host.random
      ticks := ticks }

/-- The machine before its program is loaded. -/
def bareMachine (config : MachineConfig) (host : Host) : Except Fault Machine := do
  let memory ← Memory.create Memory.defaultSize config.stackDepth
  Machine.create memory (← devices config host)

/-- The machine of a configuration, with its program. -/
def buildMachine (config : SystemConfig) (host : Host) : Action Unit Machine := fun _ =>
  match bareMachine config.machine host with
  | .error fault => ⟨(), .error fault, []⟩
  | .ok machine =>
    match config.rom with
    | none | some "" => ⟨(), .ok machine, []⟩
    | some path =>
      let o := Machine.loadRom host.files path machine
      ⟨(), o.result.map fun _ => o.state, o.events⟩

/-- The debugger of a configuration on a machine. -/
def buildSession (config : SystemConfig) (machine : Machine) : Session :=
  config.breakpoints.foldl (fun s address => s.addBreakpoint (.atAddress address))
    (Session.ofMachine machine (some Session.defaultHistoryLimit))

end SystemConfig

end Chip8
