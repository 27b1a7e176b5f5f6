import Chip8.Config.Assembly
import Chip8.Proofs.AcceptedConfigurations
import Chip8.Proofs.Preparation
import Mathlib.Data.List.Induction

/-!
# Building what was accepted

A configuration is read in one place and made into a machine in another, where the memory, the call
stack and the clock make demands of their own.  An accepted configuration meets them all, so that
building one that names no program never fails, on any host (`accepted_config_builds`).

What is built is what was asked for.  The configured addresses become breakpoints, and since equal
breakpoints are one, each address gets its own where it first occurs.
-/

namespace Chip8

set_option autoImplicit false

/-! ## The breakpoints -/

namespace Session

theorem machine_addBreakpoint (s : Session) (b : Breakpoint) :
    (s.addBreakpoint b).machine = s.machine := by
  unfold addBreakpoint
  split <;> rfl

theorem breakpoints_addBreakpoint (s : Session) (b : Breakpoint) :
    (s.addBreakpoint b).breakpoints =
      if b ∈ s.breakpoints then s.breakpoints else s.breakpoints ++ [b] := by
  unfold addBreakpoint
  split <;> rfl

end Session

theorem Breakpoint.atAddress_injective {address other : Int}
    (same : atAddress address = atAddress other) : address = other :=
  Option.some.inj (congrArg Breakpoint.value same)

theorem eraseDups_concat (addresses : List Int) (last : Int) :
    (addresses ++ [last]).eraseDups =
      if last ∈ addresses then addresses.eraseDups else addresses.eraseDups ++ [last] := by
  rw [List.eraseDups_append]
  split
  next inside => simp [List.removeAll, inside]
  next outside => simp [List.removeAll, outside, List.eraseDups_cons]

namespace SystemConfig

theorem machine_buildSession (config : SystemConfig) (machine : Machine) :
    (config.buildSession machine).machine = machine := by
  rw [buildSession]
  induction config.breakpoints using List.reverseRecOn with
  | nil => rfl
  | append_singleton addresses last ih =>
      rw [List.foldl_concat, Session.machine_addBreakpoint, ih]

/-- **Each configured address gets one breakpoint, in the order in which they first occur.** -/
theorem breakpoints_buildSession (config : SystemConfig) (machine : Machine) :
    (config.buildSession machine).breakpoints =
      config.breakpoints.eraseDups.map Breakpoint.atAddress := by
  rw [buildSession]
  induction config.breakpoints using List.reverseRecOn with
  | nil => rfl
  | append_singleton addresses last ih =>
      have there_iff : Breakpoint.atAddress last ∈ addresses.eraseDups.map Breakpoint.atAddress ↔
          last ∈ addresses := by
        rw [List.mem_map_of_injective fun _ _ => Breakpoint.atAddress_injective, List.mem_eraseDups]
      rw [List.foldl_concat, Session.breakpoints_addBreakpoint, ih, eraseDups_concat]
      by_cases inside : last ∈ addresses
      · rw [if_pos inside, if_pos (there_iff.mpr inside)]
      · rw [if_neg inside, if_neg fun there => inside (there_iff.mp there), List.map_append]
        rfl

end SystemConfig

/-! ## The machine -/

/-- The clock of every host drives a machine at the standard rate. -/
theorem TickSource.ofClock_defaultRate (reading : ClockTime) :
    ∃ ticks, ofClock defaultRate reading = .ok (.clock ticks) := by
  have one : (1 : Int).natAbs < Decimal.beyondDoubles := by decide +kernel
  have sixty : (60 : Int).natAbs < Decimal.beyondDoubles := by decide +kernel
  refine ⟨⟨.real (Float.ofInt 1 / Float.ofInt 60), reading, reading⟩, ?_⟩
  simp only [ofClock, defaultRate, ClockTime.isPositive, ClockTicks.atRate, Seconds.div,
    Seconds.ofInt, ClockTime.onDoubles, ClockTime.toDouble, if_pos one, if_pos sixty]
  rfl

theorem Memory.create_defaultSize {capacity : Nat} (room : 0 < capacity) :
    ∃ memory, Memory.create Memory.defaultSize capacity = .ok memory ∧
      memory.size = 4096 ∧ memory.stack.capacity = capacity := by
  refine ⟨⟨Array.replicate defaultSize 0, ⟨capacity, []⟩, []⟩, ?_, Array.size_replicate, rfl⟩
  rw [create, if_pos (by decide), CallStack.create, if_pos (Int.natCast_pos.mpr room)]
  rfl

namespace SystemConfig

variable {config : SystemConfig}

/-- The machine and the session that a configuration asks for. -/
structure Builds (config : SystemConfig) (machine : Machine) (session : Session) : Prop where
  cells : machine.memory.size = 4096
  capacity : machine.memory.stack.capacity = config.machine.stackDepth
  everyCycle_iff : machine.devices.ticks = .everyCycle ↔ config.machine.timerMode = .cycle
  registers : machine.registers = Registers.initial
  machine_eq : session.machine = machine
  breakpoints : session.breakpoints = config.breakpoints.eraseDups.map Breakpoint.atAddress

theorem exists_devices (config : MachineConfig) (host : Host) :
    ∃ built, devices config host = .ok built ∧
      (built.ticks = .everyCycle ↔ config.timerMode = .cycle) := by
  unfold devices ticks
  cases config.timerMode with
  | cycle => exact ⟨_, rfl, iff_of_true rfl rfl⟩
  | realtime =>
      obtain ⟨clock, of_clock⟩ := TickSource.ofClock_defaultRate host.clock
      rw [of_clock]
      exact ⟨_, rfl, iff_of_false nofun nofun⟩

/-- Without a program the machine and the session of a sound configuration are built. -/
theorem exists_bareMachine (sound : config.machine.Sound) (host : Host) :
    ∃ machine, bareMachine config.machine host = .ok machine ∧
      config.Builds machine (config.buildSession machine) := by
  obtain ⟨built, devices_built, everyCycle_iff⟩ := exists_devices config.machine host
  obtain ⟨memory, memory_built, cells, capacity⟩ := Memory.create_defaultSize sound.stackDepth
  refine ⟨⟨Registers.initial, memory.prepared, 0, built⟩, ?_, ?_⟩
  · rw [bareMachine, memory_built, devices_built]
    exact Machine.create_of_size (by omega) built
  · exact
      { cells := by rw [Memory.size_prepared, cells]
        capacity := by rw [Memory.stack_prepared]; exact capacity
        everyCycle_iff := everyCycle_iff
        registers := rfl
        machine_eq := machine_buildSession config _
        breakpoints := breakpoints_buildSession config _ }

/-- A configuration names no program; an empty name is none. -/
def NamesNoProgram (config : SystemConfig) : Prop := config.rom = none ∨ config.rom = some ""

theorem buildMachine_of_no_program (no_program : config.NamesNoProgram) {host : Host}
    {machine : Machine} (built : bareMachine config.machine host = .ok machine) :
    config.buildMachine host () = ⟨(), .ok machine, []⟩ := by
  rcases no_program with absent | empty
  · rw [buildMachine, built, absent]
  · rw [buildMachine, built, empty]
    rfl

/-! ## Accepted configurations -/

/-- What the parts of the system demand of a configuration. -/
structure Sound (config : SystemConfig) : Prop where
  cyclesPerSecond : 0 < config.machine.cyclesPerSecond
  frameRate : 0 < config.machine.frameRate
  stackDepth : 0 < config.machine.stackDepth
  scale : 0 < config.display.scale
  cyclesPerFrame : 1 ≤ config.machine.cyclesPerFrame
  timerMode : config.machine.timerMode.name = "realtime" ∨ config.machine.timerMode.name = "cycle"
  keys : ∀ entry ∈ config.keymap, 0 ≤ entry.2 ∧ entry.2 ≤ 15
  defaults : ∀ character ∈ defaultKeymap.map Prod.fst, character ∈ config.keymap.map Prod.fst

theorem Accepts.sound {d : Document} (accepts : Accepts d config) : config.Sound where
  cyclesPerSecond := accepts.machine.cyclesPerSecond
  frameRate := accepts.machine.frameRate
  stackDepth := accepts.machine.stackDepth
  scale := accepts.scale
  cyclesPerFrame := Nat.le_max_left _ _
  timerMode := by
    cases config.machine.timerMode with
    | realtime => exact .inl rfl
    | cycle => exact .inr rfl
  keys := fun entry inside => (accepts.keymap.keys entry inside).imp_right Int.le_of_lt_add_one
  defaults := fun character inside => (accepts.keymap.mem_names_iff character).mpr (.inl inside)

/-- **Every accepted configuration is sound, and if it names no program, it is built.** -/
theorem accepted_config_builds {d : Document} (accepted : (ofDocument d ()).result = .ok config) :
    config.Sound ∧ (config.NamesNoProgram → ∀ host, ∃ machine,
      config.buildMachine host () = ⟨(), .ok machine, []⟩ ∧
        config.Builds machine (config.buildSession machine)) := by
  have accepts : Accepts d config := ensures_ofDocument d () config accepted
  refine ⟨accepts.sound, fun no_program host => ?_⟩
  obtain ⟨machine, built, builds⟩ := exists_bareMachine accepts.machine host
  exact ⟨machine, buildMachine_of_no_program no_program built, builds⟩

/-- A configuration with numbers as text, and with one address twice. -/
def twicePaused : Document :=
  ⟨.map
    [(.text "machine",
        .map [(.text "timer_mode", .text "cycle"), (.text "stack_depth", .text "0x20")]),
      (.text "debug", .map [(.text "breakpoints", .list [.int 516, .text "512", .text "0x204"])])],
    #[]⟩

/-- Its machine is built on every host, and stops at each of its two addresses once. -/
theorem twicePaused_builds :
    ∃ config, (ofDocument twicePaused ()).result = .ok config ∧ config.Sound ∧
      ∀ host, ∃ machine, config.buildMachine host () = ⟨(), .ok machine, []⟩ ∧
        machine.memory.stack.capacity = 32 ∧ machine.devices.ticks = .everyCycle ∧
        (config.buildSession machine).breakpoints = [.atAddress 516, .atAddress 512] := by
  have read : (ofDocument twicePaused ()).result = .ok
      { standard with
        machine := ⟨700, 60, .cycle, 32, none⟩
        breakpoints := [516, 512, 516] } := by rfl
  obtain ⟨sound, builds_on⟩ := accepted_config_builds read
  refine ⟨_, read, sound, fun host => ?_⟩
  obtain ⟨machine, built, builds⟩ := builds_on (.inl rfl) host
  exact ⟨machine, built, builds.capacity, builds.everyCycle_iff.mpr rfl, builds.breakpoints⟩

end SystemConfig

end Chip8
