import Chip8.Proofs.Preparation
import Chip8.Proofs.Reduction

/-!
# Runs of host calls

A host makes cycles and ticks, resets the machine, places programs and data in its memory, moves
keys and writes pixels, in any order, and goes on after a call that failed.  A property that
survives each of the few changes that these calls are made of, and every cycle, survives all calls
(`Lasting.keeps_act`).

The bounds of a machine are such a property.  So the machine also does what one without the
reduction of the program counter would do, call by call (`host_calls_keep_bounds`).
-/

namespace Chip8

set_option autoImplicit false

/-! ## Host calls -/

/-- What a host does with a machine between two looks at it.  `sourceChanges` is what the tick
source does by itself: a clock goes on, or another source is put in its place. -/
inductive HostCall where
  | step
  | tick
  | updateTimers
  | syncTimers
  | reset
  | loadProgram (program : List UInt8)
  | changeKeypad (change : Keypad → Except Fault Keypad)
  | setPixel (row column : Int) (on : Bool)
  | clearScreen
  | write (address datum : Int)
  | load (base : Int) (block : List Int)
  | sourceChanges (change : TickSource → TickSource)

namespace HostCall

/-- The call makes a cycle. -/
def IsCycle : HostCall → Prop
  | step | tick => True
  | _ => False

/-- The call as an action, without its answer. -/
def act : HostCall → Action Machine Unit
  | step => Machine.step >>= fun _ => pure ()
  | tick => Machine.tick >>= fun _ => pure ()
  | updateTimers => Machine.updateTimers
  | syncTimers => Machine.syncTimers
  | reset => Machine.reset
  | loadProgram program => Machine.loadProgram program
  | changeKeypad change => Machine.changeKeypad change
  | setPixel row column on => Machine.setPixel row column on
  | clearScreen => Processor.changeDevices fun d => { d with screen := d.screen.clear }
  | write address datum => Processor.write address datum
  | load base block => Processor.changeMemory fun memory => memory.load base block
  | sourceChanges change => Processor.changeDevices fun d => { d with ticks := change d.ticks }

/-- The call with another reduction of the program counter in its cycle. -/
def actWith (reduction : Int → Int) : HostCall → Action Machine Unit
  | step => Machine.stepWith reduction >>= fun _ => pure ()
  | tick => Machine.stepWith reduction >>= fun _ => Machine.updateTimers
  | call => call.act

/-- What calls leave one after another, each also after a failure. -/
def outcomes (behaviour : HostCall → Action Machine Unit) (m : Machine) :
    List HostCall → List (Outcome Machine Unit)
  | [] => []
  | call :: rest => behaviour call m :: outcomes behaviour (behaviour call m).state rest

end HostCall

namespace Machine

open Processor

variable {capacity : Nat} {width height : Int} {m : Machine}

/-! ## What host calls keep -/

/-- A property of machines that is kept by whatever host calls do besides a cycle. -/
structure Lasting (property : Machine → Prop) : Prop where
  restart : ∀ m, property m → property (chip8.restart m)
  elapse : ∀ m count, property m → property { m with registers := m.registers.elapse count }
  clear : ∀ m, property m → property { m with memory := m.memory.clear }
  loadBytes : ∀ m base bytes memory, property m → m.memory.loadBytes base bytes = .ok memory →
    property { m with memory := memory }
  write : ∀ m address datum memory, property m → m.memory.write address datum = .ok memory →
    property { m with memory := memory }
  screen : ∀ m screen, property m →
    screen.Sized m.devices.screen.width m.devices.screen.height →
    property { m with devices.screen := screen }
  keypad : ∀ m keypad, property m → property { m with devices.keypad := keypad }
  ticks : ∀ m source, property m → property { m with devices.ticks := source }

section Lasting

variable {property : Machine → Prop} (lasting : Lasting property)

include lasting

theorem Lasting.keeps_updateTimers : Action.Keeps property updateTimers := by
  have anything : Action.Keeps (fun _ => True) TickSource.take := fun _ _ => trivial
  refine .bind (.within anything (fun _ _ => trivial) ?_) fun count => .update ?_
  · intro m source held _
    exact lasting.ticks m source held
  · intro m held
    exact lasting.elapse m count held

theorem Lasting.keeps_loadBytes (base : Int) (bytes : List UInt8) :
    Action.Keeps property (changeMemory fun memory => memory.loadBytes base bytes) :=
  keeps_changeMemory fun m later held loaded => lasting.loadBytes m base bytes later held loaded

theorem Lasting.keeps_load (base : Int) (block : List Int) :
    Action.Keeps property (changeMemory fun memory => memory.load base block) := by
  refine keeps_changeMemory fun m later held loaded => ?_
  unfold Memory.load at loaded
  split at loaded
  · exact lasting.loadBytes m base _ later held loaded
  · cases loaded

theorem Lasting.keeps_prepareMemory : Action.Keeps property prepareMemory :=
  .bind (.update lasting.clear) fun _ => .bind (lasting.keeps_loadBytes _ _) fun _ =>
    lasting.keeps_loadBytes _ _

theorem Lasting.keeps_reset : Action.Keeps property reset := by
  refine .bind (.update lasting.restart) fun _ => .bind lasting.keeps_prepareMemory
    fun _ => .update fun m held => ?_
  have restarted := lasting.ticks m m.devices.ticks.restart held
  exact lasting.screen _ m.devices.screen.clear restarted ⟨rfl, rfl⟩

theorem Lasting.keeps_loadProgram (program : List UInt8) :
    Action.Keeps property (loadProgram program) := by
  unfold loadProgram
  split
  · exact fun _ held => held
  · exact .bind (lasting.keeps_loadBytes _ _) fun _ _ held => held

theorem Lasting.keeps_setPixel (row column : Int) (on : Bool) :
    Action.Keeps property (setPixel row column on) := by
  intro m held
  unfold setPixel
  cases written : m.devices.screen.set row column on with
  | error fault => exact held
  | ok screen =>
      have sized : screen.Sized m.devices.screen.width m.devices.screen.height :=
        Framebuffer.Sized.set ⟨rfl, rfl⟩ written
      exact lasting.screen m screen held sized

theorem Lasting.keeps_changeKeypad (change : Keypad → Except Fault Keypad) :
    Action.Keeps property (changeKeypad change) := by
  intro m held
  unfold changeKeypad
  cases change m.devices.keypad with
  | error fault => exact held
  | ok keypad => exact lasting.keypad m keypad held

theorem Lasting.keeps_tick (cycle : Action.Keeps property step) : Action.Keeps property tick :=
  cycle.bind fun record => lasting.keeps_updateTimers.bind fun _ => .pure record

/-- A call without a cycle keeps every lasting property. -/
theorem Lasting.keeps_act_of_quiet {call : HostCall} (quiet : ¬ call.IsCycle) :
    Action.Keeps property call.act := by
  cases call with
  | step | tick => exact (quiet trivial).elim
  | updateTimers => exact lasting.keeps_updateTimers
  | syncTimers => exact .update fun m held => lasting.ticks m m.devices.ticks.restart held
  | reset => exact lasting.keeps_reset
  | loadProgram program => exact lasting.keeps_loadProgram program
  | changeKeypad change => exact lasting.keeps_changeKeypad change
  | setPixel row column on => exact lasting.keeps_setPixel row column on
  | clearScreen =>
      exact .update fun m held => lasting.screen m m.devices.screen.clear held ⟨rfl, rfl⟩
  | write address datum =>
      exact keeps_changeMemory fun m later held written =>
        lasting.write m address datum later held written
  | load base block => exact lasting.keeps_load base block
  | sourceChanges change =>
      exact .update fun m held => lasting.ticks m (change m.devices.ticks) held

/-- **Every host call keeps a lasting property that cycles keep**, also a call that fails. -/
theorem Lasting.keeps_act (cycle : Action.Keeps property step) (call : HostCall) :
    Action.Keeps property call.act := by
  cases call with
  | step => exact cycle.bind fun _ => .pure ()
  | tick => exact (lasting.keeps_tick cycle).bind fun _ => .pure ()
  | _ => exact lasting.keeps_act_of_quiet id

end Lasting

/-! ## The bounds -/

theorem lasting_bounded : Lasting (Bounded capacity width height) where
  restart := fun _ bounded => { bounded with registers := Registers.bounded_initial }
  elapse := fun _ count bounded => { bounded with registers := bounded.registers.elapse count }
  clear := fun _ bounded => { bounded with memory := bounded.memory.clear }
  loadBytes := fun _ _ _ _ bounded loaded =>
    { bounded with memory := bounded.memory.loadBytes loaded }
  write := fun _ _ _ _ bounded written => { bounded with memory := bounded.memory.write written }
  screen := by
    intro m screen bounded sized
    obtain ⟨wide, high⟩ := bounded.screen
    rw [wide, high] at sized
    exact { bounded with screen := sized }
  keypad := fun _ _ bounded => { bounded with }
  ticks := fun _ _ bounded => { bounded with }

theorem keeps_step (wide : 0 < width) (high : 0 < height) :
    Action.Keeps (Bounded capacity width height) step :=
  fun _ bounded => bounded_step bounded wide high

/-- **Every host call keeps the bounds, also one that fails.** -/
theorem keeps_act (wide : 0 < width) (high : 0 < height) (call : HostCall) :
    Action.Keeps (Bounded capacity width height) call.act :=
  lasting_bounded.keeps_act (keeps_step wide high) call

theorem actWith_of_fixes {reduction : Int → Int} (fixes : Registers.Fixes reduction)
    (bounded : m.Bounded capacity width height) (call : HostCall) :
    call.actWith reduction m = call.act m := by
  have same := stepWith_of_fixes fixes bounded
  cases call with
  | step => exact Action.bind_congr_first same
  | tick =>
      have cycle : (stepWith reduction >>= fun _ => updateTimers) m =
          (step >>= fun _ => updateTimers) m := Action.bind_congr_first same
      rw [HostCall.actWith, cycle, HostCall.act, tick]
      simp only [bind_assoc, pure_bind, bind_pure_unit]
  | _ => rfl

/-! ## Runs -/

theorem bounded_outcomes (wide : 0 < width) (high : 0 < height) (calls : List HostCall)
    (bounded : m.Bounded capacity width height) :
    ∀ outcome ∈ HostCall.outcomes HostCall.act m calls,
      outcome.state.Bounded capacity width height := by
  induction calls generalizing m with
  | nil =>
      intro outcome inside
      cases inside
  | cons call rest ih =>
      have kept := keeps_act wide high call m bounded
      exact List.forall_mem_cons.mpr ⟨kept, ih kept⟩

theorem outcomes_of_fixes {reduction : Int → Int} (fixes : Registers.Fixes reduction)
    (wide : 0 < width) (high : 0 < height) (calls : List HostCall)
    (bounded : m.Bounded capacity width height) :
    HostCall.outcomes (HostCall.actWith reduction) m calls =
      HostCall.outcomes HostCall.act m calls := by
  induction calls generalizing m with
  | nil => rfl
  | cons call rest ih =>
      rw [HostCall.outcomes, HostCall.outcomes, actWith_of_fixes fixes bounded call,
        ih (keeps_act wide high call m bounded)]

/-- **Whatever a host does with a new machine, it stays in its bounds**, and every call has the
outcome that it would have without the reduction of the program counter. -/
theorem host_calls_keep_bounds {memory : Memory} (cells : memory.size = 4096)
    (devices : Devices) (wide : 0 < devices.screen.width)
    (high : 0 < devices.screen.height) :
    ∃ m, Machine.create memory devices = .ok m ∧
      m.Bounded memory.stack.capacity devices.screen.width devices.screen.height ∧
      ∀ calls : List HostCall,
        (∀ outcome ∈ HostCall.outcomes HostCall.act m calls,
          outcome.state.Bounded memory.stack.capacity devices.screen.width
            devices.screen.height) ∧
        HostCall.outcomes (HostCall.actWith id) m calls =
          HostCall.outcomes HostCall.act m calls := by
  obtain ⟨m, created, bounded⟩ := create_of_cells cells devices
  refine ⟨m, created, bounded, fun calls => ⟨?_, ?_⟩⟩
  · exact bounded_outcomes wide high calls bounded
  · exact outcomes_of_fixes Registers.fixes_id wide high calls bounded

/-- The machine that is made when nothing else is asked for. -/
theorem default_machine_keeps_bounds :
    ∃ m, Machine.create defaultMemory
        ⟨defaultScreen, Keypad.idle, .listed (fun _ => 0) 0, .everyCycle⟩ = .ok m ∧
      ∀ calls : List HostCall, ∀ outcome ∈ HostCall.outcomes HostCall.act m calls,
        outcome.state.Bounded 16 64 32 := by
  obtain ⟨m, created, _, runs⟩ := host_calls_keep_bounds size_defaultMemory
    ⟨defaultScreen, Keypad.idle, .listed (fun _ => 0) 0, .everyCycle⟩ (by decide) (by decide)
  exact ⟨m, created, fun calls => (runs calls).1⟩

end Machine

end Chip8
