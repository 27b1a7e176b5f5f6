import Chip8.Proofs.LoggedReads
import Chip8.Rom

/-!
# Machines that are alike

Two machines are alike if all of them is the same but for the sources of random bytes and timer
ticks, which only have to give the same (`Alike`).  An action goes in step on such machines: it has
the same result, a fault included, and leaves machines that are alike (`InStep`).

This is kept by sequences (`InStep.bind`), and holds of every action that is put together from the
operations of a machine (`Composed.inStep`), and so of a cycle, a tick, and everything else that a
host does with a machine.  Events are not compared, as a clock reports what a list of numbers does
not.
-/

namespace Chip8.Machine

set_option autoImplicit false

open Processor

/-- Two machines differ at most in their sources, and these are alike. -/
structure Alike (likeness : Likeness) (m other : Machine) : Prop extends LooksLike m other where
  memory : m.memory = other.memory
  cycles : m.cycles = other.cycles
  random : likeness.random m.devices.random other.devices.random
  ticks : likeness.ticks m.devices.ticks other.devices.ticks

/-- On machines that are alike an action has the same result, and leaves machines that are alike. -/
def InStep (likeness : Likeness) {α : Type} (action : Action Machine α) : Prop :=
  ∀ ⦃m other : Machine⦄, Alike likeness m other →
    (action m).result = (action other).result ∧ Alike likeness (action m).state (action other).state

variable {likeness : Likeness} {α β : Type}

/-! ## Sequences and single operations -/

theorem InStep.pure (answer : α) : InStep likeness (Pure.pure answer : Action Machine α) :=
  fun _ _ alike => ⟨rfl, alike⟩

theorem InStep.fail (fault : Fault) : InStep likeness (Action.fail fault : Action Machine α) :=
  fun _ _ alike => ⟨rfl, alike⟩

theorem InStep.report (event : Event) : InStep likeness (Action.report event) :=
  fun _ _ alike => ⟨rfl, alike⟩

theorem InStep.ofExcept (answer : Except Fault α) :
    InStep likeness (Action.ofExcept answer : Action Machine α) :=
  fun _ _ alike => ⟨rfl, alike⟩

theorem InStep.bind {first : Action Machine α} {next : α → Action Machine β}
    (first_goes : InStep likeness first) (next_goes : ∀ answer, InStep likeness (next answer)) :
    InStep likeness (first >>= next) := by
  intro m other alike
  obtain ⟨same_result, middle_alike⟩ := first_goes alike
  rcases ran : first m with ⟨middle, result, events⟩
  rcases ran_too : first other with ⟨other_middle, other_result, reported⟩
  rw [ran, ran_too] at same_result middle_alike
  cases result with
  | error fault =>
      cases same_result
      rw [Action.bind_of_error ran, Action.bind_of_error ran_too]
      exact ⟨rfl, middle_alike⟩
  | ok answer =>
      cases same_result
      rw [Action.bind_of_events ran, Action.bind_of_events ran_too]
      exact next_goes answer middle_alike

/-- What comes next may depend on what the machine shows, which is the same in machines that are
alike. -/
theorem InStep.look {next : Machine → Action Machine α} (next_goes : ∀ m, InStep likeness (next m))
    (visible : ∀ m other, LooksLike m other → next m = next other) :
    InStep likeness (Action.state >>= next) := by
  intro m other alike
  rw [Action.state_bind, Action.state_bind, ← visible m other alike.toLooksLike]
  exact next_goes m alike

theorem inStep_withMemory (change : Memory → Except Fault (α × Memory)) :
    InStep likeness (withMemory change) := by
  intro m other alike
  rcases changed : change m.memory with fault | ⟨answer, memory⟩
  · rw [withMemory_of_error changed, withMemory_of_error (alike.memory ▸ changed)]
    exact ⟨rfl, alike⟩
  · rw [withMemory_of_ok changed, withMemory_of_ok (alike.memory ▸ changed)]
    exact ⟨rfl, { alike with memory := rfl }⟩

theorem inStep_changeMemory (change : Memory → Except Fault Memory) :
    InStep likeness (changeMemory change) := by
  intro m other alike
  cases changed : change m.memory with
  | error fault =>
      rw [changeMemory_of_error changed, changeMemory_of_error (alike.memory ▸ changed)]
      exact ⟨rfl, alike⟩
  | ok memory =>
      rw [changeMemory_of_ok changed, changeMemory_of_ok (alike.memory ▸ changed)]
      exact ⟨rfl, { alike with memory := rfl }⟩

theorem inStep_updateMemory (change : Memory → Memory) :
    InStep likeness (Action.update fun m : Machine => { m with memory := change m.memory }) :=
  fun _ _ alike => ⟨rfl, { alike with memory := congrArg change alike.memory }⟩

theorem inStep_changeRegisters (change : Registers → Registers) :
    InStep likeness (changeRegisters change : Action Machine Unit) :=
  fun _ _ alike => ⟨rfl, { alike with registers := congrArg change alike.registers }⟩

theorem inStep_changeScreen (change : Framebuffer → Framebuffer) :
    InStep likeness (changeDevices fun d => { d with screen := change d.screen }) :=
  fun _ _ alike => ⟨rfl, { alike with screen := congrArg change alike.screen }⟩

theorem inStep_checkRange (address length : Int) :
    InStep likeness (checkRange address length : Action Machine Unit) := by
  intro m other alike
  rw [checkRange, checkRange, alike.memory]
  exact ⟨rfl, alike⟩

theorem inStep_drawByte : InStep likeness drawByte := by
  intro m other alike
  obtain ⟨same_byte, still_alike⟩ := likeness.draw alike.random
  rw [drawByte_apply, drawByte_apply, same_byte]
  exact ⟨rfl, { alike with random := still_alike }⟩

theorem inStep_takeTicks :
    InStep likeness (Action.within (fun m => m.devices.ticks)
      (fun source (m : Machine) => { m with devices := { m.devices with ticks := source } })
      TickSource.take) := by
  intro m other alike
  obtain ⟨same_count, still_alike⟩ := likeness.take alike.ticks
  exact ⟨same_count, { alike with ticks := still_alike }⟩

theorem inStep_setPixel (row column : Int) (on : Bool) :
    InStep likeness (setPixel row column on) := by
  intro m other alike
  unfold setPixel
  rw [← alike.screen]
  cases m.devices.screen.set row column on with
  | error fault => exact ⟨rfl, alike⟩
  | ok screen => exact ⟨rfl, { alike with screen := rfl }⟩

theorem inStep_changeKeypad (change : Keypad → Except Fault Keypad) :
    InStep likeness (changeKeypad change) := by
  intro m other alike
  unfold changeKeypad
  rw [← alike.keypad]
  cases change m.devices.keypad with
  | error fault => exact ⟨rfl, alike⟩
  | ok keypad => exact ⟨rfl, { alike with keypad := rfl }⟩

/-- Sources that are changed in a way that keeps them alike. -/
theorem inStep_changeTicks {change : TickSource → TickSource}
    (kept : ∀ source other, likeness.ticks source other →
      likeness.ticks (change source) (change other)) :
    InStep likeness (changeDevices fun d => { d with ticks := change d.ticks }) :=
  fun _ _ alike => ⟨rfl, { alike with ticks := kept _ _ alike.ticks }⟩

/-! ## Instructions, cycles and ticks -/

/-- **Every action that is put together from the operations goes in step.** -/
theorem Composed.inStep {use : MemoryUse} {action : Action Machine α}
    (composed : Composed use action) : InStep likeness action := by
  induction composed with
  | pure answer => exact .pure answer
  | fail fault => exact .fail fault
  | report event => exact .report event
  | bind _ _ first_ih next_ih => exact first_ih.bind next_ih
  | look _ visible ih => exact .look ih visible
  | changeRegisters change => exact inStep_changeRegisters change
  | changeScreen change => exact inStep_changeScreen change
  | pushReturn address => exact inStep_changeMemory _
  | popReturn => exact inStep_withMemory _
  | drawByte => exact inStep_drawByte
  | checkRange address length => exact inStep_checkRange address length
  | fetch address _ => exact inStep_withMemory _
  | write address datum _ => exact inStep_changeMemory _

theorem inStep_record (op : Opcode) : InStep likeness (chip8.record op) := by
  intro m other alike
  have result : (chip8.record op m).result = (chip8.record op other).result := by
    rw [Architecture.record, Architecture.record, alike.registers, alike.cycles, alike.memory]
  have memory : (chip8.record op m).state.memory = (chip8.record op other).state.memory :=
    congrArg (fun memory : Memory => memory.takeLog.2) alike.memory
  exact ⟨result, { alike with memory := memory, cycles := congrArg (· + 1) alike.cycles }⟩

/-- **A cycle goes in step.** -/
theorem inStep_step : InStep likeness step := by
  refine .bind (inStep_updateMemory fun memory => memory.takeLog.2) fun _ => .look (fun m => ?_) ?_
  · refine .bind (inStep_withMemory _) fun word => .bind (inStep_changeRegisters _) fun _ => ?_
    obtain ⟨use, composed⟩ := composed_execute (chip8.decode word)
    exact composed.inStep.bind fun _ => inStep_record _
  · intro m other same
    rw [same.registers]

theorem inStep_updateTimers : InStep likeness updateTimers :=
  inStep_takeTicks.bind fun _ => inStep_changeRegisters _

theorem inStep_tick : InStep likeness tick :=
  inStep_step.bind fun record => inStep_updateTimers.bind fun _ => .pure record

/-! ## What a host does -/

theorem inStep_prepareMemory : InStep likeness prepareMemory :=
  .bind (inStep_updateMemory Memory.clear) fun _ =>
    .bind (inStep_changeMemory _) fun _ => inStep_changeMemory _

/-- A reset goes in step if sources that are alike stay so when they are restarted. -/
theorem inStep_reset (restarts : ∀ source other, likeness.ticks source other →
    likeness.ticks source.restart other.restart) : InStep likeness reset := by
  refine .bind (fun m other alike => ⟨rfl, ?_⟩) fun _ => .bind inStep_prepareMemory
    fun _ m other alike => ⟨rfl, ?_⟩
  · exact { alike with registers := rfl, cycles := rfl }
  · exact { alike with
      screen := congrArg Framebuffer.clear alike.screen
      ticks := restarts _ _ alike.ticks }

theorem inStep_loadProgram (program : List UInt8) : InStep likeness (loadProgram program) := by
  unfold loadProgram
  split
  · exact .fail _
  · exact .bind (inStep_changeMemory _) fun _ => .report _

theorem inStep_loadRom (restarts : ∀ source other, likeness.ticks source other →
    likeness.ticks source.restart other.restart) (files : Files) (path : String) :
    InStep likeness (loadRom files path) :=
  .bind (.ofExcept _) fun program => .bind (inStep_reset restarts) fun _ =>
    .bind (inStep_loadProgram program) fun _ => .bind (.report _) fun _ => .pure program.length

end Chip8.Machine
