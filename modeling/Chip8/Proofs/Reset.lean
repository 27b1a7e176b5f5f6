import Chip8.Proofs.Alike
import Chip8.Proofs.Footprint
import Chip8.Proofs.HostCalls

/-!
# A reset forgets the history

A host can do a great deal with a machine: run it, give it programs, and write to its memory, stack,
screen and registers (`Deed`).  Nothing of this changes the sizes of the memory, the stack or the
screen (`keepsSizes_act`), and a reset makes all of a machine anew from its sizes, but for the keys
and the random bytes (`reset_of_size`).  So after any history a reset leaves what a new machine of
these sizes would be.

Machines that are alike give the same replies to all that a host does from then on
(`replies_of_alike`), so that the history makes no difference later either (`reset_forgets`).
-/

namespace Chip8

set_option autoImplicit false

/-! ## What a host does -/

/-- The answer to a deed. -/
inductive Reply where
  | done
  | number (number : Nat)
  | record (record : Snapshot Registers)
  | accesses (log : List Access)

/-- What a host does with a machine and sees the answer to. -/
inductive Deed where
  | call (call : HostCall)
  | loadRom (files : Files) (path : String)
  | execute (instruction : Instruction)
  | fetch (address : Int)
  | clearMemory
  | takeLog
  | push (address : Int)
  | pop
  | clearStack
  | changeRegisters (change : Registers → Registers)

/-- A host call with its answer. -/
def HostCall.reply : HostCall → Action Machine Reply
  | step => Machine.step >>= fun record => pure (.record record)
  | tick => Machine.tick >>= fun record => pure (.record record)
  | call => call.act >>= fun _ => pure .done

namespace Deed

/-- The deed as an action. -/
def act : Deed → Action Machine Reply
  | call made => made.reply
  | loadRom files path => Machine.loadRom files path >>= fun length => pure (.number length)
  | execute instruction => Machine.execute instruction >>= fun _ => pure .done
  | fetch address => Processor.fetch address >>= fun word => pure (.number word)
  | clearMemory =>
    Action.update (fun m : Machine => { m with memory := m.memory.clear }) >>= fun _ => pure .done
  | takeLog =>
    Processor.withMemory (fun memory => .ok memory.takeLog) >>= fun log => pure (.accesses log)
  | push address => Machine.pushReturn address >>= fun _ => pure .done
  | pop => Machine.popReturn >>= fun address => pure (.number address)
  | clearStack =>
    Action.update (fun m : Machine => { m with memory.stack := m.memory.stack.clear }) >>= fun _ =>
      pure .done
  | changeRegisters change => Processor.changeRegisters change >>= fun _ => pure .done

/-- A deed treats sources of ticks that are alike in the same way. -/
def Respects (likeness : Likeness) : Deed → Prop
  | .call (.sourceChanges change) => ∀ source other, likeness.ticks source other →
      likeness.ticks (change source) (change other)
  | .call .reset | .call .syncTimers | loadRom .. => ∀ source other, likeness.ticks source other →
      likeness.ticks source.restart other.restart
  | _ => True

end Deed

namespace Memory

/-- Two memories have as many cells, and as much room for calls. -/
structure SameSizes (memory later : Memory) : Prop where
  size : later.size = memory.size
  capacity : later.stack.capacity = memory.stack.capacity

variable {memory later : Memory}

theorem SameSizes.loadBytes {base : Int} {bytes : List UInt8}
    (loaded : memory.loadBytes base bytes = .ok later) : memory.SameSizes later := by
  rw [eq_setBytes_of_loadBytes loaded]
  exact ⟨size_setBytes _ _ _, by rw [stack_setBytes]⟩

theorem SameSizes.write {address datum : Int} (written : memory.write address datum = .ok later) :
    memory.SameSizes later := by
  obtain ⟨place, byte, _, _, _, rfl⟩ := stored_of_write written
  exact ⟨size_stored _ _ _, by rw [stack_stored]⟩

end Memory

namespace Machine

open Processor
open Chip8.Action (Keeps)

/-! ## The sizes stay -/

/-- Two machines have memories, stacks and screens of the same sizes. -/
structure SameSizes (origin m : Machine) : Prop where
  memory : origin.memory.SameSizes m.memory
  screen : m.devices.screen.Sized origin.devices.screen.width origin.devices.screen.height

variable {origin m other : Machine} {parts : List Part}

theorem SameSizes.refl (m : Machine) : m.SameSizes m := ⟨⟨rfl, rfl⟩, ⟨rfl, rfl⟩⟩

theorem SameSizes.changeMemory (same : origin.SameSizes m) {later : Memory}
    (kept : m.memory.SameSizes later) : origin.SameSizes { m with memory := later } :=
  { same with
    memory :=
      { size := kept.size.trans same.memory.size
        capacity := kept.capacity.trans same.memory.capacity } }

/-- What changes only some parts of a machine keeps the sizes. -/
theorem SameSizes.of_sameBut (same : origin.SameSizes m) (changed : m.SameBut parts other) :
    origin.SameSizes other := by
  obtain ⟨width, height⟩ := same.screen
  refine ⟨⟨changed.size.trans same.memory.size, changed.capacity.trans same.memory.capacity⟩, ?_⟩
  rw [← width, ← height]
  exact changed.sized

theorem lasting_sameSizes : Lasting (SameSizes origin) where
  restart := fun _ same => { same with }
  elapse := fun _ _ same => { same with }
  clear := fun m same => same.changeMemory ⟨Memory.size_clear m.memory, rfl⟩
  loadBytes := fun _ _ _ _ same loaded => same.changeMemory (.loadBytes loaded)
  write := fun _ _ _ _ same written => same.changeMemory (.write written)
  screen := by
    intro m screen same sized
    obtain ⟨width, height⟩ := same.screen
    rw [width, height] at sized
    exact { same with screen := sized }
  keypad := fun _ _ same => { same with }
  ticks := fun _ _ same => { same with }

theorem keepsSizes_step : Keeps (SameSizes origin) step :=
  fun m same => same.of_sameBut m.step_changes_only

theorem keepsSizes_execute (instruction : Instruction) :
    Keeps (SameSizes origin) (execute instruction) := by
  unfold execute
  split
  · exact fun _ same => same
  · exact fun m same => same.of_sameBut (effect_changes_only instruction m)

theorem keepsSizes_call (call : HostCall) : Keeps (SameSizes origin) call.reply := by
  cases call with
  | step => exact keepsSizes_step.bind fun _ => .pure _
  | tick => exact (lasting_sameSizes.keeps_tick keepsSizes_step).bind fun _ => .pure _
  | _ => exact (lasting_sameSizes.keeps_act keepsSizes_step _).bind fun _ => .pure _

/-- **Whatever a host does, the sizes stay**, also if it fails. -/
theorem keepsSizes_act (deed : Deed) : Keeps (SameSizes origin) deed.act := by
  cases deed with
  | call call => exact keepsSizes_call call
  | loadRom files path =>
      refine .bind (.bind (fun _ same => same) fun program => ?_) fun _ => .pure _
      exact .bind lasting_sameSizes.keeps_reset fun _ =>
        .bind (lasting_sameSizes.keeps_loadProgram program) fun _ =>
        .bind (fun _ same => same) fun _ => .pure _
  | execute instruction => exact (keepsSizes_execute instruction).bind fun _ => .pure _
  | fetch address =>
      refine .bind (fun m same => ?_) fun _ => .pure _
      have changed : m.SameBut [] (Processor.fetch address m).state :=
        keeps_fetch address m (.refl m)
      exact same.of_sameBut changed
  | clearMemory =>
      refine .bind (.update fun m same => ?_) fun _ => .pure _
      exact same.changeMemory ⟨Memory.size_clear m.memory, rfl⟩
  | takeLog => exact .bind (fun _ same => same.changeMemory ⟨rfl, rfl⟩) fun _ => .pure _
  | push address =>
      refine .bind (fun m same => ?_) fun _ => .pure _
      exact same.of_sameBut (keeps_pushReturn (.head []) address m (.refl m))
  | pop =>
      refine .bind (fun m same => ?_) fun _ => .pure _
      exact same.of_sameBut (keeps_popReturn (.head []) m (.refl m))
  | clearStack => exact .bind (.update fun _ same => same.changeMemory ⟨rfl, rfl⟩) fun _ => .pure _
  | changeRegisters change => exact .bind (.update fun _ same => { same with }) fun _ => .pure _

/-- The machine after some deeds, each done also if the one before failed. -/
def afterDeeds (m : Machine) (deeds : List Deed) : Machine :=
  deeds.foldl (fun m deed => (deed.act m).state) m

theorem sameSizes_afterDeeds (m : Machine) (deeds : List Deed) : m.SameSizes (m.afterDeeds deeds) :=
  List.foldlRecOn deeds (fun m deed => (deed.act m).state) (.refl m)
    fun _ same deed _ => keepsSizes_act deed _ same

/-! ## What machines that are alike reply -/

/-- The results of some deeds, faults included, and the screens after them. -/
def replies (m : Machine) : List Deed → List (Except Fault Reply × Framebuffer)
  | [] => []
  | deed :: rest =>
    ((deed.act m).result, (deed.act m).state.devices.screen) :: replies (deed.act m).state rest

variable {likeness : Likeness}

theorem inStep_call (call : HostCall) (respects : (Deed.call call).Respects likeness) :
    InStep likeness call.reply := by
  cases call with
  | step => exact inStep_step.bind fun _ => .pure _
  | tick => exact inStep_tick.bind fun _ => .pure _
  | updateTimers => exact inStep_updateTimers.bind fun _ => .pure _
  | syncTimers => exact (inStep_changeTicks respects).bind fun _ => .pure _
  | reset => exact (inStep_reset respects).bind fun _ => .pure _
  | loadProgram program => exact (inStep_loadProgram program).bind fun _ => .pure _
  | changeKeypad change => exact (inStep_changeKeypad change).bind fun _ => .pure _
  | setPixel row column on => exact (inStep_setPixel row column on).bind fun _ => .pure _
  | clearScreen => exact (inStep_changeScreen Framebuffer.clear).bind fun _ => .pure _
  | write address datum =>
      exact (inStep_changeMemory fun memory => memory.write address datum).bind fun _ => .pure _
  | load base block =>
      exact (inStep_changeMemory fun memory => memory.load base block).bind fun _ => .pure _
  | sourceChanges change => exact (inStep_changeTicks respects).bind fun _ => .pure _

/-- **All that a host does goes in step.** -/
theorem inStep_act (deed : Deed) (respects : deed.Respects likeness) :
    InStep likeness deed.act := by
  cases deed with
  | call call => exact inStep_call call respects
  | loadRom files path => exact (inStep_loadRom respects files path).bind fun _ => .pure _
  | execute instruction =>
      refine .bind ?_ fun _ => .pure _
      unfold execute
      split
      · exact .fail _
      · exact (composed_effect instruction).inStep
  | fetch address => exact (inStep_withMemory _).bind fun _ => .pure _
  | clearMemory => exact (inStep_updateMemory Memory.clear).bind fun _ => .pure _
  | takeLog => exact (inStep_withMemory _).bind fun _ => .pure _
  | push address => exact (inStep_changeMemory _).bind fun _ => .pure _
  | pop => exact (inStep_withMemory _).bind fun _ => .pure _
  | clearStack =>
      exact (inStep_updateMemory fun memory => { memory with stack := memory.stack.clear }).bind
        fun _ => .pure _
  | changeRegisters change => exact (inStep_changeRegisters change).bind fun _ => .pure _

/-- **Machines that are alike reply the same to all deeds**, and are alike after them. -/
theorem replies_of_alike (alike : Alike likeness m other) (deeds : List Deed)
    (respect : ∀ deed ∈ deeds, deed.Respects likeness) :
    replies m deeds = replies other deeds ∧
      Alike likeness (m.afterDeeds deeds) (other.afterDeeds deeds) := by
  induction deeds generalizing m other with
  | nil => exact ⟨rfl, alike⟩
  | cons deed rest ih =>
      obtain ⟨respects, respect_rest⟩ := List.forall_mem_cons.mp respect
      obtain ⟨same_result, still_alike⟩ := inStep_act deed respects alike
      obtain ⟨same_rest, last_alike⟩ := ih still_alike respect_rest
      refine ⟨?_, last_alike⟩
      rw [replies, replies, same_result, still_alike.screen, same_rest]

/-! ## The reset -/

/-- **A reset succeeds** if the memory has room for the glyphs, and makes everything anew but the
keys and the random bytes. -/
theorem reset_of_size (room : 0x140 ≤ m.memory.size) :
    reset m =
      ⟨⟨Registers.initial, m.memory.prepared, 0,
          ⟨m.devices.screen.clear, m.devices.keypad, m.devices.random, m.devices.ticks.restart⟩⟩,
        .ok (), []⟩ := by
  have restarted : chip8.restart m = ⟨Registers.initial, m.memory, 0, m.devices⟩ := rfl
  have prepared := prepareMemory_of_size (m := ⟨Registers.initial, m.memory, 0, m.devices⟩) room
  rw [reset, Action.update_bind, restarted, Action.bind_of_ok prepared, changeDevices_apply]

/-- What a reset leaves of a used machine, compared with a new machine that was built with other
devices. -/
structure Renewed (used : Machine) (others : Devices) (after fresh : Machine) : Prop where
  registers : after.registers = fresh.registers
  /-- The cells, the call stack and the log. -/
  memory : after.memory = fresh.memory
  cycles : after.cycles = fresh.cycles
  screen : after.devices.screen = fresh.devices.screen
  keypad : after.devices.keypad = used.devices.keypad
  random : after.devices.random = used.devices.random
  /-- Given the same keys, and random bytes and ticks that come alike, there is no difference. -/
  goes_on : ∀ likeness : Likeness, used.devices.keypad = others.keypad →
    likeness.random used.devices.random others.random →
    likeness.ticks used.devices.ticks.restart others.ticks →
    ∀ deeds : List Deed, (∀ deed ∈ deeds, deed.Respects likeness) →
      replies after deeds = replies fresh deeds ∧
        Alike likeness (after.afterDeeds deeds) (fresh.afterDeeds deeds)

/-- A reset makes any machine anew that has the sizes of a new one. -/
theorem exists_renewed {memory : Memory} (room : 0x140 ≤ memory.size) {used : Machine}
    (size : used.memory.size = memory.size)
    (capacity : used.memory.stack.capacity = memory.stack.capacity) {others : Devices}
    (screen : used.devices.screen.clear = others.screen) :
    ∃ after fresh, reset used = ⟨after, .ok (), []⟩ ∧ Machine.create memory others = .ok fresh ∧
      Renewed used others after fresh := by
  have same_memory : used.memory.prepared = memory.prepared := Memory.prepared_congr size capacity
  refine ⟨_, _, reset_of_size (by omega), create_of_size room others, ?_⟩
  exact
    { registers := rfl
      memory := same_memory
      cycles := rfl
      screen := screen
      keypad := rfl
      random := rfl
      goes_on := by
        intro likeness keypad random ticks deeds respect
        refine replies_of_alike ?_ deeds respect
        exact
          { registers := rfl
            screen := screen
            keypad := keypad
            memory := same_memory
            cycles := rfl
            random := random
            ticks := ticks } }

/-- **A reset forgets the whole history.**  On a memory of any size that holds the glyphs, with any
stack and any screen, a machine can be built, and after whatever a host did with it a reset succeeds
and leaves what a newly built machine of the same sizes is.  So it replies to all that comes later
as the new machine does. -/
theorem reset_forgets {size capacity : Int} (room : 0x140 ≤ size) (positive : 0 < capacity)
    (devices : Devices) :
    ∃ memory m, Memory.create size capacity = .ok memory ∧ Machine.create memory devices = .ok m ∧
      ∀ (history : List Deed) (others : Devices),
        others.screen = Framebuffer.blank devices.screen.width devices.screen.height →
        ∃ after fresh, reset (m.afterDeeds history) = ⟨after, .ok (), []⟩ ∧
          Machine.create memory others = .ok fresh ∧
          Renewed (m.afterDeeds history) others after fresh := by
  obtain ⟨memory, created, cells⟩ : ∃ memory, Memory.create size capacity = .ok memory ∧
      memory.size = size.toNat := by
    refine ⟨⟨Array.replicate size.toNat 0, ⟨capacity.toNat, []⟩, []⟩, ?_, Array.size_replicate⟩
    rw [Memory.create, if_pos (by omega), CallStack.create, if_pos positive]
  have holds : 0x140 ≤ memory.size := by omega
  refine ⟨memory, _, created, create_of_size holds devices, fun history others screen => ?_⟩
  have same := sameSizes_afterDeeds ⟨Registers.initial, memory.prepared, 0, devices⟩ history
  obtain ⟨width, height⟩ := same.screen
  refine exists_renewed holds ?_ ?_ ?_
  · rw [same.memory.size, Memory.size_prepared]
  · rw [same.memory.capacity, Memory.stack_prepared, CallStack.clear]
  · rw [Framebuffer.clear, width, height, screen]

/-- A history that leaves something everywhere, with a cycle that fails at the end. -/
def wear : List Deed :=
  [.changeRegisters (·.set 0 9), .push 5, .call (.write 0x13F 7), .fetch 0x13E,
    .call (.setPixel 0 0 true), .call .step]

/-- A program of one word, and a tick that executes it. -/
def goOn : List Deed :=
  [.call (.load 0x100 [0xC0, 0xFF]), .changeRegisters (·.jumpTo 0x100), .call .tick]

/-- In the smallest memory that holds the glyphs a reset undoes that history, and what comes after
it has the replies of a new machine. -/
theorem reset_forgets_wear :
    ∃ memory m others after fresh, Memory.create 0x140 1 = .ok memory ∧
      Machine.create memory ⟨defaultScreen, Keypad.idle, .listed (fun _ => 3) 0, .everyCycle⟩ =
        .ok m ∧
      reset (m.afterDeeds wear) = ⟨after, .ok (), []⟩ ∧ Machine.create memory others = .ok fresh ∧
      after.registers = fresh.registers ∧ after.memory = fresh.memory ∧
      replies after goOn = replies fresh goOn := by
  obtain ⟨memory, m, created, built, renewed⟩ := reset_forgets (Int.le_refl 0x140) Int.one_pos
    ⟨defaultScreen, Keypad.idle, .listed (fun _ => 3) 0, .everyCycle⟩
  obtain ⟨used, worn⟩ : ∃ used, used = m.afterDeeds wear := ⟨_, rfl⟩
  obtain ⟨others, given⟩ : ∃ others : Devices, others =
      ⟨defaultScreen, used.devices.keypad, used.devices.random, used.devices.ticks.restart⟩ :=
    ⟨_, rfl⟩
  obtain ⟨after, fresh, done, made, new⟩ := renewed wear others (by rw [given]; rfl)
  rw [← worn] at new
  have keypad : used.devices.keypad = others.keypad := by rw [given]
  have random : Likeness.same.random used.devices.random others.random := by
    rw [given]
    exact Eq.refl used.devices.random
  have ticks : Likeness.same.ticks used.devices.ticks.restart others.ticks := by
    rw [given]
    exact Eq.refl used.devices.ticks.restart
  have respect : ∀ deed ∈ goOn, deed.Respects .same := by simp [goOn, Deed.Respects]
  obtain ⟨same_replies, _⟩ := new.goes_on .same keypad random ticks goOn respect
  exact ⟨memory, m, others, after, fresh, created, built, done, made, new.registers, new.memory,
    same_replies⟩

end Machine

end Chip8
