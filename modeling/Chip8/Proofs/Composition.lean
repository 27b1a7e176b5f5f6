import Chip8.Proofs.Cycle

/-!
# What instructions are made of

Every instruction is put together from a few operations on the machine: it looks at the registers,
the screen and the keys, changes registers and screen, enters and leaves subroutines, draws a random
byte, tests a range of cells, and reads or writes single cells.  `Composed` lists these operations
and the ways to put them together, so that a property of all instructions is proved operation by
operation.

No instruction both reads cells and writes them (`composed_effect`), apart from the fetch that comes
before it.
-/

namespace Chip8

set_option autoImplicit false

/-- The one way in which an instruction uses the cells of the memory. -/
inductive MemoryUse where
  | reads
  | writes

/-- How an instruction uses the cells, if it uses any. -/
def Instruction.use : Instruction → MemoryUse
  | .storeDecimal _ | .storeRegisters _ => .writes
  | _ => .reads

namespace Machine

open Processor

/-- Two machines show the same to an instruction that looks at them without reading a cell. -/
structure LooksLike (m other : Machine) : Prop where
  registers : m.registers = other.registers
  screen : m.devices.screen = other.devices.screen
  keypad : m.devices.keypad = other.devices.keypad

/-- Remembers an address on the call stack. -/
def pushReturn (address : Int) : Action Machine Unit :=
  changeMemory fun memory =>
    match memory.stack.push address with
    | .ok stack => .ok { memory with stack := stack }
    | .error fault => .error fault

/-- Takes the address that was remembered last from the call stack. -/
def popReturn : Action Machine Nat :=
  withMemory fun memory =>
    match memory.stack.pop with
    | .ok (address, stack) => .ok (address, { memory with stack := stack })
    | .error fault => .error fault

/-- The actions that are put together from the operations of the machine, with one use of the
cells. -/
inductive Composed (use : MemoryUse) : {α : Type} → Action Machine α → Prop where
  | pure {α : Type} (answer : α) : Composed use (Pure.pure answer)
  | fail {α : Type} (fault : Fault) : Composed use (Action.fail fault : Action Machine α)
  | report (event : Event) : Composed use (Action.report event)
  | bind {α β : Type} {first : Action Machine α} {next : α → Action Machine β} :
      Composed use first → (∀ answer, Composed use (next answer)) → Composed use (first >>= next)
  /-- What comes next may depend on what the machine shows, but not on its cells. -/
  | look {α : Type} {next : Machine → Action Machine α} : (∀ m, Composed use (next m)) →
      (∀ m other, LooksLike m other → next m = next other) → Composed use (Action.state >>= next)
  | changeRegisters (change : Registers → Registers) : Composed use (changeRegisters change)
  | changeScreen (change : Framebuffer → Framebuffer) :
      Composed use (changeDevices fun d => { d with screen := change d.screen })
  | pushReturn (address : Int) : Composed use (pushReturn address)
  | popReturn : Composed use popReturn
  | drawByte : Composed use drawByte
  | checkRange (address length : Int) : Composed use (checkRange address length)
  | fetch (address : Int) : use = .reads → Composed use (fetch address)
  | write (address datum : Int) : use = .writes → Composed use (write address datum)

variable {use : MemoryUse}

/-! ## Operations that may fail -/

theorem fetch_of_peek {m : Machine} {address : Int} {word : Nat}
    (found : m.memory.peek address = .ok word) :
    fetch address m =
      ⟨{ m with memory := m.memory.record (.read address.toNat word) }, .ok word, []⟩ :=
  withMemory_of_ok (by rw [Memory.fetch, found])

theorem fetch_of_no_peek {m : Machine} {address : Int} {fault : Fault}
    (missing : m.memory.peek address = .error fault) :
    fetch address m = ⟨m, .error fault, []⟩ :=
  withMemory_of_error (by rw [Memory.fetch, missing])

theorem pushReturn_of_ok {m : Machine} {address : Int} {stack : CallStack}
    (pushed : m.memory.stack.push address = .ok stack) :
    pushReturn address m = ⟨{ m with memory.stack := stack }, .ok (), []⟩ :=
  changeMemory_of_ok (by rw [pushed])

theorem pushReturn_of_error {m : Machine} {address : Int} {fault : Fault}
    (full : m.memory.stack.push address = .error fault) :
    pushReturn address m = ⟨m, .error fault, []⟩ :=
  changeMemory_of_error (by rw [full])

theorem popReturn_of_ok {m : Machine} {address : Nat} {stack : CallStack}
    (popped : m.memory.stack.pop = .ok (address, stack)) :
    popReturn m = ⟨{ m with memory.stack := stack }, .ok address, []⟩ :=
  withMemory_of_ok (by rw [popped])

theorem popReturn_of_error {m : Machine} {fault : Fault}
    (empty : m.memory.stack.pop = .error fault) : popReturn m = ⟨m, .error fault, []⟩ :=
  withMemory_of_error (by rw [empty])

/-! ## Instructions -/

theorem composed_require (condition : Bool) (fault : Fault) :
    Composed use (require condition fault) := by
  unfold require
  split
  · exact .pure ()
  · exact .fail fault

theorem composed_enter (address : Int) : Composed use (enter address) := by
  refine .look (fun m => .bind (.pushReturn m.registers.pc) fun _ => .changeRegisters _) ?_
  intro m other same
  rw [same.registers]

theorem composed_leave : Composed use leave :=
  .bind .popReturn fun _ => .changeRegisters _

theorem composed_takeRandom (x mask : Int) : Composed use (takeRandom x mask) :=
  .bind .drawByte fun _ => .bind (composed_require _ _) fun _ => .changeRegisters _

theorem composed_takeKey (x : Int) : Composed use (takeKey x) := by
  refine .look (fun m => ?_) ?_
  · split
    · exact .bind (composed_require _ _) fun _ => .changeRegisters _
    · exact .changeRegisters _
  · intro m other same
    rw [same.keypad]

theorem composed_skipWhen {condition : Machine → Bool}
    (visible : ∀ m other, LooksLike m other → condition m = condition other) :
    Composed use (skipWhen condition) := by
  refine .look (fun m => .changeRegisters _) ?_
  intro m other same
  rw [visible m other same]

theorem keyDown_eq {m other : Machine} (same : LooksLike m other) (x : Int) :
    m.keyDown x = other.keyDown x := by
  rw [keyDown, keyDown, same.registers, same.keypad]

theorem composed_drawRows (column : Nat) (top : Int) (count row : Nat) :
    Composed .reads (drawRows column top count row) := by
  induction count generalizing row with
  | zero => exact .pure ()
  | succ count ih =>
      refine .look (fun m => ?_) ?_
      · split
        · exact .pure ()
        · refine .bind (.fetch _ rfl) fun word => ?_
          rcases m.devices.screen.flipByte (top + row).toNat column (word / 256) with
            ⟨screen, erased⟩
          refine .bind (.changeScreen fun _ => screen) fun _ => ?_
          cases erased with
          | false => exact ih (row + 1)
          | true => exact .bind (.changeRegisters _) fun _ => ih (row + 1)
      · intro m other same
        rw [same.registers, same.screen]

theorem composed_draw (x y height : Int) : Composed .reads (draw x y height) := by
  refine .look (fun m => ?_) ?_
  · exact .bind (.checkRange _ _) fun _ => .bind (composed_require _ _) fun _ =>
      .bind (composed_require _ _) fun _ => .bind (composed_require _ _) fun _ =>
      .bind (composed_require _ _) fun _ => .bind (.changeRegisters _) fun _ =>
      composed_drawRows _ _ _ _
  · intro m other same
    rw [same.registers, same.screen]

theorem composed_storeDigits (x : Int) : Composed .writes (storeDigits x) := by
  refine .look (fun m => ?_) ?_
  · exact .bind (.checkRange _ _) fun _ => .bind (.write _ _ rfl) fun _ =>
      .bind (.write _ _ rfl) fun _ => .write _ _ rfl
  · intro m other same
    rw [same.registers]

theorem composed_storeFrom (count k : Nat) : Composed .writes (storeFrom count k) := by
  induction count generalizing k with
  | zero => exact .pure ()
  | succ count ih =>
      refine .bind (composed_require _ _) fun _ => .look (fun m => ?_) ?_
      · exact .bind (.write _ _ rfl) fun _ => ih (k + 1)
      · intro m other same
        rw [same.registers]

theorem composed_storeAll (x : Int) : Composed .writes (storeAll x) := by
  refine .look (fun m => .bind (.checkRange _ _) fun _ => composed_storeFrom _ _) ?_
  intro m other same
  rw [same.registers]

theorem composed_loadFrom (count k : Nat) : Composed .reads (loadFrom count k) := by
  induction count generalizing k with
  | zero => exact .pure ()
  | succ count ih =>
      refine .look (fun m => ?_) ?_
      · exact .bind (.fetch _ rfl) fun _ => .bind (composed_require _ _) fun _ =>
          .bind (.changeRegisters _) fun _ => ih (k + 1)
      · intro m other same
        rw [same.registers]

theorem composed_loadAll (x : Int) : Composed .reads (loadAll x) := by
  refine .look (fun m => .bind (.checkRange _ _) fun _ => composed_loadFrom _ _) ?_
  intro m other same
  rw [same.registers]

/-- **Every instruction is put together from the operations**, and uses the cells in one way. -/
theorem composed_effect (instruction : Instruction) :
    Composed instruction.use (effect instruction) := by
  cases instruction with
  | clearScreen => exact .changeScreen Framebuffer.clear
  | leave => exact composed_leave
  | call address => exact composed_enter address
  | random x mask => exact composed_takeRandom x mask
  | draw x y height => exact composed_draw x y height
  | skipIfPressed x => exact composed_skipWhen fun m other same => keyDown_eq same x
  | skipUnlessPressed x =>
      exact composed_skipWhen fun m other same => congrArg not (keyDown_eq same x)
  | awaitKey x => exact composed_takeKey x
  | storeDecimal x => exact composed_storeDigits x
  | storeRegisters x => exact composed_storeAll x
  | loadRegisters x => exact composed_loadAll x
  | _ =>
      -- all others change the registers only
      rw [effect]
      exact .changeRegisters _

/-- Executing a word is put together from the operations, also if it has no instruction. -/
theorem composed_execute (op : Opcode) : ∃ use, Composed use (chip8.execute op) := by
  have rest (use : MemoryUse) (known : Bool) : Composed use (if known then pure () else do
      let m ← Action.state
      Action.report (.unmappedWord op.word.toNat m.registers.retreat.pc)) := by
    split
    · exact .pure ()
    · refine .look (fun m => .report _) ?_
      intro m other same
      rw [same.registers]
  cases found : Instruction.ofOpcode? op with
  | none =>
      refine ⟨.reads, .bind ?_ (rest .reads)⟩
      rw [perform, found]
      exact .pure false
  | some instruction =>
      refine ⟨instruction.use, .bind ?_ (rest instruction.use)⟩
      rw [perform, found]
      refine .bind ?_ fun _ => .pure true
      rw [execute]
      split
      · exact .fail _
      · exact composed_effect instruction

end Machine

end Chip8
