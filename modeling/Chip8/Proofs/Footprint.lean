import Chip8.Proofs.Bounds
import Chip8.Proofs.Composition

/-!
# The footprint of an instruction

An instruction can change only some parts of a machine, which are known before it is executed
(`Instruction.footprint`).  Whatever the machine, and whether the instruction succeeds or fails,
all other parts stay as they are (`effect_changes_only`); the sizes of the memory, the stack and
the screen, the keys and the source of ticks stay in any case.

A cycle changes the parts in the footprint of its word, and the program counter besides
(`step_changes_only`).
-/

namespace Chip8

set_option autoImplicit false

/-- The parts of a machine that some instruction changes. -/
inductive Part where
  | general
  | index
  | counter
  | delay
  | sound
  | cells
  | stack
  | screen
  | random
  deriving DecidableEq, Repr

/-- The parts that an instruction may change, besides the log of the memory. -/
def Instruction.footprint : Instruction → List Part
  | .clearScreen => [.screen]
  | .leave | .call _ => [.counter, .stack]
  | .system _ | .jump _ | .jumpOffset _ | .skipIfByte .. | .skipUnlessByte .. | .skipIfEqual ..
  | .skipUnlessEqual .. | .skipIfPressed _ | .skipUnlessPressed _ => [.counter]
  | .setByte .. | .addByte .. | .copy .. | .or .. | .and .. | .xor .. | .add .. | .subtract ..
  | .shiftRight _ | .subtractFrom .. | .shiftLeft _ | .readDelay _ | .loadRegisters _ => [.general]
  | .setIndex _ | .smallGlyph _ | .largeGlyph _ => [.index]
  | .random .. => [.general, .random]
  | .draw .. => [.general, .screen]
  | .awaitKey _ => [.general, .counter]
  | .setDelay _ => [.delay]
  | .setSound _ => [.sound]
  | .addIndex _ => [.general, .index]
  | .storeDecimal _ | .storeRegisters _ => [.cells]

/-- The parts that the instruction of a word may change. -/
def Opcode.footprint (op : Opcode) : List Part :=
  match Instruction.ofOpcode? op with
  | some instruction => instruction.footprint
  | none => []

theorem Opcode.footprint_of_denotes {op : Opcode} {instruction : Instruction}
    (denotes : Instruction.Denotes op instruction) : op.footprint = instruction.footprint := by
  rw [footprint, Instruction.ofOpcode?_eq_some_iff.mpr denotes]

/-! ## Registers -/

namespace Registers

/-- From some registers to others, at most the given parts changed. -/
structure SameBut (parts : List Part) (r after : Registers) : Prop where
  general : .general ∉ parts → after.v = r.v
  index : .index ∉ parts → after.index = r.index
  counter : .counter ∉ parts → after.pc = r.pc
  delay : .delay ∉ parts → after.delay = r.delay
  sound : .sound ∉ parts → after.sound = r.sound

variable {parts : List Part} {origin r : Registers}

theorem SameBut.refl (r : Registers) : r.SameBut parts r :=
  ⟨fun _ => rfl, fun _ => rfl, fun _ => rfl, fun _ => rfl, fun _ => rfl⟩

theorem SameBut.set (same : origin.SameBut parts r) (touched : .general ∈ parts) (x : Int)
    (value : Nat) : origin.SameBut parts (r.set x value) :=
  { same with general := fun absent => (absent touched).elim }

theorem SameBut.setFlag (same : origin.SameBut parts r) (touched : .general ∈ parts)
    (value : Int) : origin.SameBut parts (r.setFlag value) :=
  { same with general := fun absent => (absent touched).elim }

theorem SameBut.withIndex (same : origin.SameBut parts r) (touched : .index ∈ parts)
    (address : Int) : origin.SameBut parts { r with index := address } :=
  { same with index := fun absent => (absent touched).elim }

theorem SameBut.withCounter (same : origin.SameBut parts r) (touched : .counter ∈ parts)
    (address : Int) : origin.SameBut parts { r with pc := address } :=
  { same with counter := fun absent => (absent touched).elim }

theorem SameBut.skipIf (same : origin.SameBut parts r) (touched : .counter ∈ parts)
    (condition : Bool) : origin.SameBut parts (r.skipIf condition) := by
  unfold Registers.skipIf
  split
  · exact same.withCounter touched _
  · exact same

end Registers

/-! ## The call stack -/

namespace CallStack

variable {stack later : CallStack} {address : Int}

theorem capacity_push (pushed : stack.push address = .ok later) :
    later.capacity = stack.capacity := by
  unfold push at pushed
  split at pushed
  · cases pushed
    rfl
  · cases pushed

theorem capacity_pop {place : Nat} (popped : stack.pop = .ok (place, later)) :
    later.capacity = stack.capacity := by
  unfold pop at popped
  split at popped
  · cases popped
  · cases popped
    rfl

end CallStack

/-! ## Actions -/

theorem Action.Keeps.look {σ α : Type} {property : σ → Prop} {next : σ → Action σ α}
    (kept : ∀ s, Keeps property (next s)) : Keeps property (Action.state >>= next) := by
  intro s held
  rw [Action.state_bind]
  exact kept s s held

namespace Machine

open Processor
open Chip8.Action (Keeps)

/-- From one machine to another, at most the given parts changed. -/
structure SameBut (parts : List Part) (m after : Machine) : Prop where
  registers : m.registers.SameBut parts after.registers
  cells : .cells ∉ parts → after.memory.cells = m.memory.cells
  stack : .stack ∉ parts → after.memory.stack = m.memory.stack
  screen : .screen ∉ parts → after.devices.screen = m.devices.screen
  random : .random ∉ parts → after.devices.random = m.devices.random
  size : after.memory.size = m.memory.size
  capacity : after.memory.stack.capacity = m.memory.stack.capacity
  sized : after.devices.screen.Sized m.devices.screen.width m.devices.screen.height
  keypad : after.devices.keypad = m.devices.keypad
  ticks : after.devices.ticks = m.devices.ticks

variable {parts : List Part} {origin m : Machine}

theorem SameBut.refl (m : Machine) : m.SameBut parts m where
  registers := .refl m.registers
  cells := fun _ => rfl
  stack := fun _ => rfl
  screen := fun _ => rfl
  random := fun _ => rfl
  size := rfl
  capacity := rfl
  sized := ⟨rfl, rfl⟩
  keypad := rfl
  ticks := rfl

theorem keeps_changeRegisters {change : Registers → Registers}
    (kept : ∀ r, origin.registers.SameBut parts r → origin.registers.SameBut parts (change r)) :
    Keeps (SameBut parts origin) (changeRegisters change) :=
  fun m same => { same with registers := kept m.registers same.registers }

theorem keeps_changeScreen (touched : .screen ∈ parts) (change : Framebuffer → Framebuffer)
    (sized : ∀ screen : Framebuffer,
      screen.Sized origin.devices.screen.width origin.devices.screen.height →
        (change screen).Sized origin.devices.screen.width origin.devices.screen.height) :
    Keeps (SameBut parts origin) (changeDevices fun d => { d with screen := change d.screen }) :=
  fun m same => { same with
    screen := fun absent => (absent touched).elim
    sized := sized m.devices.screen same.sized }

theorem keeps_require (condition : Bool) (fault : Fault) :
    Keeps (SameBut parts origin) (require condition fault) := by
  unfold require
  split
  · exact .pure ()
  · exact fun _ same => same

theorem keeps_checkRange (address length : Int) :
    Keeps (SameBut parts origin) (checkRange address length) :=
  fun _ same => same

theorem keeps_fetch (address : Int) : Keeps (SameBut parts origin) (fetch address) := by
  intro m same
  cases found : m.memory.peek address with
  | error fault => rwa [fetch_of_no_peek found]
  | ok word =>
      rw [fetch_of_peek found]
      exact { same with }

theorem keeps_write (touched : .cells ∈ parts) (address datum : Int) :
    Keeps (SameBut parts origin) (write address datum) := by
  intro m same
  cases written : m.memory.write address datum with
  | error fault =>
      rw [write, changeMemory_of_error written]
      exact same
  | ok memory =>
      obtain ⟨place, byte, _, _, _, rfl⟩ := Memory.stored_of_write written
      rw [write, changeMemory_of_ok written]
      exact { same with
        cells := fun absent => (absent touched).elim
        size := by rw [Memory.size_stored, same.size] }

theorem keeps_pushReturn (touched : .stack ∈ parts) (address : Int) :
    Keeps (SameBut parts origin) (pushReturn address) := by
  intro m same
  cases pushed : m.memory.stack.push address with
  | error fault => rwa [pushReturn_of_error pushed]
  | ok stack =>
      rw [pushReturn_of_ok pushed]
      exact { same with
        stack := fun absent => (absent touched).elim
        capacity := (CallStack.capacity_push pushed).trans same.capacity }

theorem keeps_popReturn (touched : .stack ∈ parts) : Keeps (SameBut parts origin) popReturn := by
  intro m same
  rcases popped : m.memory.stack.pop with fault | ⟨address, stack⟩
  · rwa [popReturn_of_error popped]
  · rw [popReturn_of_ok popped]
    exact { same with
      stack := fun absent => (absent touched).elim
      capacity := (CallStack.capacity_pop popped).trans same.capacity }

theorem keeps_skipWhen (touched : .counter ∈ parts) (condition : Machine → Bool) :
    Keeps (SameBut parts origin) (skipWhen condition) :=
  .look fun _ => keeps_changeRegisters fun _ same => same.skipIf touched _

theorem keeps_takeRandom (general : .general ∈ parts) (random : .random ∈ parts) (x mask : Int) :
    Keeps (SameBut parts origin) (takeRandom x mask) := by
  refine .bind (fun m same => ?_) fun byte => .bind (keeps_require _ _) fun _ =>
    keeps_changeRegisters fun _ same => same.set general _ _
  exact { same with random := fun absent => (absent random).elim }

theorem keeps_takeKey (general : .general ∈ parts) (counter : .counter ∈ parts) (x : Int) :
    Keeps (SameBut parts origin) (takeKey x) := by
  refine .look fun m => ?_
  split
  · exact .bind (keeps_require _ _) fun _ =>
      keeps_changeRegisters fun _ same => same.set general _ _
  · exact keeps_changeRegisters fun _ same => same.withCounter counter _

theorem keeps_drawRows (general : .general ∈ parts) (screen : .screen ∈ parts) (column : Nat)
    (top : Int) (count row : Nat) :
    Keeps (SameBut parts origin) (drawRows column top count row) := by
  induction count generalizing row with
  | zero => exact .pure ()
  | succ count ih =>
      intro m same
      rw [drawRows, Action.state_bind]
      split
      · exact same
      · refine Keeps.bind (keeps_fetch _) (fun word => ?_) m same
        -- the screen that is drawn on is that of the machine before the fetch
        have drawn : (m.devices.screen.flipByte (top + row).toNat column (word / 256)).1.Sized
            origin.devices.screen.width origin.devices.screen.height :=
          same.sized.flipByte _ _ _
        rcases flipped : m.devices.screen.flipByte (top + row).toNat column (word / 256) with
          ⟨next, erased⟩
        rw [flipped] at drawn
        refine .bind (keeps_changeScreen screen (fun _ => next) fun _ _ => drawn) fun _ => ?_
        cases erased with
        | false => exact ih (row + 1)
        | true =>
            exact .bind (keeps_changeRegisters fun _ kept => kept.setFlag general _)
              fun _ => ih (row + 1)

theorem keeps_draw (general : .general ∈ parts) (screen : .screen ∈ parts) (x y height : Int) :
    Keeps (SameBut parts origin) (draw x y height) :=
  .look fun _ => .bind (keeps_checkRange _ _) fun _ => .bind (keeps_require _ _) fun _ =>
    .bind (keeps_require _ _) fun _ => .bind (keeps_require _ _) fun _ =>
    .bind (keeps_require _ _) fun _ =>
    .bind (keeps_changeRegisters fun _ same => same.setFlag general _) fun _ =>
    keeps_drawRows general screen _ _ _ _

theorem keeps_storeDigits (touched : .cells ∈ parts) (x : Int) :
    Keeps (SameBut parts origin) (storeDigits x) :=
  .look fun _ => .bind (keeps_checkRange _ _) fun _ => .bind (keeps_write touched _ _) fun _ =>
    .bind (keeps_write touched _ _) fun _ => keeps_write touched _ _

theorem keeps_storeFrom (touched : .cells ∈ parts) (count k : Nat) :
    Keeps (SameBut parts origin) (storeFrom count k) := by
  induction count generalizing k with
  | zero => exact .pure ()
  | succ count ih =>
      exact .bind (keeps_require _ _) fun _ => .look fun _ =>
        .bind (keeps_write touched _ _) fun _ => ih (k + 1)

theorem keeps_loadFrom (touched : .general ∈ parts) (count k : Nat) :
    Keeps (SameBut parts origin) (loadFrom count k) := by
  induction count generalizing k with
  | zero => exact .pure ()
  | succ count ih =>
      exact .look fun _ => .bind (keeps_fetch _) fun _ => .bind (keeps_require _ _) fun _ =>
        .bind (keeps_changeRegisters fun _ same => same.set touched _ _) fun _ => ih (k + 1)

/-! ## All instructions -/

/-- Every instruction keeps what is the same but for parts in its footprint. -/
theorem keeps_effect {instruction : Instruction} (within : instruction.footprint ⊆ parts) :
    Keeps (SameBut parts origin) (effect instruction) := by
  cases instruction with
  | clearScreen =>
      exact keeps_changeScreen (within (.head _)) Framebuffer.clear fun _ sized => sized.clear
  | leave =>
      exact .bind (keeps_popReturn (within (.tail _ (.head _)))) fun address =>
        keeps_changeRegisters fun _ same => same.withCounter (within (.head _)) address
  | call address =>
      exact .look fun m => .bind (keeps_pushReturn (within (.tail _ (.head _))) m.registers.pc)
        fun _ => keeps_changeRegisters fun _ same => same.withCounter (within (.head _)) _
  | system address | jump address | jumpOffset address =>
      exact keeps_changeRegisters fun _ same => same.withCounter (within (.head _)) _
  | skipIfByte x byte | skipUnlessByte x byte =>
      exact keeps_changeRegisters fun _ same => same.skipIf (within (.head _)) _
  | skipIfEqual x y | skipUnlessEqual x y =>
      exact keeps_changeRegisters fun _ same => same.skipIf (within (.head _)) _
  | skipIfPressed x | skipUnlessPressed x => exact keeps_skipWhen (within (.head _)) _
  | setByte x byte | addByte x byte =>
      exact keeps_changeRegisters fun _ same => same.set (within (.head _)) _ _
  | copy x y | or x y | and x y | xor x y =>
      exact keeps_changeRegisters fun _ same => same.set (within (.head _)) _ _
  | add x y =>
      exact keeps_changeRegisters fun _ same =>
        (same.set (within (.head _)) _ _).setFlag (within (.head _)) _
  | subtract x y | subtractFrom x y =>
      exact keeps_changeRegisters fun _ same =>
        (same.setFlag (within (.head _)) _).set (within (.head _)) _ _
  | shiftRight x | shiftLeft x =>
      exact keeps_changeRegisters fun _ same =>
        (same.setFlag (within (.head _)) _).set (within (.head _)) _ _
  | setIndex address | smallGlyph x | largeGlyph x =>
      exact keeps_changeRegisters fun _ same => same.withIndex (within (.head _)) _
  | random x mask => exact keeps_takeRandom (within (.head _)) (within (.tail _ (.head _))) x mask
  | draw x y height =>
      exact keeps_draw (within (.head _)) (within (.tail _ (.head _))) x y height
  | readDelay x => exact keeps_changeRegisters fun _ same => same.set (within (.head _)) _ _
  | awaitKey x => exact keeps_takeKey (within (.head _)) (within (.tail _ (.head _))) x
  | setDelay x =>
      exact keeps_changeRegisters fun _ same =>
        { same with delay := fun absent => (absent (within (.head _))).elim }
  | setSound x =>
      exact keeps_changeRegisters fun _ same =>
        { same with sound := fun absent => (absent (within (.head _))).elim }
  | addIndex x =>
      exact keeps_changeRegisters fun _ same =>
        (same.setFlag (within (.head _)) _).withIndex (within (.tail _ (.head _))) _
  | storeDecimal x => exact keeps_storeDigits (within (.head _)) x
  | storeRegisters x =>
      exact .look fun _ => .bind (keeps_checkRange _ _) fun _ =>
        keeps_storeFrom (within (.head _)) _ _
  | loadRegisters x =>
      exact .look fun _ => .bind (keeps_checkRange _ _) fun _ =>
        keeps_loadFrom (within (.head _)) _ _

/-- **An instruction changes only what is in its footprint**, also if it fails. -/
theorem effect_changes_only (instruction : Instruction) (m : Machine) :
    m.SameBut instruction.footprint (effect instruction m).state :=
  keeps_effect (fun _ inside => inside) m (.refl m)

/-- Executing a word changes only what is in its footprint. -/
theorem keeps_execute {op : Opcode} (within : op.footprint ⊆ parts) :
    Keeps (SameBut parts origin) (chip8.execute op) := by
  have performed : Keeps (SameBut parts origin) (perform op) := by
    unfold Opcode.footprint at within
    unfold perform
    cases found : Instruction.ofOpcode? op with
    | none => exact .pure false
    | some instruction =>
        rw [found] at within
        refine .bind ?_ fun _ => .pure true
        unfold execute
        split
        · exact fun _ same => same
        · exact keeps_effect within
  refine .bind performed fun known => ?_
  split
  · exact .pure ()
  · exact .look fun _ _ same => same

/-- **A cycle changes the program counter and what is in the footprint of its word**, also if it
fails. -/
theorem step_changes_only (m : Machine) :
    m.SameBut (.counter :: m.opcode.footprint) (step m).state := by
  by_cases inside : m.Inside
  · have advanced := (Registers.SameBut.refl m.registers).withCounter
      (.head m.opcode.footprint) ((m.registers.pc + 2) % 65536)
    have fetched : m.SameBut (.counter :: m.opcode.footprint) m.fetched :=
      { SameBut.refl m with registers := advanced }
    rw [step_of_inside inside]
    refine Keeps.bind (keeps_execute fun _ member => .tail _ member) (fun _ => ?_) m.fetched fetched
    exact fun _ same => { same with }
  · rw [step_of_outside inside]
    exact { SameBut.refl m with }

/-! ## Words -/

/-- The word at the program counter is of the family `0xF` and ends in the given byte. -/
def EndsIn (m : Machine) (code : Nat) : Prop := m.word / 0x1000 = 0xF ∧ m.word % 0x100 = code

/-- The words that may change a part of a machine, besides the log of the memory. -/
def MayChange (m : Machine) : Part → Prop
  | .general | .counter => True
  | .index => m.word / 0x1000 = 0xA ∨ m.EndsIn 0x1E ∨ m.EndsIn 0x29 ∨ m.EndsIn 0x30
  | .delay => m.EndsIn 0x15
  | .sound => m.EndsIn 0x18
  | .cells => m.EndsIn 0x33 ∨ m.EndsIn 0x55
  | .stack => m.word = 0x00EE ∨ m.word / 0x1000 = 0x2
  | .screen => m.word = 0x00E0 ∨ m.word / 0x1000 = 0xD
  | .random => m.word / 0x1000 = 0xC

instance (m : Machine) (code : Nat) : Decidable (m.EndsIn code) :=
  inferInstanceAs (Decidable (_ ∧ _))

theorem head_of_family {head : Nat} (family : m.opcode.family = (head * 0x1000 : Nat)) :
    m.word / 0x1000 = head := by
  rw [opcode_family] at family
  omega

theorem family_of_head {head : Nat} (starts : m.word / 0x1000 = head) :
    m.opcode.family = (head * 0x1000 : Nat) := by
  rw [opcode_family, starts]

theorem nn_of_low {code : Nat} (low : m.word % 0x100 = code) : m.opcode.nn = code := by
  rw [opcode_nn, low]

theorem endsIn_of_fields {code : Nat} (family : m.opcode.family = (0xF * 0x1000 : Nat))
    (low : m.opcode.nn = code) : m.EndsIn code := by
  rw [opcode_nn] at low
  exact ⟨head_of_family family, Int.ofNat_inj.mp low⟩

/-- A word of the family `0x0` is known from its other digits. -/
theorem word_of_system {last : Nat} (family : m.opcode.family = (0 * 0x1000 : Nat))
    (low : m.opcode.nnn = last) : m.word = last := by
  have head := head_of_family family
  rw [opcode_nnn] at low
  omega

/-- What an instruction may change is what its word may change. -/
theorem mayChange_of_denotes {instruction : Instruction} {part : Part}
    (denotes : Instruction.Denotes m.opcode instruction)
    (touched : part ∈ instruction.footprint) : m.MayChange part := by
  cases part with
  | general | counter => trivial
  | index =>
      cases denotes with
      | setIndex family => exact .inl (head_of_family family)
      | addIndex family low => exact .inr (.inl (endsIn_of_fields family low))
      | smallGlyph family low => exact .inr (.inr (.inl (endsIn_of_fields family low)))
      | largeGlyph family low => exact .inr (.inr (.inr (endsIn_of_fields family low)))
      | _ => simp [Instruction.footprint] at touched
  | delay =>
      cases denotes with
      | setDelay family low => exact endsIn_of_fields family low
      | _ => simp [Instruction.footprint] at touched
  | sound =>
      cases denotes with
      | setSound family low => exact endsIn_of_fields family low
      | _ => simp [Instruction.footprint] at touched
  | cells =>
      cases denotes with
      | storeDecimal family low => exact .inl (endsIn_of_fields family low)
      | storeRegisters family low => exact .inr (endsIn_of_fields family low)
      | _ => simp [Instruction.footprint] at touched
  | stack =>
      cases denotes with
      | leave family low => exact .inl (word_of_system family low)
      | call family => exact .inr (head_of_family family)
      | _ => simp [Instruction.footprint] at touched
  | screen =>
      cases denotes with
      | clearScreen family low => exact .inl (word_of_system family low)
      | draw family => exact .inr (head_of_family family)
      | _ => simp [Instruction.footprint] at touched
  | random =>
      cases denotes with
      | random family => exact head_of_family family
      | _ => simp [Instruction.footprint] at touched

/-- A word spares the parts that it may not change. -/
theorem not_touched {part : Part} (other : ¬ m.MayChange part) (apart : part ≠ .counter) :
    part ∉ .counter :: m.opcode.footprint := by
  intro touched
  rcases List.mem_cons.mp touched with counter | inside
  · exact apart counter
  · unfold Opcode.footprint at inside
    cases found : Instruction.ofOpcode? m.opcode with
    | none =>
        rw [found] at inside
        cases inside
    | some instruction =>
        rw [found] at inside
        exact other (mayChange_of_denotes (Instruction.denotes_of_found found) inside)

end Machine

end Chip8
