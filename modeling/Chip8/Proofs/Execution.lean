import Chip8.Proofs.Transfers

/-!
# Obstacles

An instruction of a well-formed machine fails only if it meets its obstacle, which can be
seen before it starts: no call to leave, no room for a call, or cells beyond the end of the
memory (`obstacle?`).  Then it has changed nothing (`effect_of_obstacle`); without an obstacle
it succeeds (`effect_of_clear`).
-/

namespace Chip8

set_option autoImplicit false

namespace Machine

open Processor

/-- A machine as instructions expect it: general registers hold bytes, program counter and
index sixteen bits, and the screen has pixels. -/
structure WellFormed (m : Machine) : Prop where
  bytes : ∀ x : Int, m.registers.get x < 256
  pc : 0 ≤ m.registers.pc ∧ m.registers.pc < 65536
  index : 0 ≤ m.registers.index ∧ m.registers.index < 65536
  width : 0 < m.devices.screen.width
  height : 0 < m.devices.screen.height

/-- The fault of a block of cells from the index on that does not exist. -/
def missingCells? (m : Machine) (length : Int) : Option Fault :=
  if 0 < length ∧ m.memory.size < m.registers.index + length then
    some (.addressOutOfRange (m.memory.firstOutside m.registers.index length) m.memory.size)
  else none

/-- What stands in the way of an instruction, if anything does. -/
def obstacle? (m : Machine) : Instruction → Option Fault
  | .leave => if m.memory.stack.returns = [] then some .stackUnderflow else none
  | .call _ =>
    if m.memory.stack.depth < m.memory.stack.capacity then none
    else some (.stackOverflow m.memory.stack.capacity m.registers.pc)
  | .storeDecimal _ => m.missingCells? 3
  | .storeRegisters x | .loadRegisters x => m.missingCells? (x + 1)
  | .draw _ _ height => m.missingCells? height
  | _ => none

variable {m : Machine}

theorem missingCells?_eq_some_iff {length : Int} {fault : Fault} :
    m.missingCells? length = some fault ↔
      (0 < length ∧ m.memory.size < m.registers.index + length) ∧
        fault =
          .addressOutOfRange (m.memory.firstOutside m.registers.index length) m.memory.size := by
  unfold missingCells?
  split
  · simp only [Option.some.injEq, true_and, *, eq_comm]
  · simp only [reduceCtorEq, false_and, *]

theorem fits_of_missingCells?_eq_none {length : Int} (found : m.missingCells? length = none) :
    length ≤ 0 ∨ m.registers.index + length ≤ m.memory.size := by
  unfold missingCells? at found
  split at found
  · cases found
  · omega

/-- The index of a well-formed machine as an address. -/
theorem WellFormed.index_eq (wf : m.WellFormed) :
    m.registers.index = (m.registers.index.toNat : Int) :=
  (Int.toNat_of_nonneg wf.index.1).symm

theorem checkRange_of_missing (wf : m.WellFormed) {length : Int} {fault : Fault}
    (missing : m.missingCells? length = some fault) :
    checkRange m.registers.index length m = ⟨m, .error fault, []⟩ := by
  obtain ⟨⟨positive, reaches⟩, rfl⟩ := missingCells?_eq_some_iff.mp missing
  rw [checkRange, Memory.checkRange_of_reaches wf.index.1 positive reaches]

/-! ## Subroutines -/

theorem enter_of_full {address : Int} (full : ¬ m.memory.stack.depth < m.memory.stack.capacity) :
    enter address m =
      ⟨m, .error (.stackOverflow m.memory.stack.capacity m.registers.pc), []⟩ := by
  rw [enter, Action.state_bind]
  refine Action.bind_of_error (changeMemory_of_error ?_)
  rw [CallStack.push, if_neg full]

theorem enter_of_room {address : Int} (room : m.memory.stack.depth < m.memory.stack.capacity) :
    enter address m =
      ⟨{ m with
          memory.stack.returns := (m.registers.pc % 65536).toNat :: m.memory.stack.returns
          registers := m.registers.jumpTo address }, .ok (), []⟩ := by
  rw [enter, Action.state_bind,
    Action.bind_of_ok (changeMemory_of_ok (by rw [CallStack.push, if_pos room]))]
  rfl

theorem leave_of_empty (empty : m.memory.stack.returns = []) :
    leave m = ⟨m, .error .stackUnderflow, []⟩ := by
  rw [leave]
  refine Action.bind_of_error (withMemory_of_error ?_)
  rw [CallStack.pop, empty]

theorem leave_of_call {address : Nat} {outer : List Nat}
    (call : m.memory.stack.returns = address :: outer) :
    leave m =
      ⟨{ m with
          memory.stack.returns := outer
          registers.pc := address }, .ok (), []⟩ := by
  rw [leave, Action.bind_of_ok (withMemory_of_ok (by rw [CallStack.pop, call]))]
  rfl

/-! ## Random bytes and keys -/

theorem drawByte_apply (m : Machine) :
    drawByte m =
      ⟨{ m with devices.random := m.devices.random.draw.2 }, .ok m.devices.random.draw.1, []⟩ :=
  rfl

theorem takeRandom_of_nibble {x : Int} (nibble : IsNibble x) (mask : Int) :
    takeRandom x mask m =
      ⟨{ m with
          devices.random := m.devices.random.draw.2
          registers := m.registers.set x
            (m.devices.random.draw.1.toNat &&& (mask % 256).toNat) }, .ok (), []⟩ := by
  rw [takeRandom, Action.bind_of_ok (drawByte_apply m), require_of_holds nibble.isPlace, pure_bind]
  rfl

theorem takeKey_of_key {x : Int} (nibble : IsNibble x) {key : Fin 16}
    (pressed : m.devices.keypad.firstPressed? = some key) :
    takeKey x m = ⟨{ m with registers := m.registers.set x key }, .ok (), []⟩ := by
  rw [takeKey, Action.state_bind, pressed]
  dsimp only
  rw [require_of_holds nibble.isPlace, pure_bind]
  rfl

theorem takeKey_of_none {x : Int} (idle : m.devices.keypad.firstPressed? = none) :
    takeKey x m = ⟨{ m with registers := m.registers.retreat }, .ok (), []⟩ := by
  rw [takeKey, Action.state_bind, idle]
  rfl

/-! ## Blocks of cells -/

variable {start : Nat}

theorem storeDigits_of_fits (x : Int) (at_start : m.registers.index = start)
    (fits : start + 3 ≤ m.memory.size) :
    storeDigits x m =
      ⟨{ m with
          memory := m.memory.stored start
            [UInt8.ofNat (m.registers.get x % 256 / 100),
              UInt8.ofNat (m.registers.get x % 256 / 10 % 10),
              UInt8.ofNat (m.registers.get x % 256 % 10)] }, .ok (), []⟩ := by
  have second : m.registers.index + 1 = ((start + 1 : Nat) : Int) := by omega
  have third : m.registers.index + 2 = ((start + 2 : Nat) : Int) := by omega
  rw [storeDigits, Action.state_bind]
  rw [Action.bind_of_ok (checkRange_of_fits at_start (by omega)), second, third, at_start,
    Action.bind_of_ok (write_of_inside (by omega) (by omega)),
    Action.bind_of_ok (write_of_inside (by simp only [Memory.size_stored]; omega) (by omega)),
    write_of_inside (by simp only [Memory.size_stored]; omega) (by omega)]
  rfl

theorem storeAll_of_fits {x : Int} (nibble : IsNibble x) (at_start : m.registers.index = start)
    (bytes : ∀ k ≤ x.toNat, m.registers.get (k : Nat) < 256)
    (fits : start + (x + 1) ≤ m.memory.size) :
    storeAll x m =
      ⟨{ m with memory := m.memory.stored start (m.registers.bytes 0 (x + 1).toNat) },
        .ok (), []⟩ := by
  obtain ⟨nonneg, below⟩ := nibble
  rw [storeAll, Action.state_bind, Action.bind_of_ok (checkRange_of_fits at_start (.inr fits)),
    storeFrom_of_fits (x + 1).toNat 0 at_start (by omega) (by omega)
      fun k small => bytes k (by omega)]
  rfl

theorem loadAll_of_fits {x : Int} (nibble : IsNibble x) (at_start : m.registers.index = start)
    (fits : start + (x + 1) ≤ m.memory.size) :
    loadAll x m =
      ⟨{ m with
          memory := m.memory.visited start (x + 1).toNat
          registers := m.registers.loaded 0 (m.memory.bytesFrom start (x + 1).toNat) },
        .ok (), []⟩ := by
  obtain ⟨nonneg, below⟩ := nibble
  rw [loadAll, Action.state_bind, Action.bind_of_ok (checkRange_of_fits at_start (.inr fits)),
    loadFrom_of_fits (x + 1).toNat 0 at_start (by omega) (by omega)]
  rfl

/-! ## Blocks that were transferred -/

variable {after : Machine} {events : List Event}

/-- A transfer that succeeds has passed its test of the range. -/
theorem rest_of_passed {length : Int} {transfer : Action Machine Unit} (positive : 0 < length)
    (ran : (checkRange m.registers.index length >>= fun _ => transfer) m =
      ⟨after, .ok (), events⟩) :
    ∃ start : Nat, m.registers.index = start ∧ start + length ≤ m.memory.size ∧
      ∃ reported, transfer m = ⟨after, .ok (), reported⟩ := by
  obtain ⟨middle, _, _, reported, tested, rest, _⟩ := Action.ok_of_bind ran
  rw [checkRange] at tested
  cases range : m.memory.checkRange m.registers.index length with
  | error fault =>
      rw [range] at tested
      cases tested
  | ok _ =>
      obtain ⟨nonneg, fits⟩ := Memory.fits_of_checkRange positive range
      rw [range] at tested
      cases tested
      have at_start := Int.toNat_of_nonneg nonneg
      exact ⟨m.registers.index.toNat, at_start.symm, by omega, reported, rest⟩

theorem storeDigits_ok {x : Int} (ran : storeDigits x m = ⟨after, .ok (), events⟩) :
    ∃ start : Nat, m.registers.index = start ∧ start + 3 ≤ m.memory.size ∧
      after =
        { m with
          memory := m.memory.stored start
            [UInt8.ofNat (m.registers.get x % 256 / 100),
              UInt8.ofNat (m.registers.get x % 256 / 10 % 10),
              UInt8.ofNat (m.registers.get x % 256 % 10)] } := by
  have tested := ran
  rw [storeDigits, Action.state_bind] at tested
  obtain ⟨start, at_start, fits, _⟩ := rest_of_passed (by decide) tested
  refine ⟨start, at_start, by omega, ?_⟩
  rw [storeDigits_of_fits x at_start (by omega)] at ran
  cases ran
  rfl

theorem storeAll_ok {x : Int} (nibble : IsNibble x)
    (ran : storeAll x m = ⟨after, .ok (), events⟩) :
    ∃ start : Nat, m.registers.index = start ∧ start + (x + 1) ≤ m.memory.size ∧
      (∀ k ≤ x.toNat, m.registers.get (k : Nat) < 256) ∧
      after = { m with memory := m.memory.stored start (m.registers.bytes 0 (x + 1).toNat) } := by
  obtain ⟨nonneg, below⟩ := nibble
  rw [storeAll, Action.state_bind] at ran
  obtain ⟨start, at_start, fits, _, rest⟩ := rest_of_passed (by omega) ran
  obtain ⟨stored, bytes⟩ := storeFrom_ok (x + 1).toNat 0 at_start rest
  exact ⟨start, at_start, fits, fun k small => bytes k (Nat.zero_le k) (by omega), stored⟩

/-! ## Sprites -/

/-- The column of the screen that a register points at. -/
def spriteColumn (m : Machine) (x : Int) : Nat :=
  (Int.fmod (m.registers.get x) m.devices.screen.width).toNat

/-- The row of the screen that a register points at. -/
def spriteRow (m : Machine) (y : Int) : Nat :=
  (Int.fmod (m.registers.get y) m.devices.screen.height).toNat

/-- Once the range of the sprite has passed its test, the rows are drawn. -/
theorem draw_of_passed {x y height : Int} (x_nibble : IsNibble x) (y_nibble : IsNibble y)
    (wide : 0 < m.devices.screen.width) (high : 0 < m.devices.screen.height)
    (passed : checkRange m.registers.index height m = ⟨m, .ok (), []⟩) :
    draw x y height m =
      drawRows (m.spriteColumn x) (m.spriteRow y) height.toNat 0
        { m with registers := m.registers.setFlag 0 } := by
  have row_nonneg : 0 ≤ Int.fmod (m.registers.get y) m.devices.screen.height :=
    Int.fmod_nonneg_of_pos _ high
  have row_eq : Int.fmod (m.registers.get y) m.devices.screen.height = (m.spriteRow y : Int) :=
    (Int.toNat_of_nonneg row_nonneg).symm
  rw [draw, Action.state_bind, Action.bind_of_ok passed]
  rw [require_of_holds x_nibble.isPlace, pure_bind,
    require_of_holds (by simp only [bne_iff_ne]; omega), pure_bind,
    require_of_holds y_nibble.isPlace, pure_bind,
    require_of_holds (by simp only [bne_iff_ne]; omega), pure_bind, changeRegisters_bind, row_eq]
  rfl

theorem draw_of_fits {x y height : Int} (x_nibble : IsNibble x) (y_nibble : IsNibble y)
    (height_nibble : IsNibble height) (wide : 0 < m.devices.screen.width)
    (high : 0 < m.devices.screen.height) (at_start : m.registers.index = start)
    (fits : height ≤ 0 ∨ start + height ≤ m.memory.size) :
    draw x y height m =
      ⟨drawnRows (m.spriteColumn x) (m.spriteRow y) start height.toNat 0
        { m with registers := m.registers.setFlag 0 }, .ok (), []⟩ := by
  obtain ⟨height_nonneg, _⟩ := height_nibble
  rw [draw_of_passed x_nibble y_nibble wide high (checkRange_of_fits at_start fits)]
  by_cases none : height ≤ 0
  · rw [show height.toNat = 0 by omega]
    rfl
  · exact drawRows_of_fits (m.spriteColumn x) (m.spriteRow y) height.toNat 0 at_start
      (by have := fits.resolve_left none; simp only; omega)

/-! ## All instructions -/

/-- **An instruction that meets its obstacle fails and changes nothing.** -/
theorem effect_of_obstacle (wf : m.WellFormed) {instruction : Instruction} {fault : Fault}
    (met : m.obstacle? instruction = some fault) :
    effect instruction m = ⟨m, .error fault, []⟩ := by
  cases instruction with
  | leave =>
      simp only [obstacle?, Option.ite_none_right_eq_some, Option.some.injEq] at met
      obtain ⟨empty, rfl⟩ := met
      exact leave_of_empty empty
  | call address =>
      simp only [obstacle?, Option.ite_none_left_eq_some, Option.some.injEq] at met
      obtain ⟨full, rfl⟩ := met
      exact enter_of_full full
  | storeDecimal x =>
      rw [effect, storeDigits, Action.state_bind]
      exact Action.bind_of_error (checkRange_of_missing wf met)
  | storeRegisters x =>
      rw [effect, storeAll, Action.state_bind]
      exact Action.bind_of_error (checkRange_of_missing wf met)
  | loadRegisters x =>
      rw [effect, loadAll, Action.state_bind]
      exact Action.bind_of_error (checkRange_of_missing wf met)
  | draw x y height =>
      rw [effect, draw, Action.state_bind]
      exact Action.bind_of_error (checkRange_of_missing wf met)
  | _ => cases met

/-- **An instruction that meets no obstacle succeeds.** -/
theorem effect_of_clear (wf : m.WellFormed) {instruction : Instruction}
    (fits : instruction.Fits) (clear : m.obstacle? instruction = none) :
    effect instruction m = ⟨(effect instruction m).state, .ok (), []⟩ := by
  have at_start := wf.index_eq
  cases instruction with
  | leave =>
      simp only [obstacle?, ite_eq_right_iff, reduceCtorEq, imp_false] at clear
      obtain ⟨address, outer, call⟩ := List.exists_cons_of_ne_nil clear
      rw [effect, leave_of_call call]
  | call address =>
      simp only [obstacle?, ite_eq_left_iff, reduceCtorEq, imp_false, Decidable.not_not] at clear
      rw [effect, enter_of_room clear]
  | random x mask =>
      rw [effect, takeRandom_of_nibble fits.1 mask]
  | skipIfPressed x | skipUnlessPressed x => rfl
  | awaitKey x =>
      cases pressed : m.devices.keypad.firstPressed? with
      | none => rw [effect, takeKey_of_none pressed]
      | some key => rw [effect, takeKey_of_key fits pressed]
  | storeDecimal x =>
      have inside := fits_of_missingCells?_eq_none clear
      rw [effect, storeDigits_of_fits x at_start (by omega)]
  | storeRegisters x =>
      have inside := fits_of_missingCells?_eq_none clear
      obtain ⟨nonneg, _⟩ := id fits
      rw [effect, storeAll_of_fits fits at_start (fun k _ => wf.bytes k) (by omega)]
  | loadRegisters x =>
      have inside := fits_of_missingCells?_eq_none clear
      obtain ⟨nonneg, _⟩ := id fits
      rw [effect, loadAll_of_fits fits at_start (by omega)]
  | draw x y height =>
      have inside := fits_of_missingCells?_eq_none clear
      rw [effect, draw_of_fits fits.1 fits.2.1 fits.2.2 wf.width wf.height at_start (by omega)]
  | _ => rfl

end Machine

end Chip8
