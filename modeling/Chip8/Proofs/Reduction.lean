import Chip8.Proofs.Bounds

/-!
# The reduction of the program counter

Wherever the program counter changes it is reduced modulo 65536.  `stepWith` is the cycle with
another reduction in all these places: after the fetch, at jumps and calls, at skips, when an
instruction is repeated, for the remembered address and for the address in the report of a word
without an instruction.  With the remainder it is the cycle of the machine
(`stepWith_remainder`).

A machine in its bounds computes no address beyond `0x10FE`.  So a reduction that leaves these
addresses alone, like none at all, makes no difference (`stepWith_of_fixes`).
-/

namespace Chip8

set_option autoImplicit false

namespace Registers

variable {r : Registers}

/-- Goes to an address under a reduction. -/
def goTo (reduction : Int → Int) (address : Int) (r : Registers) : Registers :=
  { r with pc := reduction address }

/-- Leaves out the next word if a condition holds, under a reduction. -/
def goOnIf (reduction : Int → Int) (condition : Bool) (r : Registers) : Registers :=
  if condition then r.goTo reduction (r.pc + 2) else r

/-- A reduction leaves the addresses of a bounded machine alone. -/
def Fixes (reduction : Int → Int) : Prop :=
  ∀ address : Int, 0 ≤ address → address ≤ 0x10FE → reduction address = address

theorem fixes_id : Fixes id := fun _ _ _ => rfl

variable {reduction : Int → Int}

theorem Fixes.goTo_eq (fixes : Fixes reduction) {address : Int} (nonneg : 0 ≤ address)
    (small : address ≤ 0x10FE) : r.goTo reduction address = r.jumpTo address := by
  rw [goTo, jumpTo, fixes address nonneg small, show address % 65536 = address by omega]

theorem Fixes.goOnIf_eq (fixes : Fixes reduction) (fetched : r.Fetched) (condition : Bool) :
    r.goOnIf reduction condition = r.skipIf condition := by
  obtain ⟨low, high⟩ := fetched
  unfold goOnIf skipIf
  rw [fixes.goTo_eq (by omega) (by omega)]
  rfl

end Registers

namespace Machine

open Processor
open Registers (Fixes)

/-! ## The cycle under a reduction -/

/-- Enters a subroutine under a reduction. -/
def enterWith (reduction : Int → Int) (address : Int) : Action Machine Unit := do
  let m ← Action.state
  changeMemory fun memory =>
    if memory.stack.depth < memory.stack.capacity then
      .ok { memory with
        stack.returns := (reduction m.registers.pc).toNat :: memory.stack.returns }
    else .error (.stackOverflow memory.stack.capacity m.registers.pc)
  changeRegisters (·.goTo reduction address)

/-- Leaves out the next word if a condition on the machine holds, under a reduction. -/
def skipWith (reduction : Int → Int) (condition : Machine → Bool) : Action Machine Unit := do
  let m ← Action.state
  changeRegisters (·.goOnIf reduction (condition m))

/-- A register takes the least key that is down, or the word is repeated under a reduction. -/
def takeKeyWith (reduction : Int → Int) (x : Int) : Action Machine Unit := do
  let m ← Action.state
  match m.devices.keypad.firstPressed? with
  | some key => do
    require (Registers.isPlace x) (.noSuchRegister true)
    changeRegisters (·.set x key)
  | none => changeRegisters fun r => r.goTo reduction (r.pc - 2)

/-- What an instruction does under a reduction. -/
def effectWith (reduction : Int → Int) : Instruction → Action Machine Unit
  | .system address => changeRegisters (·.goTo reduction address)
  | .jump address => changeRegisters (·.goTo reduction address)
  | .call address => enterWith reduction address
  | .jumpOffset address => changeRegisters fun r => r.goTo reduction (address + r.get 0)
  | .skipIfByte x byte => skipWith reduction fun m => (m.registers.get x : Int) == byte
  | .skipUnlessByte x byte => skipWith reduction fun m => (m.registers.get x : Int) != byte
  | .skipIfEqual x y => skipWith reduction fun m => m.registers.get x == m.registers.get y
  | .skipUnlessEqual x y => skipWith reduction fun m => m.registers.get x != m.registers.get y
  | .skipIfPressed x => skipWith reduction fun m => m.keyDown x
  | .skipUnlessPressed x => skipWith reduction fun m => !m.keyDown x
  | .awaitKey x => takeKeyWith reduction x
  | instruction => effect instruction

/-- Executes an instruction under a reduction. -/
def executeWith (reduction : Int → Int) (instruction : Instruction) : Action Machine Unit :=
  match missingRegister? instruction with
  | some fault => Action.fail fault
  | none => effectWith reduction instruction

/-- Executes a word under a reduction. -/
def performWith (reduction : Int → Int) (op : Opcode) : Action Machine Unit :=
  match Instruction.ofOpcode? op with
  | some instruction => executeWith reduction instruction
  | none => do
    let m ← Action.state
    Action.report (.unmappedWord op.word.toNat (reduction (m.registers.pc - 2)))

/-- The cycle under a reduction. -/
def stepWith (reduction : Int → Int) : Action Machine (Snapshot Registers) := do
  Action.update dropLog
  let m ← Action.state
  let word ← fetch m.registers.pc
  let op := Opcode.decode word
  changeRegisters fun r => r.goTo reduction (r.pc + 2)
  performWith reduction op
  chip8.record op

/-! ## The reduction of the machine -/

theorem effectWith_remainder (instruction : Instruction) :
    effectWith (· % 65536) instruction = effect instruction := by
  cases instruction with
  | call address =>
      funext m
      by_cases room : m.memory.stack.depth < m.memory.stack.capacity
      · rw [effect, enter_of_room room, effectWith, enterWith, Action.state_bind,
          Action.bind_of_ok (changeMemory_of_ok (if_pos room))]
        rfl
      · rw [effect, enter_of_full room, effectWith, enterWith, Action.state_bind,
          Action.bind_of_error (changeMemory_of_error (if_neg room))]
  | _ => rfl

theorem executeWith_remainder (instruction : Instruction) :
    executeWith (· % 65536) instruction = execute instruction := by
  unfold executeWith execute
  cases missingRegister? instruction with
  | some fault => rfl
  | none => exact effectWith_remainder instruction

theorem performWith_remainder (op : Opcode) :
    performWith (· % 65536) op = chip8.execute op := by
  funext m
  simp only [performWith, chip8, perform]
  cases Instruction.ofOpcode? op with
  | none => rfl
  | some instruction =>
      dsimp only
      rw [executeWith_remainder, bind_assoc]
      simp only [pure_bind, if_true, bind_pure_unit]

/-- **With the remainder it is the cycle of the machine.** -/
theorem stepWith_remainder : stepWith (· % 65536) = step := by
  simp only [stepWith, performWith_remainder]
  rfl

/-! ## Reductions that make no difference -/

variable {capacity : Nat} {width height : Int} {m : Machine} {reduction : Int → Int}

/-- A reduction that leaves the addresses of a bounded machine alone does not change what an
instruction does. -/
theorem effectWith_of_fixes (fixes : Fixes reduction) (bounded : m.registers.Bounded)
    (fetched : m.registers.Fetched) {instruction : Instruction} (fits : instruction.Fits) :
    effectWith reduction instruction m = effect instruction m := by
  obtain ⟨low, high⟩ := id fetched
  cases instruction with
  | system address | jump address =>
      obtain ⟨nonneg, small⟩ := fits
      rw [effectWith, changeRegisters_apply, fixes.goTo_eq nonneg (by omega)]
      rfl
  | call address =>
      obtain ⟨nonneg, small⟩ := fits
      have kept : reduction m.registers.pc = m.registers.pc % 65536 := by
        rw [fixes _ (by omega) (by omega)]
        omega
      by_cases room : m.memory.stack.depth < m.memory.stack.capacity
      · rw [effect, enter_of_room room, effectWith, enterWith, Action.state_bind,
          Action.bind_of_ok (changeMemory_of_ok (if_pos room)), changeRegisters_apply,
          fixes.goTo_eq nonneg (by omega), kept]
      · rw [effect, enter_of_full room, effectWith, enterWith, Action.state_bind,
          Action.bind_of_error (changeMemory_of_error (if_neg room))]
  | jumpOffset address =>
      obtain ⟨nonneg, small⟩ := fits
      have byte := bounded.bytes 0
      rw [effectWith, changeRegisters_apply, fixes.goTo_eq (by omega) (by omega)]
      rfl
  | skipIfByte x byte | skipUnlessByte x byte | skipIfEqual x y | skipUnlessEqual x y
  | skipIfPressed x | skipUnlessPressed x =>
      rw [effectWith, skipWith, Action.state_bind, changeRegisters_apply,
        fixes.goOnIf_eq fetched]
      rfl
  | awaitKey x =>
      rw [effectWith, takeKeyWith, effect, takeKey, Action.state_bind, Action.state_bind]
      cases m.devices.keypad.firstPressed? with
      | none =>
          dsimp only
          rw [changeRegisters_apply, fixes.goTo_eq (by omega) (by omega)]
          rfl
      | some key => rfl
  | _ => rfl

theorem performWith_of_fixes (fixes : Fixes reduction) (bounded : m.registers.Bounded)
    (fetched : m.registers.Fetched) {op : Opcode} (fits : op.Fits) :
    performWith reduction op m = chip8.execute op m := by
  obtain ⟨low, high⟩ := id fetched
  rw [← performWith_remainder op]
  unfold performWith
  cases found : Instruction.ofOpcode? op with
  | none =>
      dsimp only
      rw [Action.state_bind, Action.state_bind, fixes _ (by omega) (by omega),
        show (m.registers.pc - 2) % 65536 = m.registers.pc - 2 by omega]
  | some instruction =>
      have operands := (Instruction.denotes_of_found found).fits fits
      dsimp only
      rw [executeWith_remainder, execute_of_fits operands, executeWith,
        missingRegister?_of_fits operands]
      exact effectWith_of_fixes fixes bounded fetched operands

/-- **In its bounds a machine cannot tell its cycle from one under a reduction that leaves the
addresses of a bounded machine alone.** -/
theorem stepWith_of_fixes (fixes : Fixes reduction) (bounded : m.Bounded capacity width height) :
    stepWith reduction m = step m := by
  by_cases inside : m.Inside
  · obtain ⟨kept, fetched⟩ := bounded.fetched inside
    obtain ⟨nonneg, below⟩ := id inside
    rw [bounded.memory.size] at below
    have moved : m.registers.goTo reduction (m.registers.pc + 2) = m.registers.advance :=
      fixes.goTo_eq (by omega) (by omega)
    have start : stepWith reduction m =
        (performWith reduction m.opcode >>= fun _ => chip8.record m.opcode) m.fetched := by
      rw [stepWith, Action.update_bind, Action.state_bind,
        show m.dropLog.registers.pc = m.registers.pc from rfl,
        Action.bind_of_ok (fetch_word inside), changeRegisters_bind,
        show m.dropLog.registers = m.registers from rfl, moved]
      rfl
    rw [start, step_of_inside inside]
    exact Action.bind_congr_first
      (performWith_of_fixes fixes kept.registers fetched m.opcode_fits)
  · rw [step_of_outside inside, stepWith, Action.update_bind, Action.state_bind]
    exact Action.bind_of_error (withMemory_of_error (Memory.fetch_of_outside inside))

end Machine

end Chip8
