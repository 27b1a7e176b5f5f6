import Chip8.Proofs.Cycle

/-!
# The bounds of a machine

A machine with the usual 4096 cells never leaves narrow bounds.  The program counter is read by
the fetch, which fails beyond the last cell, so that an instruction is executed with a program
counter of at most `0x1001` (`Fetched`).  From there it goes to a skipped word, to an address of
twelve bits, possibly with a byte added to it, or to an address that a call has remembered,
which was the program counter at some other execution.  This bounds both the program counter and
the remembered addresses (`Bounded`), and each bound needs the other.

Every instruction keeps the bounds (`bounded_effect`), and so does every cycle, also when it
fails (`bounded_step`).
-/

namespace Chip8

set_option autoImplicit false

/-! ## Registers -/

namespace Registers

/-- The bounds of the registers. -/
structure Bounded (r : Registers) : Prop where
  bytes : ∀ x : Int, r.get x < 256
  index : 0 ≤ r.index ∧ r.index < 65536
  delay : IsByte r.delay
  sound : IsByte r.sound
  pc : 0 ≤ r.pc ∧ r.pc ≤ 0x10FE

/-- The bounds of the program counter while an instruction is executed. -/
def Fetched (r : Registers) : Prop := 2 ≤ r.pc ∧ r.pc ≤ 0x1001

variable {r : Registers}

theorem bounded_initial : initial.Bounded where
  bytes := fun x => by
    rw [get_initial]
    decide
  index := by decide
  delay := by unfold IsByte; decide
  sound := by unfold IsByte; decide
  pc := by decide

theorem Bounded.set (bounded : r.Bounded) (x : Int) {value : Nat} (byte : value < 256) :
    (r.set x value).Bounded where
  bytes := by
    intro y
    rw [get_set]
    split
    · exact byte
    · exact bounded.bytes y
  index := bounded.index
  delay := bounded.delay
  sound := bounded.sound
  pc := bounded.pc

theorem Bounded.setFlag (bounded : r.Bounded) (value : Int) : (r.setFlag value).Bounded where
  bytes := by
    intro y
    rw [get_setFlag]
    split
    · omega
    · exact bounded.bytes y
  index := bounded.index
  delay := bounded.delay
  sound := bounded.sound
  pc := bounded.pc

theorem Bounded.loaded (bounded : r.Bounded) (first : Nat) {values : List Nat}
    (bytes : ∀ value ∈ values, value < 256) : (r.loaded first values).Bounded := by
  induction values generalizing r first with
  | nil => exact bounded
  | cons value rest ih =>
      exact ih (bounded.set _ (bytes value (.head rest)))
        (first + 1) fun later inside => bytes later (.tail value inside)

theorem Bounded.skipIf (bounded : r.Bounded) (fetched : r.Fetched) (condition : Bool) :
    (r.skipIf condition).Bounded := by
  obtain ⟨low, high⟩ := fetched
  unfold Registers.skipIf
  split
  · exact { bounded with pc := by simp only [advance]; omega }
  · exact bounded

theorem Bounded.retreat (bounded : r.Bounded) (fetched : r.Fetched) : r.retreat.Bounded := by
  obtain ⟨low, high⟩ := fetched
  exact { bounded with pc := by simp only [Registers.retreat]; omega }

theorem Bounded.jumpTo (bounded : r.Bounded) {address : Int} (nonneg : 0 ≤ address)
    (small : address ≤ 0x10FE) : (r.jumpTo address).Bounded :=
  { bounded with pc := by simp only [Registers.jumpTo]; omega }

theorem Bounded.withIndex (bounded : r.Bounded) {address : Int} (nonneg : 0 ≤ address)
    (small : address < 65536) : Bounded { r with index := address } :=
  { bounded with index := ⟨nonneg, small⟩ }

theorem Bounded.atGlyph (bounded : r.Bounded) (x : Int) {start height : Nat}
    (small : start + 15 * height < 65536) :
    Bounded { r with index := start + r.get x % 16 * height } := by
  have digit : r.get x % 16 ≤ 15 := by omega
  have offset : r.get x % 16 * height ≤ 15 * height := Nat.mul_le_mul_right height digit
  have address : (start : Int) + r.get x % 16 * height =
      ((start + r.get x % 16 * height : Nat) : Int) := by push_cast; rfl
  rw [address]
  exact bounded.withIndex (Int.natCast_nonneg _) (by omega)

theorem Bounded.withDelay (bounded : r.Bounded) {value : Nat} (byte : value < 256) :
    Bounded { r with delay := value } :=
  { bounded with delay := ⟨Int.natCast_nonneg value, by dsimp only; omega⟩ }

theorem Bounded.withSound (bounded : r.Bounded) {value : Nat} (byte : value < 256) :
    Bounded { r with sound := value } :=
  { bounded with sound := ⟨Int.natCast_nonneg value, by dsimp only; omega⟩ }

theorem Bounded.elapse (bounded : r.Bounded) (ticks : Int) : (r.elapse ticks).Bounded := by
  have delay := bounded.delay
  have sound := bounded.sound
  unfold IsByte at delay sound
  unfold Registers.elapse
  split
  · exact bounded
  · exact { bounded with
      delay := by simp only [IsByte]; omega
      sound := by simp only [IsByte]; omega }

/-! ### Arithmetic -/

theorem Bounded.addPlain (bounded : r.Bounded) (x : Int) (value : Nat) :
    (Machine.addPlain x value r).Bounded :=
  bounded.set x (Nat.mod_lt _ (by decide))

theorem Bounded.addWithCarry (bounded : r.Bounded) (x : Int) (value : Nat) :
    (Machine.addWithCarry x value r).Bounded :=
  (bounded.set x (Nat.mod_lt _ (by decide))).setFlag _

theorem Bounded.takeDifference (bounded : r.Bounded) (x : Int) (minuend subtrahend : Nat) :
    (Machine.takeDifference x minuend subtrahend r).Bounded :=
  (bounded.setFlag _).set x (by omega)

theorem Bounded.halve (bounded : r.Bounded) (x : Int) : (Machine.halve x r).Bounded := by
  have byte := bounded.bytes x
  exact (bounded.setFlag _).set x (by omega)

theorem Bounded.double (bounded : r.Bounded) (x : Int) : (Machine.double x r).Bounded :=
  (bounded.setFlag _).set x (Nat.mod_lt _ (by decide))

theorem Bounded.addToIndex (bounded : r.Bounded) (value : Nat) :
    (Machine.addToIndex value r).Bounded :=
  { bounded.setFlag (if 0x0FFF < r.index + value then 1 else 0) with
    index := ⟨by simp only [Machine.addToIndex]; omega, by simp only [Machine.addToIndex]; omega⟩ }

end Registers

/-! ## Memory -/

namespace Memory

/-- The bounds of a memory whose stack has a given capacity. -/
structure Bounded (capacity : Nat) (memory : Memory) : Prop where
  size : memory.size = 4096
  room : memory.stack.capacity = capacity
  depth : memory.stack.depth ≤ capacity
  returns : ∀ address ∈ memory.stack.returns, address ≤ 0x1001

variable {capacity : Nat} {memory : Memory}

/-- An operation that leaves the size and the stack alone keeps the bounds. -/
theorem Bounded.of_same (bounded : memory.Bounded capacity) {later : Memory}
    (size : later.size = memory.size) (stack : later.stack = memory.stack) :
    later.Bounded capacity where
  size := by rw [size, bounded.size]
  room := by rw [stack, bounded.room]
  depth := by rw [stack]; exact bounded.depth
  returns := by rw [stack]; exact bounded.returns

theorem Bounded.stored (bounded : memory.Bounded capacity) (start : Nat) (bytes : List UInt8) :
    (memory.stored start bytes).Bounded capacity :=
  bounded.of_same (size_stored memory start bytes) (stack_stored memory start bytes)

theorem Bounded.visited (bounded : memory.Bounded capacity) (start count : Nat) :
    (memory.visited start count).Bounded capacity :=
  bounded.of_same (size_visited memory start count) (stack_visited memory start count)

theorem Bounded.setBytes (bounded : memory.Bounded capacity) (start : Nat) (bytes : List UInt8) :
    (memory.setBytes start bytes).Bounded capacity :=
  bounded.of_same (size_setBytes memory start bytes) (stack_setBytes memory start bytes)

theorem Bounded.clear (bounded : memory.Bounded capacity) : memory.clear.Bounded capacity where
  size := by rw [size_clear, bounded.size]
  room := bounded.room
  depth := Nat.zero_le capacity
  returns := by
    intro address inside
    cases inside

/-- Remembering an address that is in bounds keeps the bounds if there is room. -/
theorem Bounded.push (bounded : memory.Bounded capacity) {address : Nat}
    (small : address ≤ 0x1001) (room : memory.stack.depth < memory.stack.capacity) :
    Bounded capacity
      { memory with stack.returns := address :: memory.stack.returns } where
  size := bounded.size
  room := bounded.room
  depth := by
    rw [bounded.room] at room
    exact room
  returns := List.forall_mem_cons.mpr ⟨small, bounded.returns⟩

theorem Bounded.pop (bounded : memory.Bounded capacity) {address : Nat} {outer : List Nat}
    (call : memory.stack.returns = address :: outer) :
    Bounded capacity { memory with stack.returns := outer } where
  size := bounded.size
  room := bounded.room
  depth := by
    have depth := bounded.depth
    rw [CallStack.depth, call, List.length_cons] at depth
    exact Nat.le_of_succ_le depth
  returns := by
    have returns := bounded.returns
    rw [call] at returns
    exact fun later inside => returns later (.tail address inside)

end Memory

/-! ## The screen -/

namespace Framebuffer

variable {width height : Int} {screen : Framebuffer}

/-- A screen of the given sizes. -/
def Sized (width height : Int) (screen : Framebuffer) : Prop :=
  screen.width = width ∧ screen.height = height

theorem Sized.clear (sized : screen.Sized width height) : screen.clear.Sized width height := sized

theorem Sized.put (sized : screen.Sized width height) (row column : Nat) (on : Bool) :
    (screen.put row column on).Sized width height := sized

theorem Sized.set (sized : screen.Sized width height) {row column : Int} {on : Bool}
    {later : Framebuffer} (written : screen.set row column on = .ok later) :
    later.Sized width height := by
  unfold Framebuffer.set at written
  split at written
  · cases written
    exact sized.put row.toNat column.toNat on
  · cases written

theorem Sized.flipByte (sized : screen.Sized width height) (row column byte : Nat) :
    (screen.flipByte row column byte).1.Sized width height := by
  unfold Framebuffer.flipByte
  refine List.foldlRecOn (motive := fun drawn : Framebuffer × Bool =>
    drawn.1.Sized width height) _ _ sized ?_
  rintro ⟨drawn, erased⟩ kept bit _
  dsimp only at kept ⊢
  split
  · exact kept.put _ _ _
  · exact kept

end Framebuffer

/-! ## The machine -/

namespace Machine

/-- The bounds of a machine whose stack and screen have given sizes. -/
structure Bounded (capacity : Nat) (width height : Int) (m : Machine) : Prop where
  registers : m.registers.Bounded
  memory : m.memory.Bounded capacity
  screen : m.devices.screen.Sized width height

variable {capacity : Nat} {width height : Int} {m : Machine}

theorem Bounded.wellFormed (bounded : m.Bounded capacity width height) (wide : 0 < width)
    (high : 0 < height) : m.WellFormed where
  bytes := bounded.registers.bytes
  pc := by
    obtain ⟨low, small⟩ := bounded.registers.pc
    omega
  index := bounded.registers.index
  width := by rwa [bounded.screen.1]
  height := by rwa [bounded.screen.2]

/-- The fetch keeps the bounds, and it bounds the program counter more tightly. -/
theorem Bounded.fetched (bounded : m.Bounded capacity width height) (inside : m.Inside) :
    m.fetched.Bounded capacity width height ∧ m.fetched.registers.Fetched := by
  obtain ⟨nonneg, below⟩ := inside
  rw [bounded.memory.size] at below
  have moved : m.fetched.registers.pc = m.registers.pc + 2 := by
    simp only [Machine.fetched, Registers.advance]
    omega
  refine ⟨{ bounded with
    registers := { bounded.registers with pc := by omega }
    memory := bounded.memory.of_same rfl rfl }, ?_⟩
  simp only [Registers.Fetched]
  omega

theorem Bounded.counted (bounded : m.Bounded capacity width height) :
    m.counted.Bounded capacity width height :=
  { bounded with memory := bounded.memory.of_same rfl rfl }

/-! ### Instructions -/

theorem Bounded.drawnRow (bounded : m.Bounded capacity width height) (column row place : Nat) :
    (drawnRow column row place m).Bounded capacity width height where
  registers := by
    simp only [Machine.drawnRow]
    split
    · exact bounded.registers.setFlag 1
    · exact bounded.registers
  memory := bounded.memory.visited place 1
  screen := bounded.screen.flipByte row column (m.memory.byte place)

theorem Bounded.drawnRows (bounded : m.Bounded capacity width height) (column top start : Nat)
    (count row : Nat) :
    (drawnRows column top start count row m).Bounded capacity width height := by
  induction count generalizing row m with
  | zero => exact bounded
  | succ count ih =>
      rw [Machine.drawnRows]
      split
      · exact bounded
      · exact ih (bounded.drawnRow column (top + row) (start + row)) (row + 1)

/-- **Every instruction keeps the bounds.** -/
theorem bounded_effect (bounded : m.Bounded capacity width height) (wide : 0 < width)
    (high : 0 < height) (fetched : m.registers.Fetched) {instruction : Instruction}
    (fits : instruction.Fits) (clear : m.obstacle? instruction = none) :
    (effect instruction m).state.Bounded capacity width height := by
  have wf := bounded.wellFormed wide high
  have at_start := wf.index_eq
  have r := bounded.registers
  have x_byte (x : Int) : m.registers.get x < 2 ^ 8 := r.bytes x
  cases instruction with
  | clearScreen => exact { bounded with screen := bounded.screen.clear }
  | leave =>
      simp only [obstacle?, ite_eq_right_iff, reduceCtorEq, imp_false] at clear
      obtain ⟨address, outer, call⟩ := List.exists_cons_of_ne_nil clear
      have small := bounded.memory.returns address (by rw [call]; exact .head outer)
      rw [effect, leave_of_call call]
      exact { bounded with
        registers := { r with pc := by dsimp only; omega }
        memory := bounded.memory.pop call }
  | call address =>
      obtain ⟨nonneg, small⟩ := fits
      simp only [obstacle?, ite_eq_left_iff, reduceCtorEq, imp_false, Decidable.not_not] at clear
      obtain ⟨_, after⟩ := fetched
      rw [effect, enter_of_room clear]
      exact { bounded with
        registers := r.jumpTo nonneg (by omega)
        memory := bounded.memory.push (by omega) clear }
  | system address | jump address =>
      obtain ⟨nonneg, small⟩ := fits
      exact { bounded with registers := r.jumpTo nonneg (by omega) }
  | jumpOffset address =>
      obtain ⟨nonneg, small⟩ := fits
      have byte := r.bytes 0
      exact { bounded with registers := r.jumpTo (by omega) (by omega) }
  | skipIfByte x byte | skipUnlessByte x byte =>
      exact { bounded with registers := r.skipIf fetched _ }
  | skipIfEqual x y | skipUnlessEqual x y =>
      exact { bounded with registers := r.skipIf fetched _ }
  | skipIfPressed x | skipUnlessPressed x =>
      exact { bounded with registers := r.skipIf fetched _ }
  | setByte x byte =>
      obtain ⟨_, nonneg, small⟩ := fits
      exact { bounded with registers := r.set x (by omega) }
  | addByte x byte => exact { bounded with registers := r.addPlain x _ }
  | copy x y => exact { bounded with registers := r.set x (r.bytes y) }
  | or x y => exact { bounded with registers := r.set x (Nat.or_lt_two_pow (x_byte x) (x_byte y)) }
  | and x y => exact { bounded with registers := r.set x (Nat.and_lt_two_pow _ (x_byte y)) }
  | xor x y =>
      exact { bounded with registers := r.set x (Nat.xor_lt_two_pow (x_byte x) (x_byte y)) }
  | add x y => exact { bounded with registers := r.addWithCarry x _ }
  | subtract x y | subtractFrom x y => exact { bounded with registers := r.takeDifference x _ _ }
  | shiftRight x => exact { bounded with registers := r.halve x }
  | shiftLeft x => exact { bounded with registers := r.double x }
  | setIndex address =>
      obtain ⟨nonneg, small⟩ := fits
      exact { bounded with registers := r.withIndex nonneg (by omega) }
  | random x mask =>
      have byte : m.devices.random.draw.1.toNat < 256 := UInt8.toNat_lt _
      rw [effect, takeRandom_of_nibble fits.1 mask]
      exact { bounded with registers := r.set x (Nat.lt_of_le_of_lt Nat.and_le_left byte) }
  | draw x y rows =>
      have inside := fits_of_missingCells?_eq_none clear
      rw [effect, draw_of_fits fits.1 fits.2.1 fits.2.2 wf.width wf.height at_start (by omega)]
      have flagged : Bounded capacity width height { m with registers := m.registers.setFlag 0 } :=
        { bounded with registers := r.setFlag 0 }
      exact flagged.drawnRows _ _ _ _ _
  | readDelay x =>
      obtain ⟨nonneg, small⟩ := r.delay
      exact { bounded with registers := r.set x (by omega) }
  | awaitKey x =>
      cases pressed : m.devices.keypad.firstPressed? with
      | none =>
          rw [effect, takeKey_of_none pressed]
          exact { bounded with registers := r.retreat fetched }
      | some key =>
          rw [effect, takeKey_of_key fits pressed]
          exact { bounded with registers := r.set x (by omega) }
  | setDelay x => exact { bounded with registers := r.withDelay (r.bytes x) }
  | setSound x => exact { bounded with registers := r.withSound (r.bytes x) }
  | addIndex x => exact { bounded with registers := r.addToIndex _ }
  | smallGlyph x => exact { bounded with registers := r.atGlyph x (by decide) }
  | largeGlyph x => exact { bounded with registers := r.atGlyph x (by decide) }
  | storeDecimal x =>
      have inside := fits_of_missingCells?_eq_none clear
      rw [effect, storeDigits_of_fits x at_start (by omega)]
      exact { bounded with memory := bounded.memory.stored _ _ }
  | storeRegisters x =>
      have inside := fits_of_missingCells?_eq_none clear
      obtain ⟨nonneg, _⟩ := id fits
      rw [effect, storeAll_of_fits fits at_start (fun k _ => wf.bytes k) (by omega)]
      exact { bounded with memory := bounded.memory.stored _ _ }
  | loadRegisters x =>
      have inside := fits_of_missingCells?_eq_none clear
      obtain ⟨nonneg, _⟩ := id fits
      rw [effect, loadAll_of_fits fits at_start (by omega)]
      exact { bounded with
        registers := r.loaded 0 (by
          simp only [Memory.bytesFrom, List.mem_map]
          rintro value ⟨address, _, rfl⟩
          exact m.memory.byte_lt address)
        memory := bounded.memory.visited _ _ }

/-- **Every cycle keeps the bounds, also one that fails.** -/
theorem bounded_step (bounded : m.Bounded capacity width height) (wide : 0 < width)
    (high : 0 < height) : (step m).state.Bounded capacity width height := by
  rcases step_cases (bounded.wellFormed wide high) with ⟨_, ran⟩ |
    ⟨instruction, fault, inside, _, _, ran⟩ | ⟨instruction, inside, denotes, clear, ran⟩ |
    ⟨inside, _, ran⟩
  · rw [ran]
    exact { bounded with memory := bounded.memory.of_same rfl rfl }
  · rw [ran]
    exact (bounded.fetched inside).1
  · rw [ran]
    obtain ⟨kept, fetched⟩ := bounded.fetched inside
    exact (bounded_effect kept wide high fetched (denotes.fits m.opcode_fits) clear).counted
  · rw [ran]
    exact (bounded.fetched inside).1.counted

end Machine

end Chip8
