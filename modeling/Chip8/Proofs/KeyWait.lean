import Chip8.Proofs.Confinement
import Mathlib.Order.Bounds.Basic

/-!
# Waiting for a key

There is no halted state: a machine that waits for a key executes the same word again and again.
The cycle moves the program counter on and the instruction moves it back, both modulo 65536, so that
at any address of sixteen bits the machine is as it was before, but for the count of its cycles
(`step_of_idle`).  In a larger memory the program counter can be put further on, and a wait brings
it back into the range of sixteen bits (`wait_beyond_sixteen_bits_moves`).

So however often the machine ticks, and whatever the source of ticks gives or fails to give, only
the timers go down (`Rested`).  Once some keys are down the next cycle takes the least of them and
goes on (`waits_for_key`).
-/

namespace Chip8

set_option autoImplicit false

theorem Registers.retreat_advance {r : Registers} (nonneg : 0 ≤ r.pc) (below : r.pc < 65536) :
    r.advance.retreat = r := by
  have back : ((r.pc + 2) % 65536 - 2) % 65536 = r.pc := by omega
  show { r with pc := ((r.pc + 2) % 65536 - 2) % 65536 } = r
  rw [back]

/-- Of the keys that are down, if there are any, the first one is the least. -/
theorem Keypad.exists_isLeast {keypad : Keypad} (pressed : ∃ key, keypad.isDown key = true) :
    ∃ key, IsLeast {key | keypad.isDown key = true} key ∧ keypad.firstPressed? = some key := by
  obtain ⟨down, is_down⟩ := pressed
  cases found : keypad.firstPressed? with
  | none =>
      rw [firstPressed?_eq_none_iff.mp found down] at is_down
      cases is_down
  | some key =>
      obtain ⟨first, below⟩ := firstPressed?_eq_some_iff.mp found
      refine ⟨key, ⟨first, fun other other_down => Fin.not_lt.mp fun less => ?_⟩, rfl⟩
      exact Bool.false_ne_true ((below other less).symm.trans other_down)

namespace Machine

variable {m middle after : Machine} {x : Fin 16} {k n : Nat}

/-! ## One cycle -/

/-- The program counter points at the word that waits for a key and puts its number into a
register. -/
structure AtWait (m : Machine) (x : Fin 16) : Prop where
  inside : m.Inside
  word : m.word = 0xF00A + 0x100 * x

theorem AtWait.denotes (at_wait : m.AtWait x) :
    Instruction.Denotes m.opcode (.awaitKey (x : Nat)) := by
  obtain ⟨family, register, code⟩ := fields_of_transfer 0x0A (by decide) at_wait.word
  exact register ▸ .awaitKey family code

/-- No key is down. -/
def Idle (m : Machine) : Prop := ∀ key, m.devices.keypad.isDown key = false

instance (m : Machine) : Decidable m.Idle := inferInstanceAs (Decidable (∀ _, _))

/-- A cycle that waits with no key down moves the program counter on and back. -/
theorem step_of_no_key (at_wait : m.AtWait x) (idle : m.Idle) :
    ∃ record, step m =
      ⟨{ m.counted with registers := m.registers.advance.retreat }, .ok record, []⟩ := by
  have effect_ok : effect (.awaitKey (x : Nat)) m.fetched =
      ⟨{ m.fetched with registers := m.fetched.registers.retreat }, .ok (), []⟩ :=
    takeKey_of_none (Keypad.firstPressed?_eq_none_iff.mpr idle)
  exact ⟨_, step_of_effect at_wait.inside at_wait.denotes effect_ok⟩

/-- **A cycle that waits with no key down** is counted, and that is all. -/
theorem step_of_idle (at_wait : m.AtWait x) (sixteen_bits : m.registers.pc < 65536)
    (idle : m.Idle) : ∃ record, step m = ⟨m.counted, .ok record, []⟩ := by
  obtain ⟨record, cycle⟩ := step_of_no_key at_wait idle
  rw [Registers.retreat_advance at_wait.inside.1 sixteen_bits] at cycle
  exact ⟨record, cycle⟩

/-- **A cycle that waits with a key down** puts the least one into the register and goes on. -/
theorem step_of_pressed (at_wait : m.AtWait x) {key : Fin 16}
    (first : m.devices.keypad.firstPressed? = some key) :
    ∃ record, step m =
      ⟨{ m with
          registers := { m.registers.set (x : Nat) key with pc := (m.registers.pc + 2) % 65536 }
          memory.log := []
          cycles := m.cycles + 1 }, .ok record, []⟩ := by
  have effect_ok : effect (.awaitKey (x : Nat)) m.fetched =
      ⟨{ m.fetched with registers := m.fetched.registers.set (x : Nat) key }, .ok (), []⟩ :=
    takeKey_of_key (isNibble_fin x) first
  exact ⟨_, step_of_effect at_wait.inside at_wait.denotes effect_ok⟩

/-! ## Any number of ticks -/

/-- After a number of cycles only their count is another, and the timers have gone down by some
ticks. -/
structure Rested (m : Machine) (n : Nat) (after : Machine) : Prop where
  general : after.registers.v = m.registers.v
  index : after.registers.index = m.registers.index
  counter : after.registers.pc = m.registers.pc
  cells : after.memory.cells = m.memory.cells
  stack : after.memory.stack = m.memory.stack
  screen : after.devices.screen = m.devices.screen
  keypad : after.devices.keypad = m.devices.keypad
  random : after.devices.random = m.devices.random
  cycles : after.cycles = m.cycles + n
  timers : ∃ ticks, 0 ≤ ticks ∧ ∀ timer,
    after.registers.timer timer = Timer.left (m.registers.timer timer) ticks

theorem Rested.refl (m : Machine) : m.Rested 0 m :=
  ⟨rfl, rfl, rfl, rfl, rfl, rfl, rfl, rfl, rfl, 0, Int.le_refl 0, fun _ => rfl⟩

theorem Rested.trans (first : m.Rested k middle) (second : middle.Rested n after) :
    m.Rested (k + n) after where
  general := second.general.trans first.general
  index := second.index.trans first.index
  counter := second.counter.trans first.counter
  cells := second.cells.trans first.cells
  stack := second.stack.trans first.stack
  screen := second.screen.trans first.screen
  keypad := second.keypad.trans first.keypad
  random := second.random.trans first.random
  cycles := by rw [second.cycles, first.cycles, Nat.add_assoc]
  timers := by
    obtain ⟨some, nonneg, early⟩ := first.timers
    obtain ⟨more, nonneg_more, late⟩ := second.timers
    refine ⟨some + more, Int.add_nonneg nonneg nonneg_more, fun timer => ?_⟩
    rw [late, early, Timer.left_left _ nonneg nonneg_more]

/-- A machine that has rested waits as before. -/
theorem Rested.atWait (rested : m.Rested n after) (at_wait : m.AtWait x) : after.AtWait x := by
  obtain ⟨⟨nonneg, below⟩, word⟩ := at_wait
  have size : after.memory.size = m.memory.size := congrArg Array.size rested.cells
  have same_word : after.word = m.word := by
    rw [Machine.word, rested.counter, Memory.window_of_cells rested.cells, Machine.word]
  refine ⟨⟨?_, ?_⟩, same_word.trans word⟩
  · rwa [rested.counter]
  · rwa [rested.counter, size]

theorem Rested.idle (rested : m.Rested n after) (idle : m.Idle) : after.Idle := by
  intro key
  rw [rested.keypad]
  exact idle key

/-- **A tick of a machine that waits** leaves it resting, also if the source of ticks fails. -/
theorem rested_tick (at_wait : m.AtWait x) (sixteen_bits : m.registers.pc < 65536)
    (idle : m.Idle) : m.Rested 1 (tick m).state := by
  obtain ⟨record, cycle⟩ := step_of_idle at_wait sixteen_bits idle
  rw [tick_of_ok cycle]
  cases taken : (TickSource.take m.counted.devices.ticks).result with
  | error fault =>
      rw [updateTimers_of_error taken]
      exact ⟨rfl, rfl, rfl, rfl, rfl, rfl, rfl, rfl, rfl, 0, Int.le_refl 0, fun _ => rfl⟩
  | ok count =>
      rw [updateTimers_of_ok taken]
      refine ⟨Registers.v_elapse _ _, Registers.index_elapse _ _, Registers.pc_elapse _ _, rfl, rfl,
        rfl, rfl, rfl, rfl, max 0 count, Int.le_max_left _ _, fun timer => ?_⟩
      rw [Timer.left_max]
      exact Registers.timer_elapse _ _ _

/-- A run of ticks.  Before every one there may be another source of ticks, or the same one at a
later time; nothing else happens between them. -/
inductive TicksOnly : Machine → Nat → Machine → Prop where
  | rest {m : Machine} : TicksOnly m 0 m
  | tick {m after : Machine} {n : Nat} (source : TickSource) :
      TicksOnly (Machine.tick { m with devices.ticks := source }).state n after →
      TicksOnly m (n + 1) after

/-- **A run of ticks leaves a machine that waits resting.** -/
theorem TicksOnly.rested (ran : TicksOnly m n after) (at_wait : m.AtWait x)
    (sixteen_bits : m.registers.pc < 65536) (idle : m.Idle) : m.Rested n after := by
  induction ran with
  | rest => exact .refl _
  | @tick m after n source _ ih =>
      have changed : m.Rested 0 { m with devices.ticks := source } := { Rested.refl m with }
      have once := changed.trans
        (rested_tick (changed.atWait at_wait) sixteen_bits (changed.idle idle))
      have sixteen_bits_later := once.counter.trans_lt sixteen_bits
      have all := once.trans (ih (once.atWait at_wait) sixteen_bits_later (once.idle idle))
      rwa [show 0 + 1 + n = n + 1 by omega] at all

/-- What becomes of a machine that waits for a key. -/
structure WaitsForKey (m : Machine) (x : Fin 16) (n : Nat) (after : Machine) : Prop where
  rested : m.Rested n after
  /-- The wait does not end in a fault of its own: a tick fails only if the source does. -/
  ticks : ∀ source count, (TickSource.take source).result = .ok count →
    ∃ record, (tick { after with devices.ticks := source }).result = .ok record
  /-- Only the register, the program counter, the count of cycles and the log are others once keys
  are down. -/
  leaves : ∀ keypad : Keypad, (∃ key, keypad.isDown key = true) →
    ∃ key record, IsLeast {key | keypad.isDown key = true} key ∧
      step { after with devices.keypad := keypad } =
        ⟨{ after with
            devices.keypad := keypad
            registers :=
              { after.registers.set (x : Nat) key with pc := (m.registers.pc + 2) % 65536 }
            memory.log := []
            cycles := after.cycles + 1 }, .ok record, []⟩

/-- **Waiting for a key is nothing but waiting**, where the program counter has sixteen bits.  While
no key is down any number of ticks leaves a machine as it was, but for its timers and the count of
its cycles; and once some keys are down the next cycle puts the least of them into the register and
goes on to the next word. -/
theorem waits_for_key (at_wait : m.AtWait x) (sixteen_bits : m.registers.pc < 65536)
    (idle : m.Idle) (ran : TicksOnly m n after) : m.WaitsForKey x n after := by
  have rested := ran.rested at_wait sixteen_bits idle
  refine ⟨rested, fun source count answer => ?_, fun keypad pressed => ?_⟩
  · have changed : m.Rested n { after with devices.ticks := source } := { rested with }
    have sixteen_bits_later := changed.counter.trans_lt sixteen_bits
    obtain ⟨record, cycle⟩ :=
      step_of_idle (changed.atWait at_wait) sixteen_bits_later (changed.idle idle)
    exact ⟨record, by rw [tick_of_answer cycle answer]⟩
  · obtain ⟨inside, word⟩ := rested.atWait at_wait
    have at_wait_later : AtWait { after with devices.keypad := keypad } x := ⟨inside, word⟩
    obtain ⟨key, least, first⟩ := Keypad.exists_isLeast pressed
    obtain ⟨record, cycle⟩ := step_of_pressed at_wait_later first
    rw [← rested.counter]
    exact ⟨key, record, least, cycle⟩

/-- A machine that waits for a key with both timers running. -/
def waiting : Machine :=
  { ofWord 0xF5 0x0A .everyCycle with
    registers := { Registers.initial with pc := 0, delay := 5, sound := 1 } }

/-- That machine after three ticks, before each of which it got another source of ticks. -/
def waitedLong : Machine :=
  [.listed [2], .listed [-1], .everyCycle].foldl
    (fun m source => (tick { m with devices.ticks := source }).state) waiting

/-- The keypad on which two keys are down. -/
def twoKeys : Keypad := ⟨(Keypad.idle.down.set 0xB true).set 0x3 true⟩

/-- Its timers go down by three ticks, and of the two keys the lower one ends the wait. -/
theorem lower_key_ends_wait :
    waiting.AtWait 5 ∧ waiting.registers.pc < 65536 ∧ waiting.Idle ∧
      TicksOnly waiting 3 waitedLong ∧
      waitedLong.registers.delay = 2 ∧ waitedLong.registers.sound = 0 ∧
      ∃ next record, step { waitedLong with devices.keypad := twoKeys } = ⟨next, .ok record, []⟩ ∧
        next.registers.get 5 = 3 ∧ next.registers.pc = 2 ∧ next.cycles = 4 := by
  have at_wait : waiting.AtWait 5 := ⟨by decide, by decide⟩
  have idle : waiting.Idle := by decide
  have ran : TicksOnly waiting 3 waitedLong := .tick _ (.tick _ (.tick _ .rest))
  have waits := waits_for_key at_wait (by decide) idle ran
  have lower : ∀ key, twoKeys.isDown key = true → 3 ≤ key := by decide
  have least : IsLeast {key | twoKeys.isDown key = true} 3 := ⟨by decide, fun key => lower key⟩
  obtain ⟨key, record, down, cycle⟩ := waits.leaves twoKeys ⟨3, least.1⟩
  obtain rfl := down.unique least
  exact ⟨at_wait, by decide, idle, ran, rfl, rfl, _, record, cycle, by decide, rfl, rfl⟩

/-- A machine with more memory than sixteen bits can address, which waits for a key beyond them. -/
def waitingBeyond : Machine :=
  { ofWord 0xF0 0x0A .everyCycle with
    registers := { Registers.initial with pc := 65536 }
    memory.cells := Array.replicate 65536 0 ++ #[0xF0, 0x0A] }

theorem atWait_waitingBeyond : waitingBeyond.AtWait 0 := by
  have size : waitingBeyond.memory.size = 65538 := by
    simp [waitingBeyond, Memory.size]
  refine ⟨⟨by decide, ?_⟩, ?_⟩
  · rw [size]
    decide
  · have byte (place : Nat) : waitingBeyond.memory.byte (65536 + place) =
        ((#[0xF0, 0x0A] : Array UInt8)[place]?.getD 0).toNat := by
      have beyond : ¬ 65536 + place < 65536 := by omega
      simp only [waitingBeyond, Memory.byte, Array.getElem?_append, Array.size_replicate,
        if_neg beyond, Nat.add_sub_cancel_left]
    have high : waitingBeyond.memory.byte 65536 = 0xF0 := byte 0
    have low : waitingBeyond.memory.byte (65536 + 1) = 0x0A := byte 1
    have counter : waitingBeyond.registers.pc.toNat = 65536 := by decide
    rw [Machine.word, counter, Memory.window, high, low]
    rfl

/-- **Beyond sixteen bits a wait moves the program counter.** -/
theorem wait_beyond_sixteen_bits_moves :
    waitingBeyond.AtWait 0 ∧ waitingBeyond.Idle ∧
      TicksOnly waitingBeyond 1 (tick waitingBeyond).state ∧
      waitingBeyond.registers.pc = 65536 ∧ (tick waitingBeyond).state.registers.pc = 0 ∧
      ¬ waitingBeyond.WaitsForKey 0 1 (tick waitingBeyond).state := by
  have idle : waitingBeyond.Idle := by
    intro key
    revert key
    decide
  have ran : TicksOnly waitingBeyond 1 (tick waitingBeyond).state := .tick .everyCycle .rest
  have moved : (tick waitingBeyond).state.registers.pc = 0 := by
    obtain ⟨record, cycle⟩ := step_of_no_key atWait_waitingBeyond idle
    rw [tick_of_ok cycle, updateTimers_of_ok rfl]
    exact Registers.pc_elapse _ _
  refine ⟨atWait_waitingBeyond, idle, ran, rfl, moved, fun waits => ?_⟩
  have unmoved := waits.rested.counter
  rw [moved] at unmoved
  cases unmoved

end Machine

end Chip8
