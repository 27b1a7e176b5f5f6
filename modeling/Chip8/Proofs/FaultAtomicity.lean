import Chip8.Proofs.Cycle

/-!
# Faults are atomic

A cycle of a well-formed machine ends with a fault in six situations, which are read off from
the digits of the word, the index and the call stack (`CycleFault`), and in no other.  Every
instruction makes its tests before its first change, so that a failed cycle leaves the machine
as it was but for the program counter and the log of the fetch (`interrupted`).

A tick fails in one more way: the cycle may succeed and the tick source fail after it.  Then
the machine is the one that the cycle left, and what the cycle did is not undone
(`tick_of_overdue`).
-/

namespace Chip8

set_option autoImplicit false

/-- The faults of a cycle, each with its condition. -/
inductive CycleFault (m : Machine) : Fault → Prop where
  | counter : m.memory.size ≤ m.registers.pc →
      CycleFault m (.addressOutOfRange m.registers.pc m.memory.size)
  | leave : m.registers.pc < m.memory.size → m.word = 0x00EE → m.memory.stack.depth = 0 →
      CycleFault m .stackUnderflow
  | call : m.registers.pc < m.memory.size → m.word / 0x1000 = 0x2 →
      m.memory.stack.capacity ≤ m.memory.stack.depth →
      CycleFault m (.stackOverflow m.memory.stack.capacity ((m.registers.pc + 2) % 65536))
  | storeDecimal : m.registers.pc < m.memory.size → m.word / 0x1000 = 0xF →
      m.word % 0x100 = 0x33 → m.memory.size ≤ m.registers.index + 2 →
      CycleFault m (.addressOutOfRange (m.memory.firstOutside m.registers.index 3) m.memory.size)
  | transfer (x : Nat) : m.registers.pc < m.memory.size → m.word / 0x1000 = 0xF →
      m.word % 0x100 = 0x55 ∨ m.word % 0x100 = 0x65 → m.word / 0x100 % 0x10 = x →
      m.memory.size ≤ m.registers.index + x →
      CycleFault m
        (.addressOutOfRange (m.memory.firstOutside m.registers.index (x + 1)) m.memory.size)
  | draw (n : Nat) : m.registers.pc < m.memory.size → m.word / 0x1000 = 0xD →
      m.word % 0x10 = n → 0 < n → m.memory.size ≤ m.registers.index + n - 1 →
      CycleFault m (.addressOutOfRange (m.memory.firstOutside m.registers.index n) m.memory.size)

/-! ## Tick sources that fail -/

/-- A clock whose time since the last tick cannot be divided into periods has no number of ticks
that are due. -/
theorem ClockTicks.due_of_undivided {α : Type} [Seconds α] {clock : ClockTicks α} {passed : α}
    {fault : Fault} (difference : Seconds.sub clock.reading clock.reference = .ok passed)
    (undivided : Seconds.div passed clock.period = .error fault) : clock.due = .error fault := by
  rw [due, difference]
  simp only [bind, Except.bind, undivided]

/-- A clock that shows more whole seconds since its last tick than a double can hold fails. -/
theorem TickSource.take_of_beyond (period : ClockTime) {reference reading : Int}
    (beyond : Decimal.beyondDoubles ≤ (reading - reference).natAbs) :
    (take (.clock ⟨period, .whole reference, .whole reading⟩)).result =
      .error .beyondDoubles := by
  have unreadable : (ClockTime.whole (reading - reference)).toDouble = .error .beyondDoubles := by
    rw [ClockTime.toDouble, if_neg (Nat.not_lt.mpr beyond)]
  have undivided : ClockTime.onDoubles (· / ·) (.whole (reading - reference)) period =
      .error .beyondDoubles := by
    rw [ClockTime.onDoubles, unreadable]
  have due : due (.clock ⟨period, .whole reference, .whole reading⟩) = .error .beyondDoubles :=
    ClockTicks.due_of_undivided rfl undivided
  rw [take, due]

namespace Machine

/-- The machine that a failed cycle leaves: the program counter has moved on if the fetch was
possible, and the log holds the fetch. -/
def interrupted (m : Machine) : Machine :=
  if m.registers.pc < m.memory.size then
    { m with
      registers.pc := (m.registers.pc + 2) % 65536
      memory.log := [.read m.registers.pc.toNat m.word] }
  else { m with memory.log := [] }

variable {m : Machine}

theorem WellFormed.inside_iff (wf : m.WellFormed) :
    m.Inside ↔ m.registers.pc < m.memory.size :=
  ⟨fun inside => inside.2, fun below => ⟨wf.pc.1, below⟩⟩

/-! ## The faults of a cycle -/

theorem missingCells?_fetched (m : Machine) (length : Int) :
    m.fetched.missingCells? length = m.missingCells? length := rfl

/-- An instruction at the program counter that meets its obstacle is one of the faults. -/
theorem cycleFault_of_obstacle (inside : m.Inside) {instruction : Instruction} {fault : Fault}
    (denotes : Instruction.Denotes m.opcode instruction)
    (met : m.fetched.obstacle? instruction = some fault) : CycleFault m fault := by
  have below := inside.2
  have family := m.opcode_family
  have word := m.word_lt
  cases denotes with
  | leave in_family code =>
      simp only [obstacle?, Option.ite_none_right_eq_some, Option.some.injEq] at met
      obtain ⟨empty, rfl⟩ := met
      rw [opcode_nnn] at code
      exact .leave below (by omega) (List.length_eq_zero_iff.mpr empty)
  | call in_family =>
      simp only [obstacle?, Option.ite_none_left_eq_some, Option.some.injEq] at met
      obtain ⟨full, rfl⟩ := met
      exact .call below (by omega) (Nat.le_of_not_lt full)
  | draw in_family =>
      rw [obstacle?, missingCells?_fetched, opcode_n] at met
      obtain ⟨⟨positive, reaches⟩, rfl⟩ := missingCells?_eq_some_iff.mp met
      exact .draw _ below (by omega) rfl (by omega) (by omega)
  | storeDecimal in_family code =>
      rw [obstacle?, missingCells?_fetched] at met
      obtain ⟨⟨_, reaches⟩, rfl⟩ := missingCells?_eq_some_iff.mp met
      rw [opcode_nn] at code
      exact .storeDecimal below (by omega) (by omega) (by omega)
  | storeRegisters in_family code =>
      rw [obstacle?, missingCells?_fetched, opcode_x] at met
      obtain ⟨⟨_, reaches⟩, rfl⟩ := missingCells?_eq_some_iff.mp met
      rw [opcode_nn] at code
      exact .transfer _ below (by omega) (.inl (by omega)) rfl (by omega)
  | loadRegisters in_family code =>
      rw [obstacle?, missingCells?_fetched, opcode_x] at met
      obtain ⟨⟨_, reaches⟩, rfl⟩ := missingCells?_eq_some_iff.mp met
      rw [opcode_nn] at code
      exact .transfer _ below (by omega) (.inr (by omega)) rfl (by omega)
  | _ => cases met

/-- Every fault but the one of the fetch is the obstacle of the instruction at the program
counter. -/
theorem obstacle_of_cycleFault (wf : m.WellFormed) {fault : Fault}
    (faulty : CycleFault m fault) :
    (¬ m.Inside ∧ fault = .addressOutOfRange m.registers.pc m.memory.size) ∨
      (m.Inside ∧ ∃ instruction, Instruction.Denotes m.opcode instruction ∧
        m.fetched.obstacle? instruction = some fault) := by
  have family := m.opcode_family
  have nn := m.opcode_nn
  rw [wf.inside_iff]
  cases faulty with
  | counter beyond => exact .inl ⟨by omega, rfl⟩
  | leave below word empty =>
      refine .inr ⟨below, .leave, .leave (by omega) (by rw [opcode_nnn]; omega), ?_⟩
      exact if_pos (List.length_eq_zero_iff.mp empty)
  | call below word full =>
      refine .inr ⟨below, .call m.opcode.nnn, .call (by omega), ?_⟩
      exact if_neg (Nat.not_lt.mpr full)
  | storeDecimal below digit code reaches =>
      have met : m.missingCells? 3 = some (.addressOutOfRange
          (m.memory.firstOutside m.registers.index 3) m.memory.size) :=
        missingCells?_eq_some_iff.mpr ⟨⟨by decide, by omega⟩, rfl⟩
      exact .inr ⟨below, .storeDecimal m.opcode.x, .storeDecimal (by omega) (by omega), met⟩
  | transfer x below digit code place reaches =>
      have x_eq : m.opcode.x = x := by rw [opcode_x, place]
      have met : m.missingCells? (m.opcode.x + 1) = some (.addressOutOfRange
          (m.memory.firstOutside m.registers.index (x + 1)) m.memory.size) := by
        rw [x_eq]
        exact missingCells?_eq_some_iff.mpr ⟨⟨by omega, by omega⟩, rfl⟩
      rcases code with store | load
      · exact .inr ⟨below, .storeRegisters m.opcode.x,
          .storeRegisters (by omega) (by omega), met⟩
      · exact .inr ⟨below, .loadRegisters m.opcode.x,
          .loadRegisters (by omega) (by omega), met⟩
  | draw n below digit rows positive reaches =>
      refine .inr ⟨below, .draw m.opcode.x m.opcode.y m.opcode.n, .draw (by omega), ?_⟩
      rw [obstacle?, missingCells?_fetched, opcode_n, rows]
      exact missingCells?_eq_some_iff.mpr ⟨⟨by omega, by omega⟩, rfl⟩

theorem interrupted_of_outside (outside : ¬ m.registers.pc < m.memory.size) :
    m.interrupted = m.dropLog := by
  rw [interrupted, if_neg outside]
  rfl

theorem interrupted_of_inside (inside : m.registers.pc < m.memory.size) :
    m.interrupted = m.fetched := by
  rw [interrupted, if_pos inside]
  rfl

/-- A faulty cycle has changed nothing but the program counter and the log. -/
theorem step_of_cycleFault (wf : m.WellFormed) {fault : Fault} (faulty : CycleFault m fault) :
    step m = ⟨m.interrupted, .error fault, []⟩ := by
  rcases obstacle_of_cycleFault wf faulty with ⟨outside, rfl⟩ | ⟨inside, instruction, denotes, met⟩
  · rw [step_of_outside outside, interrupted_of_outside (by rwa [← wf.inside_iff])]
  · rw [step_of_obstacle wf inside denotes met, interrupted_of_inside inside.2]

theorem cycleFault_of_step (wf : m.WellFormed) {fault : Fault}
    (failed : (step m).result = .error fault) : CycleFault m fault := by
  rcases step_cases wf with ⟨outside, ran⟩ | ⟨instruction, met, inside, denotes, obstacle, ran⟩ |
    ⟨_, _, _, _, ran⟩ | ⟨_, _, ran⟩
  · rw [ran] at failed
    cases failed
    rw [wf.inside_iff] at outside
    exact .counter (Int.not_lt.mp outside)
  · rw [ran] at failed
    cases failed
    exact cycleFault_of_obstacle inside denotes obstacle
  · rw [ran] at failed
    cases failed
  · rw [ran] at failed
    cases failed

/-! ## Ticks -/

/-- A tick source that fails after the cycle leaves the machine as the cycle left it. -/
theorem tick_of_overdue {after : Machine} {record : Snapshot Registers} {events : List Event}
    {fault : Fault} (cycle : step m = ⟨after, .ok record, events⟩)
    (overdue : (TickSource.take after.devices.ticks).result = .error fault) :
    tick m = ⟨after, .error fault, events⟩ := by
  rw [tick_of_ok cycle, updateTimers_of_error overdue, List.append_nil]
  rfl

/-- After a cycle that succeeded, a tick fails only if the tick source does. -/
theorem overdue_of_tick {after : Machine} {record : Snapshot Registers} {events : List Event}
    {fault : Fault} (cycle : step m = ⟨after, .ok record, events⟩)
    (failed : (tick m).result = .error fault) :
    (TickSource.take after.devices.ticks).result = .error fault := by
  cases taken : (TickSource.take after.devices.ticks).result with
  | error cause =>
      rw [tick_of_overdue cycle taken] at failed
      cases failed
      rfl
  | ok count =>
      rw [tick_of_ok cycle, updateTimers_of_ok taken] at failed
      cases failed

/-- **A tick fails with its cycle or with the tick source.** -/
theorem tick_fault_iff (wf : m.WellFormed) (fault : Fault) :
    (tick m).result = .error fault ↔
      CycleFault m fault ∨
        ∃ record, (step m).result = .ok record ∧
          (TickSource.take (step m).state.devices.ticks).result = .error fault := by
  constructor
  · intro failed
    rcases ran : step m with ⟨after, result, events⟩
    cases result with
    | error cause =>
        rw [tick_of_error ran] at failed
        exact .inl (cycleFault_of_step wf (by rw [ran]; exact failed))
    | ok record => exact .inr ⟨record, rfl, overdue_of_tick ran failed⟩
  · rintro (faulty | ⟨record, succeeded, overdue⟩)
    · rw [tick_of_error (step_of_cycleFault wf faulty)]
    · rcases ran : step m with ⟨after, result, events⟩
      rw [ran] at succeeded overdue
      cases succeeded
      rw [tick_of_overdue ran overdue]

/-- **Which cycles and ticks fail, and what they leave.**  A failed cycle leaves the machine as
it was but for the program counter and the log, and a tick whose cycle fails leaves the same; a
tick whose cycle succeeds fails only with the tick source, and leaves what the cycle left. -/
theorem faults_are_atomic (wf : m.WellFormed) (fault : Fault) :
    ((step m).result = .error fault ↔ CycleFault m fault) ∧
    (CycleFault m fault → (step m).state = m.interrupted ∧ (tick m).state = m.interrupted) ∧
    ((tick m).result = .error fault ↔
      CycleFault m fault ∨
        ∃ record, (step m).result = .ok record ∧
          (TickSource.take (step m).state.devices.ticks).result = .error fault) ∧
    ((tick m).result = .error fault → (∃ record, (step m).result = .ok record) →
      (tick m).state = (step m).state) := by
  refine ⟨⟨cycleFault_of_step wf, ?_⟩, ?_, tick_fault_iff wf fault, ?_⟩
  · intro faulty
    rw [step_of_cycleFault wf faulty]
  · intro faulty
    have cycle := step_of_cycleFault wf faulty
    exact ⟨by rw [cycle], by rw [tick_of_error cycle]⟩
  · rintro failed ⟨record, succeeded⟩
    rcases ran : step m with ⟨after, result, events⟩
    rw [ran] at succeeded
    cases succeeded
    rw [tick_of_overdue ran (overdue_of_tick ran failed)]

/-- A machine that leaves a subroutine without having entered one, which fails and changes
nothing but the program counter. -/
theorem faults_are_atomic_of_leave :
    (ofWord 0x00 0xEE .everyCycle).WellFormed ∧
      (step (ofWord 0x00 0xEE .everyCycle)).result = .error .stackUnderflow ∧
      (tick (ofWord 0x00 0xEE .everyCycle)).state = (ofWord 0x00 0xEE .everyCycle).interrupted := by
  have wf := wellFormed_ofWord 0x00 0xEE .everyCycle
  have faulty : CycleFault (ofWord 0x00 0xEE .everyCycle) .stackUnderflow :=
    .leave (by decide) (by decide) rfl
  have atomic := faults_are_atomic wf .stackUnderflow
  exact ⟨wf, atomic.1.mpr faulty, (atomic.2.1 faulty).2⟩

/-- A machine that sets a register, and whose clock has come to show a number of seconds that
no double is next to. -/
def overdue : Machine :=
  ofWord 0x6A 0x07 (.clock ⟨.whole 1, .whole 0, .whole Decimal.beyondDoubles⟩)

/-- The tick of that machine fails, and the register that its cycle set stays set. -/
theorem overdue_tick_undoes_nothing :
    overdue.WellFormed ∧ (tick overdue).result = .error .beyondDoubles ∧
      (tick overdue).state.cycles ≠ overdue.cycles ∧
      (tick overdue).state.registers.get 0xA ≠ overdue.registers.get 0xA := by
  obtain ⟨record, cycle⟩ : ∃ record, step overdue = ⟨(step overdue).state, .ok record, []⟩ :=
    ⟨_, rfl⟩
  have late : (TickSource.take (step overdue).state.devices.ticks).result =
      .error .beyondDoubles :=
    TickSource.take_of_beyond (.whole 1)
      (Nat.le_of_eq (by rw [Int.sub_zero, Int.natAbs_natCast]))
  rw [tick_of_overdue cycle late]
  exact ⟨wellFormed_ofWord _ _ _, rfl, by decide, by decide⟩

end Machine

end Chip8
