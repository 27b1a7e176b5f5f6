import Chip8.Machine.Operation
import Chip8.Proofs.Execution

/-!
# One cycle

A cycle begins with the fetch.  If the program counter points outside the memory, that is the
end of it.  Otherwise the instruction is executed by the machine after the fetch, whose program
counter has moved on (`fetched`), and unless it fails the cycle is counted and recorded.

The three theorems `step_of_outside`, `step_of_obstacle` and `step_of_clear`, with
`step_of_unknown` for words without an instruction, say what every cycle of a well-formed
machine does.
-/

namespace Chip8.Machine

set_option autoImplicit false

open Processor

/-- The program counter points at a cell. -/
def Inside (m : Machine) : Prop := 0 ≤ m.registers.pc ∧ m.registers.pc < m.memory.size

instance (m : Machine) : Decidable m.Inside := inferInstanceAs (Decidable (_ ∧ _))

/-- The word that the program counter points at. -/
def word (m : Machine) : Nat := m.memory.window m.registers.pc.toNat

/-- That word taken apart. -/
def opcode (m : Machine) : Opcode := Opcode.decode m.word

/-- The machine after the fetch, at the moment when the instruction is executed. -/
def fetched (m : Machine) : Machine :=
  { m with
    registers := m.registers.advance
    memory := { m.memory with log := [.read m.registers.pc.toNat m.word] } }

/-- The machine after a cycle was counted and its record taken. -/
def counted (m : Machine) : Machine :=
  { m with cycles := m.cycles + 1, memory := { m.memory with log := [] } }

/-- The record of a cycle that executed a word. -/
def recordOf (op : Opcode) (m : Machine) : Snapshot Registers :=
  ⟨m.registers, Operation.ofOpcode op, m.cycles + 1, m.memory.log⟩

variable {m : Machine}

/-! ## The word at the program counter -/

theorem word_lt (m : Machine) : m.word < 65536 := m.memory.window_lt _

theorem opcode_family (m : Machine) : m.opcode.family = (m.word / 0x1000 * 0x1000 : Nat) := by
  have below := m.word_lt
  simp only [opcode, Opcode.decode]
  omega

theorem opcode_x (m : Machine) : m.opcode.x = (m.word / 0x100 % 0x10 : Nat) := by
  simp only [opcode, Opcode.decode]
  omega

theorem opcode_y (m : Machine) : m.opcode.y = (m.word / 0x10 % 0x10 : Nat) := by
  simp only [opcode, Opcode.decode]
  omega

theorem opcode_n (m : Machine) : m.opcode.n = (m.word % 0x10 : Nat) := by
  simp only [opcode, Opcode.decode]
  omega

theorem opcode_nn (m : Machine) : m.opcode.nn = (m.word % 0x100 : Nat) := by
  simp only [opcode, Opcode.decode]
  omega

theorem opcode_nnn (m : Machine) : m.opcode.nnn = (m.word % 0x1000 : Nat) := by
  simp only [opcode, Opcode.decode]
  omega

theorem opcode_fits (m : Machine) : m.opcode.Fits := Opcode.fits_decode m.word

/-! ## The fetch and the execution -/

theorem WellFormed.fetched (wf : m.WellFormed) : m.fetched.WellFormed where
  bytes := wf.bytes
  pc := by
    simp only [Machine.fetched, Registers.advance]
    omega
  index := wf.index
  width := wf.width
  height := wf.height

/-- **A cycle outside the memory fails at the fetch.** -/
theorem step_of_outside (outside : ¬ m.Inside) :
    step m = ⟨m.dropLog, .error (.addressOutOfRange m.registers.pc m.memory.size), []⟩ := by
  rw [step, Architecture.step, Action.update_bind, Action.state_bind]
  exact Action.bind_of_error (withMemory_of_error (Memory.fetch_of_outside outside))

/-- Inside the memory the fetch finds the word. -/
theorem fetch_word (inside : m.Inside) :
    fetch m.registers.pc m.dropLog =
      ⟨{ m.dropLog with memory := m.dropLog.memory.visited m.registers.pc.toNat 1 },
        .ok m.word, []⟩ := by
  obtain ⟨nonneg, below⟩ := inside
  have address : m.registers.pc = (m.registers.pc.toNat : Int) := (Int.toNat_of_nonneg nonneg).symm
  have same : m.dropLog.memory.size = m.memory.size := rfl
  rw [address]
  exact fetch_of_inside (m := m.dropLog) (by omega)

/-- Inside the memory the word is executed by the machine after the fetch. -/
theorem step_of_inside (inside : m.Inside) :
    step m = (chip8.execute m.opcode >>= fun _ => chip8.record m.opcode) m.fetched := by
  rw [step, Architecture.step, Action.update_bind, Action.state_bind,
    show chip8.counter m.dropLog.registers = m.registers.pc from rfl,
    Action.bind_of_ok (fetch_word inside), changeRegisters_bind]
  rfl

/-- **A cycle whose instruction meets its obstacle fails after the fetch.** -/
theorem step_of_obstacle (wf : m.WellFormed) (inside : m.Inside) {instruction : Instruction}
    (denotes : Instruction.Denotes m.opcode instruction) {fault : Fault}
    (met : m.fetched.obstacle? instruction = some fault) :
    step m = ⟨m.fetched, .error fault, []⟩ := by
  have execution : chip8.execute m.opcode m.fetched = ⟨m.fetched, .error fault, []⟩ := by
    refine Action.bind_of_error ?_
    rw [perform_of_denotes denotes m.opcode_fits]
    exact Action.bind_of_error (effect_of_obstacle wf.fetched met)
  rw [step_of_inside inside]
  exact Action.bind_of_error execution

/-- A word is executed if its instruction has its effect. -/
theorem execute_of_effect {op : Opcode} {instruction : Instruction}
    (denotes : Instruction.Denotes op instruction) (fits : op.Fits) {executed : Machine}
    (effect_ok : effect instruction m = ⟨executed, .ok (), []⟩) :
    chip8.execute op m = ⟨executed, .ok (), []⟩ := by
  have performed : perform op m = ⟨executed, .ok true, []⟩ := by
    rw [perform_of_denotes denotes fits, Action.bind_of_ok effect_ok, Action.pure_apply]
  exact Action.bind_of_ok performed

/-- A word that was executed had the effect of its instruction. -/
theorem effect_of_execute {op : Opcode} {instruction : Instruction}
    (denotes : Instruction.Denotes op instruction) (fits : op.Fits) {executed : Machine}
    {events : List Event} (ran : chip8.execute op m = ⟨executed, .ok (), events⟩) :
    ∃ reported, effect instruction m = ⟨executed, .ok (), reported⟩ := by
  obtain ⟨middle, known, early, _, performed, rest, _⟩ := Action.ok_of_bind ran
  rw [perform_of_denotes denotes fits] at performed
  obtain ⟨last, _, reported, _, done, answered, _⟩ := Action.ok_of_bind performed
  cases answered
  cases rest
  exact ⟨reported, done⟩

/-- A cycle succeeds if the instruction at the program counter has its effect. -/
theorem step_of_effect (inside : m.Inside) {instruction : Instruction}
    (denotes : Instruction.Denotes m.opcode instruction) {executed : Machine}
    (effect_ok : effect instruction m.fetched = ⟨executed, .ok (), []⟩) :
    step m = ⟨executed.counted, .ok (recordOf m.opcode executed), []⟩ := by
  rw [step_of_inside inside,
    Action.bind_of_ok (execute_of_effect denotes m.opcode_fits effect_ok)]
  rfl

/-- **A cycle whose instruction meets no obstacle succeeds.** -/
theorem step_of_clear (wf : m.WellFormed) (inside : m.Inside) {instruction : Instruction}
    (denotes : Instruction.Denotes m.opcode instruction)
    (clear : m.fetched.obstacle? instruction = none) :
    step m =
      ⟨(effect instruction m.fetched).state.counted,
        .ok (recordOf m.opcode (effect instruction m.fetched).state), []⟩ :=
  step_of_effect inside denotes
    (effect_of_clear wf.fetched (denotes.fits m.opcode_fits) clear)

/-- **A cycle whose word has no instruction does nothing but report it.** -/
theorem step_of_unknown (inside : m.Inside)
    (unknown : ∀ instruction, ¬ Instruction.Denotes m.opcode instruction) :
    step m =
      ⟨m.fetched.counted, .ok (recordOf m.opcode m.fetched),
        [.unmappedWord m.opcode.word.toNat m.fetched.registers.retreat.pc]⟩ := by
  rw [step_of_inside inside]
  simp only [chip8, perform_of_unknown unknown]
  rfl

/-- **Every cycle of a well-formed machine**: the fetch fails, or the instruction meets its
obstacle, or it has its effect, or the word has no instruction. -/
theorem step_cases (wf : m.WellFormed) :
    (¬ m.Inside ∧
      step m = ⟨m.dropLog, .error (.addressOutOfRange m.registers.pc m.memory.size), []⟩) ∨
    (∃ instruction fault, m.Inside ∧ Instruction.Denotes m.opcode instruction ∧
      m.fetched.obstacle? instruction = some fault ∧ step m = ⟨m.fetched, .error fault, []⟩) ∨
    (∃ instruction, m.Inside ∧ Instruction.Denotes m.opcode instruction ∧
      m.fetched.obstacle? instruction = none ∧
      step m =
        ⟨(effect instruction m.fetched).state.counted,
          .ok (recordOf m.opcode (effect instruction m.fetched).state), []⟩) ∨
    (m.Inside ∧ (∀ instruction, ¬ Instruction.Denotes m.opcode instruction) ∧
      step m =
        ⟨m.fetched.counted, .ok (recordOf m.opcode m.fetched),
          [.unmappedWord m.opcode.word.toNat m.fetched.registers.retreat.pc]⟩) := by
  by_cases inside : m.Inside
  · refine .inr ?_
    cases found : Instruction.ofOpcode? m.opcode with
    | none =>
        have unknown := Instruction.ofOpcode?_eq_none_iff.mp found
        exact .inr (.inr ⟨inside, unknown, step_of_unknown inside unknown⟩)
    | some instruction =>
        have denotes := Instruction.denotes_of_found found
        cases met : m.fetched.obstacle? instruction with
        | some fault =>
            exact .inl ⟨instruction, fault, inside, denotes, met,
              step_of_obstacle wf inside denotes met⟩
        | none =>
            exact .inr (.inl ⟨instruction, inside, denotes, met,
              step_of_clear wf inside denotes met⟩)
  · exact .inl ⟨inside, step_of_outside inside⟩

/-! ## The timers after a cycle -/

/-- A tick source that fails leaves the machine as it is. -/
theorem updateTimers_of_error {fault : Fault}
    (fails : (TickSource.take m.devices.ticks).result = .error fault) :
    updateTimers m = ⟨m, .error fault, []⟩ := by
  have source : TickSource.take m.devices.ticks = ⟨m.devices.ticks, .error fault, []⟩ := by
    unfold TickSource.take at fails ⊢
    cases due : m.devices.ticks.due with
    | error reason =>
        rw [due] at fails
        cases fails
        rfl
    | ok count =>
        rw [due] at fails
        cases rest : m.devices.ticks.rest count with
        | error reason =>
            simp only [rest] at fails ⊢
            cases fails
            rfl
        | ok next =>
            simp only [rest] at fails
            cases fails
  refine Action.bind_of_error ?_
  rw [Action.within, source]

theorem updateTimers_of_ok {count : Int}
    (taken : (TickSource.take m.devices.ticks).result = .ok count) :
    updateTimers m =
      ⟨{ m with
          devices.ticks := (TickSource.take m.devices.ticks).state
          registers := m.registers.elapse count },
        .ok (), (TickSource.take m.devices.ticks).events⟩ := by
  have first : Action.within (fun m : Machine => m.devices.ticks)
      (fun source (m : Machine) => { m with devices := { m.devices with ticks := source } })
      TickSource.take m =
      ⟨{ m with devices.ticks := (TickSource.take m.devices.ticks).state }, .ok count,
        (TickSource.take m.devices.ticks).events⟩ := by
    rw [Action.within, taken]
  rw [updateTimers, Action.bind_of_events first]
  simp only [changeRegisters_apply, List.append_nil]

theorem tick_of_error {after : Machine} {fault : Fault} {events : List Event}
    (fails : step m = ⟨after, .error fault, events⟩) :
    tick m = ⟨after, .error fault, events⟩ :=
  Action.bind_of_error fails

theorem tick_of_ok {after : Machine} {record : Snapshot Registers} {events : List Event}
    (cycle : step m = ⟨after, .ok record, events⟩) :
    tick m =
      ⟨(updateTimers after).state, (updateTimers after).result.map fun _ => record,
        events ++ (updateTimers after).events⟩ := by
  rw [tick, Action.bind_of_events cycle]
  rcases timers : updateTimers after with ⟨last, result, reported⟩
  cases result with
  | error fault => rw [Action.bind_of_error timers]; rfl
  | ok _ => rw [Action.bind_of_events timers]; simp only [Action.pure_apply, List.append_nil]; rfl

/-! ## Cycles and ticks that succeed -/

/-- **A cycle that succeeds**, of any machine: the word at the program counter was executed after
the fetch, and the record was taken of what that left. -/
theorem step_ok {after : Machine} {record : Snapshot Registers} {events : List Event}
    (cycle : step m = ⟨after, .ok record, events⟩) :
    m.Inside ∧ ∃ executed : Machine, chip8.execute m.opcode m.fetched = ⟨executed, .ok (), events⟩ ∧
      after = executed.counted ∧ record = recordOf m.opcode executed := by
  by_cases inside : m.Inside
  · rw [step_of_inside inside] at cycle
    obtain ⟨executed, _, early, late, ran, recorded, rfl⟩ := Action.ok_of_bind cycle
    cases recorded
    rw [List.append_nil]
    exact ⟨inside, executed, ran, rfl, rfl⟩
  · rw [step_of_outside inside] at cycle
    cases cycle

/-- A cycle that succeeds had the effect of the instruction that its word denotes. -/
theorem executed_of_cycle {after : Machine} {record : Snapshot Registers} {events : List Event}
    {instruction : Instruction} (denotes : Instruction.Denotes m.opcode instruction)
    (cycle : step m = ⟨after, .ok record, events⟩) :
    ∃ executed reported, effect instruction m.fetched = ⟨executed, .ok (), reported⟩ ∧
      after = executed.counted ∧ record = recordOf m.opcode executed := by
  obtain ⟨_, executed, ran, left, taken⟩ := step_ok cycle
  obtain ⟨reported, done⟩ := effect_of_execute denotes m.opcode_fits ran
  exact ⟨executed, reported, done, left, taken⟩

/-- A cycle that succeeds had the effect of its instruction, or none if its word has no
instruction. -/
theorem effect_of_cycle {after : Machine} {record : Snapshot Registers} {events : List Event}
    (cycle : step m = ⟨after, .ok record, events⟩) :
    ∃ executed : Machine, after = executed.counted ∧
      ((∀ instruction, ¬ Instruction.Denotes m.opcode instruction) ∧ executed = m.fetched ∨
        ∃ instruction reported, Instruction.Denotes m.opcode instruction ∧
          effect instruction m.fetched = ⟨executed, .ok (), reported⟩) := by
  cases found : Instruction.ofOpcode? m.opcode with
  | none =>
      have unknown := Instruction.ofOpcode?_eq_none_iff.mp found
      obtain ⟨_, executed, ran, left, _⟩ := step_ok cycle
      simp only [chip8, perform_of_unknown unknown] at ran
      cases ran
      exact ⟨_, left, .inl ⟨unknown, rfl⟩⟩
  | some instruction =>
      have denotes := Instruction.denotes_of_found found
      obtain ⟨executed, reported, done, left, _⟩ := executed_of_cycle denotes cycle
      exact ⟨executed, left, .inr ⟨instruction, reported, denotes, done⟩⟩

/-- **A tick that succeeds**, of any machine: the cycle succeeded, and the timers went down by the
ticks that the source gave after it. -/
theorem tick_ok {after : Machine} {record : Snapshot Registers} {events : List Event}
    (ticked : tick m = ⟨after, .ok record, events⟩) :
    ∃ middle early count, step m = ⟨middle, .ok record, early⟩ ∧
      (TickSource.take middle.devices.ticks).result = .ok count ∧
      after =
        { middle with
          devices.ticks := (TickSource.take middle.devices.ticks).state
          registers := middle.registers.elapse count } := by
  obtain ⟨middle, cycle, early, late, ran, rest, rfl⟩ := Action.ok_of_bind ticked
  obtain ⟨last, _, _, _, timers, answer, rfl⟩ := Action.ok_of_bind rest
  cases answer
  cases taken : (TickSource.take middle.devices.ticks).result with
  | error fault =>
      rw [updateTimers_of_error taken] at timers
      cases timers
  | ok count =>
      rw [updateTimers_of_ok taken] at timers
      cases timers
      exact ⟨middle, early, count, ran, taken, rfl⟩

/-! ## A small machine -/

/-- A machine whose whole memory is the word at its program counter. -/
def ofWord (high low : UInt8) (ticks : TickSource) : Machine :=
  ⟨{ Registers.initial with pc := 0 }, ⟨#[high, low], ⟨1, []⟩, []⟩, 0,
    ⟨Framebuffer.blank 8 1, Keypad.idle, .listed (fun _ => 0) 0, ticks⟩⟩

theorem wellFormed_ofWord (high low : UInt8) (ticks : TickSource) :
    (ofWord high low ticks).WellFormed where
  bytes := fun x => Nat.lt_of_le_of_lt (Nat.le_of_eq (Registers.get_initial x)) (by decide)
  pc := (by decide : (0 : Int) ≤ 0 ∧ (0 : Int) < 65536)
  index := (by decide : (0 : Int) ≤ 0 ∧ (0 : Int) < 65536)
  width := (by decide : (0 : Int) < 8)
  height := (by decide : (0 : Int) < 1)

end Chip8.Machine
