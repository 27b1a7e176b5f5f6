import Chip8.Proofs.Composition

/-!
# The log accounts for the cells

Whatever an action of a machine does to the cells, it logs: the cells afterwards are those that come
of replaying the writes that it added to the log, and every window that it added to the log as read
is the window of the cells as they were before (`Accessed`).  This holds of every operation that
instructions are made of, also of one that fails, and therefore of every instruction.

So the record of a cycle accounts for the cycle (`Accounts`), and a cycle that fails has no record
but leaves its log in the memory (`store_of_failed_step`).
-/

namespace Chip8

set_option autoImplicit false

/-! ## Replaying accesses -/

namespace Access

/-- The cells after an access. -/
def apply (cells : Array UInt8) : Access → Array UInt8
  | read _ _ => cells
  | write address byte => cells.setIfInBounds address (UInt8.ofNat byte)

/-- The cells after accesses one after another. -/
def replay (accesses : List Access) (cells : Array UInt8) : Array UInt8 :=
  accesses.foldl apply cells

theorem replay_append (first second : List Access) (cells : Array UInt8) :
    replay (first ++ second) cells = replay second (replay first cells) :=
  List.foldl_append

theorem size_replay (accesses : List Access) (cells : Array UInt8) :
    (replay accesses cells).size = cells.size := by
  induction accesses generalizing cells with
  | nil => rfl
  | cons access rest ih =>
      refine (ih (apply cells access)).trans ?_
      cases access with
      | read address word => rfl
      | write address byte => exact Array.size_setIfInBounds

/-- Cells that no write of the accesses reaches. -/
theorem getElem?_replay {accesses : List Access} {address : Nat}
    (spared : ∀ byte, .write address byte ∉ accesses) (cells : Array UInt8) :
    (replay accesses cells)[address]? = cells[address]? := by
  induction accesses generalizing cells with
  | nil => rfl
  | cons access rest ih =>
      have later := ih (fun byte inside => spared byte (.tail _ inside)) (apply cells access)
      refine later.trans ?_
      cases access with
      | read place word => rfl
      | write place byte =>
          refine Array.getElem?_setIfInBounds_ne ?_
          rintro rfl
          exact spared byte (.head rest)

end Access

/-- What an action with one use of the cells may log, given the memory before it. -/
def MemoryUse.Admits (memory : Memory) : MemoryUse → Access → Prop
  | .reads, .read address word => word = memory.window address
  | .writes, .write address byte => address < memory.size ∧ byte < 256
  | .reads, .write _ _ | .writes, .read _ _ => False

/-- Reading leaves the cells alone. -/
theorem replay_of_reads {memory : Memory} {accesses : List Access}
    (admitted : ∀ access ∈ accesses, MemoryUse.reads.Admits memory access) (cells : Array UInt8) :
    Access.replay accesses cells = cells := by
  induction accesses with
  | nil => rfl
  | cons access rest ih =>
      cases access with
      | read address word => exact ih fun later inside => admitted later (.tail _ inside)
      | write address byte => exact (admitted _ (.head rest)).elim

/-- What may be logged after other accesses might have been logged before them. -/
theorem MemoryUse.Admits.earlier {use : MemoryUse} {memory later : Memory} {logged : List Access}
    (admitted : ∀ access ∈ logged, use.Admits memory access)
    (cells : later.cells = Access.replay logged memory.cells) {access : Access}
    (admits : use.Admits later access) : use.Admits memory access := by
  cases use with
  | reads =>
      rw [replay_of_reads admitted] at cells
      cases access with
      | read address word => exact admits.trans (Memory.window_of_cells cells address)
      | write address byte => exact admits
  | writes =>
      have size : later.size = memory.size := by
        rw [Memory.size, cells, Access.size_replay, Memory.size]
      cases access with
      | read address word => exact admits
      | write address byte => exact ⟨size ▸ admits.1, admits.2⟩

namespace Machine

open Processor

/-! ## Actions that log what they do -/

/-- From one machine to another, accesses were added to the log, which account for the cells; the
cycles were not counted on. -/
structure Accessed (use : MemoryUse) (m after : Machine) (added : List Access) : Prop where
  log : after.memory.log = m.memory.log ++ added
  cells : after.memory.cells = Access.replay added m.memory.cells
  cycles : after.cycles = m.cycles
  admitted : ∀ access ∈ added, use.Admits m.memory access

variable {use : MemoryUse} {m middle after : Machine}

/-- Nothing was added to the log if the cells were left alone. -/
theorem Accessed.of_same (log : after.memory.log = m.memory.log)
    (cells : after.memory.cells = m.memory.cells) (cycles : after.cycles = m.cycles) :
    Accessed use m after [] where
  log := by rw [log, List.append_nil]
  cells := cells
  cycles := cycles
  admitted := fun access inside => nomatch inside

theorem Accessed.trans {early late : List Access} (first : Accessed use m middle early)
    (second : Accessed use middle after late) : Accessed use m after (early ++ late) where
  log := by rw [second.log, first.log, List.append_assoc]
  cells := by rw [second.cells, first.cells, Access.replay_append]
  cycles := second.cycles.trans first.cycles
  admitted := by
    intro access inside
    rcases List.mem_append.mp inside with in_early | in_late
    · exact first.admitted access in_early
    · exact (second.admitted access in_late).earlier first.admitted first.cells

theorem accessed_fetch (address : Int) (m : Machine) :
    ∃ added, Accessed .reads m (fetch address m).state added := by
  cases found : m.memory.peek address with
  | error fault =>
      rw [fetch_of_no_peek found]
      exact ⟨[], .of_same rfl rfl rfl⟩
  | ok word =>
      rw [fetch_of_peek found]
      refine ⟨[.read address.toNat word], rfl, rfl, rfl, ?_⟩
      intro access inside
      rw [List.mem_singleton.mp inside]
      exact Memory.word_of_peek found

theorem accessed_write (address datum : Int) (m : Machine) :
    ∃ added, Accessed .writes m (write address datum m).state added := by
  cases written : m.memory.write address datum with
  | error fault =>
      rw [write, changeMemory_of_error written]
      exact ⟨[], .of_same rfl rfl rfl⟩
  | ok memory =>
      obtain ⟨place, byte, _, _, inside, rfl⟩ := Memory.stored_of_write written
      rw [write, changeMemory_of_ok written]
      refine ⟨[.write place byte.toNat], rfl, ?_, rfl, ?_⟩
      · exact congrArg (m.memory.cells.setIfInBounds place) UInt8.ofNat_toNat.symm
      · intro access member
        rw [List.mem_singleton.mp member]
        exact ⟨inside, byte.toNat_lt⟩

theorem accessed_pushReturn (address : Int) (m : Machine) :
    ∃ added, Accessed use m (pushReturn address m).state added := by
  refine ⟨[], ?_⟩
  cases pushed : m.memory.stack.push address with
  | error fault =>
      rw [pushReturn_of_error pushed]
      exact .of_same rfl rfl rfl
  | ok stack =>
      rw [pushReturn_of_ok pushed]
      exact .of_same rfl rfl rfl

theorem accessed_popReturn (m : Machine) : ∃ added, Accessed use m (popReturn m).state added := by
  refine ⟨[], ?_⟩
  rcases popped : m.memory.stack.pop with fault | ⟨address, stack⟩
  · rw [popReturn_of_error popped]
    exact .of_same rfl rfl rfl
  · rw [popReturn_of_ok popped]
    exact .of_same rfl rfl rfl

/-- **Every action that is put together from the operations logs what it does.** -/
theorem Composed.accessed {α : Type} {action : Action Machine α} (composed : Composed use action)
    (m : Machine) : ∃ added, Accessed use m (action m).state added := by
  induction composed generalizing m with
  | pure answer | fail fault | report event | changeRegisters change | changeScreen change
  | drawByte | checkRange address length => exact ⟨[], .of_same rfl rfl rfl⟩
  | pushReturn address => exact accessed_pushReturn address m
  | popReturn => exact accessed_popReturn m
  | fetch address reads =>
      subst reads
      exact accessed_fetch address m
  | write address datum writes =>
      subst writes
      exact accessed_write address datum m
  | look _ _ ih =>
      rw [Action.state_bind]
      exact ih m m
  | @bind _ _ first next _ _ first_ih next_ih =>
      obtain ⟨early, first_accessed⟩ := first_ih m
      rcases ran : first m with ⟨middle, result, events⟩
      rw [ran] at first_accessed
      cases result with
      | error fault =>
          rw [Action.bind_of_error ran]
          exact ⟨early, first_accessed⟩
      | ok answer =>
          obtain ⟨late, next_accessed⟩ := next_ih answer middle
          rw [Action.bind_of_events ran]
          exact ⟨early ++ late, first_accessed.trans next_accessed⟩

/-! ## Instructions that fail -/

/-- An instruction of a word that fails leaves the cells alone if the general registers hold bytes:
it tests the range of its cells before it writes the first one. -/
theorem cells_of_failed_effect (bytes : ∀ x : Int, m.registers.get x < 256)
    {instruction : Instruction} (fits : instruction.Fits) {fault : Fault} {events : List Event}
    (failed : effect instruction m = ⟨after, .error fault, events⟩) :
    after.memory.cells = m.memory.cells := by
  have of_reads (reads : instruction.use = .reads) : after.memory.cells = m.memory.cells := by
    obtain ⟨added, accessed⟩ := (composed_effect instruction).accessed m
    rw [reads, failed] at accessed
    exact accessed.cells.trans (replay_of_reads accessed.admitted _)
  -- a range that exists has a start at which the loops without failures begin
  have of_range {length : Int} (positive : 0 < length)
      (passed : m.memory.checkRange m.registers.index length = .ok ()) :
      m.registers.index = m.registers.index.toNat ∧
        m.registers.index.toNat + length ≤ m.memory.size := by
    obtain ⟨nonneg, reaches⟩ := Memory.fits_of_checkRange positive passed
    omega
  cases instruction with
  | storeDecimal x =>
      cases range : m.memory.checkRange m.registers.index 3 with
      | error cause =>
          rw [effect, storeDigits, Action.state_bind,
            Action.bind_of_error (by rw [checkRange, range])] at failed
          cases failed
          rfl
      | ok _ =>
          obtain ⟨at_start, inside⟩ := of_range (by decide) range
          rw [effect, storeDigits_of_fits x at_start (by omega)] at failed
          cases failed
  | storeRegisters x =>
      obtain ⟨nonneg, below⟩ := id fits
      cases range : m.memory.checkRange m.registers.index (x + 1) with
      | error cause =>
          rw [effect, storeAll, Action.state_bind,
            Action.bind_of_error (by rw [checkRange, range])] at failed
          cases failed
          rfl
      | ok _ =>
          obtain ⟨at_start, inside⟩ := of_range (by omega) range
          rw [effect, storeAll_of_fits fits at_start (fun k _ => bytes k) (by omega)] at failed
          cases failed
  | _ => exact of_reads rfl

/-- Executing a word fails only in the effect of its instruction. -/
theorem effect_of_failed_execute {op : Opcode} (fits : op.Fits) {fault : Fault}
    {events : List Event} (failed : chip8.execute op m = ⟨after, .error fault, events⟩) :
    ∃ instruction : Instruction, instruction.Fits ∧
      effect instruction m = ⟨after, .error fault, events⟩ := by
  cases found : Instruction.ofOpcode? op with
  | none =>
      simp only [chip8, perform_of_unknown (Instruction.ofOpcode?_eq_none_iff.mp found)] at failed
      cases failed
  | some instruction =>
      have denotes := Instruction.denotes_of_found found
      refine ⟨instruction, denotes.fits fits, ?_⟩
      rcases ran : effect instruction m with ⟨middle, result, reported⟩
      cases result with
      | error cause =>
          have performed : perform op m = ⟨middle, .error cause, reported⟩ := by
            rw [perform_of_denotes denotes fits]
            exact Action.bind_of_error ran
          have execution : chip8.execute op m = ⟨middle, .error cause, reported⟩ :=
            Action.bind_of_error performed
          rw [execution] at failed
          cases failed
          rfl
      | ok _ =>
          have performed : perform op m = ⟨middle, .ok true, reported ++ []⟩ := by
            rw [perform_of_denotes denotes fits]
            exact Action.bind_of_events ran
          have execution : chip8.execute op m = ⟨middle, .ok (), reported ++ [] ++ []⟩ :=
            Action.bind_of_events performed
          rw [execution] at failed
          cases failed

/-! ## Cycles -/

/-- **What the record of a cycle says of the machine that the cycle began with.** -/
structure Accounts (m : Machine) (record : Snapshot Registers) : Prop where
  /-- The first access is the fetch of the word at the program counter. -/
  fetch : ∃ address : Nat, m.registers.pc = address ∧
    record.accesses.head? = some (.read address m.word)
  /-- This word was executed. -/
  executed : ∃ after events,
    chip8.execute (Opcode.decode m.word) m.fetched = ⟨after, .ok (), events⟩ ∧
    record.registers = after.registers ∧
    record.operation = Operation.ofOpcode (Opcode.decode m.word)
  reads : ∀ address word, .read address word ∈ record.accesses →
    word = 256 * m.memory.byte address + m.memory.byte (address + 1)
  writes : ∀ address byte, .write address byte ∈ record.accesses →
    address < m.memory.size ∧ byte < 256
  cycle : record.cycle = m.cycles + 1

/-- Executing the word at the program counter logs what it does after the fetch. -/
theorem accessed_execute (m : Machine) :
    ∃ use added, Accessed use m.fetched (chip8.execute m.opcode m.fetched).state added := by
  obtain ⟨use, composed⟩ := composed_execute m.opcode
  obtain ⟨added, accessed⟩ := composed.accessed m.fetched
  exact ⟨use, added, accessed⟩

/-- **The record of a cycle accounts for it**, and replaying the record gives the cells. -/
theorem accounts_of_step {record : Snapshot Registers} {events : List Event}
    (cycle : step m = ⟨after, .ok record, events⟩) :
    m.Accounts record ∧
      after.memory.cells = Access.replay record.accesses m.memory.cells ∧
      after.cycles = m.cycles + 1 := by
  obtain ⟨inside, executed, ran, rfl, rfl⟩ := step_ok cycle
  obtain ⟨use, added, accessed⟩ := m.accessed_execute
  rw [ran] at accessed
  obtain ⟨log, cells, cycles, admitted⟩ := accessed
  have accesses : (recordOf m.opcode executed).accesses =
      .read m.registers.pc.toNat m.word :: added := log
  refine ⟨⟨⟨m.registers.pc.toNat, (Int.toNat_of_nonneg inside.1).symm, ?_⟩,
    ⟨executed, events, ran, rfl, rfl⟩, ?_, ?_, ?_⟩, ?_, ?_⟩
  · rw [accesses]
    rfl
  · intro address word logged
    rw [accesses] at logged
    cases logged with
    | head => rfl
    | tail _ later =>
        have admits := admitted _ later
        cases use with
        | reads => exact admits
        | writes => exact admits.elim
  · intro address byte logged
    rw [accesses] at logged
    cases logged with
    | tail _ later =>
        have admits := admitted _ later
        cases use with
        | reads => exact admits.elim
        | writes => exact admits
  · exact congrArg (· + 1) cycles
  · rw [accesses]
    exact cells
  · exact congrArg (· + 1) cycles

/-- **A cycle that fails** is not counted.  What it did to the cells is in its log, and it did
nothing to them if the general registers held bytes. -/
theorem store_of_failed_step {fault : Fault} {events : List Event}
    (failed : step m = ⟨after, .error fault, events⟩) :
    after.memory.cells = Access.replay after.memory.log m.memory.cells ∧ after.cycles = m.cycles ∧
      ((∀ x : Int, m.registers.get x < 256) → after.memory.cells = m.memory.cells) := by
  by_cases inside : m.Inside
  · obtain ⟨use, added, accessed⟩ := m.accessed_execute
    rw [step_of_inside inside] at failed
    rcases ran : chip8.execute m.opcode m.fetched with ⟨executed, result, reported⟩
    rw [ran] at accessed
    cases result with
    | ok _ =>
        rw [Action.bind_of_events ran] at failed
        cases failed
    | error cause =>
        rw [Action.bind_of_error ran] at failed
        cases failed
        refine ⟨?_, accessed.cycles, fun bytes => ?_⟩
        · rw [accessed.log]
          exact accessed.cells
        · obtain ⟨instruction, fits, effect_failed⟩ := effect_of_failed_execute m.opcode_fits ran
          exact cells_of_failed_effect (m := m.fetched) bytes fits effect_failed
  · rw [step_of_outside inside] at failed
    cases failed
    exact ⟨rfl, rfl, fun _ => rfl⟩

end Machine

end Chip8
