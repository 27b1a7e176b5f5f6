import Chip8.Proofs.Accesses
import Chip8.Proofs.DebugLoop
import Chip8.Proofs.FaultAtomicity
import Mathlib.Data.List.Basic

/-!
# The history accounts for the memory

Single steps and runs of a session make ticks, one after another, and nothing else in a session
touches the memory.  The machines at which the ticks were made form a chain: each has the memory and
the cycle count that the tick before it left (`Chain`).  Along a chain the cells change by the
accesses that the cycles logged, and finished cycles are numbered without a gap.

A session with an unbounded history keeps the record of every tick that succeeds.  So its history
accounts for the memory as long as no tick fails after its cycle.  A tick source that fails after
a finished cycle is the one exception: the cycle is not undone, but its record is lost
(`overdue_cycle_has_no_record`).
-/

namespace Chip8

set_option autoImplicit false

namespace Machine

/-- The record of the cycle that a machine makes, if the cycle succeeds. -/
def finished? (m : Machine) : Option (Snapshot Registers) := (step m).result.toOption

/-- The record that a tick hands on: its cycle has to succeed and the tick source too. -/
def kept? (m : Machine) : Option (Snapshot Registers) := (tick m).result.toOption

/-- The accesses that the cycle of a machine logs, also if it fails. -/
def accesses (m : Machine) : List Access :=
  match (step m).result with
  | .ok record => record.accesses
  | .error _ => (step m).state.memory.log

/-- The general registers hold bytes. -/
def HoldsBytes (m : Machine) : Prop := ∀ x : Int, m.registers.get x < 256

/-! ## One tick -/

/-- The timers have no part in the memory or the cycle count. -/
theorem store_tick (m : Machine) :
    (tick m).state.memory = (step m).state.memory ∧
      (tick m).state.cycles = (step m).state.cycles := by
  rcases ran : step m with ⟨after, result, events⟩
  cases result with
  | error fault =>
      rw [tick_of_error ran]
      exact ⟨rfl, rfl⟩
  | ok record =>
      rw [tick_of_ok ran]
      cases taken : (TickSource.take after.devices.ticks).result with
      | error fault =>
          rw [updateTimers_of_error taken]
          exact ⟨rfl, rfl⟩
      | ok count =>
          rw [updateTimers_of_ok taken]
          exact ⟨rfl, rfl⟩

/-- A tick hands on the record of its cycle. -/
theorem finished_of_kept {m : Machine} {record : Snapshot Registers}
    (kept : m.kept? = some record) : m.finished? = some record := by
  unfold kept? at kept
  rcases ran : tick m with ⟨after, result, events⟩
  rw [ran] at kept
  cases result with
  | error fault => cases kept
  | ok answer =>
      cases kept
      obtain ⟨middle, early, count, cycle, _⟩ := tick_ok ran
      rw [finished?, cycle]
      rfl

theorem kept_of_ok {m after : Machine} {cycle : Snapshot Registers} {events : List Event}
    (ticked : tick m = ⟨after, .ok cycle, events⟩) : m.kept? = some cycle := by
  rw [kept?, ticked]
  rfl

theorem kept_of_error {m after : Machine} {fault : Fault} {events : List Event}
    (failed : tick m = ⟨after, .error fault, events⟩) : m.kept? = none := by
  rw [kept?, failed]
  rfl

/-- What a machine and its tick have to do with each other. -/
theorem account_of_finished {m : Machine} {record : Snapshot Registers}
    (finished : m.finished? = some record) :
    m.Accounts record ∧ m.accesses = record.accesses ∧
      (tick m).state.memory.cells = Access.replay m.accesses m.memory.cells ∧
      (tick m).state.cycles = m.cycles + 1 := by
  obtain ⟨memory, cycles⟩ := m.store_tick
  rw [memory, cycles]
  unfold finished? at finished
  unfold accesses
  rcases ran : step m with ⟨after, result, events⟩
  rw [ran] at finished
  cases result with
  | error fault => cases finished
  | ok answer =>
      cases finished
      obtain ⟨accounts, cells, counted⟩ := accounts_of_step ran
      exact ⟨accounts, rfl, cells, counted⟩

theorem account_of_failed {m : Machine} (failed : m.finished? = none) :
    (tick m).state.memory.cells = Access.replay m.accesses m.memory.cells ∧
      (tick m).state.cycles = m.cycles ∧
      (m.HoldsBytes → (tick m).state.memory.cells = m.memory.cells) := by
  obtain ⟨memory, cycles⟩ := m.store_tick
  rw [memory, cycles]
  unfold finished? at failed
  unfold accesses
  rcases ran : step m with ⟨after, result, events⟩
  rw [ran] at failed
  cases result with
  | error fault => exact store_of_failed_step ran
  | ok answer => cases failed

/-- A cycle leaves a cell alone if its record stores nothing there, and also if it fails while the
general registers hold bytes. -/
theorem byte_step_of_spared {m : Machine} {address : Nat}
    (spared : ∀ record, m.finished? = some record → ∀ byte, .write address byte ∉ record.accesses)
    (bytes : m.finished? = none → m.HoldsBytes) :
    (step m).state.memory.byte address = m.memory.byte address := by
  rw [← m.store_tick.1, Memory.byte, Memory.byte]
  cases finished : m.finished? with
  | none => rw [(account_of_failed finished).2.2 (bytes finished)]
  | some record =>
      obtain ⟨_, logged, cells, _⟩ := account_of_finished finished
      rw [cells, logged, Access.getElem?_replay (spared record finished)]

/-! ## Many ticks -/

/-- The ticks of one run, from one machine to another: each is made at the machine that the one
before it left, and only the last may fail. -/
inductive Ticks : Machine → List Machine → Machine → Prop where
  | none {m : Machine} : Ticks m [] m
  | failed {m : Machine} : m.kept? = none → Ticks m [m] (tick m).state
  | ticked {m after : Machine} {later : List Machine} : m.kept? ≠ none →
      Ticks (tick m).state later after → Ticks m (m :: later) after

theorem Ticks.of_error {m after : Machine} {fault : Fault} {events : List Event}
    (failed : tick m = ⟨after, .error fault, events⟩) : Ticks m [m] after := by
  have last := Ticks.failed (kept_of_error failed)
  rw [failed] at last
  exact last

theorem Ticks.of_ok {m after last : Machine} {cycle : Snapshot Registers} {events : List Event}
    {later : List Machine} (ticked : tick m = ⟨after, .ok cycle, events⟩)
    (further : Ticks after later last) : Ticks m (m :: later) last := by
  refine .ticked (by rw [kept_of_ok ticked]; exact nofun) ?_
  rw [ticked]
  exact further

/-- Ticks were made at these machines, from one machine to another.  Between two ticks registers and
devices may change, but not the memory and the cycle count. -/
inductive Chain : Machine → List Machine → Machine → Prop where
  | rest {m after : Machine} : after.memory = m.memory → after.cycles = m.cycles → Chain m [] after
  | tick {m before after : Machine} {later : List Machine} : before.memory = m.memory →
      before.cycles = m.cycles → Chain (tick before).state later after →
      Chain m (before :: later) after

theorem Ticks.chain {m after : Machine} {made : List Machine} (ticks : Ticks m made after) :
    Chain m made after := by
  induction ticks with
  | none => exact .rest rfl rfl
  | failed _ => exact .tick rfl rfl (.rest rfl rfl)
  | ticked _ _ ih => exact .tick rfl rfl ih

theorem Chain.append {m middle after : Machine} {early late : List Machine}
    (first : Chain m early middle) (second : Chain middle late after) :
    Chain m (early ++ late) after := by
  induction first with
  | rest memory cycles =>
      cases second with
      | rest later_memory later_cycles =>
          exact .rest (later_memory.trans memory) (later_cycles.trans cycles)
      | tick later_memory later_cycles further =>
          exact .tick (later_memory.trans memory) (later_cycles.trans cycles) further
  | tick memory cycles _ ih => exact .tick memory cycles (ih second)

/-- **Along a chain the cells change by the logged accesses.** -/
theorem Chain.cells {m after : Machine} {attempts : List Machine} (chain : Chain m attempts after) :
    after.memory.cells = Access.replay (attempts.flatMap accesses) m.memory.cells := by
  induction chain with
  | rest memory _ => exact congrArg Memory.cells memory
  | @tick m before after later memory _ _ ih =>
      have cells : (Machine.tick before).state.memory.cells =
          Access.replay before.accesses before.memory.cells := by
        cases finished : before.finished? with
        | none => exact (account_of_failed finished).1
        | some record => exact (account_of_finished finished).2.2.1
      rw [ih, cells, memory, List.flatMap_cons, Access.replay_append]

/-- **Along a chain the finished cycles are numbered without a gap.** -/
theorem Chain.numbers {m after : Machine} {attempts : List Machine}
    (chain : Chain m attempts after) :
    (attempts.filterMap finished?).map (·.cycle) =
        List.range' (m.cycles + 1) (attempts.filterMap finished?).length ∧
      after.cycles = m.cycles + (attempts.filterMap finished?).length := by
  induction chain with
  | rest _ cycles => exact ⟨rfl, cycles⟩
  | @tick m before after later _ cycles _ ih =>
      -- the numbers of the later cycles go on from the count that this tick left
      obtain ⟨numbers, counted⟩ := ih
      cases finished : before.finished? with
      | none =>
          rw [(account_of_failed finished).2.1, cycles] at numbers counted
          rw [List.filterMap_cons_none finished]
          exact ⟨numbers, counted⟩
      | some record =>
          obtain ⟨accounts, _, _, one_more⟩ := account_of_finished finished
          rw [one_more, cycles] at numbers counted
          rw [List.filterMap_cons_some finished, List.map_cons, List.length_cons, List.range'_succ,
            accounts.cycle, cycles, numbers, counted]
          exact ⟨rfl, by omega⟩

/-- **Along a chain whose failed cycles leave the cells alone**, the records of the finished cycles
account for the cells. -/
theorem Chain.cells_of_finished {m after : Machine} {attempts : List Machine}
    (chain : Chain m attempts after)
    (bytes : ∀ before ∈ attempts, before.finished? = none → before.HoldsBytes) :
    after.memory.cells =
      Access.replay ((attempts.filterMap finished?).flatMap (·.accesses)) m.memory.cells := by
  induction chain with
  | rest memory _ => exact congrArg Memory.cells memory
  | @tick m before after later memory _ _ ih =>
      rw [ih fun earlier inside => bytes earlier (.tail _ inside)]
      cases finished : before.finished? with
      | none =>
          have untouched := (account_of_failed finished).2.2 (bytes before (.head _) finished)
          rw [untouched, memory, List.filterMap_cons_none finished]
      | some record =>
          obtain ⟨_, logged, cells, _⟩ := account_of_finished finished
          rw [cells, memory, logged, List.filterMap_cons_some finished, List.flatMap_cons,
            Access.replay_append]

end Machine

/-! ## Sessions -/

/-- What a host does with a session: single steps and runs, and in between anything that leaves
the memory alone. -/
inductive DebugCall where
  | stepInstruction
  | run (allowance : Nat) (limit : Option Int) (stopAfter : Option Nat)
  | adjust (registers : Registers → Registers) (devices : Devices → Devices)
      (breakpoints : List Breakpoint → List Breakpoint)

namespace Session

open Machine (Chain Ticks kept? kept_of_ok kept_of_error finished? accesses tick)

/-- The session after a call, also if the call failed. -/
def afterCall (s : Session) : DebugCall → Session
  | .stepInstruction => (stepInstruction s).state
  | .run allowance limit stopAfter => (run allowance limit stopAfter s).state
  | .adjust registers devices breakpoints =>
      { s with
        machine := { s.machine with
          registers := registers s.machine.registers
          devices := devices s.machine.devices }
        breakpoints := breakpoints s.breakpoints }

/-- The session after calls one after another. -/
def afterCalls (s : Session) (calls : List DebugCall) : Session := calls.foldl afterCall s

/-- The machines at which the ticks of some calls were made, from a session on. -/
inductive Attempts : Session → List DebugCall → List Machine → Prop where
  | none {s : Session} : Attempts s [] []
  | stepInstruction {s : Session} {rest : List DebugCall} {later : List Machine} :
      Attempts (s.afterCall .stepInstruction) rest later →
      Attempts s (.stepInstruction :: rest) (s.machine :: later)
  | run {s : Session} {allowance : Nat} {limit : Option Int} {stopAfter : Option Nat}
      {rest : List DebugCall} {made later : List Machine} :
      Ticks s.machine made (s.afterCall (.run allowance limit stopAfter)).machine →
      Attempts (s.afterCall (.run allowance limit stopAfter)) rest later →
      Attempts s (.run allowance limit stopAfter :: rest) (made ++ later)
  | adjust {s : Session} {registers : Registers → Registers} {devices : Devices → Devices}
      {breakpoints : List Breakpoint → List Breakpoint} {rest : List DebugCall}
      {later : List Machine} :
      Attempts (s.afterCall (.adjust registers devices breakpoints)) rest later →
      Attempts s (.adjust registers devices breakpoints :: rest) later

variable {s t : Session}

theorem Attempts.chain {calls : List DebugCall} {attempts : List Machine}
    (attempted : Attempts s calls attempts) :
    Chain s.machine attempts (s.afterCalls calls).machine := by
  induction attempted with
  | none => exact .rest rfl rfl
  | @stepInstruction s _ _ _ ih =>
      refine .tick rfl rfl ?_
      rw [← (state_stepInstruction s).1]
      exact ih
  | run ticks _ ih => exact ticks.chain.append ih
  | @adjust s registers devices breakpoints _ _ _ ih =>
      have same_store : Chain s.machine []
          (s.afterCall (.adjust registers devices breakpoints)).machine := .rest rfl rfl
      exact same_store.append ih

/-- A run from one session with an unbounded history to another kept the records of its ticks. -/
structure Recorded (s t : Session) (made : List Machine) : Prop where
  ticks : Ticks s.machine made t.machine
  history : t.history.toList = s.history.toList ++ made.filterMap kept?
  unbounded : t.historyLimit = none

theorem Recorded.of_same (unbounded : s.historyLimit = none) (machine : t.machine = s.machine)
    (history : t.history = s.history) (limit : t.historyLimit = s.historyLimit) :
    Recorded s t [] where
  ticks := machine ▸ .none
  history := by rw [history, List.filterMap_nil, List.append_nil]
  unbounded := limit.trans unbounded

/-- A tick that succeeds is kept, and what comes after it is kept after it. -/
theorem Recorded.after_tick (unbounded : s.historyLimit = none) {m : Machine}
    {cycle : Snapshot Registers} {events : List Event}
    (ticked : tick s.machine = ⟨m, .ok cycle, events⟩) (next : Session) (machine : next.machine = m)
    (history : next.history = trimHistory s.historyLimit (s.history.push cycle))
    {later : List Machine} (further : Recorded next t later) :
    Recorded s t (s.machine :: later) where
  ticks := .of_ok ticked (machine ▸ further.ticks)
  history := by
    rw [further.history, history, unbounded, List.filterMap_cons_some (kept_of_ok ticked)]
    simp only [trimHistory, Array.toList_push, List.append_assoc, List.singleton_append]
  unbounded := further.unbounded

/-- A tick that fails leaves no record. -/
theorem Recorded.of_error (unbounded : s.historyLimit = none) {m : Machine} {fault : Fault}
    {events : List Event} (failed : tick s.machine = ⟨m, .error fault, events⟩) :
    Recorded s { s with machine := m } [s.machine] where
  ticks := .of_error failed
  history := by
    rw [List.filterMap_cons_none (kept_of_error failed), List.filterMap_nil, List.append_nil]
  unbounded := unbounded

/-- **A run keeps the records of its ticks.** -/
theorem recorded_continueRun (limit : Option Int) (stopAfter : Option Nat) (resume : Option Int)
    (allowance steps : Nat) (events : List Event) (unbounded : s.historyLimit = none) :
    ∃ made,
      Recorded s (continueRun limit stopAfter resume allowance steps events s).state made := by
  induction allowance generalizing steps events s with
  | zero => exact ⟨[], .of_same unbounded rfl rfl rfl⟩
  | succ allowance ih =>
      have fields (m : Machine) (cycle : Snapshot Registers) :
          (s.stepped stopAfter steps cycle m).machine = m ∧
          (s.stepped stopAfter steps cycle m).history =
            trimHistory s.historyLimit (s.history.push cycle) ∧
          (s.stepped stopAfter steps cycle m).historyLimit = s.historyLimit := by
        unfold stepped
        split
        · exact ⟨rfl, rfl, rfl⟩
        · exact ⟨rfl, rfl, rfl⟩
      rcases round_cases limit stopAfter resume allowance steps events s with
        ⟨_, ran⟩ | ⟨_, _, ran⟩ | ⟨_, _, m, fault, reported, failed, ran⟩ |
        ⟨_, _, m, cycle, reported, ticked, _, ran⟩ | ⟨_, _, m, cycle, reported, ticked, _, ran⟩
      · rw [ran]
        exact ⟨[], .of_same unbounded rfl rfl rfl⟩
      · rw [ran]
        exact ⟨[], .of_same unbounded rfl rfl rfl⟩
      · rw [ran]
        exact ⟨[s.machine], .of_error unbounded failed⟩
      · obtain ⟨machine, history, limited⟩ := fields m cycle
        rw [ran]
        exact ⟨[s.machine], .after_tick unbounded ticked _ machine history
          (.of_same (limited.trans unbounded) rfl rfl rfl)⟩
      · obtain ⟨machine, history, limited⟩ := fields m cycle
        obtain ⟨made, further⟩ := ih (steps + 1) (events ++ reported) (limited.trans unbounded)
        rw [ran]
        exact ⟨s.machine :: made, .after_tick unbounded ticked _ machine history further⟩

theorem recorded_stepInstruction (unbounded : s.historyLimit = none) :
    Recorded s (stepInstruction s).state [s.machine] := by
  rcases ran : tick s.machine with ⟨m, result, events⟩
  cases result with
  | error fault =>
      rw [stepInstruction_of_error ran]
      exact .of_error unbounded ran
  | ok cycle =>
      rw [stepInstruction_of_ok ran]
      exact .after_tick unbounded ran (keep cycle { s with machine := m }) rfl rfl
        (.of_same unbounded rfl rfl rfl)

/-- **Whatever a host calls, the session keeps the records of its ticks.** -/
theorem recorded_afterCalls (unbounded : s.historyLimit = none) (calls : List DebugCall) :
    ∃ attempts, Attempts s calls attempts ∧
      (s.afterCalls calls).history.toList = s.history.toList ++ attempts.filterMap kept? := by
  induction calls generalizing s with
  | nil => exact ⟨[], .none, (List.append_nil _).symm⟩
  | cons call rest ih =>
      cases call with
      | stepInstruction =>
          have first := recorded_stepInstruction unbounded
          obtain ⟨later, attempted, history⟩ := ih first.unbounded
          refine ⟨s.machine :: later, .stepInstruction attempted, ?_⟩
          rw [show s.machine :: later = [s.machine] ++ later from rfl, List.filterMap_append,
            ← List.append_assoc]
          exact history.trans (congrArg (· ++ _) first.history)
      | run allowance limit stopAfter =>
          obtain ⟨made, ticks, kept, still⟩ := recorded_continueRun limit stopAfter s.resumeAt
            allowance 0 [] (s := s.begun) unbounded
          obtain ⟨later, attempted, history⟩ :=
            ih (s := s.afterCall (.run allowance limit stopAfter)) still
          refine ⟨made ++ later, .run ticks attempted, ?_⟩
          rw [List.filterMap_append, ← List.append_assoc]
          exact history.trans (congrArg (· ++ _) kept)
      | adjust registers devices breakpoints =>
          obtain ⟨later, attempted, history⟩ :=
            ih (s := s.afterCall (.adjust registers devices breakpoints)) unbounded
          exact ⟨later, .adjust attempted, history⟩

/-- How the history of a session accounts for its memory after some calls, given the machines at
which their ticks were made. -/
structure Accounted (s : Session) (calls : List DebugCall) (attempts : List Machine) : Prop where
  attempted : Attempts s calls attempts
  /-- The records of the ticks that succeed are kept, and nothing else. -/
  history : (s.afterCalls calls).history.toList = s.history.toList ++ attempts.filterMap kept?
  kept : ∀ m ∈ attempts, ∀ record, m.kept? = some record → m.finished? = some record
  /-- The cells have changed by what the cycles logged, and by nothing else. -/
  cells : (s.afterCalls calls).machine.memory.cells =
    Access.replay (attempts.flatMap accesses) s.machine.memory.cells
  finished : ∀ m ∈ attempts, ∀ record, m.finished? = some record →
    m.Accounts record ∧ m.accesses = record.accesses
  /-- A failed cycle is not counted, and it changes nothing if the registers hold bytes. -/
  failed : ∀ m ∈ attempts, m.finished? = none →
    m.kept? = none ∧ (tick m).state.cycles = m.cycles ∧
      (m.HoldsBytes → (tick m).state.memory.cells = m.memory.cells)
  /-- The finished cycles are numbered without a gap. -/
  numbers : (attempts.filterMap finished?).map (·.cycle) =
    List.range' (s.machine.cycles + 1) (attempts.filterMap finished?).length
  counted : (s.afterCalls calls).machine.cycles =
    s.machine.cycles + (attempts.filterMap finished?).length

/-- **The history accounts for the memory.**  Whatever steps and runs a host makes in a session with
an unbounded history, the session accounts for its memory.  If registers hold bytes wherever a
cycle fails, and no tick fails after its cycle, then the records of the history alone say how the
cells have changed, and they are numbered without a gap. -/
theorem history_accounts (s : Session) (calls : List DebugCall)
    (unbounded : s.historyLimit = none) :
    ∃ attempts, Accounted s calls attempts ∧
      ((∀ m ∈ attempts, m.finished? = none → m.HoldsBytes) →
        (∀ m ∈ attempts, m.finished? ≠ none → m.kept? ≠ none) →
        (s.afterCalls calls).machine.memory.cells =
            Access.replay ((attempts.filterMap kept?).flatMap (·.accesses)) s.machine.memory.cells ∧
          (attempts.filterMap kept?).map (·.cycle) =
            List.range' (s.machine.cycles + 1) (attempts.filterMap kept?).length ∧
          (s.afterCalls calls).machine.cycles =
            s.machine.cycles + (attempts.filterMap kept?).length) := by
  obtain ⟨attempts, attempted, history⟩ := recorded_afterCalls unbounded calls
  have chain := attempted.chain
  obtain ⟨numbers, counted⟩ := chain.numbers
  have lost {m : Machine} (failed : m.finished? = none) : m.kept? = none := by
    cases kept : m.kept? with
    | none => rfl
    | some record =>
        rw [Machine.finished_of_kept kept] at failed
        cases failed
  refine ⟨attempts, ?_, fun bytes in_time => ?_⟩
  · exact
      { attempted := attempted
        history := history
        kept := fun m _ record kept => Machine.finished_of_kept kept
        cells := chain.cells
        finished := by
          intro m _ record finished
          obtain ⟨accounts, logged, _⟩ := Machine.account_of_finished finished
          exact ⟨accounts, logged⟩
        failed := by
          intro m _ failed
          obtain ⟨_, uncounted, untouched⟩ := Machine.account_of_failed failed
          exact ⟨lost failed, uncounted, untouched⟩
        numbers := numbers
        counted := counted }
  · -- if no tick fails after its cycle, the kept records are those of the finished cycles
    have same : attempts.filterMap kept? = attempts.filterMap finished? := by
      apply List.filterMap_congr
      intro m inside
      cases finished : m.finished? with
      | none => exact lost finished
      | some record =>
          obtain ⟨other, kept⟩ := Option.ne_none_iff_exists'.mp
            (in_time m inside (by rw [finished]; exact nofun))
          rw [kept, ← finished, Machine.finished_of_kept kept]
    rw [same]
    exact ⟨chain.cells_of_finished bytes, numbers, counted⟩

/-- A new session with an unbounded history and a machine that stores a register. -/
def storing (ticks : TickSource) : Session := ofMachine (.ofWord 0xF0 0x55 ticks) none

/-- Its history accounts for the cell that it writes. -/
theorem storing_history_accounts :
    (storing .everyCycle).historyLimit = none ∧
      ((storing .everyCycle).afterCalls [.stepInstruction]).machine.memory.cells = #[0x00, 0x55] ∧
      ∃ attempts, Accounted (storing .everyCycle) [.stepInstruction] attempts := by
  have unbounded : (storing .everyCycle).historyLimit = none := rfl
  obtain ⟨attempts, accounted, _⟩ := history_accounts _ [.stepInstruction] unbounded
  exact ⟨unbounded, by rfl, attempts, accounted⟩

/-- The same session with a clock that has come to show a number of seconds that no double is
next to. -/
def storingOverdue : Session :=
  storing (.clock ⟨.whole 1, .whole 0, .whole Decimal.beyondDoubles⟩)

/-- A new session with a machine that stores two registers, of which the second holds no byte. -/
def storingNoByte : Session :=
  ofMachine { Machine.ofWord 0xF1 0x55 .everyCycle with
    registers := { Registers.initial.set 1 300 with pc := 0 } } none

/-- **A finished cycle can be missing from the history**: a tick that fails after its cycle leaves
a cell that no record accounts for, and a number that no record has.  And a cycle that fails can
change a cell, if a register holds no byte. -/
theorem overdue_cycle_has_no_record :
    ((storingOverdue.afterCalls [.stepInstruction]).history = #[] ∧
      (storingOverdue.afterCalls [.stepInstruction]).machine.cycles = 1 ∧
      (storingOverdue.afterCalls [.stepInstruction]).machine.memory.cells ≠
        Access.replay [] storingOverdue.machine.memory.cells) ∧
    ((storingNoByte.afterCalls [.stepInstruction]).history = #[] ∧
      (storingNoByte.afterCalls [.stepInstruction]).machine.cycles = 0 ∧
      (storingNoByte.afterCalls [.stepInstruction]).machine.memory.cells ≠
        Access.replay [] storingNoByte.machine.memory.cells) := by
  obtain ⟨record, cycle⟩ : ∃ record, Machine.step storingOverdue.machine =
      ⟨(Machine.step storingOverdue.machine).state, .ok record, []⟩ := ⟨_, rfl⟩
  have late : (TickSource.take (Machine.step storingOverdue.machine).state.devices.ticks).result =
      .error .beyondDoubles :=
    TickSource.take_of_beyond (.whole 1)
      (Nat.le_of_eq (by rw [Int.sub_zero, Int.natAbs_natCast]))
  have stepped : storingOverdue.afterCalls [.stepInstruction] =
      { storingOverdue with machine := (Machine.step storingOverdue.machine).state } :=
    congrArg Outcome.state (stepInstruction_of_error (Machine.tick_of_overdue cycle late))
  rw [stepped]
  exact ⟨⟨rfl, rfl, by decide⟩, ⟨rfl, rfl, by decide⟩⟩

end Session

end Chip8
