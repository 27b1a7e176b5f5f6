import Chip8.Proofs.Arithmetic
import Chip8.Proofs.Footprint
import Chip8.Proofs.History
import Chip8.Proofs.HostCalls
import Chip8.Proofs.ProgramFiles

/-!
# One random byte at a time

A machine has one source of random bytes from the day it is built.  A word that asks for a random
byte draws one from it and cannot fail; no other word does so, and nothing that a host does between
two cycles, whether it succeeds or fails (`random_step`, `keepsRandom_quiet`).

So the cycles of a machine are supplied from one source, each with what the cycles before it have
left (`Supplied`).  Whatever a host does with a machine and with a session on it, by the end as many
bytes were drawn as words asked for one, and the words got them in order
(`one_byte_for_each_draw`).
-/

namespace Chip8

set_option autoImplicit false

namespace Machine

variable {m : Machine} {source : RandomSource}

/-! ## Cycles -/

/-- The cycle of a machine executes a word that asks for a random byte. -/
def DrawsByte (m : Machine) : Prop := m.Inside ∧ m.word / 0x1000 = 0xC

instance (m : Machine) : Decidable m.DrawsByte := inferInstanceAs (Decidable (_ ∧ _))

/-- What a cycle does that gets a random byte, and goes on with the next word. -/
structure Drew (m after : Machine) : Prop where
  source : after.devices.random = m.devices.random.draw.2
  byte : after.registers.get (m.word / 0x100 % 0x10 : Nat) =
    m.devices.random.draw.1.toNat &&& (m.word % 0x100)
  counter : after.registers.pc = m.registers.advance.pc
  cells : after.memory.cells = m.memory.cells

/-- A word that asks for a random byte gets one. -/
theorem step_of_draw (draws : m.DrawsByte) :
    ∃ after record, step m = ⟨after, .ok record, []⟩ ∧ m.Drew after := by
  obtain ⟨inside, family⟩ := draws
  have denotes : Instruction.Denotes m.opcode (.random m.opcode.x m.opcode.nn) :=
    .random (family_of_head family)
  have drawn := takeRandom_of_nibble (m := m.fetched) m.opcode_fits.x m.opcode.nn
  refine ⟨_, _, step_of_effect inside denotes drawn, rfl, ?_, Registers.pc_set _ _ _, rfl⟩
  have mask : (m.opcode.nn % 256).toNat = m.word % 0x100 := by
    rw [opcode_nn]
    omega
  rw [mask, opcode_x]
  exact (Registers.get_set _ _ _ _).trans (if_pos rfl)

/-- **What a cycle does to the random bytes**, also if it fails. -/
theorem random_step (m : Machine) :
    (step m).state.devices.random =
      if m.DrawsByte then m.devices.random.draw.2 else m.devices.random := by
  by_cases draws : m.DrawsByte
  · obtain ⟨after, record, cycle, drew⟩ := step_of_draw draws
    rw [if_pos draws, cycle, drew.source]
  · rw [if_neg draws]
    by_cases inside : m.Inside
    · exact m.step_changes_only.random (not_touched (fun family => draws ⟨inside, family⟩) nofun)
    · rw [step_of_outside inside]
      rfl

/-! ## All that a host does -/

theorem lasting_random : Lasting fun m : Machine => m.devices.random = source where
  restart := fun _ same => same
  elapse := fun _ _ same => same
  clear := fun _ same => same
  loadBytes := fun _ _ _ _ same _ => same
  write := fun _ _ _ _ same _ => same
  screen := fun _ _ same _ => same
  keypad := fun _ _ same => same
  ticks := fun _ _ same => same

theorem random_tick (m : Machine) :
    (tick m).state.devices.random = (step m).state.devices.random := by
  rcases ran : step m with ⟨after, result, events⟩
  cases result with
  | error fault => rw [tick_of_error ran]
  | ok record =>
      rw [tick_of_ok ran]
      exact lasting_random.keeps_updateTimers after rfl

theorem random_loadRom (files : Files) (path : String) (m : Machine) :
    (loadRom files path m).state.devices.random = m.devices.random := by
  have kept : Action.Keeps (fun later : Machine => later.devices.random = m.devices.random)
      (loadRom files path) :=
    .bind (fun _ same => same) fun program => .bind lasting_random.keeps_reset fun _ =>
      .bind (lasting_random.keeps_loadProgram program) fun _ =>
      .bind (fun _ same => same) fun _ => .pure _
  exact kept m rfl

/-- A new machine has the random bytes that it was given. -/
theorem random_create {memory : Memory} {devices : Devices}
    (built : Machine.create memory devices = .ok m) : m.devices.random = devices.random := by
  have kept : (prepareMemory ⟨Registers.initial, memory, 0, devices⟩).state.devices.random =
      devices.random := lasting_random.keeps_prepareMemory _ rfl
  simp only [create] at built
  split at built
  · cases built
    exact kept
  · cases built

/-! ## Cycles that share a source -/

/-- Cycles are begun at these machines one after another, each with the random bytes that the one
before it has left. -/
inductive Supplied : RandomSource → List Machine → RandomSource → Prop where
  | none {source : RandomSource} : Supplied source [] source
  | cycle {m : Machine} {later : List Machine} {last : RandomSource}
      (further : Supplied (step m).state.devices.random later last) :
      Supplied m.devices.random (m :: later) last

theorem Supplied.append {early late : List Machine} {middle last : RandomSource}
    (first : Supplied source early middle) (second : Supplied middle late last) :
    Supplied source (early ++ late) last := by
  induction first with
  | none => exact second
  | cycle _ ih => exact .cycle (ih second)

/-- The machines among some that ask for a random byte. -/
def drawing (made : List Machine) : List Machine := made.filter fun m => m.DrawsByte

/-- **The source goes on by as many bytes as were asked for.** -/
theorem Supplied.last_eq {made : List Machine} {last : RandomSource}
    (supplied : Supplied source made last) : last = source.after (drawing made).length := by
  induction supplied with
  | none => rfl
  | @cycle m later last _ ih =>
      rw [ih, random_step, drawing, drawing]
      by_cases draws : m.DrawsByte
      · rw [if_pos draws, List.filter_cons_of_pos (by simpa using draws)]
        rfl
      · rw [if_neg draws, List.filter_cons_of_neg (by simpa using draws)]

/-- **The bytes are handed out in order.** -/
theorem Supplied.random_eq {made : List Machine} {last : RandomSource}
    (supplied : Supplied source made last) {n : Nat} (nth : (drawing made)[n]? = some m) :
    m.devices.random = source.after n ∧ m.DrawsByte := by
  induction supplied generalizing n with
  | none => cases nth
  | @cycle first later last _ ih =>
      rw [random_step] at ih
      rw [drawing] at nth
      by_cases draws : first.DrawsByte
      · rw [if_pos draws] at ih
        rw [List.filter_cons_of_pos (by simpa using draws)] at nth
        cases n with
        | zero =>
            cases nth
            exact ⟨rfl, draws⟩
        | succ n => exact ih nth
      · rw [if_neg draws] at ih
        rw [List.filter_cons_of_neg (by simpa using draws)] at nth
        exact ih nth

/-- The ticks of a run share a source. -/
theorem Ticks.supplied {made : List Machine} {after : Machine} (ticks : Ticks m made after) :
    Supplied m.devices.random made after.devices.random := by
  induction ticks with
  | none => exact .none
  | failed _ =>
      rw [random_tick]
      exact .cycle .none
  | ticked _ _ ih =>
      rw [random_tick] at ih
      exact .cycle ih

end Machine

/-! ## The life of a machine -/

/-- What a host does with a machine and with a session on it.  Between other things it may give the
machine other values in its registers, and change the breakpoints. -/
inductive Activity where
  | call (call : HostCall)
  | loadRom (files : Files) (path : String)
  | stepInstruction
  | run (allowance : Nat) (limit : Option Int) (stopAfter : Option Nat)
  | adjust (registers : Registers → Registers) (breakpoints : List Breakpoint → List Breakpoint)

namespace Session

open Machine (Ticks Supplied drawing)

/-- The session after an activity, also if it failed. -/
def afterActivity (s : Session) : Activity → Session
  | .call call => (onMachine call.act s).state
  | .loadRom files path => (onMachine (Machine.loadRom files path) s).state
  | .stepInstruction => (stepInstruction s).state
  | .run allowance limit stopAfter => (run allowance limit stopAfter s).state
  | .adjust registers breakpoints =>
      { s with
        machine := { s.machine with registers := registers s.machine.registers }
        breakpoints := breakpoints s.breakpoints }

theorem machine_call (s : Session) (call : HostCall) :
    (s.afterActivity (.call call)).machine = (call.act s.machine).state :=
  rfl

/-- The machines at which an activity begins cycles. -/
inductive Begins (s : Session) : Activity → List Machine → Prop where
  | cycle {call : HostCall} (cycle : call.IsCycle) : Begins s (.call call) [s.machine]
  | stepInstruction : Begins s .stepInstruction [s.machine]
  | run {allowance : Nat} {limit : Option Int} {stopAfter : Option Nat} {made : List Machine}
      (ticks : Ticks s.machine made (s.afterActivity (.run allowance limit stopAfter)).machine) :
      Begins s (.run allowance limit stopAfter) made
  | quiet {call : HostCall} (quiet : ¬ call.IsCycle) : Begins s (.call call) []
  | loadRom {files : Files} {path : String} : Begins s (.loadRom files path) []
  | adjust {registers : Registers → Registers} {breakpoints : List Breakpoint → List Breakpoint} :
      Begins s (.adjust registers breakpoints) []

/-- The session after activities one after another. -/
def afterActivities (s : Session) (activities : List Activity) : Session :=
  activities.foldl afterActivity s

/-- The machines at which cycles are begun during activities one after another. -/
inductive Lives : Session → List Activity → List Machine → Prop where
  | rest {s : Session} : Lives s [] []
  | go {s : Session} {activity : Activity} {activities : List Activity} {made later : List Machine}
      (begins : s.Begins activity made)
      (further : Lives (s.afterActivity activity) activities later) :
      Lives s (activity :: activities) (made ++ later)

/-- A run makes ticks, one after another. -/
theorem ticks_continueRun (limit : Option Int) (stopAfter : Option Nat) (resume : Option Int)
    (allowance steps : Nat) (events : List Event) (s : Session) :
    ∃ made, Ticks s.machine made
      (continueRun limit stopAfter resume allowance steps events s).state.machine := by
  induction allowance generalizing steps events s with
  | zero => exact ⟨[], .none⟩
  | succ allowance ih =>
      rcases round_cases limit stopAfter resume allowance steps events s with
        ⟨_, ran⟩ | ⟨_, _, ran⟩ | ⟨_, _, m, fault, reported, failed, ran⟩ |
        ⟨_, _, m, cycle, reported, ticked, _, ran⟩ | ⟨_, _, m, cycle, reported, ticked, _, ran⟩
      · rw [ran]
        exact ⟨[], .none⟩
      · rw [ran]
        exact ⟨[], .none⟩
      · rw [ran]
        exact ⟨[s.machine], .of_error failed⟩
      · rw [ran, machine_stepped]
        exact ⟨[s.machine], .of_ok ticked .none⟩
      · obtain ⟨made, further⟩ :=
          ih (steps + 1) (events ++ reported) (s.stepped stopAfter steps cycle m)
        rw [machine_stepped] at further
        rw [ran]
        exact ⟨s.machine :: made, .of_ok ticked further⟩

/-- Every activity begins cycles somewhere, if only nowhere. -/
theorem exists_begins (s : Session) (activity : Activity) : ∃ made, s.Begins activity made := by
  cases activity with
  | call call =>
      by_cases cycle : call.IsCycle
      · exact ⟨_, .cycle cycle⟩
      · exact ⟨[], .quiet cycle⟩
  | loadRom files path => exact ⟨[], .loadRom⟩
  | stepInstruction => exact ⟨_, .stepInstruction⟩
  | run allowance limit stopAfter =>
      obtain ⟨made, ticks⟩ := ticks_continueRun limit stopAfter s.resumeAt allowance 0 [] s.begun
      exact ⟨made, .run ticks⟩
  | adjust registers breakpoints => exact ⟨[], .adjust⟩

theorem exists_lives (s : Session) (activities : List Activity) :
    ∃ made, Lives s activities made := by
  induction activities generalizing s with
  | nil => exact ⟨[], .rest⟩
  | cons activity rest ih =>
      obtain ⟨made, begins⟩ := s.exists_begins activity
      obtain ⟨later, further⟩ := ih (s.afterActivity activity)
      exact ⟨made ++ later, .go begins further⟩

variable {s : Session} {activity : Activity} {made : List Machine}

/-- The cycles of one activity share a source, and nothing else draws from it. -/
theorem Begins.supplied (begins : s.Begins activity made) :
    Supplied s.machine.devices.random made
      (s.afterActivity activity).machine.devices.random := by
  cases begins with
  | @cycle call cycle =>
      have after : (call.act s.machine).state.devices.random =
          (Machine.step s.machine).state.devices.random := by
        cases call with
        | step => rw [HostCall.act, Action.state_of_answer]
        | tick => rw [HostCall.act, Action.state_of_answer, Machine.random_tick]
        | _ => exact cycle.elim
      rw [machine_call, after]
      exact .cycle .none
  | stepInstruction =>
      rw [afterActivity, (state_stepInstruction s).1, Machine.random_tick]
      exact .cycle .none
  | run ticks => exact ticks.supplied
  | @quiet call quiet =>
      have kept := Machine.lasting_random.keeps_act_of_quiet quiet s.machine rfl
      rw [machine_call, kept]
      exact .none
  | @loadRom files path =>
      have kept :
          (s.afterActivity (.loadRom files path)).machine.devices.random =
            s.machine.devices.random :=
        Machine.random_loadRom files path s.machine
      rw [kept]
      exact .none
  | adjust => exact .none

/-- The cycles of a whole life share a source. -/
theorem Lives.supplied {activities : List Activity} (lives : Lives s activities made) :
    Supplied s.machine.devices.random made
      (s.afterActivities activities).machine.devices.random := by
  induction lives with
  | rest => exact .none
  | go begins _ ih => exact begins.supplied.append ih

/-- **One random byte for each word that asks for one.**  Whatever a host does with a new machine
and a session on it, the source has gone on by as many bytes as cycles asked for one, and the cycle
that asked after `n` others succeeds and leaves the byte number `n`, masked, in its register. -/
theorem one_byte_for_each_draw {memory : Memory} {devices : Devices}
    (built : Machine.create memory devices = .ok s.machine) (activities : List Activity) :
    (∃ made, Lives s activities made) ∧
      ∀ made, Lives s activities made →
        (s.afterActivities activities).machine.devices.random =
          devices.random.after (drawing made).length ∧
        ∀ (n : Nat) (m : Machine), (drawing made)[n]? = some m →
          ∃ after record, Machine.step m = ⟨after, .ok record, []⟩ ∧
            after.registers.get (m.word / 0x100 % 0x10 : Nat) =
              (devices.random.nth n).toNat &&& (m.word % 0x100) := by
  refine ⟨s.exists_lives activities, fun made lives => ?_⟩
  have supplied := lives.supplied
  rw [Machine.random_create built] at supplied
  refine ⟨supplied.last_eq, fun n m nth => ?_⟩
  obtain ⟨random, draws⟩ := supplied.random_eq nth
  obtain ⟨after, record, cycle, drew⟩ := Machine.step_of_draw draws
  have byte := drew.byte
  rw [random] at byte
  exact ⟨after, record, cycle, byte⟩

/-- The bytes that a machine is given from `0x5A` on. -/
def countingUp : RandomSource := .listed (fun place => UInt8.ofNat (0x5A + place)) 0

/-- A session on a new machine with these bytes. -/
def supplied : Session :=
  ofMachine ⟨Registers.initial, Machine.defaultMemory.prepared, 0,
    ⟨Machine.defaultScreen, Keypad.idle, countingUp, .everyCycle⟩⟩ none

/-- A program of two words that ask for a byte each.  The first takes the last digit of it. -/
def asking : List UInt8 := [0xC1, 0x0F, 0xC2, 0xFF]

/-- The program is placed, and both of its words are executed. -/
def askTwice : List Activity := [.call (.loadProgram asking), .call .step, .stepInstruction]

/-- The session when the program is in place. -/
def askingFirst : Session := supplied.afterActivity (.call (.loadProgram asking))

/-- The session when the first word was executed. -/
def askingSecond : Session := askingFirst.afterActivity (.call .step)

theorem size_supplied : supplied.machine.memory.size = 4096 :=
  (Memory.size_prepared Machine.defaultMemory).trans Machine.size_defaultMemory

/-- As long as the program is in place, its words ask for bytes. -/
theorem asks_of_placed {m : Machine} {k : Nat} {high low : UInt8}
    (placed : m.memory.cells =
      (supplied.machine.memory.setBytes Registers.programStart asking).cells)
    (counter : m.registers.pc = (Registers.programStart + k : Nat))
    (first : asking[k]? = some high) (second : asking[k + 1]? = some low)
    (asks : high.toNat / 0x10 = 0xC) :
    m.DrawsByte ∧ m.word = 256 * high.toNat + low.toNat := by
  have fits : Registers.programStart + asking.length ≤ supplied.machine.memory.size := by
    rw [size_supplied]
    decide
  obtain ⟨inside, word⟩ := Machine.word_of_placed fits placed counter first second
  have small := low.toNat_lt
  exact ⟨⟨inside, by omega⟩, word⟩

theorem askingFirst_asks : askingFirst.machine.registers.pc = Registers.programStart ∧
    askingFirst.machine.memory =
      supplied.machine.memory.setBytes Registers.programStart asking ∧
    askingFirst.machine.DrawsByte ∧ askingFirst.machine.word = 0xC10F := by
  have ready : askingFirst.machine.registers.pc = Registers.programStart ∧
      askingFirst.machine.memory =
        supplied.machine.memory.setBytes Registers.programStart asking := by
    rw [askingFirst, machine_call, HostCall.act,
      Machine.loadProgram_of_fits size_supplied (by decide)]
    exact ⟨rfl, rfl⟩
  obtain ⟨counter, placed⟩ := ready
  obtain ⟨draws, word⟩ :=
    asks_of_placed (k := 0) (congrArg Memory.cells placed) counter rfl rfl (by decide)
  exact ⟨counter, placed, draws, word⟩

/-- The first word leads to the second, which is still in its place. -/
theorem askingSecond_asks :
    askingSecond.machine.DrawsByte ∧ askingSecond.machine.word = 0xC2FF := by
  obtain ⟨counter, placed, draws, _⟩ := askingFirst_asks
  obtain ⟨after, _, cycle, drew⟩ := Machine.step_of_draw draws
  have next : askingSecond.machine = after := by
    rw [askingSecond, machine_call, HostCall.act, Action.state_of_answer, cycle]
  rw [← next] at drew
  refine asks_of_placed (k := 2) (by rw [drew.cells, placed]) ?_ rfl rfl rfl
  rw [drew.counter, Registers.advance, counter]
  rfl

/-- The words get the first two bytes, and two bytes were drawn. -/
theorem two_bytes_of_counting_up :
    ∃ first second, Lives supplied askTwice [first, second] ∧
      (∃ after record, Machine.step first = ⟨after, .ok record, []⟩ ∧
        after.registers.get 1 = 0x0A) ∧
      (∃ after record, Machine.step second = ⟨after, .ok record, []⟩ ∧
        after.registers.get 2 = 0x5B) ∧
      (supplied.afterActivities askTwice).machine.devices.random = countingUp.after 2 := by
  have built := Machine.create_defaultMemory supplied.machine.devices
  have cycle_call : HostCall.step.IsCycle := trivial
  have lives : Lives supplied askTwice [askingFirst.machine, askingSecond.machine] :=
    Lives.go (.quiet id) (Lives.go (.cycle cycle_call) (Lives.go .stepInstruction .rest))
  obtain ⟨_, _, first_draws, first_word⟩ := askingFirst_asks
  obtain ⟨second_draws, second_word⟩ := askingSecond_asks
  have both : drawing [askingFirst.machine, askingSecond.machine] =
      [askingFirst.machine, askingSecond.machine] := by
    rw [drawing, List.filter_eq_self, List.forall_mem_cons, List.forall_mem_singleton]
    exact ⟨decide_eq_true first_draws, decide_eq_true second_draws⟩
  obtain ⟨random, taken⟩ := (one_byte_for_each_draw built askTwice).2 _ lives
  rw [both] at random taken
  obtain ⟨after, record, first_cycle, first_byte⟩ := taken 0 askingFirst.machine rfl
  obtain ⟨last, later, second_cycle, second_byte⟩ := taken 1 askingSecond.machine rfl
  have listed (n : Nat) :
      supplied.machine.devices.random.nth n = UInt8.ofNat (0x5A + (0 + n)) :=
    RandomSource.nth_listed _ 0 n
  rw [first_word, listed] at first_byte
  rw [second_word, listed] at second_byte
  exact ⟨_, _, lives, ⟨after, record, first_cycle, first_byte⟩,
    ⟨last, later, second_cycle, second_byte⟩, random⟩

end Session

end Chip8
