import Chip8.Debugger.Session
import Chip8.Proofs.Cycle

/-!
# One round of a run

A round of a run first asks whether the run pauses (`pauses`), then whether it stops at a
breakpoint on the program counter (`stopsHere`).  Otherwise the machine makes a tick, and the run
ends with its fault, or at a breakpoint on the cycle, or goes on from the session after the
step (`stepped`).  There is one equation for each of these five ways.
-/

namespace Chip8.Session

set_option autoImplicit false

/-- The session at the beginning of a run, which has forgotten where the last one stopped. -/
def begun (s : Session) : Session := { s with running := true, resumeAt := none }

/-- Whether a run pauses before its next step. -/
def pauses (limit : Option Int) (steps : Nat) (s : Session) : Bool :=
  !s.running || limit.any fun (n : Int) => n ≤ steps

/-- Whether a run stops at a breakpoint before its next step. -/
def stopsHere (resume : Option Int) (steps : Nat) (s : Session) : Bool :=
  !(steps == 0 && resume == some s.machine.registers.pc) &&
    s.stopsBefore s.machine.registers.pc

/-- The session after a step of a run. -/
def stepped (stopAfter : Option Nat) (steps : Nat) (cycle : Snapshot Registers) (m : Machine)
    (s : Session) : Session :=
  if stopAfter = some (steps + 1) then (keep cycle { s with machine := m }).stop
  else keep cycle { s with machine := m }

variable {s : Session} {m : Machine} {cycle : Snapshot Registers} {fault : Fault}
  {reported events : List Event} {limit : Option Int} {stopAfter : Option Nat}
  {resume : Option Int} {allowance steps : Nat}

theorem stepInstruction_of_ok (ticked : Machine.tick s.machine = ⟨m, .ok cycle, reported⟩) :
    stepInstruction s = ⟨keep cycle { s with machine := m }, .ok cycle, reported⟩ := by
  have first : onMachine Machine.tick s = ⟨{ s with machine := m }, .ok cycle, reported⟩ := by
    rw [onMachine, Action.within, ticked]
  rw [stepInstruction, Action.bind_of_events first, Action.update_bind, Action.pure_apply,
    List.append_nil]

theorem stepInstruction_of_error (failed : Machine.tick s.machine = ⟨m, .error fault, reported⟩) :
    stepInstruction s = ⟨{ s with machine := m }, .error fault, reported⟩ := by
  refine Action.bind_of_error ?_
  rw [onMachine, Action.within, failed]

/-- A single step leaves the machine after its tick, and touches nothing else but the records. -/
theorem state_stepInstruction (s : Session) :
    (stepInstruction s).state.machine = (Machine.tick s.machine).state ∧
      (stepInstruction s).state.breakpoints = s.breakpoints ∧
      (stepInstruction s).state.resumeAt = s.resumeAt := by
  rcases ticked : Machine.tick s.machine with ⟨m, result, reported⟩
  cases result with
  | error fault =>
      rw [stepInstruction_of_error ticked]
      exact ⟨rfl, rfl, rfl⟩
  | ok cycle =>
      rw [stepInstruction_of_ok ticked]
      exact ⟨rfl, rfl, rfl⟩

/-! ## What a step of a run leaves alone -/

@[simp] theorem machine_stepped (s : Session) :
    (s.stepped stopAfter steps cycle m).machine = m := by
  unfold stepped
  split <;> rfl

@[simp] theorem breakpoints_stepped (s : Session) :
    (s.stepped stopAfter steps cycle m).breakpoints = s.breakpoints := by
  unfold stepped
  split <;> rfl

@[simp] theorem resumeAt_stepped (s : Session) :
    (s.stepped stopAfter steps cycle m).resumeAt = s.resumeAt := by
  unfold stepped
  split <;> rfl

theorem stopsAfter_stepped (s : Session) (before : Registers) (record : Snapshot Registers) :
    (s.stepped stopAfter steps cycle m).stopsAfter before record = s.stopsAfter before record := by
  rw [stopsAfter, breakpoints_stepped, stopsAfter]

/-! ## The rounds -/

theorem continueRun_of_pause (paused : s.pauses limit steps = true) :
    continueRun limit stopAfter resume (allowance + 1) steps events s =
      ⟨s, .ok .paused, events⟩ :=
  if_pos paused

theorem continueRun_of_stop (goes : s.pauses limit steps = false)
    (stopped : s.stopsHere resume steps = true) :
    continueRun limit stopAfter resume (allowance + 1) steps events s =
      ⟨{ s with resumeAt := some s.machine.registers.pc }, .ok .breakpoint,
        events ++ [.breakpointHit s.machine.registers.pc]⟩ :=
  (if_neg (Bool.eq_false_iff.mp goes)).trans (if_pos stopped)

/-- A round that neither pauses nor stops at the program counter makes a tick. -/
theorem continueRun_of_go (goes : s.pauses limit steps = false)
    (passes : s.stopsHere resume steps = false) :
    continueRun limit stopAfter resume (allowance + 1) steps events s =
      match stepInstruction s with
      | ⟨s', .error fault, reported⟩ => ⟨s', .error fault, events ++ reported⟩
      | ⟨s', .ok cycle, reported⟩ =>
        let s' := if stopAfter = some (steps + 1) then s'.stop else s'
        if s'.stopsAfter s.machine.registers cycle then
          ⟨s', .ok .breakpoint, events ++ reported ++ [.breakpointHit cycle.registers.pc]⟩
        else continueRun limit stopAfter resume allowance (steps + 1) (events ++ reported) s' :=
  (if_neg (Bool.eq_false_iff.mp goes)).trans (if_neg (Bool.eq_false_iff.mp passes))

theorem continueRun_of_fault (goes : s.pauses limit steps = false)
    (passes : s.stopsHere resume steps = false)
    (failed : Machine.tick s.machine = ⟨m, .error fault, reported⟩) :
    continueRun limit stopAfter resume (allowance + 1) steps events s =
      ⟨{ s with machine := m }, .error fault, events ++ reported⟩ := by
  rw [continueRun_of_go goes passes, stepInstruction_of_error failed]

theorem continueRun_of_hit (goes : s.pauses limit steps = false)
    (passes : s.stopsHere resume steps = false)
    (ticked : Machine.tick s.machine = ⟨m, .ok cycle, reported⟩)
    (hit : s.stopsAfter s.machine.registers cycle = true) :
    continueRun limit stopAfter resume (allowance + 1) steps events s =
      ⟨s.stepped stopAfter steps cycle m, .ok .breakpoint,
        events ++ reported ++ [.breakpointHit cycle.registers.pc]⟩ := by
  rw [continueRun_of_go goes passes, stepInstruction_of_ok ticked]
  have hit_still : (s.stepped stopAfter steps cycle m).stopsAfter s.machine.registers cycle =
      true := (stopsAfter_stepped s _ _).trans hit
  exact if_pos hit_still

theorem continueRun_of_cycle (goes : s.pauses limit steps = false)
    (passes : s.stopsHere resume steps = false)
    (ticked : Machine.tick s.machine = ⟨m, .ok cycle, reported⟩)
    (misses : s.stopsAfter s.machine.registers cycle = false) :
    continueRun limit stopAfter resume (allowance + 1) steps events s =
      continueRun limit stopAfter resume allowance (steps + 1) (events ++ reported)
        (s.stepped stopAfter steps cycle m) := by
  rw [continueRun_of_go goes passes, stepInstruction_of_ok ticked]
  have misses_still : (s.stepped stopAfter steps cycle m).stopsAfter s.machine.registers cycle =
      false := (stopsAfter_stepped s _ _).trans misses
  exact if_neg (Bool.eq_false_iff.mp misses_still)

/-- **Every round of a run** goes one of the five ways. -/
theorem round_cases (limit : Option Int) (stopAfter : Option Nat) (resume : Option Int)
    (allowance steps : Nat) (events : List Event) (s : Session) :
    (s.pauses limit steps = true ∧
      continueRun limit stopAfter resume (allowance + 1) steps events s =
        ⟨s, .ok .paused, events⟩) ∨
    (s.pauses limit steps = false ∧ s.stopsHere resume steps = true ∧
      continueRun limit stopAfter resume (allowance + 1) steps events s =
        ⟨{ s with resumeAt := some s.machine.registers.pc }, .ok .breakpoint,
          events ++ [.breakpointHit s.machine.registers.pc]⟩) ∨
    (s.pauses limit steps = false ∧ s.stopsHere resume steps = false ∧
      ∃ m fault reported, Machine.tick s.machine = ⟨m, .error fault, reported⟩ ∧
        continueRun limit stopAfter resume (allowance + 1) steps events s =
          ⟨{ s with machine := m }, .error fault, events ++ reported⟩) ∨
    (s.pauses limit steps = false ∧ s.stopsHere resume steps = false ∧
      ∃ m cycle reported, Machine.tick s.machine = ⟨m, .ok cycle, reported⟩ ∧
        s.stopsAfter s.machine.registers cycle = true ∧
        continueRun limit stopAfter resume (allowance + 1) steps events s =
          ⟨s.stepped stopAfter steps cycle m, .ok .breakpoint,
            events ++ reported ++ [.breakpointHit cycle.registers.pc]⟩) ∨
    (s.pauses limit steps = false ∧ s.stopsHere resume steps = false ∧
      ∃ m cycle reported, Machine.tick s.machine = ⟨m, .ok cycle, reported⟩ ∧
        s.stopsAfter s.machine.registers cycle = false ∧
        continueRun limit stopAfter resume (allowance + 1) steps events s =
          continueRun limit stopAfter resume allowance (steps + 1) (events ++ reported)
            (s.stepped stopAfter steps cycle m)) := by
  cases paused : s.pauses limit steps with
  | true => exact .inl ⟨rfl, continueRun_of_pause paused⟩
  | false =>
      refine .inr ?_
      cases stopped : s.stopsHere resume steps with
      | true => exact .inl ⟨rfl, rfl, continueRun_of_stop paused stopped⟩
      | false =>
          refine .inr ?_
          rcases ticked : Machine.tick s.machine with ⟨m, result, reported⟩
          cases result with
          | error fault =>
              exact .inl ⟨rfl, rfl, m, fault, reported, rfl,
                continueRun_of_fault paused stopped ticked⟩
          | ok cycle =>
              refine .inr ?_
              cases hit : s.stopsAfter s.machine.registers cycle with
              | true =>
                  exact .inl ⟨rfl, rfl, m, cycle, reported, rfl, hit,
                    continueRun_of_hit paused stopped ticked hit⟩
              | false =>
                  exact .inr ⟨rfl, rfl, m, cycle, reported, rfl, hit,
                    continueRun_of_cycle paused stopped ticked hit⟩

/-! ## What a run leaves alone -/

theorem breakpoints_continueRun (bound : Option Int) (stopAfter : Option Nat)
    (resume : Option Int) (allowance steps : Nat) (events : List Event) (s : Session) :
    (continueRun bound stopAfter resume allowance steps events s).state.breakpoints =
      s.breakpoints := by
  induction allowance generalizing steps events s with
  | zero => rfl
  | succ allowance ih =>
      rcases round_cases bound stopAfter resume allowance steps events s with
        ⟨_, ran⟩ | ⟨_, _, ran⟩ | ⟨_, _, m, fault, reported, _, ran⟩ |
        ⟨_, _, m, cycle, reported, _, _, ran⟩ | ⟨_, _, m, cycle, reported, _, _, ran⟩
      · rw [ran]
      · rw [ran]
      · rw [ran]
      · rw [ran, breakpoints_stepped]
      · rw [ran, ih, breakpoints_stepped]

/-- Only a run that ends at a breakpoint remembers an address. -/
theorem result_of_resumeAt {q : Int} (forgotten : s.resumeAt = none)
    (remembered : (continueRun limit stopAfter resume allowance steps events s).state.resumeAt =
      some q) :
    (continueRun limit stopAfter resume allowance steps events s).result = .ok .breakpoint := by
  have nothing {t : Session} (same : t.resumeAt = s.resumeAt) : t.resumeAt ≠ some q := by
    rw [same, forgotten]
    exact nofun
  induction allowance generalizing steps events s with
  | zero => exact (nothing rfl remembered).elim
  | succ allowance ih =>
      rcases round_cases limit stopAfter resume allowance steps events s with
        ⟨_, ran⟩ | ⟨_, _, ran⟩ | ⟨_, _, m, fault, reported, _, ran⟩ |
        ⟨_, _, m, cycle, reported, _, _, ran⟩ | ⟨_, _, m, cycle, reported, _, _, ran⟩
      · rw [ran] at remembered
        exact (nothing rfl remembered).elim
      · rw [ran]
      · rw [ran] at remembered
        exact (nothing rfl remembered).elim
      · rw [ran]
      · rw [ran] at remembered ⊢
        have forgotten_later : (s.stepped stopAfter steps cycle m).resumeAt = none := by
          rw [resumeAt_stepped, forgotten]
        exact ih forgotten_later remembered fun same => nothing (same.trans (resumeAt_stepped s))

/-! ## A small session -/

/-- A session with a machine that jumps on the spot, and a breakpoint there. -/
def onTheSpot : Session :=
  addBreakpoint (.atAddress 0) (ofMachine (Machine.ofWord 0x10 0x00 .everyCycle) none)

end Chip8.Session
