import Chip8.Debugger.Breakpoint
import Chip8.Machine.Operation

/-!
# Debugging sessions

A session runs a machine tick by tick and stops it at breakpoints.  It keeps the records
of the latest cycles.

A run that was stopped by a breakpoint on the program counter remembers the address; the
next run passes it once, so that it does not stop again at the same place.  A run ends at
a breakpoint, at its limit of steps, when it is told to stop, or with a fault, which is
handed on.  As a run without a limit may go on for ever, running takes an allowance of
steps and says when it was used up.
-/

namespace Chip8

set_option autoImplicit false

/-- A machine under observation. -/
structure Session where
  machine : Machine
  breakpoints : List Breakpoint
  /-- Whether a run is in progress. -/
  running : Bool
  /-- The record of the last cycle of the session. -/
  last : Option (Snapshot Registers)
  /-- The records of the latest cycles, the oldest first. -/
  history : Array (Snapshot Registers)
  /-- How many records are kept; without a limit, all. -/
  historyLimit : Option Nat
  /-- Where the last run stopped, if it was at a breakpoint on the program counter. -/
  resumeAt : Option Int

/-- How a run ended. -/
inductive RunEnd where
  /-- At a breakpoint. -/
  | breakpoint
  /-- At its limit, or because it was told to stop. -/
  | paused
  /-- Not yet: the allowance was used up. -/
  | unfinished
  deriving DecidableEq, Repr

namespace Session

/-- The number of records that a session keeps if it is not told another. -/
def defaultHistoryLimit : Nat := 1024

/-- A new session. -/
def ofMachine (machine : Machine) (historyLimit : Option Nat) : Session :=
  ⟨machine, [], false, none, #[], historyLimit, none⟩

/-- A new session with a limit that was asked for. -/
def create (machine : Machine) (historyLimit : Option Int) : Except Fault Session :=
  match historyLimit with
  | none => .ok (ofMachine machine none)
  | some n =>
    if n < 0 then .error .historyLimitNegative else .ok (ofMachine machine (some n.toNat))

/-! ## Breakpoints -/

/-- Adds a breakpoint, unless there is an equal one. -/
def addBreakpoint (b : Breakpoint) (s : Session) : Session :=
  if b ∈ s.breakpoints then s else { s with breakpoints := s.breakpoints ++ [b] }

/-- Puts another breakpoint in the place of one, if that is there. -/
def updateBreakpoint (old new : Breakpoint) (s : Session) : Session :=
  { s with breakpoints := s.breakpoints.replace old new }

/-- Removes a breakpoint, if it is there. -/
def removeBreakpoint (b : Breakpoint) (s : Session) : Session :=
  { s with breakpoints := s.breakpoints.erase b }

/-- Whether some breakpoint stops a run before the instruction at an address. -/
def stopsBefore (s : Session) (pc : Int) : Bool := s.breakpoints.any (·.stopsBefore pc)

/-- Whether some breakpoint stops a run after a cycle. -/
def stopsAfter (s : Session) (before : Registers) (cycle : Snapshot Registers) : Bool :=
  s.breakpoints.any (·.stopsAfter before cycle)

/-! ## Running -/

/-- The last records of a list, as many as the limit allows. -/
def trimHistory (limit : Option Nat) (history : Array (Snapshot Registers)) :
    Array (Snapshot Registers) :=
  match limit with
  | none => history
  | some n => if n < history.size then history.extract (history.size - n) history.size else history

/-- Keeps the record of a cycle. -/
def keep (cycle : Snapshot Registers) (s : Session) : Session :=
  { s with
    last := some cycle
    history := trimHistory s.historyLimit (s.history.push cycle) }

/-- An action on the machine. -/
def onMachine {α : Type} (action : Action Machine α) : Action Session α :=
  Action.within Session.machine (fun machine s => { s with machine := machine }) action

/-- One tick of the machine, which is kept in the history. -/
def stepInstruction : Action Session (Snapshot Registers) := do
  let cycle ← onMachine Machine.tick
  Action.update (keep cycle)
  pure cycle

/-- Tells a run to stop. -/
def stop (s : Session) : Session := { s with running := false }

/-- Continues a run that has made a number of steps and reported some events.  `resume`
is the address that the run passes at its first step, and `stopAfter` the number of the
step during which it is told to stop. -/
def continueRun (limit : Option Int) (stopAfter : Option Nat) (resume : Option Int) :
    Nat → Nat → List Event → Session → Outcome Session RunEnd
  | 0, _, events, s => ⟨s, .ok .unfinished, events⟩
  | allowance + 1, steps, events, s =>
    let pc := s.machine.registers.pc
    if !s.running || limit.any (fun (n : Int) => n ≤ steps) then ⟨s, .ok .paused, events⟩
    else if !(steps == 0 && resume == some pc) && s.stopsBefore pc then
      ⟨{ s with resumeAt := some pc }, .ok .breakpoint, events ++ [.breakpointHit pc]⟩
    else
      let before := s.machine.registers
      match stepInstruction s with
      | ⟨s, .error fault, reported⟩ => ⟨s, .error fault, events ++ reported⟩
      | ⟨s, .ok cycle, reported⟩ =>
        let s := if stopAfter = some (steps + 1) then s.stop else s
        if s.stopsAfter before cycle then
          ⟨s, .ok .breakpoint, events ++ reported ++ [.breakpointHit cycle.registers.pc]⟩
        else continueRun limit stopAfter resume allowance (steps + 1) (events ++ reported) s

/-- Runs the machine until a breakpoint, for at most `limit` steps, with an allowance of
steps in any case.  If `stopAfter` is given, the run is told to stop right after the step
of that number. -/
def run (allowance : Nat) (limit : Option Int) (stopAfter : Option Nat) :
    Action Session RunEnd := fun s =>
  let o := continueRun limit stopAfter s.resumeAt allowance 0 []
    { s with running := true, resumeAt := none }
  ⟨o.state.stop, o.result, o.events⟩

end Session

end Chip8
