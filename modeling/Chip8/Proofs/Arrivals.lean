import Chip8.Proofs.DebugLoop

/-!
# Breakpoints on the program counter, arrival by arrival

The machine arrives at an address when it is reset or executes an instruction that leads there.
A breakpoint on the program counter should be reported once for each arrival: no run executes the
instruction before it was reported, and no two runs report the same arrival (`ReportedOnce`).

A session remembers no arrivals.  It remembers where the last run stopped for the program
counter, and the next run passes that address once, whatever happened in between.  So the rule
holds exactly in the histories in which every run finds the two in agreement (`Orderly`): where
a run begins, the arrival was reported before if and only if the last run ended with that report
(`reported_once_iff_orderly`).  A single step or a reset after a report can lead to a new arrival
that is passed without a report, and a run of no steps loses the pass, so that the same arrival
is reported again.
-/

namespace Chip8

set_option autoImplicit false

/-! ## Histories -/

/-- What can be observed of a session.  `looks` says that a run makes its first round, and
`fetches` that there is an instruction where it begins. -/
inductive Moment where
  | runBegins (pc : Int) (looks fetches : Bool)
  | reports (pc : Int)
  | executes (pc : Int) (inRun : Bool)
  | arrives (pc : Int)
  deriving DecidableEq, Repr

/-! Histories have the latest moment first. -/

/-- The present arrival was reported at an address. -/
def Reported (p : Int) : List Moment → Prop
  | [] => False
  | .arrives _ :: _ => False
  | .reports q :: past => q = p ∨ Reported p past
  | .runBegins .. :: past | .executes .. :: past => Reported p past

/-- The last run ended with a report of an address. -/
def EndedAt (p : Int) : List Moment → Prop
  | [] => False
  | .runBegins .. :: _ => False
  | .reports q :: _ => q = p
  | .executes .. :: past | .arrives _ :: past => EndedAt p past

/-- **The rule.**  A run executes the instruction at an address only after the arrival there was
reported, and reports it only if it was not reported before. -/
def ReportedOnce (p : Int) : List Moment → Prop
  | [] => True
  | .executes q true :: past => (q = p → Reported p past) ∧ ReportedOnce p past
  | .reports q :: past => (q = p → ¬ Reported p past) ∧ ReportedOnce p past
  | .executes _ false :: past | .runBegins .. :: past | .arrives _ :: past => ReportedOnce p past

/-- A run that begins at `q` finds matters in order: if it looks at the breakpoint, the arrival
was reported if and only if the last run ended with the report.  Where there is no instruction,
it does no harm that an arrival was not reported. -/
def BeginsInOrder (p q : Int) (looks fetches : Bool) (past : List Moment) : Prop :=
  q = p → looks = true →
    (Reported p past → EndedAt p past) ∧ (fetches = true → EndedAt p past → Reported p past)

/-- Every run of a history finds matters in order. -/
def Orderly (p : Int) : List Moment → Prop
  | [] => True
  | .runBegins q looks fetches :: past => BeginsInOrder p q looks fetches past ∧ Orderly p past
  | .reports _ :: past | .executes .. :: past | .arrives _ :: past => Orderly p past

instance decidableReported (p : Int) : (past : List Moment) → Decidable (Reported p past)
  | [] => isFalse id
  | .arrives _ :: _ => isFalse id
  | .reports q :: past =>
    have := decidableReported p past
    inferInstanceAs (Decidable (q = p ∨ Reported p past))
  | .runBegins .. :: past => decidableReported p past
  | .executes .. :: past => decidableReported p past

instance decidableEndedAt (p : Int) : (past : List Moment) → Decidable (EndedAt p past)
  | [] => isFalse id
  | .runBegins .. :: _ => isFalse id
  | .reports q :: _ => inferInstanceAs (Decidable (q = p))
  | .executes .. :: past => decidableEndedAt p past
  | .arrives _ :: past => decidableEndedAt p past

instance decidableReportedOnce (p : Int) : (past : List Moment) → Decidable (ReportedOnce p past)
  | [] => isTrue trivial
  | .executes q true :: past =>
    have := decidableReportedOnce p past
    inferInstanceAs (Decidable ((q = p → Reported p past) ∧ ReportedOnce p past))
  | .reports q :: past =>
    have := decidableReportedOnce p past
    inferInstanceAs (Decidable ((q = p → ¬ Reported p past) ∧ ReportedOnce p past))
  | .executes _ false :: past => decidableReportedOnce p past
  | .runBegins .. :: past => decidableReportedOnce p past
  | .arrives _ :: past => decidableReportedOnce p past

instance decidableOrderly (p : Int) : (past : List Moment) → Decidable (Orderly p past)
  | [] => isTrue trivial
  | .runBegins q looks fetches :: past =>
    have := decidableOrderly p past
    inferInstanceAs (Decidable ((q = p → looks = true →
      (Reported p past → EndedAt p past) ∧ (fetches = true → EndedAt p past → Reported p past)) ∧
        Orderly p past))
  | .reports _ :: past => decidableOrderly p past
  | .executes .. :: past => decidableOrderly p past
  | .arrives _ :: past => decidableOrderly p past

/-- The address of the present arrival. -/
def lastArrival : List Moment → Option Int
  | [] => none
  | .arrives pc :: _ => some pc
  | .runBegins .. :: past | .reports _ :: past | .executes .. :: past => lastArrival past

/-- The history after the machine went from one state to another: it executed an instruction, and
arrived at the next, unless there was no instruction. -/
def moved (inRun : Bool) (before after : Machine) (past : List Moment) : List Moment :=
  if before.Inside then
    .arrives after.registers.pc :: .executes before.registers.pc inRun :: past
  else past

namespace Session

/-- The moments of a run, put before those of the past. -/
def watch (limit resume : Option Int) : Nat → Nat → Session → List Moment → List Moment
  | 0, _, _, past => past
  | allowance + 1, steps, s, past =>
    if s.pauses limit steps then past
    else if s.stopsHere resume steps then .reports s.machine.registers.pc :: past
    else
      match Machine.tick s.machine with
      | ⟨m, .error _, _⟩ => moved true s.machine m past
      | ⟨m, .ok cycle, _⟩ =>
        if s.stopsAfter s.machine.registers cycle then moved true s.machine m past
        else
          watch limit resume allowance (steps + 1) (s.stepped none steps cycle m)
            (moved true s.machine m past)

variable {s : Session} {m : Machine} {cycle : Snapshot Registers} {fault : Fault}
  {reported : List Event} {limit resume : Option Int} {allowance steps : Nat}
  {past : List Moment}

theorem watch_of_pause (paused : s.pauses limit steps = true) :
    watch limit resume (allowance + 1) steps s past = past :=
  if_pos paused

theorem watch_of_stop (goes : s.pauses limit steps = false)
    (stopped : s.stopsHere resume steps = true) :
    watch limit resume (allowance + 1) steps s past =
      .reports s.machine.registers.pc :: past :=
  (if_neg (Bool.eq_false_iff.mp goes)).trans (if_pos stopped)

theorem watch_of_fault (goes : s.pauses limit steps = false)
    (passes : s.stopsHere resume steps = false)
    (failed : Machine.tick s.machine = ⟨m, .error fault, reported⟩) :
    watch limit resume (allowance + 1) steps s past = moved true s.machine m past := by
  rw [watch, if_neg (Bool.eq_false_iff.mp goes), if_neg (Bool.eq_false_iff.mp passes), failed]

theorem watch_of_hit (goes : s.pauses limit steps = false)
    (passes : s.stopsHere resume steps = false)
    (ticked : Machine.tick s.machine = ⟨m, .ok cycle, reported⟩)
    (hit : s.stopsAfter s.machine.registers cycle = true) :
    watch limit resume (allowance + 1) steps s past = moved true s.machine m past := by
  rw [watch, if_neg (Bool.eq_false_iff.mp goes), if_neg (Bool.eq_false_iff.mp passes), ticked]
  exact if_pos hit

theorem watch_of_cycle (goes : s.pauses limit steps = false)
    (passes : s.stopsHere resume steps = false)
    (ticked : Machine.tick s.machine = ⟨m, .ok cycle, reported⟩)
    (misses : s.stopsAfter s.machine.registers cycle = false) :
    watch limit resume (allowance + 1) steps s past =
      watch limit resume allowance (steps + 1) (s.stepped none steps cycle m)
        (moved true s.machine m past) := by
  rw [watch, if_neg (Bool.eq_false_iff.mp goes), if_neg (Bool.eq_false_iff.mp passes), ticked]
  exact if_neg (Bool.eq_false_iff.mp misses)

end Session

/-! ## Moves in a history -/

section Moved

variable {p q : Int} {inRun : Bool} {before after : Machine} {past : List Moment}

theorem lastArrival_moved (arrival : lastArrival past = some before.registers.pc)
    (ticked : (Machine.tick before).state = after) :
    lastArrival (moved inRun before after past) = some after.registers.pc := by
  unfold moved
  split
  case isTrue => rfl
  case isFalse outside =>
      have left : Machine.tick before = _ := Machine.tick_of_error (Machine.step_of_outside outside)
      rw [arrival, ← ticked, left]
      rfl

theorem endedAt_moved : EndedAt q (moved inRun before after past) ↔ EndedAt q past := by
  unfold moved
  split <;> rfl

theorem orderly_moved : Orderly p (moved inRun before after past) ↔ Orderly p past := by
  unfold moved
  split <;> rfl

theorem reportedOnce_moved_false :
    ReportedOnce p (moved false before after past) ↔ ReportedOnce p past := by
  unfold moved
  split <;> rfl

theorem reportedOnce_moved :
    ReportedOnce p (moved true before after past) ↔
      (before.Inside → before.registers.pc = p → Reported p past) ∧ ReportedOnce p past := by
  unfold moved
  split
  case isTrue inside => simp only [ReportedOnce, inside, true_implies]
  case isFalse outside => simp only [outside, false_implies, true_and]

theorem not_reported_moved (inside : before.Inside) :
    ¬ Reported p (moved inRun before after past) := by
  rw [moved, if_pos inside]
  exact id

/-- A tick that succeeds had an instruction to execute. -/
theorem inside_of_tick {cycle : Snapshot Registers} {reported : List Event}
    (ticked : Machine.tick before = ⟨after, .ok cycle, reported⟩) : before.Inside := by
  by_cases inside : before.Inside
  · exact inside
  · rw [Machine.tick_of_error (Machine.step_of_outside inside)] at ticked
    cases ticked

end Moved

namespace Session

variable {p : Int} {s : Session} {limit resume : Option Int} {allowance steps : Nat}
  {past : List Moment}

/-! ## What a run adds to the history -/

theorem orderly_watch : Orderly p (watch limit resume allowance steps s past) ↔ Orderly p past := by
  induction allowance generalizing steps s past with
  | zero => rfl
  | succ allowance ih =>
      rcases round_cases limit none resume allowance steps [] s with
        ⟨paused, _⟩ | ⟨goes, stopped, _⟩ | ⟨goes, passes, m, fault, reported, failed, _⟩ |
        ⟨goes, passes, m, cycle, reported, ticked, hit, _⟩ |
        ⟨goes, passes, m, cycle, reported, ticked, misses, _⟩
      · rw [watch_of_pause paused]
      · rw [watch_of_stop goes stopped]
        rfl
      · rw [watch_of_fault goes passes failed, orderly_moved]
      · rw [watch_of_hit goes passes ticked hit, orderly_moved]
      · rw [watch_of_cycle goes passes ticked misses, ih, orderly_moved]

/-- At its first step a run stops at a breakpoint unless it resumes there. -/
theorem stopsHere_first (waits : s.stopsBefore s.machine.registers.pc = true) :
    s.stopsHere resume 0 = false ↔ resume = some s.machine.registers.pc := by
  rw [stopsHere, waits, Bool.and_true, Bool.not_eq_false', beq_self_eq_true, Bool.true_and,
    beq_iff_eq]

/-- A run that does not stop at its program counter after its first step has no breakpoint
there. -/
theorem counter_ne_of_passes (waits : s.stopsBefore p = true)
    (passes : s.stopsHere resume (steps + 1) = false) : s.machine.registers.pc ≠ p := by
  rintro rfl
  rw [stopsHere, waits] at passes
  cases passes

/-- After its first step a run keeps the rule. -/
theorem reportedOnce_watch_later (waits : s.stopsBefore p = true) (fresh : ¬ Reported p past) :
    ReportedOnce p (watch limit resume allowance (steps + 1) s past) ↔ ReportedOnce p past := by
  induction allowance generalizing steps s past with
  | zero => rfl
  | succ allowance ih =>
      have elsewhere (passes : s.stopsHere resume (steps + 1) = false) (after : Machine) :
          ReportedOnce p (moved true s.machine after past) ↔ ReportedOnce p past := by
        rw [reportedOnce_moved]
        exact and_iff_right fun _ here => (counter_ne_of_passes waits passes here).elim
      rcases round_cases limit none resume allowance (steps + 1) [] s with
        ⟨paused, _⟩ | ⟨goes, stopped, _⟩ | ⟨goes, passes, m, fault, reported, failed, _⟩ |
        ⟨goes, passes, m, cycle, reported, ticked, hit, _⟩ |
        ⟨goes, passes, m, cycle, reported, ticked, misses, _⟩
      · rw [watch_of_pause paused]
      · rw [watch_of_stop goes stopped, ReportedOnce]
        exact and_iff_right fun _ => fresh
      · rw [watch_of_fault goes passes failed, elsewhere passes]
      · rw [watch_of_hit goes passes ticked hit, elsewhere passes]
      · have waits_later : (s.stepped none (steps + 1) cycle m).stopsBefore p = true := waits
        rw [watch_of_cycle goes passes ticked misses,
          ih waits_later (not_reported_moved (inside_of_tick ticked)), elsewhere passes]

/-- The first round of a run that does not stop at once. -/
theorem reportedOnce_watch_first (waits : s.stopsBefore p = true)
    (goes : s.pauses limit 0 = false) (passes : s.stopsHere resume 0 = false) :
    ReportedOnce p (watch limit resume (allowance + 1) 0 s past) ↔
      (s.machine.Inside → s.machine.registers.pc = p → Reported p past) ∧
        ReportedOnce p past := by
  rcases ticked : Machine.tick s.machine with ⟨m, result, reported⟩
  cases result with
  | error fault => rw [watch_of_fault goes passes ticked, reportedOnce_moved]
  | ok cycle =>
      cases hit : s.stopsAfter s.machine.registers cycle with
      | true => rw [watch_of_hit goes passes ticked hit, reportedOnce_moved]
      | false =>
          have waits_later : (s.stepped none 0 cycle m).stopsBefore p = true := waits
          rw [watch_of_cycle goes passes ticked hit,
            reportedOnce_watch_later waits_later (not_reported_moved (inside_of_tick ticked)),
            reportedOnce_moved]

/-! ## Watched sessions -/

end Session

/-- What a host does with a session: it lets it run, for at most `limit` steps and with an
allowance in any case, makes a single step, or resets the machine. -/
inductive DebugCommand where
  | run (allowance : Nat) (limit : Option Int)
  | stepInstruction
  | reset

/-- A session with its history. -/
structure Watched where
  session : Session
  past : List Moment

namespace Watched

/-- A session whose machine has just been built. -/
def start (s : Session) : Watched := ⟨s, [.arrives s.machine.registers.pc]⟩

/-- Whether a run makes its first round. -/
def looks (allowance : Nat) (limit : Option Int) : Bool :=
  allowance != 0 && !limit.any fun (n : Int) => n ≤ 0

/-- The moment when a run begins. -/
def beginning (allowance : Nat) (limit : Option Int) (m : Machine) : Moment :=
  .runBegins m.registers.pc (looks allowance limit) (decide m.Inside)

/-- A watched session after a command, also after one that fails. -/
def perform (w : Watched) : DebugCommand → Watched
  | .run allowance limit =>
    { session := (Session.run allowance limit none w.session).state
      past := Session.watch limit w.session.resumeAt allowance 0 w.session.begun
        (beginning allowance limit w.session.machine :: w.past) }
  | .stepInstruction =>
    let after := (Session.stepInstruction w.session).state
    ⟨after, moved false w.session.machine after.machine w.past⟩
  | .reset =>
    let after := (Session.onMachine Machine.reset w.session).state
    ⟨after, .arrives after.machine.registers.pc :: w.past⟩

/-- A watched session after commands. -/
def after (w : Watched) (commands : List DebugCommand) : Watched := commands.foldl perform w

/-- The history is that of the session: the last arrival is at its program counter, and it
remembers where the last run ended with a report. -/
structure Faithful (w : Watched) : Prop where
  arrival : lastArrival w.past = some w.session.machine.registers.pc
  pass : ∀ q, w.session.resumeAt = some q ↔ EndedAt q w.past

variable {w : Watched} {p : Int}

theorem faithful_of_not_ended {s : Session} {past : List Moment}
    (arrival : lastArrival past = some s.machine.registers.pc) (forgotten : s.resumeAt = none)
    (not_ended : ∀ q, ¬ EndedAt q past) : Faithful ⟨s, past⟩ :=
  ⟨arrival, fun q => by rw [forgotten]; exact iff_of_false nofun (not_ended q)⟩

/-- A run keeps the history that of the session. -/
theorem faithful_watch (limit resume : Option Int) (allowance steps : Nat) (events : List Event)
    {s : Session} {past : List Moment}
    (arrival : lastArrival past = some s.machine.registers.pc) (forgotten : s.resumeAt = none)
    (not_ended : ∀ q, ¬ EndedAt q past) :
    Faithful ⟨(Session.continueRun limit none resume allowance steps events s).state,
      Session.watch limit resume allowance steps s past⟩ := by
  induction allowance generalizing steps events s past with
  | zero => exact faithful_of_not_ended arrival forgotten not_ended
  | succ allowance ih =>
      have still (after : Machine) (q : Int) :
          ¬ EndedAt q (moved true s.machine after past) := by
        rw [endedAt_moved]
        exact not_ended q
      rcases Session.round_cases limit none resume allowance steps events s with
        ⟨paused, ran⟩ | ⟨goes, stopped, ran⟩ | ⟨goes, passes, m, fault, reported, failed, ran⟩ |
        ⟨goes, passes, m, cycle, reported, ticked, hit, ran⟩ |
        ⟨goes, passes, m, cycle, reported, ticked, misses, ran⟩
      · rw [ran, Session.watch_of_pause paused]
        exact faithful_of_not_ended arrival forgotten not_ended
      · rw [ran, Session.watch_of_stop goes stopped]
        exact ⟨arrival, fun q => Option.some_inj⟩
      · rw [ran, Session.watch_of_fault goes passes failed]
        exact faithful_of_not_ended (lastArrival_moved arrival (by rw [failed])) forgotten (still m)
      · rw [ran, Session.watch_of_hit goes passes ticked hit]
        exact faithful_of_not_ended (lastArrival_moved arrival (by rw [ticked])) forgotten (still m)
      · rw [ran, Session.watch_of_cycle goes passes ticked misses]
        exact ih _ _ (lastArrival_moved arrival (by rw [ticked])) forgotten (still m)

theorem faithful_start {s : Session} (new : s.resumeAt = none) : (start s).Faithful :=
  faithful_of_not_ended rfl new fun _ => id

/-- **Every command keeps the history that of the session.** -/
theorem Faithful.perform (faithful : w.Faithful) (command : DebugCommand) :
    (w.perform command).Faithful := by
  cases command with
  | run allowance limit =>
      have watched : Faithful ⟨_, (w.perform (.run allowance limit)).past⟩ :=
        faithful_watch limit w.session.resumeAt allowance 0 [] (s := w.session.begun)
          faithful.arrival rfl fun _ => id
      exact ⟨watched.arrival, watched.pass⟩
  | stepInstruction =>
      obtain ⟨machine, _, resumeAt⟩ := Session.state_stepInstruction w.session
      refine ⟨lastArrival_moved faithful.arrival machine.symm, fun q => ?_⟩
      rw [Watched.perform]
      dsimp only
      rw [resumeAt, endedAt_moved]
      exact faithful.pass q
  | reset => exact ⟨rfl, faithful.pass⟩

/-- A run whose history ends with a report has answered that it stopped at a breakpoint. -/
theorem Faithful.result_of_report (faithful : w.Faithful) {allowance : Nat} {limit : Option Int}
    {q : Int} (ended : EndedAt q (w.perform (.run allowance limit)).past) :
    (Session.run allowance limit none w.session).result = .ok .breakpoint :=
  Session.result_of_resumeAt rfl (((faithful.perform (.run allowance limit)).pass q).mpr ended)

theorem breakpoints_perform (w : Watched) (command : DebugCommand) :
    (w.perform command).session.breakpoints = w.session.breakpoints := by
  cases command with
  | run allowance limit => exact Session.breakpoints_continueRun _ _ _ _ _ _ _
  | stepInstruction => exact (Session.state_stepInstruction w.session).2.1
  | reset => rfl

/-! ## The rule and the order -/

/-- **A run keeps the rule if and only if it begins in order.** -/
theorem reportedOnce_run (faithful : w.Faithful) (waits : w.session.stopsBefore p = true)
    (allowance : Nat) (limit : Option Int) :
    ReportedOnce p (w.perform (.run allowance limit)).past ↔
      BeginsInOrder p w.session.machine.registers.pc (looks allowance limit)
        (decide w.session.machine.Inside) w.past ∧ ReportedOnce p w.past := by
  cases allowance with
  | zero => exact (and_iff_right fun _ looking => nomatch looking).symm
  | succ allowance =>
      have looking : looks (allowance + 1) limit = !w.session.begun.pauses limit 0 := rfl
      have resumes (waiting : w.session.stopsBefore w.session.machine.registers.pc = true) :
          w.session.begun.stopsHere w.session.resumeAt 0 = false ↔
            w.session.resumeAt = some w.session.machine.registers.pc :=
        Session.stopsHere_first (s := w.session.begun) waiting
      rw [looking, Watched.perform]
      dsimp only
      cases paused : w.session.begun.pauses limit 0 with
      | true =>
          rw [Session.watch_of_pause paused]
          exact (and_iff_right fun _ looking => nomatch looking).symm
      | false =>
          cases stopped : w.session.begun.stopsHere w.session.resumeAt 0 with
          | true =>
              rw [Session.watch_of_stop paused stopped]
              have not_ended (here : w.session.machine.registers.pc = p) : ¬ EndedAt p w.past := by
                subst here
                rw [← faithful.pass, ← resumes waits, stopped]
                exact nofun
              exact and_congr_left fun _ =>
                ⟨fun unreported here _ => ⟨fun known => (unreported here known).elim,
                    fun _ ended => (not_ended here ended).elim⟩,
                  fun found here known => not_ended here ((found here rfl).1 known)⟩
          | false =>
              have ended (here : w.session.machine.registers.pc = p) : EndedAt p w.past := by
                subst here
                rw [← faithful.pass, ← resumes waits, stopped]
              rw [Session.reportedOnce_watch_first (s := w.session.begun) waits paused stopped]
              exact and_congr_left fun _ =>
                ⟨fun known here _ => ⟨fun _ => ended here,
                    fun fetches _ => known (of_decide_eq_true fetches) here⟩,
                  fun found inside here =>
                    (found here rfl).2 (decide_eq_true inside) (ended here)⟩

/-- A command keeps the rule as far as it keeps the order. -/
theorem reportedOnce_perform (faithful : w.Faithful) (waits : w.session.stopsBefore p = true)
    (so_far : ReportedOnce p w.past ↔ Orderly p w.past) (command : DebugCommand) :
    ReportedOnce p (w.perform command).past ↔ Orderly p (w.perform command).past := by
  cases command with
  | run allowance limit =>
      have order : Orderly p (w.perform (.run allowance limit)).past ↔
          BeginsInOrder p w.session.machine.registers.pc (looks allowance limit)
            (decide w.session.machine.Inside) w.past ∧ Orderly p w.past :=
        Session.orderly_watch
      rw [reportedOnce_run faithful waits, order, so_far]
  | stepInstruction =>
      rw [Watched.perform]
      exact reportedOnce_moved_false.trans (so_far.trans orderly_moved.symm)
  | reset => exact so_far

/-- What holds of a watched session holds after every sequence of commands. -/
theorem reportedOnce_after (commands : List DebugCommand) (faithful : w.Faithful)
    (waits : w.session.stopsBefore p = true)
    (so_far : ReportedOnce p w.past ↔ Orderly p w.past) :
    (w.after commands).Faithful ∧
      (ReportedOnce p (w.after commands).past ↔ Orderly p (w.after commands).past) := by
  induction commands generalizing w with
  | nil => exact ⟨faithful, so_far⟩
  | cons command rest ih =>
      refine ih (faithful.perform command) ?_ (reportedOnce_perform faithful waits so_far command)
      rw [Session.stopsBefore, breakpoints_perform]
      exact waits

/-- **A breakpoint on the program counter is reported once for each arrival exactly in orderly
histories.**  For every new session that has an enabled breakpoint at an address, and every
sequence of runs, single steps and resets.  The history is that of the session, and a run that puts
a report at the end of it has answered that it stopped at a breakpoint. -/
theorem reported_once_iff_orderly {s : Session} {p : Int} (new : s.resumeAt = none)
    (waits : ∃ b ∈ s.breakpoints, b.enabled = true ∧ b.kind = .pcMatch ∧ b.value = some p)
    (commands : List DebugCommand) :
    ((start s).after commands).Faithful ∧
      (ReportedOnce p ((start s).after commands).past ↔
        Orderly p ((start s).after commands).past) ∧
      ∀ (allowance : Nat) (limit : Option Int) (q : Int),
        EndedAt q (((start s).after commands).perform (.run allowance limit)).past →
          (Session.run allowance limit none ((start s).after commands).session).result =
            .ok .breakpoint := by
  have stops : s.stopsBefore p = true := by
    obtain ⟨b, inside, enabled, kind, value⟩ := waits
    refine List.any_eq_true.mpr ⟨b, inside, ?_⟩
    rw [Breakpoint.stopsBefore, enabled, kind, value, Bool.true_and, beq_self_eq_true,
      beq_self_eq_true, Bool.and_self]
  obtain ⟨faithful, exactly⟩ := reportedOnce_after commands (faithful_start new) stops Iff.rfl
  exact ⟨faithful, exactly, fun _ _ _ => faithful.result_of_report⟩

/-- Runs one after another are orderly: each passes the report before it. -/
theorem onTheSpot_reported_once :
    ReportedOnce 0
      ((start Session.onTheSpot).after [.run 5 (some 5), .run 5 (some 5), .run 5 none]).past := by
  have waits : ∃ b ∈ Session.onTheSpot.breakpoints,
      b.enabled = true ∧ b.kind = .pcMatch ∧ b.value = some 0 :=
    ⟨.atAddress 0, .head _, rfl, rfl, rfl⟩
  exact (reported_once_iff_orderly rfl waits _).2.1.mpr (by decide)

/-- A single step after a report leads to an arrival that the next run passes unreported; and
after a run of no steps the same arrival is reported again. -/
theorem onTheSpot_not_reported_once :
    ¬ ReportedOnce 0
        ((start Session.onTheSpot).after
          [.run 5 (some 5), .stepInstruction, .run 1 (some 1)]).past ∧
      ¬ ReportedOnce 0
        ((start Session.onTheSpot).after
          [.run 5 (some 5), .run 5 (some 0), .run 1 (some 1)]).past := by
  constructor <;> decide

end Watched

end Chip8
