import Chip8.Proofs.DebugLoop

/-!
# A run is the free machine stopped at the first hit

Left alone, a machine makes one tick after another (`afterTicks`).  A run of a session makes the
same ticks.  It ends after the least number of them at which a stop condition holds: the limit is
reached, or a breakpoint waits for the program counter, or the last tick met a breakpoint on its
cycle (`FirstStop`).  The program counter is not looked at where the run before stopped for it,
unless the run has come back to it.

How the run ends when several conditions hold together is part of the specification (`Ends`):
a breakpoint on the cycle comes before the limit, and the limit comes before a breakpoint on
the program counter.
-/

namespace Chip8

set_option autoImplicit false

/-- The machine after a number of ticks, if all of them succeed. -/
def Machine.afterTicks (m : Machine) : Nat → Option Machine
  | 0 => some m
  | k + 1 =>
    match m.afterTicks k with
    | none => none
    | some before =>
      match (tick before).result with
      | .ok _ => some (tick before).state
      | .error _ => none

/-! ## When a breakpoint holds of a cycle -/

namespace Breakpoint

/-- What it means that a condition other than one on the program counter holds of a cycle, given
the registers before it. -/
inductive Holds (b : Breakpoint) (before : Registers) (cycle : Snapshot Registers) : Prop where
  | read {address word : Nat} : b.kind = .memoryRead → .read address word ∈ cycle.accesses →
      b.address = some (address : Int) → Holds b before cycle
  | write {address byte : Nat} : b.kind = .memoryWrite → .write address byte ∈ cycle.accesses →
      b.address = some (address : Int) → Holds b before cycle
  | value {name : String} : b.kind = .registerValue → b.register = some name → name ≠ "" →
      cycle.registers.named? name = b.value → Holds b before cycle
  | change {name : String} {now : Int} : b.kind = .registerChange → b.register = some name →
      name ≠ "" → cycle.registers.named? name = some now → before.named? name ≠ some now →
      Holds b before cycle

variable {b : Breakpoint} {before : Registers} {cycle : Snapshot Registers}

theorem watched?_eq_some_iff {name : String} :
    b.watched? = some name ↔ b.register = some name ∧ name ≠ "" := by
  rw [watched?, Option.filter_eq_some_iff, bne_iff_ne]

/-- What the test of a condition finds holds. -/
theorem holds_of_matchesCycle (found : b.matchesCycle before cycle = true) :
    b.Holds before cycle := by
  unfold matchesCycle at found
  split at found
  case h_1 => cases found
  case h_2 kind =>
      obtain ⟨access, inside, same⟩ := List.any_eq_true.mp found
      cases access with
      | read address word => exact .read kind inside (beq_iff_eq.mp same).symm
      | write address byte => cases same
  case h_3 kind =>
      obtain ⟨access, inside, same⟩ := List.any_eq_true.mp found
      cases access with
      | read address word => cases same
      | write address byte => exact .write kind inside (beq_iff_eq.mp same).symm
  case h_4 kind =>
      cases watched : b.watched? with
      | none =>
          rw [watched] at found
          cases found
      | some name =>
          rw [watched] at found
          obtain ⟨register, named⟩ := watched?_eq_some_iff.mp watched
          exact .value kind register named (beq_iff_eq.mp found)
  case h_5 kind =>
      cases watched : b.watched? with
      | none =>
          rw [watched] at found
          cases found
      | some name =>
          rw [watched] at found
          dsimp only at found
          obtain ⟨register, named⟩ := watched?_eq_some_iff.mp watched
          cases after : cycle.registers.named? name with
          | none =>
              rw [after] at found
              cases found
          | some now =>
              rw [after] at found
              exact .change kind register named after (bne_iff_ne.mp found)

/-- The test finds every condition that holds. -/
theorem matchesCycle_of_holds (holds : b.Holds before cycle) :
    b.matchesCycle before cycle = true := by
  cases holds with
  | read kind inside address =>
      simp only [matchesCycle, kind]
      exact List.any_eq_true.mpr ⟨_, inside, beq_iff_eq.mpr address.symm⟩
  | write kind inside address =>
      simp only [matchesCycle, kind]
      exact List.any_eq_true.mpr ⟨_, inside, beq_iff_eq.mpr address.symm⟩
  | value kind register named same =>
      simp only [matchesCycle, kind, watched?_eq_some_iff.mpr ⟨register, named⟩]
      exact beq_iff_eq.mpr same
  | change kind register named after changed =>
      simp only [matchesCycle, kind, watched?_eq_some_iff.mpr ⟨register, named⟩, after]
      exact bne_iff_ne.mpr changed

theorem matchesCycle_iff : b.matchesCycle before cycle = true ↔ b.Holds before cycle :=
  ⟨holds_of_matchesCycle, matchesCycle_of_holds⟩

/-- A condition on the program counter holds of no cycle. -/
theorem Holds.not_pcMatch (holds : b.Holds before cycle) : b.kind ≠ .pcMatch := by
  intro kind
  have found := matchesCycle_of_holds holds
  simp [matchesCycle, kind] at found

end Breakpoint

theorem Machine.afterTicks_succ {m before after : Machine} {k : Nat} {cycle : Snapshot Registers}
    {events : List Event} (reached : m.afterTicks k = some before)
    (ticked : tick before = ⟨after, .ok cycle, events⟩) :
    m.afterTicks (k + 1) = some after := by
  simp only [afterTicks, reached, ticked]

/-- A tick that fails is the last one. -/
theorem Machine.afterTicks_of_fault {m before : Machine} {k : Nat} {fault : Fault}
    (reached : m.afterTicks k = some before) (failed : (tick before).result = .error fault)
    {later : Nat} (after : k < later) : m.afterTicks later = none := by
  induction later with
  | zero => cases after
  | succ later ih =>
      rcases Nat.lt_succ_iff_lt_or_eq.mp after with before_last | rfl
      · simp only [afterTicks, ih before_last]
      · simp only [afterTicks, reached, failed]

namespace Session

open Machine (tick)

/-! ## Stop conditions -/

/-- After `k` ticks an enabled breakpoint waits for the program counter, and this is not where
the run before stopped for it. -/
def CounterHit (s : Session) (k : Nat) : Prop :=
  ∃ m, s.machine.afterTicks k = some m ∧
    (∃ b ∈ s.breakpoints, b.enabled = true ∧ b.kind = .pcMatch ∧ b.value = some m.registers.pc) ∧
    ¬ (k = 0 ∧ s.resumeAt = some m.registers.pc)

/-- The tick of number `k` meets an enabled breakpoint on its cycle. -/
def CycleHit (s : Session) (k : Nat) : Prop :=
  ∃ j before cycle, k = j + 1 ∧ s.machine.afterTicks j = some before ∧
    (tick before).result = .ok cycle ∧
    ∃ b ∈ s.breakpoints, b.enabled = true ∧ b.Holds before.registers cycle

/-- A run has a reason to end after `k` ticks. -/
def StopsAt (s : Session) (limit : Option Nat) (k : Nat) : Prop :=
  limit = some k ∨ s.CounterHit k ∨ s.CycleHit k

/-- The least number of ticks after which a run has a reason to end. -/
def FirstStop (s : Session) (limit : Option Nat) (k : Nat) : Prop :=
  s.StopsAt limit k ∧ ∀ j < k, ¬ s.StopsAt limit j

/-- How a run from the session `s` ends in the session `t`: at a breakpoint, at its limit, with
the fault of a tick, or not within its allowance. -/
inductive Ends (s : Session) (limit : Option Nat) (allowance : Nat) (t : Session) :
    Except Fault RunEnd → Prop where
  | hit (k : Nat) : s.FirstStop limit k → s.machine.afterTicks k = some t.machine →
      s.CycleHit k ∨ s.CounterHit k ∧ limit ≠ some k →
      (s.CycleHit k → t.resumeAt = none) →
      (¬ s.CycleHit k → t.resumeAt = some t.machine.registers.pc) →
      Ends s limit allowance t (.ok .breakpoint)
  | pause (k : Nat) : s.FirstStop limit k → s.machine.afterTicks k = some t.machine →
      limit = some k → ¬ s.CycleHit k → t.resumeAt = none →
      Ends s limit allowance t (.ok .paused)
  | fault (k : Nat) {before : Machine} {fault : Fault} : (∀ j ≤ k, ¬ s.StopsAt limit j) →
      s.machine.afterTicks k = some before → (tick before).result = .error fault →
      t.machine = (tick before).state → t.resumeAt = none →
      Ends s limit allowance t (.error fault)
  | unfinished : (∀ j < allowance, ¬ s.StopsAt limit j) → ¬ s.CycleHit allowance →
      s.machine.afterTicks allowance = some t.machine →
      Ends s limit allowance t (.ok .unfinished)

/-- Where all breakpoints are on the program counter, no cycle meets one. -/
theorem not_cycleHit_of_pcMatch {s : Session} (counters : ∀ b ∈ s.breakpoints, b.kind = .pcMatch)
    (k : Nat) : ¬ s.CycleHit k := by
  rintro ⟨_, _, _, _, _, _, b, inside, _, holds⟩
  exact holds.not_pcMatch (counters b inside)

/-! ## What a run knows on its way -/

/-- The session `t` has come `steps` ticks from the session `s` without a reason to end; the
last tick met no breakpoint either. -/
structure Underway (s : Session) (limit : Option Nat) (steps : Nat) (t : Session) : Prop where
  running : t.running = true
  breakpoints : t.breakpoints = s.breakpoints
  resumeAt : t.resumeAt = none
  machine : s.machine.afterTicks steps = some t.machine
  before : ∀ j < steps, ¬ s.StopsAt limit j
  cycle : ¬ s.CycleHit steps

variable {s t : Session} {limit : Option Nat} {steps : Nat}

/-- The limit of a run as the run takes it. -/
def limitOf (limit : Option Nat) : Option Int := limit.map fun n => (n : Int)

theorem Underway.pauses_iff (underway : Underway s limit steps t) :
    t.pauses (limitOf limit) steps = true ↔ limit = some steps := by
  rw [pauses, underway.running]
  cases limit with
  | none => simp [limitOf]
  | some n =>
      have reached : ¬ n < steps := fun earlier => underway.before n earlier (.inl rfl)
      have asked : (limitOf (some n)).any (fun (n : Int) => n ≤ steps) =
          decide ((n : Int) ≤ steps) := rfl
      rw [asked, Bool.not_true, Bool.false_or, decide_eq_true_eq, Option.some.injEq]
      omega

theorem Underway.stopsHere_iff (underway : Underway s limit steps t) :
    t.stopsHere s.resumeAt steps = true ↔ s.CounterHit steps := by
  have exempt : (steps == 0 && s.resumeAt == some t.machine.registers.pc) = true ↔
      steps = 0 ∧ s.resumeAt = some t.machine.registers.pc := by
    rw [Bool.and_eq_true, beq_iff_eq, beq_iff_eq]
  have waits : t.stopsBefore t.machine.registers.pc = true ↔
      ∃ b ∈ s.breakpoints, b.enabled = true ∧ b.kind = .pcMatch ∧
        b.value = some t.machine.registers.pc := by
    simp only [stopsBefore, underway.breakpoints, List.any_eq_true, Breakpoint.stopsBefore,
      Bool.and_eq_true, beq_iff_eq, and_assoc]
  rw [stopsHere, Bool.and_eq_true, Bool.not_eq_true', Bool.eq_false_iff, ne_eq, exempt, waits]
  constructor
  · rintro ⟨fresh, waiting⟩
    exact ⟨t.machine, underway.machine, waiting, fresh⟩
  · rintro ⟨m, reached, waiting, fresh⟩
    rw [underway.machine] at reached
    cases reached
    exact ⟨fresh, waiting⟩

theorem Underway.stopsAfter_iff (underway : Underway s limit steps t) {m : Machine}
    {cycle : Snapshot Registers} {reported : List Event}
    (ticked : tick t.machine = ⟨m, .ok cycle, reported⟩) :
    t.stopsAfter t.machine.registers cycle = true ↔ s.CycleHit (steps + 1) := by
  have met : t.stopsAfter t.machine.registers cycle = true ↔
      ∃ b ∈ s.breakpoints, b.enabled = true ∧ b.Holds t.machine.registers cycle := by
    simp only [stopsAfter, underway.breakpoints, List.any_eq_true, Breakpoint.stopsAfter,
      Bool.and_eq_true, Breakpoint.matchesCycle_iff]
  rw [met]
  constructor
  · intro hit
    exact ⟨steps, t.machine, cycle, rfl, underway.machine, by rw [ticked], hit⟩
  · rintro ⟨j, before, record, number, reached, succeeded, hit⟩
    cases number
    rw [underway.machine] at reached
    cases reached
    rw [ticked] at succeeded
    cases succeeded
    exact hit

/-- If a round makes a tick, there was no reason to end before it. -/
theorem Underway.no_reason (underway : Underway s limit steps t)
    (goes : t.pauses (limitOf limit) steps = false)
    (passes : t.stopsHere s.resumeAt steps = false) : ∀ j ≤ steps, ¬ s.StopsAt limit j := by
  intro j within
  rcases Nat.lt_or_eq_of_le within with earlier | rfl
  · exact underway.before j earlier
  · rintro (reached | hit | hit)
    · exact Bool.eq_false_iff.mp goes (underway.pauses_iff.mpr reached)
    · exact Bool.eq_false_iff.mp passes (underway.stopsHere_iff.mpr hit)
    · exact underway.cycle hit

theorem Underway.next (underway : Underway s limit steps t) {m : Machine}
    {cycle : Snapshot Registers} {reported : List Event}
    (goes : t.pauses (limitOf limit) steps = false)
    (passes : t.stopsHere s.resumeAt steps = false)
    (ticked : tick t.machine = ⟨m, .ok cycle, reported⟩)
    (misses : t.stopsAfter t.machine.registers cycle = false) :
    Underway s limit (steps + 1) (t.stepped none steps cycle m) where
  running := underway.running
  breakpoints := underway.breakpoints
  resumeAt := underway.resumeAt
  machine := Machine.afterTicks_succ underway.machine ticked
  before := fun j earlier => underway.no_reason goes passes j (Nat.le_of_lt_succ earlier)
  cycle := fun hit => Bool.eq_false_iff.mp misses ((underway.stopsAfter_iff ticked).mpr hit)

/-! ## The run -/

/-- **A run that is under way ends as it should.** -/
theorem Underway.ends (allowance : Nat) (underway : Underway s limit steps t)
    (events : List Event) :
    Ends s limit (steps + allowance)
      (continueRun (limitOf limit) none s.resumeAt allowance steps events t).state
      (continueRun (limitOf limit) none s.resumeAt allowance steps events t).result := by
  induction allowance generalizing steps t events with
  | zero => exact .unfinished underway.before underway.cycle underway.machine
  | succ allowance ih =>
      rcases round_cases (limitOf limit) none s.resumeAt allowance steps events t with
        ⟨paused, ran⟩ | ⟨goes, stopped, ran⟩ | ⟨goes, passes, m, fault, reported, failed, ran⟩ |
        ⟨goes, passes, m, cycle, reported, ticked, hit, ran⟩ |
        ⟨goes, passes, m, cycle, reported, ticked, misses, ran⟩
      · have reached := underway.pauses_iff.mp paused
        rw [ran]
        exact .pause steps ⟨.inl reached, underway.before⟩ underway.machine reached
          underway.cycle underway.resumeAt
      · have hit := underway.stopsHere_iff.mp stopped
        have below : limit ≠ some steps := fun reached =>
          Bool.eq_false_iff.mp goes (underway.pauses_iff.mpr reached)
        rw [ran]
        exact .hit steps ⟨.inr (.inl hit), underway.before⟩ underway.machine (.inr ⟨hit, below⟩)
          (fun cycle => (underway.cycle cycle).elim) fun _ => rfl
      · rw [ran]
        exact .fault steps (underway.no_reason goes passes) underway.machine (by rw [failed])
          (by rw [failed]) underway.resumeAt
      · have met := (underway.stopsAfter_iff ticked).mp hit
        have first : s.FirstStop limit (steps + 1) :=
          ⟨.inr (.inr met), fun j earlier =>
            underway.no_reason goes passes j (Nat.le_of_lt_succ earlier)⟩
        rw [ran]
        exact .hit (steps + 1) first (Machine.afterTicks_succ underway.machine ticked) (.inl met)
          (fun _ => underway.resumeAt) fun missed => (missed met).elim
      · have further := ih (underway.next goes passes ticked misses) (events ++ reported)
        rw [ran, Nat.add_comm allowance 1, ← Nat.add_assoc]
        exact further

theorem Ends.stop {allowance : Nat} {result : Except Fault RunEnd}
    (ends : Ends s limit allowance t result) : Ends s limit allowance t.stop result := by
  cases ends with
  | hit k first reached reason met unmet => exact .hit k first reached reason met unmet
  | pause k first reached limited missed forgotten =>
      exact .pause k first reached limited missed forgotten
  | fault k early reached failed left forgotten =>
      exact .fault k early reached failed left forgotten
  | unfinished early missed reached => exact .unfinished early missed reached

/-- **Every run ends in one of the ways of `Ends`.** -/
theorem ends_run (s : Session) (limit : Option Nat) (allowance : Nat) :
    Ends s limit allowance (run allowance (limitOf limit) none s).state
      (run allowance (limitOf limit) none s).result := by
  have start : Underway s limit 0 s.begun :=
    { running := rfl
      breakpoints := rfl
      resumeAt := rfl
      machine := rfl
      before := fun j earlier => nomatch earlier
      cycle := by
        rintro ⟨j, _, _, number, _⟩
        cases number }
  have unstopped := start.ends allowance []
  rw [Nat.zero_add] at unstopped
  exact unstopped.stop

/-! ## Disabled breakpoints -/

/-- The session with other breakpoints. -/
def withBreakpoints (breakpoints : List Breakpoint) (s : Session) : Session :=
  { s with breakpoints := breakpoints }

/-- The session without its disabled breakpoints. -/
def withoutDisabled (s : Session) : Session :=
  s.withBreakpoints (s.breakpoints.filter (·.enabled))

theorem stopsBefore_withoutDisabled (s : Session) (pc : Int) :
    s.withoutDisabled.stopsBefore pc = s.stopsBefore pc := by
  simp only [stopsBefore, withoutDisabled, withBreakpoints, List.any_filter, Breakpoint.stopsBefore,
    ← Bool.and_assoc, Bool.and_self]

theorem stopsAfter_withoutDisabled (s : Session) (before : Registers)
    (cycle : Snapshot Registers) :
    s.withoutDisabled.stopsAfter before cycle = s.stopsAfter before cycle := by
  simp only [stopsAfter, withoutDisabled, withBreakpoints, List.any_filter, Breakpoint.stopsAfter,
    ← Bool.and_assoc, Bool.and_self]

theorem stepped_withoutDisabled (stopAfter : Option Nat) (steps : Nat)
    (cycle : Snapshot Registers) (m : Machine) (s : Session) :
    s.withoutDisabled.stepped stopAfter steps cycle m =
      (s.stepped stopAfter steps cycle m).withoutDisabled := by
  unfold stepped
  split <;> rfl

/-- **Disabled breakpoints have no effect on a run.** -/
theorem continueRun_withoutDisabled (bound : Option Int) (stopAfter : Option Nat)
    (resume : Option Int) (allowance steps : Nat) (events : List Event) (s : Session) :
    continueRun bound stopAfter resume allowance steps events s.withoutDisabled =
      ⟨(continueRun bound stopAfter resume allowance steps events s).state.withoutDisabled,
        (continueRun bound stopAfter resume allowance steps events s).result,
        (continueRun bound stopAfter resume allowance steps events s).events⟩ := by
  induction allowance generalizing steps events s with
  | zero => rfl
  | succ allowance ih =>
      have stops : s.withoutDisabled.stopsHere resume steps = s.stopsHere resume steps := by
        rw [stopsHere, stopsBefore_withoutDisabled]
        rfl
      have same_hit (cycle : Snapshot Registers) :
          s.withoutDisabled.stopsAfter s.withoutDisabled.machine.registers cycle =
            s.stopsAfter s.machine.registers cycle :=
        stopsAfter_withoutDisabled s s.machine.registers cycle
      have goes_too (goes : s.pauses bound steps = false) :
          s.withoutDisabled.pauses bound steps = false := goes
      rcases round_cases bound stopAfter resume allowance steps events s with
        ⟨paused, ran⟩ | ⟨goes, stopped, ran⟩ | ⟨goes, passes, m, fault, reported, failed, ran⟩ |
        ⟨goes, passes, m, cycle, reported, ticked, hit, ran⟩ |
        ⟨goes, passes, m, cycle, reported, ticked, misses, ran⟩
      · rw [ran]
        exact continueRun_of_pause paused
      · rw [ran]
        exact continueRun_of_stop (goes_too goes) (stops.trans stopped)
      · rw [ran]
        exact continueRun_of_fault (goes_too goes) (stops.trans passes) failed
      · rw [ran, continueRun_of_hit (goes_too goes) (stops.trans passes) ticked
          ((same_hit cycle).trans hit), stepped_withoutDisabled]
      · rw [ran, continueRun_of_cycle (goes_too goes) (stops.trans passes) ticked
          ((same_hit cycle).trans misses), stepped_withoutDisabled, ih]

/-! ## What follows from the way a run ends -/

/-- A run comes to its first reason to end if it is allowed to. -/
theorem Ends.of_firstStop {allowance k : Nat} {result : Except Fault RunEnd} {m : Machine}
    (ends : Ends s limit allowance t result) (first : s.FirstStop limit k)
    (reached : s.machine.afterTicks k = some m) (within : k < allowance) :
    (result = .ok .breakpoint ∨ result = .ok .paused) ∧ t.machine = m := by
  have least {other : Nat} (other_first : s.FirstStop limit other) : other = k := by
    rcases Nat.lt_trichotomy other k with less | same | more
    · exact (first.2 other less other_first.1).elim
    · exact same
    · exact (other_first.2 k more first.1).elim
  have there {other : Nat} {found : Machine} (other_first : s.FirstStop limit other)
      (other_reached : s.machine.afterTicks other = some found) : found = m := by
    rw [least other_first, reached] at other_reached
    cases other_reached
    rfl
  cases ends with
  | hit other other_first other_reached => exact ⟨.inl rfl, there other_first other_reached⟩
  | pause other other_first other_reached => exact ⟨.inr rfl, there other_first other_reached⟩
  | fault last early last_reached failed =>
      have last_before : last < k := by
        rcases Nat.lt_or_ge last k with less | more
        · exact less
        · exact (early k more first.1).elim
      rw [Machine.afterTicks_of_fault last_reached failed last_before] at reached
      cases reached
  | unfinished early => exact (early k within first.1).elim

/-- A run fails with the first tick that fails if nothing ends it before. -/
theorem Ends.of_fault {allowance k : Nat} {result : Except Fault RunEnd} {before : Machine}
    {fault : Fault} (ends : Ends s limit allowance t result)
    (early : ∀ j ≤ k, ¬ s.StopsAt limit j) (reached : s.machine.afterTicks k = some before)
    (failed : (tick before).result = .error fault) (within : k < allowance) :
    result = .error fault ∧ t.machine = (tick before).state := by
  have nothing_after {later : Nat} {found : Machine} (after : k < later) :
      s.machine.afterTicks later ≠ some found := by
    rw [Machine.afterTicks_of_fault reached failed after]
    exact fun absent => nomatch absent
  have beyond {other : Nat} (first : s.FirstStop limit other) : k < other := by
    rcases Nat.lt_or_ge k other with less | more
    · exact less
    · exact (early other more first.1).elim
  cases ends with
  | hit other first other_reached => exact (nothing_after (beyond first) other_reached).elim
  | pause other first other_reached => exact (nothing_after (beyond first) other_reached).elim
  | unfinished _ _ all_reached => exact (nothing_after within all_reached).elim
  | fault last _ last_reached last_failed left =>
      rcases Nat.lt_trichotomy last k with less | rfl | more
      · rw [Machine.afterTicks_of_fault last_reached last_failed less] at reached
        cases reached
      · rw [reached] at last_reached
        cases last_reached
        rw [failed] at last_failed
        cases last_failed
        exact ⟨rfl, left⟩
      · exact (nothing_after more last_reached).elim

/-- **A run is the free machine stopped at the first hit.**  It ends in one of the ways of
`Ends`; with enough allowance it comes to the first reason to end, or to the first fault before
one; it is not running afterwards; and disabled breakpoints make no difference. -/
theorem run_stops_at_first_hit (s : Session) (limit : Option Nat) (allowance : Nat) :
    let o := run allowance (limitOf limit) none s
    Ends s limit allowance o.state o.result ∧
    (∀ k m, s.FirstStop limit k → s.machine.afterTicks k = some m → k < allowance →
      (o.result = .ok .breakpoint ∨ o.result = .ok .paused) ∧ o.state.machine = m) ∧
    (∀ k before fault, (∀ j ≤ k, ¬ s.StopsAt limit j) → s.machine.afterTicks k = some before →
      (tick before).result = .error fault → k < allowance →
      o.result = .error fault ∧ o.state.machine = (tick before).state) ∧
    o.state.running = false ∧ o.state.breakpoints = s.breakpoints ∧
    run allowance (limitOf limit) none s.withoutDisabled =
      ⟨o.state.withoutDisabled, o.result, o.events⟩ := by
  intro o
  have ends : Ends s limit allowance o.state o.result := ends_run s limit allowance
  refine ⟨ends, ?_, ?_, rfl, ?_, ?_⟩
  · intro k m first reached within
    exact ends.of_firstStop first reached within
  · intro k before fault early reached failed within
    exact ends.of_fault early reached failed within
  · exact breakpoints_continueRun _ _ _ _ _ _ _
  · have same := continueRun_withoutDisabled (limitOf limit) none s.resumeAt allowance 0 []
      s.begun
    exact congrArg
      (fun o : Outcome Session RunEnd => (⟨o.state.stop, o.result, o.events⟩ : Outcome _ _)) same

/-- A session on a machine that loads two registers and then jumps on the spot, with a breakpoint at
the jump. -/
def loadingTwice : Session :=
  addBreakpoint (.atAddress 4) (ofMachine
    { Machine.ofWord 0x60 0x05 .everyCycle with
      memory := ⟨#[0x60, 0x05, 0x61, 0x06, 0x10, 0x04], ⟨1, []⟩, []⟩ } none)

/-- The first reason to end is the breakpoint, after two ticks. -/
theorem firstStop_loadingTwice : loadingTwice.FirstStop none 2 := by
  obtain ⟨first, second, once, twice, on_the_way, at_jump⟩ :
      ∃ first second, loadingTwice.machine.afterTicks 1 = some first ∧
        loadingTwice.machine.afterTicks 2 = some second ∧ first.registers.pc = 2 ∧
        second.registers.pc = 4 :=
    ⟨_, _, rfl, rfl, rfl, rfl⟩
  have only {b : Breakpoint} (inside : b ∈ loadingTwice.breakpoints) : b = .atAddress 4 :=
    List.mem_singleton.mp inside
  have passes {k : Nat} {m : Machine} (reached : loadingTwice.machine.afterTicks k = some m)
      (elsewhere : m.registers.pc ≠ 4) : ¬ loadingTwice.StopsAt none k := by
    rintro (limited | ⟨other, same, ⟨b, inside, _, _, waits⟩, _⟩ | hit)
    · cases limited
    · rw [reached] at same
      cases same
      rw [only inside] at waits
      exact elsewhere (Option.some.inj waits).symm
    · exact not_cycleHit_of_pcMatch (fun b inside => only inside ▸ rfl) k hit
  have waits : loadingTwice.CounterHit 2 :=
    ⟨second, twice, ⟨.atAddress 4, .head _, rfl, rfl, congrArg some at_jump.symm⟩,
      fun exempt => nomatch exempt.1⟩
  refine ⟨.inr (.inl waits), fun j earlier => ?_⟩
  match j with
  | 0 => exact passes rfl (by decide)
  | 1 => exact passes once (by rw [on_the_way]; decide)

/-- A run makes the two ticks to the breakpoint, and is stopped there. -/
theorem loadingTwice_stops_at_first_hit :
    let o := run 5 none none loadingTwice
    loadingTwice.FirstStop none 2 ∧ o.result = .ok .breakpoint ∧
      o.state.machine.registers.pc = 4 ∧ o.state.machine.registers.get 0 = 5 ∧
      o.state.machine.registers.get 1 = 6 ∧ o.state.running = false := by
  intro o
  obtain ⟨second, twice, at_jump, loaded⟩ :
      ∃ second, loadingTwice.machine.afterTicks 2 = some second ∧ second.registers.pc = 4 ∧
        second.registers.get 0 = 5 ∧ second.registers.get 1 = 6 :=
    ⟨_, rfl, rfl, rfl, rfl⟩
  obtain ⟨ends, stops, _, ended, _⟩ := run_stops_at_first_hit loadingTwice none 5
  obtain ⟨answer, machine⟩ := stops 2 second firstStop_loadingTwice twice (by decide)
  have same : o.state.machine = second := machine
  have hit : o.result = .ok .breakpoint := by
    rcases answer with hit | paused
    · exact hit
    · -- a run without a limit does not end at one
      rw [paused] at ends
      cases ends with
      | pause _ _ _ limited => cases limited
  rw [same]
  exact ⟨firstStop_loadingTwice, hit, at_jump, loaded.1, loaded.2, ended⟩

end Session

end Chip8
