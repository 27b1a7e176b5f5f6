import Chip8.Proofs.DebugLoop

/-!
# Runs in slices

A host lets a session run in slices of a fixed number of steps, one slice for each picture that it
shows.  A run that ends at its limit has not looked at the breakpoints on the program counter there:
the next run does.  So a run that is continued by another one where it paused is a single longer
run (`continueRun_slice`), and a run that ended before its limit would have ended there with a
higher limit too.

Two things could tell the slices apart, and neither does.  The step counter of the second run starts
anew, but the limit that it is compared with is lower by as much (`continueRun_shift`).  The
second run has no address to pass, and the single run passes one only at its first step; this is
why the first slice has to make a step.
-/

namespace Chip8.Session

set_option autoImplicit false

/-- A run of at most so many steps, with all the allowance that it can use. -/
def runFor (limit : Nat) : Action Session RunEnd := run (limit + 1) (some (limit : Int)) none

variable {limit resume : Option Int} {stopAfter : Option Nat} {steps m n : Nat} {s : Session}

theorem pauses_iff_of_running (running : s.running = true) :
    s.pauses (some (n : Int)) steps = true ↔ n ≤ steps := by
  rw [pauses, running, Bool.not_true, Bool.false_or, Option.any_some, decide_eq_true_eq]
  exact Int.ofNat_le

theorem goes_of_lt (running : s.running = true) (below : steps < n) :
    s.pauses (some (n : Int)) steps = false := by
  rw [Bool.eq_false_iff, ne_eq, pauses_iff_of_running running]
  exact Nat.not_le.mpr below

theorem lt_of_goes (goes : s.pauses (some (n : Int)) steps = false) : steps < n := by
  rw [pauses, Bool.or_eq_false_iff, Option.any_some, decide_eq_false_iff_not] at goes
  omega

/-! ## What a run does not depend on -/

/-- The events that were reported before a run goes on come first. -/
theorem continueRun_append (limit : Option Int) (stopAfter : Option Nat) (resume : Option Int)
    (earlier : List Event) (allowance steps : Nat) (events : List Event) (s : Session) :
    continueRun limit stopAfter resume allowance steps (earlier ++ events) s =
      ⟨(continueRun limit stopAfter resume allowance steps events s).state,
        (continueRun limit stopAfter resume allowance steps events s).result,
        earlier ++ (continueRun limit stopAfter resume allowance steps events s).events⟩ := by
  induction allowance generalizing steps events s with
  | zero => rfl
  | succ allowance ih =>
      rcases round_cases limit stopAfter resume allowance steps events s with
        ⟨paused, ran⟩ | ⟨goes, stopped, ran⟩ | ⟨goes, passes, m, fault, reported, failed, ran⟩ |
        ⟨goes, passes, m, cycle, reported, ticked, hit, ran⟩ |
        ⟨goes, passes, m, cycle, reported, ticked, misses, ran⟩
      · rw [ran, continueRun_of_pause paused]
      · rw [ran, continueRun_of_stop goes stopped, List.append_assoc]
      · rw [ran, continueRun_of_fault goes passes failed, List.append_assoc]
      · rw [ran, continueRun_of_hit goes passes ticked hit]
        simp only [List.append_assoc]
      · rw [ran, continueRun_of_cycle goes passes ticked misses, List.append_assoc, ih]

/-- An allowance beyond the limit makes no difference. -/
theorem continueRun_of_enough (first other : Nat) (within : steps ≤ n)
    (first_enough : n < steps + first) (other_enough : n < steps + other) (events : List Event)
    (s : Session) :
    continueRun (some (n : Int)) stopAfter resume first steps events s =
      continueRun (some (n : Int)) stopAfter resume other steps events s := by
  induction first generalizing steps other events s with
  | zero => omega
  | succ first ih =>
      obtain ⟨other, rfl⟩ : ∃ less, other = less + 1 := Nat.exists_eq_succ_of_ne_zero (by omega)
      rcases round_cases (some (n : Int)) stopAfter resume first steps events s with
        ⟨paused, ran⟩ | ⟨goes, stopped, ran⟩ | ⟨goes, passes, m, fault, reported, failed, ran⟩ |
        ⟨goes, passes, m, cycle, reported, ticked, hit, ran⟩ |
        ⟨goes, passes, m, cycle, reported, ticked, misses, ran⟩
      · rw [ran, continueRun_of_pause paused]
      · rw [ran, continueRun_of_stop goes stopped]
      · rw [ran, continueRun_of_fault goes passes failed]
      · rw [ran, continueRun_of_hit goes passes ticked hit]
      · have below := lt_of_goes goes
        rw [ran, continueRun_of_cycle goes passes ticked misses]
        exact ih other (by omega) (by omega) (by omega) _ _

/-- After the first step a run passes no address, and only the distance to its limit counts. -/
theorem continueRun_shift (positive : 1 ≤ m) (allowance steps : Nat) (events : List Event)
    (s : Session) :
    continueRun (some ((m + n : Nat) : Int)) none resume allowance (m + steps) events s =
      continueRun (some (n : Int)) none none allowance steps events s := by
  induction allowance generalizing steps events s with
  | zero => rfl
  | succ allowance ih =>
      have same_pause :
          s.pauses (some ((m + n : Nat) : Int)) (m + steps) = s.pauses (some (n : Int)) steps := by
        have distance : ((m + n : Nat) : Int) ≤ ((m + steps : Nat) : Int) ↔ (n : Int) ≤ steps := by
          omega
        simp only [pauses, Option.any_some, distance]
      have same_stop : s.stopsHere resume (m + steps) = s.stopsHere none steps := by
        have stepped : (m + steps == 0) = false := by
          rw [beq_eq_false_iff_ne]
          omega
        rw [stopsHere, stopsHere, stepped, Bool.false_and]
        cases steps == 0 <;> rfl
      rcases round_cases (some (n : Int)) none none allowance steps events s with
        ⟨paused, ran⟩ | ⟨goes, stopped, ran⟩ | ⟨goes, passes, m', fault, reported, failed, ran⟩ |
        ⟨goes, passes, m', cycle, reported, ticked, hit, ran⟩ |
        ⟨goes, passes, m', cycle, reported, ticked, misses, ran⟩
      · rw [ran, continueRun_of_pause (same_pause.trans paused)]
      · rw [ran, continueRun_of_stop (same_pause.trans goes) (same_stop.trans stopped)]
      · rw [ran, continueRun_of_fault (same_pause.trans goes) (same_stop.trans passes) failed]
      · rw [ran, continueRun_of_hit (same_pause.trans goes) (same_stop.trans passes) ticked hit]
        rfl
      · rw [ran, continueRun_of_cycle (same_pause.trans goes) (same_stop.trans passes) ticked
          misses, Nat.add_assoc, ih]
        rfl

/-! ## A slice and what comes after it -/

/-- **A run up to a limit and the same run up to a later one.**  Either the first pauses, and then
the second goes on from there as a run of its own, or both end alike. -/
theorem continueRun_slice (resume : Option Int) (positive : 1 ≤ m) (later rounds steps : Nat)
    (events : List Event) (s : Session) (distance : steps + rounds = m)
    (running : s.running = true) (forgotten : s.resumeAt = none) :
    let first := continueRun (some (m : Int)) none resume (rounds + 1) steps events s
    let whole :=
      continueRun (some ((m + n : Nat) : Int)) none resume (rounds + later) steps events s
    (first.result = .ok .paused ∧ first.state.running = true ∧ first.state.resumeAt = none ∧
      whole = continueRun (some (n : Int)) none none later 0 first.events first.state) ∨
    (first.result ≠ .ok .paused ∧ first.result ≠ .ok .unfinished ∧ whole = first) := by
  induction rounds generalizing steps events s with
  | zero =>
      intro first whole
      obtain rfl : steps = m := distance
      have paused : s.pauses (some (steps : Int)) steps = true :=
        (pauses_iff_of_running running).mpr (Nat.le_refl steps)
      have first_eq : first = ⟨s, .ok .paused, events⟩ := continueRun_of_pause paused
      have whole_eq : whole = continueRun (some (n : Int)) none none later 0 events s := by
        have same_allowance : whole =
            continueRun (some ((steps + n : Nat) : Int)) none resume later steps events s :=
          congrArg (continueRun _ none resume · steps events s) (Nat.zero_add later)
        rw [same_allowance]
        exact continueRun_shift positive later 0 events s
      rw [first_eq]
      exact .inl ⟨rfl, running, forgotten, whole_eq⟩
  | succ rounds ih =>
      intro first whole
      have further : s.pauses (some ((m + n : Nat) : Int)) steps = false :=
        goes_of_lt running (by omega)
      have whole_rounds : whole =
          continueRun (some ((m + n : Nat) : Int)) none resume (rounds + later + 1) steps events
            s :=
        congrArg (continueRun _ none resume · steps events s) (by omega)
      rcases round_cases (some (m : Int)) none resume (rounds + 1) steps events s with
        ⟨paused, ran⟩ | ⟨_, stopped, ran⟩ | ⟨_, passes, m', fault, reported, failed, ran⟩ |
        ⟨_, passes, m', cycle, reported, ticked, hit, ran⟩ |
        ⟨_, passes, m', cycle, reported, ticked, misses, ran⟩
      · have reached := (pauses_iff_of_running running).mp paused
        omega
      · refine .inr ?_
        rw [whole_rounds, continueRun_of_stop further stopped, show first = _ from ran]
        exact ⟨nofun, nofun, rfl⟩
      · refine .inr ?_
        rw [whole_rounds, continueRun_of_fault further passes failed, show first = _ from ran]
        exact ⟨nofun, nofun, rfl⟩
      · refine .inr ?_
        rw [whole_rounds, continueRun_of_hit further passes ticked hit, show first = _ from ran]
        exact ⟨nofun, nofun, rfl⟩
      · rw [whole_rounds, continueRun_of_cycle further passes ticked misses,
          show first = _ from ran]
        exact ih (steps + 1) _ _ (by omega) running forgotten

/-- A session that runs and has no address to pass is at the beginning of a run. -/
theorem begun_stop (running : s.running = true) (forgotten : s.resumeAt = none) :
    s.stop.begun = s := by
  obtain ⟨machine, breakpoints, _, last, history, historyLimit, _⟩ := s
  cases running
  cases forgotten
  rfl

theorem run_of_enough {allowance : Nat} (enough : n < allowance) :
    run allowance (some (n : Int)) none = runFor n := by
  funext s
  simp only [runFor, run]
  rw [continueRun_of_enough allowance (n + 1) (Nat.zero_le n) (by omega)
    (by omega)]

/-- **Slicing a run changes nothing.**  If a run of `m` steps pauses, a run of `n` steps after it
leaves the session, the answer and, with the first, the events of a single run of `m + n` steps; if
it ends otherwise, at a breakpoint or with a fault, the single run ends alike.  A run always
ends, and an allowance beyond its limit makes no difference. -/
theorem slices_make_one_run (s : Session) (n : Nat) (positive : 1 ≤ m) :
    ((runFor m s).result = .ok .paused →
      runFor (m + n) s =
        ⟨(runFor n (runFor m s).state).state, (runFor n (runFor m s).state).result,
          (runFor m s).events ++ (runFor n (runFor m s).state).events⟩) ∧
    ((runFor m s).result ≠ .ok .paused → runFor (m + n) s = runFor m s) ∧
    (runFor m s).result ≠ .ok .unfinished ∧
    ∀ allowance limit : Nat, limit < allowance →
      run allowance (some (limit : Int)) none = runFor limit := by
  have sliced := continueRun_slice (n := n) s.resumeAt positive (n + 1) m 0 [] s.begun
    (Nat.zero_add m) rfl rfl
  simp only [← Nat.add_assoc] at sliced
  generalize first_eq :
    continueRun (some (m : Int)) none s.resumeAt (m + 1) 0 [] s.begun = first at sliced
  have slice : runFor m s = ⟨first.state.stop, first.result, first.events⟩ := by
    rw [← first_eq]
    rfl
  have whole : runFor (m + n) s =
      let o := continueRun (some ((m + n : Nat) : Int)) none s.resumeAt (m + n + 1) 0 [] s.begun
      ⟨o.state.stop, o.result, o.events⟩ := rfl
  rw [whole, slice]
  refine ⟨?_, ?_, ?_, fun allowance limit enough => run_of_enough enough⟩
  · intro paused
    rcases sliced with ⟨_, running, forgotten, continued⟩ | ⟨ended, _⟩
    · have next : runFor n first.state.stop =
          let o := continueRun (some (n : Int)) none none (n + 1) 0 [] first.state
          ⟨o.state.stop, o.result, o.events⟩ := by
        have begin_again : runFor n first.state.stop =
            let o := continueRun (some (n : Int)) none first.state.resumeAt (n + 1) 0 []
              first.state.stop.begun
            ⟨o.state.stop, o.result, o.events⟩ := rfl
        rw [begin_again, begun_stop running forgotten, forgotten]
      have events := continueRun_append (some (n : Int)) none none first.events (n + 1) 0 []
        first.state
      rw [List.append_nil] at events
      dsimp only
      rw [continued, events, next]
    · exact (ended paused).elim
  · intro ended
    rcases sliced with ⟨paused, _⟩ | ⟨_, _, same⟩
    · exact (ended paused).elim
    · dsimp only
      rw [same]
  · rcases sliced with ⟨paused, _⟩ | ⟨_, finished, _⟩
    · dsimp only
      rw [paused]
      exact nofun
    · exact finished

/-- A slice that passes the breakpoint where it resumes and pauses there again: the next slice
stops at it, like the single run. -/
theorem onTheSpot_slices_make_one_run :
    (1 ≤ 1) ∧ (runFor 1 { onTheSpot with resumeAt := some 0 }).result = .ok .paused ∧
      (runFor 1 (runFor 1 { onTheSpot with resumeAt := some 0 }).state).result = .ok .breakpoint ∧
      (runFor 2 { onTheSpot with resumeAt := some 0 }).result = .ok .breakpoint ∧
      (runFor 2 { onTheSpot with resumeAt := some 0 }).state =
        (runFor 1 (runFor 1 { onTheSpot with resumeAt := some 0 }).state).state := by
  have paused : (runFor 1 { onTheSpot with resumeAt := some 0 }).result = .ok .paused := rfl
  have stopped : (runFor 1 (runFor 1 { onTheSpot with resumeAt := some 0 }).state).result =
      .ok .breakpoint := rfl
  have single := (slices_make_one_run { onTheSpot with resumeAt := some 0 } 1
    (Nat.le_refl 1)).1 paused
  refine ⟨Nat.le_refl 1, paused, stopped, ?_, ?_⟩
  · rw [show runFor 2 { onTheSpot with resumeAt := some 0 } = _ from single]
    exact stopped
  · rw [show runFor 2 { onTheSpot with resumeAt := some 0 } = _ from single]

end Chip8.Session
