import Chip8.Proofs.FirstHit

/-!
# Waiting for a register to change

A breakpoint on the change of a register compares the record of a cycle with the registers before
it.  The record is taken before the timers go down, and the registers that the next cycle is
compared with are taken after that.  So the breakpoint stops a run at the first cycle that changes
the register by itself, and what the ticks of a timer do falls between two comparisons.

For the general registers, the program counter and the index this is the first change at all
(`changes_iff_cycleChanges`), because ticks leave them alone.  For the two timers it need not be: a
timer that goes down is not noticed, and a cycle that sets it to one more than it was is noticed
although the same value is shown afterwards.
-/

namespace Chip8

set_option autoImplicit false

/-! ## Registers by their names -/

/-- The value that is shown for the register with a name. -/
def Machine.shown? (m : Machine) (key : String) : Option Int := m.namedValues.lookup key

namespace Registers

/-- The names of the registers that a breakpoint can watch.  The depth of the call stack, which is
shown like a register, is not among them. -/
def names : List String :=
  (List.finRange 16).map (fun k => Instruction.register (Int.ofNat k.val)) ++
    ["PC", "I", "DT", "ST"]

/-- The names of the two timers. -/
def timerNames : List String := ["DT", "ST"]

theorem register_injective : ∀ j k : Fin 16,
    Instruction.register (Int.ofNat j.val) = Instruction.register (Int.ofNat k.val) → j = k := by
  decide

/-- The name of a general register is a letter and a digit. -/
theorem toList_register : ∀ k : Fin 16,
    (Instruction.register (Int.ofNat k.val)).toList =
        ['V', (Instruction.register (Int.ofNat k.val)).toList.getD 1 'V'] ∧
      Text.digit? 16 ((Instruction.register (Int.ofNat k.val)).toList.getD 1 'V') = some k.val := by
  decide

theorem named?_of_register (r : Registers) {name : String} {k : Fin 16}
    (general : Text.upper name = Instruction.register (Int.ofNat k.val)) :
    r.named? name = some (Int.ofNat (r.v.get k)) := by
  obtain ⟨letters, digit⟩ := toList_register k
  have place_eq : place ((k.val : Nat) : Int) = k := by
    apply Fin.ext
    simp only [place]
    omega
  rw [← general] at letters
  rw [r.named?_general letters, general, digit]
  exact congrArg (fun j : Fin 16 => some (Int.ofNat (r.v.get j))) place_eq

/-- The ticks of the timers leave every other register as it is. -/
theorem named?_elapse (r : Registers) (ticks : Int) {name : String}
    (named : Text.upper name ∈ names) (no_timer : Text.upper name ∉ timerNames) :
    (r.elapse ticks).named? name = r.named? name := by
  rcases List.mem_append.mp named with general | special
  · obtain ⟨k, _, same⟩ := List.mem_map.mp general
    rw [named?_of_register _ same.symm, named?_of_register _ same.symm, v_elapse]
  · simp only [List.mem_cons, List.not_mem_nil, or_false] at special
    rcases special with same | same | same | same
    · rw [named?_pc _ same, named?_pc _ same, pc_elapse]
    · rw [named?_index _ same, named?_index _ same, index_elapse]
    · exact (no_timer (same ▸ .head _)).elim
    · exact (no_timer (same ▸ .tail _ (.head _))).elim

end Registers

/-- Looking up one of several different keys finds its value. -/
theorem lookup_map_of_injective {ι β : Type} (key : ι → String) (value : ι → β)
    (injective : ∀ j k, key j = key k → j = k) {k : ι} {all : List ι} (inside : k ∈ all) :
    (all.map fun j => (key j, value j)).lookup (key k) = some (value k) := by
  induction all with
  | nil => cases inside
  | cons head rest ih =>
      rw [List.map_cons, List.lookup_cons]
      split
      · next same => rw [injective k head (beq_iff_eq.mp same)]
      · next different =>
          rcases List.mem_cons.mp inside with rfl | later
          · rw [beq_self_eq_true] at different
            cases different
          · exact ih later

/-- **A register that can be watched has the value that is shown for it**, in any letter case. -/
theorem Machine.named?_eq_shown? (m : Machine) {name : String}
    (named : Text.upper name ∈ Registers.names) :
    m.registers.named? name = m.shown? (Text.upper name) ∧ (m.registers.named? name).isSome := by
  rcases List.mem_append.mp named with general | special
  · obtain ⟨k, _, same⟩ := List.mem_map.mp general
    have value := m.registers.named?_of_register same.symm
    have found := lookup_map_of_injective (fun k : Fin 16 => Instruction.register (Int.ofNat k.val))
      (fun k => Int.ofNat (m.registers.v.get k)) Registers.register_injective (List.mem_finRange k)
    rw [value, shown?, namedValues, List.lookup_append, ← same, found]
    exact ⟨rfl, rfl⟩
  · simp only [List.mem_cons, List.not_mem_nil, or_false] at special
    rcases special with same | same | same | same
    · rw [Registers.named?_pc _ same, same]
      exact ⟨rfl, rfl⟩
    · rw [Registers.named?_index _ same, same]
      exact ⟨rfl, rfl⟩
    · rw [Registers.named?_delay _ same, same]
      exact ⟨rfl, rfl⟩
    · rw [Registers.named?_sound _ same, same]
      exact ⟨rfl, rfl⟩

namespace Session

open Machine (tick)

/-! ## Two kinds of change -/

/-- The value that is shown under a name is another after the tick of number `k + 1` than
before it. -/
def Changes (s : Session) (key : String) (k : Nat) : Prop :=
  ∃ before after, s.machine.afterTicks k = some before ∧
    s.machine.afterTicks (k + 1) = some after ∧ after.shown? key ≠ before.shown? key

/-- A register has another value in the record of the cycle of number `k + 1` than before it. -/
def CycleChanges (s : Session) (name : String) (k : Nat) : Prop :=
  ∃ before cycle, s.machine.afterTicks k = some before ∧ (tick before).result = .ok cycle ∧
    cycle.registers.named? name ≠ before.registers.named? name

/-- The least number for which something happens. -/
def IsFirst (happens : Nat → Prop) (k : Nat) : Prop := happens k ∧ ∀ j < k, ¬ happens j

theorem IsFirst.unique {happens : Nat → Prop} {j k : Nat} (first : IsFirst happens j)
    (other : IsFirst happens k) : j = k := by
  rcases Nat.lt_trichotomy j k with less | same | more
  · exact (other.2 j less first.1).elim
  · exact same
  · exact (first.2 k more other.1).elim

/-- Every run is stopped by a breakpoint right after the first tick for which something
happens, if the tick is within its limit and its allowance, and at no other place. -/
structure StopsAtFirst (s : Session) (happens : Nat → Prop) : Prop where
  stops : ∀ limit allowance k, IsFirst happens k → (∀ n, limit = some n → k < n) → k < allowance →
    (run allowance (limitOf limit) none s).result = .ok .breakpoint ∧
      s.machine.afterTicks (k + 1) = some (run allowance (limitOf limit) none s).state.machine
  only : ∀ limit allowance, (run allowance (limitOf limit) none s).result = .ok .breakpoint →
    ∃ k, IsFirst happens k ∧ (∀ n, limit = some n → k < n) ∧
      s.machine.afterTicks (k + 1) = some (run allowance (limitOf limit) none s).state.machine

variable {s : Session} {limit : Option Nat} {name : String} {k : Nat}

theorem tick_of_result {before : Machine} {cycle : Snapshot Registers}
    (succeeded : (tick before).result = .ok cycle) :
    tick before = ⟨(tick before).state, .ok cycle, (tick before).events⟩ := by
  rw [← succeeded]

/-- The machine after one more tick, if the tick succeeds. -/
theorem afterTicks_tick {m before : Machine} {cycle : Snapshot Registers}
    (reached : m.afterTicks k = some before) (succeeded : (tick before).result = .ok cycle) :
    m.afterTicks (k + 1) = some (tick before).state :=
  Machine.afterTicks_succ reached (tick_of_result succeeded)

/-- The registers after a tick are those of the record after some ticks of the timers. -/
theorem registers_tick {before : Machine} {cycle : Snapshot Registers}
    (succeeded : (tick before).result = .ok cycle) :
    ∃ count, (tick before).state.registers = cycle.registers.elapse count := by
  obtain ⟨middle, early, count, stepped, _, after⟩ := Machine.tick_ok (tick_of_result succeeded)
  obtain ⟨_, executed, _, rfl, rfl⟩ := Machine.step_ok stepped
  rw [after]
  exact ⟨count, rfl⟩

/-- **A register that is no timer changes in a tick if its cycle changes it.** -/
theorem changes_iff_cycleChanges (named : Text.upper name ∈ Registers.names)
    (no_timer : Text.upper name ∉ Registers.timerNames) :
    s.Changes (Text.upper name) k ↔ s.CycleChanges name k := by
  have same_value {before : Machine} {cycle : Snapshot Registers}
      (succeeded : (tick before).result = .ok cycle) :
      (tick before).state.shown? (Text.upper name) = cycle.registers.named? name := by
    obtain ⟨count, registers⟩ := registers_tick succeeded
    rw [← ((tick before).state.named?_eq_shown? named).1, registers,
      Registers.named?_elapse _ _ named no_timer]
  constructor
  · rintro ⟨before, after, reached, next, changed⟩
    cases succeeded : (tick before).result with
    | error fault =>
        rw [Machine.afterTicks_of_fault reached succeeded (Nat.lt_succ_self k)] at next
        cases next
    | ok cycle =>
        rw [afterTicks_tick reached succeeded] at next
        cases next
        rw [same_value succeeded, ← (before.named?_eq_shown? named).1] at changed
        exact ⟨before, cycle, reached, succeeded, changed⟩
  · rintro ⟨before, cycle, reached, succeeded, changed⟩
    refine ⟨before, (tick before).state, reached, afterTicks_tick reached succeeded, ?_⟩
    rw [same_value succeeded, ← (before.named?_eq_shown? named).1]
    exact changed

/-! ## The run -/

/-- The only breakpoint of a session, which waits for the change of a register. -/
structure Watches (s : Session) (name : String) : Prop where
  only : ∃ b, s.breakpoints = [b] ∧ b.kind = .registerChange ∧ b.enabled = true ∧
    b.register = some name
  named : Text.upper name ∈ Registers.names

theorem Watches.not_counterHit (watches : s.Watches name) : ¬ s.CounterHit k := by
  obtain ⟨⟨b, only, kind, _⟩, _⟩ := watches
  rintro ⟨_, _, ⟨other, inside, _, waits, _⟩, _⟩
  rw [only, List.mem_singleton] at inside
  rw [inside, kind] at waits
  cases waits

/-- The breakpoint is met where a cycle changes the register. -/
theorem Watches.cycleHit_iff (watches : s.Watches name) :
    s.CycleHit (k + 1) ↔ s.CycleChanges name k := by
  obtain ⟨⟨b, only, kind, enabled, register⟩, named⟩ := watches
  constructor
  · rintro ⟨j, before, cycle, number, reached, succeeded, other, inside, _, holds⟩
    cases number
    rw [only, List.mem_singleton] at inside
    subst inside
    refine ⟨before, cycle, reached, succeeded, ?_⟩
    cases holds with
    | read other_kind | write other_kind | value other_kind =>
        rw [kind] at other_kind
        cases other_kind
    | change _ other_register _ after changed =>
        rw [register] at other_register
        cases other_register
        rw [after]
        exact Ne.symm changed
  · rintro ⟨before, cycle, reached, succeeded, changed⟩
    have not_empty : name ≠ "" := by
      rintro rfl
      revert named
      decide
    have known : (cycle.registers.named? name).isSome :=
      (Machine.named?_eq_shown? { before with registers := cycle.registers } named).2
    obtain ⟨now, after⟩ := Option.isSome_iff_exists.mp known
    refine ⟨k, before, cycle, rfl, reached, succeeded, b, ?_, enabled,
      .change kind register not_empty after ?_⟩
    · rw [only]
      exact .head _
    · rw [← after]
      exact Ne.symm changed

/-- The first cycle that changes the register is the first reason to end, if the limit comes
later. -/
theorem Watches.firstStop (watches : s.Watches name) (first : IsFirst (s.CycleChanges name) k)
    (within_limit : ∀ n, limit = some n → k < n) : IsFirst (s.StopsAt limit) (k + 1) := by
  refine ⟨.inr (.inr (watches.cycleHit_iff.mpr first.1)), ?_⟩
  rintro j earlier (reached | hit | hit)
  · have later := within_limit j reached
    omega
  · exact watches.not_counterHit hit
  · obtain ⟨i, _, _, rfl, _⟩ := id hit
    exact first.2 i (Nat.lt_of_succ_lt_succ earlier) (watches.cycleHit_iff.mp hit)

/-- **A breakpoint on the change of a register stops a run at the first cycle that changes it.** -/
theorem Watches.stopsAtFirst (watches : s.Watches name) :
    s.StopsAtFirst (s.CycleChanges name) where
  stops := by
    intro limit allowance k first within_limit within
    have stop := watches.firstStop first within_limit
    have hit : s.CycleHit (k + 1) := watches.cycleHit_iff.mpr first.1
    have ends := ends_run s limit allowance
    generalize (run allowance (limitOf limit) none s).result = result at ends ⊢
    generalize (run allowance (limitOf limit) none s).state = t at ends ⊢
    cases ends with
    | hit last last_stop reached =>
        rw [IsFirst.unique last_stop stop] at reached
        exact ⟨rfl, reached⟩
    | pause last last_stop _ _ missed =>
        rw [IsFirst.unique last_stop stop] at missed
        exact (missed hit).elim
    | fault last early reached failed =>
        have before_stop : last < k + 1 := by
          rcases Nat.lt_or_ge last (k + 1) with less | more
          · exact less
          · exact (early (k + 1) more stop.1).elim
        obtain ⟨before, cycle, there, succeeded, _⟩ := first.1
        have next := afterTicks_tick there succeeded
        rw [Machine.afterTicks_of_fault reached failed before_stop] at next
        cases next
    | unfinished early missed =>
        rcases Nat.lt_or_eq_of_le (Nat.succ_le_of_lt within) with less | same
        · exact (early (k + 1) less stop.1).elim
        · exact (missed (same ▸ hit)).elim
  only := by
    intro limit allowance stopped
    have ends := ends_run s limit allowance
    rw [stopped] at ends
    cases ends with
    | hit last last_stop reached reason =>
        have hit : s.CycleHit last := reason.resolve_right fun counter =>
          watches.not_counterHit counter.1
        obtain ⟨k, _, _, rfl, _⟩ := id hit
        refine ⟨k, ⟨watches.cycleHit_iff.mp hit, ?_⟩, ?_, reached⟩
        · intro j earlier changes
          exact last_stop.2 (j + 1) (Nat.succ_lt_succ earlier)
            (.inr (.inr (watches.cycleHit_iff.mpr changes)))
        · intro n limited
          rcases Nat.lt_or_ge k n with less | more
          · exact less
          · exact (last_stop.2 n (Nat.lt_succ_of_le more) (.inl limited)).elim

/-- A run cannot be stopped at the first of two things that do not come first together. -/
theorem StopsAtFirst.iff_of_stopsAtFirst {happens : Nat → Prop} (stops : s.StopsAtFirst happens)
    (other : Nat → Prop) :
    s.StopsAtFirst other ↔ ∀ k, IsFirst other k ↔ IsFirst happens k := by
  -- a run whose limit is the next step is stopped by both at the latest there
  have not_later {p q : Nat → Prop} (at_p : s.StopsAtFirst p) (at_q : s.StopsAtFirst q) {k : Nat}
      (first : IsFirst p k) : ∃ j, IsFirst q j ∧ j ≤ k := by
    have within_limit : ∀ n, some (k + 1) = some n → k < n := by
      rintro n ⟨⟩
      exact Nat.lt_succ_self k
    have stopped := (at_p.stops _ (k + 1) k first within_limit (Nat.lt_succ_self k)).1
    obtain ⟨j, first_j, within, _⟩ := at_q.only _ _ stopped
    exact ⟨j, first_j, Nat.le_of_lt_succ (within (k + 1) rfl)⟩
  have both {p q : Nat → Prop} (at_p : s.StopsAtFirst p) (at_q : s.StopsAtFirst q) {k : Nat}
      (first : IsFirst p k) : IsFirst q k := by
    obtain ⟨j, first_j, j_le⟩ := not_later at_p at_q first
    obtain ⟨i, first_i, i_le⟩ := not_later at_q at_p first_j
    have same : i = k := first_i.unique first
    rwa [show k = j by omega]
  constructor
  · intro also k
    exact ⟨both also stops, both stops also⟩
  · intro same
    refine ⟨?_, ?_⟩
    · intro limit allowance k first
      exact stops.stops limit allowance k ((same k).mp first)
    · intro limit allowance stopped
      obtain ⟨k, first, rest⟩ := stops.only limit allowance stopped
      exact ⟨k, (same k).mpr first, rest⟩

/-- **Where a run stops that waits for a register to change.**  With a breakpoint on the change of a
register and no other, every run stops right after the first tick whose cycle changes the register.
So it stops right after the first tick that changes the shown value if and only if both are the
same tick, and this is so of every register but the timers. -/
theorem stops_at_first_change (watches : s.Watches name) :
    s.StopsAtFirst (s.CycleChanges name) ∧
    (s.StopsAtFirst (s.Changes (Text.upper name)) ↔
      ∀ k, IsFirst (s.Changes (Text.upper name)) k ↔ IsFirst (s.CycleChanges name) k) ∧
    (Text.upper name ∉ Registers.timerNames → s.StopsAtFirst (s.Changes (Text.upper name))) := by
  have condition := watches.stopsAtFirst.iff_of_stopsAtFirst (s.Changes (Text.upper name))
  refine ⟨watches.stopsAtFirst, condition, fun no_timer => condition.mpr fun k => ?_⟩
  have same : s.Changes (Text.upper name) = s.CycleChanges name :=
    funext fun k => propext (changes_iff_cycleChanges watches.named no_timer)
  rw [same]

/-- A new session whose only breakpoint waits for the change of a register. -/
def watching (name : String) (m : Machine) : Session :=
  addBreakpoint ⟨.registerChange, none, none, some name, true⟩ (ofMachine m none)

theorem watches_watching {name : String} (m : Machine)
    (named : Text.upper name ∈ Registers.names) : (watching name m).Watches name :=
  ⟨⟨_, rfl, rfl, rfl, rfl⟩, named⟩

/-- The machine whose first word gives a register a value stops at it, also with the register named
in small letters. -/
theorem stops_at_first_byte :
    Text.upper "v0" ∈ Registers.names ∧ Text.upper "v0" ∉ Registers.timerNames ∧
      IsFirst ((watching "v0" (.ofWord 0x60 0x05 .everyCycle)).Changes "V0") 0 ∧
      (run 1 none none (watching "v0" (.ofWord 0x60 0x05 .everyCycle))).result =
        .ok .breakpoint := by
  have named : Text.upper "v0" ∈ Registers.names := by decide
  have no_timer : Text.upper "v0" ∉ Registers.timerNames := by decide
  have watches := watches_watching (.ofWord 0x60 0x05 .everyCycle) named
  have first : IsFirst ((watching "v0" (.ofWord 0x60 0x05 .everyCycle)).Changes "V0") 0 := by
    refine ⟨⟨_, _, rfl, rfl, ?_⟩, fun j earlier => nomatch earlier⟩
    decide
  have stops := ((stops_at_first_change watches).2.2 no_timer).stops none 1 0 first nofun
    (Nat.lt_succ_self 0)
  exact ⟨named, no_timer, first, stops.1⟩

/-- A machine that jumps on the spot while its delay timer is running. -/
def goingDown : Session :=
  watching "DT"
    { Machine.ofWord 0x10 0x00 .everyCycle with
      registers := { Registers.initial with pc := 0, delay := 5 } }

/-- A machine that sets its delay timer to one more than it is. -/
def restored : Session :=
  watching "DT"
    { Machine.ofWord 0xF0 0x15 .everyCycle with
      registers := { Registers.initial.set 0 5 with pc := 0, delay := 4 } }

/-- **A timer is not watched like that.**  The first tick of one machine takes its timer down, and a
run of one step does not stop; the first tick of another leaves the value that was there, and a run
stops. -/
theorem timer_change_missed :
    (goingDown.Changes "DT" 0 ∧ (run 2 (some 1) none goingDown).result = .ok .paused ∧
      ¬ goingDown.StopsAtFirst (goingDown.Changes "DT")) ∧
    (¬ restored.Changes "DT" 0 ∧ (run 1 (some 1) none restored).result = .ok .breakpoint ∧
      ¬ restored.StopsAtFirst (restored.Changes "DT")) := by
  refine ⟨?_, ?_⟩
  · have changes : goingDown.Changes "DT" 0 := by
      refine ⟨_, _, rfl, rfl, ?_⟩
      decide
    have paused : (run 2 (some 1) none goingDown).result = .ok .paused := by rfl
    refine ⟨changes, paused, fun stops => ?_⟩
    have within_limit : ∀ n, some 1 = some n → 0 < n := by
      rintro n ⟨⟩
      exact Nat.one_pos
    have stopped := (stops.stops (some 1) 2 0 ⟨changes, fun j earlier => nomatch earlier⟩
      within_limit Nat.two_pos).1
    rw [show limitOf (some 1) = some 1 from rfl, paused] at stopped
    cases stopped
  · have unchanged : ¬ restored.Changes "DT" 0 := by
      rintro ⟨before, after, reached, next, changed⟩
      cases reached
      cases next
      exact changed (by decide)
    have hit : (run 1 (some 1) none restored).result = .ok .breakpoint := by rfl
    refine ⟨unchanged, hit, fun stops => ?_⟩
    obtain ⟨k, first, within, _⟩ := stops.only (some 1) 1 hit
    obtain rfl : k = 0 := Nat.lt_one_iff.mp (within 1 rfl)
    exact unchanged first.1

end Session

end Chip8
