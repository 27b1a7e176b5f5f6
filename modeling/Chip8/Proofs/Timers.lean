import Chip8.Proofs.Footprint

/-!
# The timers over a run

A timer is given a value by the instruction that sets it, and goes down by the ticks that the source
gives after every cycle.  Nothing else changes it: a tick that fails takes nothing from the source
and leaves both timers alone, as the instructions that set them cannot fail once they are fetched.

What one tick does to a timer is said once (`timer_tick`).  Ticks add up, whichever way they come
(`Timer.left_left`), so that after any run a timer is what is left of the value that it was given
last, after the positive ticks taken since then (`timers_count_down`).
-/

namespace Chip8

set_option autoImplicit false

/-- The two timers. -/
inductive Timer where
  | delay
  | sound
  deriving DecidableEq, Repr

namespace Timer

/-- The lower byte of the words that set a timer. -/
def code : Timer → Nat
  | delay => 0x15
  | sound => 0x18

/-- The instruction that gives a timer the value of a register. -/
def setter : Timer → Int → Instruction
  | delay => .setDelay
  | sound => .setSound

/-- The part of a machine that a timer is. -/
def part : Timer → Part
  | delay => .delay
  | sound => .sound

/-- What is left of a value after a number of ticks.  Without a tick that is the value itself, also
if it is below zero. -/
def left (value ticks : Int) : Int := if ticks ≤ 0 then value else max 0 (value - ticks)

theorem left_of_nonneg {value ticks : Int} (nonneg : 0 ≤ value) (positive : 0 ≤ ticks) :
    left value ticks = max 0 (value - ticks) := by
  unfold left
  split
  · omega
  · rfl

theorem left_nonneg {value : Int} (nonneg : 0 ≤ value) (ticks : Int) : 0 ≤ left value ticks := by
  unfold left
  split
  · exact nonneg
  · exact Int.le_max_left _ _

@[simp] theorem left_zero (value : Int) : left value 0 = value := rfl

/-- Only positive ticks count. -/
theorem left_max (value ticks : Int) : left value (max 0 ticks) = left value ticks := by
  by_cases positive : 0 < ticks
  · rw [show max 0 ticks = ticks by omega]
  · rw [show max 0 ticks = 0 by omega, left_zero, left, if_pos (by omega)]

/-- **Ticks add up**, whichever way they come. -/
theorem left_left (value : Int) {some more : Int} (nonneg : 0 ≤ some) (nonneg_more : 0 ≤ more) :
    left (left value some) more = left value (some + more) := by
  unfold left
  split
  · rw [show some + more = some by omega]
  · split
    · rw [if_neg (by omega), show some = 0 by omega, Int.zero_add]
    · rw [if_neg (by omega)]
      omega

theorem denotes_setter (timer : Timer) {op : Opcode} (family : op.family = 0xF000)
    (low : op.nn = timer.code) : Instruction.Denotes op (timer.setter op.x) := by
  cases timer with
  | delay => exact .setDelay family low
  | sound => exact .setSound family low

end Timer

namespace Registers

/-- The value of a timer. -/
def timer (r : Registers) : Timer → Int
  | .delay => r.delay
  | .sound => r.sound

@[simp] theorem timer_elapse (r : Registers) (ticks : Int) (timer : Timer) :
    (r.elapse ticks).timer timer = Timer.left (r.timer timer) ticks := by
  unfold elapse Timer.left
  split
  · rfl
  · cases timer with
    | delay => rfl
    | sound => rfl

theorem SameBut.timer {parts : List Part} {r after : Registers} (same : r.SameBut parts after)
    {timer : Timer} (absent : timer.part ∉ parts) : after.timer timer = r.timer timer := by
  cases timer with
  | delay => exact same.delay absent
  | sound => exact same.sound absent

end Registers

namespace Machine

variable {m after : Machine} {timer : Timer} {record : Snapshot Registers} {fault : Fault}
  {events : List Event}

/-! ## One cycle -/

/-- The word at the program counter sets a timer. -/
def Sets (timer : Timer) (m : Machine) : Prop :=
  m.word / 0x1000 = 0xF ∧ m.word % 0x100 = timer.code

instance (timer : Timer) (m : Machine) : Decidable (m.Sets timer) :=
  inferInstanceAs (Decidable (_ ∧ _))

/-- The word at the program counter reads the delay timer. -/
def ReadsDelay (m : Machine) : Prop := m.word / 0x1000 = 0xF ∧ m.word % 0x100 = 0x07

/-- The second digit of the word at the program counter, which names a register. -/
def place (m : Machine) : Nat := m.word / 0x100 % 0x10

/-- The value of the register that the word at the program counter names. -/
def named (m : Machine) : Nat := m.registers.get m.place

/-- **A cycle that sets a timer succeeds**, once its word is fetched. -/
theorem step_of_sets (inside : m.Inside) (sets : m.Sets timer) :
    ∃ after record, step m = ⟨after, .ok record, []⟩ ∧
      after.registers.timer timer = m.named := by
  obtain ⟨family, low⟩ := sets
  have denotes : Instruction.Denotes m.opcode (timer.setter m.opcode.x) :=
    timer.denotes_setter (family_of_head family) (nn_of_low low)
  rw [named, place, ← opcode_x]
  cases timer with
  | delay => exact ⟨_, _, step_of_effect inside denotes rfl, rfl⟩
  | sound => exact ⟨_, _, step_of_effect inside denotes rfl, rfl⟩

/-- Any other cycle leaves the timer alone, also if it fails. -/
theorem timer_step_of_other (other : ¬ m.Sets timer) :
    (step m).state.registers.timer timer = m.registers.timer timer := by
  refine m.step_changes_only.registers.timer ?_
  cases timer with
  | delay => exact not_touched other nofun
  | sound => exact not_touched other nofun

/-- A cycle that fails leaves the timers alone. -/
theorem timer_of_failed_step (failed : step m = ⟨after, .error fault, events⟩) (timer : Timer) :
    after.registers.timer timer = m.registers.timer timer := by
  by_cases inside : m.Inside
  · by_cases sets : m.Sets timer
    · obtain ⟨_, _, succeeded, _⟩ := step_of_sets inside sets
      rw [succeeded] at failed
      cases failed
    · have same := timer_step_of_other sets
      rw [failed] at same
      exact same
  · rw [step_of_outside inside] at failed
    cases failed
    rfl

/-- A cycle that succeeds gives a timer the value of the register, if its word sets the timer. -/
theorem timer_of_cycle (cycle : step m = ⟨after, .ok record, events⟩) (timer : Timer) :
    after.registers.timer timer =
      if m.Sets timer then (m.named : Int) else m.registers.timer timer := by
  split
  · next sets =>
      obtain ⟨last, _, succeeded, value⟩ := step_of_sets (step_ok cycle).1 sets
      rw [cycle] at succeeded
      cases succeeded
      exact value
  · next other =>
      have same := timer_step_of_other other
      rw [cycle] at same
      exact same

/-- A cycle that reads the delay timer puts its value into the register. -/
theorem register_of_read (cycle : step m = ⟨after, .ok record, events⟩)
    (reads : m.ReadsDelay) : after.registers.get m.place = m.registers.delay.toNat := by
  obtain ⟨family, low⟩ := reads
  have denotes : Instruction.Denotes m.opcode (.readDelay m.opcode.x) :=
    .readDelay (family_of_head family) (nn_of_low low)
  obtain ⟨executed, _, read, rfl, _⟩ := executed_of_cycle denotes cycle
  cases read
  rw [place, ← opcode_x]
  exact (Registers.get_set _ _ _ _).trans (if_pos rfl)

/-! ## One tick -/

/-- The value that the tick of a machine gives a timer, if it succeeds and gives one. -/
def given? (timer : Timer) (m : Machine) : Option Nat :=
  match (tick m).result with
  | .ok _ => if m.Sets timer then some m.named else none
  | .error _ => none

/-- The positive ticks that the tick of a machine takes from the source, if it succeeds. -/
def taken (m : Machine) : Int :=
  match (tick m).result, (TickSource.take m.devices.ticks).result with
  | .ok _, .ok count => max 0 count
  | _, _ => 0

/-- The source of ticks gives a number at the next look. -/
def Answers (m : Machine) : Prop :=
  ∃ count, (TickSource.take m.devices.ticks).result = .ok count

theorem taken_nonneg (m : Machine) : 0 ≤ m.taken := by
  unfold taken
  split
  · exact Int.le_max_left _ _
  · exact Int.le_refl 0

theorem ticks_step (m : Machine) : (step m).state.devices.ticks = m.devices.ticks :=
  m.step_changes_only.ticks

/-- A tick with a source that answers succeeds together with its cycle. -/
theorem tick_of_answer (cycle : step m = ⟨after, .ok record, events⟩) {count : Int}
    (answers : (TickSource.take m.devices.ticks).result = .ok count) :
    tick m =
      ⟨{ after with
          devices.ticks := (TickSource.take m.devices.ticks).state
          registers := after.registers.elapse count },
        .ok record, events ++ (TickSource.take m.devices.ticks).events⟩ := by
  have same : after.devices.ticks = m.devices.ticks := by
    have kept := m.ticks_step
    rw [cycle] at kept
    exact kept
  rw [← same] at answers ⊢
  rw [tick_of_ok cycle, updateTimers_of_ok answers]
  rfl

/-- A tick that succeeds has taken a number from the source after its cycle. -/
theorem cycle_of_tick (ticked : (tick m).result = .ok record) :
    ∃ middle reported count, step m = ⟨middle, .ok record, reported⟩ ∧
      (TickSource.take m.devices.ticks).result = .ok count ∧
      (tick m).state =
        { middle with
          devices.ticks := (TickSource.take m.devices.ticks).state
          registers := middle.registers.elapse count } := by
  rcases outcome : tick m with ⟨last, result, events⟩
  rw [outcome] at ticked
  cases ticked
  obtain ⟨middle, reported, count, cycle, answer, rfl⟩ := tick_ok outcome
  have same := m.ticks_step
  rw [cycle] at same
  simp only at same
  rw [same] at answer ⊢
  exact ⟨middle, reported, count, cycle, answer, rfl⟩

/-- **A tick that fails** takes nothing from a source that answers, and leaves both timers alone. -/
theorem unchanged_of_failed_tick (answers : m.Answers) (failed : (tick m).result = .error fault) :
    (tick m).state.devices.ticks = m.devices.ticks ∧
      ∀ timer, (tick m).state.registers.timer timer = m.registers.timer timer := by
  obtain ⟨count, answer⟩ := answers
  rcases ran : step m with ⟨after, result, events⟩
  cases result with
  | ok record =>
      rw [tick_of_answer ran answer] at failed
      cases failed
  | error reason =>
      have ticks := m.ticks_step
      rw [ran] at ticks
      rw [tick_of_error ran]
      exact ⟨ticks, timer_of_failed_step ran⟩

/-- **What a tick does to a timer**: it is given a value or keeps its own, and then goes down by the
ticks that are taken. -/
theorem timer_tick (answers : m.Answers) (timer : Timer) :
    (tick m).state.registers.timer timer =
      Timer.left (((m.given? timer).map Int.ofNat).getD (m.registers.timer timer)) m.taken := by
  obtain ⟨count, answer⟩ := answers
  rcases ran : step m with ⟨after, result, events⟩
  cases result with
  | error fault =>
      have failed : (tick m).result = .error fault := by rw [tick_of_error ran]
      obtain ⟨_, kept⟩ := unchanged_of_failed_tick ⟨count, answer⟩ failed
      rw [kept timer, given?, taken, failed]
      rfl
  | ok record =>
      rw [given?, taken, tick_of_answer ran answer, answer]
      simp only [Registers.timer_elapse, Timer.left_max, timer_of_cycle ran timer]
      split
      · rfl
      · rfl

/-! ## Runs of ticks -/

/-- Ticks were made at these machines, from one machine to another.  Between two ticks anything may
change but the timers. -/
inductive Ticked : Machine → List Machine → Machine → Prop where
  | rest {m after : Machine} :
      (∀ timer, after.registers.timer timer = m.registers.timer timer) → Ticked m [] after
  | tick {m before after : Machine} {later : List Machine} :
      (∀ timer, before.registers.timer timer = m.registers.timer timer) →
      Ticked (tick before).state later after → Ticked m (before :: later) after

/-- The value that a timer was given last, and the ticks that were made since: those after the value
that it had at the start, or those from the tick on that gave it the value. -/
inductive LastGiven (timer : Timer) (start : Int) : List Machine → Int → List Machine → Prop where
  | never {made : List Machine} : (∀ before ∈ made, before.given? timer = none) →
      LastGiven timer start made start made
  | given (early : List Machine) {late : List Machine} {before : Machine} {value : Nat} :
      before.given? timer = some value → (∀ later ∈ late, later.given? timer = none) →
      LastGiven timer start (early ++ before :: late) value (before :: late)

/-- The sum of the positive ticks that were taken. -/
def spent : List Machine → Int
  | [] => 0
  | before :: later => before.taken + spent later

theorem spent_nonneg (made : List Machine) : 0 ≤ spent made := by
  induction made with
  | nil => exact Int.le_refl 0
  | cons before later ih =>
      have first := before.taken_nonneg
      rw [spent]
      omega

/-- A timer always has a value that it was given last. -/
theorem exists_lastGiven (timer : Timer) (start : Int) (made : List Machine) :
    ∃ value since, LastGiven timer start made value since := by
  induction made with
  | nil => exact ⟨start, [], .never fun before inside => by cases inside⟩
  | cons first later ih =>
      obtain ⟨value, since, last⟩ := ih
      cases last with
      | given early gives quiet => exact ⟨_, _, .given (first :: early) gives quiet⟩
      | never quiet =>
          cases gives : first.given? timer with
          | none => exact ⟨start, _, .never (List.forall_mem_cons.mpr ⟨gives, quiet⟩)⟩
          | some value => exact ⟨value, _, .given [] gives quiet⟩

/-- A run goes on from the first tick with the value that this tick has left, unless a later one
gives another. -/
theorem LastGiven.tail {first : Machine} {later since : List Machine} {start value : Int}
    (last : LastGiven timer start (first :: later) value since) (answers : first.Answers)
    (same : first.registers.timer timer = start) :
    ∃ value' since', LastGiven timer ((Machine.tick first).state.registers.timer timer) later
        value' since' ∧
      Timer.left value' (spent since') = Timer.left value (spent since) := by
  have ticked := timer_tick answers timer
  have add_up (from_start : Int) : Timer.left (Timer.left from_start first.taken) (spent later) =
      Timer.left from_start (spent (first :: later)) :=
    Timer.left_left from_start first.taken_nonneg (spent_nonneg later)
  generalize whole : first :: later = made at last
  cases last with
  | never quiet =>
      subst whole
      obtain ⟨nothing, quiet_later⟩ := List.forall_mem_cons.mp quiet
      refine ⟨_, later, .never quiet_later, ?_⟩
      rw [ticked, nothing, same]
      exact add_up start
  | @given early late before value gives quiet =>
      cases early with
      | nil =>
          cases whole
          refine ⟨_, later, .never quiet, ?_⟩
          rw [ticked, gives]
          exact add_up value
      | cons other early =>
          cases whole
          exact ⟨value, before :: late, .given early gives quiet, rfl⟩

/-- After a run a timer is what is left of the value that it was given last. -/
theorem Ticked.left {made : List Machine} (ran : Ticked m made after)
    (answering : ∀ before ∈ made, before.Answers) {value : Int} {since : List Machine}
    (last : LastGiven timer (m.registers.timer timer) made value since) :
    after.registers.timer timer = Timer.left value (spent since) := by
  induction ran generalizing value since with
  | rest same =>
      generalize whole : ([] : List Machine) = made at last
      cases last with
      | never _ =>
          subst whole
          exact same timer
      | given early _ _ =>
          -- a run without ticks has no tick that gives a value
          cases early with
          | nil => cases whole
          | cons _ _ => cases whole
  | @tick m before after later same _ ih =>
      obtain ⟨answers, answering_later⟩ := List.forall_mem_cons.mp answering
      obtain ⟨value', since', last', equal⟩ := last.tail answers (same timer)
      rw [← equal]
      exact ih answering_later last'

/-- In a run that starts with timers that are not below zero, no tick finds a timer below zero. -/
theorem Ticked.nonneg {made : List Machine} (ran : Ticked m made after)
    (answering : ∀ before ∈ made, before.Answers) (timer : Timer)
    (nonneg : 0 ≤ m.registers.timer timer) :
    ∀ before ∈ made, 0 ≤ before.registers.timer timer := by
  induction ran with
  | rest _ =>
      intro before inside
      cases inside
  | @tick m first after later same _ ih =>
      obtain ⟨answers, answering_later⟩ := List.forall_mem_cons.mp answering
      refine List.forall_mem_cons.mpr ⟨by rwa [same timer], ih answering_later ?_⟩
      rw [timer_tick answers timer]
      refine Timer.left_nonneg ?_ _
      cases first.given? timer with
      | none => rwa [Option.map_none, Option.getD_none, same timer]
      | some value => exact Int.natCast_nonneg value

/-- What the timers and the source of ticks do over a run. -/
structure CountsDown (m : Machine) (made : List Machine) (after : Machine) : Prop where
  given : ∀ timer, ∃ value since, LastGiven timer (m.registers.timer timer) made value since
  left : ∀ timer value since, LastGiven timer (m.registers.timer timer) made value since →
    after.registers.timer timer = Timer.left value (spent since)
  /-- Values that instructions give are not below zero.  A value from the start can be, if a host
  has written it. -/
  saturates : ∀ timer value since, LastGiven timer (m.registers.timer timer) made value since →
    0 ≤ value → after.registers.timer timer = max 0 (value - spent since)
  /-- A tick that succeeds takes one number from the source. -/
  takes : ∀ before ∈ made, ∀ record, (tick before).result = .ok record →
    ∃ count, (TickSource.take before.devices.ticks).result = .ok count ∧
      before.taken = max 0 count ∧
      (tick before).state.devices.ticks = (TickSource.take before.devices.ticks).state
  /-- The delay timer is read before it goes down. -/
  reads : 0 ≤ m.registers.delay → ∀ before ∈ made, ∀ record, (tick before).result = .ok record →
    before.ReadsDelay → ((tick before).state.registers.get before.place : Int) =
      before.registers.delay
  /-- A tick that fails takes nothing, and leaves the timers alone. -/
  fails : ∀ before ∈ made, ∀ fault, (tick before).result = .error fault →
    before.taken = 0 ∧ (tick before).state.devices.ticks = before.devices.ticks ∧
      ∀ timer, (tick before).state.registers.timer timer = before.registers.timer timer

/-- **The timers count down.**  In every run of ticks with a source that always answers, a timer is
what is left of the value that it was given last after the sum of the positive ticks that were taken
since, whichever way they came. -/
theorem timers_count_down {made : List Machine} (ran : Ticked m made after)
    (answering : ∀ before ∈ made, before.Answers) : CountsDown m made after where
  given := fun timer => exists_lastGiven timer _ made
  left := fun timer value since last => ran.left answering last
  saturates := by
    intro timer value since last nonneg
    rw [ran.left answering last, Timer.left_of_nonneg nonneg (spent_nonneg since)]
  takes := by
    intro before _ record ticked
    obtain ⟨_, _, count, _, answer, after_tick⟩ := cycle_of_tick ticked
    exact ⟨count, answer, by rw [taken, ticked, answer], by rw [after_tick]⟩
  reads := by
    intro nonneg before inside record ticked reads
    have value := ran.nonneg answering .delay nonneg before inside
    obtain ⟨_, _, _, cycle, _, after_tick⟩ := cycle_of_tick ticked
    have read := register_of_read cycle reads
    rw [after_tick, Registers.get, Registers.v_elapse, ← Registers.get, read]
    exact Int.toNat_of_nonneg value
  fails := by
    intro before inside fault failed
    have untaken : before.taken = 0 := by
      rw [taken, failed]
    exact ⟨untaken, unchanged_of_failed_tick (answering before inside) failed⟩

/-- A machine that sets its delay timer to five, reads it and returns from no call, with three
numbers of ticks, of which the first is negative. -/
def timing : Machine :=
  { ofWord 0x60 0x05 (.listed [-3, 2, 1]) with
    memory := ⟨#[0x60, 0x05, 0xF0, 0x15, 0xF1, 0x07, 0x00, 0xEE], ⟨2, []⟩, []⟩ }

/-- That machine after some ticks. -/
def timingAfter : Nat → Machine
  | 0 => timing
  | ticks + 1 => (tick (timingAfter ticks)).state

/-- Its delay timer is read at three, after two of the ticks, and is two in the end; its last tick
fails. -/
theorem timers_count_down_from_five :
    Ticked timing [timingAfter 0, timingAfter 1, timingAfter 2, timingAfter 3] (timingAfter 4) ∧
      (timingAfter 1).given? .delay = some 5 ∧
      spent [timingAfter 1, timingAfter 2, timingAfter 3] = 3 ∧
      ((timingAfter 3).registers.get 1 : Int) = 3 ∧
      (tick (timingAfter 3)).result = .error .stackUnderflow ∧
      (timingAfter 4).registers.delay = 2 := by
  have same (m : Machine) (timer : Timer) : m.registers.timer timer = m.registers.timer timer := rfl
  have ran : Ticked timing [timingAfter 0, timingAfter 1, timingAfter 2, timingAfter 3]
      (timingAfter 4) :=
    .tick (same timing) (.tick (same (timingAfter 1)) (.tick (same (timingAfter 2))
      (.tick (same (timingAfter 3)) (.rest (same (timingAfter 4))))))
  have answering : ∀ before ∈ [timingAfter 0, timingAfter 1, timingAfter 2, timingAfter 3],
      before.Answers :=
    List.forall_mem_cons.mpr ⟨⟨-3, rfl⟩, List.forall_mem_cons.mpr ⟨⟨2, rfl⟩,
      List.forall_mem_cons.mpr ⟨⟨1, rfl⟩, List.forall_mem_singleton.mpr ⟨0, rfl⟩⟩⟩⟩
  have counts := timers_count_down ran answering
  have quiet : ∀ later ∈ [timingAfter 2, timingAfter 3], later.given? .delay = none :=
    List.forall_mem_cons.mpr ⟨rfl, List.forall_mem_singleton.mpr rfl⟩
  have last : LastGiven .delay 0
      [timingAfter 0, timingAfter 1, timingAfter 2, timingAfter 3] (5 : Nat)
      [timingAfter 1, timingAfter 2, timingAfter 3] :=
    .given [timingAfter 0] rfl quiet
  have read := counts.reads (Int.le_refl 0) (timingAfter 2) (.tail _ (.tail _ (.head _))) _ rfl
    ⟨rfl, rfl⟩
  have value := counts.saturates .delay _ _ last (Int.natCast_nonneg 5)
  exact ⟨ran, rfl, rfl, read, rfl, value⟩

end Machine

end Chip8
