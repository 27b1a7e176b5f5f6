import Chip8.Timer
import Mathlib.Data.Rat.Floor
import Mathlib.Tactic.FieldSimp
import Mathlib.Tactic.Linarith

/-!
# The ticks of an exact clock

Ticks are counted from the reference time, and taking them moves the reference on by as many
periods, so that the started period is carried over.  With exact numbers nothing is lost in this way
and nothing is counted twice: however uneven the looks at the clock are, all ticks together are the
whole periods between the start and the largest reading that was seen (`no_tick_lost`).

A clock that goes backwards does not matter.  A quotient is cut off towards zero, so that a reading
below the largest one gives no positive count, and only positive counts are taken.
-/

namespace Chip8

set_option autoImplicit false

/-- The whole number next to an exact number on the side of zero. -/
def towardsZero (q : ℚ) : Int := if 0 ≤ q then ⌊q⌋ else ⌈q⌉

theorem towardsZero_of_nonneg {q : ℚ} (nonneg : 0 ≤ q) : towardsZero q = ⌊q⌋ := if_pos nonneg

theorem towardsZero_nonpos {q : ℚ} (below : q < 1) : towardsZero q ≤ 0 := by
  unfold towardsZero
  split
  next => exact Int.lt_add_one_iff.mp (Int.floor_lt.mpr (by simpa using below))
  next negative => exact Int.ceil_nonpos.mpr (le_of_lt (not_le.mp negative))

/-- Exact seconds.  Nothing goes wrong with them; what is divided by, a rate or a period, is not
zero. -/
instance : Seconds ℚ where
  ofInt n := n
  add a b := .ok (a + b)
  sub a b := .ok (a - b)
  mul a b := .ok (a * b)
  div a b := .ok (a / b)
  truncate q := .ok (towardsZero q)

namespace ClockTicks

section Looks

variable {α : Type} [Seconds α]

/-- A look at the clock when it shows a reading: the count of ticks that are due, which are
taken. -/
def look (clock : ClockTicks α) (reading : α) : Except Fault (Int × ClockTicks α) := do
  let now := { clock with reading := reading }
  let count ← now.due
  let next ← now.take count
  .ok (count, next)

/-- Looks one after another, at the given readings. -/
def looks (clock : ClockTicks α) : List α → Except Fault (List Int × ClockTicks α)
  | [] => .ok ([], clock)
  | reading :: later => do
    let (count, next) ← clock.look reading
    let (counts, last) ← next.looks later
    .ok (count :: counts, last)

/-- A clock that is restarted when it shows a reading. -/
def restartAt (clock : ClockTicks α) (reading : α) : ClockTicks α :=
  { clock with reading := reading }.restart

/-- The clocks at a rate: a new one, one after a look, and one that is restarted. -/
inductive Running (rate : α) : ClockTicks α → Prop where
  | new {reading : α} {clock : ClockTicks α} :
      atRate rate reading = .ok clock → Running rate clock
  | look {clock next : ClockTicks α} {reading : α} {count : Int} :
      Running rate clock → clock.look reading = .ok (count, next) → Running rate next
  | restart {clock : ClockTicks α} (reading : α) :
      Running rate clock → Running rate (clock.restartAt reading)

/-- A clock that has just been started at a reading: a new one, or one that is restarted. -/
inductive Started (rate start : α) : ClockTicks α → Prop where
  | new {clock : ClockTicks α} : atRate rate start = .ok clock → Started rate start clock
  | restart {clock : ClockTicks α} :
      Running rate clock → Started rate start (clock.restartAt start)

end Looks

/-- A look is what a source of ticks does that has a clock. -/
theorem take_clock (clock : ClockTicks ClockTime) :
    TickSource.take (.clock clock) =
      match clock.look clock.reading with
      | .ok (count, next) => ⟨.clock next, .ok count, (TickSource.clock clock).report count⟩
      | .error fault => ⟨.clock clock, .error fault, []⟩ := by
  unfold TickSource.take look
  simp only [TickSource.due, TickSource.rest]
  cases clock.due with
  | error fault => rfl
  | ok count =>
      simp only
      cases taken : clock.take count with
      | error fault => simp [taken, bind, Except.bind, Except.map]
      | ok next => simp [taken, bind, Except.bind, Except.map]

variable {rate start largest reading : ℚ} {clock next : ClockTicks ℚ} {count total : Int}

/-! ## One look -/

/-- How many ticks are due at a reading. -/
def dueAt (clock : ClockTicks ℚ) (reading : ℚ) : Int :=
  towardsZero ((reading - clock.reference) / clock.period)

theorem look_of_pos (positive : 0 < clock.dueAt reading) :
    clock.look reading = .ok (clock.dueAt reading,
      ⟨clock.period, clock.reference + clock.dueAt reading * clock.period, reading⟩) := by
  have taken : ({ clock with reading := reading } : ClockTicks ℚ).take (clock.dueAt reading) =
      .ok ⟨clock.period, clock.reference + clock.dueAt reading * clock.period, reading⟩ :=
    if_pos positive
  exact congrArg (Except.map fun next => (clock.dueAt reading, next)) taken

theorem look_of_nonpos (nonpos : clock.dueAt reading ≤ 0) :
    clock.look reading = .ok (clock.dueAt reading, { clock with reading := reading }) := by
  have taken : ({ clock with reading := reading } : ClockTicks ℚ).take (clock.dueAt reading) =
      .ok { clock with reading := reading } :=
    if_neg (Int.not_lt.mpr nonpos)
  exact congrArg (Except.map fun next => (clock.dueAt reading, next)) taken

/-- What a look does to a clock, in any case. -/
theorem look_ok (looked : clock.look reading = .ok (count, next)) :
    count = clock.dueAt reading ∧ next.period = clock.period ∧
      next.reference = clock.reference + (max 0 count : Int) * clock.period := by
  by_cases positive : 0 < clock.dueAt reading
  · rw [look_of_pos positive] at looked
    cases looked
    rw [max_eq_right positive.le]
    exact ⟨rfl, rfl, rfl⟩
  · have nonpos := Int.not_lt.mp positive
    rw [look_of_nonpos nonpos] at looked
    cases looked
    rw [max_eq_left nonpos, Int.cast_zero, zero_mul, add_zero]
    exact ⟨rfl, rfl, rfl⟩

/-- **A count that is not positive leaves the reference time alone.** -/
theorem reference_of_nonpos (looked : clock.look reading = .ok (count, next)) (nonpos : count ≤ 0) :
    next.reference = clock.reference := by
  rw [(look_ok looked).2.2, max_eq_left nonpos, Int.cast_zero, zero_mul, add_zero]

/-! ## All looks -/

/-- The account of a clock that was started at a reading: the total of the ticks that were taken is
that of the whole periods up to the largest reading, and the reference time lies that far ahead of
the start. -/
structure Accounts (rate start largest : ℚ) (total : Int) (clock : ClockTicks ℚ) : Prop where
  period : clock.period = 1 / rate
  reference : clock.reference = start + total * clock.period
  total : total = ⌊(largest - start) * rate⌋

/-- **A look keeps the account**, wherever the clock stands. -/
theorem Accounts.look (accounts : Accounts rate start largest total clock) (positive : 0 < rate)
    (looked : clock.look reading = .ok (count, next)) :
    Accounts rate start (max largest reading) (total + max 0 count) next := by
  obtain ⟨rfl, period, reference⟩ := look_ok looked
  refine ⟨period.trans accounts.period, ?_, ?_⟩
  · rw [reference, period, accounts.reference]
    push_cast
    ring
  · have quotient : (reading - clock.reference) / clock.period =
        (reading - start) * rate - total := by
      rw [accounts.reference, accounts.period]
      field_simp
      ring
    rw [dueAt, quotient]
    rcases le_total reading largest with earlier | later
    · -- below the largest reading less than a period is left over
      have bound : (reading - start) * rate ≤ (largest - start) * rate :=
        mul_le_mul_of_nonneg_right (sub_le_sub_right earlier start) positive.le
      have left_over : (reading - start) * rate - total < 1 := by
        have under := Int.lt_floor_add_one ((largest - start) * rate)
        rw [← accounts.total] at under
        linarith only [bound, under]
      rw [max_eq_left earlier, max_eq_left (towardsZero_nonpos left_over), add_zero]
      exact accounts.total
    · have bound : (largest - start) * rate ≤ (reading - start) * rate :=
        mul_le_mul_of_nonneg_right (sub_le_sub_right later start) positive.le
      have nonneg : 0 ≤ (reading - start) * rate - total := by
        have above := Int.floor_le ((largest - start) * rate)
        rw [← accounts.total] at above
        linarith only [bound, above]
      rw [max_eq_right later, towardsZero_of_nonneg nonneg,
        max_eq_right (Int.floor_nonneg.mpr nonneg), Int.floor_sub_intCast]
      omega

/-- The ticks that were taken in all: the sum of the positive counts. -/
def taken (counts : List Int) : Int := (counts.filter (0 < ·)).sum

theorem taken_cons (count : Int) (counts : List Int) :
    taken (count :: counts) = max 0 count + taken counts := by
  rw [taken, List.filter_cons]
  by_cases positive : 0 < count
  · rw [if_pos (decide_eq_true positive), List.sum_cons, max_eq_right positive.le]
    rfl
  · rw [if_neg (by simpa using positive), max_eq_left (Int.not_lt.mp positive), zero_add]
    rfl

/-- **Looks keep the account**, and none of them fails. -/
theorem Accounts.looks (positive : 0 < rate) (readings : List ℚ)
    (accounts : Accounts rate start largest total clock) :
    ∃ counts last, clock.looks readings = .ok (counts, last) ∧
      counts.length = readings.length ∧
      Accounts rate start (readings.foldl max largest) (total + taken counts) last := by
  induction readings generalizing clock largest total with
  | nil => exact ⟨[], clock, rfl, rfl, by simpa [taken] using accounts⟩
  | cons reading later ih =>
      obtain ⟨count, next, looked⟩ : ∃ count next, clock.look reading = .ok (count, next) := by
        rcases lt_or_ge 0 (clock.dueAt reading) with positive | nonpos
        · exact ⟨_, _, look_of_pos positive⟩
        · exact ⟨_, _, look_of_nonpos nonpos⟩
      obtain ⟨counts, last, all_looked, length, kept⟩ := ih (accounts.look positive looked)
      refine ⟨count :: counts, last, ?_, congrArg (· + 1) length, ?_⟩
      · rw [ClockTicks.looks, looked]
        exact congrArg (Except.map fun rest => (count :: rest.1, rest.2)) all_looked
      · rw [taken_cons, ← add_assoc]
        exact kept

/-! ## Clocks that are started -/

theorem Running.period (running : Running rate clock) : clock.period = 1 / rate := by
  induction running with
  | new made =>
      cases made
      exact congrArg (· / rate) Int.cast_one
  | look _ looked ih => exact (look_ok looked).2.1.trans ih
  | restart _ _ ih => exact ih

/-- A clock that has just been started has an account of no ticks. -/
theorem Started.accounts (started : Started rate start clock) :
    Accounts rate start start 0 clock := by
  have none : (0 : Int) = ⌊(start - start) * rate⌋ := by rw [sub_self, zero_mul, Int.floor_zero]
  cases started with
  | new made =>
      have period := (Running.new made).period
      cases made
      exact ⟨period, by simp, none⟩
  | restart running => exact ⟨running.period, by simp [restartAt, ClockTicks.restart], none⟩

/-- **No tick is lost and none is counted twice.**  Whatever a clock shows since it was started,
also if it goes backwards, the ticks that were taken are the whole periods up to its largest
reading, and the reference time is the end of the last of them. -/
theorem no_tick_lost (positive : 0 < rate) (started : Started rate start clock)
    (readings : List ℚ) :
    ∃ counts last, clock.looks readings = .ok (counts, last) ∧
      counts.length = readings.length ∧
      taken counts = ⌊(readings.foldl max start - start) * rate⌋ ∧
      last.reference = start + taken counts * last.period ∧ last.period = 1 / rate ∧
      ∀ reading count next, last.look reading = .ok (count, next) → count ≤ 0 →
        next.reference = last.reference := by
  obtain ⟨counts, last, looked, length, accounts⟩ := started.accounts.looks positive readings
  rw [zero_add] at accounts
  exact ⟨counts, last, looked, length, accounts.total, accounts.reference, accounts.period,
    fun _ _ _ => reference_of_nonpos⟩

/-- A clock at sixty ticks a second that is started at three seconds and restarted at ten. -/
def restarted : ClockTicks ℚ := (⟨1 / 60, 3, 3⟩ : ClockTicks ℚ).restartAt 10

/-- It goes on by two thirds of a second, back to nine seconds and then on to a little more than
eleven: sixty ticks are taken, and the reference time is at eleven seconds. -/
theorem sixty_ticks_in_a_second :
    Started 60 10 restarted ∧
      ∃ counts last, restarted.looks [10 + 2 / 3, 9, 11 + 1 / 100] = .ok (counts, last) ∧
        taken counts = 60 ∧ last.reference = 11 := by
  have made : atRate (60 : ℚ) 3 = .ok ⟨1 / 60, 3, 3⟩ := by decide +kernel
  have started : Started 60 10 restarted := .restart (.new made)
  obtain ⟨counts, last, looked, _, total, reference, period, _⟩ :=
    no_tick_lost (by norm_num) started [10 + 2 / 3, 9, 11 + 1 / 100]
  have sixty : taken counts = 60 := total.trans (by decide +kernel)
  refine ⟨started, counts, last, looked, sixty, ?_⟩
  rw [reference, period, sixty]
  norm_num

end ClockTicks

end Chip8
