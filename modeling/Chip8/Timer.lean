import Chip8.Action
import Chip8.Decimal.Binary

/-!
# Timer ticks

The two timers of the machine go down by one at every tick.  Where the ticks come
from is a choice: one for every look, or as many as a clock says are due, or a list
written beforehand.

The clock measures seconds.  A tick is due whenever a full period has passed since
the reference time; taking ticks moves the reference forward by exactly that many
periods, so that the started period is carried over.  A clock that goes backwards
gives a negative count and leaves the reference alone, and a clock from whose reading no
number follows is a fault that changes nothing.  The arithmetic of seconds is a
parameter: with the numbers of a clock the machine runs, with exact ones it can be
reasoned about.
-/

namespace Chip8

set_option autoImplicit false

/-- The arithmetic of a clock, which can leave the numbers that there are. -/
class Seconds (α : Type) where
  ofInt : Int → α
  add : α → α → Except Fault α
  sub : α → α → Except Fault α
  mul : α → α → Except Fault α
  div : α → α → Except Fault α
  /-- The whole number next to a value on the side of zero, if the value has one. -/
  truncate : α → Except Fault Int

/-- A number of seconds on a clock: a whole number, which is exact, or a double. -/
inductive ClockTime where
  | whole (seconds : Int)
  | real (seconds : Float)

namespace ClockTime

/-- A number of seconds as a double. -/
def toDouble : ClockTime → Except Fault Float
  | whole n =>
    if n.natAbs < Decimal.beyondDoubles then .ok (Float.ofInt n) else .error .beyondDoubles
  | real x => .ok x

/-- An operation on doubles. -/
def onDoubles (op : Float → Float → Float) (a b : ClockTime) : Except Fault ClockTime :=
  match a.toDouble, b.toDouble with
  | .ok x, .ok y => .ok (real (op x y))
  | .error fault, _ | _, .error fault => .error fault

/-- An operation that is exact on whole numbers. -/
def exactly (onWhole : Int → Int → Int) (onReal : Float → Float → Float) :
    ClockTime → ClockTime → Except Fault ClockTime
  | whole m, whole n => .ok (whole (onWhole m n))
  | a, b => onDoubles onReal a b

/-- Whether a number of seconds is not zero or less. -/
def isPositive : ClockTime → Bool
  | whole n => 0 < n
  | real x => !(x ≤ 0)

/-- The whole number next to a double on the side of zero; infinities and the number that is
none have no such number. -/
def wholeOf (x : Float) : Except Fault Int :=
  match Decimal.Binary.ofFloat x with
  | .notANumber => .error .undefinedTicks
  | .infinite _ => .error .endlessTicks
  | .finite .. => .ok (Decimal.truncate x)

end ClockTime

instance : Seconds ClockTime where
  ofInt := .whole
  add := ClockTime.exactly (· + ·) (· + ·)
  sub := ClockTime.exactly (· - ·) (· - ·)
  mul := ClockTime.exactly (· * ·) (· * ·)
  div := ClockTime.onDoubles (· / ·)
  truncate
    | .whole n => .ok n
    | .real x => ClockTime.wholeOf x

/-- Ticks by a clock. -/
structure ClockTicks (α : Type) where
  /-- The time between two ticks. -/
  period : α
  /-- The time up to which ticks were taken. -/
  reference : α
  /-- What the clock shows at present. -/
  reading : α
  deriving DecidableEq

namespace ClockTicks

variable {α : Type} [Seconds α]

/-- Ticks at a rate per second, from the present reading on. -/
def atRate (rate reading : α) : Except Fault (ClockTicks α) :=
  (Seconds.div (Seconds.ofInt 1) rate).map fun period => ⟨period, reading, reading⟩

/-- How many ticks are due. -/
def due (clock : ClockTicks α) : Except Fault Int := do
  let passed ← Seconds.sub clock.reading clock.reference
  let periods ← Seconds.div passed clock.period
  Seconds.truncate periods

/-- Takes a number of ticks; one that is not positive changes nothing. -/
def take (clock : ClockTicks α) (count : Int) : Except Fault (ClockTicks α) :=
  if 0 < count then do
    let passed ← Seconds.mul (Seconds.ofInt count) clock.period
    let reference ← Seconds.add clock.reference passed
    .ok { clock with reference := reference }
  else .ok clock

/-- Forgets the time that has passed. -/
def restart (clock : ClockTicks α) : ClockTicks α := { clock with reference := clock.reading }

/-- Lets time pass. -/
def advance (clock : ClockTicks α) (seconds : α) : Except Fault (ClockTicks α) :=
  (Seconds.add clock.reading seconds).map fun reading => { clock with reading := reading }

end ClockTicks

/-- Where ticks come from. -/
inductive TickSource where
  /-- One tick for every look. -/
  | everyCycle
  | clock (clock : ClockTicks ClockTime)
  /-- The counts of a list one after another, then none. -/
  | listed (counts : List Int)

namespace TickSource

/-- The rate of a machine that does not ask for another. -/
def defaultRate : ClockTime := .whole 60

/-- Ticks by a clock at a positive rate. -/
def ofClock (rate reading : ClockTime) : Except Fault TickSource :=
  if rate.isPositive then (ClockTicks.atRate rate reading).map clock
  else .error .timerRateNotPositive

/-- How many ticks the next look takes; may be negative. -/
def due : TickSource → Except Fault Int
  | everyCycle => .ok 1
  | clock c => c.due
  | listed [] => .ok 0
  | listed (count :: _) => .ok count

/-- The source after a look that took a number of ticks. -/
def rest (count : Int) : TickSource → Except Fault TickSource
  | everyCycle => .ok everyCycle
  | clock c => (c.take count).map clock
  | listed counts => .ok (listed counts.tail)

/-- What a look reports: a clock that is behind by more than one tick. -/
def report (count : Int) : TickSource → List Event
  | clock _ => if 1 < count then [.ticksConsumed count] else []
  | _ => []

/-- Takes the ticks that are due. -/
def take : Action TickSource Int := fun source =>
  match source.due with
  | .error fault => ⟨source, .error fault, []⟩
  | .ok count =>
    match source.rest count with
    | .error fault => ⟨source, .error fault, []⟩
    | .ok next => ⟨next, .ok count, source.report count⟩

/-- Forgets what was due. -/
def restart : TickSource → TickSource
  | everyCycle => everyCycle
  | clock c => clock c.restart
  | listed _ => listed []

/-- Puts more counts at the end of a list; other sources have no list. -/
def enqueue (counts : List Int) : TickSource → TickSource
  | listed waiting => listed (waiting ++ counts)
  | source => source

/-- Sets the clock; other sources have none. -/
def setClock (reading : ClockTime) : TickSource → TickSource
  | clock c => clock { c with reading := reading }
  | source => source

/-- Lets time pass on the clock; other sources have none. -/
def advanceClock (seconds : ClockTime) : TickSource → Except Fault TickSource
  | clock c => (c.advance seconds).map clock
  | source => .ok source

end TickSource

end Chip8
