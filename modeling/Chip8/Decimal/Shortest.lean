import Chip8.Decimal.Binary

/-!
# The shortest decimal of a double

Of all decimals that read back as a given double, the shortest are those with the
fewest significant digits, and of these the nearest is taken.

The reals that round to a double form an interval around it, which contains its
ends exactly when the mantissa is even.  If the interval contains a decimal with a
given number of digits, it contains one of the two that stand next to the double
itself, so it is enough to test these two for one digit, two digits and so on up to
seventeen, which always suffice.  All tests are on whole numbers.
-/

namespace Chip8.Decimal

set_option autoImplicit false

/-- A decimal: `digits * 10 ^ exponent`. -/
structure Scaled where
  digits : Nat
  exponent : Int
  deriving DecidableEq, Repr

/-- A positive rational as a quotient of natural numbers. -/
structure Quotient where
  top : Nat
  bottom : Nat

/-- `number * 2 ^ exponent` as a quotient. -/
def Quotient.ofBinary (number : Nat) (exponent : Int) : Quotient :=
  if 0 ≤ exponent then ⟨number * twoTo exponent.toNat, 1⟩ else ⟨number, twoTo (-exponent).toNat⟩

/-- The whole part of a quotient divided by a power of ten. -/
def Quotient.floorAt (q : Quotient) (exponent : Int) : Nat :=
  if 0 ≤ exponent then q.top / (q.bottom * tenTo exponent.toNat)
  else q.top * tenTo (-exponent).toNat / q.bottom

/-- How a decimal compares with a quotient. -/
def Scaled.compare (d : Scaled) (q : Quotient) : Ordering :=
  if 0 ≤ d.exponent then
    Ord.compare (d.digits * tenTo d.exponent.toNat * q.bottom) q.top
  else Ord.compare (d.digits * q.bottom) (q.top * tenTo (-d.exponent).toNat)

/-- The interval of the reals that round to a double. -/
structure Interval where
  low : Quotient
  high : Quotient
  closed : Bool

/-- The interval of a double.  Below a power of two the doubles are twice as close as
above it. -/
def Interval.ofBinary (mantissa : Nat) (exponent : Int) : Interval :=
  let below := if mantissa = twoTo 52 ∧ -1074 < exponent then 4 * mantissa - 1 else 4 * mantissa - 2
  ⟨.ofBinary below (exponent - 2), .ofBinary (4 * mantissa + 2) (exponent - 2),
    mantissa % 2 == 0⟩

/-- Whether a decimal lies in the interval. -/
def Interval.contains (i : Interval) (d : Scaled) : Bool :=
  match d.compare i.low, d.compare i.high with
  | .gt, .lt => true
  | .eq, .lt | .gt, .eq => i.closed
  | _, _ => false

/-- The exponent of the leading digit of a positive quotient. -/
def Quotient.leading (q : Quotient) : Int :=
  if q.bottom ≤ q.top then (Nat.toDigits 10 (q.top / q.bottom)).length - 1
  else
    match (List.range 400).find? fun j => q.bottom ≤ q.top * tenTo j with
    | some j => -j
    | none => 0

/-- Of the two decimals next to a value at a place, one that lies in the interval: if
both do, the nearer, and at the same distance the one with the even last digit. -/
def pick? (value : Quotient) (interval : Interval) (exponent : Int) : Option Scaled :=
  let digits := value.floorAt exponent
  let lower : Scaled := ⟨digits, exponent⟩
  let upper : Scaled := ⟨digits + 1, exponent⟩
  match interval.contains lower, interval.contains upper with
  | false, false => none
  | true, false => some lower
  | false, true => some upper
  | true, true =>
    -- The middle of the two, with one more digit, tells which is nearer.
    match Scaled.compare ⟨10 * digits + 5, exponent - 1⟩ value with
    | .gt => some lower
    | .lt => some upper
    | .eq => some (if digits % 2 = 0 then lower else upper)

/-- The shortest decimal of the positive double `mantissa * 2 ^ exponent`. -/
def shortest (mantissa : Nat) (exponent : Int) : Scaled :=
  let value := Quotient.ofBinary mantissa exponent
  let interval := Interval.ofBinary mantissa exponent
  let leading := value.leading
  ((List.range 17).findSome? fun (count : Nat) => pick? value interval (leading - count)).getD
    ⟨value.floorAt (leading - 16), leading - 16⟩

/-- A decimal without zeros at the end of its digits. -/
def Scaled.stripped (d : Scaled) : Scaled :=
  let kept := ((Nat.toDigits 10 d.digits).reverse.dropWhile (· = '0')).length
  let dropped := (Nat.toDigits 10 d.digits).length - kept
  ⟨d.digits / tenTo dropped, d.exponent + dropped⟩

end Chip8.Decimal
