/-!
# Binary floating-point numbers taken apart

A finite double is a whole number times a power of two, both exact.  The two
smallest pieces of arithmetic that need the exact value are here: cutting off the
fraction, and the interval of all reals that round to a given double.
-/

namespace Chip8.Decimal

set_option autoImplicit false

/-- A power of two. -/
def twoTo (n : Nat) : Nat := Nat.pow 2 n

/-- A power of ten. -/
def tenTo (n : Nat) : Nat := Nat.pow 10 n

/-- The least whole number that is too large to have a double next to it. -/
def beyondDoubles : Nat := twoTo 1024 - twoTo 970

/-- A double taken apart: a finite one is `mantissa * 2 ^ exponent`. -/
inductive Binary where
  | notANumber
  | infinite (negative : Bool)
  | finite (negative : Bool) (mantissa : Nat) (exponent : Int)
  deriving DecidableEq, Repr

namespace Binary

/-- Takes the bits of a double apart: a sign, eleven bits of exponent and 52 of
mantissa, to which a normal number adds a leading one. -/
def ofBits (bits : Nat) : Binary :=
  let negative := bits / twoTo 63 == 1
  let exponent : Nat := bits / twoTo 52 % twoTo 11
  let fraction : Nat := bits % twoTo 52
  if exponent + 1 = twoTo 11 then
    if fraction = 0 then infinite negative else notANumber
  else if exponent = 0 then finite negative fraction (-1074)
  else finite negative (twoTo 52 + fraction) ((exponent : Int) - 1075)

/-- Takes a double apart. -/
def ofFloat (x : Float) : Binary := ofBits x.toBits.toNat

/-- The whole number next to the value on the side of zero.  Infinities and the
number that is none have no such number and give zero. -/
def truncate : Binary → Int
  | notANumber | infinite _ => 0
  | finite negative mantissa exponent =>
    let whole : Nat :=
      if 0 ≤ exponent then mantissa * twoTo exponent.toNat else mantissa / twoTo (-exponent).toNat
    if negative then -(whole : Int) else whole

end Binary

/-- A double without its fraction. -/
def truncate (x : Float) : Int := (Binary.ofFloat x).truncate

end Chip8.Decimal
