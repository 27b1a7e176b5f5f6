import Chip8.Decimal.Shortest
import Chip8.Text.Blank
import Chip8.Text.Digit

/-!
# Written decimals

A written decimal is positional or scientific, depending on the exponent of its
leading digit.  `Format` holds the choices of a form, `Format.write` applies them to
a double, and `read?` goes the other way.
-/

namespace Chip8.Decimal

set_option autoImplicit false

/-- The choices of a form of written decimals. -/
structure Format where
  /-- The least exponent of the leading digit that is written positionally. -/
  least : Int
  /-- The least exponent of the leading digit beyond these. -/
  beyond : Int
  /-- The least number of digits of a written exponent. -/
  exponentDigits : Nat
  infinity : String
  notANumber : String

/-- A text with zeros in front, up to a width. -/
def zeroFill (width : Nat) (digits : List Char) : List Char :=
  List.replicate (width - digits.length) '0' ++ digits

namespace Format

/-- The digits of a decimal in positional notation, with a digit on either side of the
point. -/
def positional (d : Scaled) : List Char :=
  if 0 ≤ d.exponent then Nat.toDigits 10 (d.digits * tenTo d.exponent.toNat) ++ ['.', '0']
  else
    let places := (-d.exponent).toNat
    let digits := zeroFill (places + 1) (Nat.toDigits 10 d.digits)
    digits.take (digits.length - places) ++ '.' :: digits.drop (digits.length - places)

/-- The digits of a decimal in scientific notation: one digit, the others after a
point, and the signed exponent of the first. -/
def scientific (format : Format) (d : Scaled) : List Char :=
  let digits := Nat.toDigits 10 d.digits
  let exponent := d.exponent + (digits.length - 1 : Nat)
  let point := if digits.length ≤ 1 then [] else '.' :: digits.drop 1
  digits.take 1 ++ point ++ 'e' :: (if exponent < 0 then '-' else '+') ::
    zeroFill format.exponentDigits (Nat.toDigits 10 exponent.natAbs)

/-- The text of a double. -/
def write (format : Format) (x : Float) : String :=
  match Binary.ofFloat x with
  | .notANumber => format.notANumber
  | .infinite negative => if negative then "-" ++ format.infinity else format.infinity
  | .finite negative mantissa exponent =>
    let d : Scaled := if mantissa = 0 then ⟨0, 0⟩ else (shortest mantissa exponent).stripped
    let leading := d.exponent + ((Nat.toDigits 10 d.digits).length - 1 : Nat)
    let digits :=
      if format.least ≤ leading ∧ leading < format.beyond then positional d
      else format.scientific d
    String.ofList (if negative then '-' :: digits else digits)

end Format

/-! ## Reading -/

/-- The digits at the start of a text and what follows. -/
def spanDigits : List Char → List Nat × List Char
  | [] => ([], [])
  | c :: rest =>
    match Text.digit? 10 c with
    | some d =>
      let (digits, rest) := spanDigits rest
      (d :: digits, rest)
    | none => ([], c :: rest)

/-- The double nearest to `digits * 10 ^ exponent`.  Exponents at which nothing but zero
or infinity can come out are not computed with. -/
def toFloat (negative : Bool) (digits : Nat) (exponent : Int) : Float :=
  let leading := exponent + (Nat.toDigits 10 digits).length
  let magnitude : Float :=
    if digits = 0 ∨ leading < -400 then 0.0
    else if 400 < leading then 1.0 / 0.0
    else if 0 ≤ exponent then Float.ofScientific digits false exponent.toNat
    else Float.ofScientific digits true (-exponent).toNat
  if negative then -magnitude else magnitude

/-- An exponent: a letter `e`, an optional sign and digits.  A text that does not start
with the letter has the exponent zero. -/
def exponent? : List Char → Option (Int × List Char)
  | c :: rest =>
    if c = 'e' ∨ c = 'E' then
      let (negative, rest) :=
        match rest with
        | '-' :: more => (true, more)
        | '+' :: more => (false, more)
        | _ => (false, rest)
      match spanDigits rest with
      | ([], _) => none
      | (digits, rest) =>
        let n : Int := (digits.foldl (fun n d => n * 10 + d) 0 : Nat)
        some (if negative then -n else n, rest)
    else some (0, c :: rest)
  | [] => some (0, [])

/-- A number without sign: digits with an optional point before, within or after them,
and an optional exponent. -/
def magnitude? (negative : Bool) (text : List Char) : Option Float :=
  let (whole, rest) := spanDigits text
  let (fraction, rest) :=
    match rest with
    | '.' :: more => spanDigits more
    | _ => ([], rest)
  if whole.isEmpty && fraction.isEmpty then none
  else
    match exponent? rest with
    | some (exponent, []) =>
      some (toFloat negative ((whole ++ fraction).foldl (fun n d => n * 10 + d) 0)
        (exponent - fraction.length))
    | _ => none

/-- The double written in a text: an optional sign, then a number or the name of
infinity or of the number that is none, in small letters. -/
def read? (text : List Char) : Option Float :=
  let (negative, unsigned) :=
    match text with
    | '-' :: rest => (true, rest)
    | '+' :: rest => (false, rest)
    | _ => (false, text)
  if unsigned = "inf".toList ∨ unsigned = "infinity".toList then
    some (if negative then -(1.0 / 0.0) else 1.0 / 0.0)
  else if unsigned = "nan".toList then some (0.0 / 0.0)
  else magnitude? negative unsigned

end Chip8.Decimal
