import Chip8.Text.Blank
import Chip8.Text.Digit

/-!
# Written integers

A written integer may stand between blanks and has an optional sign and then
digits, between which single underscores may stand.  In the bases two, eight and
sixteen the digits may follow a mark, which is a zero and the letter of the base, also
with one underscore between mark and digits.  Digits may be the decimal digits of any
script.

Decimal numerals have at most `digitLimit` digits, counting leading zeros and
not underscores: reading and writing longer ones takes too long, so they are
refused, and the limit is tested before what follows the digits is looked at.
A base that is a power of two has no such limit.
-/

namespace Chip8.Text

set_option autoImplicit false

/-- The most decimal digits of a numeral. -/
def digitLimit : Nat := 4300

/-- Why a text is no integer. -/
inductive NumeralFault where
  /-- The text does not have the form of an integer. -/
  | malformed
  /-- The text starts with this many digits, more than the limit. -/
  | tooLong (digits : Nat)
  deriving DecidableEq, Repr

/-- The digits at the start of a text, single underscores between them left out, and
what follows them.  Where a digit is required, at the start and after an
underscore, anything else gives `none`. -/
def digitRun? (base : Nat) (required : Bool) : List Char → Option (List Nat × List Char)
  | [] => if required then none else some ([], [])
  | c :: rest =>
    match digit? base c with
    | some d => (digitRun? base false rest).map fun run => (d :: run.1, run.2)
    | none =>
      if required then none
      else if c = '_' then digitRun? base true rest
      else some ([], c :: rest)

/-- The number that digits denote, the most significant first. -/
def numberOf (base : Nat) (digits : List Nat) : Nat :=
  digits.foldl (fun n d => n * base + d) 0

/-- Sign and remainder of a text. -/
def splitSign : List Char → Bool × List Char
  | '-' :: rest => (true, rest)
  | '+' :: rest => (false, rest)
  | text => (false, text)

/-- The small letter of the mark of a base, if the base has one. -/
def markLetter? (base : Nat) : Option Char :=
  if base = 2 then some 'b' else if base = 8 then some 'o' else if base = 16 then some 'x' else none

/-- What follows the mark of a base, with the underscore that may follow the mark; a text
without the mark is left alone. -/
def dropMark (base : Nat) : List Char → List Char
  | zero :: letter :: rest =>
    if decimalDigit? zero = some 0 ∧ markLetter? base = some letter.toLower then
      match rest with
      | '_' :: more => more
      | _ => rest
    else zero :: letter :: rest
  | text => text

/-- The integer written in a text in the given base. -/
def integer? (base : Nat) (text : String) : Except NumeralFault Int :=
  let (negative, unsigned) := splitSign (text.toList.dropWhile isBlank)
  match digitRun? base true (dropMark base unsigned) with
  | none => .error .malformed
  | some (digits, rest) =>
    if base = 10 ∧ digitLimit < digits.length then .error (.tooLong digits.length)
    else if rest.all isBlank then
      let n : Int := numberOf base digits
      .ok (if negative then -n else n)
    else .error .malformed

end Chip8.Text
