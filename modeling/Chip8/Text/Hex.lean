/-!
# Numbers in base sixteen

Addresses, instruction words and bytes are written in base sixteen with a
least total width.  The sign of a negative number stands first and counts
towards the width, and so does the mark `0x` where a form carries it; a number
that needs more room than the width is never cut.

The general form is `padded`: sign, mark, zeros, digits.  The named forms below
it fix the mark, the letter case and the width.
-/

namespace Chip8.Text

set_option autoImplicit false

/-- The digits of a natural number in base sixteen, with letters `a` to `f`. -/
def lowerHexDigits (n : Nat) : List Char := Nat.toDigits 16 n

/-- The digits of a natural number in base sixteen, with letters `A` to `F`. -/
def upperHexDigits (n : Nat) : List Char := (Nat.toDigits 16 n).map Char.toUpper

/-- Sign, mark and digits, with zeros before the digits up to `width` characters
in all. -/
def padded (mark : List Char) (width : Nat) (negative : Bool) (digits : List Char) : String :=
  let lead := (if negative then ['-'] else []) ++ mark
  String.ofList (lead ++ List.replicate (width - (lead.length + digits.length)) '0' ++ digits)

/-- A number in capital letters, at least `width` characters wide. -/
def upperHex (width : Nat) (n : Int) : String :=
  padded [] width (decide (n < 0)) (upperHexDigits n.natAbs)

/-- A number in small letters, at least `width` characters wide. -/
def lowerHex (width : Nat) (n : Int) : String :=
  padded [] width (decide (n < 0)) (lowerHexDigits n.natAbs)

/-- A number in small letters after the mark `0x`, at least `width` characters
wide with the mark. -/
def markedHex (width : Nat) (n : Int) : String :=
  padded ['0', 'x'] width (decide (n < 0)) (lowerHexDigits n.natAbs)

/-- An address in a message: four digits or more after the mark. -/
def address (n : Int) : String := markedHex 6 n

/-- A program address in a log record: three digits or more after the mark. -/
def programAddress (n : Int) : String := markedHex 5 n

/-- A byte or word in capital letters, two digits or more. -/
def byteHex (n : Int) : String := upperHex 2 n

end Chip8.Text
