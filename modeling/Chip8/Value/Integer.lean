import Chip8.Fault
import Chip8.Text.Numeral

/-!
# Integers as text

Integers are read from texts that may hold halves of surrogate pairs, which are no digits and stand
for themselves in messages.  Integers of too many digits are neither read nor written in base ten.
-/

namespace Chip8

set_option autoImplicit false

namespace Value

/-- The integer written in a text in a base. -/
def integerIn (base : Nat) (text : List Text.Symbol) : Except Fault Int :=
  match Text.integer? base (String.ofList (text.map Text.Symbol.toChar)) with
  | .ok n => .ok n
  | .error .malformed => .error (.integerLiteral base (Text.quotedSymbols text))
  | .error (.tooLong digits) => .error (.integerTooLong Text.digitLimit digits)

/-- The text of an integer. -/
def integerText (n : Int) : Except Fault String :=
  if Nat.pow 10 Text.digitLimit ≤ n.natAbs then .error (.integerTooLongToWrite Text.digitLimit)
  else .ok (toString n)

end Value

end Chip8
