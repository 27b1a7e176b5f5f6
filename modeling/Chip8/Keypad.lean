import Chip8.Fault

/-!
# The keypad

Sixteen keys that are up or down.  The host writes the table between cycles and
the machine only reads it.  A key outside the keypad is a fault; replacing the
whole table either succeeds as a whole or changes nothing.
-/

namespace Chip8

set_option autoImplicit false

/-- Which of the sixteen keys are down. -/
structure Keypad where
  down : Vector Bool 16
  deriving DecidableEq, Repr

namespace Keypad

/-- No key is down. -/
def idle : Keypad := ⟨Vector.replicate 16 false⟩

/-- The number of a key, if it is one of the keypad. -/
def key? (key : Int) : Except Fault (Fin 16) :=
  if h : 0 ≤ key ∧ key < 16 then .ok ⟨key.toNat, by omega⟩ else .error (.keyOutOfRange key)

/-- Whether a key is down. -/
def isDown (keypad : Keypad) (key : Fin 16) : Bool := keypad.down[key]

/-- Moves one key. -/
def setKey (keypad : Keypad) (key : Int) (pressed : Bool) : Except Fault Keypad :=
  match key? key with
  | .ok k => .ok ⟨keypad.down.set k pressed⟩
  | .error fault => .error fault

/-- Whether a key is down, by a number from outside. -/
def isPressed (keypad : Keypad) (key : Int) : Except Fault Bool :=
  match key? key with
  | .ok k => .ok (keypad.isDown k)
  | .error fault => .error fault

/-- The keys that are down, in ascending order. -/
def pressed (keypad : Keypad) : List (Fin 16) :=
  (List.finRange 16).filter fun key => keypad.isDown key

/-- The least key that is down. -/
def firstPressed? (keypad : Keypad) : Option (Fin 16) := keypad.pressed.head?

/-- The keypad with the given keys down, added to those of another. -/
def pressAll (keypad : Keypad) : List Int → Except Fault Keypad
  | [] => .ok keypad
  | key :: rest =>
    match keypad.setKey key true with
    | .ok next => next.pressAll rest
    | .error fault => .error fault

/-- The keypad on which exactly the given keys are down. -/
def ofKeys (keys : List Int) : Except Fault Keypad := idle.pressAll keys

end Keypad

end Chip8
