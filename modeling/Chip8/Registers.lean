/-!
# Registers

Sixteen general registers, of which the last also takes the flags, the index, the
program counter and the two timers.  Instructions keep general registers and timers
below 256 and the other two below 65536, none of them below zero, which is proved of
them and not written into the type: a host may set the latter four to any integer.
-/

namespace Chip8

set_option autoImplicit false

/-- The register values of a machine. -/
structure Registers where
  pc : Int
  v : Vector Nat 16
  index : Int
  delay : Int
  sound : Int
  deriving DecidableEq, Repr

namespace Registers

/-- Where programs start. -/
def programStart : Nat := 0x200

/-- The registers of a machine that was just switched on. -/
def initial : Registers := ⟨programStart, Vector.replicate 16 0, 0, 0, 0⟩

/-- Whether a number names a general register.  Numbers below zero count from the end. -/
def isPlace (x : Int) : Bool := -16 ≤ x && x < 16

/-- The register with a given number. -/
def place (x : Int) : Fin 16 := ⟨(x % 16).toNat, by omega⟩

/-- The register that takes the flags. -/
def flagPlace : Fin 16 := 15

/-- The value of a general register. -/
def get (r : Registers) (x : Int) : Nat := r.v[place x]

/-- Gives a general register a value. -/
def set (r : Registers) (x : Int) (value : Nat) : Registers :=
  { r with v := r.v.set (place x) value }

/-- The flag register. -/
def flag (r : Registers) : Nat := r.v[flagPlace]

/-- Gives the flag register the last byte of a number. -/
def setFlag (r : Registers) (value : Int) : Registers :=
  { r with v := r.v.set flagPlace (value % 256).toNat }

/-- Goes to an address, modulo 65536. -/
def jumpTo (r : Registers) (address : Int) : Registers := { r with pc := address % 65536 }

/-- Goes on to the next word. -/
def advance (r : Registers) : Registers := { r with pc := (r.pc + 2) % 65536 }

/-- Goes back to the word before. -/
def retreat (r : Registers) : Registers := { r with pc := (r.pc - 2) % 65536 }

/-- Leaves out the next word if a condition holds. -/
def skipIf (r : Registers) (condition : Bool) : Registers :=
  if condition then r.advance else r

/-- Lets a number of ticks pass: each timer goes down to zero at most.  A number that
is not positive changes nothing. -/
def elapse (r : Registers) (ticks : Int) : Registers :=
  if ticks ≤ 0 then r
  else { r with delay := max 0 (r.delay - ticks), sound := max 0 (r.sound - ticks) }

end Registers

end Chip8
