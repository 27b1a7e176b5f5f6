/-!
# Instruction words

An instruction word has sixteen bits: a family in the top four, then three
nibbles.  The operands overlap: `x`, `y` and `n` are the three nibbles, `nn` the
last two together and `nnn` all three.

Decoding takes an integer of any size and sign and looks at its low sixteen bits
only.
-/

namespace Chip8

set_option autoImplicit false

/-- A word taken apart.  Decoding gives fields that fit their widths and agree with
each other; a host may put together others. -/
structure Opcode where
  word : Int
  /-- The top four bits, in place. -/
  family : Int
  x : Int
  y : Int
  n : Int
  nn : Int
  nnn : Int
  deriving DecidableEq, Repr

/-- Takes the low sixteen bits of an integer apart. -/
def Opcode.decode (word : Int) : Opcode where
  word := word % 0x10000
  family := word % 0x10000 / 0x1000 * 0x1000
  x := word / 0x100 % 0x10
  y := word / 0x10 % 0x10
  n := word % 0x10
  nn := word % 0x100
  nnn := word % 0x1000

end Chip8
