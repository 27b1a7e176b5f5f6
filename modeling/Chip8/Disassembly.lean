import Chip8.Instruction
import Chip8.Memory

/-!
# Disassembly

A stretch of memory as lines, one for every second address from the first on.
The sweep is linear: it does not ask where execution would go.  It peeks, so
the log of the memory shows nothing of it.
-/

namespace Chip8

set_option autoImplicit false

open Text

/-- One line of a disassembly. -/
structure Line where
  address : Int
  /-- The two bytes of the word. -/
  bytes : String
  text : String
  deriving DecidableEq, Repr

/-- The line of a word at an address. -/
def Line.ofWord (address : Int) (word : Nat) : Line :=
  ⟨address, byteHex (word / 256) ++ " " ++ byteHex (word % 256),
    (Operation.ofOpcode (Opcode.decode word)).text⟩

namespace Memory

/-- The lines of `count` words from an address on. -/
def sweep (memory : Memory) (address : Int) : Nat → Except Fault (List Line)
  | 0 => .ok []
  | count + 1 =>
    match memory.peek address with
    | .ok word =>
      match memory.sweep (address + 2) count with
      | .ok rest => .ok (Line.ofWord address word :: rest)
      | .error fault => .error fault
    | .error fault => .error fault

/-- The lines of the words that start at `start`, `start + 2`, … below
`start + length` and within the memory. -/
def disassemble (memory : Memory) (start length : Int) : Except Fault (List Line) :=
  let stop := min (start + length) memory.size
  memory.sweep start ((stop - start + 1) / 2).toNat

end Memory

end Chip8
