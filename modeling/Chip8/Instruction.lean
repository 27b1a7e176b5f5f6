import Chip8.Opcode
import Chip8.Text.Hex

/-!
# Instructions

The thirty-five instructions with their operands, the table that finds the
instruction of a word, and the way an instruction is written.

Most families hold one instruction.  Four hold several: the family `0x0` is told
apart by all three nibbles and falls back to a jump, `0x8` by the last nibble,
`0xE` and `0xF` by the last two; in these three a word may belong to no
instruction.

Operands are the fields of the word as they are: register numbers, bytes,
addresses.  For a decoded word they fit their widths.
-/

namespace Chip8

set_option autoImplicit false

open Text

/-- The instructions.  Registers are named by number. -/
inductive Instruction where
  /-- Switches every pixel off. -/
  | clearScreen
  /-- Leaves the innermost subroutine. -/
  | leave
  /-- Goes to an address where a machine routine was meant. -/
  | system (address : Int)
  | jump (address : Int)
  /-- Enters a subroutine. -/
  | call (address : Int)
  | skipIfByte (x byte : Int)
  | skipUnlessByte (x byte : Int)
  | skipIfEqual (x y : Int)
  | setByte (x byte : Int)
  /-- Adds without a flag. -/
  | addByte (x byte : Int)
  | copy (x y : Int)
  | or (x y : Int)
  | and (x y : Int)
  | xor (x y : Int)
  /-- Adds; the flag is the carry. -/
  | add (x y : Int)
  /-- Subtracts the second from the first; the flag says that it was smaller. -/
  | subtract (x y : Int)
  /-- Halves; the flag is the bit that falls out. -/
  | shiftRight (x : Int)
  /-- Subtracts the first from the second; the flag says that it was smaller. -/
  | subtractFrom (x y : Int)
  /-- Doubles; the flag is the bit that falls out. -/
  | shiftLeft (x : Int)
  | skipUnlessEqual (x y : Int)
  | setIndex (address : Int)
  /-- Goes to an address plus the first register. -/
  | jumpOffset (address : Int)
  /-- Takes a random byte and masks it. -/
  | random (x mask : Int)
  /-- Draws a sprite of the given height. -/
  | draw (x y height : Int)
  | skipIfPressed (x : Int)
  | skipUnlessPressed (x : Int)
  | readDelay (x : Int)
  /-- Waits until a key is down. -/
  | awaitKey (x : Int)
  | setDelay (x : Int)
  | setSound (x : Int)
  /-- Adds to the index; the flag says that twelve bits no longer hold it. -/
  | addIndex (x : Int)
  /-- Points the index at the small glyph of a digit. -/
  | smallGlyph (x : Int)
  /-- Points the index at the large glyph of a digit. -/
  | largeGlyph (x : Int)
  /-- Stores three decimal digits. -/
  | storeDecimal (x : Int)
  /-- Stores the registers up to the given one. -/
  | storeRegisters (x : Int)
  /-- Loads the registers up to the given one. -/
  | loadRegisters (x : Int)
  deriving DecidableEq, Repr

namespace Instruction

/-! ## Finding the instruction of a word -/

/-- The family `0x0`. -/
def ofSystem (op : Opcode) : Instruction :=
  if op.nnn = 0x0E0 then clearScreen
  else if op.nnn = 0x0EE then leave
  else system op.nnn

/-- The family `0x8`. -/
def ofArithmetic? (op : Opcode) : Option Instruction :=
  if op.n = 0x0 then some (copy op.x op.y)
  else if op.n = 0x1 then some (or op.x op.y)
  else if op.n = 0x2 then some (and op.x op.y)
  else if op.n = 0x3 then some (xor op.x op.y)
  else if op.n = 0x4 then some (add op.x op.y)
  else if op.n = 0x5 then some (subtract op.x op.y)
  else if op.n = 0x6 then some (shiftRight op.x)
  else if op.n = 0x7 then some (subtractFrom op.x op.y)
  else if op.n = 0xE then some (shiftLeft op.x)
  else none

/-- The family `0xE`. -/
def ofKeys? (op : Opcode) : Option Instruction :=
  if op.nn = 0x9E then some (skipIfPressed op.x)
  else if op.nn = 0xA1 then some (skipUnlessPressed op.x)
  else none

/-- The family `0xF`. -/
def ofTransfer? (op : Opcode) : Option Instruction :=
  if op.nn = 0x07 then some (readDelay op.x)
  else if op.nn = 0x0A then some (awaitKey op.x)
  else if op.nn = 0x15 then some (setDelay op.x)
  else if op.nn = 0x18 then some (setSound op.x)
  else if op.nn = 0x1E then some (addIndex op.x)
  else if op.nn = 0x29 then some (smallGlyph op.x)
  else if op.nn = 0x30 then some (largeGlyph op.x)
  else if op.nn = 0x33 then some (storeDecimal op.x)
  else if op.nn = 0x55 then some (storeRegisters op.x)
  else if op.nn = 0x65 then some (loadRegisters op.x)
  else none

/-- The instruction of a word, if it has one. -/
def ofOpcode? (op : Opcode) : Option Instruction :=
  if op.family = 0x0000 then some (ofSystem op)
  else if op.family = 0x1000 then some (jump op.nnn)
  else if op.family = 0x2000 then some (call op.nnn)
  else if op.family = 0x3000 then some (skipIfByte op.x op.nn)
  else if op.family = 0x4000 then some (skipUnlessByte op.x op.nn)
  else if op.family = 0x5000 then some (skipIfEqual op.x op.y)
  else if op.family = 0x6000 then some (setByte op.x op.nn)
  else if op.family = 0x7000 then some (addByte op.x op.nn)
  else if op.family = 0x8000 then ofArithmetic? op
  else if op.family = 0x9000 then some (skipUnlessEqual op.x op.y)
  else if op.family = 0xA000 then some (setIndex op.nnn)
  else if op.family = 0xB000 then some (jumpOffset op.nnn)
  else if op.family = 0xC000 then some (random op.x op.nn)
  else if op.family = 0xD000 then some (draw op.x op.y op.n)
  else if op.family = 0xE000 then ofKeys? op
  else if op.family = 0xF000 then ofTransfer? op
  else none

/-! ## Writing instructions -/

/-- The name of an instruction. -/
def mnemonic : Instruction → String
  | clearScreen => "CLS"
  | leave => "RET"
  | system _ => "SYS"
  | jump _ | jumpOffset _ => "JP"
  | call _ => "CALL"
  | skipIfByte .. | skipIfEqual .. => "SE"
  | skipUnlessByte .. | skipUnlessEqual .. => "SNE"
  | setByte .. | copy .. | setIndex _ | readDelay _ | awaitKey _ | setDelay _ | setSound _
  | smallGlyph _ | largeGlyph _ | storeDecimal _ | storeRegisters _ | loadRegisters _ => "LD"
  | addByte .. | add .. | addIndex _ => "ADD"
  | or .. => "OR"
  | and .. => "AND"
  | xor .. => "XOR"
  | subtract .. => "SUB"
  | shiftRight _ => "SHR"
  | subtractFrom .. => "SUBN"
  | shiftLeft _ => "SHL"
  | random .. => "RND"
  | draw .. => "DRW"
  | skipIfPressed _ => "SKP"
  | skipUnlessPressed _ => "SKNP"

/-- A register as an operand. -/
def register (x : Int) : String := "V" ++ upperHex 1 x

/-- A byte as an operand. -/
def byteOperand (byte : Int) : String := "#" ++ upperHex 2 byte

/-- An address as an operand. -/
def addressOperand (address : Int) : String := "$" ++ upperHex 3 address

/-- The operands of an instruction, each as a text. -/
def operands : Instruction → List String
  | clearScreen | leave => []
  | system address | jump address | call address => [addressOperand address]
  | skipIfByte x byte | skipUnlessByte x byte | setByte x byte | addByte x byte
  | random x byte => [register x, byteOperand byte]
  | skipIfEqual x y | copy x y | or x y | and x y | xor x y | add x y | subtract x y
  | subtractFrom x y | skipUnlessEqual x y => [register x, register y]
  | shiftRight x | shiftLeft x | skipIfPressed x | skipUnlessPressed x => [register x]
  | setIndex address => ["I", addressOperand address]
  | jumpOffset address => ["V0", addressOperand address]
  | draw x y height => [register x, register y, toString height]
  | readDelay x => [register x, "DT"]
  | awaitKey x => [register x, "K"]
  | setDelay x => ["DT", register x]
  | setSound x => ["ST", register x]
  | addIndex x => ["I", register x]
  | smallGlyph x => ["F", register x]
  | largeGlyph x => ["HF", register x]
  | storeDecimal x => ["B", register x]
  | storeRegisters x => ["[I]", register x]
  | loadRegisters x => [register x, "[I]"]

end Instruction

/-! ## Described words -/

/-- A word as it is shown: its digits, the name of its instruction and the operands.
Every word takes two bytes. -/
structure Operation where
  digits : String
  mnemonic : String
  operands : List String
  length : Nat
  deriving DecidableEq, Repr

namespace Operation

/-- The description of a word.  A word without an instruction is shown as unknown,
with its digits as the operand. -/
def ofOpcode (op : Opcode) : Operation :=
  match Instruction.ofOpcode? op with
  | some instruction => ⟨upperHex 4 op.word, instruction.mnemonic, instruction.operands, 2⟩
  | none => ⟨upperHex 4 op.word, "UNKNOWN", ["$" ++ upperHex 4 op.word], 2⟩

/-- The description of a word on one line. -/
def text (operation : Operation) : String :=
  if operation.operands.isEmpty then operation.mnemonic
  else operation.mnemonic ++ " " ++ ", ".intercalate operation.operands

end Operation

end Chip8
