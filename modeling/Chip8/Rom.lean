import Chip8.Files
import Chip8.Machine.Operation

/-!
# Program files

A program file is the bytes of a program without a header.  Reading one fails if the
file cannot be read, is empty or is longer than the room for programs.  Loading one
reads it first, so a failure leaves the machine as it was; then the machine is reset
and the program placed in its memory.
-/

namespace Chip8

set_option autoImplicit false

/-- The program that the reading of a file gave. -/
def programOf (path : String) : Except PathFault (List UInt8) → Except Fault (List UInt8)
  | .error cause => .error (.romFileUnreadable path cause)
  | .ok program =>
    if program.isEmpty then .error (.romFileEmpty path)
    else if Machine.programLimit < program.length then
      .error (.romFileTooLong path program.length Machine.programLimit)
    else .ok program

/-- The program in a file. -/
def Files.readProgram (files : Files) (path : String) : Except Fault (List UInt8) :=
  if path.toList.contains '\x00' then .error .pathHoldsNull else programOf path (files.read path)

namespace Machine

/-- Resets the machine and gives it the program of a file, whose length is the answer. -/
def loadRom (files : Files) (path : String) : Action Machine Nat := do
  let program ← Action.ofExcept (files.readProgram path)
  reset
  loadProgram program
  Action.report (.romLoaded (baseName path))
  pure program.length

end Machine

end Chip8
