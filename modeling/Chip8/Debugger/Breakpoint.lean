import Chip8.Processor
import Chip8.Registers
import Chip8.Text.Case
import Chip8.Text.Digit

/-!
# Breakpoints

Conditions under which a run stops.  One kind is tested before an instruction, on the
program counter; the others are tested after it, on the record of its cycle: an address
that was read or written, a register that has a value or that has changed.

Equal conditions are one breakpoint, and all fields count for equality, also those that
mean nothing for the kind.

Registers are named as they are shown, in any letter case; a general register may also
be named with a decimal digit of another script.
-/

namespace Chip8

set_option autoImplicit false

/-- What a breakpoint waits for. -/
inductive BreakpointKind where
  | pcMatch
  | memoryRead
  | memoryWrite
  | registerValue
  | registerChange
  deriving DecidableEq, Repr

namespace BreakpointKind

/-- The name of a kind. -/
def name : BreakpointKind → String
  | pcMatch => "PC_MATCH"
  | memoryRead => "MEMORY_READ"
  | memoryWrite => "MEMORY_WRITE"
  | registerValue => "REGISTER_VALUE"
  | registerChange => "REGISTER_CHANGE"

/-- All kinds. -/
def all : List BreakpointKind := [pcMatch, memoryRead, memoryWrite, registerValue, registerChange]

/-- The kind with a name. -/
def ofName (name : String) : Except Fault BreakpointKind :=
  match all.find? fun kind => kind.name == name with
  | some kind => .ok kind
  | none => .error (.unknownBreakpointKind name)

end BreakpointKind

/-- A condition under which a run stops. -/
structure Breakpoint where
  kind : BreakpointKind
  /-- The program counter or register value that is waited for. -/
  value : Option Int
  /-- The address whose access is waited for. -/
  address : Option Int
  /-- The name of the register that is watched. -/
  register : Option String
  enabled : Bool
  deriving DecidableEq, Repr

/-- The value of the register with a name, if there is one. -/
def Registers.named? (r : Registers) (name : String) : Option Int :=
  match (Text.upper name).toList with
  | ['V', digit] => (Text.digit? 16 digit).map fun k => (r.get k : Int)
  | _ =>
    match Text.upper name with
    | "PC" => some r.pc
    | "I" => some r.index
    | "DT" => some r.delay
    | "ST" => some r.sound
    | _ => none

namespace Registers

variable (r : Registers) {name : String}

theorem named?_general {digit : Char} (letters : (Text.upper name).toList = ['V', digit]) :
    r.named? name = (Text.digit? 16 digit).map fun k => (r.get k : Int) := by
  rw [named?, letters]
  rfl

theorem named?_pc (named : Text.upper name = "PC") : r.named? name = some r.pc := by
  rw [named?, named]
  rfl

theorem named?_index (named : Text.upper name = "I") : r.named? name = some r.index := by
  rw [named?, named]
  rfl

theorem named?_delay (named : Text.upper name = "DT") : r.named? name = some (r.delay : Int) := by
  rw [named?, named]
  rfl

theorem named?_sound (named : Text.upper name = "ST") : r.named? name = some (r.sound : Int) := by
  rw [named?, named]
  rfl

/-- No other name has a value. -/
theorem named?_other (no_general : ∀ digit, (Text.upper name).toList ≠ ['V', digit])
    (no_special : Text.upper name ∉ ["PC", "I", "DT", "ST"]) : r.named? name = none := by
  simp only [List.mem_cons, List.not_mem_nil, or_false, not_or] at no_special
  obtain ⟨not_pc, not_index, not_delay, not_sound⟩ := no_special
  unfold named?
  split
  next digit letters => exact (no_general digit letters).elim
  next =>
    split
    next named => exact (not_pc named).elim
    next named => exact (not_index named).elim
    next named => exact (not_delay named).elim
    next named => exact (not_sound named).elim
    next => rfl

end Registers

namespace Breakpoint

/-- The enabled breakpoint on a program address. -/
def atAddress (address : Int) : Breakpoint := ⟨.pcMatch, some address, none, none, true⟩

/-- Whether a run has to stop before the instruction at a program address. -/
def stopsBefore (b : Breakpoint) (pc : Int) : Bool :=
  b.enabled && b.kind == .pcMatch && b.value == some pc

/-- The name of the watched register; an empty one names none. -/
def watched? (b : Breakpoint) : Option String := b.register.filter (· != "")

/-- Whether a condition other than one on the program counter holds of a cycle, given
the registers before it. -/
def matchesCycle (b : Breakpoint) (before : Registers) (cycle : Snapshot Registers) : Bool :=
  match b.kind with
  | .pcMatch => false
  | .memoryRead => cycle.accesses.any fun
    | .read address _ => some (address : Int) == b.address
    | .write _ _ => false
  | .memoryWrite => cycle.accesses.any fun
    | .read _ _ => false
    | .write address _ => some (address : Int) == b.address
  | .registerValue =>
    match b.watched? with
    | some name => cycle.registers.named? name == b.value
    | none => false
  | .registerChange =>
    match b.watched? with
    | some name =>
      match cycle.registers.named? name with
      | some now => before.named? name != some now
      | none => false
    | none => false

/-- Whether a run has to stop after a cycle, given the registers before it. -/
def stopsAfter (b : Breakpoint) (before : Registers) (cycle : Snapshot Registers) : Bool :=
  b.enabled && b.matchesCycle before cycle

end Breakpoint

end Chip8
