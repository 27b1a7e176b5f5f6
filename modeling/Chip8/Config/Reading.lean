import Chip8.Action
import Chip8.Config.System
import Chip8.Document

/-!
# From documents to configurations

A document that is a mapping is read as a configuration.  Sections and keys that are left
out, and sections that are empty values, stand for the standard choices; keys that mean
nothing where they stand are reported and otherwise ignored.

Integers may be written as numbers or as text, in the text also in base sixteen.  Truth
values and numbers with a fraction are not integers.

A document is read in a fixed order, which decides which of several faults is found:
unknown keys of the root, then the machine, the screen, the host keys, the breakpoints
and the program.  Within a section its unknown keys come first.
-/

namespace Chip8

set_option autoImplicit false

/-- Reading has no state; it fails or answers, and reports events. -/
abbrev Reading (α : Type) : Type := Action Unit α

namespace SystemConfig

open Value (lookup)

/-! ## Values -/

/-- The integer written in a text: in base sixteen after the mark `0x`, else in base ten. -/
def integerOfSymbols (s : List Text.Symbol) : Except Fault Int :=
  match s with
  | .char '0' :: .char 'x' :: _ | .char '0' :: .char 'X' :: _ => Value.integerIn 16 s
  | _ => Value.integerIn 10 s

/-- The integer written in a text of characters. -/
def integerOfText (s : String) : Except Fault Int :=
  integerOfSymbols (Text.Symbol.ofChars s.toList)

/-- A value of a document as an integer. -/
def integer (d : Document) : Value → Except Fault Int
  | .int n => .ok n
  | .text s => integerOfText s
  | .symbols s => integerOfSymbols s
  | value =>
    match d.written value with
    | .ok written => .error (.notInteger written)
    | .error fault => .error fault

/-- A value as a positive integer; `name` is what it is called in the fault. -/
def positive (d : Document) (name : String) (value : Value) : Except Fault Nat :=
  match integer d value with
  | .error fault => .error fault
  | .ok n =>
    if 0 < n then .ok n.toNat
    else
      match Value.integerText n with
      | .ok written => .error (.notPositive name written)
      | .error fault => .error fault

/-- A value as an integer, or none at all. -/
def optionalInteger (d : Document) : Value → Except Fault (Option Int)
  | .null => .ok none
  | value => (integer d value).map some

/-! ## Sections -/

/-- The entries of a mapping. -/
abbrev Entries : Type := List (Value × Value)

/-- The value under a key, or a standard one. -/
def valueOr (entries : Entries) (key : String) (standard : Value) : Value :=
  (lookup entries key).getD standard

/-- The section under a key; an empty value stands for an empty section. -/
def sectionOf (d : Document) (entries : Entries) (key : String) : Value :=
  let found := valueOr entries key .null
  if found.isEmpty then .map [] else d.resolve found

/-- The known keys of the root. -/
def rootKeys : List String := ["machine", "display", "keymap", "debug", "rom"]

/-- The known keys of the machine. -/
def machineKeys : List String :=
  ["cycles_per_second", "frame_rate", "timer_mode", "stack_depth", "seed"]

/-- The known keys of the screen. -/
def displayKeys : List String := ["scale", "foreground", "background"]

/-- The known keys of the debugger. -/
def debugKeys : List String := ["breakpoints"]

/-- Whether a key is one of the known ones. -/
def isKnown (known : List String) : Value → Bool
  | .text s => known.contains s
  | _ => false

/-- Reports the keys that are not known.  `path` is what they are called before their own
name. -/
def reportUnknown (d : Document) (path : String) (known : List String) : Entries → Reading Unit
  | [] => pure ()
  | (key, _) :: rest => do
    if isKnown known key then pure ()
    else
      let written ← Action.ofExcept (d.written key)
      Action.report (.unknownKey (path ++ written))
    reportUnknown d path known rest

/-- The entries of a section, whose unknown keys are reported. -/
def openSection (d : Document) (root : Entries) (name : String) (known : List String) :
    Reading Entries :=
  match sectionOf d root name with
  | .map entries => do
    reportUnknown d (name ++ ".") known entries
    pure entries
  | _ => Action.fail (.sectionNotMapping name)

/-! ## The parts of a configuration -/

/-- The timer mode; an unknown one is reported and replaced. -/
def readTimerMode (d : Document) : Value → Reading TimerMode
  | .text "realtime" => pure .realtime
  | .text "cycle" => pure .cycle
  | value => do
    let written ← Action.ofExcept (d.written value)
    Action.report (.unknownTimerMode written TimerMode.realtime.name)
    pure .realtime

/-- The choices about the machine. -/
def readMachine (d : Document) (root : Entries) : Reading MachineConfig := do
  let entries ← openSection d root "machine" machineKeys
  let timerMode ← readTimerMode d (valueOr entries "timer_mode" (.text TimerMode.realtime.name))
  let number (name : String) (standard : Nat) : Reading Nat :=
    Action.ofExcept (positive d name (valueOr entries name (.int standard)))
  let cyclesPerSecond ← number "cycles_per_second" standard.machine.cyclesPerSecond
  let frameRate ← number "frame_rate" standard.machine.frameRate
  let stackDepth ← number "stack_depth" standard.machine.stackDepth
  let seed ← Action.ofExcept (optionalInteger d (valueOr entries "seed" .null))
  pure ⟨cyclesPerSecond, frameRate, timerMode, stackDepth, seed⟩

/-- The choices about the screen. -/
def readDisplay (d : Document) (root : Entries) : Reading DisplayConfig := do
  let entries ← openSection d root "display" displayKeys
  let scale ← Action.ofExcept
    (positive d "scale" (valueOr entries "scale" (.int standard.display.scale)))
  let foreground ← Action.ofExcept
    (d.written (valueOr entries "foreground" (.text standard.display.foreground)))
  let background ← Action.ofExcept
    (d.written (valueOr entries "background" (.text standard.display.background)))
  pure ⟨scale, foreground, background⟩

/-- One entry of the host keys: a character and the number of a key. -/
def readKey (d : Document) (key value : Value) : Except Fault (String × Int) :=
  match d.written key, d.writtenLength key with
  | .error fault, _ | _, .error fault => .error fault
  | .ok character, .ok length =>
    if length = 1 then
      match integer d value with
      | .error fault => .error fault
      | .ok number =>
        if 0 ≤ number ∧ number ≤ 0xF then .ok (Text.lower character, number)
        else
          match Value.integerText number with
          | .ok written => .error (.keyIndexInvalid character written)
          | .error fault => .error fault
    else .error (.keyNotSingle character)

/-- The host keys: the entries of the section put over a table, in order. -/
def overlayKeys (d : Document) (keymap : Keymap) : Entries → Except Fault Keymap
  | [] => .ok keymap
  | (key, value) :: rest =>
    match readKey d key value with
    | .ok (character, number) => overlayKeys d (Chip8.assign character number keymap) rest
    | .error fault => .error fault

/-- The host keys. -/
def readKeymap (d : Document) (root : Entries) : Reading Keymap :=
  match sectionOf d root "keymap" with
  | .map entries => Action.ofExcept (overlayKeys d defaultKeymap entries)
  | _ => Action.fail (.sectionNotMapping "keymap")

/-- Integers one after another, up to the first fault. -/
def integers (d : Document) : List Value → Except Fault (List Int)
  | [] => .ok []
  | value :: rest =>
    match integer d value with
    | .error fault => .error fault
    | .ok n => (integers d rest).map (n :: ·)

/-- The breakpoints; an empty value stands for none. -/
def readBreakpoints (d : Document) (root : Entries) : Reading (List Int) := do
  let entries ← openSection d root "debug" debugKeys
  let found := valueOr entries "breakpoints" .null
  if found.isEmpty then pure []
  else
    let items ← Action.ofExcept (d.resolve found).elements
    Action.ofExcept (integers d items)

/-- The program. -/
def readRom (d : Document) (root : Entries) : Except Fault (Option String) :=
  match valueOr root "rom" .null with
  | .null => .ok none
  | value => (d.written value).map some

/-- Reads a document as a configuration; an empty value stands for an empty mapping. -/
def ofDocument (d : Document) : Reading SystemConfig :=
  match (if d.root.isEmpty then .map [] else d.resolve d.root) with
  | .map root => do
    reportUnknown d "" rootKeys root
    let machine ← readMachine d root
    let display ← readDisplay d root
    let keymap ← readKeymap d root
    let breakpoints ← readBreakpoints d root
    let rom ← Action.ofExcept (readRom d root)
    pure ⟨machine, display, keymap, breakpoints, rom⟩
  | _ => Action.fail .rootNotMapping

end SystemConfig

end Chip8
