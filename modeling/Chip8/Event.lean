import Chip8.Text.Hex

/-!
# Events

What the parts of the system report while they work.  An event is a value; its
level and its wording are functions of it.
-/

namespace Chip8

set_option autoImplicit false

open Text

/-- How much an event matters. -/
inductive Level where
  | debug
  | info
  | warning
  | error
  deriving DecidableEq, Repr

/-- The name of a level in a log. -/
def Level.name : Level → String
  | debug => "DEBUG"
  | info => "INFO"
  | warning => "WARNING"
  | error => "ERROR"

/-- All levels, the least one first. -/
def Level.all : List Level := [.debug, .info, .warning, .error]

/-- How much a level matters, as a number. -/
def Level.weight : Level → Nat
  | debug => 0
  | info => 1
  | warning => 2
  | error => 3

/-- The things worth reporting. -/
inductive Event where
  /-- A word that is no instruction was executed at an address. -/
  | unmappedWord (word : Nat) (place : Int)
  /-- Several timer ticks had become due since the last look at the clock. -/
  | ticksConsumed (count : Int)
  /-- A program image was placed in memory. -/
  | programLoaded (length start : Nat)
  /-- A program image was read from a file. -/
  | romLoaded (name : String)
  /-- A breakpoint stopped a run. -/
  | breakpointHit (pc : Int)
  /-- A configuration file was read. -/
  | configLoaded (path : String)
  /-- A configuration has a key that means nothing where it stands. -/
  | unknownKey (key : String)
  /-- A configuration names a timer mode that does not exist. -/
  | unknownTimerMode (mode fallback : String)
  deriving DecidableEq, Repr

namespace Event

/-- The level of an event. -/
def level : Event → Level
  | unmappedWord .. | ticksConsumed .. => .debug
  | programLoaded .. | romLoaded .. | breakpointHit .. | configLoaded .. => .info
  | unknownKey .. | unknownTimerMode .. => .warning

/-- The wording of an event. -/
def message : Event → String
  | unmappedWord word place =>
      "Unmapped opcode " ++ upperHex 4 word ++ " at " ++ programAddress place
  | ticksConsumed count => "Consumed " ++ toString count ++ " timer ticks at once"
  | programLoaded length start =>
      "Loaded " ++ toString length ++ " bytes of ROM at " ++ programAddress start
  | romLoaded name => "Loaded ROM " ++ name
  | breakpointHit pc => "Breakpoint hit at PC: " ++ address pc
  | configLoaded path => "Loaded system config from " ++ path
  | unknownKey key => "Ignoring unknown config key '" ++ key ++ "'"
  | unknownTimerMode mode fallback =>
      "Unknown timer_mode '" ++ mode ++ "', falling back to '" ++ fallback ++ "'"

end Event

end Chip8
