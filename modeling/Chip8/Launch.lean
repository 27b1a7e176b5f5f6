import Chip8.Config.Assembly
import Chip8.Config.Source

/-!
# Launching a system

What a command line asks for, and the configuration that follows from it.

A command line may name a program, a configuration file and the least level of the events
that are shown.  A program that is named there goes before the one of the configuration;
without a configuration file the standard choices hold.
-/

namespace Chip8

set_option autoImplicit false

/-- What a command line asks for. -/
structure Launch where
  rom : Option String
  config : Option String
  /-- Events below this level are not shown. -/
  level : Level
  deriving DecidableEq, Repr

/-- What to do about a command line. -/
inductive LaunchRequest where
  | start (launch : Launch)
  | showHelp
  deriving DecidableEq, Repr

/-- Why a command line is refused. -/
inductive UsageFault where
  | missingArgument (option : String)
  | unknownLevel (given : String)
  | unrecognized (arguments : List String)
  deriving DecidableEq, Repr

namespace UsageFault

/-- The wording of a refusal. -/
def message : UsageFault → String
  | missingArgument option => "argument " ++ option ++ ": expected one argument"
  | unknownLevel given =>
      "argument --log-level: invalid choice: " ++ Text.quoted given ++ " (choose from " ++
        ", ".intercalate (Level.all.map fun level => Text.quoted level.name) ++ ")"
  | unrecognized arguments => "unrecognized arguments: " ++ " ".intercalate arguments

end UsageFault

namespace Launch

/-- A command line without arguments. -/
def standard : Launch := ⟨none, none, .warning⟩

/-- The line that shows how to write a command. -/
def usage : String :=
  "usage: chip8-tracer [-h] [--config CONFIG] [--log-level \x7bDEBUG,INFO,WARNING,ERROR\x7d] [rom]"

/-- Whether an argument has the form of an option. -/
def isOption (argument : String) : Bool := argument.startsWith "-" && argument != "-"

/-- The level with a name in any letter case. -/
def levelOf (given : String) : Except UsageFault Level :=
  match Level.all.find? fun level => level.name == Text.upper given with
  | some level => .ok level
  | none => .error (.unknownLevel (Text.upper given))

/-- An argument that is no option: the first one names the program. -/
def takePlain (launch : Launch) (unknown : List String) (argument : String) :
    Launch × List String :=
  match launch.rom with
  | none => ({ launch with rom := some argument }, unknown)
  | some _ => (launch, unknown ++ [argument])

/-- Reads arguments into what was read before; `unknown` are those that mean nothing. -/
def read (launch : Launch) (unknown : List String) :
    List String → Except UsageFault LaunchRequest
  | [] => if unknown.isEmpty then .ok (.start launch) else .error (.unrecognized unknown)
  | [argument] =>
    if argument = "-h" ∨ argument = "--help" then .ok .showHelp
    else if argument = "--config" ∨ argument = "--log-level" then
      .error (.missingArgument argument)
    else if isOption argument then .error (.unrecognized (unknown ++ [argument]))
    else
      let (launch, unknown) := takePlain launch unknown argument
      read launch unknown []
  | argument :: value :: rest =>
    if argument = "-h" ∨ argument = "--help" then .ok .showHelp
    else if argument = "--config" then
      if isOption value then .error (.missingArgument argument)
      else read { launch with config := some value } unknown rest
    else if argument = "--log-level" then
      if isOption value then .error (.missingArgument argument)
      else
        match levelOf value with
        | .ok level => read { launch with level := level } unknown rest
        | .error fault => .error fault
    else if isOption argument then read launch (unknown ++ [argument]) (value :: rest)
    else
      let (launch, unknown) := takePlain launch unknown argument
      read launch unknown (value :: rest)

/-- What the arguments of a command line ask for. -/
def ofArguments (arguments : List String) : Except UsageFault LaunchRequest :=
  read standard [] arguments

/-- A value that is given and not empty. -/
def given (value : Option String) : Option String := value.filter (· != "")

/-- The configuration that a launch asks for. -/
def configuration (launch : Launch) (files : Files) : Reading SystemConfig := do
  let config ←
    match given launch.config with
    | some path => SystemConfig.ofFile files path
    | none => pure SystemConfig.standard
  pure { config with rom := (given launch.rom).or config.rom }

/-- A session on the machine that a configuration asks for. -/
def session (config : SystemConfig) (host : Host) : Action Unit Session := do
  let machine ← config.buildMachine host
  pure (config.buildSession machine)

end Launch

/-- One line of a trace: the cycle, the address and digits of the word, the instruction. -/
def Snapshot.traceLine {ρ : Type} (snapshot : Snapshot ρ) : String :=
  let place :=
    match snapshot.accesses with
    | .read address _ :: _ => Text.upperHex 4 address
    | _ => "----"
  toString snapshot.cycle ++ "  " ++ place ++ "  " ++ snapshot.operation.digits ++ "  " ++
    snapshot.text

end Chip8
