import Chip8.Launch

/-!
# The command

Launches a system from the command line and traces it: one line for every cycle, until a
breakpoint or a fault ends the run.  Events go to the error output.

A command line that is refused and a configuration that cannot be read end with the status
2, a system that cannot be started and a fault in the run with 1.
-/

namespace Chip8.Command

set_option autoImplicit false

/-- Shows a line with its level. -/
def report (least level : Level) (text : String) : IO Unit := do
  if least.weight ≤ level.weight then IO.eprintln (level.name ++ " " ++ text)

/-- Shows the events that matter enough. -/
def showEvents (least : Level) (events : List Event) : IO Unit := do
  for event in events do
    report least event.level event.message

/-- The number of the operating system for a directory where a file was expected. -/
def directoryCode : UInt32 := 21

/-- The number of the operating system for a name that is too long. -/
def nameLengthCode : UInt32 := 36

/-- Reads a file from the disk. -/
def readDisk (path : String) : IO (Except PathFault (List UInt8)) := do
  try
    return .ok (← IO.FS.readBinFile path).toList
  catch cause =>
    match cause with
    | .noFileOrDirectory .. => return .error .notFound
    | .inappropriateType _ code _ =>
      return .error (if code = directoryCode then .isDirectory else .notDirectory)
    | .invalidArgument _ code wording =>
      return .error (if code = nameLengthCode then .nameTooLong else .other code.toNat wording)
    | .permissionDenied _ code wording | .resourceExhausted _ code wording
    | .hardwareFault code wording | .otherError code wording =>
      return .error (.other code.toNat wording)
    | other => throw other

/-- Files of which one has been read, as seen from the working directory. -/
def filesWith (path : Option String) : IO Files := do
  let root := (← IO.currentDir).toString
  let content ←
    match path with
    | some name => readDisk name
    | none => pure (.error .notFound)
  return {
    read := fun name => if some name = path then content else .error .notFound
    directoryOf := fun name =>
      let full := if isAbsolutePath name then name else root ++ "/" ++ name
      "/" ++ "/".intercalate (normalParts (pathParts full)).dropLast }

/-- The present reading of the clock, in seconds. -/
def clock : IO ClockTime := do
  return .real (Float.ofNat (← IO.monoNanosNow) / 1000000000)

/-- Random bytes that differ from run to run. -/
def freshBytes : IO RandomSource := do
  let bytes ← IO.getRandomBytes 8
  return RandomSource.seeded (bytes.toList.foldl (fun n byte => n * 256 + byte.toNat) 0 : Nat)

/-- Runs a session cycle by cycle. -/
partial def trace (least : Level) (session : Session) : IO UInt32 := do
  let now ← clock
  let ready := Session.onMachine
    (Processor.changeDevices fun d => { d with ticks := d.ticks.setClock now }) session
  let o := Session.run 1 (some 1) none ready.state
  match o.result with
  | .error fault =>
    showEvents least o.events
    report least .error fault.message
    return 1
  | .ok ended =>
    if session.machine.cycles < o.state.machine.cycles then
      IO.println ((o.state.last.map Snapshot.traceLine).getD "")
    showEvents least o.events
    if ended = .breakpoint then return 0 else trace least o.state

/-- Starts the system of a configuration. -/
def start (least : Level) (config : SystemConfig) : IO UInt32 := do
  let host : Host := ⟨← filesWith config.rom, ← freshBytes, ← clock⟩
  let o := Launch.session config host ()
  showEvents least o.events
  match o.result with
  | .ok session => trace least session
  | .error fault =>
    report least .error ("Failed to start: " ++ fault.message)
    return 1

/-- Does what a command line asks for. -/
def run (arguments : List String) : IO UInt32 := do
  match Launch.ofArguments arguments with
  | .error fault =>
    IO.eprintln Launch.usage
    IO.eprintln ("chip8-tracer: error: " ++ fault.message)
    return 2
  | .ok .showHelp =>
    IO.println Launch.usage
    return 0
  | .ok (.start launch) =>
    let o := launch.configuration (← filesWith (Launch.given launch.config)) ()
    showEvents launch.level o.events
    match o.result with
    | .ok config => start launch.level config
    | .error fault =>
      report launch.level .error
        ("Failed to load system config " ++ launch.config.getD "" ++ ": " ++ fault.message)
      return 2

end Chip8.Command

/-- The command. -/
def main (arguments : List String) : IO UInt32 := Chip8.Command.run arguments
