import Chip8.Config.Decoding
import Chip8.Config.Reading
import Chip8.Files

/-!
# Configurations from texts and files

A configuration is written as a YAML document, in a text or in a file of UTF-8 text.  A
program that a file names by a relative path is looked for from the directory of that file.
-/

namespace Chip8.SystemConfig

set_option autoImplicit false

/-- The configuration that a text stands for. -/
def ofText (text : String) : Reading SystemConfig := do
  let d ← Action.ofExcept (Yaml.read text)
  ofDocument d

/-- The bytes of a configuration file. -/
def readFile (files : Files) (path : String) : Except Fault (List UInt8) :=
  if path.toList.contains '\x00' then .error .pathHoldsNull
  else
    match files.read path with
    | .ok bytes => .ok bytes
    | .error cause => .error (.fileUnreadable path cause)

/-- The path of a program as seen from the working directory, if it was written as seen from
a directory.  An empty path names no program and stays. -/
def romFrom (directory rom : String) : String :=
  if rom = "" ∨ isAbsolutePath rom then rom else directory ++ "/" ++ rom

/-- The configuration in a file. -/
def ofFile (files : Files) (path : String) : Reading SystemConfig := do
  let bytes ← Action.ofExcept (readFile files path)
  let (text, cut) := Decoding.textOf bytes
  let d ← Action.ofExcept (Yaml.readCut text cut)
  let config ← ofDocument d
  Action.report (.configLoaded path)
  pure { config with rom := config.rom.map (romFrom (files.directoryOf path)) }

end Chip8.SystemConfig
