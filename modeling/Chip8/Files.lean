import Chip8.Fault

/-!
# Files of the host

All that the system asks of a host's files: the bytes that a path names, or why there are
none, and the directory in which a path lies.  Where the bytes come from is left open; a
tree of files held in memory is one answer, a disk is another.
-/

namespace Chip8

set_option autoImplicit false

/-- The files of a host. -/
structure Files where
  /-- The bytes of the file that a path names. -/
  read : String → Except PathFault (List UInt8)
  /-- The absolute path of the directory in which a path lies. -/
  directoryOf : String → String

/-- The parts of a path between its slashes. -/
def pathParts (path : String) : List String := path.splitOn "/"

/-- Whether a path does not depend on the working directory. -/
def isAbsolutePath (path : String) : Bool := path.toList.head? == some '/'

/-- What follows the last slash of a path. -/
def baseName (path : String) : String := ((pathParts path).getLast?).getD path

/-- The parts of a path with points resolved by the text alone. -/
def normalParts (parts : List String) : List String :=
  (parts.foldl
    (fun (done : List String) part =>
      if part = "" ∨ part = "." then done
      else if part = ".." then done.tail
      else part :: done)
    []).reverse

end Chip8
