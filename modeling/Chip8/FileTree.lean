import Chip8.Files

/-!
# Files in memory

A tree of files and directories below a working directory, and the reading of a file
by its path.  A path is walked part by part: empty parts and single points stay,
double points go up, and every part needs a directory to be looked up in.  The parts
are not simplified beforehand, so `missing/../file` is not found even if `file` is.
Paths and parts of paths have a greatest length.

Nothing outside the working directory can be read; what lies there counts as
directories without entries.
-/

namespace Chip8

set_option autoImplicit false

/-- What a path can name. -/
inductive FileEntry where
  | directory
  | file (bytes : List UInt8)
  deriving DecidableEq, Repr

/-- The files below a working directory. -/
structure FileTree where
  /-- The absolute path of the working directory. -/
  root : String
  /-- Files and directories by the parts of their path. -/
  entries : List (List String × FileEntry)

/-- Where a walk along a path has arrived. -/
inductive Place where
  /-- Below the working directory. -/
  | inside (parts : List String)
  /-- Anywhere else. -/
  | outside
  deriving DecidableEq, Repr

namespace FileTree

/-- The directories above a path, the working directory left out. -/
def parents (parts : List String) : List (List String) :=
  (List.range (parts.length - 1)).map fun k => parts.take (k + 1)

/-- A tree of files and empty directories, with all directories above them. -/
def ofFiles (root : String) (files : List (String × FileEntry)) : FileTree where
  root := root
  entries :=
    files.flatMap fun (path, entry) =>
      let parts := pathParts path
      (parts, entry) :: (parents parts).map fun above => (above, FileEntry.directory)

/-- What is at a place, if anything. -/
def entry? (tree : FileTree) : Place → Option FileEntry
  | .outside => some .directory
  | .inside [] => some .directory
  | .inside parts => tree.entries.lookup parts

/-- The most bytes of a part of a path. -/
def partLimit : Nat := 255

/-- The most bytes of a path. -/
def pathLimit : Nat := 4095

/-- The place that one part of a path leads to. -/
def follow (tree : FileTree) (place : Place) (part : String) : Except PathFault Place :=
  match tree.entry? place with
  | some .directory =>
    if part = "" ∨ part = "." then .ok place
    else if partLimit < part.utf8ByteSize then .error .nameTooLong
    else
      match place with
      | .outside => if part = ".." then .ok .outside else .error .notFound
      | .inside parts =>
        if part = ".." then
          .ok (if parts.isEmpty then .outside else .inside parts.dropLast)
        else if (tree.entry? (.inside (parts ++ [part]))).isSome then
          .ok (.inside (parts ++ [part]))
        else .error .notFound
  | some (.file _) => .error .notDirectory
  | none => .error .notFound

/-- The place that the parts of a path lead to. -/
def walk (tree : FileTree) (place : Place) : List String → Except PathFault Place
  | [] => .ok place
  | part :: rest =>
    match tree.follow place part with
    | .ok next => tree.walk next rest
    | .error fault => .error fault

/-- The parts of a path from the working directory on, and whether the path starts
there.  A path that names the working directory by its absolute path does. -/
def partsFromRoot (tree : FileTree) (path : String) : Bool × List String :=
  let rootParts := pathParts tree.root
  let parts := pathParts path
  if parts.take rootParts.length = rootParts then (true, parts.drop rootParts.length)
  else (!isAbsolutePath path, parts)

/-- The bytes of the file that a path names. -/
def read (tree : FileTree) (path : String) : Except PathFault (List UInt8) :=
  if path = "" then .error .notFound
  else if pathLimit < path.utf8ByteSize then .error .nameTooLong
  else
    let (inside, parts) := tree.partsFromRoot path
    match tree.walk (if inside then .inside [] else .outside) parts with
    | .ok place =>
      match tree.entry? place with
      | some (.file bytes) => .ok bytes
      | some .directory => .error .isDirectory
      | none => .error .notFound
    | .error fault => .error fault

/-- The absolute path of the directory in which a path lies, with the points in it
resolved by the text alone. -/
def directoryOf (tree : FileTree) (path : String) : String :=
  "/".intercalate (tree.root :: (normalParts (tree.partsFromRoot path).2).dropLast)

/-- A tree as the files of a host. -/
def toFiles (tree : FileTree) : Files := ⟨tree.read, tree.directoryOf⟩

end FileTree

end Chip8
