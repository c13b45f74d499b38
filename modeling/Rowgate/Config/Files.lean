import Rowgate.Config.Error
import Rowgate.Keyed
/-
The files that a process can reach.

A process reads files by their paths, asks whether there is something at a path, and looks for a file
in its working directory and in those above it; `FileSystem` is all that it knows of them. `Files`
are the directories and files of one system by their absolute paths, with the directory in which a
process works. There a path is walked name by name, from the root or from the working directory. Names
that are empty or one dot stay where they are, and two dots go up. A path that cannot be walked is
refused where it first fails.
-/
set_option autoImplicit false

namespace Rowgate

/-- What a process asks of its files. -/
structure FileSystem where
  /-- what is read at a path -/
  read : String → Except SystemError (List UInt8)
  /-- whether there is something at a path -/
  contains : String → Bool
  /-- the nearest file of a name in the working directory and those above it, if there is one -/
  nearest? : String → Option (Except SystemError (List UInt8))

/-- A directory, as the names that lead to it, the last one first. -/
abbrev Files.Directory := List String

/-- What stands at a path. -/
inductive Files.Entry where
  | directory
  | file (bytes : List UInt8)
  /-- a file that cannot be opened -/
  | closed (e : SystemError)
deriving DecidableEq, Repr

/-- Directories and files by their absolute paths. The root is not listed. -/
structure Files where
  workingDirectory : Files.Directory
  entries : Keyed Files.Entry
deriving DecidableEq, Repr

namespace Files

/-! ## Paths -/

/-- The most bytes of a name in a directory. -/
def maxNameLength : Nat := 255

/-- The most bytes of a path. -/
def maxPathLength : Nat := 4095

/-- The absolute path of a directory or of a file in one; nothing for the root. -/
def absolute : Directory → String
  | [] => ""
  | name :: up => absolute up ++ "/" ++ name

/-- What stands under a name in a directory. -/
def under? (files : Files) (dir : Directory) (name : String) : Option Entry :=
  files.entries.get? (absolute (name :: dir))

def Entry.isDirectory : Entry → Bool
  | .directory => true
  | _ => false

/-- The directory of a name in a directory, if that is one. The root holds itself. -/
def subdirectory? (files : Files) (dir : Directory) (name : String) : Option Directory :=
  if name = "." then some dir
  else if name = ".." then some dir.tail
  else if (files.under? dir name).any Entry.isDirectory then some (name :: dir)
  else none

/-- Goes from a directory to a directory in it. -/
def enter (files : Files) (dir : Directory) (name : String) : Except SystemError Directory :=
  match files.subdirectory? dir name with
  | some sub => .ok sub
  | none =>
    -- a name that is too long names nothing, and is told apart from one that is not there
    if maxNameLength < name.utf8ByteSize then .error .nameTooLong
    else if (files.under? dir name).isSome then .error .notDirectory
    else .error .notFound

/-- Where a path leads. -/
inductive Spot where
  | directory
  /-- a name that is none of a directory; a slash behind it takes it for one -/
  | named (dir : Directory) (name : String) (asDirectory : Bool)
deriving DecidableEq, Repr

/-- Walks a path up to its last name. -/
def follow (files : Files) (path : String) : Except SystemError Spot := do
  let cs := path.toList
  if cs.contains '\x00' then throw .nulInName
  if cs.isEmpty then throw .notFound
  if maxPathLength < path.utf8ByteSize then throw .nameTooLong
  let names := ((cs.splitOn '/').filter (!·.isEmpty)).map String.ofList
  let start := if cs.head? = some '/' then [] else files.workingDirectory
  -- every name but the last has to be that of a directory
  let dir ← names.dropLast.foldlM files.enter start
  match names.getLast? with
  | none => return .directory
  | some last =>
    return if (files.subdirectory? dir last).isSome then .directory
      else .named dir last (cs.getLast? == some '/')

/-! ## Reading and writing -/

/-- What stands where a path leads, if that is no directory. -/
def Spot.entry (files : Files) : Spot → Except SystemError Entry
  | .directory => .ok .directory
  | .named dir name asDirectory =>
    if maxNameLength < name.utf8ByteSize then .error .nameTooLong
    else match files.under? dir name with
      | none => .error .notFound
      | some entry => if asDirectory then .error .notDirectory else .ok entry

/-- What stands at a path. -/
def resolve (files : Files) (path : String) : Except SystemError Entry := do
  (← files.follow path).entry files

/-- What is read of an entry. -/
def Entry.read : Entry → Except SystemError (List UInt8)
  | .directory => .error .isDirectory
  | .file bytes => .ok bytes
  | .closed e => .error e

/-- What is read at a path. -/
def read (files : Files) (path : String) : Except SystemError (List UInt8) := do
  (← files.resolve path).read

/-- Whether there is something at a path. -/
def contains (files : Files) (path : String) : Bool := (files.resolve path).toOption.isSome

/-- The nearest file of a name in a directory and those above it. -/
def search (files : Files) (name : String) : Directory → Option (Except SystemError (List UInt8))
  | [] => here []
  | last :: up => (here (last :: up)).or (search files name up)
where
  here (dir : Directory) : Option (Except SystemError (List UInt8)) :=
    ((files.under? dir name).filter (!·.isDirectory)).map Entry.read

/-- The files as the process sees them. -/
def system (files : Files) : FileSystem where
  read := files.read
  contains := files.contains
  nearest? name := files.search name files.workingDirectory

/-- The files after one is written, in place of any that was there. -/
def write (files : Files) (path : String) (bytes : List UInt8) : Except SystemError Files := do
  match ← files.follow path with
  | .directory => throw .isDirectory
  | .named dir name asDirectory =>
    if asDirectory then throw .isDirectory
    if maxNameLength < name.utf8ByteSize then throw .nameTooLong
    if let some (.closed e) := files.under? dir name then throw e
    return { files with entries := files.entries.insert (absolute (name :: dir)) (.file bytes) }

end Files

end Rowgate
