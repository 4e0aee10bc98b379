import Parley.Disk.Path

/-!
# Disks

What the command line needs of a file system is a `Disk`: five operations on paths, in whatever
monad the file system lives.  Nothing else reads or writes files, so what a command does to a disk
can be told from what these operations do.
-/

namespace Parley

/-- What there is at a path. -/
inductive FileKind where
  | file
  | directory
deriving DecidableEq, Repr, Inhabited

/-- The operations on a file system. -/
structure Disk (m : Type → Type) where
  /-- The absolute path at which relative ones begin. -/
  workingDirectory : m String
  /-- What there is at a path, if anything can be told to be there. -/
  kind? : String → m (Option FileKind)
  /-- The names that lead from a directory to the files in it, in the order in which the file
  system lists them.  Directories that cannot be read count as empty. -/
  filesBelow : String → m (List (List String))
  /-- The bytes of a file, or why it cannot be read. -/
  read : String → m (Except String ByteArray)
  /-- Write a file in place of one that is there, and make the directories it needs, or tell why
  it cannot be written. -/
  write : String → ByteArray → m (Except String Unit)

namespace Disk

variable {m : Type → Type} [Monad m]

/-- The absolute path that a path stands for. -/
def resolve (disk : Disk m) (path : String) : m String :=
  if Path.isAbsolute path then pure path
  else do return Path.join (← disk.workingDirectory) path

/-- The text of a file, or why it cannot be read as one. -/
def readText (disk : Disk m) (path : String) : m (Except String String) := do
  return match ← disk.read path with
    | .error detail => .error detail
    | .ok bytes =>
      match String.fromUTF8? bytes with
      | some text => .ok text
      | none => .error "stream did not contain valid UTF-8"

/-- Write a text into a file. -/
def writeText (disk : Disk m) (path text : String) : m (Except String Unit) :=
  disk.write path text.toUTF8

end Disk

end Parley
