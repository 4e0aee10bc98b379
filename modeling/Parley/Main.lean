import Parley.Command.Response

/-!
# The program

Runs on the file system of the machine, and prints its response to the arguments.
-/

namespace Parley.Program

/-- Carry out an operation; its failure is a text. -/
def attempt {α : Type} (operation : IO α) : IO (Except String α) := do
  try return .ok (← operation)
  catch e => return .error (toString e)

/-- What there is at a path. -/
def kind? (path : String) : IO (Option FileKind) := do
  match ← attempt do return (← (← IO.FS.realPath path).metadata).type with
  | .ok .dir => return some .directory
  | .ok _ => return some .file
  | .error _ => return none

/-- The files below a directory, by the names that lead to them. -/
partial def filesBelow (directory : String) : IO (List (List String)) := do
  match ← attempt do return (← (← IO.FS.realPath directory).readDir) with
  | .error _ => return []
  | .ok entries =>
    let found ← entries.toList.mapM fun entry => do
      match ← attempt do return (← entry.path.symlinkMetadata).type with
      | .ok .dir =>
        return (← filesBelow (Path.join directory entry.fileName)).map (entry.fileName :: ·)
      | .ok .file => return [[entry.fileName]]
      | _ => return []
    return found.flatten

/-- Write a file, in directories that are made if they are missing. -/
def write (path : String) (content : ByteArray) : IO Unit := do
  let directory := Path.parent path
  unless directory.isEmpty do IO.FS.createDirAll directory
  IO.FS.writeBinFile path content

/-- The file system of the machine. -/
def disk : Disk IO where
  workingDirectory := do return (← IO.currentDir).toString
  kind? := kind?
  filesBelow := filesBelow
  read path := attempt (IO.FS.readBinFile path)
  write path content := attempt (write path content)

/-- A turn may take this many rounds. -/
def rounds : Nat := Nat.pow 10 9

/-- Run the program and give its exit code. -/
def run (arguments : List String) : IO UInt32 := do
  let now ← IO.monoNanosNow
  let response ← respond disk rounds (fun n => (now + n).toUInt32) arguments
  for line in response.notes do
    IO.eprintln line
  for line in response.output do
    IO.println line
  return response.exitCode

end Parley.Program

/-- The entry point. -/
def main (arguments : List String) : IO UInt32 := Parley.Program.run arguments
