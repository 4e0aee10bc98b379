import Parley.Dialog.Definition
import Parley.Disk.Basic
import Parley.Stack.Basic

/-!
# Script libraries

A directory of scripts holds any number of files, in directories nested to any depth; those whose
names end in `.dialog.json` define one dialog each.  They are taken in the order of their paths
relative to the directory, whatever the order in which the file system lists them, and no two may
define the same dialog.
-/

namespace Parley

/-- The dialogs of a directory of scripts. -/
structure Library where
  /-- The absolute path of the directory. -/
  directory : String
  dialogs : DialogSet

namespace Library

/-- What the names of dialog files end with. -/
def fileSuffix : String := ".dialog.json"

/-- Whether a file, given by the names that lead to it, defines a dialog. -/
def isDialogFile (names : List String) : Bool :=
  names.getLast?.any fun name => fileSuffix.toList.isSuffixOf name.toList

/-- How a file is called in errors: its path relative to the directory, with slashes. -/
def sourceName (names : List String) : String :=
  String.ofList ((Path.relative names).toList.map fun c => if c = '\\' then '/' else c)

/-! ### From texts to dialogs -/

/-- Dialogs that have been read, and the files that define them. -/
structure Loaded where
  dialogs : DialogSet := []
  origins : Keyed String := []

/-- Read the dialog of one more file. -/
def Loaded.add (l : Loaded) (source : String × String) : Except DialogError Loaded := do
  let definition ← (DialogDefinition.read source.2).mapError (.inFile source.1)
  match Keyed.get? l.origins definition.id with
  | some origin =>
    throw (.command .sourceDuplicate
      (DialogError.quote definition.id ++ " in both " ++ origin ++ " and " ++ source.1))
  | none =>
    let d ← definition.toDialog {}
    return {
      dialogs := l.dialogs.add d
      origins := Keyed.insert l.origins definition.id source.1 }

/-- The dialogs of files, given by their names and texts. -/
def ofSources (sources : Keyed String) : Except DialogError DialogSet :=
  (sources.foldlM Loaded.add {}).map Loaded.dialogs

/-! ### From a directory -/

variable {m : Type → Type} [Monad m]

/-- Read a file and add its text to those of others. -/
def readSource (disk : Disk m) (directory : String) (sources : Keyed String)
    (names : List String) : ExceptT DialogError m (Keyed String) := do
  match ← disk.readText (Path.join directory (Path.relative names)) with
  | .error detail => throw (.commandDetail .sourceRead (sourceName names ++ ": ") detail)
  | .ok text => return Keyed.insert sources (sourceName names) text

/-- Load the dialogs of a directory. -/
def load (disk : Disk m) (path : String) : ExceptT DialogError m Library := do
  let directory ← disk.resolve path
  match ← disk.kind? directory with
  | none => throw (.command .sourceNotFound directory)
  | some .file => throw (.command .sourceNotDirectory directory)
  | some .directory =>
    let files := (← disk.filesBelow directory).filter isDialogFile
    let sources ← files.foldlM (readSource disk directory) []
    if sources.isEmpty then throw (.command .sourceEmpty directory)
    return ⟨directory, ← ofSources sources⟩

end Library

end Parley
