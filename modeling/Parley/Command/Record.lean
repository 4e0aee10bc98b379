import Parley.Disk.Basic
import Parley.Snapshot
import Parley.StorageKey
import Parley.Command.Arguments

/-!
# Stored conversations

Between two commands a conversation is kept in a file as a `Record`: the stack of its dialogs and
the directory of the scripts it was started from.  The file is found through the storage key of
the conversation's address.  Keys have slashes in them, so a key names a file in nested
directories; a key that leads anywhere but down from the state directory is refused.
-/

namespace Parley

/-- The version of records. -/
def recordVersion : String := "dialog-state.v1"

/-- The namespace of the storage keys of records. -/
def recordSpace : String := "dialogState"

/-- What is stored of a conversation. -/
structure Record where
  version : String := recordVersion
  scriptsDirectory : String
  entryDialog : String
  stack : Snapshot
deriving Repr, Inhabited

namespace Record

def toJson (r : Record) : Json :=
  .object [("schemaVersion", .string r.version), ("scriptsDir", .string r.scriptsDirectory),
    ("entryDialog", .string r.entryDialog), ("stack", r.stack.toJson)]

def decoder : Decoder Record :=
  .record ["schemaVersion", "scriptsDir", "entryDialog", "stack"] fun f => do
    return {
      version := ← f.required "schemaVersion" .string
      scriptsDirectory := ← f.required "scriptsDir" .string
      entryDialog := ← f.required "entryDialog" .string
      stack := ← f.required "stack" Snapshot.decoder }

end Record

/-- The key under which the conversation of an address is stored. -/
def Address.storageKey (a : Address) : Except DialogError String :=
  (a.message "").storageKey recordSpace

namespace StateFile

/-- What the name of a state file ends with. -/
def extension : String := ".json"

/-- The path of the state file of a key. -/
def path (stateDirectory key : String) : Except DialogError String :=
  if key ≠ "" ∧ ∀ step ∈ Path.steps key, Path.Descends step then
    .ok (Path.join stateDirectory (key ++ extension))
  else .error (.command .stateKey key)

variable {m : Type → Type} [Monad m]

/-- Load a record from a file. -/
def load (disk : Disk m) (path : String) : ExceptT DialogError m Record := do
  if (← disk.kind? path).isNone then throw (.command .stateNotFound path)
  match ← disk.readText path with
  | .error detail => throw (.commandDetail .stateRead "" detail)
  | .ok text =>
    match Record.decoder.text? text with
    | none => throw (.commandDetail .stateInvalid "" "not a record")
    | some r =>
      if r.version = recordVersion then return r
      else throw (.command .stateSchema r.version)

/-- Save a record in a file. -/
def save (disk : Disk m) (path : String) (r : Record) : ExceptT DialogError m Unit := do
  match ← disk.writeText path r.toJson.render with
  | .error detail => throw (.commandDetail .stateWrite "" detail)
  | .ok () => return ()

end StateFile

end Parley
