import Parley.Session

/-!
# Errors

A `DialogError` is a cause.  It has a code for programs, a message for people and, where it arose
on a line of a dialog, the location of that line.  Callbacks raise errors of their own; all others
are named here.

Where a cause comes from the reader of a text, the compiler of a pattern or the file system, its
message ends in a `detail` that those give.
-/

namespace Parley

/-- A failure of the command line itself. -/
inductive CommandFailure where
  | sourceNotFound
  | sourceNotDirectory
  | sourceRead
  | sourceEmpty
  | sourceDuplicate
  | stateKey
  | stateNotFound
  | stateRead
  | stateInvalid
  | stateSchema
  | stateWrite
deriving DecidableEq, Repr, Inhabited

namespace CommandFailure

/-- The code of a failure. -/
def code : CommandFailure → String
  | sourceNotFound => "CLI_SOURCE_NOT_FOUND"
  | sourceNotDirectory => "CLI_SOURCE_NOT_DIR"
  | sourceRead => "CLI_SOURCE_READ"
  | sourceEmpty => "CLI_SOURCE_EMPTY"
  | sourceDuplicate => "CLI_SOURCE_DUPLICATE"
  | stateKey => "CLI_STATE_KEY"
  | stateNotFound => "CLI_STATE_NOT_FOUND"
  | stateRead => "CLI_STATE_READ"
  | stateInvalid => "CLI_STATE_INVALID"
  | stateSchema => "CLI_STATE_SCHEMA"
  | stateWrite => "CLI_STATE_WRITE"

/-- What a failure is about; the message adds to what it happened. -/
def summary : CommandFailure → String
  | sourceNotFound => "scripts-dir does not exist"
  | sourceNotDirectory => "scripts-dir is not a directory"
  | sourceRead => "cannot read dialog file"
  | sourceEmpty => "no *.dialog.json files under scripts-dir"
  | sourceDuplicate => "dialog id defined twice"
  | stateKey => "storage key cannot be used as a path"
  | stateNotFound => "no conversation state"
  | stateRead => "cannot read conversation state"
  | stateInvalid => "conversation state is not valid JSON"
  | stateSchema => "unsupported dialog state schema"
  | stateWrite => "cannot write conversation state"

end CommandFailure

/-- Why something failed. -/
inductive DialogError where
  /-- An error raised by a callback or by a host. -/
  | raised (code message : String) (location : Option Location)
  /-- A session stands on a thread that its dialog does not have. -/
  | threadNotFound (dialog : String) (location : Location)
  /-- A dialog took more steps in one turn than it may. -/
  | stepGuard (dialog : String) (limit : Nat) (location : Location)
  /-- No dialog has this id. -/
  | dialogNotRegistered (dialog : String)
  /-- A stored stack has a frame of a dialog that no longer exists. -/
  | snapshotNotRegistered (dialog : String)
  /-- An activity comes from no conversation. -/
  | conversationMissing
  /-- An activity comes from no channel. -/
  | channelMissing
  /-- An action that starts a dialog does not say which. -/
  | executeMissing (keyword : String)
  /-- A handler has a type of match that does not exist. -/
  | matchTypeUnsupported (name : String)
  /-- The pattern of a handler cannot be read. -/
  | patternInvalid (pattern detail : String)
  /-- A handler has no pattern and is not the default. -/
  | patternMissing
  /-- The handlers of a line are not a list. -/
  | handlersUnsupported
  /-- A handler is not defined as one. -/
  | handlerInvalid (detail : String)
  /-- A dialog definition cannot be read. -/
  | definitionInvalid (detail : String)
  /-- An error on a line of a dialog definition. -/
  | onLine (dialog thread : String) (index : Nat) (cause : DialogError)
  /-- An error in a file, named by its path. -/
  | inFile (path : String) (cause : DialogError)
  /-- The command line failed on something that is told in full. -/
  | command (failure : CommandFailure) (subject : String)
  /-- The command line failed for a reason from outside. -/
  | commandDetail (failure : CommandFailure) (subject detail : String)
deriving DecidableEq, Repr, Inhabited

namespace DialogError

/-- The code of an error. -/
def code : DialogError → String
  | raised code _ _ => code
  | threadNotFound .. => "DIALOG_THREAD_NOT_FOUND"
  | stepGuard .. => "DIALOG_STEP_GUARD"
  | dialogNotRegistered _ | snapshotNotRegistered _ => "HOST_DIALOG_NOT_FOUND"
  | conversationMissing => "KEY_CONVERSATION_MISSING"
  | channelMissing => "KEY_CHANNEL_MISSING"
  | executeMissing _ => "BUILD_ACTION_EXECUTE_MISSING"
  | matchTypeUnsupported _ => "BUILD_HANDLER_TYPE"
  | patternInvalid .. => "BUILD_HANDLER_PATTERN"
  | handlersUnsupported => "BUILD_UNSUPPORTED_HANDLER"
  | patternMissing | handlerInvalid _ | definitionInvalid _ => "BUILD_SCRIPT_INVALID"
  | onLine _ _ _ cause | inFile _ cause => cause.code
  | command failure _ | commandDetail failure _ _ => failure.code

/-- A text between double quotes. -/
def quote (text : String) : String := "\"" ++ text ++ "\""

/-- The message of an error. -/
def message : DialogError → String
  | raised _ message _ => message
  | threadNotFound dialog location =>
    "Thread " ++ quote location.thread ++ " not found in dialog " ++ quote dialog ++ "."
  | stepGuard dialog limit _ =>
    "Dialog " ++ quote dialog ++ " exceeded " ++ toString limit ++ " steps in a single turn."
  | dialogNotRegistered dialog => "Dialog " ++ quote dialog ++ " is not registered."
  | snapshotNotRegistered dialog =>
    "Snapshot references unregistered dialog " ++ quote dialog ++ "."
  | conversationMissing => "Activity is missing conversation.id."
  | channelMissing => "Activity is missing channelId."
  | executeMissing keyword => "Action " ++ quote keyword ++ " requires execute.script."
  | matchTypeUnsupported name => "Unsupported handler match type " ++ quote name ++ "."
  | patternInvalid pattern detail =>
    "Handler pattern " ++ quote pattern ++ " is invalid: " ++ detail
  | patternMissing => "Handlers must declare a pattern unless they are the default."
  | handlersUnsupported => "Unsupported option type: collect.options must be a list of handlers."
  | handlerInvalid detail => "Handler definition is invalid: " ++ detail
  | definitionInvalid detail => "Dialog definition is not valid JSON: " ++ detail
  | onLine dialog thread index cause =>
    cause.message ++ " (" ++ dialog ++ "/" ++ thread ++ "[" ++ toString index ++ "])"
  | inFile path cause => path ++ ": " ++ cause.message
  | command failure subject => failure.summary ++ ": " ++ subject
  | commandDetail failure subject detail => failure.summary ++ ": " ++ subject ++ detail

/-- Where an error arose. -/
def location : DialogError → Option Location
  | raised _ _ location => location
  | threadNotFound _ location | stepGuard _ _ location => some location
  | _ => none

/-- The code and the message of an error in one line. -/
def display (e : DialogError) : String := e.code ++ ": " ++ e.message

/-- The same error with another text for the detail from outside, if it has one. -/
def withDetail (detail : String) : DialogError → DialogError
  | patternInvalid pattern _ => patternInvalid pattern detail
  | handlerInvalid _ => handlerInvalid detail
  | definitionInvalid _ => definitionInvalid detail
  | onLine dialog thread index cause => onLine dialog thread index (cause.withDetail detail)
  | inFile path cause => inFile path (cause.withDetail detail)
  | commandDetail failure subject _ => commandDetail failure subject detail
  | e => e

end DialogError

end Parley
