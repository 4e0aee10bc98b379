import Parley.DialogError

/-!
# Actions

What a line or a handler does next.  An action is written as a keyword; any word that is no keyword
names a thread to go to.
-/

namespace Parley

/-- A dialog to be started, and the thread to start it on. -/
structure Execute where
  script : String
  thread : Option String := none
deriving DecidableEq, Repr, Inhabited

/-- What happens next. -/
inductive Action where
  /-- Go on with the next line. -/
  | next
  /-- End the dialog as completed. -/
  | complete
  /-- End the dialog as canceled. -/
  | stop
  /-- End the dialog as timed out. -/
  | timeout
  /-- Go back to the line before. -/
  | repeatLine
  /-- Wait on this line. -/
  | wait
  /-- Start a dialog in place of this one. -/
  | executeScript (execute : Execute)
  /-- Start a dialog on top of this one. -/
  | beginDialog (execute : Execute)
  /-- Go to a thread. -/
  | thread (name : String)
deriving DecidableEq, Repr, Inhabited

namespace Action

/-- The action of a keyword.  Those that start a dialog need to be told which. -/
def ofKeyword (keyword : String) (execute : Option Execute) : Except DialogError Action :=
  match keyword with
  | "next" => .ok next
  | "complete" => .ok complete
  | "stop" => .ok stop
  | "timeout" => .ok timeout
  | "repeat" => .ok repeatLine
  | "wait" => .ok wait
  | "execute_script" => started executeScript
  | "beginDialog" => started beginDialog
  | name => .ok (thread name)
where
  /-- An action that starts a dialog. -/
  started (action : Execute → Action) : Except DialogError Action :=
    match execute with
    | some execute => .ok (action execute)
    | none => .error (.executeMissing keyword)

/-- The keyword of an action. -/
def keyword : Action → String
  | next => "next"
  | complete => "complete"
  | stop => "stop"
  | timeout => "timeout"
  | repeatLine => "repeat"
  | wait => "wait"
  | executeScript _ => "execute_script"
  | beginDialog _ => "beginDialog"
  | thread name => name

end Action

end Parley
