import Parley.DialogError
import Parley.Outgoing

/-!
# Reports

A command answers in lines, each of which begins with what it tells and a colon.  A `Report` tells
what a turn has brought: how things stand, the messages that were sent, the values of the dialogs
that ended, and the key of the conversation.  When a command fails, the lines tell the error.
-/

namespace Parley

/-- What a turn has brought. -/
structure Report where
  status : TurnStatus
  messages : List OutgoingMessage
  completed : List Vars
  key : String
deriving Repr, Inhabited

/-- The word for how things stand after a turn. -/
def TurnStatus.event : TurnStatus → String
  | waiting => "WAITING"
  | complete => "COMPLETE"
  | empty => "EMPTY"

/-- The lines of a report. -/
def Report.lines (r : Report) : List String :=
  ["RESULT:OK", "EVENT:" ++ r.status.event] ++
    r.messages.map (fun m => "MESSAGE_JSON:" ++ m.toJson.render) ++
    r.completed.map (fun values => "RESULT_JSON:" ++ (Json.object values).render) ++
    ["STATE_KEY:" ++ r.key]

/-- The lines that tell an error. -/
def DialogError.lines (e : DialogError) : List String :=
  ["RESULT:ERROR", "ERROR_CODE:" ++ e.code, "ERROR_MSG_JSON:" ++ (Json.string e.message).render] ++
    (e.location.map fun l => "ERROR_AT_JSON:" ++ l.toJson.render).toList

end Parley
