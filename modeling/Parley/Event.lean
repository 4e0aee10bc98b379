import Parley.DialogError

/-!
# Events

What dialogs and stacks report while they run.  An `Event` has a title, fields, and may be a
warning: something went wrong, and the conversation went on.
-/

namespace Parley

/-- Something worth a line in a log. -/
inductive Event where
  | runningBeforeHooks (dialog thread : String)
  | runningAfterHooks (dialog : String) (status : DialogStatus)
  | runningChangeHooks (dialog key : String) (value : Json)
  | handedOver (dialog active : String)
  | dispatchingAction (dialog action : String)
  | actionUnrecognized (dialog action : String)
  | dialogEnded (dialog : String) (status : DialogStatus)
  | enteringThread (dialog thread : String)
  | lineEmpty (dialog : String) (location : Location)
  | promptFailed (dialog : String) (location : Location) (error : DialogError)
  | noticeFailed (dialog : String) (error : DialogError)
  | resultDropped (frame : Nat)
  | beginningDialog (dialog : String) (frame depth : Nat)
  | replacingDialog (dialog replacement : String)
  | cancellingAll (depth : Nat)
deriving Repr, Inhabited

namespace Event

/-- Whether an event is a warning. -/
def isWarning : Event → Bool
  | actionUnrecognized .. | lineEmpty .. | promptFailed .. | noticeFailed ..
  | resultDropped _ => true
  | _ => false

/-- The title of an event. -/
def title : Event → String
  | runningBeforeHooks .. => "running before hooks"
  | runningAfterHooks .. => "running after hooks"
  | runningChangeHooks .. => "running change hooks"
  | handedOver .. => "handler handed the turn to another dialog"
  | dispatchingAction .. => "dispatching action"
  | actionUnrecognized .. => "unrecognized action, continuing"
  | dialogEnded .. => "dialog ended"
  | enteringThread .. => "entering thread"
  | lineEmpty .. => "dialog contains a line with no content and no action"
  | promptFailed .. => "failed to start prompt"
  | noticeFailed .. => "failed to send prompt failure notice"
  | resultDropped _ => "dropping child result for a dialog that is no longer active"
  | beginningDialog .. => "beginning dialog"
  | replacingDialog .. => "replacing dialog"
  | cancellingAll _ => "cancelling all dialogs"

/-- The fields of an event. -/
def fields : Event → List (String × Json)
  | runningBeforeHooks dialog thread | enteringThread dialog thread =>
    [("dialog", .string dialog), ("thread", .string thread)]
  | runningAfterHooks dialog status | dialogEnded dialog status =>
    [("dialog", .string dialog), ("status", .string status.title)]
  | runningChangeHooks dialog key value =>
    [("dialog", .string dialog), ("key", .string key), ("value", .string value.render)]
  | handedOver dialog active => [("active", .string active), ("dialog", .string dialog)]
  | dispatchingAction dialog action | actionUnrecognized dialog action =>
    [("action", .string action), ("dialog", .string dialog)]
  | lineEmpty dialog location =>
    [("dialog", .string dialog), ("index", .ofNat location.index),
      ("thread", .string location.thread)]
  | promptFailed dialog location error =>
    [("dialog", .string dialog), ("error", .string error.display),
      ("index", .ofNat location.index), ("thread", .string location.thread)]
  | noticeFailed dialog error => [("dialog", .string dialog), ("error", .string error.display)]
  | resultDropped frame => [("frame_id", .ofNat frame)]
  | beginningDialog dialog frame depth =>
    [("depth", .ofNat depth), ("dialog", .string dialog), ("frame_id", .ofNat frame)]
  | replacingDialog dialog replacement =>
    [("dialog", .string dialog), ("replacement", .string replacement)]
  | cancellingAll depth => [("depth", .ofNat depth)]

/-- The form of an event in a log. -/
def toJson (e : Event) : Json := .object (e.fields ++ [("message", .string e.title)])

end Event

end Parley
