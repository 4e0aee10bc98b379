import Parley.Script.Line

/-!
# Dialogs

A dialog is a script with hooks and options.  One dialog serves any number of sessions; it never
changes, and all progress is in the session.

Hooks run in the order in which they were given: before the first line of a thread, when an answer
has been captured under a key, and when the dialog has ended.
-/

namespace Parley

/-- Callbacks that run at certain moments of a dialog. -/
structure Hooks where
  before : List (String × BeforeHook) := []
  after : List AfterHook := []
  change : List (String × ChangeHook) := []

namespace Hooks

/-- The hooks that run before a thread. -/
def beforeThread (h : Hooks) (thread : String) : List BeforeHook :=
  (h.before.filter (·.1 = thread)).map Prod.snd

/-- The hooks that run when an answer has been captured under a key. -/
def onChange (h : Hooks) (key : String) : List ChangeHook :=
  (h.change.filter (·.1 = key)).map Prod.snd

end Hooks

/-- How a dialog behaves. -/
structure DialogOptions where
  /-- Where random choice starts; a host is asked for a number if this is absent. -/
  seed : Option UInt32 := none
  /-- How many lines a dialog may take in one turn. -/
  maxSteps : Nat := 10000
  /-- What is said when a question cannot be asked and the dialog moves on. -/
  promptFailure : Option String := none
deriving DecidableEq, Repr

/-- A dialog. -/
structure Dialog where
  id : String
  script : Script := {}
  hooks : Hooks := {}
  options : DialogOptions := {}

namespace Dialog

/-- Whether a dialog has a thread. -/
def hasThread (d : Dialog) (thread : String) : Bool := d.script.hasThread thread

end Dialog

end Parley
