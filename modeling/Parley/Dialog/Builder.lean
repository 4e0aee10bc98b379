import Parley.Dialog.Basic

/-!
# Building dialogs

A dialog is built from an empty one by adding lines to its threads and hooks to its hooks.  Whatever
asks for an answer comes with the line on which the answer is dealt with.
-/

namespace Parley

namespace Dialog

variable (d : Dialog)

/-- A dialog without lines. -/
def empty (id : String) (options : DialogOptions) : Dialog := { id := id, options := options }

/-- Put lines at the end of a thread. -/
def append (thread : String) (lines : List Line) : Dialog :=
  { d with script := d.script.append thread lines }

/-- A message. -/
def addMessage (message : Message) (thread : String) : Dialog :=
  d.append thread [.message message none]

/-- A message that is sent before an action is taken. -/
def addMessageThen (message : Message) (action : Action) (thread : String) : Dialog :=
  d.append thread [.message message (some action)]

/-- A question. -/
def addQuestion (message : Message) (handlers : Handlers) (key : Option CollectKey)
    (thread : String) : Dialog :=
  d.append thread [.question message (.of key handlers), .next]

/-- An action. -/
def addAction (action : Action) (thread : String) : Dialog := d.append thread [.action action]

/-- A dialog to be begun, whose final values are kept under a key or under the dialog's id. -/
def addChildDialog (dialog : String) (key : Option String) (thread : String) : Dialog :=
  d.append thread
    [.childDialog { script := dialog } { key := some (key.getD dialog) }, .next]

/-- A dialog to go over to. -/
def addGotoDialog (dialog : String) (thread : String) : Dialog :=
  d.addAction (.executeScript { script := dialog }) thread

/-- A message on the default thread. -/
def say (message : Message) : Dialog := d.addMessage message defaultThread

/-- A question on the default thread. -/
def ask (message : Message) (handlers : Handlers) (key : Option CollectKey) : Dialog :=
  d.addQuestion message handlers key defaultThread

/-- A hook that runs before a thread. -/
def addBefore (thread : String) (hook : BeforeHook) : Dialog :=
  { d with hooks := { d.hooks with before := d.hooks.before ++ [(thread, hook)] } }

/-- A hook that runs when the dialog has ended. -/
def addAfter (hook : AfterHook) : Dialog :=
  { d with hooks := { d.hooks with after := d.hooks.after ++ [hook] } }

/-- A hook that runs when an answer has been captured under a key. -/
def addChange (key : String) (hook : ChangeHook) : Dialog :=
  { d with hooks := { d.hooks with change := d.hooks.change ++ [(key, hook)] } }

end Dialog

end Parley
