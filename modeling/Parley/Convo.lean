import Parley.Activity
import Parley.Host

/-!
# Callbacks

Handlers and hooks may be callbacks.  While one runs it sees a `Convo`, the place where the dialog
stands and its variables, and it may make requests to the host.  It redirects the dialog by moving
the cursor; the dialog notices the move when the callback returns.
-/

namespace Parley

/-- What a callback sees of a session. -/
structure Convo where
  cursor : Location
  vars : Vars
deriving Repr, Inhabited

namespace Convo

/-- The value of a variable. -/
def var? (c : Convo) (key : String) : Option Json := Keyed.get? c.vars key

/-- Give a variable a value. -/
def setVar (c : Convo) (key : String) (value : Json) : Convo :=
  { c with vars := Keyed.insert c.vars key value }

/-- Go to the first line of a thread. -/
def goto (c : Convo) (thread : String) : Convo := { c with cursor := ⟨thread, 0⟩ }

/-- Go back by one line, if there is one. -/
def repeatLine (c : Convo) : Convo :=
  { c with cursor := { c.cursor with index := c.cursor.index - 1 } }

end Convo

/-- A computation of a callback that sees the session. -/
abbrev ConvoM := StatefulAttempt Convo

/-- A handler: given the answer, if it is text, and the message that it came with. -/
abbrev HandlerCallback := Option String → Option Activity → ConvoM Unit

/-- A hook that runs before the first line of a thread. -/
abbrev BeforeHook := ConvoM Unit

/-- A hook that runs when the dialog has ended, with its result. -/
abbrev AfterHook := DialogResult → Attempt Unit

/-- A hook that runs when an answer has been captured, with the answer. -/
abbrev ChangeHook := Json → ConvoM Unit

end Parley
