import Parley.Script.Handler
import Parley.Script.Message

/-!
# Lines and scripts

A script is a table of threads, and a thread a list of lines.  A line that asks something is
followed by a line `next`, the place where its answer is dealt with.
-/

namespace Parley

/-- A line of a script. -/
inductive Line where
  /-- Say something, then act. -/
  | message (message : Message) (action : Option Action)
  /-- Ask something and wait for the answer. -/
  | question (message : Message) (collect : Collect)
  /-- Begin a dialog and wait for its result. -/
  | childDialog (execute : Execute) (collect : Collect)
  /-- Act. -/
  | action (action : Action)
  /-- Where the answer to the line before is dealt with. -/
  | next

namespace Line

/-- What is done with the answer to a line, if it asks for one. -/
def collect? : Line → Option Collect
  | question _ collect | childDialog _ collect => some collect
  | message .. | action _ | next => none

end Line

/-- Threads by their names. -/
structure Script where
  threads : Keyed (List Line) := []

namespace Script

/-- The lines of a thread. -/
def thread? (s : Script) (name : String) : Option (List Line) := s.threads.get? name

/-- Whether there is a thread of a name. -/
def hasThread (s : Script) (name : String) : Bool := s.threads.contains name

/-- Put lines at the end of a thread.  A thread comes into being with its first lines. -/
def append (s : Script) (thread : String) (lines : List Line) : Script :=
  ⟨s.threads.insert thread ((s.thread? thread).getD [] ++ lines)⟩

end Script

end Parley
