import Parley.Json.Decoder

/-!
# Sessions

A session is one run of a dialog: where it stands in the dialog's threads, what its variables hold
and how it was launched.  It is a plain value with a JSON form, because it has to survive between
the turns of a conversation.

The position of a session is a `Location`, a line of a thread.  Line numbers are words of 64 bits.
`Session.resumePoint` is the line at which a session goes on; `Session.HasNext` tells whether the
line after the one it stands on has a number.
-/

namespace Parley

/-- The thread on which a dialog starts unless told otherwise. -/
def defaultThread : String := "default"

/-- A line of a thread, counted from zero. -/
structure Location where
  thread : String
  index : Nat
deriving DecidableEq, Repr, Inhabited

/-- How far a dialog has come. -/
inductive DialogStatus where
  | running
  | completed
  | canceled
  | timedOut
deriving DecidableEq, Repr, Inhabited

/-- What a turn left behind: a dialog that waits, a stack that has run empty, or a stack that was
empty from the start. -/
inductive TurnStatus where
  | waiting
  | complete
  | empty
deriving DecidableEq, Repr, Inhabited

/-- How a dialog is to be started. -/
structure LaunchOptions where
  thread : Option String := none
  channel : Option String := none
  values : Vars := []
deriving Repr, Inhabited

/-- The state of one run of a dialog. -/
structure Session where
  thread : String
  stepIndex : Nat
  /-- The line to go on at instead of the next one; set while the session waits there. -/
  resumeIndex : Option Nat := none
  values : Vars
  status : DialogStatus
  options : LaunchOptions
  rngState : UInt32
deriving Repr, Inhabited

/-- How a dialog ended, and the values it ended with. -/
structure DialogResult where
  status : DialogStatus
  values : Vars
deriving Repr, Inhabited

namespace Session

/-- A fresh session: on the first line of its thread, with the values it was launched with. -/
def launch (options : LaunchOptions) : Session where
  thread := options.thread.getD defaultThread
  stepIndex := 0
  values := options.values
  status := .running
  options := options
  rngState := 0

/-- Where the session stands. -/
def location (s : Session) : Location := ⟨s.thread, s.stepIndex⟩

/-- Line numbers are below this bound. -/
def indexBound : Nat := Nat.pow 2 64

/-- The line after the one on which the session stands has a number. -/
def HasNext (s : Session) : Prop := s.stepIndex + 1 < indexBound

instance (s : Session) : Decidable s.HasNext := inferInstanceAs (Decidable (_ < _))

/-- The line at which the session goes on: the one it waits at, else the next one. -/
def resumePoint (s : Session) : Nat := s.resumeIndex.getD (s.stepIndex + 1)

end Session

/-! ### JSON forms -/

namespace Location

def toJson (l : Location) : Json :=
  .object [("thread", .string l.thread), ("index", .ofNat l.index)]

def decoder : Decoder Location := .record ["thread", "index"] fun f => do
  return { thread := ← f.required "thread" .string, index := ← f.required "index" .index }

end Location

namespace DialogStatus

/-- The names of the states in JSON. -/
def names : List (String × DialogStatus) :=
  [("running", .running), ("completed", .completed), ("canceled", .canceled),
    ("timedOut", .timedOut)]

/-- The name of a state in JSON. -/
def name : DialogStatus → String
  | running => "running"
  | completed => "completed"
  | canceled => "canceled"
  | timedOut => "timedOut"

/-- The name of a state in log events. -/
def title : DialogStatus → String
  | running => "Running"
  | completed => "Completed"
  | canceled => "Canceled"
  | timedOut => "TimedOut"

def decoder : Decoder DialogStatus := .choice names

end DialogStatus

namespace TurnStatus

/-- The names of the outcomes in JSON. -/
def names : List (String × TurnStatus) :=
  [("waiting", .waiting), ("complete", .complete), ("empty", .empty)]

/-- The name of an outcome in JSON. -/
def name : TurnStatus → String
  | waiting => "waiting"
  | complete => "complete"
  | empty => "empty"

def decoder : Decoder TurnStatus := .choice names

end TurnStatus

namespace LaunchOptions

def toJson (o : LaunchOptions) : Json :=
  .object (Json.memberIf "thread" (o.thread.map .string) ++
    Json.memberIf "channel" (o.channel.map .string) ++ [("values", .object o.values)])

def decoder : Decoder LaunchOptions := .record ["thread", "channel", "values"] fun f => do
  return {
    thread := ← f.optional "thread" .string
    channel := ← f.optional "channel" .string
    values := ← f.orElse "values" .vars [] }

end LaunchOptions

namespace Session

def toJson (s : Session) : Json :=
  .object ([("thread", .string s.thread), ("stepIndex", .ofNat s.stepIndex)] ++
    Json.memberIf "resumeIndex" (s.resumeIndex.map .ofNat) ++
    [("values", .object s.values), ("status", .string s.status.name),
      ("options", s.options.toJson), ("rngState", .ofNat s.rngState.toNat)])

def decoder : Decoder Session :=
  .record ["thread", "stepIndex", "resumeIndex", "values", "status", "options", "rngState"]
    fun f => do
      return {
        thread := ← f.required "thread" .string
        stepIndex := ← f.required "stepIndex" .index
        resumeIndex := ← f.optional "resumeIndex" .index
        values := ← f.required "values" .vars
        status := ← f.required "status" DialogStatus.decoder
        options := ← f.required "options" LaunchOptions.decoder
        rngState := ← f.required "rngState" .word32 }

end Session

namespace DialogResult

def toJson (r : DialogResult) : Json :=
  .object [("status", .string r.status.name), ("values", .object r.values)]

def decoder : Decoder DialogResult := .record ["status", "values"] fun f => do
  return {
    status := ← f.required "status" DialogStatus.decoder
    values := ← f.required "values" .vars }

end DialogResult

end Parley
