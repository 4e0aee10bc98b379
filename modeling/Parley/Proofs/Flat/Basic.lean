import Parley.Proofs.Moment.Basic

/-!
# The flat machine

The engine runs a session inside the run of another one, and has to keep track of which sessions are
running and of what is pending for them.  The machine of this module does neither.  It runs the
script of the session on top until the script stops, and only then does what the script has asked
for: put a dialog on top, put one in place of the session, or take the session off and resume the
one below with the result.

* `Flat.play` : a script, run until it stops.
* `Flat.next?` : one step of the machine.
* `Flat.opening?` : where a turn begins.
-/

namespace Parley

/-- What a script asks for that concerns other sessions. -/
inductive Handover where
  | begin (dialog : String) (options : LaunchOptions)
  | replace (dialog : String) (options : LaunchOptions)
  | finish (result : Option DialogResult)

/-- What a session is to do when it runs. -/
inductive Task where
  | begin
  | resume (input : Option TurnInput)
  | continueWith (activity : Activity)

namespace Task

/-- A task as a computation of a dialog. -/
def on : Task → Dialog → SessionM TurnStatus
  | begin => Dialog.begin
  | resume input => (·.resume input)
  | continueWith activity => (·.continueWith activity)

/-- The result of a child that a session is resumed with. -/
def result? : Task → Option DialogResult
  | resume (some (.result r)) => some r
  | _ => none

end Task

/-- A state of the flat machine. -/
inductive Flat where
  /-- The session on top is to run. -/
  | running (task : Task) (st : Stack)
  /-- The turn is over. -/
  | halted (outcome : Except DialogError TurnStatus) (st : Stack)
  /-- The script of the session on top has been aborted, and nothing comes of the turn. -/
  | aborted (st : Stack)

namespace Flat

/-! ### Scripts -/

/-- Answer a request.  What concerns other sessions is noted down and put off. -/
def answer : (r : Request) → Stack × Option Handover → r.Answer × Stack × Option Handover
  | .send message, (st, asked) => (.ok (), { st with outbox := st.outbox.push message }, asked)
  | .active, (st, asked) => (st.active?, st, asked)
  | .note event, (st, asked) => ((), st.note event, asked)
  | .seed, (st, asked) => (st.clock st.ticks, { st with ticks := st.ticks + 1 }, asked)
  | .cancelAll, (st, asked) => (.ok (), st.cancelAll, asked)
  | .begin dialog options, (st, _) => (.ok .waiting, st, some (.begin dialog options))
  | .replace dialog options, (st, _) => (.ok .waiting, st, some (.replace dialog options))
  | .finish result, (st, _) => (.ok .waiting, st, some (.finish result))

/-- Run a script until it stops, unless it is aborted. -/
def play {α : Type} : HostM α → Stack × Option Handover → Option (α × Stack × Option Handover)
  | .done value, s => some (value, s)
  | .ask r next, s => play (next (answer r s).1) (answer r s).2
  | .abort, _ => none

/-! ### Between scripts -/

/-- Put a dialog on top, which is to begin. -/
def begin (dialog : String) (options : LaunchOptions) (st : Stack) : Flat :=
  match st.dialogs.find dialog with
  | .error e => halted (.error e) st
  | .ok _ =>
    running .begin
      ((st.note (.beginningDialog dialog st.nextFrame st.depth)).push dialog options)

/-- Put a dialog in place of the session on top. -/
def replace (dialog : String) (options : LaunchOptions) (st : Stack) : Flat :=
  match st.dialogs.find dialog with
  | .error e => halted (.error e) st
  | .ok _ =>
    match st.frames with
    | [] => begin dialog options st
    | frame :: rest =>
      begin dialog options ({ st with frames := rest }.note (.replacingDialog frame.dialog dialog))

/-- Take the session on top off, record its result, and resume the one below with it. -/
def finish (result : Option DialogResult) (st : Stack) : Flat :=
  match st.frames with
  | [] => halted (.ok .complete) st
  | frame :: rest =>
    match rest with
    | [] => halted (.ok .complete) (st.drop frame rest result)
    | _ :: _ => running (.resume (result.map .result)) (st.drop frame rest result)

/-- Do what a script has asked for. -/
def handOver : Handover → Stack → Flat
  | .begin dialog options, st => begin dialog options st
  | .replace dialog options, st => replace dialog options st
  | .finish result, st => finish result st

/-- A script has stopped: its session is stored, and what it has asked for is done. -/
def stopped (frame : Frame) :
    (Except DialogError TurnStatus × Session) × Stack × Option Handover → Flat
  | ((.error e, session), st, _) => halted (.error e) (st.store frame.id session)
  | ((.ok status, session), st, none) => halted (.ok status) (st.store frame.id session)
  | ((.ok _, session), st, some asked) => handOver asked (st.store frame.id session)

theorem stopped_none (frame : Frame) (o : Except DialogError TurnStatus) (session : Session)
    (st : Stack) :
    stopped frame ((o, session), st, none) = halted o (st.store frame.id session) := by
  cases o <;> rfl

/-- A script has been played on a stack. -/
def played (frame : Frame) (st : Stack) :
    Option ((Except DialogError TurnStatus × Session) × Stack × Option Handover) → Flat
  | some played => stopped frame played
  | none => aborted st

/-- One step: the script of the session on top, and what it asks for. -/
def next? : Flat → Option Flat
  | halted _ _ | aborted _ => none
  | running task st =>
    match st.top? with
    | none => some (halted (.ok .empty) st)
    | some frame =>
      match st.dialogs.find frame.dialog with
      | .error e => some (halted (.error e) st)
      | .ok d => some (played frame st (play ((task.on d).run.run frame.session) (st, none)))

/-! ### Turns -/

/-- Where a turn begins.  There is no turn on an empty stack but one that starts a dialog, and other
calls are no turns. -/
def opening? (c : Stack.Call) (st : Stack) : Option Flat :=
  match c with
  | .start dialog options => some (begin dialog options st)
  | .continueTurn activity =>
    st.top?.map fun _ => running (.continueWith activity) st
  | _ => none

/-- What runs: the session of a number, and what it is to do. -/
def entered? : Flat → Option (ℕ × Task)
  | halted _ _ | aborted _ => none
  | running task st => st.top?.map fun frame => (frame.id, task)

end Flat

/-- What is about to run at a moment. -/
def Moment.entered? (m : Moment) : Option (ℕ × (Dialog → SessionM TurnStatus)) :=
  match m.phase with
  | .entering id task => some (id, task)
  | .running .. | .stopped .. | .answering _ => none

end Parley
