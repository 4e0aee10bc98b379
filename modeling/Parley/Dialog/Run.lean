import Parley.Dialog.Basic
import Parley.Script.Composition

/-!
# Running a dialog

A dialog runs from a line until it asks a question, waits, hands the turn to another dialog or ends.
A run is a sequence of passes.  Each pass stands on one line: if it is the first of its thread, the
hooks of the thread run; then the answer that the turn brought, if any, is captured and handled,
which happens in the first pass only; then the line itself is carried out.  Whatever moves the
cursor ends the pass, and the next pass starts at the new place.

A run has a budget of passes, so it ends (`Dialog.run` recurs on it).  `Dialog.begin`,
`Dialog.continueWith` and `Dialog.resume` are the three ways to start a run.  A session that stands
on the last line that has a number cannot be resumed: the attempt is aborted.
-/

namespace Parley

/-- A computation of a dialog on its session. -/
abbrev SessionM := StatefulAttempt Session

/-- How a pass ends. -/
inductive Flow where
  /-- The run is over. -/
  | stop (status : TurnStatus)
  /-- The next pass is at a place. -/
  | jump (target : Location)
  /-- The next pass is on the next line. -/
  | advance
deriving DecidableEq, Repr

/-- What a pass works on: the place it stands on, and what the turn brought. -/
structure Pass where
  cursor : Location
  input : Option TurnInput

namespace Pass

/-- The answer that the turn brought. -/
def answer (p : Pass) : Option Json := p.input.bind TurnInput.response

end Pass

namespace Dialog

variable (d : Dialog)

/-- Note an event. -/
def note (event : Event) : SessionM Unit := Attempt.note event

/-- Run callbacks from a place, one after the other, and tell where they leave the cursor. -/
def converse (cursor : Location) (callbacks : List (ConvoM Unit)) : SessionM Location := do
  let session ← get
  let all : ConvoM Unit := callbacks.forM fun callback => callback
  let (outcome, convo) ← all.run.run ⟨cursor, session.values⟩
  set { session with values := convo.vars }
  match outcome with
  | .ok _ => return convo.cursor
  | .error e => throw e

/-! ### Hooks -/

/-- Enter a thread: run the hooks before it, and tell where they leave the cursor. -/
def enter (cursor : Location) : SessionM Location := do
  note (.enteringThread d.id cursor.thread)
  match d.hooks.beforeThread cursor.thread with
  | [] => return cursor
  | hooks =>
    note (.runningBeforeHooks d.id cursor.thread)
    converse cursor hooks

/-- Run the hooks on an answer captured under a key, and tell where they leave the cursor. -/
def announceChange (cursor : Location) (key : String) (answer : Json) : SessionM Location := do
  match d.hooks.onChange key with
  | [] => return cursor
  | hooks =>
    note (.runningChangeHooks d.id key answer)
    converse cursor (hooks.map (· answer))

/-- Run the hooks after the end. -/
def announceEnd (result : DialogResult) : SessionM Unit := do
  match d.hooks.after with
  | [] => return
  | hooks =>
    note (.runningAfterHooks d.id result.status)
    hooks.forM fun hook => (hook result : Attempt Unit)

/-! ### Ending -/

/-- End the dialog: give the host its final values and run the hooks after the end.  When no dialog
is active any more there is nothing to give. -/
def close : SessionM Flow := do
  modify fun s => if s.status = .running then { s with status := .completed } else s
  match ← (Attempt.active : SessionM _) with
  | some _ =>
    let s ← get
    let result : DialogResult := ⟨s.status, s.values⟩
    note (.dialogEnded d.id s.status)
    let _ ← (Attempt.finish (some result) : SessionM _)
    d.announceEnd result
  | none =>
    let _ ← (Attempt.finish none : SessionM _)
  return .stop .complete

/-- End the dialog in a state. -/
def closeAs (status : DialogStatus) : SessionM Flow := do
  modify fun s => { s with status := status }
  d.close

/-! ### Actions -/

/-- How a dialog is launched from a session: on the thread that is asked for, with the variables of
the session. -/
def launchOptions (execute : Execute) (s : Session) : LaunchOptions where
  thread := execute.thread
  channel := s.options.channel
  values := s.values

/-- Carry out an action.  No flow means that the pass goes on. -/
def dispatch (cursor : Location) (action : Action) : SessionM (Option Flow) := do
  note (.dispatchingAction d.id action.keyword)
  match action with
  | .next => return none
  | .complete => d.closeAs .completed
  | .stop => d.closeAs .canceled
  | .timeout => d.closeAs .timedOut
  | .executeScript execute =>
    let options := launchOptions execute (← get)
    let _ ← (Attempt.replace execute.script options : SessionM _)
    return some (.stop .waiting)
  | .beginDialog execute =>
    let options := launchOptions execute (← get)
    let _ ← (Attempt.begin execute.script options : SessionM _)
    return some (.stop .waiting)
  | .repeatLine => return some (.jump { cursor with index := cursor.index - 1 })
  | .wait =>
    modify fun s => { s with resumeIndex := some cursor.index }
    return some (.stop .waiting)
  | .thread name =>
    if d.hasThread name then return some (.jump ⟨name, 0⟩)
    note (.actionUnrecognized d.id name)
    return none

/-- Carry out the action of a line, if it has one, and go on with the next line. -/
def follow (cursor : Location) (action : Option Action) : SessionM Flow :=
  match action with
  | none => return .advance
  | some action => return (← d.dispatch cursor action).getD .advance

/-! ### Answers -/

/-- The value of a variable once an answer is captured in it.  A variable for several answers keeps
them as lines of one text. -/
def captured (vars : Vars) (key : String) (answer : Json) (multiple : Bool) : Json :=
  match Keyed.get? vars key with
  | some previous =>
    if multiple && previous.isTruthy then .string (previous.toText ++ "\n" ++ answer.toText)
    else answer
  | none => answer

/-- Capture an answer in a variable. -/
def capture (key : String) (answer : Json) (multiple : Bool) : SessionM Unit :=
  modify fun s =>
    { s with values := Keyed.insert s.values key (captured s.values key answer multiple) }

/-- Run a handler.  No flow means that the pass goes on.  A callback ends the pass by handing the
turn to another dialog or by moving the cursor. -/
def handle (p : Pass) (handler : Handler) : SessionM (Option Flow) := do
  match handler.callback with
  | none =>
    match handler.action with
    | some action => d.dispatch p.cursor action
    | none => return none
  | some callback =>
    let active ← (Attempt.active : SessionM _)
    let text := p.answer.bind Json.string?
    let activity := p.input.bind TurnInput.activity?
    let cursor ← converse p.cursor [callback text activity]
    match ← (Attempt.active : SessionM _) with
    | none => return none
    | some current =>
      if some current ≠ active then
        note (.handedOver d.id current)
        return some (.stop .waiting)
      if cursor ≠ p.cursor then return some (.jump cursor)
      return none

/-- Deal with the answer to the line before.  No flow means that the pass goes on. -/
def settle (p : Pass) (answer : Json) (collect : Collect) : SessionM (Option Flow) := do
  match collect.key with
  | none => pure ()
  | some key =>
    capture key answer collect.multiple
    let cursor ← d.announceChange p.cursor key answer
    if cursor ≠ p.cursor then return some (.jump cursor)
  match collect.select answer with
  | none => return none
  | some handler => d.handle p handler

/-! ### Lines -/

/-- Make the outgoing message of a line, with the random choices of the session. -/
def compose (message : Message) : SessionM OutgoingMessage := do
  let s ← get
  let (outcome, rngState) := (message.compose s.values).run.run s.rngState
  set { s with rngState := rngState }
  match outcome with
  | .ok m => return m
  | .error e => throw e

/-- Ask a question.  One that cannot be asked is passed over, so that the conversation goes on. -/
def prompt (message : Message) : SessionM Flow :=
  tryCatch
    (do
      (Attempt.send (← compose message) : SessionM _)
      return .stop .waiting)
    fun e => do
      note (.promptFailed d.id (← get).location e)
      match d.options.promptFailure with
      | none => pure ()
      | some text =>
        tryCatch (Attempt.send (.ofText text) : SessionM _) fun e => note (.noticeFailed d.id e)
      return .advance

/-- Send a message, in its parts. -/
def emit (message : Message) : SessionM Unit := do
  let m ← compose message
  m.parts.forM fun part => (Attempt.send part : SessionM _)

/-- Carry out a line. -/
def perform (cursor : Location) (line : Line) : SessionM Flow := do
  match line with
  | .question message _ => d.prompt message
  | .message message action =>
    if message.hasContent then emit message
    else if action.isNone then note (.lineEmpty d.id cursor)
    d.follow cursor action
  | .action action => d.follow cursor action
  | .childDialog execute _ => d.follow cursor (some (.beginDialog execute))
  | .next => return .advance

/-- What is to be done with the answer to the line before a place. -/
def collectBefore (lines : List Line) (index : Nat) : Option Collect :=
  match index with
  | 0 => none
  | index + 1 => lines[index]?.bind Line.collect?

/-- A pass on a line, after the hooks of its thread. -/
def pass (lines : List Line) (p : Pass) : SessionM Flow := do
  let settled ←
    match p.answer, collectBefore lines p.cursor.index with
    | some answer, some collect => d.settle p answer collect
    | _, _ => pure none
  match settled with
  | some flow => return flow
  | none =>
    if (← (Attempt.active : SessionM _)).isNone then return ← d.close
    match lines[p.cursor.index]? with
    | none => d.close
    | some line => d.perform p.cursor line

/-! ### Runs -/

/-- Run from a place with a budget of passes.  Only the first pass sees what the turn brought. -/
def run : Nat → Location → Option TurnInput → SessionM TurnStatus
  | 0, _, _ => do throw (.stepGuard d.id d.options.maxSteps (← get).location)
  | budget + 1, cursor, input => do
    modify fun s => { s with thread := cursor.thread, stepIndex := cursor.index }
    match d.script.thread? cursor.thread with
    | none => throw (.threadNotFound d.id cursor)
    | some lines =>
      let entered ← if cursor.index = 0 then d.enter cursor else pure cursor
      if entered ≠ cursor then run budget entered none
      else
        match ← d.pass lines ⟨cursor, input⟩ with
        | .stop status => return status
        | .jump next => run budget next none
        | .advance =>
          let s ← get
          run budget ⟨s.thread, s.stepIndex + 1⟩ none

/-! The parts of a pass and of a run, from one of their steps on. -/

/-- What is left of a pass once the answer that came in is settled. -/
def afterSettling (lines : List Line) (cursor : Location) (settled : Option Flow) :
    SessionM Flow :=
  match settled with
  | some flow => return flow
  | none => do
    if (← (Attempt.active : SessionM _)).isNone then return ← d.close
    match lines[cursor.index]? with
    | none => d.close
    | some line => d.perform cursor line

/-- What is left of a run once a pass is over. -/
def afterPass (budget : Nat) (flow : Flow) : SessionM TurnStatus :=
  match flow with
  | .stop status => return status
  | .jump next => d.run budget next none
  | .advance => do
    let s ← get
    d.run budget ⟨s.thread, s.stepIndex + 1⟩ none

/-- What is left of a run once the hooks of its thread have left the cursor somewhere. -/
def afterEntering (budget : Nat) (cursor : Location) (lines : List Line)
    (input : Option TurnInput) (entered : Location) : SessionM TurnStatus :=
  if entered ≠ cursor then d.run budget entered none
  else do d.afterPass budget (← d.pass lines ⟨cursor, input⟩)

theorem pass_eq (lines : List Line) (p : Pass) :
    d.pass lines p = (do
      d.afterSettling lines p.cursor (←
        match p.answer, collectBefore lines p.cursor.index with
        | some answer, some collect => d.settle p answer collect
        | _, _ => pure none)) := rfl

theorem run_succ (budget : Nat) (cursor : Location) (input : Option TurnInput) :
    d.run (budget + 1) cursor input = (do
      modify fun s => { s with thread := cursor.thread, stepIndex := cursor.index }
      match d.script.thread? cursor.thread with
      | none => throw (.threadNotFound d.id cursor)
      | some lines =>
        let entered ← if cursor.index = 0 then d.enter cursor else pure cursor
        d.afterEntering budget cursor lines input entered) := rfl

/-- Begin a session: set its variables to those it was launched with, and run from the first line of
its thread. -/
def begin : SessionM TurnStatus := do
  modify fun s => { s with values := s.options.values, status := .running }
  let seed ← match d.options.seed with
    | some seed => pure seed
    | none => (Attempt.seed : SessionM _)
  modify fun s => { s with rngState := seed }
  d.run d.options.maxSteps ⟨(← get).thread, 0⟩ none

/-- Go on with a session, from the line it waits at or else from the next line.  The number of the
next line is worked out in either case, and when there is none the run is aborted. -/
def resume (input : Option TurnInput) : SessionM TurnStatus := do
  let s ← get
  if s.HasNext then
    set { s with resumeIndex := none }
    d.run d.options.maxSteps ⟨s.thread, s.resumePoint⟩ input
  else Attempt.abort

theorem run_resume (input : Option TurnInput) (s : Session) :
    (d.resume input).run.run s = if s.HasNext then
      (d.run d.options.maxSteps ⟨s.thread, s.resumePoint⟩ input).run.run
        { s with resumeIndex := none }
    else .abort := by
  show (if s.HasNext then _ else _ : SessionM TurnStatus).run.run s = _
  split <;> rfl

/-- Go on with a session when an activity comes in.  Only messages move it. -/
def continueWith (activity : Activity) : SessionM TurnStatus :=
  if activity.isMessage then d.resume (some (.message activity)) else return .waiting

end Dialog

end Parley
