import Parley.Stack.Basic

/-!
# Turns

A stack is the host of the dialogs on it.  `Stack.answer` answers their requests: beginning a dialog
puts a session on top and runs it, ending one takes its session off and resumes the one below with
the result.  A session that is still running cannot be resumed; the result then waits, and
`Stack.deliver` resumes the session as soon as it has stopped.

Dialogs may begin each other without end, so everything that runs sessions takes a number of rounds
and has no result when they do not suffice.  A result, once there is one, does not depend on that
number.  When a run is aborted there is no result, however many rounds there are.

`Stack.start` and `Stack.continueTurn` are the turns of a conversation.
-/

namespace Parley

namespace Stack

/-- Answers requests from a stack. -/
abbrev Host := (r : Request) → Stack → Option (r.Answer × Stack)

/-- What comes of running a session: an outcome and the stack behind it. -/
abbrev Outcome (α : Type) := Option (Except DialogError α × Stack)

/-- Run a session and write its state back.  When it fails, nothing is delivered to it any more. -/
def runFrame (host : Host) (id : Nat) (task : Dialog → SessionM TurnStatus) (st : Stack) :
    Outcome TurnStatus :=
  match st.frame? id with
  | none => some (.ok .empty, st)
  | some frame =>
    match st.dialogs.find frame.dialog with
    | .error e => some (.error e, st)
    | .ok d =>
      (HostM.run host ((task d).run.run frame.session) (st.enter id)).map
        fun ((outcome, session), st) =>
          let st := (st.leave).store id session
          match outcome with
          | .ok status => (.ok status, st)
          | .error e => (.error e, st.undefer id)

/-- Resume a session with what waits for it, as long as something does.  What waits for a session
that is no longer on top is dropped. -/
def deliver (host : Host) (id : Nat) : Nat → TurnStatus → Stack → Outcome TurnStatus
  | rounds, status, st =>
    match st.pending.lookup id with
    | none => some (.ok status, st)
    | some input =>
      let st := st.undefer id
      if (st.top?.map Frame.id) = some id then
        match rounds with
        | 0 => none
        | rounds + 1 =>
          match runFrame host id (·.resume input) st with
          | some (.ok status, st) => deliver host id rounds status st
          | failed => failed
      else some (.ok status, st.note (.resultDropped id))

/-- Run the session on top and deliver what waits for it then. -/
def runTop (host : Host) (rounds : Nat) (task : Dialog → SessionM TurnStatus) (st : Stack) :
    Outcome TurnStatus :=
  match st.top? with
  | none => some (.ok .empty, st)
  | some frame =>
    match runFrame host frame.id task st with
    | some (.ok status, st) => deliver host frame.id rounds status st
    | failed => failed

/-- Begin a dialog on top. -/
def beginOn (host : Host) (rounds : Nat) (dialog : String) (options : LaunchOptions) (st : Stack) :
    Outcome TurnStatus :=
  match st.dialogs.find dialog with
  | .error e => some (.error e, st)
  | .ok _ =>
    let st := st.note (.beginningDialog dialog st.nextFrame st.depth)
    runTop host rounds Dialog.begin (st.push dialog options)

/-- Begin a dialog in place of the one on top. -/
def replaceOn (host : Host) (rounds : Nat) (dialog : String) (options : LaunchOptions)
    (st : Stack) : Outcome TurnStatus :=
  match st.dialogs.find dialog with
  | .error e => some (.error e, st)
  | .ok _ =>
    match st.frames with
    | [] => beginOn host rounds dialog options st
    | frame :: rest =>
      beginOn host rounds dialog options
        ({ st with frames := rest }.note (.replacingDialog frame.dialog dialog))

/-- Take the session on top off, record its result, and resume the session below with it. -/
def finishOn (host : Host) (rounds : Nat) (result : Option DialogResult) (st : Stack) :
    Outcome TurnStatus :=
  match st.frames with
  | [] => some (.ok .complete, st)
  | frame :: rest =>
    let st := { st with frames := rest }
    let st := match result with
      | some r => { st with results := st.results.push ⟨frame.dialog, r⟩ }
      | none => st
    let input := result.map TurnInput.result
    match rest with
    | [] => some (.ok .complete, st)
    | parent :: _ =>
      if parent.id ∈ st.executing then some (.ok .waiting, st.defer parent.id input)
      else runTop host rounds (·.resume input) st

/-- Remove all sessions. -/
def cancelAll (st : Stack) : Stack :=
  { st.note (.cancellingAll st.depth) with frames := [], pending := [] }

/-- Answer a request in a number of rounds. -/
def answer : Nat → Host
  | _, .send message, st => some (.ok (), { st with outbox := st.outbox.push message })
  | _, .active, st => some (st.active?, st)
  | _, .note event, st => some ((), st.note event)
  | _, .seed, st => some (st.clock st.ticks, { st with ticks := st.ticks + 1 })
  | _, .cancelAll, st => some (.ok (), st.cancelAll)
  | 0, .begin _ _, _ | 0, .replace _ _, _ | 0, .finish _, _ => none
  | rounds + 1, .begin dialog options, st => beginOn (answer rounds) rounds dialog options st
  | rounds + 1, .replace dialog options, st => replaceOn (answer rounds) rounds dialog options st
  | rounds + 1, .finish result, st => finishOn (answer rounds) rounds result st

/-! ### The turns of a conversation -/

/-- What is asked of a stack from outside. -/
inductive Call where
  /-- Start a dialog. -/
  | start (dialog : String) (options : LaunchOptions)
  /-- Go on with the dialog on top when an activity comes in. -/
  | continueTurn (activity : Activity)
  | begin (dialog : String) (options : LaunchOptions)
  | replace (dialog : String) (options : LaunchOptions)
  | finish (result : Option DialogResult)
  | cancelAll
  | send (message : OutgoingMessage)
deriving Repr

/-- An outcome, told as the state of the stack. -/
def settled (x : Outcome TurnStatus) : Outcome TurnStatus :=
  x.map fun (outcome, st) => (outcome.map fun _ => st.status, st)

/-- Start a dialog on top of the stack. -/
def start (rounds : Nat) (dialog : String) (options : LaunchOptions) (st : Stack) :
    Outcome TurnStatus :=
  settled (beginOn (answer rounds) rounds dialog options st)

/-- Go on with the dialog on top when an activity comes in. -/
def continueTurn (rounds : Nat) (activity : Activity) (st : Stack) : Outcome TurnStatus :=
  if st.frames.isEmpty then some (.ok .empty, st)
  else settled (runTop (answer rounds) rounds (·.continueWith activity) st)

/-- Carry out a call; the status is absent where a call has none. -/
def call (rounds : Nat) (c : Call) (st : Stack) : Outcome (Option TurnStatus) :=
  let withStatus (x : Outcome TurnStatus) : Outcome (Option TurnStatus) :=
    x.map fun (outcome, st) => (outcome.map some, st)
  match c with
  | .start dialog options => withStatus (st.start rounds dialog options)
  | .continueTurn activity => withStatus (st.continueTurn rounds activity)
  | .begin dialog options => withStatus (beginOn (answer rounds) rounds dialog options st)
  | .replace dialog options => withStatus (replaceOn (answer rounds) rounds dialog options st)
  | .finish result => withStatus (finishOn (answer rounds) rounds result st)
  | .cancelAll => some (.ok none, st.cancelAll)
  | .send message => some (.ok none, { st with outbox := st.outbox.push message })

end Stack

end Parley
