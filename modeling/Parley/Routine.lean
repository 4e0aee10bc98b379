import Parley.Convo

/-!
# Routines

A routine is a callback written as data: a list of acts, carried out in order until one fails.  An
act knows its `Scene`, what the callback is and what it was given, and may depend on it.  A callback
after the end has no session to see, and acts on the session do nothing there.
-/

namespace Parley

/-- One act of a routine. -/
inductive Act where
  /-- Only if the argument of the callback is a value. -/
  | onlyIf (argument : Json) (act : Act)
  /-- Only if there is no variable under a key. -/
  | unlessVar (key : String) (act : Act)
  | set (key : String) (value : Json)
  | goto (thread : String)
  | repeatLine
  | send (text : String)
  /-- Send a message that shows the scene. -/
  | echo
  | begin (dialog : String) (options : LaunchOptions)
  | replace (dialog : String) (options : LaunchOptions)
  | finish (result : Option DialogResult)
  | cancelAll
  | fail (code message : String)
  /-- Carry out acts; if they fail, say how and go on. -/
  | attempt (acts : List Act)
deriving Repr

/-- What a routine is called for. -/
structure Scene where
  kind : String
  argument : Json
  sender : Option String := none

namespace Act

/-- A computation with a session to see, or without one. -/
abbrev M := StatefulAttempt (Option Convo)

/-- The message that shows a scene. -/
def echoMessage (scene : Scene) (active : Option String) (convo : Option Convo) :
    OutgoingMessage :=
  { type := messageType
    text := scene.kind
    value := some (.object
      [("active", .orNull (active.map .string)),
        ("arg", scene.argument),
        ("from", .orNull (scene.sender.map .string)),
        ("index", .orNull (convo.map fun c => .ofNat c.cursor.index)),
        ("thread", .orNull (convo.map fun c => .string c.cursor.thread)),
        ("vars", .orNull (convo.map fun c => .object c.vars))]) }

mutual

/-- Carry out an act. -/
def run (scene : Scene) : Act → M Unit
  | onlyIf argument act =>
    if scene.argument.same argument then act.run scene else return
  | unlessVar key act => do
    if (← get).any fun c => (c.var? key).isSome then return
    act.run scene
  | set key value => modify (·.map (·.setVar key value))
  | goto thread => modify (·.map (·.goto thread))
  | repeatLine => modify (·.map Convo.repeatLine)
  | send text => (Attempt.send (.ofText text) : M _)
  | echo => do
    let active ← (Attempt.active : M _)
    (Attempt.send (echoMessage scene active (← get)) : M _)
  | begin dialog options => do
    let _ ← (Attempt.begin dialog options : M _)
  | replace dialog options => do
    let _ ← (Attempt.replace dialog options : M _)
  | finish result => do
    let _ ← (Attempt.finish result : M _)
  | cancelAll => (Attempt.cancelAll : M _)
  | fail code message => throw (.raised code message none)
  | attempt acts =>
    tryCatch (runAll scene acts) fun e => (Attempt.send (.ofText e.display) : M _)

/-- Carry out acts in order. -/
def runAll (scene : Scene) : List Act → M Unit
  | [] => return
  | act :: rest => do
    act.run scene
    runAll scene rest

end

/-- Let acts see the session of a callback. -/
def withConvo (x : M Unit) : ConvoM Unit := do
  let convo ← get
  let (outcome, seen) ← x.run.run (some convo)
  modify fun _ => seen.getD convo
  match outcome with
  | .ok _ => return
  | .error e => throw e

/-- Let acts see no session. -/
def withoutConvo (x : M Unit) : Attempt Unit := do
  let (outcome, _) ← x.run.run none
  match outcome with
  | .ok _ => return
  | .error e => throw e

end Act

/-- Acts in order. -/
abbrev Routine := List Act

namespace Routine

/-- A routine as a handler. -/
def handler (acts : Routine) : HandlerCallback := fun text activity =>
  Act.withConvo (Act.runAll
    ⟨"handler", .orNull (text.map .string), activity.map (·.sender.id)⟩ acts)

/-- A routine as a hook before a thread. -/
def before (acts : Routine) : BeforeHook :=
  Act.withConvo (Act.runAll ⟨"before", .null, none⟩ acts)

/-- A routine as a hook after the end. -/
def after (acts : Routine) : AfterHook := fun result =>
  Act.withoutConvo (Act.runAll ⟨"after", result.toJson, none⟩ acts)

/-- A routine as a hook on a captured answer. -/
def change (acts : Routine) : ChangeHook := fun answer =>
  Act.withConvo (Act.runAll ⟨"change", answer, none⟩ acts)

end Routine

end Parley
