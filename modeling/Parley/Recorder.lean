import Parley.Dialog.Run

/-!
# A recording host

A `Recorder` is a host without a stack, for a dialog on its own.  It writes down what is asked of it
and answers by a plan: which requests fail, and what becomes of the active dialog.
-/

namespace Parley

/-- How a recorder answers. -/
structure RecorderPlan where
  /-- The numbers of the messages that cannot be sent, counted from one. -/
  failSends : List Nat := []
  /-- The names of the other requests that fail. -/
  failCalls : List String := []
  /-- A dialog that is begun becomes active. -/
  beginActivates : Bool := false
  /-- After an end no dialog is active. -/
  endClears : Bool := false
deriving Repr

/-- A host that writes down what is asked of it. -/
structure Recorder where
  plan : RecorderPlan
  active : Option String
  sends : Nat := 0
  calls : Array Request := #[]
  log : Array Event := #[]

namespace Recorder

/-- Write a request down. -/
def record (h : Recorder) (r : Request) : Recorder := { h with calls := h.calls.push r }

/-- What becomes of a request with a name. -/
def verdict {α : Type} (h : Recorder) (name : String) (value : α) : Except DialogError α :=
  if name ∈ h.plan.failCalls then .error (.raised "MOCK_CALL" (name ++ " failed") none)
  else .ok value

/-- A dialog has been begun. -/
def begun (h : Recorder) (name dialog : String) : Except DialogError TurnStatus × Recorder :=
  match h.verdict name TurnStatus.waiting with
  | .ok status =>
    (.ok status, if h.plan.beginActivates then { h with active := some dialog } else h)
  | .error e => (.error e, h)

/-- Answer a request. -/
def answer : (r : Request) → Recorder → r.Answer × Recorder
  | .send message, h =>
    let h := { h.record (.send message) with sends := h.sends + 1 }
    if h.sends ∈ h.plan.failSends then
      (.error (.raised "MOCK_SEND" ("send " ++ toString h.sends ++ " failed") none), h)
    else (.ok (), h)
  | .active, h => (h.active, h)
  | .begin dialog options, h => (h.record (.begin dialog options)).begun "begin" dialog
  | .replace dialog options, h => (h.record (.replace dialog options)).begun "replace" dialog
  | .finish result, h =>
    let h := h.record (.finish result)
    match h.verdict "end" TurnStatus.complete with
    | .ok status => (.ok status, if h.plan.endClears then { h with active := none } else h)
    | .error e => (.error e, h)
  | .cancelAll, h =>
    let h := h.record .cancelAll
    match h.verdict "cancel" () with
    | .ok _ => (.ok (), { h with active := none })
    | .error e => (.error e, h)
  | .note event, h => ((), { h with log := h.log.push event })
  | .seed, h => ((0 : UInt32), h)

/-- Run a computation.  A recorder answers every request, so there is a result unless the
computation is aborted. -/
def run {α : Type} (x : HostM α) (h : Recorder) : Option (α × Recorder) :=
  x.run (fun r h => some (answer r h)) h

end Recorder

end Parley
