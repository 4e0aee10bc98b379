import Parley.Proofs.Flat.Basic
import Parley.Proofs.Hosted

/-!
# The course of a run

A run of a dialog is one computation, and what happens on the way is lost in it.  Here a run goes
from one `Spot` to the next: it begins, a pass arrives at a line, hooks are called, an answer is
captured and handed to a handler, an action is dispatched, the dialog ends.  `Dialog.stride` is what
is done at a spot, and tells the next one; `Dialog.rest` is all that is left of the run there.

A stride and what is left then are what was left before (`Dialog.rest_eq`), so a run is all the
strides one after another.  This is where the course of a run meets its definition: all that is said
of it later on is said of strides.
-/

namespace Parley

open Stepping StatefulAttempt

/-- Where a run is in its course. -/
inductive Spot where
  | starting (task : Task)
  /-- A pass is to begin at a line. -/
  | arriving (budget : ℕ) (cursor : Location) (input : Option TurnInput)
  /-- The line is the first of its thread, and the hooks before the thread come next. -/
  | entering (budget : ℕ) (lines : List Line) (p : Pass)
  /-- The answer to the line before comes next, if there is one. -/
  | settling (budget : ℕ) (lines : List Line) (p : Pass)
  /-- An answer has been captured, and the hooks on it come next. -/
  | announcing (budget : ℕ) (lines : List Line) (p : Pass) (answer : Json) (collect : Collect)
      (key : String)
  /-- An answer is to be offered to handlers. -/
  | selecting (budget : ℕ) (lines : List Line) (p : Pass) (answer : Json) (collect : Collect)
  /-- The callback of a handler comes next. -/
  | handling (budget : ℕ) (lines : List Line) (p : Pass) (callback : HandlerCallback)
  /-- The line itself comes next, if the dialog has not been removed and there is a line. -/
  | checking (budget : ℕ) (lines : List Line) (cursor : Location)
  | performing (budget : ℕ) (cursor : Location) (line : Line)
  /-- An action comes next, of the line or of a handler.  For the latter the lines of the thread are
  kept, since the line is still to come. -/
  | dispatching (budget : ℕ) (cursor : Location) (action : Action) (handled : Option (List Line))
  /-- The dialog is to end. -/
  | closing
  /-- The dialog has ended, and the hooks after the end come next. -/
  | parting (result : DialogResult)
  | returned (outcome : Except DialogError TurnStatus)

namespace Spot

/-- Where a flow leads. -/
def ofFlow (budget : ℕ) : Flow → SessionM Spot
  | .stop status => return returned (.ok status)
  | .jump next => return arriving budget next none
  | .advance => do
    let s ← get
    return arriving budget ⟨s.thread, s.stepIndex + 1⟩ none

/-- Where a pass goes on once the answer is settled. -/
def ofSettled (budget : ℕ) (lines : List Line) (cursor : Location) : Option Flow → SessionM Spot
  | some flow => ofFlow budget flow
  | none => return checking budget lines cursor

/-- Where a pass goes on once all of a line but its action is carried out. -/
def ofAction (budget : ℕ) (cursor : Location) : Option Action → SessionM Spot
  | some action => return dispatching budget cursor action none
  | none => ofFlow budget .advance

/-- Where a pass goes on once an action is carried out. -/
def ofDispatched (budget : ℕ) (cursor : Location) (flow : Option Flow) :
    Option (List Line) → SessionM Spot
  | some lines => ofSettled budget lines cursor flow
  | none => ofFlow budget (flow.getD .advance)

end Spot

/-- The state in which an action ends a dialog. -/
def Action.ending? : Action → Option DialogStatus
  | .complete => some .completed
  | .stop => some .canceled
  | .timeout => some .timedOut
  | .next | .repeatLine | .wait | .executeScript _ | .beginDialog _ | .thread _ => none

namespace Session

/-- The session at the end of its dialog. -/
def ended (s : Session) : Session :=
  if s.status = .running then { s with status := .completed } else s

/-- What a session gives when its dialog ends. -/
def result (s : Session) : DialogResult := ⟨s.status, s.values⟩

end Session

namespace Dialog

variable (d : Dialog)

/-! ### Strides -/

/-- Go on with a session, up to its first pass. -/
def resuming (input : Option TurnInput) : SessionM Spot := do
  let s ← get
  if s.HasNext then
    set { s with resumeIndex := none }
    return .arriving d.options.maxSteps ⟨s.thread, s.resumePoint⟩ input
  else Attempt.abort

theorem run_resuming (input : Option TurnInput) (s : Session) :
    (d.resuming input).run.run s = if s.HasNext then
      .done (.ok (.arriving d.options.maxSteps ⟨s.thread, s.resumePoint⟩ input),
        { s with resumeIndex := none })
    else .abort := by
  show (if s.HasNext then _ else _ : SessionM Spot).run.run s = _
  split <;> rfl

/-- What a run does at a spot, and where it is then. -/
def stride : Spot → SessionM Spot
  | .starting .begin => do
    modify fun s => { s with values := s.options.values, status := .running }
    let seed ← match d.options.seed with
      | some seed => pure seed
      | none => (Attempt.seed : SessionM _)
    modify fun s => { s with rngState := seed }
    return .arriving d.options.maxSteps ⟨(← get).thread, 0⟩ none
  | .starting (.resume input) => d.resuming input
  | .starting (.continueWith activity) =>
    if activity.isMessage then d.resuming (some (.message activity))
    else return .returned (.ok .waiting)
  | .arriving 0 _ _ => do throw (.stepGuard d.id d.options.maxSteps (← get).location)
  | .arriving (budget + 1) cursor input => do
    modify fun s => { s with thread := cursor.thread, stepIndex := cursor.index }
    match d.script.thread? cursor.thread with
    | none => throw (.threadNotFound d.id cursor)
    | some lines =>
      if cursor.index = 0 then return .entering budget lines ⟨cursor, input⟩
      else return .settling budget lines ⟨cursor, input⟩
  | .entering budget lines p => do
    let moved ← d.enter p.cursor
    if moved ≠ p.cursor then return .arriving budget moved none
    else return .settling budget lines p
  | .settling budget lines p =>
    match p.answer, collectBefore lines p.cursor.index with
    | some answer, some collect =>
      match collect.key with
      | none => return .selecting budget lines p answer collect
      | some key => do
        capture key answer collect.multiple
        return .announcing budget lines p answer collect key
    | _, _ => return .checking budget lines p.cursor
  | .announcing budget lines p answer collect key => do
    let moved ← d.announceChange p.cursor key answer
    if moved ≠ p.cursor then return .arriving budget moved none
    else return .selecting budget lines p answer collect
  | .selecting budget lines p answer collect =>
    match collect.select answer with
    | none => return .checking budget lines p.cursor
    | some handler =>
      match handler.callback with
      | some callback => return .handling budget lines p callback
      | none =>
        match handler.action with
        | some action => return .dispatching budget p.cursor action (some lines)
        | none => return .checking budget lines p.cursor
  | .handling budget lines p callback => do
    Spot.ofSettled budget lines p.cursor (← d.handle p { callback := some callback })
  | .checking budget lines cursor => do
    if (← (Attempt.active : SessionM _)).isNone then return .closing
    match lines[cursor.index]? with
    | none => return .closing
    | some line => return .performing budget cursor line
  | .performing budget cursor line =>
    match line with
    | .question message _ => do Spot.ofFlow budget (← d.prompt message)
    | .message message action => do
      if message.hasContent then emit message
      else if action.isNone then note (.lineEmpty d.id cursor)
      Spot.ofAction budget cursor action
    | .action action => Spot.ofAction budget cursor (some action)
    | .childDialog execute _ => Spot.ofAction budget cursor (some (.beginDialog execute))
    | .next => Spot.ofFlow budget .advance
  | .dispatching budget cursor action handled =>
    match action.ending? with
    | some status => do
      note (.dispatchingAction d.id action.keyword)
      modify fun s => { s with status := status }
      return .closing
    | none => do Spot.ofDispatched budget cursor (← d.dispatch cursor action) handled
  | .closing => do
    modify Session.ended
    match ← (Attempt.active : SessionM _) with
    | some _ =>
      let s ← get
      note (.dialogEnded d.id s.status)
      let _ ← (Attempt.finish (some s.result) : SessionM _)
      return .parting s.result
    | none =>
      let _ ← (Attempt.finish none : SessionM _)
      return .returned (.ok .complete)
  | .parting result => do
    d.announceEnd result
    return .returned (.ok .complete)
  | .returned outcome => return .returned outcome

/-- Offer an answer to handlers, and run the one that is selected. -/
def offer (p : Pass) (answer : Json) (collect : Collect) : SessionM (Option Flow) :=
  match collect.select answer with
  | none => return none
  | some handler => d.handle p handler

/-- What is left of a run at a spot. -/
def rest : Spot → SessionM TurnStatus
  | .starting task => task.on d
  | .arriving budget cursor input => d.run budget cursor input
  | .entering budget lines p => do
    d.afterEntering budget p.cursor lines p.input (← d.enter p.cursor)
  | .settling budget lines p => do d.afterPass budget (← d.pass lines p)
  | .announcing budget lines p answer collect key => do
    let moved ← d.announceChange p.cursor key answer
    if moved ≠ p.cursor then d.run budget moved none
    else d.afterPass budget (← d.afterSettling lines p.cursor (← d.offer p answer collect))
  | .selecting budget lines p answer collect => do
    d.afterPass budget (← d.afterSettling lines p.cursor (← d.offer p answer collect))
  | .handling budget lines p callback => do
    d.afterPass budget
      (← d.afterSettling lines p.cursor (← d.handle p { callback := some callback }))
  | .checking budget lines cursor => do
    d.afterPass budget (← d.afterSettling lines cursor none)
  | .performing budget cursor line => do d.afterPass budget (← d.perform cursor line)
  | .dispatching budget cursor action handled => do
    let flow ← d.dispatch cursor action
    match handled with
    | some lines => d.afterPass budget (← d.afterSettling lines cursor flow)
    | none => d.afterPass budget (flow.getD .advance)
  | .closing => do
    let _ ← d.close
    return .complete
  | .parting result => do
    d.announceEnd result
    return .complete
  | .returned outcome => liftExcept outcome

/-! ### What is left after a stride -/

theorem throw_bind {α β : Type} (e : DialogError) (f : α → SessionM β) :
    (throw e : SessionM α) >>= f = throw e := rfl

theorem ofFlow_bind_rest (budget : ℕ) (flow : Flow) :
    Spot.ofFlow budget flow >>= d.rest = d.afterPass budget flow := by
  cases flow with
  | stop status | jump next => exact pure_bind _ _
  | advance => exact (bind_assoc _ _ _).trans (bind_congr fun s => pure_bind _ _)

theorem ofSettled_bind_rest (budget : ℕ) (lines : List Line) (cursor : Location)
    (settled : Option Flow) :
    Spot.ofSettled budget lines cursor settled >>= d.rest =
      d.afterSettling lines cursor settled >>= d.afterPass budget := by
  cases settled with
  | none => exact pure_bind _ _
  | some flow => exact (d.ofFlow_bind_rest budget flow).trans (pure_bind _ _).symm

theorem ofAction_bind_rest (budget : ℕ) (cursor : Location) (action : Option Action) :
    Spot.ofAction budget cursor action >>= d.rest =
      d.follow cursor action >>= d.afterPass budget := by
  cases action with
  | none => exact (d.ofFlow_bind_rest budget .advance).trans (pure_bind _ _).symm
  | some action => simp only [Spot.ofAction, rest, follow, bind_assoc, pure_bind]

theorem close_bind_afterPass (budget : ℕ) : d.close >>= d.afterPass budget = d.rest .closing := by
  simp only [rest, close, bind_assoc]
  refine bind_congr fun _ => bind_congr fun active => ?_
  cases active <;> simp only [bind_assoc, pure_bind, afterPass]

theorem settle_eq (p : Pass) (answer : Json) (collect : Collect) :
    d.settle p answer collect =
      (match collect.key with
      | none => d.offer p answer collect
      | some key => do
        capture key answer collect.multiple
        let moved ← d.announceChange p.cursor key answer
        if moved ≠ p.cursor then return some (.jump moved) else d.offer p answer collect) := by
  unfold settle
  cases collect.key with
  | none => rfl
  | some key =>
    refine bind_congr fun _ => bind_congr fun moved => ?_
    by_cases h : moved = p.cursor
    · rw [if_neg (not_not.2 h), if_neg (not_not.2 h)]
      rfl
    · rw [if_pos h, if_pos h]

theorem dispatch_of_ending {action : Action} {status : DialogStatus}
    (h : action.ending? = some status) (cursor : Location) :
    d.dispatch cursor action = (do
      note (.dispatchingAction d.id action.keyword)
      let flow ← d.closeAs status
      return some flow) := by
  cases action <;> cases h <;> rfl

theorem resume_eq (input : Option TurnInput) :
    d.resume input = d.resuming input >>= d.rest := by
  simp only [resume, resuming, bind_assoc]
  refine bind_congr fun s => ?_
  split
  · simp only [bind_assoc, pure_bind, rest]
  · rfl

/-- **A stride and what is left then** are what was left before. -/
theorem rest_eq (spot : Spot) : d.rest spot = d.stride spot >>= d.rest := by
  -- both sides do the same in the same order; the laws of sequencing bring the first stride to
  -- the front
  cases spot with
  | starting task =>
    cases task with
    | begin =>
      simp only [rest, stride, Task.on, Dialog.begin, bind_assoc]
      refine bind_congr fun _ => ?_
      cases d.options.seed <;> simp only [bind_assoc, pure_bind, rest]
    | resume input => exact d.resume_eq input
    | continueWith activity =>
      simp only [rest, stride, Task.on, Dialog.continueWith]
      split
      · exact d.resume_eq _
      · rfl
  | arriving budget cursor input =>
    cases budget with
    | zero =>
      simp only [rest, stride, run, bind_assoc, throw_bind]
    | succ budget =>
      simp only [rest, stride, run_succ, bind_assoc]
      refine bind_congr fun _ => ?_
      cases d.script.thread? cursor.thread with
      | none => rfl
      | some lines =>
        dsimp only
        split <;> simp only [pure_bind, rest, afterEntering, ne_eq, not_true_eq_false, if_false]
  | entering budget lines p =>
    simp only [rest, stride, bind_assoc]
    refine bind_congr fun moved => ?_
    by_cases h : moved = p.cursor <;> simp [h, afterEntering, rest]
  | settling budget lines p =>
    simp only [rest, stride, pass_eq]
    cases p.answer with
    | none => simp only [pure_bind, rest]
    | some answer =>
      cases collectBefore lines p.cursor.index with
      | none => simp only [pure_bind, rest]
      | some collect =>
        simp only [settle_eq]
        cases collect.key with
        | none => simp only [pure_bind, rest, bind_assoc]
        | some key =>
          simp only [pure_bind, rest, bind_assoc]
          refine bind_congr fun _ => bind_congr fun moved => ?_
          by_cases h : moved = p.cursor <;> simp [h, afterSettling, afterPass]
  | announcing budget lines p answer collect key =>
    simp only [rest, stride, bind_assoc]
    refine bind_congr fun moved => ?_
    by_cases h : moved = p.cursor <;> simp [h, rest]
  | selecting budget lines p answer collect =>
    simp only [rest, stride, offer]
    cases collect.select answer with
    | none => simp only [pure_bind, rest]
    | some handler =>
      obtain ⟨pattern, matchType, isDefault, action, callback⟩ := handler
      cases callback with
      | some callback =>
        simp only [pure_bind, rest]
        rfl
      | none => cases action <;> simp only [handle, pure_bind, rest]
  | handling budget lines p callback =>
    simp only [rest, stride, bind_assoc, ofSettled_bind_rest]
  | checking budget lines cursor =>
    simp only [rest, stride, afterSettling, bind_assoc]
    refine bind_congr fun active => ?_
    cases active with
    | none => simp [d.close_bind_afterPass]
    | some active => cases lines[cursor.index]? <;> simp [d.close_bind_afterPass, rest]
  | performing budget cursor line =>
    cases line with
    | question message collect => simp only [rest, stride, perform, bind_assoc, ofFlow_bind_rest]
    | message message action =>
      simp only [rest, stride, perform]
      split
      · simp only [bind_assoc, ofAction_bind_rest]
      · split <;> simp only [bind_assoc, ofAction_bind_rest]
    | action action => simp only [rest, stride, perform, ofAction_bind_rest]
    | childDialog execute collect => simp only [rest, stride, perform, ofAction_bind_rest]
    | next => simp only [rest, stride, perform, ofFlow_bind_rest, pure_bind]
  | dispatching budget cursor action handled =>
    simp only [rest, stride]
    cases hending : action.ending? with
    | some status =>
      simp only [d.dispatch_of_ending hending, closeAs, bind_assoc, pure_bind]
      refine bind_congr fun _ => bind_congr fun _ => ?_
      cases handled <;> simp [afterSettling, d.close_bind_afterPass]
    | none =>
      simp only [bind_assoc]
      refine bind_congr fun flow => ?_
      cases handled with
      | none => exact (d.ofFlow_bind_rest budget _).symm
      | some lines => exact (d.ofSettled_bind_rest budget lines cursor flow).symm
  | closing =>
    simp only [rest, stride, close, bind_assoc]
    refine bind_congr fun _ => bind_congr fun active => ?_
    cases active <;> simp only [bind_assoc, pure_bind, rest] <;> rfl
  | parting result =>
    simp only [rest, stride, bind_assoc, pure_bind]
    rfl
  | returned outcome => simp only [rest, stride, pure_bind]

end Dialog

end Parley
