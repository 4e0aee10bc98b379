import Parley.Proofs.Course.Basic

/-!
# Which spots follow one another

`Spot.Next` lists all that may follow a spot in the course of a run.  Every stride that does not
fail leads along it, whatever its requests are answered (`Dialog.brings_next`).  A pass takes a part
of the budget and goes through a fixed order of spots, so a run gets ever closer to its end
(`Spot.Next.size_lt`).
-/

namespace Parley

/-- One spot may follow another. -/
inductive Spot.Next (d : Dialog) : Spot → Spot → Prop where
  | begin {task cursor input} :
      Next d (.starting task) (.arriving d.options.maxSteps cursor input)
  /-- An activity that is no message moves nothing. -/
  | ignore {activity : Activity} (h : activity.isMessage = false) :
      Next d (.starting (.continueWith activity)) (.returned (.ok .waiting))
  | enter {budget input lines} {cursor : Location}
      (hlines : d.script.thread? cursor.thread = some lines) (h : cursor.index = 0) :
      Next d (.arriving (budget + 1) cursor input) (.entering budget lines ⟨cursor, input⟩)
  | arrive {budget input lines} {cursor : Location}
      (hlines : d.script.thread? cursor.thread = some lines) (h : cursor.index ≠ 0) :
      Next d (.arriving (budget + 1) cursor input) (.settling budget lines ⟨cursor, input⟩)
  | entered {budget lines p} : Next d (.entering budget lines p) (.settling budget lines p)
  /-- A hook before the thread has moved the cursor. -/
  | redirectedBefore {budget lines moved} {p : Pass} (h : moved ≠ p.cursor) :
      Next d (.entering budget lines p) (.arriving budget moved none)
  /-- There is no answer, or the line before has asked for none. -/
  | unanswered {budget lines} {p : Pass}
      (h : p.answer = none ∨ Dialog.collectBefore lines p.cursor.index = none) :
      Next d (.settling budget lines p) (.checking budget lines p.cursor)
  | capture {budget lines answer key} {p : Pass} {collect : Collect}
      (hanswer : p.answer = some answer)
      (hcollect : Dialog.collectBefore lines p.cursor.index = some collect)
      (hkey : collect.key = some key) :
      Next d (.settling budget lines p) (.announcing budget lines p answer collect key)
  /-- The answer is not kept. -/
  | pass {budget lines answer} {p : Pass} {collect : Collect} (hanswer : p.answer = some answer)
      (hcollect : Dialog.collectBefore lines p.cursor.index = some collect)
      (hkey : collect.key = none) :
      Next d (.settling budget lines p) (.selecting budget lines p answer collect)
  | announced {budget lines p answer collect key} :
      Next d (.announcing budget lines p answer collect key)
        (.selecting budget lines p answer collect)
  /-- A hook on the answer has moved the cursor. -/
  | redirectedChange {budget lines answer collect key moved} {p : Pass} (h : moved ≠ p.cursor) :
      Next d (.announcing budget lines p answer collect key) (.arriving budget moved none)
  | call {budget lines p answer handler callback} {collect : Collect}
      (hselect : collect.select answer = some handler)
      (hcallback : handler.callback = some callback) :
      Next d (.selecting budget lines p answer collect) (.handling budget lines p callback)
  | act {budget lines answer handler action} {p : Pass} {collect : Collect}
      (hselect : collect.select answer = some handler) (hcallback : handler.callback = none)
      (haction : handler.action = some action) :
      Next d (.selecting budget lines p answer collect)
        (.dispatching budget p.cursor action (some lines))
  /-- No handler is selected, or the one that is does nothing. -/
  | unhandled {budget lines answer} {p : Pass} {collect : Collect}
      (h : ∀ handler, collect.select answer = some handler →
        handler.callback = none ∧ handler.action = none) :
      Next d (.selecting budget lines p answer collect) (.checking budget lines p.cursor)
  | handled {budget lines callback} {p : Pass} :
      Next d (.handling budget lines p callback) (.checking budget lines p.cursor)
  | handedOver {budget lines p callback} :
      Next d (.handling budget lines p callback) (.returned (.ok .waiting))
  /-- The callback has moved the cursor. -/
  | redirectedHandler {budget lines callback moved} {p : Pass} (h : moved ≠ p.cursor) :
      Next d (.handling budget lines p callback) (.arriving budget moved none)
  /-- The dialog has been removed, or there is no line. -/
  | finish {budget lines cursor} : Next d (.checking budget lines cursor) .closing
  | perform {budget line} {lines : List Line} {cursor : Location}
      (h : lines[cursor.index]? = some line) :
      Next d (.checking budget lines cursor) (.performing budget cursor line)
  | asked {budget cursor message collect} :
      Next d (.performing budget cursor (.question message collect)) (.returned (.ok .waiting))
  | performed {budget cursor line next} :
      Next d (.performing budget cursor line) (.arriving budget next none)
  | dispatch {budget cursor line action} :
      Next d (.performing budget cursor line) (.dispatching budget cursor action none)
  | close {budget cursor handled status} {action : Action} (h : action.ending? = some status) :
      Next d (.dispatching budget cursor action handled) .closing
  | stop {budget cursor action handled} :
      Next d (.dispatching budget cursor action handled) (.returned (.ok .waiting))
  | jump {budget cursor action handled next} :
      Next d (.dispatching budget cursor action handled) (.arriving budget next none)
  | goOn {budget cursor action lines} :
      Next d (.dispatching budget cursor action (some lines)) (.checking budget lines cursor)
  | ended {result} : Next d .closing (.parting result)
  /-- There is no dialog that could end. -/
  | removed : Next d .closing (.returned (.ok .complete))
  | parted {result} : Next d (.parting result) (.returned (.ok .complete))

namespace Spot

/-- A bound on the spots that are still to come. -/
def size (d : Dialog) : Spot → ℕ
  | starting _ => 9 * d.options.maxSteps + 4
  | arriving budget _ _ => 9 * budget + 3
  | entering budget _ _ => 9 * budget + 11
  | settling budget _ _ => 9 * budget + 10
  | announcing budget .. => 9 * budget + 9
  | selecting budget .. => 9 * budget + 8
  | handling budget .. => 9 * budget + 7
  | dispatching budget _ _ (some _) => 9 * budget + 7
  | checking budget _ _ => 9 * budget + 6
  | performing budget _ _ => 9 * budget + 5
  | dispatching budget _ _ none => 9 * budget + 4
  | closing => 2
  | parting _ => 1
  | returned _ => 0

/-- A run gets ever closer to its end. -/
theorem Next.size_lt {d : Dialog} {a b : Spot} (h : Next d a b) : b.size d < a.size d := by
  cases h with
  | @close _ _ handled | @stop _ _ _ handled | @jump _ _ _ handled =>
    cases handled <;> simp only [size] <;> omega
  | _ =>
    simp only [size]
    omega

end Spot

/-! ### Strides lead along -/

namespace Dialog

variable (d : Dialog)

theorem brings_ofFlow {budget : ℕ} {flow : Flow} {P : Spot → Prop}
    (hstop : ∀ status, flow = .stop status → P (.returned (.ok status)))
    (hgo : (∀ status, flow ≠ .stop status) → ∀ next, P (.arriving budget next none)) :
    Brings (Spot.ofFlow budget flow) P := by
  cases flow with
  | stop status => exact .pure (hstop status rfl)
  | jump next => exact .pure (hgo (fun _ h => by cases h) next)
  | advance => exact .andThen _ fun s => .pure (hgo (fun _ h => by cases h) _)

theorem brings_ofAction {budget : ℕ} {cursor : Location} {line : Line} (action : Option Action) :
    Brings (Spot.ofAction budget cursor action) (Spot.Next d (.performing budget cursor line)) := by
  cases action with
  | some action => exact .pure .dispatch
  | none =>
    unfold Spot.ofAction
    exact brings_ofFlow (fun _ h => by cases h) fun _ _ => .performed

theorem brings_handle (p : Pass) (callback : HandlerCallback) :
    Brings (d.handle p { callback := some callback }) fun flow =>
      flow = none ∨ flow = some (.stop .waiting) ∨
        ∃ moved ≠ p.cursor, flow = some (.jump moved) := by
  refine .andThen _ fun active => .andThen _ fun cursor => .andThen _ fun current => ?_
  cases current with
  | none => exact .pure (.inl rfl)
  | some current =>
    dsimp only
    split
    · exact .andThen _ fun _ => .pure (.inr (.inl rfl))
    · split
      case isTrue hmoved => exact .pure (.inr (.inr ⟨cursor, hmoved, rfl⟩))
      case isFalse => exact .pure (.inl rfl)

theorem brings_prompt (message : Message) :
    Brings (d.prompt message) fun flow => flow = .stop .waiting ∨ flow = .advance := by
  refine .tryCatch (.andThen _ fun _ => .andThen _ fun _ => .pure (.inl rfl)) fun e => ?_
  refine .andThen _ fun s => .andThen _ fun _ => ?_
  cases d.options.promptFailure with
  | none => exact .pure (.inr rfl)
  | some text => exact .andThen _ fun _ => .pure (.inr rfl)

theorem brings_dispatch {action : Action} (h : action.ending? = none) (cursor : Location) :
    Brings (d.dispatch cursor action) fun flow =>
      ∀ status, flow = some (.stop status) → status = .waiting := by
  refine .andThen _ fun _ => ?_
  cases action with
  | complete | stop | timeout => cases h
  | next | repeatLine => exact .pure fun _ h => by cases h
  | wait => exact .andThen _ fun _ => .pure fun _ h => by cases h; rfl
  | executeScript execute | beginDialog execute =>
    exact .andThen _ fun s => .andThen _ fun _ => .pure fun _ h => by cases h; rfl
  | thread name =>
    dsimp only
    split
    · exact .pure fun _ h => by cases h
    · exact .andThen _ fun _ => .pure fun _ h => by cases h

theorem brings_resuming (input : Option TurnInput) (task : Task) :
    Brings (d.resuming input) (Spot.Next d (.starting task)) := by
  refine .andThen _ fun s => ?_
  split
  · exact .andThen _ fun _ => .pure .begin
  · exact .abort

/-- **Every stride leads along**, unless it fails. -/
theorem brings_next {spot : Spot} (hspot : ∀ outcome, spot ≠ .returned outcome) :
    Brings (d.stride spot) (Spot.Next d spot) := by
  cases spot with
  | starting task =>
    cases task with
    | begin =>
      refine .andThen _ fun _ => ?_
      cases d.options.seed with
      | some seed => exact .andThen _ fun _ => .andThen _ fun _ => .andThen _ fun _ => .pure .begin
      | none => exact .andThen _ fun _ => .andThen _ fun _ => .andThen _ fun _ => .pure .begin
    | resume input => exact d.brings_resuming input _
    | continueWith activity =>
      rw [stride]
      split
      · exact d.brings_resuming _ _
      case isFalse h => exact .pure (.ignore (by simpa using h))
  | arriving budget cursor input =>
    cases budget with
    | zero => exact .andThen _ fun _ => .throw _
    | succ budget =>
      refine .andThen _ fun _ => ?_
      cases hlines : d.script.thread? cursor.thread with
      | none => exact .throw _
      | some lines =>
        dsimp only
        split
        case isTrue h => exact .pure (.enter hlines h)
        case isFalse h => exact .pure (.arrive hlines h)
  | entering budget lines p =>
    refine .andThen _ fun moved => ?_
    split
    case isTrue h => exact .pure (.redirectedBefore h)
    case isFalse => exact .pure .entered
  | settling budget lines p =>
    rw [stride]
    cases hanswer : p.answer with
    | none => exact .pure (.unanswered (.inl hanswer))
    | some answer =>
      cases hcollect : collectBefore lines p.cursor.index with
      | none => exact .pure (.unanswered (.inr hcollect))
      | some collect =>
        dsimp only
        cases hkey : collect.key with
        | none => exact .pure (.pass hanswer hcollect hkey)
        | some key => exact .andThen _ fun _ => .pure (.capture hanswer hcollect hkey)
  | announcing budget lines p answer collect key =>
    refine .andThen _ fun moved => ?_
    split
    case isTrue h => exact .pure (.redirectedChange h)
    case isFalse => exact .pure .announced
  | selecting budget lines p answer collect =>
    rw [stride]
    cases hselect : collect.select answer with
    | none => exact .pure (.unhandled fun _ h => by rw [hselect] at h; cases h)
    | some handler =>
      dsimp only
      cases hcallback : handler.callback with
      | some callback => exact .pure (.call hselect hcallback)
      | none =>
        cases haction : handler.action with
        | some action => exact .pure (.act hselect hcallback haction)
        | none =>
          refine .pure (.unhandled fun other h => ?_)
          obtain rfl := Option.some.inj (hselect.symm.trans h)
          exact ⟨hcallback, haction⟩
  | handling budget lines p callback =>
    refine (d.brings_handle p callback).bind ?_
    rintro flow (rfl | rfl | ⟨moved, hmoved, rfl⟩)
    · exact .pure .handled
    · exact .pure .handedOver
    · exact .pure (.redirectedHandler hmoved)
  | checking budget lines cursor =>
    refine .andThen _ fun active => ?_
    split
    · exact .pure .finish
    · cases hline : lines[cursor.index]? with
      | none => exact .pure .finish
      | some line => exact .pure (.perform hline)
  | performing budget cursor line =>
    cases line with
    | question message collect =>
      refine (d.brings_prompt message).bind ?_
      rintro flow (rfl | rfl)
      · exact .pure .asked
      · exact brings_ofFlow (fun _ h => by cases h) fun _ _ => .performed
    | message message action =>
      rw [stride]
      split
      · exact .andThen _ fun _ => d.brings_ofAction action
      · split
        · exact .andThen _ fun _ => d.brings_ofAction action
        · exact d.brings_ofAction action
    | action action => exact d.brings_ofAction (some action)
    | childDialog execute collect => exact d.brings_ofAction (some (.beginDialog execute))
    | next =>
      rw [stride]
      exact brings_ofFlow (fun _ h => by cases h) fun _ _ => .performed
  | dispatching budget cursor action handled =>
    rw [stride]
    cases hending : action.ending? with
    | some status => exact .andThen _ fun _ => .andThen _ fun _ => .pure (.close hending)
    | none =>
      refine (d.brings_dispatch hending cursor).bind fun flow hflow => ?_
      have hstop : ∀ status, flow = some (.stop status) →
          Spot.Next d (.dispatching budget cursor action handled) (.returned (.ok status)) := by
        intro status h
        rw [hflow status h]
        exact .stop
      cases handled with
      | none =>
        refine brings_ofFlow (fun status h => ?_) fun _ _ => .jump
        cases flow with
        | none => cases h
        | some flow => exact hstop status (congrArg some h)
      | some lines =>
        cases flow with
        | none => exact .pure .goOn
        | some flow =>
          exact brings_ofFlow (fun status h => hstop status (congrArg some h)) fun _ _ => .jump
  | closing =>
    refine .andThen _ fun _ => .andThen _ fun active => ?_
    cases active with
    | some active => exact .andThen _ fun _ => .andThen _ fun _ => .andThen _ fun _ => .pure .ended
    | none => exact .andThen _ fun _ => .pure .removed
  | parting result => exact .andThen _ fun _ => .pure .parted
  | returned outcome => exact absurd rfl (hspot outcome)

end Dialog

end Parley
