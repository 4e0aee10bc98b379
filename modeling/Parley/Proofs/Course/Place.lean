import Parley.Proofs.Course.Stage
import Parley.Proofs.Flat.Yielding

/-!
# Where a run stands

The spots of a run tell where it stands, and so does its session.  Both stay in step: a spot in a
pass stands on a line number of a thread that the dialog has (`Spot.Placed`), within the budget, and
the session stands on the same place and waits nowhere else (`Spot.StandsAt`).  All that is done
with an answer is what the line before asks for (`Spot.Heeds`).

* `Spot.Next.placed`, `Dialog.meets_standsAt` : this is kept from spot to spot.
* `Dialog.InPlace.leads` : so it holds in the whole course of a run.
-/

namespace Parley

open Stepping StatefulAttempt

namespace Spot

/-- The lines that a spot goes by are those of its thread, and a pass that has begun is within the
budget. -/
def Placed (d : Dialog) : Spot → Prop
  | arriving budget _ _ => budget ≤ d.options.maxSteps
  | entering budget lines p =>
    budget < d.options.maxSteps ∧ d.script.thread? p.cursor.thread = some lines ∧
      p.cursor.index = 0
  | settling budget lines p | announcing budget lines p .. | selecting budget lines p ..
  | handling budget lines p _ =>
    budget < d.options.maxSteps ∧ d.script.thread? p.cursor.thread = some lines
  | checking budget lines cursor =>
    budget < d.options.maxSteps ∧ d.script.thread? cursor.thread = some lines
  | performing budget cursor line =>
    budget < d.options.maxSteps ∧
      ∃ lines, d.script.thread? cursor.thread = some lines ∧ lines[cursor.index]? = some line
  | dispatching budget cursor _ handled =>
    budget < d.options.maxSteps ∧
      ∀ lines ∈ handled, d.script.thread? cursor.thread = some lines
  | starting _ | closing | parting _ | returned _ => True

theorem Next.placed {d : Dialog} {a b : Spot} (h : Next d a b) (ha : a.Placed d) : b.Placed d := by
  cases h with
  | begin => exact Nat.le_refl _
  | enter hlines hindex => exact ⟨ha, hlines, hindex⟩
  | arrive hlines => exact ⟨ha, hlines⟩
  | entered => exact ⟨ha.1, ha.2.1⟩
  | redirectedBefore | redirectedChange | redirectedHandler | performed | jump =>
    exact Nat.le_of_lt ha.1
  | unanswered | capture | pass | announced | call | unhandled | handled => exact ha
  | act =>
    refine ⟨ha.1, fun lines hlines => ?_⟩
    obtain rfl := Option.some.inj hlines
    exact ha.2
  | perform hline => exact ⟨ha.1, _, ha.2, hline⟩
  | dispatch => exact ⟨ha.1, fun _ h => by cases h⟩
  | goOn => exact ⟨ha.1, ha.2 _ rfl⟩
  | ignore | handedOver | finish | asked | close | stop | ended | removed | parted => trivial

/-- What is done with an answer is what the line before asks for, and a callback that is called is
that of a handler there. -/
def Heeds : Spot → Prop
  | announcing _ lines p _ collect _ | selecting _ lines p _ collect =>
    Dialog.collectBefore lines p.cursor.index = some collect
  | handling _ lines p callback =>
    ∃ collect, Dialog.collectBefore lines p.cursor.index = some collect ∧
      ∃ handler ∈ collect.options, handler.callback = some callback
  | dispatching _ cursor _ handled =>
    ∀ lines ∈ handled, ∃ collect, Dialog.collectBefore lines cursor.index = some collect
  | starting _ | arriving .. | entering .. | settling .. | checking .. | performing .. | closing
  | parting _ | returned _ => True

theorem Next.heeds {d : Dialog} {a b : Spot} (h : Next d a b) (ha : a.Heeds) : b.Heeds := by
  cases h with
  | capture _ hcollect | pass _ hcollect => exact hcollect
  | announced => exact ha
  | call hselect hcallback =>
    exact ⟨_, ha, _, Dialog.mem_options_of_select hselect, hcallback⟩
  | act =>
    rintro lines hlines
    obtain rfl := Option.some.inj hlines
    exact ⟨_, ha⟩
  | dispatch => exact nofun
  | _ => trivial

end Spot

/-- A session stands at a place and waits nowhere else. -/
structure Session.Stands (cursor : Location) (s : Session) : Prop where
  location : s.location = cursor
  resumeIndex : s.resumeIndex = none

/-- A session that can be resumed goes on at a place. -/
structure Session.GoesOnAt (place : Location) (s : Session) : Prop where
  hasNext : s.HasNext
  place_eq : (⟨s.thread, s.resumePoint⟩ : Location) = place

/-- A session that is resumed goes on behind the place where it stands. -/
theorem Session.Stands.goesOnAt {cursor : Location} {s : Session} (h : s.Stands cursor)
    (hindex : cursor.index + 1 < Session.indexBound) :
    s.GoesOnAt ⟨cursor.thread, cursor.index + 1⟩ := by
  obtain ⟨rfl, hresume⟩ := h
  refine ⟨hindex, ?_⟩
  rw [Session.resumePoint, hresume, Option.getD_none]
  rfl

/-- The session stands where the run does. -/
def Spot.StandsAt : Spot → Session → Prop
  | starting .begin, s | arriving .., s => s.resumeIndex = none
  | entering _ _ p, s | settling _ _ p, s | announcing _ _ p .., s | selecting _ _ p .., s
  | handling _ _ p _, s => s.Stands p.cursor
  | checking _ _ cursor, s | performing _ cursor _, s | dispatching _ cursor .., s =>
    s.Stands cursor
  | starting (.resume _), _ | starting (.continueWith _), _ | closing, _ | parting _, _
  | returned _, _ => True

namespace Dialog

variable (d : Dialog) {cursor : Location}

theorem exists_of_collectBefore {lines : List Line} {index : ℕ} {collect : Collect}
    (h : collectBefore lines index = some collect) :
    ∃ line ∈ lines, line.collect? = some collect := by
  cases index with
  | zero => cases h
  | succ index =>
    obtain ⟨line, hline, hcollect⟩ := Option.bind_eq_some_iff.1 h
    exact ⟨line, List.mem_of_getElem? hline, hcollect⟩

/-! ### What leaves the place of a session -/

theorem retains_converse (at_ : Location) (callbacks : List (ConvoM Unit)) :
    Retains (Session.Stands cursor) (converse at_ callbacks) := by
  refine .get_bind fun s hs => .bind (.liftHost _) fun x => .bind (.set ⟨hs.1, hs.2⟩) fun _ => ?_
  cases x.1 with
  | ok _ => exact .pure _
  | error e => exact .throw e

theorem retains_enter (at_ : Location) : Retains (Session.Stands cursor) (d.enter at_) := by
  refine .bind (.liftM _) fun _ => ?_
  split
  · exact .pure _
  · exact .bind (.liftM _) fun _ => retains_converse _ _

theorem retains_announceChange (at_ : Location) (key : String) (answer : Json) :
    Retains (Session.Stands cursor) (d.announceChange at_ key answer) := by
  unfold announceChange
  split
  · exact .pure _
  · exact .bind (.liftM _) fun _ => retains_converse _ _

theorem retains_handle (p : Pass) (callback : HandlerCallback) :
    Retains (Session.Stands cursor) (d.handle p { callback := some callback }) := by
  refine .bind (.liftM _) fun active => .bind (retains_converse _ _) fun moved =>
    .bind (.liftM _) fun current => ?_
  cases current with
  | none => exact .pure _
  | some current =>
    dsimp only
    split
    · exact .bind (.liftM _) fun _ => .pure _
    · split <;> exact .pure _

theorem retains_compose (message : Message) :
    Retains (Session.Stands cursor) (compose message) := by
  refine .get_bind fun s hs => .bind (.set ⟨hs.1, hs.2⟩) fun _ => ?_
  split
  · exact .pure _
  · exact .throw _

theorem retains_emit (message : Message) : Retains (Session.Stands cursor) (emit message) := by
  refine .bind (retains_compose message) fun m => ?_
  induction m.parts with
  | nil => exact .pure _
  | cons part parts ih => exact .bind (.liftM _) fun _ => ih

theorem retains_prompt (message : Message) :
    Retains (Session.Stands cursor) (d.prompt message) := by
  refine .tryCatch (.bind (retains_compose message) fun m => .bind (.liftM _) fun _ => .pure _)
    fun e => ?_
  refine .get_bind fun s _ => .bind (.liftM _) fun _ => ?_
  cases d.options.promptFailure with
  | none => exact .pure _
  | some text => exact .bind (.tryCatch (.liftM _) fun e => .liftM _) fun _ => .pure _

/-- An action moves no session, unless the run is over with it. -/
theorem meets_dispatch (at_ : Location) {action : Action} (h : action.ending? = none) :
    Meets (Session.Stands cursor) (d.dispatch at_ action) fun flow s =>
      s.Stands cursor ∨ flow = some (.stop .waiting) := by
  refine Retains.then_meets (.liftM _) fun _ => ?_
  cases action with
  | complete | stop | timeout => cases h
  | next | repeatLine => exact .pure fun _ hs => .inl hs
  | wait => exact (Brings.andThen _ fun _ => .pure rfl).meets fun _ _ h => .inr h.symm
  | executeScript execute | beginDialog execute =>
    exact (Brings.andThen _ fun _ => .andThen _ fun _ => .pure rfl).meets fun _ _ h => .inr h.symm
  | thread name =>
    dsimp only
    split
    · exact .pure fun _ hs => .inl hs
    · exact Retains.then_meets (.liftM _) fun _ => .pure fun _ hs => .inl hs

/-! ### Strides -/

variable {d}

theorem meets_ofFlow (budget : ℕ) (flow : Flow) :
    Meets (Session.Stands cursor) (Spot.ofFlow budget flow) Spot.StandsAt := by
  cases flow with
  | stop status => exact .pure fun _ _ => trivial
  | jump next => exact .pure fun _ hs => hs.resumeIndex
  | advance =>
    exact Retains.get.then_meets fun _ => .pure fun _ hs => hs.resumeIndex

theorem meets_ofAction (budget : ℕ) (action : Option Action) :
    Meets (Session.Stands cursor) (Spot.ofAction budget cursor action) Spot.StandsAt := by
  cases action with
  | some action => exact .pure fun _ hs => hs
  | none => exact meets_ofFlow budget .advance

theorem meets_ofSettled (budget : ℕ) (lines : List Line) (settled : Option Flow) :
    Meets (Session.Stands cursor) (Spot.ofSettled budget lines cursor settled) Spot.StandsAt := by
  cases settled with
  | some flow => exact meets_ofFlow budget flow
  | none => exact .pure fun _ hs => hs

theorem meets_resuming (d : Dialog) (input : Option TurnInput) {P : Session → Prop} :
    Meets P (d.resuming input) Spot.StandsAt := by
  have hget : Meets P (get : SessionM Session) fun _ _ => True := .get fun _ _ => trivial
  have hset (s : Session) : Meets (fun _ => True) (set { s with resumeIndex := none } : SessionM _)
      fun _ s' => s'.resumeIndex = none := .set fun _ _ => rfl
  refine hget.bind fun s => ?_
  split
  · exact (hset s).bind fun _ => .pure fun _ hs => hs
  · exact .abort

theorem meets_begin (d : Dialog) :
    Meets (fun s => s.resumeIndex = none) (d.stride (.starting .begin)) Spot.StandsAt := by
  have hvalues : Retains (fun s : Session => s.resumeIndex = none)
      (modify fun s => { s with values := s.options.values, status := .running } :
        SessionM PUnit) := .modify fun _ hs => hs
  have hrng (seed : UInt32) : Retains (fun s : Session => s.resumeIndex = none)
      (modify fun s => { s with rngState := seed } : SessionM PUnit) := .modify fun _ hs => hs
  have harriving : Meets (fun s : Session => s.resumeIndex = none)
      (do return Spot.arriving d.options.maxSteps ⟨(← get).thread, 0⟩ none) Spot.StandsAt :=
    Retains.get.then_meets fun _ => .pure fun _ hs => hs
  refine hvalues.then_meets fun _ => ?_
  cases d.options.seed with
  | some seed => exact (Retains.pure seed).then_meets fun seed => (hrng seed).then_meets fun _ =>
      harriving
  | none => exact (Retains.liftM _).then_meets fun seed => (hrng seed).then_meets fun _ =>
      harriving

/-- **From spot to spot** the session stands where the run does. -/
theorem meets_standsAt (d : Dialog) (spot : Spot) :
    Meets (Spot.StandsAt spot) (d.stride spot) Spot.StandsAt := by
  cases spot with
  | starting task =>
    cases task with
    | begin => exact meets_begin d
    | resume input => exact meets_resuming d input
    | continueWith activity =>
      rw [stride]
      split
      · exact meets_resuming d _
      · exact .pure fun _ _ => trivial
  | arriving budget cursor input =>
    cases budget with
    | zero => exact Retains.then_meets (fun _ hs => hs) fun _ => .throw _
    | succ budget =>
      have hmodify : Meets (Spot.StandsAt (.arriving (budget + 1) cursor input))
          (modify fun s => { s with thread := cursor.thread, stepIndex := cursor.index })
          fun _ => Session.Stands cursor := .modify fun _ hs => ⟨rfl, hs⟩
      refine hmodify.bind fun _ => ?_
      split
      · exact .throw _
      · split <;> exact .pure fun _ hs => hs
  | entering budget lines p =>
    refine Retains.then_meets (d.retains_enter _) fun moved => ?_
    split
    · exact .pure fun _ hs => hs.resumeIndex
    · exact .pure fun _ hs => hs
  | settling budget lines p =>
    rw [stride]
    split
    · split
      · exact .pure fun _ hs => hs
      · exact Retains.then_meets (.modify fun _ hs => ⟨hs.1, hs.2⟩) fun _ => .pure fun _ hs => hs
    · exact .pure fun _ hs => hs
  | announcing budget lines p answer collect key =>
    refine Retains.then_meets (d.retains_announceChange _ _ _) fun moved => ?_
    split
    · exact .pure fun _ hs => hs.resumeIndex
    · exact .pure fun _ hs => hs
  | selecting budget lines p answer collect =>
    rw [stride]
    split
    · exact .pure fun _ hs => hs
    · split
      · exact .pure fun _ hs => hs
      · split <;> exact .pure fun _ hs => hs
  | handling budget lines p callback =>
    exact Retains.then_meets (d.retains_handle p callback) fun flow =>
      meets_ofSettled budget lines flow
  | checking budget lines cursor =>
    refine Retains.then_meets (.liftM _) fun active => ?_
    split
    · exact .pure fun _ _ => trivial
    · split
      · exact .pure fun _ _ => trivial
      · exact .pure fun _ hs => hs
  | performing budget cursor line =>
    cases line with
    | question message collect =>
      exact Retains.then_meets (d.retains_prompt message) fun flow => meets_ofFlow budget flow
    | message message action =>
      rw [stride]
      split
      · exact Retains.then_meets (retains_emit message) fun _ => meets_ofAction budget action
      · split
        · exact Retains.then_meets (.liftM _) fun _ => meets_ofAction budget action
        · exact meets_ofAction budget action
    | action action => exact meets_ofAction budget (some action)
    | childDialog execute collect => exact meets_ofAction budget (some (.beginDialog execute))
    | next => exact meets_ofFlow budget .advance
  | dispatching budget cursor action handled =>
    have hall : ∀ s, Spot.StandsAt .closing s := fun _ => trivial
    rw [stride]
    split
    · exact Retains.then_meets (.liftM _) fun _ =>
        Brings.meets (P := fun spot => ∀ s, Spot.StandsAt spot s) (.andThen _ fun _ => .pure hall)
          fun _ s h => h s
    case h_2 hending =>
      refine (d.meets_dispatch cursor hending).bind fun flow => ?_
      -- an action that hands the turn over may have moved the session, but then the run is over
      by_cases hstop : flow = some (.stop .waiting)
      · subst hstop
        cases handled <;> exact .pure fun _ _ => trivial
      · have hstands : ∀ s : Session,
            s.Stands cursor ∨ flow = some (.stop .waiting) → s.Stands cursor :=
          fun s h => h.resolve_right hstop
        cases handled with
        | none => exact (meets_ofFlow budget (flow.getD .advance)).strengthen hstands
        | some lines => exact (meets_ofSettled budget lines flow).strengthen hstands
  | closing =>
    have hreturned : ∀ s, Spot.StandsAt (.returned (.ok .complete)) s := fun _ => trivial
    have hparting : ∀ result s, Spot.StandsAt (.parting result) s := fun _ _ => trivial
    refine Brings.meets (P := fun spot => ∀ s, Spot.StandsAt spot s) ?_ fun _ s h => h s
    refine .andThen _ fun _ => .andThen _ fun active => ?_
    cases active with
    | some active =>
      exact .andThen _ fun s => .andThen _ fun _ => .andThen _ fun _ => .pure (hparting _)
    | none => exact .andThen _ fun _ => .pure hreturned
  | parting result =>
    have hreturned : ∀ s, Spot.StandsAt (.returned (.ok .complete)) s := fun _ => trivial
    refine Brings.meets (P := fun spot => ∀ s, Spot.StandsAt spot s) ?_ fun _ s h => h s
    exact .andThen _ fun _ => .pure hreturned
  | returned outcome => exact .pure fun _ _ => trivial

/-- When a question has been asked, the session still stands on it. -/
theorem retains_question (d : Dialog) (budget : ℕ) (message : Message) (collect : Collect) :
    Retains (Session.Stands cursor)
      (d.stride (.performing budget cursor (.question message collect))) := by
  refine .bind (d.retains_prompt message) fun flow => ?_
  cases flow with
  | stop | jump => exact .pure _
  | advance => exact .bind .get fun _ => .pure _

/-! ### The course of a run -/

variable {η : Type} {host : (r : Request) → η → Option (r.Answer × η)} {t t' : Stage η}

/-- A run is in place: it goes by the lines of its dialog, and its session stands where it does. -/
structure InPlace (d : Dialog) (t : Stage η) : Prop where
  placed : t.spot.Placed d
  standsAt : t.spot.StandsAt t.session

theorem InPlace.next (h : d.InPlace t) (hnext : d.next? host t = some t') : d.InPlace t' := by
  obtain ⟨spot', s', w'⟩ := t'
  obtain ⟨o, hrun, hreached⟩ := exists_runWith_of_next? hnext
  cases o with
  | error e =>
    obtain rfl : spot' = .returned (.error e) := hreached
    exact ⟨trivial, trivial⟩
  | ok spot =>
    obtain rfl : spot' = spot := hreached
    -- the spot is kept in place by what may follow it, the session by what the stride does
    refine ⟨?_, (d.meets_standsAt t.spot).runWith h.standsAt hrun⟩
    rcases next_of_next? hnext with hstep | ⟨e, he⟩
    · exact hstep.placed h.placed
    · obtain rfl : spot' = .returned (.error e) := he
      trivial

theorem placed_and_heeds_of_next? (h : t.spot.Placed d ∧ t.spot.Heeds)
    (hnext : d.next? host t = some t') : t'.spot.Placed d ∧ t'.spot.Heeds := by
  obtain ⟨spot', s', w'⟩ := t'
  rcases next_of_next? hnext with hstep | ⟨e, he⟩
  · exact ⟨hstep.placed h.1, hstep.heeds h.2⟩
  · obtain rfl : spot' = .returned (.error e) := he
    exact ⟨trivial, trivial⟩

/-- **In the whole course of a run** its session stands where the run does. -/
theorem InPlace.leads (h : d.InPlace t) (hlead : Leads (d.next? host) t t') : d.InPlace t' :=
  hlead.invariant h fun _ _ => InPlace.next

end Dialog

end Parley
