import Parley.Proofs.Conversation.Captures
import Parley.Proofs.Course.Deeds
import Parley.Proofs.Repeating

/-!
# Where answers are dealt with

A run deals with an answer in one stretch: it is captured, hooks on it and handlers are called, and
the action of a handler is carried out.  All the while the run stands behind the line that has
asked, for the handlers are looked up one line back (`Spot.Heeds`).  In a dialog whose lines are
paired that place is a line `next`, and a handler that goes back by one line comes to the line whose
answer it has been given.

A handler goes back by its action, or by a callback that moves the cursor; `Dialog.GoesBack` says of
either.  `Dialog.Made.answered_on_next` puts this together for all dialogs that are built or loaded.
-/

namespace Parley

open Stepping StatefulAttempt

/-- The place one line back, if there is a line before. -/
def Location.back (l : Location) : Location := { l with index := l.index - 1 }

namespace Spot

/-- The place at which a spot deals with an answer, if it does. -/
def answering? : Spot → Option Location
  | settling budget lines p => (taken? (settling budget lines p)).map fun _ => p.cursor
  | announcing _ _ p .. | selecting _ _ p .. | handling _ _ p _ => some p.cursor
  | dispatching _ cursor _ handled => handled.map fun _ => cursor
  | starting _ | arriving .. | entering .. | checking .. | performing .. | closing | parting _
  | returned _ => none

end Spot

namespace Dialog

variable {d : Dialog}

theorem exists_collectorAt_of_answering? {spot : Spot} {place : Location}
    (hplaced : spot.Placed d) (hheeds : spot.Heeds) (h : spot.answering? = some place) :
    ∃ collect, d.collectorAt place = some collect := by
  have key {lines : List Line} {collect : Collect}
      (hlines : d.script.thread? place.thread = some lines)
      (hcollect : collectBefore lines place.index = some collect) :
      d.collectorAt place = some collect := Option.bind_eq_some_iff.2 ⟨lines, hlines, hcollect⟩
  cases spot with
  | settling budget lines p =>
    obtain ⟨taken, htaken, rfl⟩ := Option.map_eq_some_iff.1 h
    obtain ⟨_, collect, -, hcollect, -⟩ := Option.map₂_eq_some_iff.1 htaken
    exact ⟨collect, key hplaced.2 hcollect⟩
  | announcing budget lines p answer collect | selecting budget lines p answer collect =>
    obtain rfl := Option.some.inj h
    exact ⟨collect, key hplaced.2 hheeds⟩
  | handling budget lines p callback =>
    obtain rfl := Option.some.inj h
    obtain ⟨collect, hcollect, -⟩ := hheeds
    exact ⟨collect, key hplaced.2 hcollect⟩
  | dispatching budget cursor action handled =>
    obtain ⟨lines, hlines, rfl⟩ := Option.map_eq_some_iff.1 h
    obtain ⟨collect, hcollect⟩ := hheeds lines hlines
    exact ⟨collect, key (hplaced.2 lines hlines) hcollect⟩
  | starting | arriving | entering | checking | performing | closing | parting | returned => cases h

/-- The line one back from where an answer is dealt with is the one that asks. -/
theorem exists_line?_back {place : Location} {collect : Collect}
    (h : d.collectorAt place = some collect) :
    place.back ≠ place ∧
      ∃ line, d.line? place.back = some line ∧ line.collect? = some collect := by
  obtain ⟨lines, hlines, hcollect⟩ := Option.bind_eq_some_iff.1 h
  obtain ⟨thread, index⟩ := place
  cases index with
  | zero => cases hcollect
  | succ index =>
    obtain ⟨line, hline, hasks⟩ := Option.bind_eq_some_iff.1 hcollect
    refine ⟨fun hback => ?_, line, Option.bind_eq_some_iff.2 ⟨lines, hlines, hline⟩, hasks⟩
    exact absurd (congrArg Location.index hback) (Nat.ne_of_lt (Nat.lt_succ_self index))

/-! ### Handlers that go back -/

/-- A handler that is selected goes back by one line, and leaves a session and a stack behind.
Either its action says so, or its callback returns with the cursor one line back while the dialog on
top is the one that was there before. -/
inductive GoesBack (d : Dialog) (rounds : ℕ) (p : Pass) (s : Session) (st : Stack)
    (handler : Handler) : Session → Stack → Prop where
  | action (hcallback : handler.callback = none) (haction : handler.action = some .repeatLine) :
      GoesBack d rounds p s st handler s
        (st.note (.dispatchingAction d.id Action.repeatLine.keyword))
  | callback {callback : HandlerCallback} {convo : Convo} {left : Stack} {active : String}
      (hcallback : handler.callback = some callback)
      (hreturns : runOn rounds (callback (p.answer.bind Json.string?)
        (p.input.bind TurnInput.activity?)) ⟨p.cursor, s.values⟩ st = some ((.ok (), convo), left))
      (hcursor : convo.cursor = p.cursor.back) (hbefore : st.active? = some active)
      (hafter : left.active? = some active) :
      GoesBack d rounds p s st handler { s with values := convo.vars } left

section

variable {rounds budget : ℕ} {lines : List Line} {p : Pass} {s s' : Session} {st left : Stack}
  {answer : Json} {collect : Collect} {handler : Handler}

/-- A callback that moves the cursor, and leaves the dialog on top that was there, ends the pass. -/
theorem next?_handling_of_moved {callback : HandlerCallback} {convo : Convo} {active : String}
    (hreturns : runOn rounds (callback (p.answer.bind Json.string?)
      (p.input.bind TurnInput.activity?)) ⟨p.cursor, s.values⟩ st = some ((.ok (), convo), left))
    (hmoved : convo.cursor ≠ p.cursor) (hbefore : st.active? = some active)
    (hafter : left.active? = some active) :
    d.next? (Stack.answer rounds) ⟨.handling budget lines p callback, s, st⟩ =
      some ⟨.arriving budget convo.cursor none, { s with values := convo.vars }, left⟩ := by
  have hconverse : runOn rounds (converse p.cursor [callback (p.answer.bind Json.string?)
      (p.input.bind TurnInput.activity?)]) s st =
      some ((.ok convo.cursor, { s with values := convo.vars }), left) := by
    have hall : runOn rounds (forM [callback (p.answer.bind Json.string?)
        (p.input.bind TurnInput.activity?)] fun callback => callback) ⟨p.cursor, s.values⟩ st =
        some ((.ok ⟨⟩, convo), left) := (runOn_bind_of_ok hreturns _).trans rfl
    exact (runWith_converse _ _ _ _).trans (congrArg (Option.map _) hall)
  have hhandle : runOn rounds (d.handle p { callback := some callback }) s st =
      some ((.ok (some (.jump convo.cursor)), { s with values := convo.vars }), left) := by
    refine (runOn_bind_of_ok (runOn_active s st) _).trans ?_
    refine (runOn_bind_of_ok hconverse _).trans ?_
    refine (runOn_bind_of_ok (runOn_active _ left) _).trans ?_
    have hsame : ¬some active ≠ st.active? := not_not.2 hbefore.symm
    rw [hafter]
    dsimp only
    rw [if_neg hsame, if_pos hmoved, runOn_pure]
  exact next?_of_runWith (fun _ h => by cases h) ((runWith_bind_of_ok hhandle _).trans rfl)

/-- **A handler that goes back** makes the run arrive one line before the place where the answer is
dealt with. -/
theorem GoesBack.leads (h : d.GoesBack rounds p s st handler s' left)
    (hselect : collect.select answer = some handler) (hback : p.cursor.back ≠ p.cursor) :
    Leads (d.next? (Stack.answer rounds)) ⟨.selecting budget lines p answer collect, s, st⟩
      ⟨.arriving budget p.cursor.back none, s', left⟩ := by
  cases h with
  | action hcallback haction =>
    exact (Leads.single (next?_selecting_of_action hselect hcallback haction)).tail
      next?_dispatching_repeatLine
  | @callback callback convo left active hcallback hreturns hcursor hbefore hafter =>
    have hcall : d.next? (Stack.answer rounds) ⟨.selecting budget lines p answer collect, s, st⟩ =
        some ⟨.handling budget lines p callback, s, st⟩ := by
      refine next?_of_stride_eq_pure (fun _ h => by cases h) ?_
      simp only [stride, hselect, hcallback]
    have hmoved : convo.cursor ≠ p.cursor := hcursor ▸ hback
    exact hcursor ▸ (Leads.single hcall).tail
      (next?_handling_of_moved hreturns hmoved hbefore hafter)

end

/-! ### Dialogs that are made -/

/-- A dialog that has been built, or comes from a text. -/
def Made (d : Dialog) : Prop := d.Built ∨ d.Loaded

namespace Made

theorem paired (h : d.Made) {thread : String} {lines : List Line}
    (hl : d.script.thread? thread = some lines) : Paired lines :=
  (h.elim Built.isInterlaced Loaded.isInterlaced thread lines hl).paired

theorem line?_eq_next (h : d.Made) {place : Location} {collect : Collect}
    (hcollect : d.collectorAt place = some collect) : d.line? place = some .next := by
  obtain ⟨lines, hlines, hbefore⟩ := Option.bind_eq_some_iff.1 hcollect
  exact Option.bind_eq_some_iff.2
    ⟨lines, hlines, ((h.paired hlines).next_iff place.index).2 ⟨collect, hbefore⟩⟩

/-- **Answers are dealt with on lines `next`.**  In every thread of a dialog that is built or loaded
a line that asks for something is followed by `next`, and a line `next` is behind one that asks.  So
whenever a run deals with an answer, it stands on a line `next`, and a handler that goes back makes
the run arrive at the line that has asked: the one whose handlers the answer was offered to. -/
theorem answered_on_next (h : d.Made) :
    (∀ thread lines, d.script.thread? thread = some lines → Paired lines) ∧
      ∀ rounds task s st t,
        Leads (d.next? (Stack.answer rounds)) ⟨.starting task, s, st⟩ t →
          (∀ place, t.spot.answering? = some place → d.line? place = some .next) ∧
          ∀ budget lines p answer collect handler s' left,
            t.spot = .selecting budget lines p answer collect →
            collect.select answer = some handler →
            d.GoesBack rounds p t.session t.host handler s' left →
              (∃ line, d.line? p.cursor.back = some line ∧ line.collect? = some collect) ∧
              Leads (d.next? (Stack.answer rounds)) t
                ⟨.arriving budget p.cursor.back none, s', left⟩ := by
  refine ⟨fun _ _ => h.paired, fun rounds task s st t hlead => ?_⟩
  obtain ⟨hplaced, hheeds⟩ : t.spot.Placed d ∧ t.spot.Heeds :=
    hlead.invariant (I := fun t => t.spot.Placed d ∧ t.spot.Heeds) ⟨trivial, trivial⟩ fun _ _ =>
      placed_and_heeds_of_next?
  refine ⟨fun place hplace => ?_, ?_⟩
  · obtain ⟨collect, hcollect⟩ := exists_collectorAt_of_answering? hplaced hheeds hplace
    exact h.line?_eq_next hcollect
  · intro budget lines p answer collect handler s' left hspot hselect hgoes
    obtain ⟨spot, s, st⟩ := t
    obtain rfl : spot = .selecting budget lines p answer collect := hspot
    have hcollect : d.collectorAt p.cursor = some collect :=
      Option.bind_eq_some_iff.2 ⟨lines, hplaced.2, hheeds⟩
    obtain ⟨hback, hline⟩ := exists_line?_back hcollect
    exact ⟨hline, hgoes.leads hselect hback⟩

end Made

end Dialog

/-! ### Coffee at the teahouse -/

namespace Stack

open Dialog

theorem teahouse_made : teahouse.Made :=
  .inl (.ask (.say (.empty "teahouse" { seed := some 7, maxSteps := 2 }) (.ofText "Welcome."))
    (.ofText "Tea?")
    (.options [Handler.fallback.withAction .repeatLine,
      { pattern := some ⟨"tea", .literal ['t', 'e', 'a']⟩, action := some .next }])
    (some { key := "drink" }))

/-- A guest who is asked for a drink and orders coffee has the order dealt with behind the question,
and is led back to it. -/
theorem answered_on_next_teahouse :
    teahouse.Made ∧ ∃ s t left,
      s.Stands ⟨defaultThread, 1⟩ ∧
      Leads (teahouse.next? (answer 0))
        ⟨.starting (.continueWith (order "coffee").1), s, teaOffered⟩ t ∧
      t.spot.answering? = some ⟨defaultThread, 2⟩ ∧
      teahouse.line? ⟨defaultThread, 2⟩ = some .next ∧
      (∃ line, teahouse.line? ⟨defaultThread, 1⟩ = some line ∧ line.collect? = some drinkCollect) ∧
      Leads (teahouse.next? (answer 0)) t
        ⟨.arriving 1 ⟨defaultThread, 1⟩ none, t.session, left⟩ := by
  let s : Session := { Session.launch {} with stepIndex := 1 }
  have hunmatched := unmatched_of_mem_orders (order "coffee") List.mem_cons_self
  have hbudget : teahouse.options.maxSteps = 1 + 1 := rfl
  have hgoes : s.GoesOnAt teahouseFallback.place := ⟨by decide, rfl⟩
  obtain ⟨hsettling, htaken⟩ := teahouseFallback.leads_taken (answer 0) teaOffered hbudget hgoes
    hunmatched.isMessage hunmatched.response_eq
  let pass : Pass := ⟨⟨defaultThread, 2⟩, some (.message (order "coffee").1)⟩
  let kept : Session :=
    { teahouseFallback.arrived s with values := drinkCollect.keep (order "coffee").2 s.values }
  let t : Stage Stack :=
    ⟨.selecting 1 teahouseFallback.lines pass (order "coffee").2 drinkCollect, kept, teaOffered⟩
  have hselecting : Leads (teahouse.next? (answer 0))
      ⟨.starting (.continueWith (order "coffee").1), s, teaOffered⟩ t :=
    (hsettling.tail (next?_of_taken htaken)).tail (next?_announcing_of_onChange_eq_nil rfl)
  obtain ⟨-, hruns⟩ := Made.answered_on_next teahouse_made
  obtain ⟨hnext, hback⟩ := hruns 0 _ s teaOffered t hselecting
  obtain ⟨hline, hleads⟩ := hback _ _ _ _ _ _ _ _ rfl hunmatched.select_eq (.action rfl rfl)
  exact ⟨teahouse_made, s, t, _, ⟨rfl, rfl⟩, hselecting, rfl, hnext _ rfl, hline, hleads⟩

end Stack

end Parley
