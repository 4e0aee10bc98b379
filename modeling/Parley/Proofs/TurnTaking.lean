import Parley.Dialog.Builder
import Parley.Proofs.Hosted
import Parley.Proofs.Moment.Basic

/-!
# Who has the turn

A handler may be a callback, and a callback may begin, replace or end dialogs.  When it has
returned, the run that called it looks who is on top of the stack.  If that is a session of another
dialog than before, the run waits and does nothing more; otherwise it goes on as if the callback had
handed nothing over (`Dialog.runOn_resume_of_called`).

A run compares the ids of dialogs, not the numbers of sessions.  So it does not notice that another
session of its own dialog has the turn: it sends its next message above that session and takes it
off the stack (`Stack.asker_overlooks_twin`).
-/

namespace Parley

/-! ### Running on a stack -/

namespace StatefulAttempt

variable {σ α β : Type}

/-- Run a computation on a stack that answers it in a number of rounds. -/
def runOn (rounds : ℕ) (x : StatefulAttempt σ α) (s : σ) (st : Stack) :
    Option ((Except DialogError α × σ) × Stack) :=
  HostM.run (Stack.answer rounds) (x.run.run s) st

variable {rounds : ℕ} {x : StatefulAttempt σ α} {s s' : σ} {st st' : Stack}

theorem runOn_bind (x : StatefulAttempt σ α) (f : α → StatefulAttempt σ β) (s : σ) (st : Stack) :
    runOn rounds (x >>= f) s st = (runOn rounds x s st).bind fun ((o, s'), st') =>
      match o with
      | .ok a => runOn rounds (f a) s' st'
      | .error e => some ((.error e, s'), st') := runWith_bind x f s st

theorem runOn_bind_of_ok {a : α} (h : runOn rounds x s st = some ((.ok a, s'), st'))
    (f : α → StatefulAttempt σ β) :
    runOn rounds (x >>= f) s st = runOn rounds (f a) s' st' := runWith_bind_of_ok h f

theorem runOn_bind_congr {y : StatefulAttempt σ α}
    (h : runOn rounds x s st = runOn rounds y s' st') (f : α → StatefulAttempt σ β) :
    runOn rounds (x >>= f) s st = runOn rounds (y >>= f) s' st' := by
  rw [runOn_bind, runOn_bind, h]

theorem runOn_pure (a : α) (s : σ) (st : Stack) :
    runOn rounds (pure a : StatefulAttempt σ α) s st = some ((.ok a, s), st) := rfl

theorem runOn_liftM {m : HostM α} {a : α}
    (h : HostM.run (Stack.answer rounds) m st = some (a, st')) (s : σ) :
    runOn rounds (liftM m : StatefulAttempt σ α) s st = some ((.ok a, s), st') := by
  have hok : HostM.run (Stack.answer rounds) (ExceptT.lift m : Attempt α).run st =
      some (.ok a, st') := by
    refine (HostM.run_bind _ m _ st).trans ?_
    rw [h]
    rfl
  refine (HostM.run_bind _ (ExceptT.lift m : Attempt α).run _ st).trans ?_
  rw [hok]
  rfl

theorem runOn_active (s : σ) (st : Stack) :
    runOn rounds (Attempt.active : StatefulAttempt σ _) s st =
      some ((.ok st.active?, s), st) := by
  cases rounds <;> rfl

theorem runOn_note (event : Event) (s : Session) (st : Stack) :
    runOn rounds (Dialog.note event) s st = some ((.ok (), s), st.note event) := by
  cases rounds <;> rfl

end StatefulAttempt

open StatefulAttempt

/-! ### Replies -/

/-- The session as it is resumed. -/
def Session.resumed (s : Session) : Session :=
  { s with stepIndex := s.resumePoint, resumeIndex := none }

namespace Dialog

variable {d : Dialog} {cursor : Location} {input : Option TurnInput} {rounds budget : ℕ}

/-- An answer that comes in at a place and that is handled by a callback. -/
structure Reply (d : Dialog) (cursor : Location) (input : Option TurnInput) where
  lines : List Line
  answer : Json
  collect : Collect
  handler : Handler
  callback : HandlerCallback
  thread_eq : d.script.thread? cursor.thread = some lines
  response_eq : input.bind TurnInput.response = some answer
  collect_eq : collectBefore lines cursor.index = some collect
  select_eq : collect.select answer = some handler
  callback_eq : handler.callback = some callback

namespace Reply

/-- Capture the answer, if it is kept, and tell where the hooks on it leave the cursor. -/
def capturing (r : d.Reply cursor input) : SessionM Location :=
  match r.collect.key with
  | none => pure cursor
  | some key => do
    capture key r.answer r.collect.multiple
    d.announceChange cursor key r.answer

/-- Call the callback. -/
def calling (r : d.Reply cursor input) : ConvoM Unit :=
  r.callback r.answer.string? (input.bind TurnInput.activity?)

/-- The callback has been called and has returned: what the session and the stack were before, and
what the callback has left behind. -/
structure Called (r : d.Reply cursor input) (rounds : ℕ) (s : Session) (st : Stack) where
  kept : Session
  before : Stack
  convo : Convo
  after : Stack
  captured : runOn rounds r.capturing s st = some ((.ok cursor, kept), before)
  returned : runOn rounds r.calling ⟨cursor, kept.values⟩ before = some ((.ok (), convo), after)

/-- The reply that comes in at a place, if there is one. -/
def find? (d : Dialog) (cursor : Location) (input : Option TurnInput) :
    Option (d.Reply cursor input) :=
  match hlines : d.script.thread? cursor.thread, hanswer : input.bind TurnInput.response with
  | some lines, some answer =>
    match hcollect : collectBefore lines cursor.index with
    | some collect =>
      match hselect : collect.select answer with
      | some handler =>
        match hcallback : handler.callback with
        | some callback =>
          some ⟨lines, answer, collect, handler, callback, hlines, hanswer, hcollect, hselect,
            hcallback⟩
        | none => none
      | none => none
    | none => none
  | _, _ => none

/-- The call of the callback, if it comes to it and returns. -/
def call? (r : d.Reply cursor input) (rounds : ℕ) (s : Session) (st : Stack) :
    Option (r.Called rounds s st) :=
  match hcaptured : runOn rounds r.capturing s st with
  | some ((.ok moved, kept), before) =>
    if hmoved : moved = cursor then
      match hreturned : runOn rounds r.calling ⟨cursor, kept.values⟩ before with
      | some ((.ok (), convo), after) =>
        some ⟨kept, before, convo, after, hmoved ▸ hcaptured, hreturned⟩
      | _ => none
    else none
  | _ => none

namespace Called

variable {r : d.Reply cursor input} {s : Session} {st : Stack}

/-- The session with the variables that the callback has left. -/
def session (c : r.Called rounds s st) : Session := { c.kept with values := c.convo.vars }

/-- Where the callback has moved the cursor. -/
def moved? (c : r.Called rounds s st) : Option Flow :=
  if c.convo.cursor = cursor then none else some (.jump c.convo.cursor)

end Called

end Reply

/-- What is left of a run once the answer that came in is settled. -/
def goOn (d : Dialog) (budget : ℕ) (lines : List Line) (cursor : Location)
    (settled : Option Flow) : SessionM TurnStatus := do
  d.afterPass budget (← d.afterSettling lines cursor settled)

/-- Such an answer comes in below the first line of a thread, so no hooks run before it. -/
theorem Reply.index_ne_zero (r : d.Reply cursor input) : cursor.index ≠ 0 := by
  intro h
  have hcollect := r.collect_eq
  rw [h] at hcollect
  cases hcollect

/-- A run whose answer is settled goes on from there. -/
theorem runOn_run_of_settled (r : d.Reply cursor input) {s placed s' : Session} {st st' : Stack}
    {settled : Option Flow}
    (hplaced : { s with thread := cursor.thread, stepIndex := cursor.index } = placed)
    (h : runOn rounds (d.settle ⟨cursor, input⟩ r.answer r.collect) placed st =
      some ((.ok settled, s'), st')) :
    runOn rounds (d.run (budget + 1) cursor input) s st =
      runOn rounds (d.goOn budget r.lines cursor settled) s' st' := by
  subst hplaced
  have hpass : runOn rounds (d.pass r.lines ⟨cursor, input⟩)
      { s with thread := cursor.thread, stepIndex := cursor.index } st =
        runOn rounds (d.afterSettling r.lines cursor settled) s' st' := by
    rw [pass_eq]
    simp only [Pass.answer, r.response_eq, r.collect_eq]
    exact runOn_bind_of_ok h _
  rw [run_succ, runOn_bind_of_ok rfl]
  simp only [r.thread_eq, if_neg r.index_ne_zero]
  rw [runOn_bind_of_ok (runOn_pure _ _ st), afterEntering, if_neg (not_not.2 rfl)]
  exact runOn_bind_congr hpass _

namespace Reply

namespace Called

variable {r : d.Reply cursor input} {s : Session} {st : Stack}

theorem runOn_settle_eq (c : r.Called rounds s st) :
    runOn rounds (d.settle ⟨cursor, input⟩ r.answer r.collect) s st =
      runOn rounds (d.handle ⟨cursor, input⟩ r.handler) c.kept c.before := by
  have hcaptured := c.captured
  unfold Reply.capturing at hcaptured
  unfold Dialog.settle
  cases hkey : r.collect.key with
  | none =>
    simp only [hkey] at hcaptured ⊢
    obtain ⟨hkept, hbefore⟩ : s = c.kept ∧ st = c.before := by
      simpa [runOn_pure] using hcaptured
    simp only [r.select_eq, hkept, hbefore]
  | some key =>
    simp only [hkey] at hcaptured ⊢
    -- capturing does not fail, so it is the hooks on the answer that leave the cursor
    rw [runOn_bind_of_ok rfl] at hcaptured ⊢
    rw [runOn_bind_of_ok hcaptured, if_neg (not_not.2 rfl)]
    simp only [r.select_eq]

theorem runOn_handle (c : r.Called rounds s st) {g : Frame} (hg : c.after.top? = some g) :
    runOn rounds (d.handle ⟨cursor, input⟩ r.handler) c.kept c.before =
      if c.before.active? = some g.dialog then some ((.ok c.moved?, c.session), c.after)
      else some ((.ok (some (.stop .waiting)), c.session),
        c.after.note (.handedOver d.id g.dialog)) := by
  have hconverse : runOn rounds (converse cursor [r.calling]) c.kept c.before =
      some ((.ok c.convo.cursor, c.session), c.after) := by
    have hall : runOn rounds ([r.calling].forM fun callback => callback)
        ⟨cursor, c.kept.values⟩ c.before = some ((.ok ⟨⟩, c.convo), c.after) :=
      runOn_bind_of_ok c.returned _
    unfold Dialog.converse
    refine (runOn_bind_of_ok rfl _).trans ?_
    exact runOn_bind_of_ok (runOn_liftM hall _) _
  have hactive : c.after.active? = some g.dialog := by
    rw [Stack.active?, hg, Option.map_some]
  have hcall : r.callback ((⟨cursor, input⟩ : Pass).answer.bind Json.string?)
      (input.bind TurnInput.activity?) = r.calling := by
    rw [Reply.calling, Pass.answer, r.response_eq, Option.bind_some]
  unfold Dialog.handle
  simp only [r.callback_eq]
  rw [runOn_bind_of_ok (runOn_active _ _), hcall, runOn_bind_of_ok hconverse,
    runOn_bind_of_ok (runOn_active _ _), hactive]
  dsimp only
  by_cases hsame : c.before.active? = some g.dialog
  · rw [if_neg (not_not.2 hsame.symm), if_pos hsame, moved?]
    by_cases hcursor : c.convo.cursor = cursor
    · rw [if_neg (not_not.2 hcursor), if_pos hcursor, runOn_pure]
    · rw [if_pos hcursor, if_neg hcursor, runOn_pure]
  · rw [if_pos (Ne.symm hsame), if_neg hsame, runOn_bind_of_ok (runOn_note _ _ _), runOn_pure]

end Called

end Reply

/-- **What a run does when the callback of a handler has returned.**  If the dialog on top is
another one than before the call, the run waits, and the stack is left as the callback has left it;
if it is the same one, the run goes on.  A session without a next line is not resumed, so no
callback is called. -/
theorem runOn_resume_of_called (hbudget : d.options.maxSteps = budget + 1) {s : Session}
    (hs : s.HasNext) {st : Stack} {r : d.Reply s.resumed.location input}
    (c : r.Called rounds s.resumed st) {g : Frame} (hg : c.after.top? = some g) :
    runOn rounds (d.resume input) s st =
      if c.before.active? = some g.dialog then
        runOn rounds (d.goOn budget r.lines s.resumed.location c.moved?) c.session c.after
      else some ((.ok .waiting, c.session), c.after.note (.handedOver d.id g.dialog)) := by
  have hsettle := c.runOn_settle_eq.trans (c.runOn_handle hg)
  have hrun : runOn rounds (d.resume input) s st =
      runOn rounds (d.run (budget + 1) s.resumed.location input)
        { s with resumeIndex := none } st := by
    rw [← hbudget, runOn, run_resume, if_pos hs]
    rfl
  rw [hrun]
  by_cases hsame : c.before.active? = some g.dialog
  · rw [if_pos hsame] at hsettle ⊢
    exact runOn_run_of_settled (s := { s with resumeIndex := none }) r rfl hsettle
  · rw [if_neg hsame] at hsettle ⊢
    exact runOn_run_of_settled (s := { s with resumeIndex := none }) r rfl hsettle

/-! ### A dialog that begins another one when it is answered -/

/-- A dialog that asks something.  On an answer it begins a dialog, and then it says that it is
done. -/
def asker (next : String) : Dialog :=
  ((Dialog.empty "asker" {}).ask (.ofText "Well?")
    (.callback fun _ _ => do let _ ← (Attempt.begin next {} : ConvoM _)) none).say (.ofText "Done.")

end Dialog

namespace Stack

/-- An empty stack with the dialog. -/
def askers (next : String) : Stack :=
  empty [("asker", .asker next), ("other", .asker "asker")] fun _ => 0

/-- The stack on which the dialog has asked. -/
def asked (next : String) : Stack := (askers next).behind 2 (.start "asker" {})

/-- The answer. -/
def yes : TurnInput := .message (.message "web" "c" "u" "yes")

/-- The dialog waits if it has begun another one. -/
theorem asker_waits :
    ∃ f ∈ (asked "other").top?, f.session.HasNext ∧
      ∃ r ∈ Dialog.Reply.find? (.asker "other") f.session.resumed.location (some yes),
      ∃ c ∈ r.call? 2 f.session.resumed ((asked "other").enter f.id),
      ∃ g ∈ c.after.top?, c.before.active? ≠ some g.dialog ∧
        runOn 2 ((Dialog.asker "other").resume (some yes)) f.session
            ((asked "other").enter f.id) =
          some ((.ok .waiting, c.session), c.after.note (.handedOver "asker" "other")) := by
  have hcalled : ∃ f ∈ (asked "other").top?, f.session.HasNext ∧
      ∃ r ∈ Dialog.Reply.find? (.asker "other") f.session.resumed.location (some yes),
      ∃ c ∈ r.call? 2 f.session.resumed ((asked "other").enter f.id),
      ∃ g ∈ c.after.top?, c.before.active? ≠ some g.dialog ∧ g.dialog = "other" := by
    decide +kernel
  obtain ⟨f, hf, hs, r, hr, c, hc, g, hg, hne, hother⟩ := hcalled
  refine ⟨f, hf, hs, r, hr, c, hc, g, hg, hne, ?_⟩
  rw [Dialog.runOn_resume_of_called rfl hs c hg, if_neg hne, hother]
  rfl

/-- **A run does not notice that another session of its own dialog has the turn.**  The dialog has
begun itself.  It sends its next message, takes the new session off the stack, and does not wait. -/
theorem asker_overlooks_twin :
    Returns (.start "asker" {}) (askers "asker") (.ok (some .waiting)) (asked "asker") ∧
      ∃ f ∈ (asked "asker").top?,
        ∃ r ∈ Dialog.Reply.find? (.asker "asker") f.session.resumed.location (some yes),
        ∃ c ∈ r.call? 2 f.session.resumed ((asked "asker").enter f.id),
        ∃ g ∈ c.after.top?, g.id ≠ f.id ∧
          ∃ x ∈ runOn 2 ((Dialog.asker "asker").resume (some yes)) f.session
              ((asked "asker").enter f.id),
            x.1.1.toOption = some .complete ∧ x.2.outbox.size = c.after.outbox.size + 1 ∧
              x.2.top?.map Frame.id = some f.id := by
  have hreturns : Returns (.start "asker" {}) (askers "asker") (.ok (some .waiting))
      (asked "asker") ∧ (asked "asker").outline = [("asker", [])] :=
    returns_behind (by decide +kernel)
  exact ⟨hreturns.1, by decide +kernel⟩

end Stack

end Parley
