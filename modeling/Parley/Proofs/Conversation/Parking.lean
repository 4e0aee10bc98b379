import Parley.Proofs.Conversation.Desk
import Parley.Proofs.Conversation.Tidy

/-!
# Where scripts stop

A script runs from line to line until it stops by itself or has asked for another session.  Where
its session stands then is said by `Dialog.Parks`: on a question or where it waits, if nothing has
been asked for; on a line that begins a child, if a child is to be begun.  Of the variables, only
the answer that the turn brought is kept, under the key of the line before the place where the run
began.

This is proved along the definition of a run, for any budget
(`Dialog.CallbackFree.achieves_run`), and then for the ways in which a run is started.
-/

namespace Parley

/-! ### Places -/

namespace Dialog

/-- A place at which a dialog is begun: by the line that stands there, or by a handler of the line
before. -/
inductive BeginsAt (lines : List Line) (index : ℕ) (execute : Execute) : Prop where
  | child (collect : Collect) (h : lines[index]? = some (.childDialog execute collect))
  | message (m : Message) (h : lines[index]? = some (.message m (some (.beginDialog execute))))
  | action (h : lines[index]? = some (.action (.beginDialog execute)))
  | handler (collect : Collect) (handler : Handler) (h : lines[index]? = some .next)
      (hbefore : collectBefore lines index = some collect) (hmem : handler ∈ collect.options)
      (haction : handler.action = some (.beginDialog execute))

end Dialog

/-- The variables once an answer is kept. -/
def Collect.keep (c : Collect) (answer : Json) (vars : Vars) : Vars :=
  match c.key with
  | none => vars
  | some key => Keyed.insert vars key (Dialog.captured vars key answer c.multiple)

namespace Dialog

variable (d : Dialog)

/-- A session stands on a question, or waits where it stands. -/
structure AwaitsAnswer (s : Session) : Prop where
  status : s.status = .running
  place : ∃ lines line, d.script.thread? s.thread = some lines ∧ lines[s.stepIndex]? = some line ∧
    ((∃ m collect, line = .question m collect) ∧ s.resumeIndex = none ∨
      s.resumeIndex = some s.stepIndex)

/-- A session stands where it has begun a dialog. -/
structure AwaitsChild (s : Session) (execute : Execute) : Prop where
  status : s.status = .running
  resumeIndex : s.resumeIndex = none
  place : ∃ lines, d.script.thread? s.thread = some lines ∧ BeginsAt lines s.stepIndex execute

/-- A session stands where it has begun a dialog, whatever has come of it. -/
structure HasBegun (s : Session) (execute : Execute) : Prop where
  resumeIndex : s.resumeIndex = none
  place : ∃ lines, d.script.thread? s.thread = some lines ∧ BeginsAt lines s.stepIndex execute

theorem AwaitsChild.hasBegun {d : Dialog} {s : Session} {execute : Execute}
    (h : d.AwaitsChild s execute) : d.HasBegun s execute := ⟨h.resumeIndex, h.place⟩

/-- What is to be done with an answer that comes in at a place. -/
def collectorAt (cursor : Location) : Option Collect :=
  (d.script.thread? cursor.thread).bind fun lines => collectBefore lines cursor.index

/-- The variables once the answer of an input has been dealt with at a place. -/
def keptAt (cursor : Location) (input : Option TurnInput) (vars : Vars) : Vars :=
  match input.bind TurnInput.response, d.collectorAt cursor with
  | some answer, some collect => collect.keep answer vars
  | _, _ => vars

end Dialog

/-- A script has stopped.  Its session stands where it is to go on, unless it has ended. -/
def Dialog.Parks (d : Dialog) (w : Desk) : Prop :=
  match w.asked with
  | none => d.AwaitsAnswer w.session
  | some (.begin dialog options) => ∃ execute, dialog = execute.script ∧
      options = launchOptions execute w.session ∧ d.AwaitsChild w.session execute
  | some (.replace _ _) => True
  | some (.finish result) => result = some ⟨w.session.status, w.session.values⟩

/-- A session is where it has to be for a task. -/
def Dialog.Ready (d : Dialog) (task : Task) (s : Session) : Prop :=
  match task with
  | .begin => s.resumeIndex = none
  | .resume _ => ∃ execute, d.AwaitsChild s execute
  | .continueWith _ => d.AwaitsAnswer s

/-! ### What is quiet in a run -/

namespace Dialog

theorem quiet_compose (message : Message) : Quiet (compose message) := by
  intro w st o w' st' h
  have hget : Flat.work (get : SessionM Session) w st = some (.ok w.session, w, st) := rfl
  unfold Dialog.compose at h
  rw [Flat.work_bind, hget, Option.bind_some] at h
  dsimp only at h
  generalize (message.compose w.session.values).run.run w.session.rngState = composed at h
  obtain ⟨outcome, rng⟩ := composed
  have hset : Flat.work (set { w.session with rngState := rng } : SessionM PUnit) w st =
      some (.ok ⟨⟩, w.reseeded rng, st) := rfl
  rw [Flat.work_bind, hset, Option.bind_some] at h
  cases outcome <;> cases h <;> exact ⟨⟨rng, rfl⟩, rfl⟩

theorem quiet_emit (message : Message) : Quiet (emit message) := by
  refine (quiet_compose message).bind fun m => ?_
  induction m.parts with
  | nil => exact .pure _
  | cons part parts ih => exact (Quiet.send part).bind fun _ => ih

namespace CallbackFree

variable {d : Dialog} (h : d.CallbackFree)

include h

theorem enter_eq (cursor : Location) :
    d.enter cursor = do
      note (.enteringThread d.id cursor.thread)
      return cursor := by
  have hnone : d.hooks.beforeThread cursor.thread = [] := by simp [Hooks.beforeThread, h.before]
  unfold Dialog.enter
  rw [hnone]

theorem announceChange_eq (cursor : Location) (key : String) (answer : Json) :
    d.announceChange cursor key answer = pure cursor := by
  have hnone : d.hooks.onChange key = [] := by simp [Hooks.onChange, h.change]
  unfold Dialog.announceChange
  rw [hnone]

end CallbackFree

/-! ### Where flows lead -/

section

variable (d : Dialog)

/-- Where a flow leaves a script: it has stopped, or its next pass is to begin. -/
def Flows (vars : Vars) (flow : Flow) (w : Desk) : Prop :=
  match flow with
  | .stop _ => d.Parks w ∧ w.session.values = vars
  | .jump _ | .advance => w.Busy vars

/-- With no flow a pass goes on where it stands. -/
def Goes (cursor : Location) (vars : Vars) (flow : Option Flow) (w : Desk) : Prop :=
  match flow with
  | some flow => d.Flows vars flow w
  | none => w.BusyAt cursor vars

end

namespace CallbackFree

variable {d : Dialog} (h : d.CallbackFree)

include h

theorem achieves_close (vars : Vars) :
    Achieves (fun w => w.session.values = vars) d.close (d.Flows vars) := by
  unfold Dialog.close
  refine .bind (Q := fun _ w => w.session.values = vars) (.modify fun w hw => ?_) fun _ =>
    .bind (Q := fun active w => active.isSome ∧ w.session.values = vars)
      (.active fun w id hw => ⟨rfl, hw⟩) fun active => .assuming fun hactive => ?_
  · dsimp only
    split <;> exact hw
  · obtain ⟨active, rfl⟩ := Option.isSome_iff_exists.1 hactive
    -- what is given to the host is read off the session before the event is noted
    let Read (s : Session) (w : Desk) : Prop :=
      w.session.values = vars ∧ s.status = w.session.status ∧ s.values = w.session.values
    refine .bind (Q := Read) (.get fun w hw => ⟨hw, rfl, rfl⟩) fun s =>
      .bind ((Quiet.note _).keeps fun _ _ hw => hw) fun _ =>
        .bind (Q := fun _ => d.Flows vars (.stop .complete)) (.finish _ fun w _ hw => ?_)
          fun _ => ?_
    · obtain ⟨hvars, hstatus, hvalues⟩ := hw
      exact ⟨by rw [Dialog.Parks, hstatus, hvalues], hvars⟩
    · unfold Dialog.announceEnd
      rw [h.after]
      exact .pure fun _ hw => hw

theorem achieves_closeAs (status : DialogStatus) (vars : Vars) :
    Achieves (fun w => w.session.values = vars) (d.closeAs status) (d.Flows vars) :=
  .bind (.modify fun _ hw => hw) fun _ => h.achieves_close vars

section

variable {cursor : Location} {vars : Vars} {lines : List Line}
  (hlines : d.script.thread? cursor.thread = some lines)

include hlines

/-- An action that is taken on a line which is there; one that begins a dialog is taken where one
may be begun. -/
theorem achieves_dispatch {line : Line} (hline : lines[cursor.index]? = some line)
    {action : Action}
    (hbegin : ∀ execute, action = .beginDialog execute → BeginsAt lines cursor.index execute) :
    Achieves (Desk.BusyAt cursor vars) (d.dispatch cursor action) (d.Goes cursor vars) := by
  have hclose (status : DialogStatus) :
      Achieves (Desk.BusyAt cursor vars) (do let f ← d.closeAs status; pure (some f))
        (d.Goes cursor vars) :=
    .bind ((h.achieves_closeAs status vars).strengthen fun w hw => hw.values)
      fun _ => .pure fun _ hw => hw
  unfold Dialog.dispatch
  refine (Quiet.note _).then_achieves fun _ => ?_
  cases action with
  | next => exact .pure fun _ hw => hw
  | complete => exact hclose _
  | stop => exact hclose _
  | timeout => exact hclose _
  | executeScript execute =>
    refine .bind (Q := fun _ w => w.session.values = vars) (.get fun w hw => hw.values) fun s =>
      .bind (Q := fun _ => d.Flows vars (.stop .waiting)) (.replace _ _ fun w _ hw => ?_)
        fun _ => .pure fun _ hw => hw
    exact ⟨trivial, hw⟩
  | beginDialog execute =>
    refine .bind (Q := fun s w => w.BusyAt cursor vars ∧ s = w.session)
      (.get fun w hw => ⟨hw, rfl⟩) fun s =>
        .bind (Q := fun _ => d.Flows vars (.stop .waiting)) (.begin _ _ fun w _ hw => ?_)
          fun _ => .pure fun _ hw => hw
    obtain ⟨hw, rfl⟩ := hw
    have hplace := hw.location
    subst hplace
    exact ⟨⟨execute, rfl, rfl, hw.status, hw.resumeIndex, lines, hlines, hbegin execute rfl⟩,
      hw.values⟩
  | repeatLine => exact .pure fun _ hw => hw.toBusy
  | wait =>
    refine .bind (Q := fun _ => d.Flows vars (.stop .waiting)) (.modify fun w hw => ?_)
      fun _ => .pure fun _ hw => hw
    have hplace := hw.location
    subst hplace
    refine ⟨?_, hw.values⟩
    have hnone : w.asked = none := hw.asked
    rw [Dialog.Parks, hnone]
    exact ⟨hw.status, lines, line, hlines, hline, .inr rfl⟩
  | thread name =>
    dsimp only
    split
    · exact .pure fun _ hw => hw.toBusy
    · exact (Quiet.note _).then_achieves fun _ => .pure fun _ hw => hw

theorem achieves_follow {line : Line} (hline : lines[cursor.index]? = some line)
    {action : Option Action}
    (hbegin : ∀ execute, action = some (.beginDialog execute) →
      BeginsAt lines cursor.index execute) :
    Achieves (Desk.BusyAt cursor vars) (d.follow cursor action) (d.Flows vars) := by
  cases action with
  | none => exact .pure fun _ hw => hw.toBusy
  | some action =>
    refine .bind (h.achieves_dispatch hlines hline fun execute ha => hbegin execute (by rw [ha]))
      fun flow => .pure fun w hw => ?_
    cases flow with
    | none => exact hw.toBusy
    | some flow => exact hw

omit h in
theorem achieves_prompt {message : Message} {collect : Collect}
    (hline : lines[cursor.index]? = some (.question message collect)) :
    Achieves (Desk.BusyAt cursor vars) (d.prompt message) (d.Flows vars) := by
  have hasked : Quiet (do
      (Attempt.send (← compose message) : SessionM _)
      return Flow.stop .waiting) :=
    (quiet_compose message).bind fun m => (Quiet.send m).bind fun _ => .pure _
  refine hasked.tryCatch_achieves Desk.BusyAt.reseeded ?_ fun e => ?_
  · refine (quiet_compose message).then_achieves fun m => (Quiet.send m).then_achieves fun _ =>
      .pure fun w hw => ⟨?_, hw.values⟩
    have hplace := hw.location
    subst hplace
    rw [Dialog.Parks, hw.asked]
    exact ⟨hw.status, lines, _, hlines, hline, .inl ⟨⟨message, collect, rfl⟩, hw.resumeIndex⟩⟩
  · -- a question that cannot be asked is passed over
    refine Quiet.get.then_achieves fun s => (Quiet.note _).then_achieves fun _ => ?_
    cases d.options.promptFailure with
    | none => exact .pure fun _ hw => hw.toBusy
    | some text =>
      have hnotice : Quiet (tryCatch (Attempt.send (.ofText text) : SessionM _) fun e =>
          note (.noticeFailed d.id e)) := (Quiet.send _).tryCatch fun e => .note _
      exact hnotice.then_achieves fun _ => .pure fun _ hw => hw.toBusy

theorem achieves_perform {line : Line} (hline : lines[cursor.index]? = some line) :
    Achieves (Desk.BusyAt cursor vars) (d.perform cursor line) (d.Flows vars) := by
  cases line with
  | question message collect => exact achieves_prompt hlines hline
  | message message action =>
    have hfollow : Achieves (Desk.BusyAt cursor vars) (d.follow cursor action) (d.Flows vars) :=
      h.achieves_follow hlines hline fun execute ha => .message message (ha ▸ hline)
    unfold Dialog.perform
    dsimp only
    split
    · exact (quiet_emit message).then_achieves fun _ => hfollow
    · split
      · exact (Quiet.note _).then_achieves fun _ => hfollow
      · exact hfollow
  | action action =>
    have hfollow : Achieves (Desk.BusyAt cursor vars) (d.follow cursor (some action))
        (d.Flows vars) :=
      h.achieves_follow hlines hline fun execute ha => .action (Option.some.inj ha ▸ hline)
    exact hfollow
  | childDialog execute collect =>
    have hfollow : Achieves (Desk.BusyAt cursor vars)
        (d.follow cursor (some (.beginDialog execute))) (d.Flows vars) :=
      h.achieves_follow hlines hline fun execute' ha => .child collect (by cases ha; exact hline)
    exact hfollow
  | next => exact .pure fun _ hw => hw.toBusy

end

section

variable {p : Pass} {vars : Vars} {lines : List Line}
  (hlines : d.script.thread? p.cursor.thread = some lines)

include hlines

theorem achieves_handle {collect : Collect} {handler : Handler}
    (hline : lines[p.cursor.index]? = some .next)
    (hbefore : collectBefore lines p.cursor.index = some collect)
    (hmem : handler ∈ collect.options) :
    Achieves (Desk.BusyAt p.cursor vars) (d.handle p handler) (d.Goes p.cursor vars) := by
  unfold Dialog.handle
  rw [h.callback_eq_none_of_collectBefore hlines hbefore handler hmem]
  cases ha : handler.action with
  | none => exact .pure fun _ hw => hw
  | some action =>
    refine h.achieves_dispatch hlines hline fun execute he => ?_
    exact .handler collect handler hline hbefore hmem (he ▸ ha)

theorem achieves_select {collect : Collect} (htidy : Tidy lines)
    (hbefore : collectBefore lines p.cursor.index = some collect) (answer : Json) (vars : Vars) :
    Achieves (Desk.BusyAt p.cursor vars)
      (match collect.select answer with
        | none => pure none
        | some handler => d.handle p handler) (d.Goes p.cursor vars) := by
  cases hs : collect.select answer with
  | none => exact .pure fun _ hw => hw
  | some handler =>
    exact h.achieves_handle hlines (htidy.next_of_collectBefore hbefore) hbefore
      (mem_options_of_select hs)

theorem achieves_settle {collect : Collect} (htidy : Tidy lines)
    (hbefore : collectBefore lines p.cursor.index = some collect) (answer : Json) :
    Achieves (Desk.BusyAt p.cursor vars) (d.settle p answer collect)
      (d.Goes p.cursor (collect.keep answer vars)) := by
  have hselect := h.achieves_select hlines htidy hbefore answer
  unfold Dialog.settle Collect.keep
  cases collect.key with
  | none => exact hselect vars
  | some key =>
    let kept := Keyed.insert vars key (captured vars key answer collect.multiple)
    refine .bind (Q := fun _ => Desk.BusyAt p.cursor kept) (.modify fun w hw => ?_) fun _ => ?_
    · have hvars := hw.values
      subst hvars
      exact ⟨⟨hw.status, hw.resumeIndex, rfl, hw.asked⟩, hw.location⟩
    · rw [h.announceChange_eq]
      refine .bind (Q := fun cursor w => cursor = p.cursor ∧ w.BusyAt p.cursor kept)
        (.pure fun _ hw => ⟨rfl, hw⟩) fun cursor => .assuming fun hcursor => ?_
      rw [if_neg (not_not_intro hcursor)]
      exact hselect kept

theorem achieves_afterSettling (settled : Option Flow) :
    Achieves (d.Goes p.cursor vars settled) (d.afterSettling lines p.cursor settled)
      (d.Flows vars) := by
  have hclose : Achieves (Desk.BusyAt p.cursor vars) d.close (d.Flows vars) :=
    (h.achieves_close vars).strengthen fun _ hw => hw.values
  unfold Dialog.afterSettling
  cases settled with
  | some flow => exact .pure fun _ hw => hw
  | none =>
    refine Quiet.active.then_achieves fun active => ?_
    split
    · exact hclose
    · cases hline : lines[p.cursor.index]? with
      | none => exact hclose
      | some line => exact h.achieves_perform hlines hline

theorem achieves_pass (htidy : Tidy lines) :
    Achieves (Desk.BusyAt p.cursor vars) (d.pass lines p)
      (d.Flows (d.keptAt p.cursor p.input vars)) := by
  have hrest (vars : Vars) (settled : Option Flow) :
      Achieves (d.Goes p.cursor vars settled) (d.afterSettling lines p.cursor settled)
        (d.Flows vars) :=
    h.achieves_afterSettling hlines settled
  have hcollector : d.collectorAt p.cursor = collectBefore lines p.cursor.index := by
    rw [Dialog.collectorAt, hlines, Option.bind_some]
  rw [pass_eq, Dialog.keptAt, hcollector, Pass.answer]
  cases p.input.bind TurnInput.response with
  | none => exact hrest vars none
  | some answer =>
    cases hbefore : collectBefore lines p.cursor.index with
    | none => exact hrest vars none
    | some collect =>
      exact .bind (h.achieves_settle hlines htidy hbefore answer) (hrest _)

end

/-- From the thread it entered a run parks, if the runs it may still make do. -/
theorem achieves_afterEntering {budget : ℕ} {cursor : Location} {lines : List Line}
    (hlines : d.script.thread? cursor.thread = some lines) (htidy : Tidy lines)
    (hrun : ∀ next vars, Achieves (Desk.Busy vars) (d.run budget next none)
      fun _ w => d.Parks w ∧ w.session.values = vars)
    (input : Option TurnInput) (vars : Vars) (entered : Location) (hentered : entered = cursor) :
    Achieves (Desk.BusyAt cursor vars) (d.afterEntering budget cursor lines input entered)
      fun _ w => d.Parks w ∧ w.session.values = d.keptAt cursor input vars := by
  unfold Dialog.afterEntering
  rw [if_neg (not_not_intro hentered)]
  refine .bind (h.achieves_pass (p := ⟨cursor, input⟩) hlines htidy) fun flow => ?_
  cases flow with
  | stop status => exact .pure fun _ hw => hw
  | jump target => exact hrun target _
  | advance => exact .bind (Q := fun _ => Desk.Busy _) (.get fun _ hw => hw) fun s => hrun _ _

/-- **A run of a script parks**, however many passes it has.  Only the answer it begins with is
kept. -/
theorem achieves_run (htidy : d.IsTidy) (budget : ℕ) (cursor : Location)
    (input : Option TurnInput) (vars : Vars) :
    Achieves (Desk.Busy vars) (d.run budget cursor input)
      fun _ w => d.Parks w ∧ w.session.values = d.keptAt cursor input vars := by
  induction budget generalizing cursor input vars with
  | zero => exact .bind (Q := fun _ _ => True) (.get fun _ _ => trivial) fun _ => .throw _
  | succ budget ih =>
    rw [run_succ]
    refine .bind (Q := fun _ => Desk.BusyAt cursor vars) (.modify fun w hw => ?_) fun _ => ?_
    · exact ⟨⟨hw.status, hw.resumeIndex, hw.values, hw.asked⟩, rfl⟩
    cases hlines : d.script.thread? cursor.thread with
    | none => exact .throw _
    | some lines =>
      have hrest (entered : Location) := Achieves.assuming <|
        h.achieves_afterEntering hlines (htidy _ lines hlines) (fun next => ih next none) input
          vars entered
      dsimp only
      split
      · rw [h.enter_eq]
        exact .bind ((Quiet.note _).then_achieves fun _ => .pure fun _ hw => ⟨rfl, hw⟩) hrest
      · exact .bind (.pure fun _ hw => ⟨rfl, hw⟩) hrest

/-! ### Tasks -/

theorem achieves_begin (htidy : d.IsTidy) (vars : Vars) :
    Achieves (fun w => w.session.resumeIndex = none ∧ w.asked = none ∧
        w.session.options.values = vars) d.begin
      fun _ w => d.Parks w ∧ w.session.values = vars := by
  have hrest (seed : UInt32) : Achieves (Desk.Busy vars) (do
      modify fun s => { s with rngState := seed }
      d.run d.options.maxSteps ⟨(← get).thread, 0⟩ none)
      fun _ w => d.Parks w ∧ w.session.values = vars := by
    refine .bind (Q := fun _ => Desk.Busy vars) (.modify fun w hw => ?_) fun _ =>
      .bind (Q := fun _ => Desk.Busy vars) (.get fun _ hw => hw) fun s =>
        h.achieves_run htidy _ _ none vars
    exact ⟨hw.status, hw.resumeIndex, hw.values, hw.asked⟩
  unfold Dialog.begin
  refine .bind (Q := fun _ => Desk.Busy vars) (.modify fun w hw => ?_) fun _ => ?_
  · obtain ⟨hresume, hasked, hvars⟩ := hw
    exact ⟨rfl, hresume, hvars, hasked⟩
  · cases d.options.seed with
    | some seed => exact hrest seed
    | none =>
      refine .bind (Quiet.seed.keeps fun w rng hw => ?_) hrest
      exact ⟨hw.status, hw.resumeIndex, hw.values, hw.asked⟩

theorem achieves_resume (htidy : d.IsTidy) {s : Session} (hs : s.status = .running)
    (input : Option TurnInput) :
    Achieves (fun w => w.session = s ∧ w.asked = none) (d.resume input)
      fun _ w => d.Parks w ∧
        w.session.values = d.keptAt ⟨s.thread, s.resumePoint⟩ input s.values := by
  unfold Dialog.resume
  refine .bind (Q := fun s' w => s' = s ∧ w.asked = none) (.get fun w hw => hw) fun s' =>
    .assuming fun hs' => ?_
  subst hs'
  split
  · refine .bind (Q := fun _ => Desk.Busy s'.values) (.set fun w hw => ?_) fun _ =>
      h.achieves_run htidy _ _ input _
    exact ⟨hs, rfl, rfl, hw⟩
  · exact .abort

/-- Only messages move a session that awaits an answer. -/
theorem achieves_continueWith (htidy : d.IsTidy) {s : Session} (hs : d.AwaitsAnswer s)
    (activity : Activity) :
    Achieves (fun w => w.session = s ∧ w.asked = none) (d.continueWith activity)
      fun _ w => d.Parks w := by
  unfold Dialog.continueWith
  split
  · exact (h.achieves_resume htidy hs.status _).weaken fun _ _ hw => hw.1
  · refine .pure fun w hw => ?_
    obtain ⟨rfl, hasked⟩ := hw
    rw [Dialog.Parks, hasked]
    exact hs

/-- A task that finds its session where it is to be parks, and a session that is resumed keeps the
answer. -/
theorem achieves_task (htidy : d.IsTidy) {task : Task} {s : Session} (hready : d.Ready task s) :
    Achieves (fun w => w.session = s ∧ w.asked = none) (task.on d)
      fun _ w => d.Parks w ∧ ∀ input, task = .resume input →
        w.session.values = d.keptAt ⟨s.thread, s.resumePoint⟩ input s.values := by
  cases task with
  | begin =>
    refine ((h.achieves_begin htidy s.options.values).strengthen fun w hw => ?_).weaken
      fun _ _ hw => ⟨hw.1, fun _ hi => by cases hi⟩
    obtain ⟨rfl, hasked⟩ := hw
    exact ⟨hready, hasked, rfl⟩
  | resume input =>
    obtain ⟨execute, hawaits⟩ := hready
    refine (h.achieves_resume htidy hawaits.status input).weaken fun _ _ hw => ⟨hw.1, ?_⟩
    rintro input ⟨⟩
    exact hw.2
  | continueWith activity =>
    exact (h.achieves_continueWith htidy hready activity).weaken
      fun _ _ hw => ⟨hw, fun _ hi => by cases hi⟩

end CallbackFree

end Dialog

end Parley
