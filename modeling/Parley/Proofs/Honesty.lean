import Parley.Proofs.Conversation.Tidy
import Parley.Proofs.Hosted
import Parley.Proofs.Recital

/-!
# What is reported missing

A run that comes to a thread that is not there fails, and an action that names no thread is noted.
Both tell the dialog and the name.  Such a report is *true* if no dialog that is registered under
the id has the thread (`DialogError.IsTrue`, `Event.IsTrue`).

A run passes on what it is answered, so it can be relied on only as far as its host can:
`HostM.Speaks` says that a computation reports what is true as long as it is answered what is true.
This is kept by sequencing, so it is proved along the definition of a run.  Callbacks are let to
say what they like; a dialog whose callbacks report what is true is *candid*, and so are its runs
(`Dialog.Candid.honest_task`).  A dialog that is loaded has no callbacks and nothing that is
computed (`Dialog.Loaded.candid`).
-/

namespace Parley

/-! ### Reports -/

/-- No dialog that is registered under the id has the thread. -/
def DialogSet.Lacks (dialogs : DialogSet) (id thread : String) : Prop :=
  ∀ d, dialogs.find id = .ok d → d.hasThread thread = false

/-- A thread that is said not to be found is not there. -/
def DialogError.IsTrue (dialogs : DialogSet) (e : DialogError) : Prop :=
  ∀ id cursor, e = .threadNotFound id cursor → dialogs.Lacks id cursor.thread

/-- An action that is said not to be recognized is no thread. -/
def Event.IsTrue (dialogs : DialogSet) (event : Event) : Prop :=
  ∀ id action, event = .actionUnrecognized id action → dialogs.Lacks id action

variable {dialogs : DialogSet} {α β σ : Type}

/-- Whatever has come of a computation, a failure is true. -/
def FailsTruly (dialogs : DialogSet) (o : Except DialogError α) : Prop :=
  ∀ e, o = .error e → e.IsTrue dialogs

theorem failsTruly_ok (a : α) : FailsTruly dialogs (.ok a) := fun _ h => nomatch h

theorem failsTruly_error {e : DialogError} (h : e.IsTrue dialogs) :
    FailsTruly dialogs (.error e : Except DialogError α) := fun _ h' => Except.error.inj h' ▸ h

/-- A request notes nothing but what is true. -/
def Request.IsTrue (dialogs : DialogSet) (r : Request) : Prop :=
  ∀ event, r = .note event → event.IsTrue dialogs

/-- An answer that is a failure is a true one. -/
def Request.AnswersTruly (dialogs : DialogSet) : (r : Request) → r.Answer → Prop
  | .send _, answer => FailsTruly dialogs answer
  | .begin _ _, answer => FailsTruly dialogs answer
  | .replace _ _, answer => FailsTruly dialogs answer
  | .finish _, answer => FailsTruly dialogs answer
  | .cancelAll, answer => FailsTruly dialogs answer
  | .active, _ | .note _, _ | .seed, _ => True

/-- As long as it is answered what is true, a computation notes what is true, and its value has a
property. -/
def HostM.Speaks (dialogs : DialogSet) (P : α → Prop) : HostM α → Prop
  | .done value => P value
  | .ask r next =>
    r.IsTrue dialogs ∧ ∀ answer, r.AnswersTruly dialogs answer → Speaks dialogs P (next answer)
  | .abort => True

theorem HostM.Speaks.bind {P : α → Prop} {Q : β → Prop} {x : HostM α} {f : α → HostM β}
    (hx : x.Speaks dialogs P) (hf : ∀ a, P a → (f a).Speaks dialogs Q) :
    (x >>= f).Speaks dialogs Q := by
  induction x with
  | done value => exact hf value hx
  | ask r next ih => exact ⟨hx.1, fun answer hanswer => ih answer (hx.2 answer hanswer)⟩
  | abort => trivial

/-- A computation that may fail reports what is true. -/
def Honest (dialogs : DialogSet) (x : StatefulAttempt σ α) : Prop :=
  ∀ s, (x.run.run s).Speaks dialogs fun y => FailsTruly dialogs y.1

/-- So does one without a state. -/
def Attempt.IsHonest (dialogs : DialogSet) (x : Attempt α) : Prop :=
  x.run.Speaks dialogs (FailsTruly dialogs)

/-! ### Sequencing -/

namespace Honest

variable {x : StatefulAttempt σ α} {f : α → StatefulAttempt σ β}

theorem pure (a : α) : Honest dialogs (pure a : StatefulAttempt σ α) := fun _ => failsTruly_ok a

theorem throw {e : DialogError} (h : e.IsTrue dialogs) :
    Honest dialogs (throw e : StatefulAttempt σ α) := fun _ => failsTruly_error h

theorem get : Honest dialogs (get : StatefulAttempt σ σ) := fun s => failsTruly_ok s

theorem set (s : σ) : Honest dialogs (set s : StatefulAttempt σ PUnit) := fun _ => failsTruly_ok _

theorem modify (f : σ → σ) : Honest dialogs (modify f : StatefulAttempt σ PUnit) :=
  fun _ => failsTruly_ok _

theorem abort : Honest dialogs (Attempt.abort : StatefulAttempt σ α) := fun _ => trivial

theorem bind (hx : Honest dialogs x) (hf : ∀ a, Honest dialogs (f a)) :
    Honest dialogs (x >>= f) := by
  intro s
  refine HostM.Speaks.bind (hx s) ?_
  rintro ⟨o, s'⟩ ho
  cases o with
  | ok a => exact hf a s'
  | error e => exact failsTruly_error (ho e rfl)

theorem tryCatch {handler : DialogError → StatefulAttempt σ α} (hx : Honest dialogs x)
    (hhandler : ∀ e, Honest dialogs (handler e)) : Honest dialogs (tryCatch x handler) := by
  intro s
  refine HostM.Speaks.bind (hx s) ?_
  rintro ⟨o, s'⟩ -
  cases o with
  | ok a => exact failsTruly_ok a
  | error e => exact hhandler e s'

theorem forM {items : List α} {f : α → StatefulAttempt σ PUnit}
    (h : ∀ a ∈ items, Honest dialogs (f a)) : Honest dialogs (items.forM f) := by
  induction items with
  | nil => exact pure _
  | cons a rest ih =>
    exact (h a List.mem_cons_self).bind fun _ => ih fun b hb => h b (List.mem_cons_of_mem a hb)

theorem liftM {x : Attempt α} (hx : x.IsHonest dialogs) :
    Honest dialogs (liftM x : StatefulAttempt σ α) :=
  fun _ => HostM.Speaks.bind hx fun _ ho => ho

theorem liftHost_bind {x : HostM α} {P : α → Prop} (hx : x.Speaks dialogs P)
    {f : α → StatefulAttempt σ β} (hf : ∀ a, P a → Honest dialogs (f a)) :
    Honest dialogs ((MonadLiftT.monadLift x : StatefulAttempt σ α) >>= f) := by
  intro s
  have hvalue : ((ExceptT.lift x : Attempt α).run).Speaks dialogs fun o => ∃ a, o = .ok a ∧ P a :=
    HostM.Speaks.bind hx fun a ha => ⟨a, rfl, ha⟩
  have hlift : ((MonadLiftT.monadLift x : StatefulAttempt σ α).run.run s).Speaks dialogs
      fun y => ∃ a, y.1 = .ok a ∧ P a := by
    refine HostM.Speaks.bind hvalue ?_
    rintro _ ⟨a, rfl, ha⟩
    exact ⟨a, rfl, ha⟩
  refine HostM.Speaks.bind hlift ?_
  rintro ⟨_, s'⟩ ⟨a, rfl, ha⟩
  exact hf a ha s'

theorem note {event : Event} (h : event.IsTrue dialogs) : Honest dialogs (Dialog.note event) :=
  fun _ => ⟨fun _ heq => Request.note.inj heq ▸ h, fun _ _ => failsTruly_ok _⟩

end Honest

/-- What an attempt is answered is what comes of it. -/
theorem Attempt.isHonest_request {α : Type} {r : Request} (hr : ∀ event, r ≠ .note event)
    {f : r.Answer → Except DialogError α}
    (hf : ∀ answer, r.AnswersTruly dialogs answer → FailsTruly dialogs (f answer)) :
    IsHonest dialogs (ExceptT.mk (HostM.ask r fun answer => .done (f answer))) :=
  ⟨fun event heq => absurd heq (hr event), fun answer hanswer => hf answer hanswer⟩

namespace Honest

theorem send (message : OutgoingMessage) :
    Honest dialogs (Attempt.send message : StatefulAttempt σ Unit) :=
  .liftM (Attempt.isHonest_request (r := .send message) nofun fun _ h => h)

theorem active : Honest dialogs (Attempt.active : StatefulAttempt σ (Option String)) :=
  .liftM (Attempt.isHonest_request (r := .active) nofun fun answer _ => failsTruly_ok answer)

theorem seed : Honest dialogs (Attempt.seed : StatefulAttempt σ UInt32) :=
  .liftM (Attempt.isHonest_request (r := .seed) nofun fun answer _ => failsTruly_ok answer)

theorem begin (dialog : String) (options : LaunchOptions) :
    Honest dialogs (Attempt.begin dialog options : StatefulAttempt σ TurnStatus) :=
  .liftM (Attempt.isHonest_request (r := .begin dialog options) nofun fun _ h => h)

theorem replace (dialog : String) (options : LaunchOptions) :
    Honest dialogs (Attempt.replace dialog options : StatefulAttempt σ TurnStatus) :=
  .liftM (Attempt.isHonest_request (r := .replace dialog options) nofun fun _ h => h)

theorem finish (result : Option DialogResult) :
    Honest dialogs (Attempt.finish result : StatefulAttempt σ TurnStatus) :=
  .liftM (Attempt.isHonest_request (r := .finish result) nofun fun _ h => h)

end Honest

/-! ### Candid dialogs -/

/-- Making a message fails truly, if it does. -/
def Message.IsCandid (dialogs : DialogSet) (m : Message) : Prop :=
  ∀ vars rng, FailsTruly dialogs ((m.compose vars).run.run rng).1

namespace Line

/-- The message of a line. -/
def message? : Line → Option Message
  | question m _ | message m _ => some m
  | childDialog .. | action _ | next => none

/-- The message of a line and its callbacks report what is true. -/
structure Candid (dialogs : DialogSet) (line : Line) : Prop where
  message : ∀ m, line.message? = some m → m.IsCandid dialogs
  callback : ∀ collect, line.collect? = some collect → ∀ h ∈ collect.options,
    ∀ callback, h.callback = some callback →
      ∀ text activity, Honest dialogs (callback text activity)

end Line

namespace Dialog

/-- What is written into a dialog beside its script reports what is true: its hooks, and what its
lines compute and call. -/
structure Candid (dialogs : DialogSet) (d : Dialog) : Prop where
  before : ∀ hook ∈ d.hooks.before, Honest dialogs hook.2
  after : ∀ hook ∈ d.hooks.after, ∀ result, (hook result).IsHonest dialogs
  change : ∀ hook ∈ d.hooks.change, ∀ answer, Honest dialogs (hook.2 answer)
  lines : ∀ thread lines, d.script.thread? thread = some lines →
    ∀ line ∈ lines, line.Candid dialogs

/-! ### Runs -/

theorem honest_note {event : Event} (h : ∀ id action, event ≠ .actionUnrecognized id action) :
    Honest dialogs (Dialog.note event) := .note fun id action heq => absurd heq (h id action)

theorem honest_compose {m : Message} (h : m.IsCandid dialogs) : Honest dialogs (compose m) := by
  refine .bind .get fun s => .bind (.set _) fun _ => ?_
  split
  · exact .pure _
  · next e hmade => exact .throw (h s.values s.rngState e hmade)

theorem honest_prompt (d : Dialog) {m : Message} (h : m.IsCandid dialogs) :
    Honest dialogs (d.prompt m) := by
  refine .tryCatch ?_ fun e => ?_
  · exact .bind (honest_compose h) fun made => .bind (.send made) fun _ => .pure _
  · refine .bind .get fun s => .bind (honest_note nofun) fun _ => ?_
    cases d.options.promptFailure with
    | none => exact .pure _
    | some text =>
      exact .bind (.tryCatch (.send _) fun e => honest_note nofun) fun _ => .pure _

theorem honest_emit {m : Message} (h : m.IsCandid dialogs) : Honest dialogs (emit m) :=
  .bind (honest_compose h) fun _ => .forM fun part _ => .send part

/-- Callbacks report to the dialog what they report. -/
theorem honest_converse (cursor : Location) {callbacks : List (ConvoM Unit)}
    (h : ∀ callback ∈ callbacks, Honest dialogs callback) :
    Honest dialogs (converse cursor callbacks) := by
  have hall : Honest dialogs (callbacks.forM fun callback => callback : ConvoM Unit) := .forM h
  refine .bind .get fun session =>
    .liftHost_bind (hall ⟨cursor, session.values⟩) fun y hy => .bind (.set _) fun _ => ?_
  obtain ⟨o, convo⟩ := y
  cases o with
  | ok _ => exact .pure _
  | error e => exact .throw (hy e rfl)

namespace Candid

variable {d : Dialog} (h : d.Candid dialogs)

include h

theorem honest_enter (cursor : Location) : Honest dialogs (d.enter cursor) := by
  have hhooks : ∀ hook ∈ d.hooks.beforeThread cursor.thread, Honest dialogs hook := by
    intro hook hhook
    obtain ⟨entry, hentry, rfl⟩ := List.mem_map.1 hhook
    exact h.before entry (List.mem_of_mem_filter hentry)
  unfold Dialog.enter
  refine .bind (honest_note nofun) fun _ => ?_
  split
  · exact .pure _
  · exact .bind (honest_note nofun) fun _ => honest_converse cursor hhooks

theorem honest_announceChange (cursor : Location) (key : String) (answer : Json) :
    Honest dialogs (d.announceChange cursor key answer) := by
  have hhooks : ∀ callback ∈ (d.hooks.onChange key).map (· answer), Honest dialogs callback := by
    intro callback hcallback
    obtain ⟨hook, hhook, rfl⟩ := List.mem_map.1 hcallback
    obtain ⟨entry, hentry, rfl⟩ := List.mem_map.1 hhook
    exact h.change entry (List.mem_of_mem_filter hentry) answer
  unfold Dialog.announceChange
  split
  · exact .pure _
  · exact .bind (honest_note nofun) fun _ => honest_converse cursor hhooks

theorem honest_announceEnd (result : DialogResult) : Honest dialogs (d.announceEnd result) := by
  unfold Dialog.announceEnd
  split
  · exact .pure _
  · refine .bind (honest_note nofun) fun _ => .forM fun hook hhook => ?_
    exact .liftM (h.after hook hhook result)

theorem honest_close : Honest dialogs d.close := by
  unfold Dialog.close
  refine .bind (.modify _) fun _ => .bind .active fun active => ?_
  cases active with
  | none => exact .bind (.finish _) fun _ => .pure _
  | some active =>
    exact .bind .get fun s => .bind (honest_note nofun) fun _ => .bind (.finish _) fun _ =>
      .bind (h.honest_announceEnd _) fun _ => .pure _

theorem honest_closeAs (status : DialogStatus) : Honest dialogs (d.closeAs status) :=
  .bind (.modify _) fun _ => h.honest_close

variable (hown : ∀ d', dialogs.find d.id = .ok d' → d' = d)

include hown

/-- An action is not recognized only if it is no thread of the dialog. -/
theorem honest_dispatch (cursor : Location) (action : Action) :
    Honest dialogs (d.dispatch cursor action) := by
  unfold Dialog.dispatch
  refine .bind (honest_note nofun) fun _ => ?_
  cases action with
  | next => exact .pure _
  | complete | stop | timeout => exact .bind (h.honest_closeAs _) fun _ => .pure _
  | executeScript execute =>
    exact .bind .get fun s => .bind (.replace _ _) fun _ => .pure _
  | beginDialog execute =>
    exact .bind .get fun s => .bind (.begin _ _) fun _ => .pure _
  | repeatLine => exact .pure _
  | wait => exact .bind (.modify _) fun _ => .pure _
  | thread name =>
    dsimp only
    split
    · exact .pure _
    · next hname =>
      have htrue : (Event.actionUnrecognized d.id name).IsTrue dialogs := by
        rintro id action ⟨⟩ d' hd'
        rw [hown d' hd']
        exact Bool.eq_false_iff.2 hname
      exact .bind (.note htrue) fun _ => .pure _

theorem honest_follow (cursor : Location) (action : Option Action) :
    Honest dialogs (d.follow cursor action) := by
  cases action with
  | none => exact .pure _
  | some action => exact .bind (h.honest_dispatch hown cursor action) fun _ => .pure _

theorem honest_handle (p : Pass) {handler : Handler}
    (hhandler : ∀ callback, handler.callback = some callback →
      ∀ text activity, Honest dialogs (callback text activity)) :
    Honest dialogs (d.handle p handler) := by
  unfold Dialog.handle
  cases hcallback : handler.callback with
  | none =>
    cases handler.action with
    | none => exact .pure _
    | some action => exact h.honest_dispatch hown p.cursor action
  | some callback =>
    have hcalled : ∀ called ∈ [callback (p.answer.bind Json.string?)
        (p.input.bind TurnInput.activity?)], Honest dialogs called :=
      List.forall_mem_singleton.2 (hhandler callback hcallback _ _)
    refine .bind .active fun active => .bind (honest_converse p.cursor hcalled) fun cursor =>
      .bind .active fun current => ?_
    cases current with
    | none => exact .pure _
    | some current =>
      dsimp only
      split
      · exact .bind (honest_note nofun) fun _ => .pure _
      · split
        · exact .pure _
        · exact .pure _

theorem honest_settle (p : Pass) (answer : Json) {collect : Collect}
    (hcollect : ∀ handler ∈ collect.options, ∀ callback, handler.callback = some callback →
      ∀ text activity, Honest dialogs (callback text activity)) :
    Honest dialogs (d.settle p answer collect) := by
  have hselect : Honest dialogs (d.offer p answer collect) := by
    unfold Dialog.offer
    cases hselected : collect.select answer with
    | none => exact .pure _
    | some handler =>
      exact h.honest_handle hown p (hcollect handler (mem_options_of_select hselected))
  unfold Dialog.settle
  cases collect.key with
  | none => exact hselect
  | some key =>
    refine .bind (.modify _) fun _ => .bind (h.honest_announceChange _ _ _) fun cursor => ?_
    by_cases hc : cursor ≠ p.cursor
    · rw [if_pos hc]
      exact .pure _
    · rw [if_neg hc]
      exact hselect

theorem honest_perform (cursor : Location) {line : Line} (hline : line.Candid dialogs) :
    Honest dialogs (d.perform cursor line) := by
  cases line with
  | question message collect => exact honest_prompt d (hline.message message rfl)
  | message message action =>
    have hfollow := h.honest_follow hown cursor action
    unfold Dialog.perform
    dsimp only
    split
    · exact .bind (honest_emit (hline.message message rfl)) fun _ => hfollow
    · split
      · exact .bind (honest_note nofun) fun _ => hfollow
      · exact hfollow
  | action action => exact h.honest_follow hown cursor (some action)
  | childDialog execute collect => exact h.honest_follow hown cursor (some (.beginDialog execute))
  | next => exact .pure _

theorem honest_pass {lines : List Line} (hlines : ∀ line ∈ lines, line.Candid dialogs) (p : Pass) :
    Honest dialogs (d.pass lines p) := by
  have hrest (settled : Option Flow) : Honest dialogs (d.afterSettling lines p.cursor settled) := by
    unfold Dialog.afterSettling
    cases settled with
    | some flow => exact .pure _
    | none =>
      refine .bind .active fun active => ?_
      split
      · exact h.honest_close
      · cases hline : lines[p.cursor.index]? with
        | none => exact h.honest_close
        | some line =>
          exact h.honest_perform hown p.cursor (hlines line (List.mem_of_getElem? hline))
  rw [pass_eq]
  cases p.answer with
  | none => exact hrest none
  | some answer =>
    cases hbefore : collectBefore lines p.cursor.index with
    | none => exact hrest none
    | some collect =>
      obtain ⟨line, hline, hcollect⟩ := exists_of_collectBefore hbefore
      exact .bind (h.honest_settle hown p answer ((hlines line hline).callback collect hcollect))
        hrest

/-- **A run reports what is true**, however many passes it has: it stops for want of a thread only
where there is none. -/
theorem honest_run (budget : ℕ) (cursor : Location) (input : Option TurnInput) :
    Honest dialogs (d.run budget cursor input) := by
  induction budget generalizing cursor input with
  | zero => exact .bind .get fun _ => .throw nofun
  | succ budget ih =>
    rw [run_succ]
    refine .bind (.modify _) fun _ => ?_
    cases hlines : d.script.thread? cursor.thread with
    | none =>
      refine .throw ?_
      rintro id cursor' ⟨⟩ d' hd'
      rw [hown d' hd']
      exact Option.isSome_eq_false_iff.2 (Option.isNone_iff_eq_none.2 hlines)
    | some lines =>
      have hrest (entered : Location) :
          Honest dialogs (d.afterEntering budget cursor lines input entered) := by
        unfold Dialog.afterEntering
        split
        · exact ih entered none
        · refine .bind (h.honest_pass hown (h.lines _ lines hlines) ⟨cursor, input⟩) fun flow => ?_
          cases flow with
          | stop status => exact .pure _
          | jump target => exact ih target none
          | advance => exact .bind .get fun s => ih _ none
      dsimp only
      split
      · exact .bind (h.honest_enter cursor) hrest
      · exact hrest cursor

theorem honest_resume (input : Option TurnInput) : Honest dialogs (d.resume input) := by
  refine .bind .get fun s => ?_
  split
  · exact .bind (.set _) fun _ => h.honest_run hown _ _ _
  · exact .abort

theorem honest_task (task : Task) : Honest dialogs (task.on d) := by
  cases task with
  | begin =>
    have hrest (seed : UInt32) : Honest dialogs (do
        modify fun s => { s with rngState := seed }
        d.run d.options.maxSteps ⟨(← get).thread, 0⟩ none : SessionM TurnStatus) :=
      .bind (.modify _) fun _ => .bind .get fun _ => h.honest_run hown _ _ _
    show Honest dialogs d.begin
    unfold Dialog.begin
    refine .bind (.modify _) fun _ => ?_
    cases d.options.seed with
    | some seed => exact hrest seed
    | none => exact .bind .seed hrest
  | resume input => exact h.honest_resume hown input
  | continueWith activity =>
    show Honest dialogs (d.continueWith activity)
    unfold Dialog.continueWith
    split
    · exact h.honest_resume hown _
    · exact .pure _

end Candid

end Dialog

/-! ### Dialogs that are loaded -/

theorem LineDefinition.isLiteral_message (l : LineDefinition) : l.message.isLiteral = true := by
  have htext : l.message.text.any Text.isComputed = false := by
    show (l.text.map _).any _ = false
    cases l.text with
    | none => rfl
    | some text => cases text <;> rfl
  have hliteral (v : Option Json) : (v.map Content.literal).any Content.isComputed = false := by
    cases v <;> rfl
  simp only [Message.isLiteral, htext]
  simp only [message, hliteral, Bool.or_false, Bool.not_false]

theorem Message.isCandid_of_isLiteral {m : Message} (h : m.isLiteral = true) :
    m.IsCandid dialogs := by
  intro vars rng
  obtain ⟨made, rng', hmade⟩ := m.composes h vars rng
  rw [hmade]
  exact failsTruly_ok made

theorem LineDefinition.Image.candid {l : LineDefinition} {lines : List Line} (h : l.Image lines) :
    ∀ line ∈ lines, line.Candid dialogs := by
  have hfree := h.callbackFree
  have hmessage : ∀ line ∈ lines, ∀ m, line.message? = some m → m.IsCandid dialogs := by
    intro line hline m hm
    have hwritten : m = l.message := by
      cases h with
      | child =>
        simp only [List.mem_cons, List.not_mem_nil, or_false] at hline
        rcases hline with rfl | rfl <;> cases hm
      | question =>
        simp only [List.mem_cons, List.not_mem_nil, or_false] at hline
        rcases hline with rfl | rfl <;> cases hm
        rfl
      | action =>
        obtain rfl := List.mem_singleton.1 hline
        cases hm
      | message =>
        obtain rfl := List.mem_singleton.1 hline
        cases hm
        rfl
    exact hwritten ▸ Message.isCandid_of_isLiteral l.isLiteral_message
  intro line hline
  refine ⟨hmessage line hline, fun collect hcollect handler hhandler callback hcallback => ?_⟩
  rw [hfree line hline collect hcollect handler hhandler] at hcallback
  cases hcallback

/-- **A dialog that is loaded has nothing to lie with.** -/
theorem Dialog.Loaded.candid {d : Dialog} (h : d.Loaded) : d.Candid dialogs := by
  obtain ⟨hbefore, hafter, hchange, -⟩ := h.callbackFree
  obtain ⟨source, options, hd⟩ := h
  obtain ⟨definition, -, hd⟩ := exists_of_bind_eq_ok hd
  have hlines : ∀ thread lines, d.script.thread? thread = some lines →
      ∀ line ∈ lines, line.Candid dialogs := fun _ _ hl =>
    DialogDefinition.forall_line_of_toDialog (fun _ _ => LineDefinition.Image.candid) hd hl
  refine ⟨fun _ h => ?_, fun _ h => ?_, fun _ h => ?_, hlines⟩
  · rw [hbefore] at h
    cases h
  · rw [hafter] at h
    cases h
  · rw [hchange] at h
    cases h

end Parley
