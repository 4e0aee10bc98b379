import Parley.Proofs.Scope.Turns

/-!
# Variables are scoped

Every session has variables of its own.  It begins with the values that it was launched with, and
whatever turns are taken, and however they end, it keeps them but for those under the keys that its
own script collects; its launch options stay the same, and the result that it leaves has no other
variables than it has itself (`Stack.variables_scoped`).  All this is for dialogs that come from
texts.

A session that is resumed when the one above it has ended changes at most the variable under the key
of the line behind which it goes on.  If dialogs are started on empty stacks only, that is the line
for a child dialog on which the session has begun the other one, and no variable changes if it has
begun it in another way.  A dialog that is started on top of a session that waits for an answer ends
above it as well, and then its result is kept as the answer (`Stack.result_fills_question`).
-/

namespace Parley

open Stepping

/-- A session that has begun another dialog collects what comes of it under the key of the line on
which it stands, if that is one for a child dialog, and nothing otherwise. -/
theorem Dialog.HasBegun.childDialog_of_collectsAt {d : Dialog} {s : Session} {execute : Execute}
    (h : d.HasBegun s execute) {key : String} (hkey : d.CollectsAt ⟨s.thread, s.resumePoint⟩ key) :
    ∃ execute collect, d.line? s.location = some (.childDialog execute collect) ∧
      collect.key = some key := by
  obtain ⟨collect, hcollector, hkey⟩ := hkey
  rw [h.collectorAt_resumePoint] at hcollector
  obtain ⟨line, hline, hcollect⟩ := Option.bind_eq_some_iff.1 hcollector
  obtain ⟨lines, hlines, hbegins⟩ := h.place
  have hat : d.line? s.location = lines[s.stepIndex]? := by
    rw [line?, Session.location, hlines, Option.bind_some]
  -- of the lines that begin dialogs only those for child dialogs collect anything
  have hnowhere {l : Line} (hl : lines[s.stepIndex]? = some l) (hnone : l.collect? = none) :
      False := by
    obtain rfl := Option.some.inj (hline.symm.trans (hat.trans hl))
    rw [hnone] at hcollect
    cases hcollect
  cases hbegins with
  | child collect' hl =>
    obtain rfl := Option.some.inj (hline.symm.trans (hat.trans hl))
    obtain rfl := Option.some.inj hcollect
    exact ⟨execute, collect', hat.trans hl, hkey⟩
  | message m hl => exact (hnowhere hl rfl).elim
  | action hl => exact (hnowhere hl rfl).elim
  | handler collect' handler hl => exact (hnowhere hl rfl).elim

/-! ### Moments -/

namespace Moment

/-- What the sessions hold is kept in scope at a moment. -/
structure KeepsScopes (m : Moment) : Prop where
  /-- A session has the values that it was launched with, but for those under the keys that its
  dialog collects. -/
  stored : ∀ f ∈ m.stack.frames, f.MayHold m.stack.dialogs f.session
  /-- Sessions keep their launch options as long as they last. -/
  continues : ∀ m', m.Leads m' → m.stack.Continues m'.stack
  /-- A session that is new has just been launched. -/
  launched : ∀ m', m.next? = some m' → ∀ f' ∈ m'.stack.frames,
    (∃ f ∈ m.stack.frames, f.Same f') ∨ m.stack.Launches f'
  /-- What is stored of a session changes only when its own run is over. -/
  changed : ∀ m', m.next? = some m' →
    ∀ f ∈ m.stack.frames, ∀ f' ∈ m'.stack.frames, f'.id = f.id →
      f'.session = f.session ∨
        ∃ taken outcome, m.phase = .running f.id taken (.done (outcome, f'.session))
  /-- A result has the variables that its session may hold. -/
  records : ∀ m', m.next? = some m' → m.Records m'

theorem Proper.keepsScopes {m : Moment} (h : m.Proper) : m.KeepsScopes where
  stored := h.scopes.stored
  continues _ hlead := h.continues hlead
  launched _ hm _ hf' := h.scopes.same_or_launches h.sound hm hf'
  changed := h.sound.keepsSessions.changed_by_own_run
  records _ hm := h.scopes.records hm

end Moment

/-! ### Runs -/

namespace Stack

/-- A run that begins at a moment keeps its session in scope. -/
structure RunKeepsScope (alone : Prop) (m : Moment) (f : Frame) (d : Dialog)
    (begun : Stage Stack) : Prop where
  /-- Throughout the run its session holds what it may. -/
  throughout : ∀ rounds t, Leads (d.next? (answer rounds)) begun t →
    (d.scope f.session.options).Holds t.session
  /-- If the session is resumed, only what is collected where it goes on changes. -/
  resumed : ∀ input, begun.spot = .starting (.resume input) →
    ∀ rounds t, Leads (d.next? (answer rounds)) begun t → (d.scopeAt f.session).Holds t.session
  /-- If it is resumed and `alone` holds, that is collected by a line for a child dialog, on which
  the session stands. -/
  childLine : alone → ∀ input, begun.spot = .starting (.resume input) →
    ∀ key, d.CollectsAt ⟨f.session.thread, f.session.resumePoint⟩ key →
      ∃ execute collect, d.line? f.session.location = some (.childDialog execute collect) ∧
        collect.key = some key
  /-- With the session of its last stage the run is over, whether it has failed or not. -/
  ends : ∀ rounds x, Ends (d.next? (answer rounds)) begun (Stage.final x) →
    m.Leads ⟨x.2, .running f.id f.session (.done x.1), m.suspended⟩

variable {alone : Prop} {st : Stack} {c : Call} {m : Moment}

theorem RunBegins.keepsScope {f : Frame} {d : Dialog} {begun : Stage Stack}
    (h : RunBegins m f d begun) (hproper : m.Proper)
    (hcause : Cause alone c m.stack.dialogs f begun.spot) : RunKeepsScope alone m f d begun := by
  have hdialog := hproper.loaded _ _ h.find
  obtain ⟨task, -, -, rfl⟩ := h.starts
  obtain ⟨d', hd', hholds⟩ := hproper.scopes.stored f (mem_frames_of_top? h.top)
  obtain rfl : d' = d := Except.ok.inj (hd'.symm.trans h.find)
  refine ⟨fun rounds t hlead => ?_, fun input hspot rounds t hlead => ?_,
    fun halone input hspot key hkey => ?_,
    fun _ _ hends => h.leads_done hends⟩
  · exact ((d'.scope f.session.options).law d').of_leads hdialog.callbackFree hdialog.tidy hholds
      h.inPlace (Dialog.scope_follows _ task hholds) hlead
  · obtain rfl := Spot.starting.inj hspot
    exact ((d'.scopeAt f.session).law d').of_leads hdialog.callbackFree hdialog.tidy
      (Dialog.scopeAt_holds f.session) h.inPlace (Dialog.scopeAt_hears f.session input) hlead
  · obtain rfl := Spot.starting.inj hspot
    cases hcause with
    | resume _ hbegun =>
      obtain ⟨d, execute, hd, hexecute⟩ := hbegun halone
      obtain rfl : d = d' := Except.ok.inj (hd.symm.trans hd')
      exact hexecute.childDialog_of_collectsAt hkey

/-- Wherever a session is about to run, a run begins that keeps it in scope. -/
theorem InScope.exists_run (h : st.InScope alone) (hc : c.IsTurn)
    (halone : alone → ¬c.Interrupts st) (hm : Occurs c st m) {id : ℕ}
    {run : Dialog → SessionM TurnStatus} (hphase : m.phase = .entering id run) :
    ∃ f d begun, RunBegins m f d begun ∧ f.id = id ∧ Cause alone c st.dialogs f begun.spot ∧
      RunKeepsScope alone m f d begun := by
  obtain ⟨hproper, hdialogs, -⟩ := h.occurs hm
  obtain ⟨f, task, htop, rfl, rfl, hcause⟩ :=
    h.quiescent.exists_task h.loaded hc h.nested halone hm hphase
  obtain ⟨d, hd⟩ := hproper.sound.orderly.registered f (mem_frames_of_top? htop)
  have hlaunched : task = .begin → ∃ options, f.session = .launch options := by
    rintro rfl
    cases hcause with
    | begin hlaunched => exact hlaunched
  have hbegun : RunBegins m f d ⟨.starting task, f.session, m.stack.enter f.id⟩ :=
    ⟨htop, hd, task, hphase, hlaunched, rfl⟩
  exact ⟨f, d, _, hbegun, rfl, hcause, hbegun.keepsScope hproper (hdialogs.symm ▸ hcause)⟩

theorem Turns.dialogs_eq {start : Stack} (h : Turns alone start st) :
    st.dialogs = start.dialogs := by
  induction h with
  | refl => rfl
  | turn _ hc _ hreturns ih => exact hreturns.dialogs_eq.trans ih
  | drain _ ih => exact ih

/-- **Variables are scoped.**  Turns are taken on an empty stack of loaded dialogs, whatever their
outcomes.  At every moment of the next turn, as between the turns, sessions have the launch options
that they have had from the start and the values that they were launched with, but for those under
the keys that their own dialogs collect; and so have the results that they leave.  The same holds
throughout every run of a session, and one that is resumed changes only what is collected where it
goes on: if no dialog is started on top of others, what belongs to the child-dialog line on which it
stands. -/
theorem variables_scoped {dialogs : DialogSet} {clock : ℕ → UInt32}
    (hloaded : (empty dialogs clock).Loaded) {earlier : Stack}
    (hearlier : Turns alone (empty dialogs clock) earlier) (hturns : Turns alone earlier st) :
    earlier.Continues st ∧ (∀ f ∈ st.frames, f.MayHold dialogs f.session) ∧
      ∀ c, c.IsTurn → (alone → ¬c.Interrupts st) → ∀ m, Occurs c st m →
        m.stack.dialogs = dialogs ∧ earlier.Continues m.stack ∧ m.KeepsScopes ∧
          ∀ id run, m.phase = .entering id run →
            ∃ f d begun, RunBegins m f d begun ∧ f.id = id ∧ Cause alone c dialogs f begun.spot ∧
              RunKeepsScope alone m f d begun := by
  have hdialogs : st.dialogs = dialogs := hturns.dialogs_eq.trans hearlier.dialogs_eq
  obtain ⟨hscope, hcontinues⟩ := ((inScope_empty hloaded).turns hearlier).1.turns hturns
  refine ⟨hcontinues, hdialogs ▸ hscope.stored, fun c hc halone m hm => ?_⟩
  obtain ⟨hproper, hmoment, hlater⟩ := hscope.occurs hm
  exact ⟨hmoment.trans hdialogs, hcontinues.trans hlater, hproper.keepsScopes,
    fun _ _ hphase => hdialogs ▸ hscope.exists_run hc halone hm hphase⟩

/-- In the turn in which the form is filled in, the desk is resumed when the form has ended. -/
theorem exists_desk_resumed :
    ∃ m run, Occurs reply askingStack m ∧ m.phase = .entering 1 run ∧
      m.stack.outline = [("desk", [])] ∧ m.stack.results.size = 1 := by
  have h : ((reply.opening? askingStack).bind (after Moment.next? 6)).map
      (fun m => (m.entered?.map Prod.fst, m.stack.outline, m.stack.results.size)) =
        some (some 1, [("desk", [])], 1) := by
    decide +kernel
  obtain ⟨m, hm, hview⟩ := Option.map_eq_some_iff.1 h
  obtain ⟨m₀, hopen, hafter⟩ := Option.bind_eq_some_iff.1 hm
  obtain ⟨hentered, hview⟩ := Prod.mk.inj hview
  obtain ⟨houtline, hresults⟩ := Prod.mk.inj hview
  obtain ⟨⟨id, run⟩, hrun, rfl⟩ := Option.map_eq_some_iff.1 hentered
  refine ⟨m, run, ⟨m₀, hopen, 6, hafter⟩, ?_, houtline, hresults⟩
  unfold Moment.entered? at hrun
  split at hrun
  case h_1 hphase =>
    obtain ⟨rfl, rfl⟩ := Prod.mk.inj (Option.some.inj hrun)
    exact hphase
  all_goals cases hrun

theorem variables_scoped_desk :
    deskStack.Loaded ∧ Turns True deskStack askingStack ∧ Turns True askingStack askingStack ∧
      reply.IsTurn ∧ ¬reply.Interrupts askingStack ∧
      ∃ m, Occurs reply askingStack m ∧ m.stack.outline = [("desk", [])] ∧
        m.stack.results.size = 1 ∧ m.KeepsScopes ∧
        ∃ f d begun, RunBegins m f d begun ∧ f.id = 1 ∧
          Cause True reply deskStack.dialogs f begun.spot ∧
          RunKeepsScope True m f d begun := by
  have hempty : ¬(Call.start "desk" {}).Interrupts deskStack := by
    rintro ⟨_, _, -, hne⟩
    exact hne rfl
  have hreply : ¬reply.Interrupts askingStack := by
    rintro ⟨_, _, h, -⟩
    cases h
  have hstart : (Call.start "desk" {}).IsTurn := trivial
  have hturn : reply.IsTurn := trivial
  have hturns : Turns True deskStack askingStack :=
    .turn .refl hstart (fun _ => hempty) returns_asking.1
  obtain ⟨m, run, hm, hphase, houtline, hresults⟩ := exists_desk_resumed
  obtain ⟨-, -, hmoments⟩ := variables_scoped deskStack_loaded hturns .refl
  obtain ⟨-, -, hkeeps, hruns⟩ := hmoments reply hturn (fun _ => hreply) m hm
  exact ⟨deskStack_loaded, hturns, .refl, hturn, hreply, m, hm, houtline, hresults, hkeeps,
    hruns 1 run hphase⟩

/-! ### A dialog that is started on top of a question -/

/-- The text of a dialog with two questions. -/
def surveyText : String :=
  "\x7b\"id\":\"survey\",\"threads\":\x7b\"default\":[" ++
  "\x7b\"text\":\"Name?\",\"collect\":\x7b\"key\":\"name\"\x7d\x7d," ++
  "\x7b\"text\":\"Age?\",\"collect\":\x7b\"key\":\"age\"\x7d\x7d]\x7d\x7d"

/-- The text of a dialog that only says something. -/
def noteText : String :=
  "\x7b\"id\":\"note\",\"threads\":\x7b\"default\":[\x7b\"text\":\"Noted.\"\x7d]\x7d\x7d"

/-- What the note is launched with. -/
def memo : Vars := [("title", .string "Memo")]

/-- An empty stack of the two dialogs. -/
def surveyStack : Stack :=
  Stack.empty [("survey", readDialog surveyText), ("note", readDialog noteText)] fun _ => 0

/-- No line of a dialog begins a child dialog. -/
def isChildless (d : Dialog) : Bool :=
  d.script.threads.all fun thread => thread.2.all fun line =>
    match line with
    | .childDialog .. => false
    | _ => true

theorem loaded_of_mem_surveyStack {entry : String × Dialog} (h : entry ∈ surveyStack.dialogs) :
    entry.2.Loaded ∧ isChildless entry.2 = true := by
  simp only [surveyStack, Stack.empty, List.mem_cons, List.not_mem_nil, or_false] at h
  rcases h with rfl | rfl
  · exact loaded_readDialog surveyText isChildless (by decide +kernel)
  · exact loaded_readDialog noteText isChildless (by decide +kernel)

theorem surveyStack_loaded : surveyStack.Loaded :=
  DialogSet.forall_of_find fun _ h => (loaded_of_mem_surveyStack h).1

theorem line?_ne_childDialog {d : Dialog} (h : isChildless d = true) (cursor : Location)
    (execute : Execute) (collect : Collect) :
    d.line? cursor ≠ some (.childDialog execute collect) := by
  intro hline
  obtain ⟨lines, hlines, hline⟩ := Option.bind_eq_some_iff.1 hline
  have hall := List.all_eq_true.1 h (cursor.thread, lines) (Keyed.mem_of_get?_eq_some hlines)
  have hone := List.all_eq_true.1 hall _ (List.mem_of_getElem? hline)
  cases hone

/-- The stack on which the survey waits for the name. -/
def surveyAsked : Stack := surveyStack.behind 3 (.start "survey" {})

/-- The stack behind the note. -/
def surveyFilled : Stack := surveyAsked.behind 3 (.start "note" { values := memo })

/-- What is found under the key of the name. -/
def namesOf (st : Stack) : List (ℕ × Option String) :=
  st.frames.map fun f => (f.id, (Keyed.get? f.session.values "name").map Json.render)

theorem call_surveyAsked :
    surveyStack.call 3 (.start "survey" {}) = some (.ok (some .waiting), surveyAsked) ∧
      namesOf surveyAsked = [(1, none)] :=
  call_behind (by decide +kernel)

theorem call_surveyFilled :
    surveyAsked.call 3 (.start "note" { values := memo }) =
        some (.ok (some .waiting), surveyFilled) ∧
      namesOf surveyFilled = [(1, some "\x7b\"title\":\"Memo\"\x7d")] :=
  call_behind (by decide +kernel)

/-- **The result of a note is taken for the name.**  A dialog waits for an answer and has no line
that begins a child dialog.  Another one is started on top of it and ends at once: its variables are
kept under the key of the question. -/
theorem result_fills_question :
    surveyStack.Loaded ∧
      (∀ id d, surveyStack.dialogs.find id = .ok d → ∀ cursor execute collect,
        d.line? cursor ≠ some (.childDialog execute collect)) ∧
      Returns (.start "survey" {}) surveyStack (.ok (some .waiting)) surveyAsked ∧
      Returns (.start "note" { values := memo }) surveyAsked (.ok (some .waiting)) surveyFilled ∧
      ∃ f ∈ surveyAsked.frames, ∃ f' ∈ surveyFilled.frames, f.Same f' ∧
        Keyed.get? f.session.values "name" = none ∧
        (Keyed.get? f'.session.values "name").map Json.render =
          some "\x7b\"title\":\"Memo\"\x7d" := by
  have hchildless : ∀ id d, surveyStack.dialogs.find id = .ok d → isChildless d = true :=
    DialogSet.forall_of_find fun _ h => (loaded_of_mem_surveyStack h).2
  obtain ⟨hasked, hbefore⟩ := call_surveyAsked
  obtain ⟨hfilled, hafter⟩ := call_surveyFilled
  have hsurvey : (Call.start "survey" {}).IsTurn := trivial
  have hnote : (Call.start "note" { values := memo }).IsTurn := trivial
  have hempty : surveyStack.InScope False := inScope_empty surveyStack_loaded
  obtain ⟨hscope, -⟩ := hempty.turn hsurvey False.elim ⟨3, hasked⟩
  obtain ⟨-, hcontinues⟩ := hscope.turn hnote False.elim ⟨3, hfilled⟩
  -- the session that has the name afterwards has been there before
  obtain ⟨f', hf', hname'⟩ := List.mem_map.1 (hafter ▸ List.mem_singleton_self _)
  obtain ⟨g, hg, hgname⟩ := List.mem_map.1 (hbefore ▸ List.mem_singleton_self _)
  have hlt : 1 < surveyAsked.nextFrame :=
    (Prod.mk.inj hgname).1 ▸ hscope.quiescent.fresh g hg
  obtain ⟨hid', hname'⟩ := Prod.mk.inj hname'
  rcases hcontinues.frames f' hf' with ⟨f, hf, hsame⟩ | hfresh
  · have hf₁ : f = g := hscope.quiescent.eq_of_id_eq hf hg
      ((hsame.id.trans hid').trans (Prod.mk.inj hgname).1.symm)
    obtain rfl := hf₁
    have hname := Option.map_eq_none_iff.1 (Prod.mk.inj hgname).2
    exact ⟨surveyStack_loaded, fun id d hd => line?_ne_childDialog (hchildless id d hd),
      ⟨3, hasked⟩, ⟨3, hfilled⟩, f, hf, f', hf', hsame, hname, hname'⟩
  · omega

end Stack

end Parley
