import Mathlib.Tactic.Common
import Parley.Dialog.Run

/-!
# Scripts without callbacks

A request that concerns other sessions hands the turn over.  A callback may hand it over any number
of times and go on with what comes of it; a script does so once at most, and stops as soon as it is
answered.  `Yielding final x` says this of a computation `x` on a session, where `final` tells the
values with which it stops then.  It is kept by sequencing (`Yielding.bind`), so it is proved along
the definition of a run.

* `Dialog.CallbackFree` : a dialog without callbacks and hooks.
* `Dialog.CallbackFree.yielding_begin`, `yielding_resume`, `yielding_continueWith` : its runs yield
  once at most.
-/

namespace Parley

/-- Requests that concern no other session. -/
def Request.IsPlain : Request → Prop
  | .send _ | .active | .note _ | .seed => True
  | .begin _ _ | .replace _ _ | .finish _ | .cancelAll => False

/-- Whatever a computation is answered, it stops at once: with an error if it is answered with one,
and with a value otherwise. -/
structure Stops {α : Type}
    (next : Except DialogError TurnStatus → HostM (Except DialogError α × Session)) (value : α)
    (session : Session) : Prop where
  error : ∀ e, next (.error e) = .done (.error e, session)
  ok : ∀ status, next (.ok status) = .done (.ok value, session)

/-- A computation that hands the turn over once at most and stops then, with a value that is
final. -/
inductive Yields {α : Type} (final : α → Prop) : HostM (Except DialogError α × Session) → Prop where
  | done (value : Except DialogError α × Session) : Yields final (.done value)
  | plain {r : Request} {next : r.Answer → HostM (Except DialogError α × Session)}
      (hr : r.IsPlain) (h : ∀ a, Yields final (next a)) : Yields final (.ask r next)
  | begin (dialog : String) (options : LaunchOptions)
      {next : Except DialogError TurnStatus → HostM (Except DialogError α × Session)} {value : α}
      {session : Session} (h : Stops next value session) (hv : final value) :
      Yields final (.ask (.begin dialog options) next)
  | replace (dialog : String) (options : LaunchOptions)
      {next : Except DialogError TurnStatus → HostM (Except DialogError α × Session)} {value : α}
      {session : Session} (h : Stops next value session) (hv : final value) :
      Yields final (.ask (.replace dialog options) next)
  | finish (result : Option DialogResult)
      {next : Except DialogError TurnStatus → HostM (Except DialogError α × Session)} {value : α}
      {session : Session} (h : Stops next value session) (hv : final value) :
      Yields final (.ask (.finish result) next)
  | abort : Yields final .abort

/-- A computation on a session that yields once at most, whatever the session. -/
def Yielding {α : Type} (final : α → Prop) (x : SessionM α) : Prop :=
  ∀ s, Yields final (x.run.run s)

/-- No value is final: the computation does not hand the turn over. -/
abbrev Keeping {α : Type} (x : SessionM α) : Prop := Yielding (fun _ => False) x

section

variable {α β : Type} {final : α → Prop} {final' : β → Prop}

theorem Stops.bind {next : Except DialogError TurnStatus → HostM (Except DialogError α × Session)}
    {a : α} {session : Session} (h : Stops next a session)
    (f : Except DialogError α × Session → HostM (Except DialogError β × Session)) {b : β}
    (hok : f (.ok a, session) = .done (.ok b, session))
    (herror : ∀ e, f (.error e, session) = .done (.error e, session)) :
    Stops (fun answer => (next answer).bind f) b session where
  error e := by rw [h.error, HostM.bind, herror]
  ok status := by rw [h.ok, HostM.bind, hok]

theorem Yields.bind {x : HostM (Except DialogError α × Session)} (hx : Yields final x)
    {f : Except DialogError α × Session → HostM (Except DialogError β × Session)}
    (hf : ∀ p, Yields final' (f p))
    (hfinal : ∀ a, final a → ∃ b, final' b ∧ ∀ s, f (.ok a, s) = .done (.ok b, s))
    (herror : ∀ e s, f (.error e, s) = .done (.error e, s)) : Yields final' (x.bind f) := by
  induction hx with
  | done value => exact hf value
  | plain hr _ ih => exact .plain hr ih
  | begin dialog options h hv =>
    -- `x` stops with a final value, on which `f` has nothing left to do
    obtain ⟨b, hb, hok⟩ := hfinal _ hv
    exact .begin dialog options (h.bind f (hok _) fun e => herror e _) hb
  | replace dialog options h hv =>
    obtain ⟨b, hb, hok⟩ := hfinal _ hv
    exact .replace dialog options (h.bind f (hok _) fun e => herror e _) hb
  | finish result h hv =>
    obtain ⟨b, hb, hok⟩ := hfinal _ hv
    exact .finish result (h.bind f (hok _) fun e => herror e _) hb
  | abort => exact .abort

/-- What keeps the turn may be followed by anything. -/
theorem Yields.bind_of_keeping {x : HostM (Except DialogError α × Session)}
    (hx : Yields (fun _ => False) x)
    {f : Except DialogError α × Session → HostM (Except DialogError β × Session)}
    (hf : ∀ p, Yields final' (f p)) : Yields final' (x.bind f) := by
  induction hx with
  | done value => exact hf value
  | plain hr _ ih => exact .plain hr ih
  | begin dialog options h hv => exact hv.elim
  | replace dialog options h hv => exact hv.elim
  | finish result h hv => exact hv.elim
  | abort => exact .abort

namespace Yielding

theorem pure (a : α) : Yielding final (pure a) := fun _ => .done _

theorem throw (e : DialogError) : Yielding final (throw e : SessionM α) := fun _ => .done _

theorem get : Keeping (get : SessionM Session) := fun _ => .done _

theorem set (s : Session) : Keeping (set s : SessionM PUnit) := fun _ => .done _

theorem modify (f : Session → Session) : Keeping (modify f : SessionM PUnit) := fun _ => .done _

/-- **One computation after the other.**  If the first one hands the turn over, the second one has
nothing to do. -/
theorem bind {x : SessionM α} {f : α → SessionM β} (hx : Yielding final x)
    (hf : ∀ a, Yielding final' (f a)) (hfinal : ∀ a, final a → ∃ b, final' b ∧ f a = Pure.pure b) :
    Yielding final' (x >>= f) := by
  intro s
  refine Yields.bind (hx s) (fun p => ?_) (fun a ha => ?_) fun e s => rfl
  · obtain ⟨e | a, s⟩ := p
    · exact .done _
    · exact hf a s
  · obtain ⟨b, hb, hfb⟩ := hfinal a ha
    refine ⟨b, hb, fun s => ?_⟩
    show (f a).run.run s = _
    rw [hfb]
    rfl

theorem bind_of_keeping {x : SessionM α} {f : α → SessionM β} (hx : Keeping x)
    (hf : ∀ a, Yielding final' (f a)) : Yielding final' (x >>= f) :=
  hx.bind hf fun _ h => h.elim

theorem mono {x : SessionM α} {final₁ : α → Prop} (hx : Yielding final x)
    (h : ∀ a, final a → final₁ a) : Yielding final₁ x := by
  intro s
  have hs := hx s
  generalize x.run.run s = tree at hs
  induction hs with
  | done value => exact .done value
  | plain hr _ ih => exact .plain hr ih
  | begin dialog options h' hv => exact .begin dialog options h' (h _ hv)
  | replace dialog options h' hv => exact .replace dialog options h' (h _ hv)
  | finish result h' hv => exact .finish result h' (h _ hv)
  | abort => exact .abort

theorem of_keeping {x : SessionM α} (hx : Keeping x) : Yielding final x := hx.mono fun _ h => h.elim

theorem tryCatch {x : SessionM α} {handler : DialogError → SessionM α} (hx : Keeping x)
    (hhandler : ∀ e, Yielding final (handler e)) :
    Yielding final (tryCatch x handler) := by
  intro s
  refine Yields.bind_of_keeping (hx s) fun p => ?_
  obtain ⟨e | a, s⟩ := p
  · exact hhandler e s
  · exact .done _

end Yielding

end

namespace Yielding

variable {α : Type}

theorem note (event : Event) : Keeping (Dialog.note event) :=
  fun _ => .plain (r := .note event) trivial fun _ => .done _

theorem send (message : OutgoingMessage) : Keeping (Attempt.send message : SessionM Unit) :=
  fun _ => .plain (r := .send message) trivial fun _ => .done _

theorem active : Keeping (Attempt.active : SessionM (Option String)) :=
  fun _ => .plain (r := .active) trivial fun _ => .done _

theorem seed : Keeping (Attempt.seed : SessionM UInt32) :=
  fun _ => .plain (r := .seed) trivial fun _ => .done _

variable {final : α → Prop} {x : SessionM α} {value : α}

theorem abort : Yielding final (Attempt.abort : SessionM α) := fun _ => .abort

theorem begin_then (dialog : String) (options : LaunchOptions) (hx : x = Pure.pure value)
    (hv : final value) :
    Yielding final ((Attempt.begin dialog options : SessionM TurnStatus) >>= fun _ => x) := by
  subst hx
  exact fun _ => .begin dialog options ⟨fun _ => rfl, fun _ => rfl⟩ hv

theorem replace_then (dialog : String) (options : LaunchOptions) (hx : x = Pure.pure value)
    (hv : final value) :
    Yielding final ((Attempt.replace dialog options : SessionM TurnStatus) >>= fun _ => x) := by
  subst hx
  exact fun _ => .replace dialog options ⟨fun _ => rfl, fun _ => rfl⟩ hv

theorem finish_then (result : Option DialogResult) (hx : x = Pure.pure value)
    (hv : final value) :
    Yielding final ((Attempt.finish result : SessionM TurnStatus) >>= fun _ => x) := by
  subst hx
  exact fun _ => .finish result ⟨fun _ => rfl, fun _ => rfl⟩ hv

end Yielding

/-! ### Scripts -/

/-- The flows with which a run is over. -/
def Flow.IsStop (flow : Flow) : Prop := ∃ status, flow = .stop status

/-- No handler of a line calls anything. -/
def Line.CallbackFree (line : Line) : Prop :=
  ∀ collect, line.collect? = some collect → ∀ h ∈ collect.options, h.callback = none

namespace Dialog

/-- A dialog without callbacks: it has no hooks, and its lines have none. -/
structure CallbackFree (d : Dialog) : Prop where
  before : d.hooks.before = []
  after : d.hooks.after = []
  change : d.hooks.change = []
  lines : ∀ thread lines, d.script.thread? thread = some lines →
    ∀ line ∈ lines, line.CallbackFree

theorem keeping_compose (message : Message) : Keeping (compose message) := by
  refine .bind_of_keeping .get fun s => .bind_of_keeping (.set _) fun _ => ?_
  split
  · exact .pure _
  · exact .throw _

theorem keeping_prompt (d : Dialog) (message : Message) : Keeping (d.prompt message) := by
  refine .tryCatch ?_ fun e => ?_
  · exact .bind_of_keeping (keeping_compose message) fun m =>
      .bind_of_keeping (.send m) fun _ => .pure _
  · refine .bind_of_keeping .get fun s => .bind_of_keeping (.note _) fun _ => ?_
    cases d.options.promptFailure with
    | none => exact .pure _
    | some text =>
      exact .bind_of_keeping (.tryCatch (.send _) fun e => .note _) fun _ => .pure _

theorem keeping_emit (message : Message) : Keeping (emit message) := by
  refine .bind_of_keeping (keeping_compose message) fun m => ?_
  induction m.parts with
  | nil => exact .pure _
  | cons part parts ih => exact .bind_of_keeping (.send part) fun _ => ih

theorem mem_options_of_select {collect : Collect} {answer : Json} {handler : Handler}
    (h : collect.select answer = some handler) : handler ∈ collect.options := by
  unfold Collect.select at h
  rcases Option.or_eq_some_iff.1 h with hm | ⟨-, hd⟩
  · obtain ⟨text, -, hm⟩ := Option.bind_eq_some_iff.1 hm
    exact List.mem_of_find?_eq_some hm
  · exact List.mem_of_find?_eq_some hd

namespace CallbackFree

variable {d : Dialog} (h : d.CallbackFree)

include h

theorem keeping_enter (cursor : Location) : Keeping (d.enter cursor) := by
  have hnone : d.hooks.beforeThread cursor.thread = [] := by simp [Hooks.beforeThread, h.before]
  unfold Dialog.enter
  rw [hnone]
  exact .bind_of_keeping (.note _) fun _ => .pure _

theorem keeping_announceChange (cursor : Location) (key : String) (answer : Json) :
    Keeping (d.announceChange cursor key answer) := by
  have hnone : d.hooks.onChange key = [] := by simp [Hooks.onChange, h.change]
  unfold Dialog.announceChange
  rw [hnone]
  exact .pure _

theorem yielding_close : Yielding Flow.IsStop d.close := by
  unfold Dialog.close
  refine .bind_of_keeping (.modify _) fun _ => .bind_of_keeping .active fun active => ?_
  cases active with
  | none => exact .finish_then _ rfl ⟨_, rfl⟩
  | some active =>
    refine .bind_of_keeping .get fun s => .bind_of_keeping (.note _) fun _ => ?_
    have hrest : (do d.announceEnd ⟨s.status, s.values⟩; return Flow.stop .complete) =
        (pure (.stop .complete) : SessionM Flow) := by
      unfold Dialog.announceEnd
      rw [h.after]
      rfl
    exact .finish_then _ hrest ⟨_, rfl⟩

theorem yielding_closeAs (status : DialogStatus) : Yielding Flow.IsStop (d.closeAs status) :=
  .bind_of_keeping (.modify _) fun _ => h.yielding_close

theorem yielding_dispatch (cursor : Location) (action : Action) :
    Yielding (fun flow => ∃ f, flow = some f ∧ f.IsStop) (d.dispatch cursor action) := by
  unfold Dialog.dispatch
  refine .bind_of_keeping (.note _) fun _ => ?_
  have hclose (status : DialogStatus) : Yielding (fun flow => ∃ f, flow = some f ∧ Flow.IsStop f)
      (do let f ← d.closeAs status; pure (some f)) :=
    (h.yielding_closeAs status).bind (fun _ => .pure _) fun f hf => ⟨_, ⟨f, rfl, hf⟩, rfl⟩
  cases action with
  | next => exact .pure _
  | complete => exact hclose _
  | stop => exact hclose _
  | timeout => exact hclose _
  | executeScript execute =>
    exact .bind_of_keeping .get fun s => .replace_then _ _ rfl ⟨_, rfl, _, rfl⟩
  | beginDialog execute =>
    exact .bind_of_keeping .get fun s => .begin_then _ _ rfl ⟨_, rfl, _, rfl⟩
  | repeatLine => exact .pure _
  | wait => exact .bind_of_keeping (.modify _) fun _ => .pure _
  | thread name =>
    dsimp only
    split
    · exact .pure _
    · exact .bind_of_keeping (.note _) fun _ => .pure _

theorem yielding_follow (cursor : Location) (action : Option Action) :
    Yielding Flow.IsStop (d.follow cursor action) := by
  cases action with
  | none => exact .pure _
  | some action =>
    refine (h.yielding_dispatch cursor action).bind (fun _ => .pure _) fun flow hflow => ?_
    obtain ⟨f, rfl, hf⟩ := hflow
    exact ⟨f, hf, rfl⟩

theorem yielding_handle (p : Pass) (handler : Handler) (hh : handler.callback = none) :
    Yielding (fun flow => ∃ f, flow = some f ∧ f.IsStop) (d.handle p handler) := by
  unfold Dialog.handle
  rw [hh]
  cases handler.action with
  | none => exact .pure _
  | some action => exact h.yielding_dispatch p.cursor action

theorem yielding_select (p : Pass) (answer : Json) (collect : Collect)
    (hh : ∀ handler ∈ collect.options, handler.callback = none) :
    Yielding (fun flow => ∃ f, flow = some f ∧ Flow.IsStop f)
      (match collect.select answer with
        | none => pure none
        | some handler => d.handle p handler) := by
  cases hs : collect.select answer with
  | none => exact .pure _
  | some handler => exact h.yielding_handle p handler (hh _ (mem_options_of_select hs))

theorem yielding_settle (p : Pass) (answer : Json) (collect : Collect)
    (hh : ∀ handler ∈ collect.options, handler.callback = none) :
    Yielding (fun flow => ∃ f, flow = some f ∧ f.IsStop) (d.settle p answer collect) := by
  have hselect := h.yielding_select p answer collect hh
  unfold Dialog.settle
  cases collect.key with
  | none => exact hselect
  | some key =>
    refine .bind_of_keeping (.modify _) fun _ =>
      .bind_of_keeping (h.keeping_announceChange _ _ _) fun cursor => ?_
    by_cases hc : cursor ≠ p.cursor
    · rw [if_pos hc]
      exact .pure _
    · rw [if_neg hc]
      exact hselect

theorem yielding_perform (cursor : Location) (line : Line) :
    Yielding Flow.IsStop (d.perform cursor line) := by
  cases line with
  | question message collect => exact .of_keeping (keeping_prompt d message)
  | message message action =>
    unfold Dialog.perform
    dsimp only
    split
    · exact .bind_of_keeping (keeping_emit message) fun _ => h.yielding_follow cursor action
    · split
      · exact .bind_of_keeping (.note _) fun _ => h.yielding_follow cursor action
      · exact h.yielding_follow cursor action
  | action action => exact h.yielding_follow cursor (some action)
  | childDialog execute collect => exact h.yielding_follow cursor (some (.beginDialog execute))
  | next => exact .pure _

/-- The line before a place has no callback among its handlers. -/
theorem callback_eq_none_of_collectBefore {thread : String} {lines : List Line}
    (hlines : d.script.thread? thread = some lines) {index : ℕ} {collect : Collect}
    (hc : collectBefore lines index = some collect) :
    ∀ handler ∈ collect.options, handler.callback = none := by
  cases index with
  | zero => cases hc
  | succ index =>
    obtain ⟨line, hline, hcollect⟩ := Option.bind_eq_some_iff.1 hc
    exact h.lines thread lines hlines line (List.mem_of_getElem? hline) collect hcollect

theorem yielding_afterSettling (lines : List Line) (p : Pass) (settled : Option Flow) :
    Yielding Flow.IsStop (d.afterSettling lines p.cursor settled) := by
  unfold Dialog.afterSettling
  cases settled with
  | some flow => exact .pure _
  | none =>
    refine .bind_of_keeping .active fun active => ?_
    split
    · exact h.yielding_close
    · cases lines[p.cursor.index]? with
      | none => exact h.yielding_close
      | some line => exact h.yielding_perform p.cursor line

theorem yielding_pass {thread : String} {lines : List Line}
    (hlines : d.script.thread? thread = some lines) (p : Pass) :
    Yielding Flow.IsStop (d.pass lines p) := by
  have hrest := h.yielding_afterSettling lines p
  rw [pass_eq]
  cases p.answer with
  | none => exact hrest none
  | some answer =>
    cases hc : collectBefore lines p.cursor.index with
    | none => exact hrest none
    | some collect =>
      have hcollect := h.callback_eq_none_of_collectBefore hlines hc
      refine (h.yielding_settle p answer collect hcollect).bind hrest ?_
      rintro _ ⟨flow, rfl, hflow⟩
      exact ⟨flow, hflow, rfl⟩

/-- From the thread it entered, a run yields once at most if the runs it may still make do:
a pass that hands the turn over is the last one. -/
theorem yielding_afterEntering {budget : ℕ} {cursor : Location} {lines : List Line}
    (hlines : d.script.thread? cursor.thread = some lines)
    (hrun : ∀ next input, Yielding (fun _ => True) (d.run budget next input))
    (input : Option TurnInput) (entered : Location) :
    Yielding (fun _ => True) (d.afterEntering budget cursor lines input entered) := by
  unfold Dialog.afterEntering
  split
  · exact hrun entered none
  · refine (h.yielding_pass hlines ⟨cursor, input⟩).bind (fun flow => ?_) ?_
    · cases flow with
      | stop status => exact .pure _
      | jump target => exact hrun target none
      | advance => exact .bind_of_keeping .get fun s => hrun _ none
    · rintro _ ⟨status, rfl⟩
      exact ⟨status, trivial, rfl⟩

/-- **A run of a script yields once at most**, however many passes it has. -/
theorem yielding_run (budget : ℕ) (cursor : Location) (input : Option TurnInput) :
    Yielding (fun _ => True) (d.run budget cursor input) := by
  induction budget generalizing cursor input with
  | zero => exact .bind_of_keeping .get fun _ => .throw _
  | succ budget ih =>
    rw [run_succ]
    refine .bind_of_keeping (.modify _) fun _ => ?_
    cases hlines : d.script.thread? cursor.thread with
    | none => exact .throw _
    | some lines =>
      have hrest := h.yielding_afterEntering hlines ih input
      dsimp only
      split
      · exact .bind_of_keeping (h.keeping_enter cursor) hrest
      · exact hrest cursor

theorem yielding_begin : Yielding (fun _ => True) d.begin := by
  have hrest (seed : UInt32) : Yielding (fun _ => True) (do
      modify fun s => { s with rngState := seed }
      d.run d.options.maxSteps ⟨(← get).thread, 0⟩ none) :=
    .bind_of_keeping (.modify _) fun _ => .bind_of_keeping .get fun _ => h.yielding_run _ _ _
  unfold Dialog.begin
  refine .bind_of_keeping (.modify _) fun _ => ?_
  cases d.options.seed with
  | some seed => exact hrest seed
  | none => exact .bind_of_keeping .seed hrest

theorem yielding_resume (input : Option TurnInput) :
    Yielding (fun _ => True) (d.resume input) := by
  refine .bind_of_keeping .get fun s => ?_
  split
  · exact .bind_of_keeping (.set _) fun _ => h.yielding_run _ _ _
  · exact .abort

theorem yielding_continueWith (activity : Activity) :
    Yielding (fun _ => True) (d.continueWith activity) := by
  unfold Dialog.continueWith
  split
  · exact h.yielding_resume _
  · exact .pure _

end CallbackFree

end Dialog

end Parley
