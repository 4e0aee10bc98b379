import Parley.Proofs.Conversation.Parking
import Parley.Proofs.Course.OnStack
import Parley.Proofs.Course.Place

/-!
# Laws of runs

A run of a dialog changes the variables of its session in two ways: it begins with those that the
session was launched with, and it captures answers.  So what is to be shown of the variables in the
whole course of a run, and of what the run hands on, is shown of these two.  A `Dialog.Law` says so
of a property of sessions.

`Dialog.Abides` is a computation in which everything goes by the law: where its session is looked
at, where the turn is handed over and where it stops, also with an error.  Every stride of a run
abides (`Dialog.Law.stride`), so all that is left of a run does (`Dialog.Law.rest`), whatever its
requests are answered.  Moreover a session that has begun another dialog stands at the place where
it has done so (`Dialog.HasBegun`), whatever comes of that.

All this is for dialogs without callbacks.
-/

namespace Parley

open StatefulAttempt

namespace Dialog

/-! ### Laws -/

/-- A property of sessions that hangs on their variables and launch options, and that captured
answers keep, and a property of what is handed over that it entails.  `Hears` tells what may come in
at which place. -/
structure Law (d : Dialog) (P : Session → Prop) (R : Request → Prop)
    (Hears : Location → Option TurnInput → Prop) : Prop where
  congr : ∀ {s s' : Session}, P s → s'.values = s.values → s'.options = s.options → P s'
  capture : ∀ {s : Session} {cursor : Location} {input : Option TurnInput} {answer : Json}
    {collect : Collect} {key : String}, P s → Hears cursor input →
    input.bind TurnInput.response = some answer → d.collectorAt cursor = some collect →
    collect.key = some key →
    P { s with
      values := Keyed.insert s.values key (captured s.values key answer collect.multiple) }
  nothing : ∀ cursor, Hears cursor none
  begin : ∀ {s : Session} (execute : Execute), P s →
    R (.begin execute.script (launchOptions execute s))
  replace : ∀ {s : Session} (execute : Execute), P s →
    R (.replace execute.script (launchOptions execute s))
  finish : ∀ {s : Session}, P s → R (.finish (some s.result))
  removed : R (.finish none)

end Dialog

/-- A spot is one that a run comes to by the law: what it has heard may be heard, and what it is
going to do is what the lines say. -/
def Spot.Follows (d : Dialog) (P : Session → Prop) (Hears : Location → Option TurnInput → Prop) :
    Spot → Session → Prop
  | starting .begin, s => P { s with values := s.options.values }
  | starting (.resume input), s => Hears ⟨s.thread, s.resumePoint⟩ input
  | starting (.continueWith activity), s =>
    Hears ⟨s.thread, s.resumePoint⟩ (some (.message activity))
  | arriving _ cursor input, _ => Hears cursor input
  | entering _ _ p, _ | settling _ _ p, _ => Hears p.cursor p.input
  | announcing _ lines p _ collect _, _ | selecting _ lines p _ collect, _ =>
    Dialog.collectBefore lines p.cursor.index = some collect
  | handling .., _ => False
  | dispatching _ cursor action _, _ => ∀ execute, action = .beginDialog execute →
    ∃ lines, d.script.thread? cursor.thread = some lines ∧
      Dialog.BeginsAt lines cursor.index execute
  | checking .., _ | performing .., _ | closing, _ | parting _, _ | returned _, _ => True

/-- A spot at which nothing is left to do but to return. -/
def Spot.IsOver (spot : Spot) : Prop :=
  spot = .returned (.ok .waiting) ∨ spot = .returned (.ok .complete) ∨ ∃ r, spot = .parting r

namespace Dialog

/-- A computation that goes by a law: its session has the property wherever the computation stops,
and what it hands over has one as well.  `Q` holds of its values, and those with which it stops once
it has handed the turn over are `final`. -/
inductive Abides (d : Dialog) (P : Session → Prop) (R : Request → Prop) {α : Type}
    (Q : α → Session → Prop) (final : α → Prop) :
    HostM (Except DialogError α × Session) → Prop where
  | done {o : Except DialogError α} {s : Session} (h : P s) (hQ : ∀ a, o = .ok a → Q a s) :
      Abides d P R Q final (.done (o, s))
  | plain {r : Request} {next : r.Answer → HostM (Except DialogError α × Session)}
      (hr : r.IsPlain) (h : ∀ a, Abides d P R Q final (next a)) : Abides d P R Q final (.ask r next)
  | begin {dialog : String} {options : LaunchOptions}
      {next : Except DialogError TurnStatus → HostM (Except DialogError α × Session)} {value : α}
      {s : Session} (hr : R (.begin dialog options)) (hstops : Stops next value s) (h : P s)
      (hfinal : final value) (hbegun : ∃ execute, d.HasBegun s execute) :
      Abides d P R Q final (.ask (.begin dialog options) next)
  | replace {dialog : String} {options : LaunchOptions}
      {next : Except DialogError TurnStatus → HostM (Except DialogError α × Session)} {value : α}
      {s : Session} (hr : R (.replace dialog options)) (hstops : Stops next value s) (h : P s)
      (hfinal : final value) : Abides d P R Q final (.ask (.replace dialog options) next)
  | finish {result : Option DialogResult}
      {next : Except DialogError TurnStatus → HostM (Except DialogError α × Session)} {value : α}
      {s : Session} (hr : R (.finish result)) (hstops : Stops next value s) (h : P s)
      (hfinal : final value) : Abides d P R Q final (.ask (.finish result) next)
  | abort : Abides d P R Q final .abort

namespace Abides

variable {d : Dialog} {P : Session → Prop} {R : Request → Prop} {α β : Type}
  {Q : α → Session → Prop} {final : α → Prop} {Q' : β → Session → Prop} {final' : β → Prop}
  {x : HostM (Except DialogError α × Session)}

/-- **One computation after the other.**  Once the first one has handed the turn over, the second
one has nothing to do. -/
theorem bind (hx : d.Abides P R Q final x)
    {f : Except DialogError α × Session → HostM (Except DialogError β × Session)}
    (hf : ∀ a s, P s → Q a s → d.Abides P R Q' final' (f (.ok a, s)))
    (herror : ∀ e s, f (.error e, s) = .done (.error e, s))
    (hfinal : ∀ a, final a → ∃ b, final' b ∧ ∀ s, f (.ok a, s) = .done (.ok b, s)) :
    d.Abides P R Q' final' (x.bind f) := by
  induction hx with
  | @done o s h hQ =>
    cases o with
    | ok a => exact hf a s h (hQ a rfl)
    | error e =>
      show d.Abides P R Q' final' (f (.error e, s))
      rw [herror]
      exact .done h fun b hb => by cases hb
  | plain hr _ ih => exact .plain hr ih
  | begin hr hstops h hv hbegun =>
    obtain ⟨b, hb, hok⟩ := hfinal _ hv
    exact .begin hr (hstops.bind f (hok _) fun e => herror e _) h hb hbegun
  | replace hr hstops h hv =>
    obtain ⟨b, hb, hok⟩ := hfinal _ hv
    exact .replace hr (hstops.bind f (hok _) fun e => herror e _) h hb
  | finish hr hstops h hv =>
    obtain ⟨b, hb, hok⟩ := hfinal _ hv
    exact .finish hr (hstops.bind f (hok _) fun e => herror e _) h hb
  | abort => exact .abort

theorem of_within (hx : x.Within Request.IsPlain fun y => P y.2 ∧ ∀ a, y.1 = .ok a → Q a y.2) :
    d.Abides P R Q final x := by
  induction x with
  | done value => exact .done hx.1 hx.2
  | ask r next ih => exact .plain hx.1 fun a => ih a (hx.2 a)
  | abort => exact .abort

theorem and_always (hx : d.Abides P R Q final x) {S : α → Session → Prop}
    (h : x.Always fun y => ∀ a, y.1 = .ok a → S a y.2) :
    d.Abides P R (fun a s => Q a s ∧ S a s) final x := by
  induction hx with
  | done hP hQ => exact .done hP fun a ha => ⟨hQ a ha, h a ha⟩
  | plain hr _ ih => exact .plain hr fun a => ih a (h a)
  | begin hr hstops hP hv hbegun => exact .begin hr hstops hP hv hbegun
  | replace hr hstops hP hv => exact .replace hr hstops hP hv
  | finish hr hstops hP hv => exact .finish hr hstops hP hv
  | abort => exact .abort

theorem always_of_stops {value : α} {s : Session}
    {next : Except DialogError TurnStatus → HostM (Except DialogError α × Session)}
    (hstops : Stops next value s) (h : P s) (hQ : Q value s) :
    ∀ answer, (next answer).Always fun y => P y.2 ∧ ∀ a, y.1 = .ok a → Q a y.2 := by
  rintro (e | status)
  · rw [hstops.error]
    exact ⟨h, fun a ha => by cases ha⟩
  · rw [hstops.ok]
    refine ⟨h, fun a ha => ?_⟩
    obtain rfl := Except.ok.inj ha
    exact hQ

/-- Where a computation stops that goes by a law. -/
theorem always (hx : d.Abides P R Q final x) (hfinal : ∀ a s, final a → Q a s) :
    x.Always fun y => P y.2 ∧ ∀ a, y.1 = .ok a → Q a y.2 := by
  induction hx with
  | done h hQ => exact ⟨h, hQ⟩
  | plain _ _ ih => exact ih
  | begin _ hstops h hv _ => exact always_of_stops hstops h (hfinal _ _ hv)
  | replace _ hstops h hv => exact always_of_stops hstops h (hfinal _ _ hv)
  | finish _ hstops h hv => exact always_of_stops hstops h (hfinal _ _ hv)
  | abort => trivial

theorem within_of_stops {value : α} {s : Session}
    {next : Except DialogError TurnStatus → HostM (Except DialogError α × Session)}
    (hstops : Stops next value s) (h : P s) :
    ∀ answer, (next answer).Within R fun y => P y.2 := by
  rintro (e | status)
  · rw [hstops.error]
    exact h
  · rw [hstops.ok]
    exact h

/-- What a computation that goes by a law asks for, and where it stops, whatever it is answered. -/
theorem within (hx : d.Abides P R Q final x) (hplain : ∀ r : Request, r.IsPlain → R r) :
    x.Within R fun y => P y.2 := by
  induction hx with
  | done h _ => exact h
  | plain hr _ ih => exact ⟨hplain _ hr, ih⟩
  | begin hr hstops h _ _ => exact ⟨hr, within_of_stops hstops h⟩
  | replace hr hstops h _ => exact ⟨hr, within_of_stops hstops h⟩
  | finish hr hstops h _ => exact ⟨hr, within_of_stops hstops h⟩
  | abort => trivial

end Abides

/-! ### Messages -/

/-- A computation that hands nothing over and keeps a property of the session, also if it fails. -/
def Stays (P : Session → Prop) {α : Type} (x : SessionM α) : Prop :=
  ∀ s, P s → (x.run.run s).Within Request.IsPlain fun y => P y.2

namespace Stays

variable {P : Session → Prop} {α β : Type} {x : SessionM α} {f : α → SessionM β}

theorem pure (a : α) : Stays P (Pure.pure a : SessionM α) := fun _ hs => hs

theorem throw (e : DialogError) : Stays P (throw e : SessionM α) := fun _ hs => hs

theorem bind (hx : Stays P x) (hf : ∀ a, Stays P (f a)) : Stays P (x >>= f) := by
  intro s hs
  refine HostM.Within.bind (hx s hs) ?_
  rintro ⟨o, s'⟩ hs'
  cases o with
  | ok a => exact hf a s' hs'
  | error e => exact hs'

theorem get_bind {f : Session → SessionM β} (hf : ∀ s, P s → Stays P (f s)) :
    Stays P (get >>= f) := fun s hs => hf s hs s hs

theorem set {s : Session} (h : P s) : Stays P (set s : SessionM PUnit) := fun _ _ => h

theorem tryCatch {handler : DialogError → SessionM α} (hx : Stays P x)
    (hhandler : ∀ e, Stays P (handler e)) : Stays P (tryCatch x handler) := by
  intro s hs
  refine HostM.Within.bind (hx s hs) ?_
  rintro ⟨o, s'⟩ hs'
  cases o with
  | ok a => exact hs'
  | error e => exact hhandler e s' hs'

theorem modify {g : Session → Session} (h : ∀ {s}, P s → P (g s)) :
    Stays P (modify g : SessionM PUnit) := fun _ hs => h hs

theorem active : Stays P (Attempt.active : SessionM (Option String)) :=
  fun _ hs => ⟨trivial, fun _ => hs⟩

theorem note (event : Event) : Stays P (Dialog.note event) := fun _ hs => ⟨trivial, fun _ => hs⟩

theorem send (message : OutgoingMessage) : Stays P (Attempt.send message : SessionM Unit) :=
  fun _ hs => ⟨trivial, fun _ => hs⟩

end Stays

section

variable {P : Session → Prop}
  (hP : ∀ {s s' : Session}, P s → s'.values = s.values → s'.options = s.options → P s')

include hP

theorem stays_compose (message : Message) : Stays P (compose message) := by
  refine .get_bind fun s hs => .bind (.set (hP hs rfl rfl)) fun _ => ?_
  split
  · exact .pure _
  · exact .throw _

theorem stays_emit (message : Message) : Stays P (emit message) := by
  refine .bind (stays_compose hP message) fun m => ?_
  induction m.parts with
  | nil => exact .pure _
  | cons part parts ih => exact .bind (.send part) fun _ => ih

theorem stays_prompt (d : Dialog) (message : Message) : Stays P (d.prompt message) := by
  refine .tryCatch ?_ fun e => ?_
  · exact .bind (stays_compose hP message) fun m => .bind (.send m) fun _ => .pure _
  · refine .get_bind fun s _ => .bind (.note _) fun _ => ?_
    cases d.options.promptFailure with
    | none => exact .pure _
    | some text => exact .bind (.tryCatch (.send _) fun e => .note _) fun _ => .pure _

end

/-! ### Strides -/

namespace Law

variable {d : Dialog} {P : Session → Prop} {R : Request → Prop}
  {Hears : Location → Option TurnInput → Prop} (h : d.Law P R Hears)

/-- A computation that leads to the next spot by a law. -/
def Leads (_ : d.Law P R Hears) (x : SessionM Spot) : Prop :=
  ∀ s, P s → d.Abides P R (Spot.Follows d P Hears) Spot.IsOver (x.run.run s)

include h

theorem leads_pure {spot : Spot} (hspot : ∀ s, P s → spot.Follows d P Hears s) :
    h.Leads (pure spot) := by
  refine fun s hs => .done hs fun a ha => ?_
  obtain rfl := Except.ok.inj ha
  exact hspot s hs

theorem leads_throw (e : DialogError) : h.Leads (throw e) :=
  fun _ hs => .done hs fun _ ha => by cases ha

theorem leads_bind {α : Type} {x : SessionM α} {f : α → SessionM Spot} (hx : Stays P x)
    (hf : ∀ a, h.Leads (f a)) : h.Leads (x >>= f) := by
  intro s hs
  have hstays : d.Abides P R (fun _ _ => True) (fun _ => False) (x.run.run s) :=
    .of_within ((hx s hs).mono fun y hy => ⟨hy, fun _ _ => trivial⟩)
  exact hstays.bind (fun a s' hs' _ => hf a s' hs') (fun _ _ => rfl) fun _ ha => ha.elim

theorem leads_ofFlow (budget : ℕ) (flow : Flow) : h.Leads (Spot.ofFlow budget flow) := by
  cases flow with
  | stop status => exact h.leads_pure fun _ _ => trivial
  | jump next => exact h.leads_pure fun _ _ => h.nothing next
  | advance => exact h.leads_bind (fun _ hs => hs) fun s => h.leads_pure fun _ _ => h.nothing _

theorem leads_ofSettled (budget : ℕ) (lines : List Line) (cursor : Location)
    (settled : Option Flow) : h.Leads (Spot.ofSettled budget lines cursor settled) := by
  cases settled with
  | some flow => exact h.leads_ofFlow budget flow
  | none => exact h.leads_pure fun _ _ => trivial

theorem leads_ofDispatched (budget : ℕ) (cursor : Location) (flow : Option Flow)
    (handled : Option (List Line)) :
    h.Leads (Spot.ofDispatched budget cursor flow handled) := by
  cases handled with
  | none => exact h.leads_ofFlow budget _
  | some lines => exact h.leads_ofSettled budget lines cursor flow

theorem leads_ofAction {budget : ℕ} {cursor : Location} {action : Option Action}
    (hbegin : ∀ execute, action = some (.beginDialog execute) →
      ∃ lines, d.script.thread? cursor.thread = some lines ∧
        BeginsAt lines cursor.index execute) :
    h.Leads (Spot.ofAction budget cursor action) := by
  cases action with
  | some action => exact h.leads_pure fun _ _ execute ha => hbegin execute (congrArg some ha)
  | none => exact h.leads_ofFlow budget .advance

theorem stays_dispatch (cursor : Location) {action : Action} (hending : action.ending? = none)
    (hexecute : ∀ execute, action ≠ .executeScript execute)
    (hbegin : ∀ execute, action ≠ .beginDialog execute) : Stays P (d.dispatch cursor action) := by
  refine .bind (.note _) fun _ => ?_
  cases action with
  | complete | stop | timeout => cases hending
  | next | repeatLine => exact .pure _
  | wait => exact .bind (.modify fun hs => h.congr hs rfl rfl) fun _ => .pure _
  | executeScript execute => exact absurd rfl (hexecute execute)
  | beginDialog execute => exact absurd rfl (hbegin execute)
  | thread name =>
    dsimp only
    split
    · exact .pure _
    · exact .bind (.note _) fun _ => .pure _

/-- Another dialog is begun, or takes the place of this one, and the run is over. -/
theorem abides_handover {budget : ℕ} {cursor : Location} {action : Action}
    {handled : Option (List Line)} {s : Session} (hs : P s) (hstands : s.Stands cursor)
    (hfollows : Spot.Follows d P Hears (.dispatching budget cursor action handled) s)
    (haction : ∃ execute, action = .executeScript execute ∨ action = .beginDialog execute) :
    d.Abides P R (Spot.Follows d P Hears) Spot.IsOver
      ((d.stride (.dispatching budget cursor action handled)).run.run s) := by
  have hover : Spot.IsOver (.returned (.ok .waiting)) := .inl rfl
  -- whatever comes of what is asked for, the run is over and leaves its session as it is
  obtain ⟨execute, rfl | rfl⟩ := haction
  · refine .plain (r := .note _) trivial fun _ => .replace (h.replace execute hs) ?_ hs hover
    cases handled <;> exact ⟨fun _ => rfl, fun _ => rfl⟩
  · refine .plain (r := .note _) trivial fun _ => .begin (h.begin execute hs) ?_ hs hover ?_
    · cases handled <;> exact ⟨fun _ => rfl, fun _ => rfl⟩
    · obtain ⟨lines, hlines, hbegins⟩ := hfollows execute rfl
      obtain ⟨rfl, hresume⟩ := hstands
      exact ⟨execute, hresume, lines, hlines, hbegins⟩

theorem abides_closing {s : Session} (hs : P s) :
    d.Abides P R (Spot.Follows d P Hears) Spot.IsOver ((d.stride .closing).run.run s) := by
  have hended : P s.ended := h.congr hs (by unfold Session.ended; split <;> rfl)
    (by unfold Session.ended; split <;> rfl)
  refine .plain (r := .active) trivial fun active => ?_
  cases active with
  | some active =>
    have hover : Spot.IsOver (.parting s.ended.result) := .inr (.inr ⟨_, rfl⟩)
    refine .plain (r := .note _) trivial fun _ => .finish (h.finish hended) ?_ hended hover
    exact ⟨fun _ => rfl, fun _ => rfl⟩
  | none =>
    -- the sessions have been removed in the meantime, and there is no result to be given
    exact .finish h.removed ⟨fun _ => rfl, fun _ => rfl⟩ hended (.inr (.inl rfl))

theorem abides_begin {s : Session}
    (hs : P { s with values := s.options.values }) :
    d.Abides P R (Spot.Follows d P Hears) Spot.IsOver
      ((d.stride (.starting .begin)).run.run s) := by
  have hbegun (seed : UInt32) :
      P { s with values := s.options.values, status := .running, rngState := seed } :=
    h.congr hs rfl rfl
  have harriving (seed : UInt32) : ∀ spot,
      Except.ok (Spot.arriving d.options.maxSteps ⟨s.thread, 0⟩ none) =
        (.ok spot : Except DialogError Spot) → spot.Follows d P Hears
          { s with values := s.options.values, status := .running, rngState := seed } := by
    intro spot hspot
    obtain rfl := Except.ok.inj hspot
    exact h.nothing _
  unfold stride
  cases d.options.seed with
  | some seed => exact .done (hbegun seed) (harriving seed)
  | none => exact .plain (r := .seed) trivial fun seed => .done (hbegun seed) (harriving seed)

theorem abides_resuming {input : Option TurnInput} {s : Session} (hs : P s)
    (hhears : Hears ⟨s.thread, s.resumePoint⟩ input) :
    d.Abides P R (Spot.Follows d P Hears) Spot.IsOver ((d.resuming input).run.run s) := by
  rw [run_resuming]
  split
  · refine .done (h.congr hs rfl rfl) fun spot hspot => ?_
    obtain rfl := Except.ok.inj hspot
    exact hhears
  · exact .abort

theorem leads_arriving (budget : ℕ) (cursor : Location) {input : Option TurnInput}
    (hhears : Hears cursor input) : h.Leads (d.stride (.arriving budget cursor input)) := by
  cases budget with
  | zero => exact h.leads_bind (fun _ hs => hs) fun _ => h.leads_throw _
  | succ budget =>
    refine h.leads_bind (.modify fun hs => h.congr hs rfl rfl) fun _ => ?_
    cases d.script.thread? cursor.thread with
    | none => exact h.leads_throw _
    | some lines =>
      dsimp only
      split <;> exact h.leads_pure fun _ _ => hhears

/-- An answer is captured, if there is one and it has a key. -/
theorem leads_settling (budget : ℕ) {lines : List Line} {p : Pass}
    (hlines : d.script.thread? p.cursor.thread = some lines) (hhears : Hears p.cursor p.input) :
    h.Leads (d.stride (.settling budget lines p)) := by
  rw [Dialog.stride]
  cases hanswer : p.answer with
  | none =>
    dsimp only
    exact h.leads_pure fun _ _ => trivial
  | some answer =>
    cases hcollect : collectBefore lines p.cursor.index with
    | none =>
      dsimp only
      exact h.leads_pure fun _ _ => trivial
    | some collect =>
      dsimp only
      cases hkey : collect.key with
      | none => exact h.leads_pure fun _ _ => hcollect
      | some key =>
        -- this is the one place where a variable changes in the course of a run
        have hcollector : d.collectorAt p.cursor = some collect := by
          rw [collectorAt, hlines, Option.bind_some, hcollect]
        exact h.leads_bind (.modify fun hs => h.capture hs hhears hanswer hcollector hkey) fun _ =>
          h.leads_pure fun _ _ => hcollect

theorem leads_performing (budget : ℕ) {cursor : Location} {line : Line}
    (hline : ∃ lines, d.script.thread? cursor.thread = some lines ∧
      lines[cursor.index]? = some line) :
    h.Leads (d.stride (.performing budget cursor line)) := by
  obtain ⟨lines, hlines, hline⟩ := hline
  cases line with
  | question message collect =>
    exact h.leads_bind (stays_prompt h.congr d message) fun flow => h.leads_ofFlow budget flow
  | message message action =>
    have haction : h.Leads (Spot.ofAction budget cursor action) :=
      h.leads_ofAction fun execute ha => ⟨lines, hlines, .message message (ha ▸ hline)⟩
    rw [Dialog.stride]
    split
    · exact h.leads_bind (stays_emit h.congr message) fun _ => haction
    · split
      · exact h.leads_bind (.note _) fun _ => haction
      · exact haction
  | action action =>
    exact h.leads_ofAction fun execute ha =>
      ⟨lines, hlines, .action (Option.some.inj ha ▸ hline)⟩
  | childDialog execute collect =>
    have haction : h.Leads (Spot.ofAction budget cursor (some (.beginDialog execute))) := by
      refine h.leads_ofAction fun execute' ha => ⟨lines, hlines, .child collect ?_⟩
      cases ha
      exact hline
    exact haction
  | next => exact h.leads_ofFlow budget .advance

theorem leads_checking (budget : ℕ) (lines : List Line) (cursor : Location) :
    h.Leads (d.stride (.checking budget lines cursor)) := by
  rw [Dialog.stride]
  refine h.leads_bind .active fun active => ?_
  split
  · exact h.leads_pure fun _ _ => trivial
  · split
    · exact h.leads_pure fun _ _ => trivial
    · exact h.leads_pure fun _ _ => trivial

/-- An action that concerns no other session, or one that ends the dialog. -/
theorem leads_dispatching (budget : ℕ) (cursor : Location) {action : Action}
    (handled : Option (List Line)) (hexecute : ∀ execute, action ≠ .executeScript execute)
    (hbegin : ∀ execute, action ≠ .beginDialog execute) :
    h.Leads (d.stride (.dispatching budget cursor action handled)) := by
  rw [Dialog.stride]
  split
  · refine h.leads_bind (.note _) fun _ => h.leads_bind (.modify fun hs => ?_) fun _ => ?_
    · exact h.congr hs rfl rfl
    · exact h.leads_pure fun _ _ => trivial
  case h_2 hending =>
    exact h.leads_bind (h.stays_dispatch cursor hending hexecute hbegin) fun flow =>
      h.leads_ofDispatched budget cursor flow handled

section

variable (hfree : d.CallbackFree)

include hfree

theorem leads_entering (budget : ℕ) (lines : List Line) {p : Pass}
    (hhears : Hears p.cursor p.input) : h.Leads (d.stride (.entering budget lines p)) := by
  rw [Dialog.stride, hfree.enter_eq, bind_assoc]
  refine h.leads_bind (.note _) fun _ => ?_
  rw [pure_bind, if_neg (not_not_intro rfl)]
  exact h.leads_pure fun _ _ => hhears

theorem leads_announcing (budget : ℕ) {lines : List Line} {p : Pass} (answer : Json)
    {collect : Collect} (key : String)
    (hcollect : collectBefore lines p.cursor.index = some collect) :
    h.Leads (d.stride (.announcing budget lines p answer collect key)) := by
  rw [Dialog.stride, hfree.announceChange_eq, pure_bind, if_neg (not_not_intro rfl)]
  exact h.leads_pure fun _ _ => hcollect

theorem leads_selecting (htidy : d.IsTidy) (budget : ℕ) {lines : List Line} {p : Pass}
    (answer : Json) {collect : Collect} (hlines : d.script.thread? p.cursor.thread = some lines)
    (hcollect : collectBefore lines p.cursor.index = some collect) :
    h.Leads (d.stride (.selecting budget lines p answer collect)) := by
  rw [Dialog.stride]
  cases hselect : collect.select answer with
  | none =>
    dsimp only
    exact h.leads_pure fun _ _ => trivial
  | some handler =>
    have hmem := mem_options_of_select hselect
    dsimp only
    rw [hfree.callback_eq_none_of_collectBefore hlines hcollect handler hmem]
    cases haction : handler.action with
    | none => exact h.leads_pure fun _ _ => trivial
    | some action =>
      refine h.leads_pure fun _ _ execute he => ⟨lines, hlines, ?_⟩
      have hnext := (htidy _ lines hlines).next_of_collectBefore hcollect
      exact .handler collect handler hnext hcollect hmem (he ▸ haction)

theorem leads_parting (result : DialogResult) : h.Leads (d.stride (.parting result)) := by
  rw [Dialog.stride, announceEnd, hfree.after, pure_bind]
  exact h.leads_pure fun _ _ => trivial

end

/-- **Every stride goes by the law.** -/
theorem stride (hfree : d.CallbackFree) (htidy : d.IsTidy) {spot : Spot} {s : Session} (hs : P s)
    (hplaced : spot.Placed d) (hstands : spot.StandsAt s) (hfollows : spot.Follows d P Hears s) :
    d.Abides P R (Spot.Follows d P Hears) Spot.IsOver ((d.stride spot).run.run s) := by
  cases spot with
  | starting task =>
    cases task with
    | begin => exact h.abides_begin hfollows
    | resume input => exact h.abides_resuming hs hfollows
    | continueWith activity =>
      rw [Dialog.stride]
      split
      · exact h.abides_resuming hs hfollows
      · exact .done hs fun spot hspot => Except.ok.inj hspot ▸ trivial
  | arriving budget cursor input => exact h.leads_arriving budget cursor hfollows s hs
  | entering budget lines p => exact h.leads_entering hfree budget lines hfollows s hs
  | settling budget lines p => exact h.leads_settling budget hplaced.2 hfollows s hs
  | announcing budget lines p answer collect key =>
    exact h.leads_announcing hfree budget answer key hfollows s hs
  | selecting budget lines p answer collect =>
    exact h.leads_selecting hfree htidy budget answer hplaced.2 hfollows s hs
  | handling => exact hfollows.elim
  | checking budget lines cursor => exact h.leads_checking budget lines cursor s hs
  | performing budget cursor line => exact h.leads_performing budget hplaced.2 s hs
  | dispatching budget cursor action handled =>
    by_cases haction : ∃ execute, action = .executeScript execute ∨ action = .beginDialog execute
    · exact h.abides_handover hs hstands hfollows haction
    · exact h.leads_dispatching budget cursor handled (fun execute he => haction ⟨execute, .inl he⟩)
        (fun execute he => haction ⟨execute, .inr he⟩) s hs
  | closing => exact h.abides_closing hs
  | parting result => exact h.leads_parting hfree result s hs
  | returned outcome => exact .done hs fun spot hspot => Except.ok.inj hspot ▸ trivial

/-! ### Runs -/

omit h in
theorem rest_of_isOver (hfree : d.CallbackFree) {spot : Spot} (hover : spot.IsOver) :
    ∃ status, ∀ s, (d.rest spot).run.run s = .done (.ok status, s) := by
  obtain rfl | rfl | ⟨result, rfl⟩ := hover
  · exact ⟨.waiting, fun _ => rfl⟩
  · exact ⟨.complete, fun _ => rfl⟩
  · refine ⟨.complete, fun _ => ?_⟩
    rw [Dialog.rest, announceEnd, hfree.after]
    rfl

/-- **All that is left of a run goes by the law.** -/
theorem rest (hfree : d.CallbackFree) (htidy : d.IsTidy) {spot : Spot} {s : Session} (hs : P s)
    (hplaced : spot.Placed d) (hstands : spot.StandsAt s) (hfollows : spot.Follows d P Hears s) :
    d.Abides P R (fun _ _ => True) (fun _ => True) ((d.rest spot).run.run s) := by
  -- the run gets closer to its end with every stride
  induction hsize : spot.size d using Nat.strongRecOn generalizing spot s with
  | _ size ih =>
    by_cases hreturned : ∃ outcome, spot = .returned outcome
    · obtain ⟨outcome, rfl⟩ := hreturned
      cases outcome <;> exact .done hs fun _ _ => trivial
    · have hspot : ∀ outcome, spot ≠ .returned outcome := fun o ho => hreturned ⟨o, ho⟩
      rw [d.rest_eq]
      have hnext : ((d.stride spot).run.run s).Always fun y =>
          ∀ next, y.1 = .ok next → Spot.Next d spot next := d.brings_next hspot s trivial
      have hstride := ((h.stride hfree htidy hs hplaced hstands hfollows).and_always
        (d.meets_standsAt spot s hstands)).and_always (S := fun next _ => Spot.Next d spot next)
          hnext
      refine hstride.bind (fun next s' hs' hnext => ?_) (fun _ _ => rfl) fun next hover => ?_
      · obtain ⟨⟨hfollows', hstands'⟩, hstep⟩ := hnext
        exact ih _ (hsize ▸ hstep.size_lt) hs' (hstep.placed hplaced) hstands' hfollows' rfl
      · obtain ⟨status, hstatus⟩ := rest_of_isOver hfree hover
        exact ⟨status, trivial, hstatus⟩

/-- **A task of a session goes by the law**, if it begins on a fresh session only. -/
theorem of_task (hfree : d.CallbackFree) (htidy : d.IsTidy) {task : Task} {s : Session} (hs : P s)
    (hfresh : task = .begin → s.resumeIndex = none)
    (hfollows : Spot.Follows d P Hears (.starting task) s) :
    d.Abides P R (fun _ _ => True) (fun _ => True) ((task.on d).run.run s) := by
  have hplaced : Spot.Placed d (.starting task) := trivial
  have hstands : Spot.StandsAt (.starting task) s := by
    cases task with
    | begin => exact hfresh rfl
    | resume | continueWith => trivial
  exact h.rest hfree htidy hs hplaced hstands hfollows

/-- **In the whole course of a run** its session has the property. -/
theorem of_leads (hfree : d.CallbackFree) (htidy : d.IsTidy) {η : Type}
    {host : (r : Request) → η → Option (r.Answer × η)} {t t' : Stage η} (hs : P t.session)
    (hplace : d.InPlace t) (hfollows : t.spot.Follows d P Hears t.session)
    (hlead : Stepping.Leads (d.next? host) t t') : P t'.session := by
  let I (t : Stage η) : Prop :=
    P t.session ∧ d.InPlace t ∧ t.spot.Follows d P Hears t.session
  suffices hI : I t' from hI.1
  refine hlead.invariant (I := I) ⟨hs, hplace, hfollows⟩ fun t t' ⟨hs, hplace, hfollows⟩ hnext => ?_
  -- the next stage is what the host has made of a stride
  obtain ⟨o, hrun, hreached⟩ := exists_runWith_of_next? hnext
  have hstride := h.stride hfree htidy hs hplace.placed hplace.standsAt hfollows
  have hover : ∀ spot s, spot.IsOver → Spot.Follows d P Hears spot s := by
    rintro _ s (rfl | rfl | ⟨result, rfl⟩) <;> trivial
  obtain ⟨hs', hfollows'⟩ := (hstride.always hover).run hrun
  refine ⟨hs', hplace.next hnext, ?_⟩
  cases o with
  | ok spot =>
    rw [hreached]
    exact hfollows' spot rfl
  | error e =>
    rw [hreached]
    trivial

end Law

/-- Of a script it is known at least where it begins other dialogs. -/
theorem CallbackFree.abides_starting {d : Dialog} (hfree : d.CallbackFree) (htidy : d.IsTidy)
    {task : Task} {s : Session} (hfresh : task = .begin → s.resumeIndex = none) :
    d.Abides (fun _ => True) (fun _ => True) (fun _ _ => True) (fun _ => True)
      ((task.on d).run.run s) := by
  have hlaw : d.Law (fun _ => True) (fun _ => True) (fun _ _ => True) := by
    constructor <;> intros <;> trivial
  have hfollows : Spot.Follows d (fun _ => True) (fun _ _ => True) (.starting task) s := by
    cases task <;> trivial
  exact hlaw.of_task hfree htidy trivial hfresh hfollows

end Dialog

end Parley
