import Parley.Proofs.Course.OnStack
import Parley.Proofs.Course.Place

/-!
# Runs in a turn

A turn goes from moment to moment, a run in it from stage to stage.  Wherever the engine is about to
run a session, the first stage of a run is at hand (`Stack.exists_runBegins`): either the session is
a fresh one and the dialog begins, or the session goes on.  When the stages have come to an end, the
engine has come to where the run is over (`Stack.RunBegins.leads_done`).
-/

namespace Parley

open Stepping StatefulAttempt

namespace Stack

/-- The run of a session begins at a moment: the session, its dialog, and the first stage. -/
structure RunBegins (m : Moment) (f : Frame) (d : Dialog) (begun : Stage Stack) : Prop where
  top : m.stack.top? = some f
  find : m.stack.dialogs.find f.dialog = .ok d
  starts : ∃ task : Task, m.phase = .entering f.id task.on ∧
    (task = .begin → ∃ options, f.session = .launch options) ∧
    begun = ⟨.starting task, f.session, m.stack.enter f.id⟩

end Stack

namespace Moment

/-- A session that is about to run does one of its tasks, and begins only if it is a fresh one. -/
def Opened (m : Moment) : Prop :=
  ∀ id task, m.phase = .entering id task →
    ∃ t : Task, task = t.on ∧
      (t = .begin → ∃ f options, m.stack.top? = some f ∧ f.session = .launch options)

theorem opened_of_forall_ne {m : Moment} (h : ∀ id task, m.phase ≠ .entering id task) : m.Opened :=
  fun id task hphase => absurd hphase (h id task)

theorem opened_beginning (st : Stack) (dialog : String) (options : LaunchOptions)
    (K : List Suspended) :
    Opened ⟨(st.beginning dialog options).1, (st.beginning dialog options).2, K⟩ := by
  unfold Stack.beginning
  cases st.dialogs.find dialog with
  | error e => exact opened_of_forall_ne fun _ _ h => by cases h
  | ok d =>
    rintro id task ⟨⟩
    exact ⟨.begin, rfl, fun _ => ⟨_, options, Stack.top?_push _ dialog options, rfl⟩⟩

theorem opened_replacing (st : Stack) (dialog : String) (options : LaunchOptions)
    (K : List Suspended) :
    Opened ⟨(st.replacing dialog options).1, (st.replacing dialog options).2, K⟩ := by
  unfold Stack.replacing
  cases st.dialogs.find dialog with
  | error e => exact opened_of_forall_ne fun _ _ h => by cases h
  | ok d =>
    cases st.frames with
    | nil => exact opened_beginning st dialog options K
    | cons frame rest => exact opened_beginning _ dialog options K

theorem opened_finishing (st : Stack) (result : Option DialogResult) (K : List Suspended) :
    Opened ⟨(st.finishing result).1, (st.finishing result).2, K⟩ := by
  unfold Stack.finishing
  cases st.frames with
  | nil => exact opened_of_forall_ne fun _ _ h => by cases h
  | cons frame rest =>
    cases rest with
    | nil => exact opened_of_forall_ne fun _ _ h => by cases h
    | cons parent rest =>
      by_cases hp : parent.id ∈ st.executing
      · simp only [hp, if_true]
        exact opened_of_forall_ne fun _ _ h => by cases h
      · simp only [hp, if_false]
        rintro id task ⟨⟩
        exact ⟨.resume (result.map .result), rfl, fun h => by cases h⟩

/-- **From one moment to the next**, sessions are only run for one of their tasks. -/
theorem opened_next {m m' : Moment} (hm : m.next? = some m') : m'.Opened := by
  cases step_of_next? hm with
  | missing | unregistered | enter | stop | discard | answer =>
    exact opened_of_forall_ne fun _ _ h => by cases h
  | finish id taken o session =>
    refine opened_of_forall_ne fun _ _ h => ?_
    cases o <;> cases h
  | resume =>
    rintro id task ⟨⟩
    exact ⟨.resume _, rfl, fun h => by cases h⟩
  | @ask st K id taken r next =>
    cases r with
    | send | active | note | seed | cancelAll => exact opened_of_forall_ne fun _ _ h => by cases h
    | begin dialog options => exact opened_beginning st dialog options _
    | replace dialog options => exact opened_replacing st dialog options _
    | finish result => exact opened_finishing st result _

theorem opened_opening {c : Stack.Call} {st : Stack} {m : Moment} (h : c.opening? st = some m) :
    m.Opened := by
  cases c with
  | start dialog options | begin dialog options =>
    obtain rfl := Option.some.inj h
    exact opened_beginning st dialog options []
  | replace dialog options =>
    obtain rfl := Option.some.inj h
    exact opened_replacing st dialog options []
  | finish result =>
    obtain rfl := Option.some.inj h
    exact opened_finishing st result []
  | continueTurn activity =>
    obtain ⟨frame, -, rfl⟩ := Option.map_eq_some_iff.1 h
    rintro id task ⟨⟩
    exact ⟨.continueWith activity, rfl, fun h => by cases h⟩
  | cancelAll | send => cases h

end Moment

namespace Stack

/-- **Wherever a session is about to run, a run of its dialog begins.** -/
theorem exists_runBegins {st : Stack} (h : st.Reachable) {c : Call} {m : Moment}
    (hm : Occurs c st m) {id : ℕ} {task : Dialog → SessionM TurnStatus}
    (hphase : m.phase = .entering id task) :
    ∃ f d begun, RunBegins m f d begun ∧ f.id = id := by
  have hsound := h.quiescent.sound hm
  have hentering := hsound.phase
  rw [Moment.PhaseSound, hphase] at hentering
  obtain ⟨-, f, htop, rfl⟩ := hentering
  obtain ⟨d, hd⟩ := hsound.orderly.registered f (mem_frames_of_top? htop)
  have hopened : m.Opened := by
    obtain ⟨m₀, hm₀, hlead⟩ := hm
    exact hlead.invariant (I := Moment.Opened) (Moment.opened_opening hm₀) fun _ _ _ =>
      Moment.opened_next
  obtain ⟨t, rfl, hfresh⟩ := hopened f.id task hphase
  refine ⟨f, d, ⟨.starting t, f.session, m.stack.enter f.id⟩, ⟨htop, hd, t, hphase, ?_, rfl⟩, rfl⟩
  intro ht
  obtain ⟨g, options, hg, hsession⟩ := hfresh ht
  obtain rfl := Option.some.inj (htop.symm.trans hg)
  exact ⟨options, hsession⟩

/-- A run begins where its session stands. -/
theorem RunBegins.inPlace {m : Moment} {f : Frame} {d : Dialog} {begun : Stage Stack}
    (h : RunBegins m f d begun) : d.InPlace begun := by
  obtain ⟨task, -, hfresh, rfl⟩ := h.starts
  refine ⟨trivial, ?_⟩
  cases task with
  | begin =>
    obtain ⟨options, hsession⟩ := hfresh rfl
    show f.session.resumeIndex = none
    rw [hsession]
    rfl
  | resume | continueWith => trivial

theorem RunBegins.dialog_eq {st : Stack} (h : st.Reachable) {c : Call} {m : Moment}
    (hm : Occurs c st m) {f : Frame} {d : Dialog} {begun t : Stage Stack}
    (hbegun : RunBegins m f d begun) {rounds : ℕ} (hlead : Leads (d.next? (answer rounds)) begun t)
    {g : Frame} (hg : g ∈ t.host.frames) (hid : g.id = f.id) : g.dialog = f.dialog := by
  obtain ⟨task, -, -, rfl⟩ := hbegun.starts
  have horderly : m.stack.Orderly := (h.quiescent.sound hm).orderly
  have hmem : f ∈ m.stack.frames := mem_frames_of_top? hbegun.top
  have hlater : (m.stack.enter f.id).Later t.host :=
    hlead.invariant (I := fun x => (m.stack.enter f.id).Later x.host) (.refl _)
      fun _ _ hx hnext => hx.trans (Dialog.later_of_next? hnext)
  -- it is a session from before, which has the number alone, or its number was still to come
  rcases hlater.frames g hg with ⟨f', hf', hid', hdialog⟩ | hfresh
  · obtain rfl := horderly.eq_of_id_eq hf' hmem (hid'.trans hid)
    exact hdialog.symm
  · have hlt := horderly.fresh f hmem
    have hfresh : m.stack.nextFrame ≤ g.id := hfresh
    omega

/-- A call returns once no run waits in it any more. -/
theorem Occurs.returns {st : Stack} {c : Call} {m : Moment} (hm : Occurs c st m)
    {o : Except DialogError TurnStatus} {st' : Stack}
    (hlead : m.Leads (Moment.arrived [] (o, st'))) : Returns c st (c.told o st') st' := by
  obtain ⟨m₀, hm₀, hlead₀⟩ := hm
  exact (returns_iff_ends hm₀).2 ⟨o, ⟨hlead₀.trans hlead, rfl⟩, rfl⟩

theorem told_of_status_eq {st : Stack} {status : TurnStatus} (h : st.status = status) (c : Call) :
    c.told (.ok status) st = .ok (some status) := by
  cases c with
  | start | continueTurn => exact congrArg (Except.ok ∘ some) h
  | begin | replace | finish | cancelAll | send => rfl

/-- **When the stages of a run have come to an end**, the engine has come to where the run is
over. -/
theorem RunBegins.leads_done {m : Moment} {f : Frame} {d : Dialog} {begun : Stage Stack}
    (h : RunBegins m f d begun) {rounds : ℕ}
    {x : (Except DialogError TurnStatus × Session) × Stack}
    (hends : Ends (d.next? (answer rounds)) begun (Stage.final x)) :
    m.Leads ⟨x.2, .running f.id f.session (.done x.1), m.suspended⟩ := by
  obtain ⟨task, hphase, -, rfl⟩ := h.starts
  obtain ⟨stack, phase, K⟩ := m
  obtain rfl : phase = .entering f.id task.on := hphase
  have hrun : HostM.run (answer rounds) ((task.on d).run.run f.session) (stack.enter f.id) =
      some x :=
    (Dialog.runWith_rest_iff_ends ⟨.starting task, f.session, stack.enter f.id⟩).2 hends
  have hworked : Moment.Leads
      ⟨stack.enter f.id, .running f.id f.session ((task.on d).run.run f.session), K⟩
      ⟨x.2, .running f.id f.session (.done x.1), K⟩ :=
    (Moment.tracks_body (Moment.answersTrack rounds) _ _).leads hrun
  exact .head (Moment.next?_entering (frame?_of_top? h.top) h.find) hworked

/-- If a run has ended well, its session has stopped then and is written back. -/
theorem RunBegins.leads {m : Moment} {f : Frame} {d : Dialog} {begun t : Stage Stack}
    (h : RunBegins m f d begun) {rounds : ℕ} (hends : Ends (d.next? (answer rounds)) begun t)
    {status : TurnStatus} (hreturned : t.spot = .returned (.ok status)) :
    m.Leads ⟨t.host.leave.store f.id t.session, .stopped f.id status, m.suspended⟩ := by
  obtain ⟨spot, s, st⟩ := t
  obtain rfl : spot = .returned (.ok status) := hreturned
  have hfinal : Ends (d.next? (answer rounds)) begun (Stage.final ((.ok status, s), st)) := hends
  exact (h.leads_done hfinal).tail rfl

theorem RunBegins.returns_of_ok {st : Stack} {c : Call} {m : Moment} (hm : Occurs c st m)
    {f : Frame} {d : Dialog} {begun t : Stage Stack} (h : RunBegins m f d begun) {rounds : ℕ}
    (hends : Ends (d.next? (answer rounds)) begun t) {status : TurnStatus}
    (hreturned : t.spot = .returned (.ok status)) (hlast : m.suspended = [])
    (hpending : t.host.pending = []) :
    Returns c st (c.told (.ok status) (t.host.leave.store f.id t.session))
      (t.host.leave.store f.id t.session) := by
  have hlookup : (t.host.leave.store f.id t.session).pending.lookup f.id = none := by
    show t.host.pending.lookup f.id = none
    rw [hpending, List.lookup_nil]
  have hstopped := h.leads hends hreturned
  rw [hlast] at hstopped
  exact hm.returns (hstopped.tail (Moment.next?_stopped_of_lookup_eq_none hlookup))

theorem RunBegins.returns_of_error {st : Stack} {c : Call} {m : Moment} (hm : Occurs c st m)
    {f : Frame} {d : Dialog} {begun t : Stage Stack} (h : RunBegins m f d begun) {rounds : ℕ}
    (hends : Ends (d.next? (answer rounds)) begun t) {e : DialogError}
    (hreturned : t.spot = .returned (.error e)) (hlast : m.suspended = []) :
    Returns c st (.error e) ((t.host.leave.store f.id t.session).undefer f.id) := by
  obtain ⟨spot, s, w⟩ := t
  obtain rfl : spot = .returned (.error e) := hreturned
  have hfinal : Ends (d.next? (answer rounds)) begun (Stage.final ((.error e, s), w)) := hends
  have hdone := h.leads_done hfinal
  rw [hlast] at hdone
  have htold : c.told (.error e) ((w.leave.store f.id s).undefer f.id) = .error e := by
    cases c <;> rfl
  exact htold ▸ hm.returns (hdone.tail rfl)

end Stack

end Parley
