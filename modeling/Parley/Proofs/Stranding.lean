import Parley.Dialog.Builder
import Parley.Proofs.Hosted
import Parley.Proofs.Quiescence

/-!
# Dialogs that cannot be started

A dialog cannot be started if it is not registered, or if the thread that it is to start on is not
in its script.  The first is found out before anything is done, so the stack stays as it was.  The
second is found out by the run of the new session, and by then that session is on the stack and, if
it takes the place of another one, that other one is gone.

Nothing takes the new session off again.  It stays on top, on a thread that does not exist
(`Stack.Stranded`); every message makes it run and fail once more, one line further on, and what is
below it does not come to its turn (`Stack.Stranded.continued`, by induction on what comes in).

* `Stack.frames_kept_iff` : what is left of the stack, for every way to launch a dialog that cannot
  be started; the frames are kept exactly if the dialog is not registered.
-/

namespace Parley

open StatefulAttempt

/-- The thread on which a dialog is to start. -/
def LaunchOptions.startThread (o : LaunchOptions) : String := o.thread.getD defaultThread

namespace Dialog

variable {d : Dialog} {η : Type} {host : (r : Request) → η → Option (r.Answer × η)} {s : Session}
  {w : η}

/-! ### Runs on a thread that does not exist -/

/-- How a run fails that is to go on at a place that does not exist. -/
def lost (d : Dialog) (s : Session) (cursor : Location) : DialogError :=
  if d.options.maxSteps = 0 then .stepGuard d.id 0 s.location else .threadNotFound d.id cursor

/-- The session that such a run leaves. -/
def strayed (d : Dialog) (s : Session) (cursor : Location) : Session :=
  { s with stepIndex := if d.options.maxSteps = 0 then s.stepIndex else cursor.index }

theorem runWith_run_of_thread?_eq_none {cursor : Location}
    (h : d.script.thread? cursor.thread = none) (hs : s.thread = cursor.thread)
    (input : Option TurnInput) :
    runWith host (d.run d.options.maxSteps cursor input) s w =
      some ((.error (d.lost s cursor), d.strayed s cursor), w) := by
  unfold lost strayed
  -- the limit on the steps is looked at before the thread is
  cases hsteps : d.options.maxSteps with
  | zero =>
    have hrun : runWith host (d.run 0 cursor input) s w =
        some ((.error (.stepGuard d.id d.options.maxSteps s.location), s), w) := rfl
    rw [hrun, hsteps, if_pos rfl, if_pos rfl]
  | succ budget =>
    rw [run_succ, runWith_bind_of_ok rfl, if_neg (Nat.succ_ne_zero budget),
      if_neg (Nat.succ_ne_zero budget)]
    simp only [h]
    rw [← hs]
    rfl

/-- The session is on a thread that the dialog does not have, and has got no further than
`reached`. -/
structure Astray (d : Dialog) (reached : ℕ) (s : Session) : Prop where
  thread : d.script.thread? s.thread = none
  resumeIndex : s.resumeIndex = none
  stepIndex : s.stepIndex ≤ reached

/-- What comes in makes a session on such a thread fail, if it is a message, and brings it at most
one line further; on the last line that has a number, a message aborts the run. -/
theorem Astray.runWith_continueWith {reached : ℕ} (h : d.Astray reached s) (activity : Activity) :
    (∃ o s', d.Astray (reached + 1) s' ∧ (activity.isMessage = true → ∃ e, o = .error e) ∧
      ∀ {η : Type} (host : (r : Request) → η → Option (r.Answer × η)) (w : η),
        runWith host (d.continueWith activity) s w = some ((o, s'), w)) ∨
    Session.indexBound ≤ reached + 1 ∧
      ∀ {η : Type} (host : (r : Request) → η → Option (r.Answer × η)) (w : η),
        runWith host (d.continueWith activity) s w = none := by
  have hreached := h.stepIndex
  unfold continueWith
  by_cases hmessage : activity.isMessage = true
  · simp only [hmessage, if_true]
    by_cases hs : s.HasNext
    · let resumed : Session := { s with resumeIndex := none }
      have hpoint : s.resumePoint = s.stepIndex + 1 := by
        rw [Session.resumePoint, h.resumeIndex, Option.getD_none]
      refine .inl ⟨.error (d.lost resumed ⟨s.thread, s.resumePoint⟩),
        d.strayed resumed ⟨s.thread, s.resumePoint⟩, ⟨h.thread, rfl, ?_⟩, fun _ => ⟨_, rfl⟩,
        fun host w => ?_⟩
      · show (if d.options.maxSteps = 0 then s.stepIndex else s.resumePoint) ≤ reached + 1
        rw [hpoint]
        split <;> omega
      · rw [runWith, run_resume, if_pos hs]
        exact runWith_run_of_thread?_eq_none h.thread rfl _
    · have hend := Nat.le_of_not_lt hs
      refine .inr ⟨by omega, fun host w => ?_⟩
      rw [runWith, run_resume, if_neg hs]
      rfl
  · simp only [hmessage]
    exact .inl ⟨.ok .waiting, s, ⟨h.thread, h.resumeIndex, by omega⟩, nofun, fun host w => rfl⟩

end Dialog

namespace Stack

variable {st : Stack} {dialog : String} {options : LaunchOptions} {d : Dialog}

/-- The session of a dialog that was launched, once it has begun to run. -/
def begun (d : Dialog) (options : LaunchOptions) (st : Stack) : Session :=
  { Session.launch options with rngState := d.options.seed.getD (st.clock st.ticks) }

theorem runWith_begin_of_thread?_eq_none (h : d.script.thread? options.startThread = none)
    (rounds : ℕ) (st : Stack) :
    runWith (answer rounds) d.begin (.launch options) st =
      some ((.error (d.lost (begun d options st) ⟨options.startThread, 0⟩), begun d options st),
        { st with ticks := st.ticks + if d.options.seed.isNone then 1 else 0 }) := by
  -- what comes once the seed is known, whether it is given or drawn from the clock
  have hrest (seed : UInt32) (st : Stack) : runWith (answer rounds) (do
      modify fun s => { s with rngState := seed }
      d.run d.options.maxSteps ⟨(← get).thread, 0⟩ none) (Session.launch options) st =
      some ((.error (d.lost { Session.launch options with rngState := seed }
        ⟨options.startThread, 0⟩), { Session.launch options with rngState := seed }), st) := by
    rw [runWith_bind_of_ok rfl, runWith_bind_of_ok rfl]
    refine (Dialog.runWith_run_of_thread?_eq_none h rfl none).trans ?_
    rw [Dialog.strayed, show Session.stepIndex _ = 0 from rfl, ite_self]
    rfl
  unfold Dialog.begin
  rw [runWith_bind_of_ok rfl]
  cases hseed : d.options.seed with
  | some seed =>
    refine (hrest seed st).trans ?_
    rw [begun, hseed]
    rfl
  | none =>
    have hanswer (s : Session) : runWith (answer rounds) (Attempt.seed : SessionM _) s st =
        some ((.ok (st.clock st.ticks), s), { st with ticks := st.ticks + 1 }) := by
      cases rounds <;> rfl
    refine (runWith_bind_of_ok (hanswer _) _).trans ((hrest _ _).trans ?_)
    rw [begun, hseed]
    rfl

/-! ### Launching -/

/-- A dialog cannot be started with options: it is not registered, or the thread that it is to start
on is not in its script. -/
def CannotStart (dialogs : DialogSet) (dialog : String) (options : LaunchOptions) : Prop :=
  ∀ d, dialogs.find dialog = .ok d → d.script.thread? options.startThread = none

/-- The ways to launch a dialog. -/
inductive Launch where
  | start
  | begin
  | replace

namespace Launch

def call (launch : Launch) (dialog : String) (options : LaunchOptions) : Call :=
  match launch with
  | start => .start dialog options
  | begin => .begin dialog options
  | replace => .replace dialog options

/-- The sessions that stay below the one that is launched. -/
def below (launch : Launch) (frames : List Frame) : List Frame :=
  match launch with
  | start | begin => frames
  | replace => frames.tail

end Launch

/-- A call that comes to the same in any number of rounds returns with that and nothing else. -/
theorem returns_iff_of_call_eq {c : Call} {o outcome : Except DialogError (Option TurnStatus)}
    {left st' : Stack} (h : ∀ rounds, st.call rounds c = some (o, left)) :
    Returns c st outcome st' ↔ outcome = o ∧ st' = left := by
  constructor
  · rintro ⟨rounds, hcall⟩
    rw [h] at hcall
    obtain ⟨rfl, rfl⟩ := Prod.mk.inj (Option.some.inj hcall)
    exact ⟨rfl, rfl⟩
  · rintro ⟨rfl, rfl⟩
    exact ⟨0, h 0⟩

/-- A dialog that is not registered is not launched, and nothing is changed. -/
theorem call_of_find_eq_error {e : DialogError} (hd : st.dialogs.find dialog = .error e)
    (launch : Launch) (options : LaunchOptions) (rounds : ℕ) :
    st.call rounds (launch.call dialog options) = some (.error e, st) := by
  cases launch <;> simp only [Launch.call, call, start, beginOn, replaceOn, settled, hd] <;> rfl

/-- The session that was launched has been left on top. -/
structure Strands (dialog : String) (options : LaunchOptions) (d : Dialog) (below : List Frame)
    (st left : Stack) : Prop where
  frames : left.frames = ⟨st.nextFrame, dialog, begun d options st⟩ :: below
  dialogs : left.dialogs = st.dialogs
  outbox : left.outbox = st.outbox
  results : left.results = st.results

theorem frames_store_of_fresh {id : ℕ} (hfresh : ∀ f ∈ st.frames, f.id < id) (session : Session) :
    (st.store id session).frames = st.frames := by
  refine (List.map_congr_left fun f hf => ?_).trans (List.map_id _)
  exact if_neg (Nat.ne_of_lt (hfresh f hf))

/-- A session that cannot begin to run is put on top and stays there. -/
theorem exists_beginOn_eq_error (hfresh : ∀ f ∈ st.frames, f.id < st.nextFrame)
    (hd : st.dialogs.find dialog = .ok d) (h : d.script.thread? options.startThread = none) :
    ∃ left, Strands dialog options d st.frames st left ∧ ∀ rounds,
      beginOn (answer rounds) rounds dialog options st =
        some (.error (d.lost (begun d options st) ⟨options.startThread, 0⟩), left) := by
  let pushed := (st.note (.beginningDialog dialog st.nextFrame st.depth)).push dialog options
  let ran : Stack := { pushed.enter st.nextFrame with
    ticks := st.ticks + if d.options.seed.isNone then 1 else 0 }
  -- the failed run is written back like any other, and nothing takes its frame off
  let left := (ran.leave.store st.nextFrame (begun d options st)).undefer st.nextFrame
  have hrun (rounds : ℕ) : HostM.run (answer rounds)
      (d.begin.run.run (Session.launch options)) (pushed.enter st.nextFrame) =
        some ((.error (d.lost (begun d options st) ⟨options.startThread, 0⟩), begun d options st),
          ran) := runWith_begin_of_thread?_eq_none h rounds _
  refine ⟨left, ⟨?_, rfl, rfl, rfl⟩, fun rounds => ?_⟩
  · refine congrArg₂ List.cons ?_ (frames_store_of_fresh hfresh _)
    exact if_pos rfl
  · have hframe : pushed.frame? st.nextFrame = some ⟨st.nextFrame, dialog, .launch options⟩ :=
      frame?_of_top? (f := ⟨st.nextFrame, dialog, .launch options⟩) rfl
    have hfind : pushed.dialogs.find dialog = .ok d := hd
    have hframeRun : runFrame (answer rounds) st.nextFrame Dialog.begin pushed =
        some (.error (d.lost (begun d options st) ⟨options.startThread, 0⟩), left) := by
      simp only [runFrame, hframe, hfind, hrun]
      rfl
    have htop : pushed.top? = some ⟨st.nextFrame, dialog, .launch options⟩ := rfl
    simp only [beginOn, hd]
    show runTop (answer rounds) rounds Dialog.begin pushed = _
    simp only [runTop, htop, hframeRun]

/-- A session that cannot begin to run is launched, and what it was launched in place of is gone. -/
theorem exists_call_eq_error (h : st.Orderly) (launch : Launch)
    (hd : st.dialogs.find dialog = .ok d) (hthread : d.script.thread? options.startThread = none) :
    ∃ left, Strands dialog options d (launch.below st.frames) st left ∧ ∀ rounds,
      st.call rounds (launch.call dialog options) =
        some (.error (d.lost (begun d options st) ⟨options.startThread, 0⟩), left) := by
  cases launch with
  | start =>
    obtain ⟨left, hleft, hbegin⟩ := exists_beginOn_eq_error h.fresh hd hthread
    refine ⟨left, hleft, fun rounds => ?_⟩
    simp only [Launch.call, call, start, hbegin, settled]
    rfl
  | begin =>
    obtain ⟨left, hleft, hbegin⟩ := exists_beginOn_eq_error h.fresh hd hthread
    refine ⟨left, hleft, fun rounds => ?_⟩
    simp only [Launch.call, call, hbegin]
    rfl
  | replace =>
    cases hframes : st.frames with
    | nil =>
      obtain ⟨left, hleft, hbegin⟩ := exists_beginOn_eq_error h.fresh hd hthread
      rw [hframes] at hleft
      refine ⟨left, hleft, fun rounds => ?_⟩
      simp only [Launch.call, call, replaceOn, hd, hframes, hbegin]
      rfl
    | cons frame rest =>
      have hfresh : ∀ f ∈ (note { st with frames := rest }
          (.replacingDialog frame.dialog dialog)).frames, f.id < st.nextFrame :=
        (h.tail hframes).fresh
      obtain ⟨left, hleft, hbegin⟩ := exists_beginOn_eq_error hfresh hd hthread
      refine ⟨left, ⟨hleft.frames, hleft.dialogs, hleft.outbox, hleft.results⟩, fun rounds => ?_⟩
      simp only [Launch.call, call, replaceOn, hd, hframes, hbegin]
      rfl

/-! ### A turn of the session on top -/

variable {f : Frame} {activity : Activity}

/-- A turn whose run is aborted does not come to anything. -/
theorem call_continueTurn_eq_none (htop : st.top? = some f)
    (hd : st.dialogs.find f.dialog = .ok d) {rounds : ℕ}
    (hrun : HostM.run (answer rounds) ((d.continueWith activity).run.run f.session)
      (st.enter f.id) = none) : st.call rounds (.continueTurn activity) = none := by
  have hframe : runFrame (answer rounds) f.id (·.continueWith activity) st = none := by
    simp only [runFrame, frame?_of_top? htop, hd, hrun]
    rfl
  simp only [call, continueTurn, isEmpty_frames_of_top? htop, runTop, htop, hframe]
  rfl

/-- A turn whose run asks the stack for nothing writes its session back, and fails if it does. -/
theorem exists_call_continueTurn_eq (htop : st.top? = some f)
    (hd : st.dialogs.find f.dialog = .ok d) (hq : st.Quiescent)
    {o : Except DialogError TurnStatus} {s' : Session}
    (hrun : ∀ rounds, HostM.run (answer rounds) ((d.continueWith activity).run.run f.session)
      (st.enter f.id) = some ((o, s'), st.enter f.id)) :
    ∃ outcome left, left.frames = (st.store f.id s').frames ∧ left.dialogs = st.dialogs ∧
      (∀ e, o = .error e → outcome = .error e) ∧
      ∀ rounds, st.call rounds (.continueTurn activity) = some (outcome, left) := by
  let stored := (st.enter f.id).leave.store f.id s'
  cases o with
  | error e =>
    have hframe (rounds : ℕ) : runFrame (answer rounds) f.id (·.continueWith activity) st =
        some (.error e, stored.undefer f.id) := by
      simp only [runFrame, frame?_of_top? htop, hd, hrun]
      rfl
    refine ⟨.error e, stored.undefer f.id, rfl, rfl, ?_, fun rounds => ?_⟩
    · intro e' h
      rw [Except.error.inj h]
    · simp only [call, continueTurn, isEmpty_frames_of_top? htop, runTop, htop, hframe]
      rfl
  | ok status =>
    have hframe (rounds : ℕ) : runFrame (answer rounds) f.id (·.continueWith activity) st =
        some (.ok status, stored) := by
      simp only [runFrame, frame?_of_top? htop, hd, hrun]
      rfl
    have hpending : stored.pending.lookup f.id = none := by
      show st.pending.lookup f.id = none
      rw [hq.pending, List.lookup_nil]
    have hdeliver (rounds : ℕ) : deliver (answer rounds) f.id rounds status stored =
        some (.ok status, stored) := by
      unfold deliver
      rw [hpending]
    refine ⟨.ok (some stored.status), stored, rfl, rfl, ?_, fun rounds => ?_⟩
    · intro e h
      cases h
    · simp only [call, continueTurn, isEmpty_frames_of_top? htop, runTop, htop, hframe, hdeliver]
      rfl

/-! ### Going on -/

variable {id reached : ℕ} {below : List Frame}

/-- A session of a dialog is on top, on a thread that the dialog does not have. -/
def Stranded (id : ℕ) (dialog : String) (reached : ℕ) (below : List Frame) (st : Stack) : Prop :=
  ∃ s d, st.frames = ⟨id, dialog, s⟩ :: below ∧ st.dialogs.find dialog = .ok d ∧
    d.Astray reached s

theorem Stranded.active?_eq (h : Stranded id dialog reached below st) :
    st.active? = some dialog := by
  obtain ⟨s, -, hframes, -, -⟩ := h
  rw [active?, top?, hframes, List.head?_cons, Option.map_some]

theorem Stranded.tail_eq (h : Stranded id dialog reached below st) : st.frames.tail = below := by
  obtain ⟨s, -, hframes, -, -⟩ := h
  rw [hframes, List.tail_cons]

theorem frames_store_top (hframes : st.frames = f :: below)
    (hbelow : ∀ g ∈ below, g.id < f.id) (session : Session) :
    (st.store f.id session).frames = { f with session := session } :: below := by
  have hrest : (({ st with frames := below } : Stack).store f.id session).frames = below :=
    frames_store_of_fresh hbelow session
  rw [store, hframes, List.map_cons, if_pos rfl]
  exact congrArg (_ :: ·) hrest

/-- A message makes the session fail once more, and anything else does not make it run.  Once it has
got to the last line that has a number, the call does not return. -/
theorem Stranded.call_eq (h : Stranded id dialog reached below st) (hq : st.Quiescent)
    (activity : Activity) :
    (∃ o left, Stranded id dialog (reached + 1) below left ∧
      (activity.isMessage = true → ∃ e, o = .error e) ∧
      ∀ rounds, st.call rounds (.continueTurn activity) = some (o, left)) ∨
    Session.indexBound ≤ reached + 1 ∧
      ∀ rounds, st.call rounds (.continueTurn activity) = none := by
  obtain ⟨s, d, hframes, hd, hastray⟩ := h
  have htop : st.top? = some ⟨id, dialog, s⟩ := by rw [top?, hframes, List.head?_cons]
  have hbelow : ∀ g ∈ below, g.id < id := (List.pairwise_cons.1 (hframes ▸ hq.ascending)).1
  obtain ⟨o, s', hs', hfails, hcontinue⟩ | ⟨hend, hcontinue⟩ :=
    hastray.runWith_continueWith activity
  · obtain ⟨outcome, left, hleft, hdialogs, herror, hcall⟩ :=
      exists_call_continueTurn_eq htop hd hq fun rounds => hcontinue (answer rounds) _
    refine .inl ⟨outcome, left, ⟨s', d, ?_, hdialogs ▸ hd, hs'⟩, fun hmessage => ?_, hcall⟩
    · exact hleft.trans (frames_store_top hframes hbelow s')
    · obtain ⟨e, rfl⟩ := hfails hmessage
      exact ⟨e, herror e rfl⟩
  · exact .inr ⟨hend, fun rounds =>
      call_continueTurn_eq_none htop hd (hcontinue (answer rounds) _)⟩

/-- One activity after the other has come in, and each call has returned. -/
inductive Continued : Stack → List Activity → Stack → Prop where
  | nil (st : Stack) : Continued st [] st
  | cons {st st₁ st₂ : Stack} {activity : Activity} {activities : List Activity}
      {outcome : Except DialogError (Option TurnStatus)}
      (h : Returns (.continueTurn activity) st outcome st₁) (hrest : Continued st₁ activities st₂) :
      Continued st (activity :: activities) st₂

/-- A call that returns has made the session fail, if a message came in. -/
theorem Stranded.returns {outcome : Except DialogError (Option TurnStatus)} {st' : Stack}
    (h : Stranded id dialog reached below st) (hq : st.Quiescent)
    (hreturns : Returns (.continueTurn activity) st outcome st') :
    Stranded id dialog (reached + 1) below st' ∧
      (activity.isMessage = true → ∃ e, outcome = .error e) := by
  obtain ⟨o, left, hleft, hfails, hcall⟩ | ⟨-, hcall⟩ := h.call_eq hq activity
  · obtain ⟨rfl, rfl⟩ := (returns_iff_of_call_eq hcall).1 hreturns
    exact ⟨hleft, hfails⟩
  · obtain ⟨rounds, hsome⟩ := hreturns
    cases (hcall rounds).symm.trans hsome

/-- **A stranded session stays on top**, whatever comes in. -/
theorem Stranded.continued {st st' : Stack} {activities : List Activity}
    (h : Stranded id dialog reached below st) (hcontinued : Continued st activities st')
    (hq : st.Quiescent) :
    Stranded id dialog (reached + activities.length) below st' ∧ st'.Quiescent := by
  induction hcontinued generalizing reached with
  | nil st => exact ⟨h, hq⟩
  | @cons _ _ _ activity activities _ hreturns _ ih =>
    have hlater := ih (h.returns hq hreturns).1 (hq.returns hreturns)
    rwa [Nat.add_assoc, Nat.add_comm 1] at hlater

/-! ### What is left of the stack -/

/-- **A dialog that cannot be started leaves the frames as they were exactly if it is not
registered.**  Then nothing at all is changed.  If the thread that it is to start on does not exist,
its session is left on top; the session in whose place it was launched is gone, and those below it
get no message any more, whatever comes in.  A message makes the call fail, as long as there are
numbers for the lines that the session passes, one for each message. -/
theorem frames_kept_iff {st : Stack} (h : st.Orderly) (launch : Launch) {dialog : String}
    {options : LaunchOptions} (hfail : CannotStart st.dialogs dialog options) :
    ∃ e left,
      (∀ outcome st', Returns (launch.call dialog options) st outcome st' ↔
        outcome = .error e ∧ st' = left) ∧
      (left.frames = st.frames ↔ ∃ e', st.dialogs.find dialog = .error e') ∧
      (∀ e', st.dialogs.find dialog = .error e' → e = .dialogNotRegistered dialog ∧ left = st) ∧
      (∀ d, st.dialogs.find dialog = .ok d →
        e = d.lost (begun d options st) ⟨options.startThread, 0⟩ ∧
        Strands dialog options d (launch.below st.frames) st left ∧
        (st.Quiescent → ∀ activities st', Continued left activities st' →
          st'.active? = some dialog ∧ st'.frames.tail = launch.below st.frames ∧
            ∀ activity, activity.isMessage = true →
              (∀ outcome st'', Returns (.continueTurn activity) st' outcome st'' →
                ∃ e', outcome = .error e') ∧
              (activities.length + 1 < Session.indexBound →
                ∃ e' st'', Returns (.continueTurn activity) st' (.error e') st''))) := by
  cases hd : st.dialogs.find dialog with
  | error e =>
    have hcall := call_of_find_eq_error hd launch options
    have he : e = .dialogNotRegistered dialog := by
      unfold DialogSet.find at hd
      split at hd
      · cases hd
      · exact (Except.error.inj hd).symm
    exact ⟨e, st, fun _ _ => returns_iff_of_call_eq hcall, ⟨fun _ => ⟨e, rfl⟩, fun _ => rfl⟩,
      fun _ _ => ⟨he, rfl⟩, nofun⟩
  | ok d =>
    obtain ⟨left, hleft, hcall⟩ := exists_call_eq_error h launch hd (hfail d hd)
    refine ⟨d.lost (begun d options st) ⟨options.startThread, 0⟩, left,
      fun _ _ => returns_iff_of_call_eq hcall, ⟨fun hsame => ?_, nofun⟩, nofun, fun d' hd' => ?_⟩
    · -- the session that was left has a number of its own
      have hmem : (⟨st.nextFrame, dialog, begun d options st⟩ : Frame) ∈ st.frames := by
        rw [← hsame, hleft.frames]
        exact List.mem_cons_self
      exact absurd (h.fresh _ hmem) (Nat.lt_irrefl _)
    · obtain rfl := Except.ok.inj hd'
      refine ⟨rfl, hleft, fun hq activities st' hcontinued => ?_⟩
      have hstranded : Stranded st.nextFrame dialog 0 (launch.below st.frames) left :=
        ⟨_, d, hleft.frames, hleft.dialogs ▸ hd, ⟨hfail d hd, rfl, Nat.le_refl 0⟩⟩
      obtain ⟨hstays, hq'⟩ := hstranded.continued hcontinued (hq.returns ⟨0, hcall 0⟩)
      rw [Nat.zero_add] at hstays
      refine ⟨hstays.active?_eq, hstays.tail_eq, fun activity hmessage =>
        ⟨fun outcome st'' hreturns => (hstays.returns hq' hreturns).2 hmessage, fun hroom => ?_⟩⟩
      obtain ⟨o, st'', -, hfails, hagain⟩ | ⟨hend, -⟩ := hstays.call_eq hq' activity
      · obtain ⟨e', rfl⟩ := hfails hmessage
        exact ⟨e', st'', 0, hagain 0⟩
      · exact absurd hroom (Nat.not_lt.2 hend)

/-- A dialog that asks for a name. -/
def form : Dialog :=
  (Dialog.empty "form" { seed := some 7 }).ask (.ofText "Name?") (.options [])
    (some { key := "name" })

/-- A dialog that only says something. -/
def solo : Dialog := (Dialog.empty "solo" { seed := some 7 }).say (.ofText "Hi.")

/-- The stack on which the name has been asked for. -/
def interviewing : Stack :=
  (Stack.empty [("form", form), ("solo", solo)] fun _ => 0).behind 1 (.start "form" {})

theorem returns_interviewing :
    Returns (.start "form" {}) (Stack.empty [("form", form), ("solo", solo)] fun _ => 0)
      (.ok (some .waiting)) interviewing ∧ interviewing.outline = [("form", [])] :=
  returns_behind (by decide +kernel)

theorem interviewing_reachable : interviewing.Reachable := .call (.empty _ _) returns_interviewing.1

theorem find_solo : interviewing.dialogs.find "solo" = .ok solo := rfl

/-- Options that ask for a thread that there is not. -/
def onGhost : LaunchOptions := { thread := some "ghost" }

theorem cannotStart_onGhost : CannotStart interviewing.dialogs "solo" onGhost := by
  intro d hd
  obtain rfl := Except.ok.inj (find_solo.symm.trans hd)
  decide

/-- The form is replaced by a dialog that cannot be started. -/
theorem frames_kept_iff_onGhost :
    interviewing.Orderly ∧ CannotStart interviewing.dialogs "solo" onGhost ∧
      ∃ e left, Returns (.replace "solo" onGhost) interviewing (.error e) left ∧
        left.frames ≠ interviewing.frames := by
  have horderly := interviewing_reachable.quiescent.toOrderly
  obtain ⟨e, left, hreturns, hkept, -, -⟩ :=
    frames_kept_iff horderly .replace cannotStart_onGhost
  refine ⟨horderly, cannotStart_onGhost, e, left, (hreturns _ _).2 ⟨rfl, rfl⟩, fun hsame => ?_⟩
  obtain ⟨e', he'⟩ := hkept.1 hsame
  cases find_solo.symm.trans he'

/-- What the user answers. -/
def adaSays : Activity := .message "test" "c1" "u1" "Ada"

/-- The stack on which the dialog has been begun in vain. -/
def buried : Stack := interviewing.behind 1 (.begin "solo" onGhost)

/-- **A thread that does not exist buries the active dialog.**  The form has asked for a name, and
another dialog is begun on such a thread.  The call fails, but the form is not active any more, and
the name that the user tells does not reach it. -/
theorem missing_thread_buries_active :
    interviewing.Reachable ∧ interviewing.active? = some "form" ∧
      CannotStart interviewing.dialogs "solo" onGhost ∧
      Returns (.begin "solo" onGhost) interviewing
        (.error (.threadNotFound "solo" ⟨"ghost", 0⟩)) buried ∧
      buried.frames.map Frame.dialog = ["solo", "form"] ∧
      Returns (.continueTurn adaSays) buried (.error (.threadNotFound "solo" ⟨"ghost", 1⟩))
        (buried.behind 1 (.continueTurn adaSays)) :=
  ⟨interviewing_reachable, by decide +kernel, cannotStart_onGhost, ⟨1, rfl⟩, by decide +kernel,
    ⟨1, rfl⟩⟩

end Stack

end Parley
