import Parley.Proofs.Stepping
import Parley.Stack.Turn

/-!
# The moments of a turn

`Stack.call` says what comes of a call, not what happens on the way.  Here a call is followed moment
by moment.  A `Moment` is the stack as it is just then, together with what is going on: a session is
about to run, it runs and has come to a request, it has just stopped, or an outcome is on its way to
whoever waits for it.  Runs that wait for the answer to a request of theirs are listed beside it,
the innermost first, where `Stack.answer` has them on the stack of its own recursion.

Two things are noted that the stack does not know.  A run keeps what it still has to do, and the
state in which its session was checked out.

* `Moment.next?` : the next moment, if the call goes on.
* `Call.opening?` : the first moment of a call; a call that runs no session has none.
* `Call.told` : how the last outcome is told.
* `Occurs` : a moment occurs in a call.
* `Aborts` : a run is aborted in a call.
-/

namespace Parley

/-- What a run of a session still has to do; in the end there are its outcome and the session. -/
abbrev Remainder := HostM (Except DialogError TurnStatus × Session)

/-- A run that waits for the answer to a request. -/
structure Suspended where
  id : ℕ
  /-- The session as it was checked out. -/
  taken : Session
  next : Except DialogError TurnStatus → Remainder

/-- What is going on. -/
inductive Phase where
  /-- A session is about to run. -/
  | entering (id : ℕ) (task : Dialog → SessionM TurnStatus)
  /-- A session runs. -/
  | running (id : ℕ) (taken : Session) (rest : Remainder)
  /-- A session has stopped without an error. -/
  | stopped (id : ℕ) (status : TurnStatus)
  /-- An outcome is handed to the innermost run that waits. -/
  | answering (outcome : Except DialogError TurnStatus)

/-- A stack in the course of a call. -/
structure Moment where
  stack : Stack
  phase : Phase
  suspended : List Suspended

namespace Stack

/-! ### How runs come about -/

/-- Begin a dialog on top, up to where its session is to run. -/
def beginning (dialog : String) (options : LaunchOptions) (st : Stack) : Stack × Phase :=
  match st.dialogs.find dialog with
  | .error e => (st, .answering (.error e))
  | .ok _ =>
    ((st.note (.beginningDialog dialog st.nextFrame st.depth)).push dialog options,
      .entering st.nextFrame Dialog.begin)

/-- Begin a dialog in place of the one on top, up to where its session is to run. -/
def replacing (dialog : String) (options : LaunchOptions) (st : Stack) : Stack × Phase :=
  match st.dialogs.find dialog with
  | .error e => (st, .answering (.error e))
  | .ok _ =>
    match st.frames with
    | [] => st.beginning dialog options
    | frame :: rest =>
      ({ st with frames := rest }.note (.replacingDialog frame.dialog dialog)).beginning dialog
        options

/-- Take the session on top off and record its result. -/
def drop (frame : Frame) (rest : List Frame) (result : Option DialogResult) (st : Stack) : Stack :=
  { st with
    frames := rest
    results := match result with
      | some r => st.results.push ⟨frame.dialog, r⟩
      | none => st.results }

/-- End the session on top, up to where the one below is to run. -/
def finishing (result : Option DialogResult) (st : Stack) : Stack × Phase :=
  match st.frames with
  | [] => (st, .answering (.ok .complete))
  | frame :: rest =>
    match rest with
    | [] => (st.drop frame rest result, .answering (.ok .complete))
    | parent :: _ =>
      if parent.id ∈ st.executing then
        ((st.drop frame rest result).defer parent.id (result.map .result),
          .answering (.ok .waiting))
      else
        (st.drop frame rest result, .entering parent.id (·.resume (result.map .result)))

@[simp] theorem top?_push (st : Stack) (dialog : String) (options : LaunchOptions) :
    (st.push dialog options).top? = some ⟨st.nextFrame, dialog, .launch options⟩ := rfl

theorem isEmpty_frames_of_top? {st : Stack} {f : Frame} (h : st.top? = some f) :
    st.frames.isEmpty = false :=
  List.isEmpty_eq_false_iff.2 (List.ne_nil_of_mem (List.mem_of_head? h))

end Stack

namespace Moment

/-! ### The next moment -/

/-- A run comes to a request.  Those that run no session are answered at once; the others suspend
the run. -/
def asked (m : Moment) (id : ℕ) (taken : Session) :
    (request : Request) → (request.Answer → Remainder) → Moment
  | .send message, next =>
    { m with
      stack := { m.stack with outbox := m.stack.outbox.push message }
      phase := .running id taken (next (.ok ())) }
  | .active, next => { m with phase := .running id taken (next m.stack.active?) }
  | .note event, next =>
    { m with stack := m.stack.note event, phase := .running id taken (next ()) }
  | .seed, next =>
    { m with
      stack := { m.stack with ticks := m.stack.ticks + 1 }
      phase := .running id taken (next (m.stack.clock m.stack.ticks)) }
  | .cancelAll, next =>
    { m with stack := m.stack.cancelAll, phase := .running id taken (next (.ok ())) }
  | .begin dialog options, next =>
    let opened := m.stack.beginning dialog options
    ⟨opened.1, opened.2, ⟨id, taken, next⟩ :: m.suspended⟩
  | .replace dialog options, next =>
    let opened := m.stack.replacing dialog options
    ⟨opened.1, opened.2, ⟨id, taken, next⟩ :: m.suspended⟩
  | .finish result, next =>
    let opened := m.stack.finishing result
    ⟨opened.1, opened.2, ⟨id, taken, next⟩ :: m.suspended⟩

/-- A run is over: the state of its session is written back. -/
def finished (m : Moment) (id : ℕ) (outcome : Except DialogError TurnStatus) (session : Session) :
    Moment :=
  let st := m.stack.leave.store id session
  match outcome with
  | .ok status => { m with stack := st, phase := .stopped id status }
  | .error e => { m with stack := st.undefer id, phase := .answering (.error e) }

/-- The next moment.  There is none when an outcome has arrived and nobody waits for it, and none
when a run is aborted. -/
def next? (m : Moment) : Option Moment :=
  match m.phase with
  | .entering id task =>
    match m.stack.frame? id with
    | none => some { m with phase := .stopped id .empty }
    | some frame =>
      match m.stack.dialogs.find frame.dialog with
      | .error e => some { m with phase := .answering (.error e) }
      | .ok d =>
        some { m with
          stack := m.stack.enter id
          phase := .running id frame.session ((task d).run.run frame.session) }
  | .running id _ (.done (outcome, session)) => some (m.finished id outcome session)
  | .running id taken (.ask request next) => some (m.asked id taken request next)
  | .running _ _ .abort => none
  | .stopped id status =>
    match m.stack.pending.lookup id with
    | none => some { m with phase := .answering (.ok status) }
    | some input =>
      let st := m.stack.undefer id
      if (st.top?.map Frame.id) = some id then
        some { m with stack := st, phase := .entering id (·.resume input) }
      else
        some { m with stack := st.note (.resultDropped id), phase := .answering (.ok status) }
  | .answering outcome =>
    match m.suspended with
    | [] => none
    | s :: rest => some ⟨m.stack, .running s.id s.taken (s.next outcome), rest⟩

/-- A run has been aborted. -/
def IsAborted (m : Moment) : Prop := ∃ id taken, m.phase = .running id taken .abort

theorem IsAborted.next?_eq_none {m : Moment} (h : m.IsAborted) : m.next? = none := by
  obtain ⟨st, phase, K⟩ := m
  obtain ⟨id, taken, rfl⟩ := h
  rfl

/-- One moment comes after another. -/
abbrev Leads (m m' : Moment) : Prop := Stepping.Leads next? m m'

section

variable {st : Stack} {id : ℕ} {task : Dialog → SessionM TurnStatus} {status : TurnStatus}
  {K : List Suspended}

theorem next?_entering_of_frame?_eq_none (hf : st.frame? id = none) :
    next? ⟨st, .entering id task, K⟩ = some ⟨st, .stopped id .empty, K⟩ := by
  simp only [next?, hf]

theorem next?_entering_of_find_eq_error {frame : Frame} {e : DialogError}
    (hf : st.frame? id = some frame) (hd : st.dialogs.find frame.dialog = .error e) :
    next? ⟨st, .entering id task, K⟩ = some ⟨st, .answering (.error e), K⟩ := by
  simp only [next?, hf, hd]

theorem next?_entering {frame : Frame} {d : Dialog} (hf : st.frame? id = some frame)
    (hd : st.dialogs.find frame.dialog = .ok d) :
    next? ⟨st, .entering id task, K⟩ =
      some ⟨st.enter id, .running id frame.session ((task d).run.run frame.session), K⟩ := by
  simp only [next?, hf, hd]

theorem next?_stopped_of_lookup_eq_none (hp : st.pending.lookup id = none) :
    next? ⟨st, .stopped id status, K⟩ = some ⟨st, .answering (.ok status), K⟩ := by
  simp only [next?, hp]

theorem next?_stopped_of_top {input : Option TurnInput}
    (hp : st.pending.lookup id = some input)
    (htop : ((st.undefer id).top?.map Frame.id) = some id) :
    next? ⟨st, .stopped id status, K⟩ =
      some ⟨st.undefer id, .entering id (·.resume input), K⟩ := by
  simp only [next?, hp, htop, if_true]

theorem next?_stopped_of_not_top {input : Option TurnInput}
    (hp : st.pending.lookup id = some input)
    (htop : ((st.undefer id).top?.map Frame.id) ≠ some id) :
    next? ⟨st, .stopped id status, K⟩ =
      some ⟨(st.undefer id).note (.resultDropped id), .answering (.ok status), K⟩ := by
  simp only [next?, hp, htop, if_false]

end

/-- All that may happen from one moment to the next. -/
inductive Step : Moment → Moment → Prop where
  /-- The session that is to run is not there. -/
  | missing {st : Stack} {id task K} (hf : st.frame? id = none) :
      Step ⟨st, .entering id task, K⟩ ⟨st, .stopped id .empty, K⟩
  /-- The session that is to run has no dialog. -/
  | unregistered {st : Stack} {id task K frame e} (hf : st.frame? id = some frame)
      (hd : st.dialogs.find frame.dialog = .error e) :
      Step ⟨st, .entering id task, K⟩ ⟨st, .answering (.error e), K⟩
  | enter {st : Stack} {id task K frame d} (hf : st.frame? id = some frame)
      (hd : st.dialogs.find frame.dialog = .ok d) :
      Step ⟨st, .entering id task, K⟩
        ⟨st.enter id, .running id frame.session ((task d).run.run frame.session), K⟩
  | finish {st K} (id taken outcome session) :
      Step ⟨st, .running id taken (.done (outcome, session)), K⟩
        (finished ⟨st, .running id taken (.done (outcome, session)), K⟩ id outcome session)
  | ask {st K} (id taken r) (next : r.Answer → Remainder) :
      Step ⟨st, .running id taken (.ask r next), K⟩
        (asked ⟨st, .running id taken (.ask r next), K⟩ id taken r next)
  /-- Nothing is pending for the session that has stopped. -/
  | stop {st : Stack} {id status K} (hp : st.pending.lookup id = none) :
      Step ⟨st, .stopped id status, K⟩ ⟨st, .answering (.ok status), K⟩
  /-- The session that has stopped is resumed with what is pending for it. -/
  | resume {st : Stack} {id status K input} (hp : st.pending.lookup id = some input)
      (htop : ((st.undefer id).top?.map Frame.id) = some id) :
      Step ⟨st, .stopped id status, K⟩ ⟨st.undefer id, .entering id (·.resume input), K⟩
  /-- The session that has stopped is no longer on top, and what is pending for it is dropped. -/
  | discard {st : Stack} {id status K input} (hp : st.pending.lookup id = some input)
      (htop : ((st.undefer id).top?.map Frame.id) ≠ some id) :
      Step ⟨st, .stopped id status, K⟩
        ⟨(st.undefer id).note (.resultDropped id), .answering (.ok status), K⟩
  | answer {st outcome s K} :
      Step ⟨st, .answering outcome, s :: K⟩ ⟨st, .running s.id s.taken (s.next outcome), K⟩

theorem step_of_next? {m m' : Moment} (hm : m.next? = some m') : Step m m' := by
  obtain ⟨st, phase, K⟩ := m
  cases phase with
  | entering id task =>
    cases hf : st.frame? id with
    | none =>
      rw [next?_entering_of_frame?_eq_none hf] at hm
      obtain rfl := Option.some.inj hm
      exact .missing hf
    | some frame =>
      cases hd : st.dialogs.find frame.dialog with
      | error e =>
        rw [next?_entering_of_find_eq_error hf hd] at hm
        obtain rfl := Option.some.inj hm
        exact .unregistered hf hd
      | ok d =>
        rw [next?_entering hf hd] at hm
        obtain rfl := Option.some.inj hm
        exact .enter hf hd
  | running id taken rest =>
    cases rest with
    | done value =>
      obtain rfl := Option.some.inj hm
      exact .finish id taken value.1 value.2
    | ask r next =>
      obtain rfl := Option.some.inj hm
      exact .ask id taken r next
    | abort => cases hm
  | stopped id status =>
    cases hp : st.pending.lookup id with
    | none =>
      rw [next?_stopped_of_lookup_eq_none hp] at hm
      obtain rfl := Option.some.inj hm
      exact .stop hp
    | some input =>
      by_cases htop : ((st.undefer id).top?.map Frame.id) = some id
      · rw [next?_stopped_of_top hp htop] at hm
        obtain rfl := Option.some.inj hm
        exact .resume hp htop
      · rw [next?_stopped_of_not_top hp htop] at hm
        obtain rfl := Option.some.inj hm
        exact .discard hp htop
  | answering outcome =>
    cases K with
    | nil => cases hm
    | cons s K =>
      obtain rfl := Option.some.inj hm
      exact .answer

/-! ### The dialogs -/

theorem dialogs_beginning (st : Stack) (dialog : String) (options : LaunchOptions) :
    (st.beginning dialog options).1.dialogs = st.dialogs := by
  unfold Stack.beginning
  split <;> rfl

theorem dialogs_replacing (st : Stack) (dialog : String) (options : LaunchOptions) :
    (st.replacing dialog options).1.dialogs = st.dialogs := by
  unfold Stack.replacing
  split
  · rfl
  · split
    · exact dialogs_beginning st dialog options
    · exact dialogs_beginning _ dialog options

theorem dialogs_finishing (st : Stack) (result : Option DialogResult) :
    (st.finishing result).1.dialogs = st.dialogs := by
  unfold Stack.finishing
  split
  · rfl
  · split
    · rfl
    · split <;> rfl

theorem dialogs_asked (m : Moment) (id : ℕ) (taken : Session) (r : Request)
    (next : r.Answer → Remainder) :
    (m.asked id taken r next).stack.dialogs = m.stack.dialogs := by
  cases r with
  | send | active | note | seed | cancelAll => rfl
  | begin dialog options => exact dialogs_beginning m.stack dialog options
  | replace dialog options => exact dialogs_replacing m.stack dialog options
  | finish result => exact dialogs_finishing m.stack result

theorem dialogs_next {m m' : Moment} (hm : m.next? = some m') :
    m'.stack.dialogs = m.stack.dialogs := by
  cases step_of_next? hm with
  | finish id taken o session => cases o <;> rfl
  | ask id taken r next => exact dialogs_asked _ id taken r next
  | missing | unregistered | enter | stop | resume | discard | answer => rfl

theorem dialogs_leads {m m' : Moment} (h : m.Leads m') : m'.stack.dialogs = m.stack.dialogs :=
  h.invariant (I := fun t => t.stack.dialogs = m.stack.dialogs) rfl fun _ _ ht hstep =>
    (dialogs_next hstep).trans ht

/-! ### Outcomes -/

/-- The moment at which an outcome has arrived. -/
def arrived (suspended : List Suspended) (x : Except DialogError TurnStatus × Stack) : Moment :=
  ⟨x.2, .answering x.1, suspended⟩

theorem not_isAborted_arrived (suspended : List Suspended)
    (x : Except DialogError TurnStatus × Stack) : ¬(arrived suspended x).IsAborted := by
  rintro ⟨_, _, ⟨⟩⟩

theorem next?_arrived_nil (x : Except DialogError TurnStatus × Stack) :
    (arrived [] x).next? = none := rfl

theorem next?_arrived_cons (s : Suspended) (rest : List Suspended)
    (x : Except DialogError TurnStatus × Stack) :
    (arrived (s :: rest) x).next? = some ⟨x.2, .running s.id s.taken (s.next x.1), rest⟩ := rfl

theorem arrived_injective (suspended : List Suspended) : (arrived suspended).Injective := by
  rintro ⟨o, st⟩ ⟨o', st'⟩ h
  simp only [arrived, Moment.mk.injEq, Phase.answering.injEq] at h
  rw [h.1, h.2.1]

end Moment

/-! ### Calls -/

namespace Stack

/-- A call returns with an outcome and leaves a stack behind. -/
def Returns (c : Call) (st : Stack) (outcome : Except DialogError (Option TurnStatus))
    (st' : Stack) : Prop := ∃ rounds, st.call rounds c = some (outcome, st')

/-- The sessions of a stack, each with the variables it has. -/
def outline (st : Stack) : List (String × List String) :=
  st.frames.map fun f => (f.dialog, f.session.values.map Prod.fst)

/-- The stack behind a call, if a number of rounds suffices for it. -/
def behind (rounds : ℕ) (c : Call) (st : Stack) : Stack :=
  ((st.call rounds c).map Prod.snd).getD st

/-- What is seen of a call that returns, with a number of rounds that suffices for it. -/
theorem call_behind {β : Type} {st : Stack} {rounds : ℕ} {c : Call} {status : Option TurnStatus}
    {view : Stack → β} {seen : β}
    (h : ((st.call rounds c).map fun x => (x.1.toOption, view x.2)) = some (some status, seen)) :
    st.call rounds c = some (.ok status, st.behind rounds c) ∧
      view (st.behind rounds c) = seen := by
  obtain ⟨⟨o, st'⟩, hx, hfacts⟩ := Option.map_eq_some_iff.1 h
  obtain ⟨ho, hview⟩ := Prod.mk.inj hfacts
  have hbehind : st.behind rounds c = st' := by rw [behind, hx, Option.map_some, Option.getD_some]
  cases o with
  | error e => cases ho
  | ok status =>
    cases ho
    exact ⟨hbehind ▸ hx, hbehind ▸ hview⟩

theorem returns_behind {rounds : ℕ} {c : Call} {status : Option TurnStatus}
    {frames : List (String × List String)}
    (h : ((st.call rounds c).map fun x => (x.1.toOption, x.2.outline)) =
      some (some status, frames)) :
    Returns c st (.ok status) (st.behind rounds c) ∧ (st.behind rounds c).outline = frames :=
  (call_behind h).imp_left fun hcall => ⟨rounds, hcall⟩

namespace Call

/-- The moment at which sessions begin to run. -/
def atOpening (opened : Stack × Phase) : Moment := ⟨opened.1, opened.2, []⟩

/-- The first moment of a call.  A call that runs no session has none. -/
def opening? (c : Call) (st : Stack) : Option Moment :=
  match c with
  | .start dialog options | .begin dialog options =>
    some (atOpening (st.beginning dialog options))
  | .replace dialog options => some (atOpening (st.replacing dialog options))
  | .finish result => some (atOpening (st.finishing result))
  | .continueTurn activity =>
    st.top?.map fun frame => ⟨st, .entering frame.id (·.continueWith activity), []⟩
  | .cancelAll | .send _ => none

/-- How an outcome is told.  Turns tell the state of the stack. -/
def told (c : Call) (outcome : Except DialogError TurnStatus) (st : Stack) :
    Except DialogError (Option TurnStatus) :=
  match c with
  | .start .. | .continueTurn _ => outcome.map fun _ => some st.status
  | _ => outcome.map some

end Call

/-- A moment occurs in a call. -/
def Occurs (c : Call) (st : Stack) (m : Moment) : Prop :=
  ∃ m₀, c.opening? st = some m₀ ∧ m₀.Leads m

/-- A run is aborted in a call, so that nothing comes of the call. -/
def Aborts (c : Call) (st : Stack) : Prop := ∃ m, Occurs c st m ∧ m.IsAborted

end Stack

end Parley
