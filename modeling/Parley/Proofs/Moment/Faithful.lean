import Parley.Proofs.Moment.Basic

/-!
# Moments follow calls faithfully

A call returns exactly when its moments come to an end, and then with the outcome that has arrived
and the stack that is left (`Stack.returns_iff_ends`).  The rounds of `Stack.call` leave no trace:
they only bound how deep the recursion goes, and every moment of a call that needs more of them is
still to come (`Stepping.Tracks`).  Where a run is aborted the moments are stuck, so the call does
not return.

The statements follow the recursion of `Stack.answer`, from single requests to runs of sessions and
the calls made of them.
-/

namespace Parley

open Stepping

namespace Moment

variable {rounds : ℕ} {K : List Suspended} {id : ℕ} {taken : Session}

/-- The moment after a run of a session, before anything is delivered to it. -/
def ran (K : List Suspended) (id : ℕ) (x : Except DialogError TurnStatus × Stack) : Moment :=
  match x with
  | (.ok status, st) => ⟨st, .stopped id status, K⟩
  | (.error e, st) => ⟨st, .answering (.error e), K⟩

/-- The moments of a request agree with the answer to it, whatever comes next. -/
def AnswersTrack (rounds : ℕ) : Prop :=
  ∀ (r : Request) (st : Stack) (K : List Suspended) (id : ℕ) (taken : Session)
    (next : r.Answer → Remainder),
    Tracks next? IsAborted rounds ⟨st, .running id taken (.ask r next), K⟩
      (Stack.answer rounds r st) fun x => ⟨x.2, .running id taken (next x.1), K⟩

theorem tracks_body (hanswer : AnswersTrack rounds) (rest : Remainder) (st : Stack) :
    Tracks next? IsAborted rounds ⟨st, .running id taken rest, K⟩
      (HostM.run (Stack.answer rounds) rest st) fun x =>
      ⟨x.2, .running id taken (.done x.1), K⟩ := by
  induction rest generalizing st with
  | done value => exact .of_leads (.refl _)
  | ask r next ih => exact (hanswer r st K id taken next).bind fun x _ => ih x.1 x.2
  | abort => exact .none_of_stuck rfl ⟨id, taken, rfl⟩

theorem tracks_runFrame (hanswer : AnswersTrack rounds) (st : Stack)
    (task : Dialog → SessionM TurnStatus) :
    Tracks next? IsAborted rounds ⟨st, .entering id task, K⟩
      (Stack.runFrame (Stack.answer rounds) id task st) (ran K id) := by
  rw [Stack.runFrame]
  cases hf : st.frame? id with
  | none => exact .of_leads (.single (next?_entering_of_frame?_eq_none hf))
  | some frame =>
    cases hd : st.dialogs.find frame.dialog with
    | error e =>
      simp only [hd]
      exact .of_leads (.single (next?_entering_of_find_eq_error hf hd))
    | ok d =>
      simp only [hd]
      refine .of_leads_of_tracks (.single (next?_entering hf hd)) ?_
      refine (tracks_body hanswer _ _).map ?_
      rintro ⟨⟨outcome, session⟩, st'⟩ -
      cases outcome <;> exact .single rfl

theorem tracks_ran_then {m : Moment} {x : Stack.Outcome TurnStatus}
    {g : TurnStatus → Stack → Stack.Outcome TurnStatus}
    (hx : Tracks next? IsAborted rounds m x (ran K id))
    (hg : ∀ status st', Tracks next? IsAborted rounds ⟨st', .stopped id status, K⟩ (g status st')
      (arrived K)) :
    Tracks next? IsAborted rounds m
      (match x with
        | some (.ok status, st) => g status st
        | failed => failed) (arrived K) := by
  cases x with
  | none => exact hx
  | some y =>
    obtain ⟨outcome, st'⟩ := y
    cases outcome with
    | ok status => exact .of_leads_of_tracks (hx.leads rfl) (hg status st')
    | error e => exact .of_leads (hx.leads rfl)

theorem tracks_deliver (hanswer : AnswersTrack rounds) (k : ℕ) (hk : k ≤ rounds)
    (status : TurnStatus) (st : Stack) :
    Tracks next? IsAborted k ⟨st, .stopped id status, K⟩
      (Stack.deliver (Stack.answer rounds) id k status st) (arrived K) := by
  induction k generalizing status st with
  | zero =>
    unfold Stack.deliver
    cases hp : st.pending.lookup id with
    | none => exact .of_leads (.single (next?_stopped_of_lookup_eq_none hp))
    | some input =>
      by_cases htop : ((st.undefer id).top?.map Frame.id) = some id
      · simp only [htop, if_true]
        exact .none_zero
      · simp only [htop, if_false]
        exact .of_leads (.single (next?_stopped_of_not_top hp htop))
  | succ k ih =>
    unfold Stack.deliver
    cases hp : st.pending.lookup id with
    | none => exact .of_leads (.single (next?_stopped_of_lookup_eq_none hp))
    | some input =>
      by_cases htop : ((st.undefer id).top?.map Frame.id) = some id
      · simp only [htop, if_true]
        refine .head (next?_stopped_of_top hp htop) ?_
        -- a run that ends well is looked at again, with one round less
        have hle := Nat.le_of_succ_le hk
        exact tracks_ran_then ((tracks_runFrame hanswer _ _).mono hle) fun status' st' =>
          ih hle status' st'
      · simp only [htop, if_false]
        exact .of_leads (.single (next?_stopped_of_not_top hp htop))

theorem tracks_runTop (hanswer : AnswersTrack rounds) {st : Stack} {frame : Frame}
    (htop : st.top? = some frame) (task : Dialog → SessionM TurnStatus) :
    Tracks next? IsAborted rounds ⟨st, .entering frame.id task, K⟩
      (Stack.runTop (Stack.answer rounds) rounds task st) (arrived K) := by
  unfold Stack.runTop
  simp only [htop]
  exact tracks_ran_then (tracks_runFrame hanswer st task) fun status st' =>
    tracks_deliver hanswer rounds (Nat.le_refl rounds) status st'

/-! ### Requests that run sessions -/

theorem tracks_beginOn (hanswer : AnswersTrack rounds) (dialog : String) (options : LaunchOptions)
    (st : Stack) :
    Tracks next? IsAborted rounds
      ⟨(st.beginning dialog options).1, (st.beginning dialog options).2, K⟩
      (Stack.beginOn (Stack.answer rounds) rounds dialog options st) (arrived K) := by
  unfold Stack.beginOn Stack.beginning
  cases st.dialogs.find dialog with
  | error e => exact .of_leads (.refl _)
  | ok d => exact tracks_runTop hanswer (Stack.top?_push _ dialog options) Dialog.begin

theorem tracks_replaceOn (hanswer : AnswersTrack rounds) (dialog : String)
    (options : LaunchOptions) (st : Stack) :
    Tracks next? IsAborted rounds
      ⟨(st.replacing dialog options).1, (st.replacing dialog options).2, K⟩
      (Stack.replaceOn (Stack.answer rounds) rounds dialog options st) (arrived K) := by
  unfold Stack.replaceOn Stack.replacing
  cases st.dialogs.find dialog with
  | error e => exact .of_leads (.refl _)
  | ok d =>
    cases st.frames with
    | nil => exact tracks_beginOn hanswer dialog options st
    | cons frame rest => exact tracks_beginOn hanswer dialog options _

theorem tracks_finishOn (hanswer : AnswersTrack rounds) (result : Option DialogResult)
    (st : Stack) :
    Tracks next? IsAborted rounds ⟨(st.finishing result).1, (st.finishing result).2, K⟩
      (Stack.finishOn (Stack.answer rounds) rounds result st) (arrived K) := by
  unfold Stack.finishOn Stack.finishing
  cases st.frames with
  | nil => exact .of_leads (.refl _)
  | cons frame rest =>
    cases rest with
    | nil => cases result <;> exact .of_leads (.refl _)
    | cons parent rest =>
      by_cases hp : parent.id ∈ st.executing
      · cases result <;> simp only [Stack.drop, hp, if_true] <;> exact .of_leads (.refl _)
      · cases result <;> simp only [Stack.drop, hp, if_false] <;>
          exact tracks_runTop hanswer (by rfl) _

/-- A run that is suspended over a request goes on with the outcome of it. -/
theorem tracks_suspend {m : Moment} {s : Suspended}
    {x : Option (Except DialogError TurnStatus × Stack)} {opened : Stack × Phase}
    (hm : m.next? = some ⟨opened.1, opened.2, s :: K⟩)
    (h : Tracks next? IsAborted rounds ⟨opened.1, opened.2, s :: K⟩ x (arrived (s :: K))) :
    Tracks next? IsAborted (rounds + 1) m x fun y =>
      ⟨y.2, .running s.id s.taken (s.next y.1), K⟩ := by
  refine .head hm ?_
  cases x with
  | none => exact h
  | some y => exact Leads.tail h (next?_arrived_cons s K y)

theorem answersTrack (rounds : ℕ) : AnswersTrack rounds := by
  induction rounds with
  | zero =>
    intro r st K id taken next
    cases r with
    | begin | replace | finish => exact .none_zero
    | send | active | note | seed | cancelAll => exact .of_leads (.single rfl)
  | succ rounds ih =>
    intro r st K id taken next
    cases r with
    | begin dialog options =>
      exact tracks_suspend (s := ⟨id, taken, next⟩) rfl
        (tracks_beginOn ih dialog options st)
    | replace dialog options =>
      exact tracks_suspend (s := ⟨id, taken, next⟩) rfl
        (tracks_replaceOn ih dialog options st)
    | finish result =>
      exact tracks_suspend (s := ⟨id, taken, next⟩) rfl (tracks_finishOn ih result st)
    | send | active | note | seed | cancelAll => exact .of_leads (.single rfl)

end Moment

namespace Stack

/-! ### Calls -/

open Moment

theorem told_turn (outcome : Except DialogError TurnStatus) (st : Stack) :
    (outcome.map fun _ => st.status).map some = outcome.map fun _ => some st.status := by
  cases outcome <;> rfl

/-- A call that runs sessions tells what comes of a computation, and the moments of the call agree
with that computation. -/
theorem exists_computation {c : Call} {st : Stack} {m : Moment} (hm : c.opening? st = some m) :
    ∃ x : ℕ → Outcome TurnStatus,
      (∀ rounds, st.call rounds c = (x rounds).map fun y => (c.told y.1 y.2, y.2)) ∧
        ∀ rounds, Tracks next? IsAborted rounds m (x rounds) (arrived []) := by
  cases c with
  | start dialog options =>
    obtain rfl := Option.some.inj hm
    refine ⟨fun rounds => beginOn (answer rounds) rounds dialog options st, fun rounds => ?_,
      fun rounds => tracks_beginOn (answersTrack rounds) dialog options st⟩
    simp only [call, start, settled, Option.map_map, Function.comp_def, told_turn, Call.told]
  | continueTurn activity =>
    obtain ⟨frame, htop, rfl⟩ := Option.map_eq_some_iff.1 hm
    refine ⟨fun rounds => runTop (answer rounds) rounds (·.continueWith activity) st,
      fun rounds => ?_, fun rounds => tracks_runTop (answersTrack rounds) htop _⟩
    simp only [call, continueTurn, isEmpty_frames_of_top? htop, Bool.false_eq_true, if_false,
      settled, Option.map_map, Function.comp_def, told_turn, Call.told]
  | begin dialog options =>
    obtain rfl := Option.some.inj hm
    exact ⟨fun rounds => beginOn (answer rounds) rounds dialog options st, fun rounds => rfl,
      fun rounds => tracks_beginOn (answersTrack rounds) dialog options st⟩
  | replace dialog options =>
    obtain rfl := Option.some.inj hm
    exact ⟨fun rounds => replaceOn (answer rounds) rounds dialog options st, fun rounds => rfl,
      fun rounds => tracks_replaceOn (answersTrack rounds) dialog options st⟩
  | finish result =>
    obtain rfl := Option.some.inj hm
    exact ⟨fun rounds => finishOn (answer rounds) rounds result st, fun rounds => rfl,
      fun rounds => tracks_finishOn (answersTrack rounds) result st⟩
  | cancelAll => cases hm
  | send message => cases hm

/-- **A call that runs sessions returns exactly when its moments come to an end**, with the outcome
that has arrived then and with the stack of that moment. -/
theorem returns_iff_ends {c : Call} {st st' : Stack} {m : Moment} (hm : c.opening? st = some m)
    {outcome : Except DialogError (Option TurnStatus)} :
    Returns c st outcome st' ↔
      ∃ o, Ends next? m (arrived [] (o, st')) ∧ c.told o st' = outcome := by
  obtain ⟨x, hcall, hx⟩ := exists_computation hm
  have hends := fun y => Tracks.exists_iff_ends (arrived_injective []) next?_arrived_nil
    (not_isAborted_arrived []) hx (a := y)
  constructor
  · rintro ⟨rounds, h⟩
    rw [hcall] at h
    obtain ⟨⟨o, st''⟩, hy, he⟩ := Option.map_eq_some_iff.1 h
    obtain ⟨rfl, rfl⟩ := Prod.mk.inj he
    exact ⟨o, (hends _).1 ⟨rounds, hy⟩, rfl⟩
  · rintro ⟨o, ho, rfl⟩
    obtain ⟨rounds, hy⟩ := (hends _).2 ho
    exact ⟨rounds, by rw [hcall, hy, Option.map_some]⟩

/-- A call in which a run is aborted does not return. -/
theorem Aborts.not_returns {c : Call} {st : Stack} (h : Aborts c st) :
    ¬∃ outcome st', Returns c st outcome st' := by
  rintro ⟨outcome, st', hreturns⟩
  obtain ⟨m, ⟨m₀, hopen, hlead⟩, haborted⟩ := h
  obtain ⟨o, hends, -⟩ := (returns_iff_ends hopen).1 hreturns
  exact not_isAborted_arrived [] _ (hends.unique ⟨hlead, haborted.next?_eq_none⟩ ▸ haborted)

/-- A call that runs no session returns at once, and changes neither the order nor the state of the
sessions unless it removes them all. -/
theorem returns_of_opening?_eq_none {c : Call} {st st' : Stack} (hc : c.opening? st = none)
    {outcome : Except DialogError (Option TurnStatus)} :
    Returns c st outcome st' ↔
      (∃ activity, c = .continueTurn activity ∧ outcome = .ok (some .empty) ∧ st' = st) ∨
        (c = .cancelAll ∧ outcome = .ok none ∧ st' = st.cancelAll) ∨
        ∃ message, c = .send message ∧ outcome = .ok none ∧
          st' = { st with outbox := st.outbox.push message } := by
  cases c with
  | start | begin | replace | finish => cases hc
  | continueTurn activity =>
    have hframes : st.frames.isEmpty = true := by
      simpa [Call.opening?, top?] using hc
    simp [Returns, call, continueTurn, hframes, Except.map, eq_comm]
  | cancelAll => simp [Returns, call, eq_comm]
  | send message => simp [Returns, call, eq_comm]

end Stack

end Parley
