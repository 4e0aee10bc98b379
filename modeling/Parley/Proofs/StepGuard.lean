import Parley.Proofs.Course.Leeway
import Parley.Proofs.Course.Plain
import Parley.Proofs.Course.Turn

/-!
# The step guard is transparent

A dialog may take only so many passes in a run; a run that uses them up fails.  This guard is there
for dialogs that jump in circles, and nothing else looks at it: if no run of a call uses up its
budget, then the call returns in just the same way where dialogs may take more passes
(`Stack.step_guard_is_transparent`), with all that it sends and records, whatever callbacks do.

Each run of a call has a budget of its own.  The proof follows the recursion of `Stack.answer` and
compares what comes of a request on two stacks that differ in their dialogs only.  That no run uses
up its budget is known of all moments that are still to come (`Moment.Frugal`), and so it is known
wherever the recursion has got to.
-/

namespace Parley

open Stepping StatefulAttempt
open List (Forall₂)

/-! ### Dialogs that may take more passes -/

/-- The same dialogs, some of which may take more passes in a turn. -/
def DialogSet.Relaxed (dialogs dialogs' : DialogSet) : Prop :=
  Forall₂ (fun e e' => e'.1 = e.1 ∧ ∃ extra, e'.2 = e.2.relaxed extra) dialogs dialogs'

namespace DialogSet.Relaxed

variable {dialogs dialogs' : DialogSet} {id : String}

theorem get? (h : dialogs.Relaxed dialogs') (id : String) :
    Option.Rel (fun d d' => ∃ extra, d' = d.relaxed extra) (Keyed.get? dialogs id)
      (Keyed.get? dialogs' id) := by
  induction h with
  | nil => exact .none
  | @cons e e' es es' he _ ih =>
    obtain ⟨key, d⟩ := e
    obtain ⟨key', d'⟩ := e'
    obtain ⟨rfl, hd⟩ : key' = key ∧ ∃ extra, d' = d.relaxed extra := he
    rw [Keyed.get?_cons, Keyed.get?_cons]
    by_cases hkey : key' = id
    · rw [if_pos hkey, if_pos hkey]
      exact .some hd
    · rw [if_neg hkey, if_neg hkey]
      exact ih

theorem find_ok (h : dialogs.Relaxed dialogs') {d : Dialog} (hd : dialogs.find id = .ok d) :
    ∃ extra, dialogs'.find id = .ok (d.relaxed extra) := by
  have hrel := h.get? id
  unfold DialogSet.find at hd ⊢
  generalize Keyed.get? dialogs id = x, Keyed.get? dialogs' id = y at hrel hd ⊢
  cases hrel with
  | none => cases hd
  | some hextra =>
    obtain ⟨extra, rfl⟩ := hextra
    obtain rfl := Except.ok.inj hd
    exact ⟨extra, rfl⟩

theorem find_error (h : dialogs.Relaxed dialogs') {e : DialogError}
    (he : dialogs.find id = .error e) : dialogs'.find id = .error e := by
  have hrel := h.get? id
  unfold DialogSet.find at he ⊢
  generalize Keyed.get? dialogs id = x, Keyed.get? dialogs' id = y at hrel he ⊢
  cases hrel with
  | none => exact he
  | some => cases he

end DialogSet.Relaxed

namespace Stack

/-- The same stack on other dialogs. -/
def on (st : Stack) (dialogs : DialogSet) : Stack := { st with dialogs := dialogs }

@[simp] theorem dialogs_on (st : Stack) (dialogs : DialogSet) :
    (st.on dialogs).dialogs = dialogs := rfl

@[simp] theorem frames_on (st : Stack) (dialogs : DialogSet) :
    (st.on dialogs).frames = st.frames := rfl

@[simp] theorem pending_on (st : Stack) (dialogs : DialogSet) :
    (st.on dialogs).pending = st.pending := rfl

@[simp] theorem top?_on (st : Stack) (dialogs : DialogSet) :
    (st.on dialogs).top? = st.top? := rfl

@[simp] theorem frame?_on (st : Stack) (dialogs : DialogSet) (id : ℕ) :
    (st.on dialogs).frame? id = st.frame? id := rfl

@[simp] theorem undefer_on (st : Stack) (dialogs : DialogSet) (id : ℕ) :
    (st.on dialogs).undefer id = (st.undefer id).on dialogs := rfl

/-- In no run of a call a pass is to begin when the budget of the run is used up. -/
def WithinBudget (c : Call) (st : Stack) : Prop :=
  ∀ m, Occurs c st m → ∀ f d begun, RunBegins m f d begun →
    ∀ rounds t, Leads (d.next? (answer rounds)) begun t → ¬t.spot.UsedUp

end Stack

/-- From a moment on no run uses up its budget, and the dialogs may take more passes elsewhere. -/
structure Moment.Frugal (dialogs : DialogSet) (m : Moment) : Prop where
  relaxed : m.stack.dialogs.Relaxed dialogs
  begins : ∀ m', m.Leads m' → ∀ id task, m'.phase = .entering id task →
    ∃ f d begun, Stack.RunBegins m' f d begun ∧ f.id = id ∧
      ∀ rounds t, Stepping.Leads (d.next? (Stack.answer rounds)) begun t → ¬t.spot.UsedUp

namespace Moment.Frugal

variable {dialogs : DialogSet} {m m' : Moment}

theorem leads (h : m.Frugal dialogs) (hlead : m.Leads m') : m'.Frugal dialogs where
  relaxed := (dialogs_leads hlead).symm ▸ h.relaxed
  begins m'' hlead' := h.begins m'' (hlead.trans hlead')

theorem next (h : m.Frugal dialogs) (hnext : m.next? = some m') : m'.Frugal dialogs :=
  h.leads (.single hnext)

end Moment.Frugal

namespace Stack

open Moment (Frugal)

variable {dialogs : DialogSet} {rounds : ℕ} {K : List Suspended} {st : Stack}

/-! ### Computations and runs -/

/-- Requests are answered alike on both dialogs. -/
def AnswersAlike (dialogs : DialogSet) (rounds : ℕ) : Prop :=
  ∀ (r : Request) (st : Stack) (K : List Suspended) (id : ℕ) (taken : Session)
    (next : r.Answer → Remainder) (x : r.Answer × Stack),
    Frugal dialogs ⟨st, .running id taken (.ask r next), K⟩ → answer rounds r st = some x →
      answer rounds r (st.on dialogs) = some (x.1, x.2.on dialogs)

theorem run_on {α : Type} (halike : AnswersAlike dialogs rounds) {id : ℕ} {taken : Session}
    {part : HostM α} {next : α → Remainder} {a : α} {st' : Stack}
    (h : Frugal dialogs ⟨st, .running id taken (part >>= next), K⟩)
    (hrun : HostM.run (answer rounds) part st = some (a, st')) :
    HostM.run (answer rounds) part (st.on dialogs) = some (a, st'.on dialogs) ∧
      Frugal dialogs ⟨st', .running id taken (next a), K⟩ := by
  induction part generalizing st with
  | done value =>
    obtain ⟨rfl, rfl⟩ := Prod.mk.inj (Option.some.inj hrun)
    exact ⟨rfl, h⟩
  | ask r rest ih =>
    obtain ⟨⟨b, st₁⟩, hanswer, hrun⟩ := Option.bind_eq_some_iff.1 hrun
    have hlead := (Moment.answersTrack rounds r st K id taken fun b => rest b >>= next).leads
      hanswer
    obtain ⟨hrest, hfrugal⟩ := ih b (h.leads hlead) hrun
    refine ⟨Option.bind_eq_some_iff.2 ⟨(b, st₁.on dialogs), ?_, hrest⟩, hfrugal⟩
    exact halike r st K id taken _ (b, st₁) h hanswer
  | abort => cases hrun

theorem rest_run_eq (d : Dialog) (spot : Spot) (s : Session) :
    (d.rest spot).run.run s =
      ((d.stride spot).run.run s >>= fun x : Except DialogError Spot × Session =>
        match x.1 with
        | .ok next => (d.rest next).run.run x.2
        | .error e => .done (.error e, x.2) : Remainder) := by
  rw [d.rest_eq]
  refine bind_congr (m := HostM) fun x => ?_
  obtain ⟨o, s'⟩ := x
  cases o <;> rfl

/-- The stages of a run that does not use up its budget, where there is leeway. -/
theorem leads_extend (halike : AnswersAlike dialogs rounds) {d : Dialog} {id : ℕ} {taken : Session}
    {t t' : Stage Stack} (extra : ℕ)
    (h : Frugal dialogs ⟨t.host, .running id taken ((d.rest t.spot).run.run t.session), K⟩)
    (hspots : ∀ t', Leads (d.next? (answer rounds)) t t' → ¬t'.spot.UsedUp)
    (hlead : Leads (d.next? (answer rounds)) t t') :
    Leads ((d.relaxed extra).next? (answer rounds)) (t.extend extra fun w => w.on dialogs)
      (t'.extend extra fun w => w.on dialogs) := by
  obtain ⟨n, hn⟩ := hlead
  induction n generalizing t with
  | zero =>
    obtain rfl : t = t' := Option.some.inj hn
    exact .refl _
  | succ n ih =>
    rw [after_succ] at hn
    obtain ⟨t₁, hnext, hn⟩ := Option.bind_eq_some_iff.1 hn
    obtain ⟨o, hrun, hspot⟩ := Dialog.exists_runWith_of_next? hnext
    rw [rest_run_eq] at h
    obtain ⟨-, hfrugal⟩ := run_on halike h hrun
    have hfirst : (d.relaxed extra).next? (answer rounds) (t.extend extra fun w => w.on dialogs) =
        some (t₁.extend extra fun w => w.on dialogs) :=
      Dialog.next?_relaxed extra _ hnext (hspots t (.refl t)) fun x w hx => (run_on halike h hx).1
    refine .head hfirst (ih ?_ (fun t' hlead => hspots t' (.head hnext hlead)) hn)
    rw [hspot]
    cases o <;> exact hfrugal

/-! ### Requests that run sessions -/

theorem runFrame_on (halike : AnswersAlike dialogs rounds) {id : ℕ}
    {task : Dialog → SessionM TurnStatus} {x : Except DialogError TurnStatus × Stack}
    (h : Frugal dialogs ⟨st, .entering id task, K⟩)
    (hrun : runFrame (answer rounds) id task st = some x) :
    runFrame (answer rounds) id task (st.on dialogs) = some (x.1, x.2.on dialogs) := by
  obtain ⟨f, d, begun, ⟨htop, hfind, t, hphase, -, rfl⟩, rfl, hspots⟩ :=
    h.begins _ (.refl _) _ _ rfl
  obtain ⟨-, rfl⟩ := Phase.entering.inj hphase
  have hframe : st.frame? f.id = some f := frame?_of_top? htop
  obtain ⟨extra, hfind'⟩ := h.relaxed.find_ok hfind
  have hfind : st.dialogs.find f.dialog = .ok d := hfind
  simp only [runFrame, hframe, hfind] at hrun
  obtain ⟨y, hy, rfl⟩ := Option.map_eq_some_iff.1 hrun
  -- the run comes to its end where there is leeway as well
  have hends := (Dialog.runWith_rest_iff_ends ⟨.starting t, f.session, st.enter f.id⟩).1 hy
  have hlead := leads_extend halike extra (h.next (Moment.next?_entering hframe hfind))
    (fun t' => hspots rounds t') hends.1
  have hy' : HostM.run (answer rounds) ((t.on (d.relaxed extra)).run.run f.session)
      ((st.on dialogs).enter f.id) = some (y.1, y.2.on dialogs) :=
    (Dialog.runWith_rest_iff_ends ⟨.starting t, f.session, (st.on dialogs).enter f.id⟩).2
      ⟨hlead, rfl⟩
  simp only [runFrame, frame?_on, hframe, dialogs_on, hfind', hy', Option.map_some]
  obtain ⟨⟨o, s⟩, st'⟩ := y
  cases o <;> rfl

theorem frugal_stopped {id : ℕ} {task : Dialog → SessionM TurnStatus} {status : TurnStatus}
    {st' : Stack} (h : Frugal dialogs ⟨st, .entering id task, K⟩)
    (hrun : runFrame (answer rounds) id task st = some (.ok status, st')) :
    Frugal dialogs ⟨st', .stopped id status, K⟩ :=
  h.leads ((Moment.tracks_runFrame (Moment.answersTrack rounds) st task).leads hrun)

/-- When a session has stopped without an error, what follows is left to `next`. -/
def andThen (o : Outcome TurnStatus) (next : TurnStatus → Stack → Outcome TurnStatus) :
    Outcome TurnStatus :=
  match o with
  | some (.ok status, st) => next status st
  | failed => failed

theorem andThen_on {o o' : Outcome TurnStatus}
    {next next' : TurnStatus → Stack → Outcome TurnStatus}
    {x : Except DialogError TurnStatus × Stack}
    (ho : ∀ y, o = some y → o' = some (y.1, y.2.on dialogs))
    (hnext : ∀ status st', o = some (.ok status, st') → next status st' = some x →
      next' status (st'.on dialogs) = some (x.1, x.2.on dialogs))
    (hx : andThen o next = some x) : andThen o' next' = some (x.1, x.2.on dialogs) := by
  cases o with
  | none => cases hx
  | some y =>
    obtain ⟨outcome, st'⟩ := y
    rw [ho _ rfl]
    cases outcome with
    | ok status => exact hnext status st' rfl hx
    | error e =>
      obtain rfl := Option.some.inj hx
      rfl

theorem deliver_on (halike : AnswersAlike dialogs rounds) {id : ℕ} (k : ℕ) {status : TurnStatus}
    {x : Except DialogError TurnStatus × Stack} (h : Frugal dialogs ⟨st, .stopped id status, K⟩)
    (hrun : deliver (answer rounds) id k status st = some x) :
    deliver (answer rounds) id k status (st.on dialogs) = some (x.1, x.2.on dialogs) := by
  induction k generalizing status st with
  | zero =>
    unfold deliver at hrun ⊢
    simp only [pending_on, undefer_on, top?_on] at hrun ⊢
    cases hp : st.pending.lookup id with
    | none =>
      simp only [hp] at hrun
      obtain rfl := Option.some.inj hrun
      rfl
    | some input =>
      by_cases htop : ((st.undefer id).top?.map Frame.id) = some id
      · simp only [hp, htop, if_true] at hrun
        cases hrun
      · simp only [hp, htop, if_false] at hrun ⊢
        obtain rfl := Option.some.inj hrun
        rfl
  | succ k ih =>
    unfold deliver at hrun ⊢
    simp only [pending_on, undefer_on, top?_on] at hrun ⊢
    cases hp : st.pending.lookup id with
    | none =>
      simp only [hp] at hrun
      obtain rfl := Option.some.inj hrun
      rfl
    | some input =>
      by_cases htop : ((st.undefer id).top?.map Frame.id) = some id
      · simp only [hp, htop, if_true] at hrun ⊢
        have hentering := h.next (Moment.next?_stopped_of_top hp htop)
        refine andThen_on
          (fun y hy => runFrame_on halike hentering hy) ?_ hrun
        intro status' st' hstopped
        exact ih (frugal_stopped hentering hstopped)
      · simp only [hp, htop, if_false] at hrun ⊢
        obtain rfl := Option.some.inj hrun
        rfl

theorem runTop_on (halike : AnswersAlike dialogs rounds) {frame : Frame}
    {task : Dialog → SessionM TurnStatus} {x : Except DialogError TurnStatus × Stack}
    (htop : st.top? = some frame) (h : Frugal dialogs ⟨st, .entering frame.id task, K⟩)
    (hrun : runTop (answer rounds) rounds task st = some x) :
    runTop (answer rounds) rounds task (st.on dialogs) = some (x.1, x.2.on dialogs) := by
  simp only [runTop, top?_on, htop] at hrun ⊢
  refine andThen_on
    (fun y hy => runFrame_on halike h hy) ?_ hrun
  intro status st' hstopped
  exact deliver_on halike rounds (frugal_stopped h hstopped)

theorem beginOn_on (halike : AnswersAlike dialogs rounds) {dialog : String}
    {options : LaunchOptions} {x : Except DialogError TurnStatus × Stack}
    (hrelaxed : st.dialogs.Relaxed dialogs)
    (h : Frugal dialogs ⟨(st.beginning dialog options).1, (st.beginning dialog options).2, K⟩)
    (hrun : beginOn (answer rounds) rounds dialog options st = some x) :
    beginOn (answer rounds) rounds dialog options (st.on dialogs) =
      some (x.1, x.2.on dialogs) := by
  unfold beginning at h
  unfold beginOn at hrun ⊢
  rw [dialogs_on]
  cases hd : st.dialogs.find dialog with
  | error e =>
    simp only [hd] at hrun
    obtain rfl := Option.some.inj hrun
    simp only [hrelaxed.find_error hd]
  | ok d =>
    simp only [hd] at h hrun
    obtain ⟨extra, hd'⟩ := hrelaxed.find_ok hd
    simp only [hd']
    have htop := top?_push (st.note (.beginningDialog dialog st.nextFrame st.depth)) dialog options
    have hrun' := runTop_on halike htop h hrun
    exact hrun'

theorem replaceOn_on (halike : AnswersAlike dialogs rounds) {dialog : String}
    {options : LaunchOptions} {x : Except DialogError TurnStatus × Stack}
    (hrelaxed : st.dialogs.Relaxed dialogs)
    (h : Frugal dialogs ⟨(st.replacing dialog options).1, (st.replacing dialog options).2, K⟩)
    (hrun : replaceOn (answer rounds) rounds dialog options st = some x) :
    replaceOn (answer rounds) rounds dialog options (st.on dialogs) =
      some (x.1, x.2.on dialogs) := by
  unfold replacing at h
  unfold replaceOn at hrun ⊢
  rw [dialogs_on, frames_on]
  cases hd : st.dialogs.find dialog with
  | error e =>
    simp only [hd] at hrun
    obtain rfl := Option.some.inj hrun
    simp only [hrelaxed.find_error hd]
  | ok d =>
    simp only [hd] at h hrun
    obtain ⟨extra, hd'⟩ := hrelaxed.find_ok hd
    simp only [hd']
    cases hframes : st.frames with
    | nil =>
      simp only [hframes] at h hrun
      exact beginOn_on halike hrelaxed h hrun
    | cons frame rest =>
      simp only [hframes] at h hrun
      have hrelaxed' : (note { st with frames := rest }
          (.replacingDialog frame.dialog dialog)).dialogs.Relaxed dialogs := hrelaxed
      have hrun' := beginOn_on halike hrelaxed' h hrun
      exact hrun'

theorem finishOn_on (halike : AnswersAlike dialogs rounds) {result : Option DialogResult}
    {x : Except DialogError TurnStatus × Stack}
    (h : Frugal dialogs ⟨(st.finishing result).1, (st.finishing result).2, K⟩)
    (hrun : finishOn (answer rounds) rounds result st = some x) :
    finishOn (answer rounds) rounds result (st.on dialogs) = some (x.1, x.2.on dialogs) := by
  unfold finishing at h
  unfold finishOn at hrun ⊢
  rw [frames_on]
  cases hframes : st.frames with
  | nil =>
    simp only [hframes] at hrun
    obtain rfl := Option.some.inj hrun
    rfl
  | cons frame rest =>
    cases rest with
    | nil =>
      cases result <;> simp only [hframes] at hrun <;> obtain rfl := Option.some.inj hrun <;> rfl
    | cons parent rest =>
      by_cases hp : parent.id ∈ st.executing
      · cases result <;> simp only [hframes, hp, if_true] at hrun <;>
          obtain rfl := Option.some.inj hrun <;> exact if_pos hp
      · cases result with
        | none =>
          simp only [hframes, hp, if_false, drop] at h hrun
          refine (if_neg hp).trans (runTop_on halike ?_ h hrun)
          rfl
        | some r =>
          simp only [hframes, hp, if_false, drop] at h hrun
          refine (if_neg hp).trans (runTop_on halike ?_ h hrun)
          rfl

theorem answersAlike (dialogs : DialogSet) (rounds : ℕ) : AnswersAlike dialogs rounds := by
  induction rounds with
  | zero =>
    intro r st K id taken next x h hanswer
    cases r with
    | begin | replace | finish => cases hanswer
    | send | active | note | seed | cancelAll =>
      obtain rfl := Option.some.inj hanswer
      rfl
  | succ rounds ih =>
    intro r st K id taken next x h hanswer
    have hasked := h.next rfl
    cases r with
    | begin dialog options => exact beginOn_on ih h.relaxed hasked hanswer
    | replace dialog options => exact replaceOn_on ih h.relaxed hasked hanswer
    | finish result => exact finishOn_on ih hasked hanswer
    | send | active | note | seed | cancelAll =>
      obtain rfl := Option.some.inj hanswer
      rfl

/-! ### Calls -/

variable {c : Call}

theorem dialogs_opened {m : Moment} (hm : c.opening? st = some m) :
    m.stack.dialogs = st.dialogs := by
  cases c with
  | start dialog options | begin dialog options =>
    obtain rfl := Option.some.inj hm
    exact Moment.dialogs_beginning st dialog options
  | replace dialog options =>
    obtain rfl := Option.some.inj hm
    exact Moment.dialogs_asked ⟨st, .answering (.ok .empty), []⟩ 0 default
      (.replace dialog options) fun _ => .done (.ok .empty, default)
  | finish result =>
    obtain rfl := Option.some.inj hm
    exact Moment.dialogs_asked ⟨st, .answering (.ok .empty), []⟩ 0 default (.finish result)
      fun _ => .done (.ok .empty, default)
  | continueTurn activity =>
    obtain ⟨frame, -, rfl⟩ := Option.map_eq_some_iff.1 hm
    rfl
  | cancelAll | send => cases hm

/-- In a call that stays within its budgets, no run uses up its budget from the first moment on. -/
theorem WithinBudget.frugal (hbudget : WithinBudget c st) (h : st.Reachable)
    (hrelaxed : st.dialogs.Relaxed dialogs) {m : Moment} (hm : c.opening? st = some m) :
    Frugal dialogs m where
  relaxed := (dialogs_opened hm).symm ▸ hrelaxed
  begins m' hlead id task hphase := by
    have hoccurs : Occurs c st m' := ⟨m, hm, hlead⟩
    obtain ⟨f, d, begun, hbegins, hid⟩ := exists_runBegins h hoccurs hphase
    exact ⟨f, d, begun, hbegins, hid, hbudget m' hoccurs f d begun hbegins⟩

theorem call_on (hrelaxed : st.dialogs.Relaxed dialogs)
    (hfrugal : ∀ m, c.opening? st = some m → Frugal dialogs m)
    {x : Except DialogError (Option TurnStatus) × Stack} (hcall : st.call rounds c = some x) :
    (st.on dialogs).call rounds c = some (x.1, x.2.on dialogs) := by
  have halike := answersAlike dialogs rounds
  cases c with
  | start dialog options =>
    simp only [call, start, settled, Option.map_map] at hcall ⊢
    obtain ⟨y, hy, rfl⟩ := Option.map_eq_some_iff.1 hcall
    rw [beginOn_on halike hrelaxed (hfrugal _ rfl) hy, Option.map_some]
    rfl
  | continueTurn activity =>
    cases hframes : st.frames with
    | nil =>
      simp only [call, continueTurn, frames_on, hframes, List.isEmpty_nil, if_true,
        Option.map_some] at hcall ⊢
      obtain rfl := Option.some.inj hcall
      rfl
    | cons frame rest =>
      have htop : st.top? = some frame := by rw [top?, hframes, List.head?_cons]
      simp only [call, continueTurn, settled, frames_on, hframes, List.isEmpty_cons,
        Bool.false_eq_true, if_false, Option.map_map] at hcall ⊢
      obtain ⟨y, hy, rfl⟩ := Option.map_eq_some_iff.1 hcall
      have hopened : (Call.continueTurn activity).opening? st =
          some ⟨st, .entering frame.id (·.continueWith activity), []⟩ := by
        rw [Call.opening?, htop, Option.map_some]
      rw [runTop_on halike htop (hfrugal _ hopened) hy, Option.map_some]
      rfl
  | begin dialog options =>
    simp only [call] at hcall ⊢
    obtain ⟨y, hy, rfl⟩ := Option.map_eq_some_iff.1 hcall
    rw [beginOn_on halike hrelaxed (hfrugal _ rfl) hy, Option.map_some]
  | replace dialog options =>
    simp only [call] at hcall ⊢
    obtain ⟨y, hy, rfl⟩ := Option.map_eq_some_iff.1 hcall
    rw [replaceOn_on halike hrelaxed (hfrugal _ rfl) hy, Option.map_some]
  | finish result =>
    simp only [call] at hcall ⊢
    obtain ⟨y, hy, rfl⟩ := Option.map_eq_some_iff.1 hcall
    rw [finishOn_on halike (hfrugal _ rfl) hy, Option.map_some]
  | cancelAll | send =>
    obtain rfl := Option.some.inj hcall
    rfl

/-- **The step guard is transparent.**  If a call returns and no run in it uses up its budget, then
it returns where dialogs may take more passes as well, and nothing comes out different: neither the
status or the error, nor what is sent, recorded and noted, nor the sessions that are left, each with
its state. -/
theorem step_guard_is_transparent (h : st.Reachable)
    {outcome : Except DialogError (Option TurnStatus)} {left : Stack}
    (hreturns : Returns c st outcome left) (hbudget : WithinBudget c st)
    (hrelaxed : st.dialogs.Relaxed dialogs) :
    Returns c (st.on dialogs) outcome (left.on dialogs) := by
  obtain ⟨rounds, hcall⟩ := hreturns
  exact ⟨rounds, call_on hrelaxed (fun _ hm => hbudget.frugal h hrelaxed hm) hcall⟩

/-! ### Two greetings -/

/-- A run ends because its budget is used up, or with an error that tells so. -/
def guarded (m : Moment) : Bool :=
  match m.phase with
  | .running _ _ (.done (.error (.stepGuard ..), _)) => true
  | _ => false

/-- If no run fails by the guard, no run uses up its budget. -/
theorem withinBudget_of_not_guarded (h : ∀ m, Occurs c st m → guarded m = false) :
    WithinBudget c st := by
  rintro m hm f d begun hbegun rounds ⟨_, s, w⟩ hlead ⟨cursor, input, rfl⟩
  have hends : Ends (d.next? (answer rounds)) begun
      (Stage.final ((.error (.stepGuard d.id d.options.maxSteps s.location), s), w)) :=
    ⟨hlead.tail Dialog.next?_arriving_of_usedUp, rfl⟩
  obtain ⟨m₀, hm₀, hlead₀⟩ := hm
  cases h _ ⟨m₀, hm₀, hlead₀.trans (hbegun.leads_done hends)⟩

/-- Whether no run fails by the guard from a moment on, if there are so few to come. -/
def unguarded : ℕ → Moment → Bool
  | 0, _ => false
  | n + 1, m => !guarded m && m.next?.all (unguarded n)

theorem guarded_eq_false_of_leads {n : ℕ} {m m' : Moment} (h : unguarded n m = true)
    (hlead : m.Leads m') : guarded m' = false := by
  obtain ⟨k, hk⟩ := hlead
  induction k generalizing n m with
  | zero =>
    obtain rfl : m = m' := Option.some.inj hk
    cases n with
    | zero => cases h
    | succ n =>
      rw [unguarded, Bool.and_eq_true, Bool.not_eq_true'] at h
      exact h.1
  | succ k ih =>
    rw [after_succ] at hk
    obtain ⟨m₁, hnext, hk⟩ := Option.bind_eq_some_iff.1 hk
    cases n with
    | zero => cases h
    | succ n =>
      rw [unguarded, Bool.and_eq_true, hnext, Option.all_some] at h
      exact ih h.2 hk

/-- A dialog that says hello and takes all the passes it may. -/
def hello : Dialog :=
  (Dialog.empty "hello" { seed := some 7, maxSteps := 2 }).say (.ofText "Hello.")

/-- A dialog that has somebody say hello before it says something itself. -/
def welcome : Dialog :=
  ((Dialog.empty "welcome" { seed := some 7, maxSteps := 2 }).say (.ofText "Welcome.")).addBefore
    defaultThread (Routine.before [.begin "hello" {}])

/-- An empty stack of the two dialogs. -/
def porch : Stack := Stack.empty [("hello", hello), ("welcome", welcome)] fun _ => 0

/-- The same two dialogs with one pass to spare, and with a hundred. -/
def patient : DialogSet := [("hello", hello.relaxed 1), ("welcome", welcome.relaxed 100)]

/-- The stack on which both have been said. -/
def welcomed : Stack := porch.behind 2 (.start "welcome" {})

/-- The texts that are to be delivered. -/
def texts (st : Stack) : List String := st.outbox.toList.map OutgoingMessage.text

theorem call_welcomed :
    porch.call 2 (.start "welcome" {}) = some (.ok (some .complete), welcomed) ∧
      texts welcomed = ["Hello.", "Welcome."] :=
  call_behind (by decide +kernel)

theorem porch_withinBudget : WithinBudget (.start "welcome" {}) porch := by
  refine withinBudget_of_not_guarded ?_
  rintro m ⟨m₀, hm₀, hlead⟩
  obtain rfl := Option.some.inj hm₀
  exact guarded_eq_false_of_leads (n := 60) (by decide +kernel) hlead

theorem patient_relaxed : porch.dialogs.Relaxed patient :=
  .cons ⟨rfl, 1, rfl⟩ (.cons ⟨rfl, 100, rfl⟩ .nil)

/-- Both are said just the same where the dialogs may take more passes. -/
theorem step_guard_is_transparent_welcome :
    porch.Reachable ∧ Returns (.start "welcome" {}) porch (.ok (some .complete)) welcomed ∧
      texts welcomed = ["Hello.", "Welcome."] ∧
      WithinBudget (.start "welcome" {}) porch ∧ porch.dialogs.Relaxed patient ∧
      Returns (.start "welcome" {}) (porch.on patient) (.ok (some .complete))
        (welcomed.on patient) :=
  have hreturns := ⟨2, call_welcomed.1⟩
  ⟨.empty _ _, hreturns, call_welcomed.2, porch_withinBudget, patient_relaxed,
    step_guard_is_transparent (.empty _ _) hreturns porch_withinBudget patient_relaxed⟩

end Stack

end Parley
