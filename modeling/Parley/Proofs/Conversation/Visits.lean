import Parley.Proofs.Conversation.Desk
import Parley.Proofs.Flat.Agreement

/-!
# Visits

A `Visit` is one run of a session's script on the flat machine: the sessions as they were, what the
session was to do, how the script left it and what it asked for.  A `Stack.Conversation` is what a
channel makes of a stack: one dialog is started on an empty stack, and then activities come in, and
no call fails.  It comes with the sessions that the engine enters on the way, each as it is then and
with the sessions that are below it.

Since the engine refines the flat machine, the sessions it enters in a turn are those of the visits
of that turn (`Stack.Quiescent.exists_visits`).  `opener?` looks up, among the visits so far, the
one in which a session was begun.
-/

namespace Parley

open Stepping

/-- One run of a session's script. -/
structure Visit where
  /-- The session on top, as it was. -/
  frame : Frame
  /-- The sessions below it. -/
  below : List Frame
  task : Task
  /-- The session as the script left it. -/
  left : Session
  /-- What the script asked for. -/
  asked : Option Handover
  /-- The number of the next session to be begun. -/
  next : ℕ

/-- Which session it is: its number, and its dialog. -/
def Frame.label (f : Frame) : ℕ × String := (f.id, f.dialog)

/-- What is entered: a session as it is then, which sessions are below it, and what it is to do. -/
structure Entry where
  frame : Option Frame
  below : List (ℕ × String)
  task : Dialog → SessionM TurnStatus

namespace Visit

/-- What is entered at a visit. -/
def entry (v : Visit) : Entry := ⟨some v.frame, v.below.map Frame.label, v.task.on⟩

/-- The script of the session does what the visit says, on the stack of the visit, and does not
fail. -/
def Happens (dialogs : DialogSet) (v : Visit) : Prop :=
  ∃ d status st st', dialogs.find v.frame.dialog = .ok d ∧ st.frames = v.frame :: v.below ∧
    st.nextFrame = v.next ∧
    Flat.work (v.task.on d) ⟨v.frame.session, none⟩ st = some (.ok status, ⟨v.left, v.asked⟩, st')

end Visit

/-- The visit in which the session of a number was begun, or else the one that it took the place of,
among visits of which the latest comes first. -/
def opener? : List Visit → ℕ → Option Visit
  | [], _ => none
  | v :: earlier, id =>
    if v.next = id then
      match v.asked with
      | some (.begin _ _) => some v
      | some (.replace _ _) => opener? earlier v.frame.id
      | some (.finish _) | none => opener? earlier id
    else opener? earlier id

/-- The visit that a state of the flat machine is about to make.  A script that is aborted leaves
its session as it was. -/
def Flat.visit? : Flat → Option Visit
  | halted _ _ | aborted _ => none
  | running task st =>
    match st.frames with
    | [] => none
    | frame :: below =>
      match st.dialogs.find frame.dialog with
      | .error _ => none
      | .ok d =>
        let desk := match work (task.on d) ⟨frame.session, none⟩ st with
          | some (_, desk, _) => desk
          | none => ⟨frame.session, none⟩
        some ⟨frame, below, task, desk.session, desk.asked, st.nextFrame⟩

/-- What the engine is about to enter. -/
def Moment.entrance? (m : Moment) : Option Entry :=
  match m.phase with
  | .entering id task =>
    some ⟨m.stack.frame? id, m.stack.frames.tail.map Frame.label, task⟩
  | .running .. | .stopped .. | .answering _ => none

namespace Stack

/-- What is entered in a call, one after the other. -/
def Enters (c : Call) (st : Stack) (entries : List Entry) : Prop :=
  match c.opening? st with
  | some m => ∃ m', Shows Moment.next? Moment.entrance? m entries m'
  | none => entries = []

/-- A stack in the course of a conversation, and what has been entered so far: one dialog is started
on an empty stack, activities come in, messages are taken out, and no call fails. -/
inductive Conversation : Stack → List Entry → Prop where
  | start {st st' : Stack} {dialog : String} {options : LaunchOptions} {status : Option TurnStatus}
      {entries : List Entry} (hreachable : st.Reachable) (hempty : st.frames = [])
      (hreturns : Returns (.start dialog options) st (.ok status) st')
      (henters : Enters (.start dialog options) st entries) : Conversation st' entries
  | turn {st st' : Stack} {activity : Activity} {status : Option TurnStatus}
      {entries entries' : List Entry} (h : Conversation st entries)
      (hreturns : Returns (.continueTurn activity) st (.ok status) st')
      (henters : Enters (.continueTurn activity) st entries') :
      Conversation st' (entries ++ entries')
  | drain {st : Stack} {entries : List Entry} (h : Conversation st entries) :
      Conversation st.drain.2 entries

theorem Conversation.reachable {st : Stack} {entries : List Entry} (h : st.Conversation entries) :
    st.Reachable := by
  induction h with
  | start hreachable _ hreturns _ => exact hreachable.call hreturns
  | turn _ hreturns _ ih => exact ih.call hreturns
  | drain _ ih => exact ih.drain

theorem Returns.exists_enters {c : Call} {st st' : Stack}
    {outcome : Except DialogError (Option TurnStatus)} (h : Returns c st outcome st') :
    ∃ entries, Enters c st entries := by
  unfold Enters
  cases hopen : c.opening? st with
  | none => exact ⟨[], rfl⟩
  | some m =>
    obtain ⟨o, hends, -⟩ := (returns_iff_ends hopen).1 h
    have hshows : ∃ entries, Shows Moment.next? Moment.entrance? m entries _ := hends.shows rfl
    obtain ⟨entries, hentries⟩ := hshows
    exact ⟨entries, _, hentries⟩

end Stack

/-! ### Entries are those of the visits -/

namespace Moment

theorem entrance?_eq_none {m : Moment} (h : m.entered? = none) : m.entrance? = none := by
  obtain ⟨st, phase, K⟩ := m
  cases phase with
  | entering id task => cases h
  | running | stopped | answering => rfl

/-- What is entered is the session of a visit, as it is then. -/
theorem Follows.exists_visit {m : Moment} {t t' : Flat} (h : m.Follows t)
    (hstep : t.next? = some t') : ∃ v, m.entrance? = some v.entry ∧ t.visit? = some v := by
  obtain ⟨hsound, -, hagrees⟩ := h
  cases hagrees with
  | halted | aborted => cases hstep
  | @running st K W hwait id task =>
    obtain ⟨hnot, f, htop, rfl⟩ : id ∉ st.executing ∧ ∃ f, st.top? = some f ∧ f.id = id :=
      hsound.phase
    obtain ⟨rest, hframes⟩ := Stack.top?_eq_some_iff.1 htop
    obtain ⟨d, hd⟩ := hsound.orderly.registered f (Stack.mem_frames_of_top? htop)
    -- nothing is going to be written back for a session that does not run
    have hframes' : (st.calm W).frames = f :: rest.map (Frame.written W) := by
      rw [Stack.frames_calm_cons hframes, Stack.written_of_not_mem (hwait.keys ▸ hnot)]
    have hd' : (st.calm W).dialogs.find f.dialog = .ok d := hd
    refine ⟨_, ?_, by simp only [Flat.visit?, hframes', hd']; rfl⟩
    have hlabels : (rest.map (Frame.written W)).map Frame.label = rest.map Frame.label := by
      rw [List.map_map]
      rfl
    simp only [entrance?, Stack.frame?_of_top? htop, hframes, List.tail_cons, Visit.entry, hlabels]

/-- Step by step, the engine enters what the flat machine visits. -/
theorem refines_visits :
    Refines next? entrance? Flat.next? Flat.visit? Visit.entry Follows :=
  refines.reseen (fun _ => entrance?_eq_none) (fun t ht => by
    cases t with
    | halted | aborted => rfl
    | running task st =>
      have : st.frames = [] := by simpa [Flat.entered?, Stack.top?] using ht
      simp only [Flat.visit?, this])
    fun _ _ _ h hstep => h.exists_visit hstep

end Moment

/-! ### Turns -/

/-- The visits that a turn makes which does not fail, and the stack behind it. -/
def Flat.Makes (c : Stack.Call) (st : Stack) (visits : List Visit) (st' : Stack) : Prop :=
  match opening? c st with
  | some t => ∃ status, Shows next? visit? t visits (halted (.ok status) st')
  | none => visits = [] ∧ st' = st

namespace Stack

theorem Quiescent.exists_visits {st st' : Stack} {c : Call} {status : Option TurnStatus}
    {entries : List Entry} (h : st.Quiescent) (hfree : st.CallbackFree) (hc : c.IsTurn)
    (hreturns : Returns c st (.ok status) st') (henters : Enters c st entries) :
    ∃ visits, entries = visits.map Visit.entry ∧ Flat.Makes c st visits st' := by
  rcases h.openings hc with ⟨m, t, m', hm, ht, hglide, hagrees⟩ | ⟨hm, ht, activity, rfl⟩
  · have hfollows := follows_opening h hfree hm hglide hagrees
    rw [Enters, hm] at henters
    obtain ⟨m'', henters⟩ := henters
    obtain ⟨o, hends, ho⟩ := (returns_iff_ends hm).1 hreturns
    obtain rfl := henters.ends.unique hends
    obtain ⟨visits, t', rfl, hvisits, hfollows'⟩ := Moment.refines_visits.shows_of_glides henters
      (hglide.reseen fun _ => Moment.entrance?_eq_none) hfollows
    obtain ⟨o', hsame, rfl⟩ := hfollows'.agrees.arrived_left
    refine ⟨visits, rfl, ?_⟩
    rw [told_of_isTurn hc] at ho
    rw [Flat.Makes, ht]
    cases o with
    | error e => cases ho
    | ok status =>
      cases o' with
      | error e => cases hsame
      | ok status => exact ⟨status, hvisits⟩
  · -- there is nothing to go on with
    rw [Enters, hm] at henters
    rcases (returns_of_opening?_eq_none hm).1 hreturns with
      ⟨-, -, -, rfl⟩ | ⟨hc, -⟩ | ⟨message, hc, -⟩
    · refine ⟨[], henters, ?_⟩
      rw [Flat.Makes, ht]
      exact ⟨rfl, rfl⟩
    · cases hc
    · cases hc

end Stack

end Parley
