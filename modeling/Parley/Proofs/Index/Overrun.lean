import Parley.Proofs.Answering
import Parley.Proofs.Course.Plain
import Parley.Proofs.Ending

/-!
# Going on behind the last line

The place where a session goes on may lie behind the last line of its thread, by one line or by far:
a session that is restored stands wherever its snapshot says.  Such a run comes straight to where a
dialog ends (`Dialog.Behind.leads_closing`), just as a run does that has got there line by line, and
the next thing that becomes of the stack is that the session is taken off with its result
(`Moment.exists_takesOff`).

A session without a next line does not get as far as that: its run is aborted before anything else,
wherever it was to go on (`Moment.exists_isAborted`).
-/

namespace Parley

open Stepping StatefulAttempt

/-- What is left of a run ends its dialog with a result.  Before that it only looks who is active,
and notes something. -/
inductive Remainder.Finishes (result : DialogResult) : Remainder → Prop where
  | finish (next : Except DialogError TurnStatus → Remainder) :
      Finishes result (.ask (.finish (some result)) next)
  | active {next : Option String → Remainder} (h : ∀ id, Finishes result (next (some id))) :
      Finishes result (.ask .active next)
  | note {event : Event} {next : Unit → Remainder} (h : Finishes result (next ())) :
      Finishes result (.ask (.note event) next)

theorem Session.result_ended (s : Session) :
    s.ended.result = ⟨if s.status = .running then .completed else s.status, s.values⟩ := by
  unfold ended
  split <;> rfl

/-- Whatever is asked, no answer comes. -/
def unanswered (r : Request) (_ : PUnit) : Option (r.Answer × PUnit) := none

theorem HostM.eq_done_of_run_unanswered {α : Type} {x : HostM α} {y : α} {w w' : PUnit}
    (h : HostM.run unanswered x w = some (y, w')) : x = .done y := by
  cases x with
  | done value =>
    obtain ⟨rfl, -⟩ := Prod.mk.inj (Option.some.inj h)
    rfl
  | ask | abort => cases h

/-- What a task has a session go on with, if it does. -/
def Task.goesOnWith? : Task → Option (Option TurnInput)
  | begin => none
  | resume input => some input
  | continueWith activity => if activity.isMessage then some (some (.message activity)) else none

namespace Dialog

variable (d : Dialog)

/-- A place behind the last line of its thread, where an input is no answer to that line. -/
structure Behind (cursor : Location) (input : Option TurnInput) (lines : List Line) : Prop where
  thread : d.script.thread? cursor.thread = some lines
  length_le : lines.length ≤ cursor.index
  ne_zero : cursor.index ≠ 0
  takenAt : d.takenAt cursor input = none

variable {d} {cursor : Location} {input : Option TurnInput} {lines : List Line} {s : Session}
  {task : Task}

/-- Only the line before could have asked for an answer. -/
theorem behind_of_length_lt (hlines : d.script.thread? cursor.thread = some lines)
    (hlt : lines.length < cursor.index) (input : Option TurnInput) :
    d.Behind cursor input lines := by
  refine ⟨hlines, Nat.le_of_lt hlt, Nat.ne_of_gt (Nat.zero_lt_of_lt hlt), ?_⟩
  obtain ⟨index, hindex⟩ := Nat.exists_eq_succ_of_ne_zero (Nat.ne_of_gt (Nat.zero_lt_of_lt hlt))
  have hnone : lines[index]? = none :=
    List.getElem?_eq_none (Nat.le_of_lt_succ (hindex ▸ hlt))
  rw [Dialog.takenAt, collectorAt, hlines, Option.bind_some, hindex, collectBefore, hnone,
    Option.bind_none, Option.map₂_none_right]

theorem stride_starting (hinput : task.goesOnWith? = some input) :
    d.stride (.starting task) = d.resuming input := by
  cases task with
  | begin => cases hinput
  | resume input' =>
    obtain rfl := Option.some.inj hinput
    rfl
  | continueWith activity =>
    rw [Task.goesOnWith?] at hinput
    split at hinput
    case isTrue h =>
      obtain rfl := Option.some.inj hinput
      rw [stride, if_pos h]
    case isFalse => cases hinput

theorem on_eq_resume (hinput : task.goesOnWith? = some input) : task.on d = d.resume input := by
  rw [show task.on d = d.rest (.starting task) from rfl, rest_eq, stride_starting hinput,
    ← resume_eq]

/-- A run that goes on without any answer has not asked, so what is left of it is the same. -/
theorem run_rest_of_leads {a b : Spot} {s' : Session}
    (h : Leads (d.next? unanswered) ⟨a, s, ()⟩ ⟨b, s', ()⟩) :
    (d.rest a).run.run s = (d.rest b).run.run s' := by
  let I (t : Stage PUnit) : Prop := (d.rest a).run.run s = (d.rest t.spot).run.run t.session
  refine h.invariant (I := I) rfl fun t t' ht hnext => ht.trans ?_
  obtain ⟨o, hrun, hreached⟩ := exists_runWith_of_next? hnext
  -- a stride that no answer has come to is done, with the same outcome on any host
  rw [d.rest_eq]
  show HostM.bind ((d.stride t.spot).run.run t.session) _ = _
  rw [HostM.eq_done_of_run_unanswered hrun, hreached]
  cases o <;> rfl

theorem finishes_closing (d : Dialog) (s : Session) :
    Remainder.Finishes s.ended.result ((d.rest .closing).run.run s) :=
  .active fun _ => .note (.finish _)

theorem finishes_checking {budget : ℕ} (hline : lines[cursor.index]? = none) :
    Remainder.Finishes s.ended.result ((d.rest (.checking budget lines cursor)).run.run s) := by
  have hstride : d.stride (.checking budget lines cursor) =
      (Attempt.active : SessionM _) >>= fun _ => pure .closing := by
    rw [stride]
    refine bind_congr fun active => ?_
    cases active with
    | none => rfl
    | some id =>
      rw [hline]
      rfl
  rw [d.rest_eq, hstride]
  exact .active fun _ => d.finishes_closing s

namespace Behind

theorem stride_settling (h : d.Behind cursor input lines) (budget : ℕ) :
    d.stride (.settling budget lines ⟨cursor, input⟩) = pure (.checking budget lines cursor) := by
  have htaken : (Spot.settling budget lines ⟨cursor, input⟩).taken? = none :=
    (taken?_settling h.thread input).trans h.takenAt
  rw [Spot.taken?] at htaken
  rw [stride]
  cases hanswer : (⟨cursor, input⟩ : Pass).answer with
  | none => rfl
  | some answer =>
    cases hcollect : collectBefore lines cursor.index with
    | none => rfl
    | some collect =>
      rw [hanswer, hcollect] at htaken
      cases htaken

/-- A run that goes on behind the last line asks its host for nothing, until it has seen that there
is no line. -/
theorem leads_checking (h : d.Behind ⟨s.thread, s.resumePoint⟩ input lines) (hs : s.HasNext)
    {budget : ℕ} (hbudget : d.options.maxSteps = budget + 1)
    (hinput : task.goesOnWith? = some input) {η : Type}
    (host : (r : Request) → η → Option (r.Answer × η)) (w : η) :
    Leads (d.next? host) ⟨.starting task, s, w⟩
      ⟨.checking budget lines ⟨s.thread, s.resumePoint⟩, s.resumed, w⟩ := by
  have hstarting : d.next? host ⟨.starting task, s, w⟩ =
      some ⟨.arriving (budget + 1) ⟨s.thread, s.resumePoint⟩ input,
        { s with resumeIndex := none }, w⟩ := by
    refine next?_of_runWith (fun _ h => by cases h) ?_
    rw [runWith, stride_starting hinput, run_resuming, if_pos hs, hbudget]
    rfl
  have harriving : d.next? host
      ⟨.arriving (budget + 1) ⟨s.thread, s.resumePoint⟩ input, { s with resumeIndex := none }, w⟩ =
      some ⟨.settling budget lines ⟨⟨s.thread, s.resumePoint⟩, input⟩, s.resumed, w⟩ := by
    rw [next?_arriving h.thread, if_neg h.ne_zero]
    rfl
  have hsettling : d.next? host
      ⟨.settling budget lines ⟨⟨s.thread, s.resumePoint⟩, input⟩, s.resumed, w⟩ =
      some ⟨.checking budget lines ⟨s.thread, s.resumePoint⟩, s.resumed, w⟩ :=
    next?_of_stride_eq_pure (fun _ h => by cases h) (h.stride_settling budget)
  exact ((Leads.single hstarting).tail harriving).tail hsettling

/-- **Behind the last line** a run comes straight to where a dialog ends: nothing is sent, nothing
kept, and nobody called. -/
theorem leads_closing (h : d.Behind ⟨s.thread, s.resumePoint⟩ input lines) (hs : s.HasNext)
    (hsteps : d.options.maxSteps ≠ 0) (hinput : task.goesOnWith? = some input) {st : Stack}
    (hframes : st.frames ≠ []) (rounds : ℕ) :
    Leads (d.next? (Stack.answer rounds)) ⟨.starting task, s, st⟩
      ⟨.closing, s.resumed, st⟩ := by
  obtain ⟨budget, hbudget⟩ := Nat.exists_eq_succ_of_ne_zero hsteps
  have hchecking : d.next? (Stack.answer rounds)
      ⟨.checking budget lines ⟨s.thread, s.resumePoint⟩, s.resumed, st⟩ =
      some ⟨.closing, s.resumed, st⟩ := by
    rw [next?_checking hframes, List.getElem?_eq_none h.length_le]
  exact (h.leads_checking hs hbudget hinput (Stack.answer rounds) st).tail hchecking

theorem finishes (h : d.Behind ⟨s.thread, s.resumePoint⟩ input lines) (hs : s.HasNext)
    (hsteps : d.options.maxSteps ≠ 0) (hinput : task.goesOnWith? = some input) :
    Remainder.Finishes s.ended.result ((task.on d).run.run s) := by
  obtain ⟨budget, hbudget⟩ := Nat.exists_eq_succ_of_ne_zero hsteps
  have hresult : s.resumed.ended.result = s.ended.result := by
    rw [Session.result_ended, Session.result_ended]
    rfl
  -- what a task does is what is left of its run at the start
  show Remainder.Finishes _ ((d.rest (.starting task)).run.run s)
  rw [run_rest_of_leads (h.leads_checking hs hbudget hinput unanswered ()), ← hresult]
  exact finishes_checking (List.getElem?_eq_none h.length_le)

end Behind

end Dialog

namespace Stack

theorem outbox_finishing (st : Stack) (result : Option DialogResult) :
    (st.finishing result).1.outbox = st.outbox := by
  unfold finishing
  split
  · rfl
  · split
    · rfl
    · split <;> rfl

end Stack

namespace Moment

/-- **A run that is to go on with a session without a next line** is aborted at once. -/
theorem exists_isAborted {m : Moment} {f : Frame} {d : Dialog} {task : Task}
    {input : Option TurnInput} (htop : m.stack.top? = some f)
    (hd : m.stack.dialogs.find f.dialog = .ok d) (hphase : m.phase = .entering f.id task.on)
    (hinput : task.goesOnWith? = some input) (hs : ¬f.session.HasNext) :
    ∃ m', m.Leads m' ∧ m'.IsAborted := by
  obtain ⟨st, phase, K⟩ := m
  obtain rfl : phase = .entering f.id task.on := hphase
  have hrun : (task.on d).run.run f.session = .abort := by
    rw [Dialog.on_eq_resume hinput, Dialog.run_resume, if_neg hs]
  refine ⟨_, .single (next?_entering (Stack.frame?_of_top? htop) hd), f.id, f.session, ?_⟩
  rw [hrun]

/-- **A run that hands over its result next** takes its session off the stack, and records the
result as that of its dialog, before anything is sent. -/
theorem exists_takesOff {result : DialogResult} {rest : Remainder}
    (h : Remainder.Finishes result rest) {st : Stack} {f : Frame} (hf : st.top? = some f)
    (id : ℕ) (taken : Session) (K : List Suspended) :
    ∃ m, Moment.Leads ⟨st, .running id taken rest, K⟩ m ∧ st.TakesOff f result m.stack ∧
      m.stack.outbox = st.outbox := by
  induction h generalizing st with
  | finish next =>
    exact ⟨_, .single rfl, Stack.takesOff_finishing hf result, st.outbox_finishing _⟩
  | active _ ih =>
    obtain ⟨m, hlead, hoff⟩ := ih f.dialog hf
    have hactive : st.active? = some f.dialog := by rw [Stack.active?, hf, Option.map_some]
    rw [← hactive] at hlead
    exact ⟨m, .head rfl hlead, hoff⟩
  | @note event _ _ ih =>
    have htop : (st.note event).top? = some f := hf
    obtain ⟨m, hlead, ⟨hframes, hresults⟩, houtbox⟩ := ih htop
    exact ⟨m, .head rfl hlead, ⟨hframes, hresults⟩, houtbox⟩

end Moment

end Parley
