import Parley.Proofs.Moment.Faithful
import Parley.Proofs.Moment.Sound
import Parley.Routine

/-!
# Between calls

A stack is *reachable* when it comes from an empty stack or from a snapshot by calls that have
returned, with or without an error, and by taking messages out.  Whatever the callbacks of its
dialogs do, between calls such a stack is quiescent: no session is left running, nothing is pending,
the numbers of the sessions ascend and are used up, and every session has its dialog.

* `Stack.Reachable.quiescent` : the invariant.
* `Stack.calls_leave_quiescent` : it holds before and after every call, and within a call no session
  is entered that is missing or has no dialog.
-/

namespace Parley

namespace Stack

/-- Stacks between calls. -/
inductive Reachable : Stack → Prop where
  | empty (dialogs : DialogSet) (clock : ℕ → UInt32) : Reachable (Stack.empty dialogs clock)
  | restored {dialogs : DialogSet} {clock : ℕ → UInt32} {s : Snapshot} {st : Stack}
      (h : ofSnapshot dialogs clock s = .ok st) : Reachable st
  | call {c : Call} {st st' : Stack} {outcome : Except DialogError (Option TurnStatus)}
      (h : Reachable st) (hc : Returns c st outcome st') : Reachable st'
  | drain {st : Stack} (h : Reachable st) : Reachable st.drain.2

theorem quiescent_empty (dialogs : DialogSet) (clock : ℕ → UInt32) :
    (Stack.empty dialogs clock).Quiescent where
  ascending := .nil
  fresh := fun _ hf => absurd hf List.not_mem_nil
  registered := fun _ hf => absurd hf List.not_mem_nil
  executing := rfl
  pending := rfl

theorem exists_find_eq_ok {dialogs : DialogSet} {id : String}
    (h : Keyed.contains dialogs id = true) : ∃ d, dialogs.find id = .ok d := by
  obtain ⟨d, hd⟩ := Option.isSome_iff_exists.1 h
  exact ⟨d, by rw [DialogSet.find, hd]⟩

theorem Quiescent.restoreFrames {frames : List StoredFrame} {st st' : Stack} (h : st.Quiescent)
    (hr : st.restoreFrames frames = .ok st') : st'.Quiescent := by
  induction frames generalizing st with
  | nil =>
    obtain rfl := Except.ok.inj hr
    exact h
  | cons f rest ih =>
    rw [Stack.restoreFrames] at hr
    by_cases hc : Keyed.contains st.dialogs f.dialog = true
    · rw [if_pos hc] at hr
      obtain ⟨d, hd⟩ := exists_find_eq_ok hc
      exact ih ⟨h.toOrderly.cons hd f.session, h.executing, h.pending⟩ hr
    · rw [if_neg hc] at hr
      cases hr

/-- A call that returns leaves a quiescent stack behind. -/
theorem Quiescent.returns {st st' : Stack} (h : st.Quiescent) {c : Call}
    {outcome : Except DialogError (Option TurnStatus)} (hc : Returns c st outcome st') :
    st'.Quiescent := by
  cases hopen : c.opening? st with
  | some m =>
    obtain ⟨o, ⟨hlead, -⟩, -⟩ := (returns_iff_ends hopen).1 hc
    exact Moment.sound_nil_iff.1 (h.sound ⟨m, hopen, hlead⟩)
  | none =>
    rcases (returns_of_opening?_eq_none hopen).1 hc with
      ⟨-, -, -, rfl⟩ | ⟨-, -, rfl⟩ | ⟨-, -, -, rfl⟩
    · exact h
    · exact ⟨h.toOrderly.cancelAll, h.executing, rfl⟩
    · exact ⟨h.toOrderly.congr rfl rfl rfl, h.executing, h.pending⟩

theorem Reachable.quiescent {st : Stack} (h : st.Reachable) : st.Quiescent := by
  induction h with
  | empty dialogs clock => exact quiescent_empty dialogs clock
  | @restored dialogs clock s st h => exact (quiescent_empty dialogs clock).restoreFrames h
  | call _ hc ih => exact ih.returns hc
  | drain _ ih => exact ⟨ih.toOrderly.congr rfl rfl rfl, ih.executing, ih.pending⟩

/-- **Calls leave a quiescent stack behind**, whatever the callbacks of the dialogs do and however
the calls end: no session runs, nothing is pending, sessions are numbered upwards and have their
dialogs.  Within a call, every session that is entered is there with its dialog. -/
theorem calls_leave_quiescent {st : Stack} (h : st.Reachable) :
    st.Quiescent ∧ ∀ c,
      (∀ outcome st', Returns c st outcome st' → st'.Quiescent) ∧
        ∀ m, Occurs c st m → ∀ id task, m.phase = .entering id task →
          ∃ f d, m.stack.frame? id = some f ∧ m.stack.dialogs.find f.dialog = .ok d := by
  have hq := h.quiescent
  refine ⟨hq, fun c => ⟨fun outcome st' hc => hq.returns hc, fun m hm id task hphase => ?_⟩⟩
  have hsound := hq.sound hm
  obtain ⟨-, f, htop, rfl⟩ : id ∉ m.stack.executing ∧ ∃ f, m.stack.top? = some f ∧ f.id = id := by
    have := hsound.phase
    rwa [Moment.PhaseSound, hphase] at this
  obtain ⟨d, hd⟩ := hsound.orderly.registered f (mem_frames_of_top? htop)
  exact ⟨f, d, frame?_of_top? htop, hd⟩

/-! ### A failure with a result outstanding -/

/-- A dialog without lines, which ends as soon as it begins. -/
def silent (id : String) : Dialog :=
  { id := id, script := ⟨[(defaultThread, [])]⟩, options := { seed := some 7 } }

/-- A dialog that begins another one before its first line, and fails when that has ended. -/
def hasty (id child : String) : Dialog :=
  { silent id with
    hooks.before := [(defaultThread, Routine.before
      [.begin child {}, .fail "TEST_HOOK" "hook failed"])] }

/-- An empty stack of the two. -/
def hastyStack : Stack :=
  Stack.empty [("hasty", hasty "hasty" "silent"), ("silent", silent "silent")] fun _ => 0

/-- The stack on which the hasty dialog has failed, with the result of its child outstanding. -/
def afterFailure : Stack :=
  ((hastyStack.call 2 (.start "hasty" {})).map Prod.snd).getD hastyStack

theorem returns_hasty :
    Returns (.start "hasty" {}) hastyStack (.error (.raised "TEST_HOOK" "hook failed" none))
      afterFailure := ⟨2, rfl⟩

theorem afterFailure_reachable : afterFailure.Reachable := .call (.empty _ _) returns_hasty

theorem calls_leave_quiescent_afterFailure :
    afterFailure.Reachable ∧ afterFailure.depth = 1 ∧ afterFailure.results.size = 1 ∧
      afterFailure.Quiescent :=
  ⟨afterFailure_reachable, rfl, rfl, (calls_leave_quiescent afterFailure_reachable).1⟩

end Stack

end Parley
