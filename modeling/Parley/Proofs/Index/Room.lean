import Parley.Proofs.Index.Words

/-!
# How soon line numbers run out

A session can go on unless it stands on the last line that could have a number
(`Session.AtLastNumber`).  A run adds at most one line to where its session stands, unless it finds
a line there; and where the thread of the session is there, a run that comes too far behind its last
line ends the dialog.  So a session has room for a number of runs if it is that far from the last
number, or if it stands in a thread that is there (`Dialog.HasRoom`), and every run takes up at most
one place of it (`DialogSet.Navigable.lasting_hasRoom`).
-/

namespace Parley

open Stepping

namespace Session

/-- The session stands on the last line that could have a number. -/
def AtLastNumber (s : Session) : Prop := s.stepIndex + 1 = indexBound

theorem Words.hasNext_iff {s : Session} (h : s.Words) : s.HasNext ↔ ¬s.AtLastNumber :=
  ⟨Nat.ne_of_lt, Nat.lt_of_le_of_ne h.stepIndex⟩

end Session

namespace Dialog

/-- What keeps a session from the last number for so many runs. -/
inductive HasRoom (d : Dialog) (n : ℕ) (s : Session) : Prop where
  /-- Its thread is there. -/
  | grounded (hsteps : d.options.maxSteps ≠ 0) (hthread : d.hasThread s.thread = true)
      (hstep : s.HasNext)
  /-- It is as many lines away. -/
  | apart (hstep : s.stepIndex + n < Session.indexBound)
      (hresume : ∀ r ∈ s.resumeIndex, r + n ≤ Session.indexBound)

variable {d : Dialog} {s₀ s : Session} {n : ℕ}

namespace HasRoom

theorem mono (h : d.HasRoom n s) {m : ℕ} (hle : m ≤ n) : d.HasRoom m s := by
  cases h with
  | grounded hsteps hthread hstep => exact .grounded hsteps hthread hstep
  | apart hstep hresume =>
    exact .apart (Nat.lt_of_le_of_lt (Nat.add_le_add_left hle _) hstep) fun r hr =>
      Nat.le_trans (Nat.add_le_add_left hle r) (hresume r hr)

theorem hasNext (h : d.HasRoom (n + 1) s) : s.HasNext := by
  cases h with
  | grounded _ _ hstep => exact hstep
  | apart hstep => exact Nat.lt_of_le_of_lt (Nat.add_le_add_left (Nat.succ_pos n) _) hstep

/-- A session that stands on a thread that is missing goes on at most one line further. -/
theorem resumePoint_add_lt (h : d.HasRoom (n + 1) s) (hthread : d.hasThread s.thread = false) :
    s.resumePoint + n < Session.indexBound := by
  cases h with
  | grounded _ hthere _ => cases hthere.symm.trans hthread
  | apart hstep hresume =>
    unfold Session.resumePoint
    cases hwaits : s.resumeIndex with
    | some r => exact hresume r hwaits
    | none =>
      rw [Option.getD_none]
      omega

end HasRoom

/-- **A run takes up one place** of the room that its session has, unless it has gone on at the very
last numbers of a thread that is there. -/
theorem Leaves.hasRoom (h : d.Leaves s₀ s) (hd : d.Navigable) (hroom : d.HasRoom (n + 1) s₀)
    (hn : n < Session.indexBound)
    (hresume : d.options.maxSteps ≠ 0 → d.hasThread s₀.thread = true →
      s₀.resumePoint + 1 < Session.indexBound) : d.HasRoom n s := by
  cases h with
  | unmoved hplace hwaits =>
    obtain ⟨hthread, hstep⟩ := Location.mk.inj hplace
    have hroom := hroom.mono (Nat.le_succ n)
    cases hroom with
    | grounded hsteps hthere hnext =>
      refine .grounded hsteps (hthread ▸ hthere) ?_
      rw [Session.HasNext, hstep]
      exact hnext
    | apart hapart hwaiting =>
      exact .apart (hstep ▸ hapart) fun r hr => hwaiting r (hwaits ▸ hr)
  | guarded hsteps hplace hwaits =>
    have hstep : s.stepIndex = s₀.stepIndex := congrArg Location.index hplace
    cases hroom with
    | grounded hbudget => exact absurd hsteps hbudget
    | apart hapart =>
      refine .apart (hstep ▸ Nat.lt_of_succ_lt hapart) fun r hr => ?_
      rw [hwaits] at hr
      cases hr
  | moved hsteps hplace hwaits =>
    have hgrounded (hthere : d.hasThread s.thread = true)
        (hlt : s.stepIndex + 1 < Session.indexBound) : d.HasRoom n s :=
      .grounded hsteps hthere hlt
    -- it waits in a thread that is there, if anywhere
    have hapart (hmissing : d.hasThread s.thread = false)
        (hlt : s.stepIndex + n < Session.indexBound) : d.HasRoom n s :=
      .apart hlt fun r hr => by cases (hwaits r hr).1.symm.trans hmissing
    rcases hplace with hfirst | ⟨lines, hlines, hindex⟩ | ⟨-, hsame, hindex⟩
    · have hzero : s.stepIndex = 0 := hfirst
      cases hthere : d.hasThread s.thread with
      | true => exact hgrounded hthere (by rw [hzero]; decide)
      | false => exact hapart hthere (by rwa [hzero, Nat.zero_add])
    · exact hgrounded (d.hasThread_iff_exists.2 ⟨lines, hlines⟩)
        (Nat.lt_of_le_of_lt (Nat.succ_le_succ hindex) (hd.numbered _ lines hlines))
    · have hle : s.stepIndex ≤ s₀.resumePoint := hindex
      have hthread : s.thread = s₀.thread := hsame
      cases hthere : d.hasThread s₀.thread with
      | true =>
        exact hgrounded (hthread ▸ hthere)
          (Nat.lt_of_le_of_lt (Nat.succ_le_succ hle) (hresume hsteps hthere))
      | false =>
        exact hapart (hthread ▸ hthere)
          (Nat.lt_of_le_of_lt (Nat.add_le_add_right hle n) (hroom.resumePoint_add_lt hthere))

theorem run_continueWith_of_ignored {activity : Activity} (h : activity.isMessage = false) :
    (((Task.continueWith activity).on d).run.run s) = .done (.ok .waiting, s) := by
  have hstride : d.stride (.starting (.continueWith activity)) =
      pure (.returned (.ok .waiting)) := by
    rw [stride, h]
    rfl
  have hnext : d.next? unanswered ⟨.starting (.continueWith activity), s, ()⟩ =
      some ⟨.returned (.ok .waiting), s, ()⟩ :=
    next?_of_stride_eq_pure (fun _ h => by cases h) hstride
  exact run_rest_of_leads (.single hnext)

/-- **A run takes up one place** of the room of its session, or it ends its dialog before anything
else. -/
theorem HasRoom.run (hroom : d.HasRoom (n + 1) s) (hd : d.Navigable) (hn : n < Session.indexBound)
    {task : Task} (hfresh : task = .begin → ∃ options, s = .launch options) :
    (((task.on d).run.run s).Always fun y => d.HasRoom n y.2) ∨
      ∃ result, Remainder.Finishes result ((task.on d).run.run s) := by
  have hleaves (hresume : d.options.maxSteps ≠ 0 → d.hasThread s.thread = true →
      s.resumePoint + 1 < Session.indexBound) :
      ((task.on d).run.run s).Always fun y => d.HasRoom n y.2 :=
    (always_leaves hd.steers hfresh).mono fun y hy => hy.hasRoom hd hroom hn hresume
  cases hinput : task.goesOnWith? with
  | none =>
    cases task with
    | begin =>
      obtain ⟨options, rfl⟩ := hfresh rfl
      have hnext : (Session.launch options).resumePoint = 1 := rfl
      exact .inl (hleaves fun _ _ => by rw [hnext]; decide)
    | resume input => cases hinput
    | continueWith activity =>
      rw [Task.goesOnWith?] at hinput
      split at hinput
      · cases hinput
      case isFalse hmessage =>
        rw [run_continueWith_of_ignored (Bool.eq_false_iff.2 hmessage)]
        exact .inl (hroom.mono (Nat.le_succ n))
  | some input =>
    by_cases hlast : s.resumePoint + 1 < Session.indexBound
    case pos => exact .inl (hleaves fun _ _ => hlast)
    by_cases hsteps : d.options.maxSteps = 0
    case pos => exact .inl (hleaves fun h => absurd hsteps h)
    cases hthread : d.hasThread s.thread with
    | false => exact .inl (hleaves fun _ h => by cases hthread.symm.trans h)
    | true =>
      -- no thread has that many lines, so the run begins far behind the last one
      obtain ⟨lines, hlines⟩ := d.hasThread_iff_exists.1 hthread
      have hlt : lines.length < s.resumePoint :=
        Nat.lt_of_succ_lt_succ
          (Nat.lt_of_lt_of_le (hd.numbered _ lines hlines) (Nat.le_of_not_lt hlast))
      have hbehind : d.Behind ⟨s.thread, s.resumePoint⟩ input lines :=
        behind_of_length_lt hlines hlt input
      exact .inr ⟨_, hbehind.finishes hroom.hasNext hsteps hinput⟩

end Dialog

/-- **Run after run** the sessions keep their room but for one place for every run. -/
theorem DialogSet.Navigable.lasting_hasRoom {dialogs : DialogSet} (h : dialogs.Navigable) {N : ℕ}
    (hN : N < Session.indexBound) :
    dialogs.Lasting fun n d s => n ≤ N → d.HasRoom (N - n) s where
  mono n d s hs hn := (hs (Nat.le_of_succ_le hn)).mono (Nat.sub_le_sub_left (Nat.le_succ n) N)
  launch n id d _ options _ := by
    refine .apart ?_ nofun
    rw [Session.launch, Nat.zero_add]
    exact Nat.lt_of_le_of_lt (Nat.sub_le N n) hN
  run n id d hd task s hs hfresh := by
    by_cases hn : n < N
    case neg => exact .inl (HostM.always_of_forall (fun y hy => absurd hy hn) _)
    have hroom : d.HasRoom (N - (n + 1) + 1) s := by
      rw [Nat.sub_add_eq, Nat.sub_add_cancel (Nat.sub_pos_of_lt hn)]
      exact hs (Nat.le_of_lt hn)
    have hlt : N - (n + 1) < Session.indexBound := Nat.lt_of_le_of_lt (Nat.sub_le _ _) hN
    exact (hroom.run (h id d hd) hlt hfresh).imp_left fun hall => hall.mono fun y hy _ => hy

end Parley
