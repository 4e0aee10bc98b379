import Parley.Proofs.Quiescence
import Parley.Proofs.Renaming

/-!
# Persisting

A snapshot holds the dialogs and the states of the sessions and nothing else.  That is enough: two
stacks between calls with the same dialogs, the same snapshot and the same seeds to come
(`Stack.Agree`) differ in the numbers of their sessions only, so every call returns from one as it
does from the other, and they agree again (`Stack.Agree.returns`).  A stack can always be restored
from its own snapshot, and what is restored agrees with it (`Stack.exists_restored_agree`).

`Stack.persisting_is_invisible` puts this together for any sequence of calls.
-/

namespace Parley

open List (Forall₂)

namespace Stack

/-- What a stack brings along from one call to the next. -/
structure Agree (st st' : Stack) : Prop where
  quiescent : st.Quiescent
  quiescent' : st'.Quiescent
  dialogs : st.dialogs = st'.dialogs
  snapshot : st.snapshot = st'.snapshot
  clock : ∀ k, st.clock (st.ticks + k) = st'.clock (st'.ticks + k)

/-! ### The numbers of the sessions -/

/-- Sessions at the same height are paired, and so are those to come. -/
inductive Paired (st st' : Stack) : ℕ → ℕ → Prop where
  | here {i : ℕ} {f g : Frame} (hf : st.frames[i]? = some f) (hg : st'.frames[i]? = some g) :
      Paired st st' f.id g.id
  | later (k : ℕ) : Paired st st' (st.nextFrame + k) (st'.nextFrame + k)

theorem Orderly.index_eq_of_id_eq {st : Stack} (h : st.Orderly) {i j : ℕ} {f g : Frame}
    (hf : st.frames[i]? = some f) (hg : st.frames[j]? = some g) (hid : f.id = g.id) : i = j := by
  have hids : (st.frames.map Frame.id).Nodup :=
    List.pairwise_map.2 (h.ascending.imp fun hlt => Nat.ne_of_gt hlt)
  refine (List.getElem?_inj ?_ hids).1 ?_
  · rw [List.length_map]
    exact (List.getElem?_eq_some_iff.1 hf).1
  · rw [List.getElem?_map, List.getElem?_map, hf, hg, Option.map_some, Option.map_some, hid]

theorem Orderly.id_lt {st : Stack} (h : st.Orderly) {i k : ℕ} {f : Frame}
    (hf : st.frames[i]? = some f) : f.id < st.nextFrame + k :=
  Nat.lt_add_right k (h.fresh f (List.mem_of_getElem? hf))

theorem Paired.symm {st st' : Stack} {a b : ℕ} (h : Paired st st' a b) : Paired st' st b a := by
  cases h with
  | here hf hg => exact .here hg hf
  | later k => exact .later k

theorem Paired.right_unique {st st' : Stack} (h : st.Orderly) {a b c : ℕ}
    (hb : Paired st st' a b) (hc : Paired st st' a c) : b = c := by
  cases hb with
  | @here i f g hf hg =>
    generalize ha : f.id = a at hc
    cases hc with
    | @here j f' g' hf' hg' =>
      obtain rfl := h.index_eq_of_id_eq hf hf' ha
      rw [hg] at hg'
      rw [Option.some.inj hg']
    | later k =>
      -- numbers in use are below those to come
      exact absurd ha (Nat.ne_of_lt (h.id_lt hf))
  | later k =>
    generalize ha : st.nextFrame + k = a at hc
    cases hc with
    | @here j f' g' hf' hg' => exact absurd ha (Nat.ne_of_gt (h.id_lt hf'))
    | later k' => rw [Nat.add_left_cancel ha]

theorem biUnique_paired {st st' : Stack} (h : st.Orderly) (h' : st'.Orderly) :
    Relator.BiUnique (Paired st st') :=
  ⟨fun _ _ _ ha hb => ha.symm.right_unique h' hb.symm, fun _ _ _ => Paired.right_unique h⟩

theorem stored_eq_of_snapshot_eq {st st' : Stack} (h : st.snapshot = st'.snapshot) :
    st.frames.map (fun f => (⟨f.dialog, f.session⟩ : StoredFrame)) =
      st'.frames.map fun g => ⟨g.dialog, g.session⟩ := by
  have := congrArg (fun s => s.frames.reverse) h
  simpa only [Stack.snapshot, List.map_reverse, List.reverse_reverse] using this

namespace Agree

variable {st st' : Stack}

theorem symm (h : Agree st st') : Agree st' st :=
  ⟨h.quiescent', h.quiescent, h.dialogs.symm, h.snapshot.symm, fun k => (h.clock k).symm⟩

theorem frames (h : Agree st st') :
    Forall₂ (Frame.Alike (Paired st st')) st.frames st'.frames := by
  have hstored := stored_eq_of_snapshot_eq h.snapshot
  refine List.forall₂_iff_get.2 ⟨by simpa using congrArg List.length hstored, fun i hi hi' => ?_⟩
  have hi? : st.frames[i]? = some (st.frames.get ⟨i, hi⟩) := List.getElem?_eq_getElem hi
  have hi?' : st'.frames[i]? = some (st'.frames.get ⟨i, hi'⟩) := List.getElem?_eq_getElem hi'
  have hget := congrArg (fun l => l[i]?) hstored
  simp only [List.getElem?_map, hi?, hi?', Option.map_some, Option.some.injEq,
    StoredFrame.mk.injEq] at hget
  exact ⟨.here hi? hi?', hget.1, hget.2⟩

theorem alike (h : Agree st st') : Alike (Paired st st') st st' st st' where
  dialogs := h.dialogs
  frames := h.frames
  next := .later
  executing := by rw [h.quiescent.executing, h.quiescent'.executing]; exact .nil
  pending := by rw [h.quiescent.pending, h.quiescent'.pending]; exact .nil
  sent := ⟨#[], by simp, by simp⟩
  recorded := ⟨#[], by simp, by simp⟩
  clock := h.clock

end Agree

/-! ### Calls -/

/-- Two stacks have sent the same messages and recorded the same results in the course of a
call. -/
structure SameGain (st st' st₁ st₁' : Stack) : Prop where
  sent : ∃ messages, st₁.outbox = st.outbox ++ messages ∧ st₁'.outbox = st'.outbox ++ messages
  recorded : ∃ results, st₁.results = st.results ++ results ∧ st₁'.results = st'.results ++ results

/-- **What returns from a stack returns from one that agrees with it**, with the same outcome and
the same gain, and the stacks left behind agree again. -/
theorem Agree.returns {st st' st₁ : Stack} (h : Agree st st') {c : Call}
    {outcome : Except DialogError (Option TurnStatus)} (hc : Returns c st outcome st₁) :
    ∃ st₁', Returns c st' outcome st₁' ∧ SameGain st st' st₁ st₁' ∧ Agree st₁ st₁' := by
  have hE := biUnique_paired h.quiescent.toOrderly h.quiescent'.toOrderly
  obtain ⟨st₁', hc', halike⟩ := h.alike.returns hE hc
  exact ⟨st₁', hc', ⟨halike.sent, halike.recorded⟩,
    ⟨h.quiescent.returns hc, h.quiescent'.returns hc', halike.dialogs, halike.snapshot,
      halike.clock⟩⟩

/-- Nothing in a sequence of calls tells two stacks apart: their snapshots are equal, and each call
returns from one as it does from the other, outcome, messages and results included, and nothing in
the calls that are left tells apart what it leaves behind. -/
def Indistinguishable : List Call → Stack → Stack → Prop
  | [], st, st' => st.snapshot = st'.snapshot
  | c :: calls, st, st' =>
    st.snapshot = st'.snapshot ∧
      (∀ outcome st₁, Returns c st outcome st₁ →
        ∃ st₁', Returns c st' outcome st₁' ∧ SameGain st st' st₁ st₁' ∧
          Indistinguishable calls st₁ st₁') ∧
      ∀ outcome st₁', Returns c st' outcome st₁' →
        ∃ st₁, Returns c st outcome st₁ ∧ SameGain st st' st₁ st₁' ∧
          Indistinguishable calls st₁ st₁'

theorem Agree.indistinguishable {st st' : Stack} (h : Agree st st') (calls : List Call) :
    Indistinguishable calls st st' := by
  -- the stacks differ from call to call, but they agree after each
  induction calls generalizing st st' with
  | nil => exact h.snapshot
  | cons c calls ih =>
    refine ⟨h.snapshot, fun outcome st₁ hc => ?_, fun outcome st₁' hc => ?_⟩
    · obtain ⟨st₁', hc', hgain, hagree⟩ := h.returns hc
      exact ⟨st₁', hc', hgain, ih hagree⟩
    · obtain ⟨st₁, hc', hgain, hagree⟩ := h.symm.returns hc
      obtain ⟨messages, hm', hm⟩ := hgain.sent
      obtain ⟨results, hr', hr⟩ := hgain.recorded
      exact ⟨st₁, hc', ⟨⟨messages, hm, hm'⟩, ⟨results, hr, hr'⟩⟩, ih hagree.symm⟩

/-! ### Restoring -/

/-- Putting stored sessions on a stack changes nothing but its sessions. -/
theorem of_restoreFrames {st st' : Stack} {frames : List StoredFrame}
    (hr : st.restoreFrames frames = .ok st') :
    st'.snapshot.frames = st.snapshot.frames ++ frames ∧
      ∃ fs n, st' = { st with frames := fs, nextFrame := n } := by
  induction frames generalizing st with
  | nil =>
    obtain rfl := Except.ok.inj hr
    exact ⟨(List.append_nil _).symm, st.frames, st.nextFrame, rfl⟩
  | cons f rest ih =>
    rw [Stack.restoreFrames] at hr
    split at hr
    · obtain ⟨hsnapshot, fs, n, rfl⟩ := ih hr
      refine ⟨hsnapshot.trans ?_, fs, n, rfl⟩
      rw [snapshot, snapshot, List.reverse_cons, List.map_append, List.append_assoc]
      rfl
    · cases hr

theorem of_ofSnapshot {dialogs : DialogSet} {clock : ℕ → UInt32} {s : Snapshot} {st : Stack}
    (h : ofSnapshot dialogs clock s = .ok st) :
    st.snapshot = s ∧
      ∃ fs n, st = { Stack.empty dialogs clock with frames := fs, nextFrame := n } := by
  obtain ⟨hsnapshot, hst⟩ := of_restoreFrames h
  exact ⟨congrArg Snapshot.mk hsnapshot, hst⟩

theorem exists_restoreFrames (frames : List StoredFrame) (st : Stack)
    (h : ∀ f ∈ frames, Keyed.contains st.dialogs f.dialog = true) :
    ∃ st', st.restoreFrames frames = .ok st' := by
  induction frames generalizing st with
  | nil => exact ⟨st, rfl⟩
  | cons f rest ih =>
    rw [Stack.restoreFrames, if_pos (h f List.mem_cons_self)]
    exact ih _ fun g hg => h g (List.mem_cons_of_mem f hg)

theorem contains_of_find_eq_ok {dialogs : DialogSet} {id : String} {d : Dialog}
    (h : dialogs.find id = .ok d) : Keyed.contains dialogs id = true := by
  unfold DialogSet.find at h
  unfold Keyed.contains
  cases hget : Keyed.get? dialogs id with
  | none => rw [hget] at h; cases h
  | some d => rfl

/-- **A stack can be restored from its own snapshot**, and what is restored agrees with it. -/
theorem exists_restored_agree {st : Stack} (h : st.Quiescent) :
    ∃ st', ofSnapshot st.dialogs (fun n => st.clock (st.ticks + n)) st.snapshot = .ok st' ∧
      Agree st st' := by
  have hcontains : ∀ f ∈ st.snapshot.frames, Keyed.contains st.dialogs f.dialog = true := by
    intro f hf
    obtain ⟨g, hg, rfl⟩ := List.mem_map.1 hf
    obtain ⟨d, hd⟩ := h.registered g (List.mem_reverse.1 hg)
    exact contains_of_find_eq_ok hd
  obtain ⟨st', hr⟩ := exists_restoreFrames st.snapshot.frames
    (Stack.empty st.dialogs fun n => st.clock (st.ticks + n)) hcontains
  obtain ⟨hsnapshot, fs, n, rfl⟩ := of_ofSnapshot hr
  refine ⟨_, hr, h, (quiescent_empty _ _).restoreFrames hr, rfl, hsnapshot.symm, fun k => ?_⟩
  exact congrArg (fun n => st.clock (st.ticks + n)) (Nat.zero_add k).symm

/-- **Persisting is invisible.**  A stack between calls can be restored from its snapshot, and no
sequence of calls tells the stack that is restored from the one that went on. -/
theorem persisting_is_invisible {st : Stack} (h : st.Reachable) :
    ∃ st', ofSnapshot st.dialogs (fun n => st.clock (st.ticks + n)) st.snapshot = .ok st' ∧
      ∀ calls, Indistinguishable calls st st' := by
  obtain ⟨st', hr, hagree⟩ := exists_restored_agree h.quiescent
  exact ⟨st', hr, hagree.indistinguishable⟩

/-- The stack of the hasty dialog is restored with another number for the next session and without
the result of the child. -/
theorem persisting_is_invisible_afterFailure :
    ∃ st', afterFailure.Reachable ∧
      ofSnapshot afterFailure.dialogs (fun n => afterFailure.clock (afterFailure.ticks + n))
        afterFailure.snapshot = .ok st' ∧
      (afterFailure.nextFrame, afterFailure.results.size) = (3, 1) ∧
      (st'.nextFrame, st'.results.size) = (2, 0) ∧
      ∀ calls, Indistinguishable calls afterFailure st' := by
  obtain ⟨st', hr, hcalls⟩ := persisting_is_invisible afterFailure_reachable
  have hfresh : (ofSnapshot afterFailure.dialogs
      (fun n => afterFailure.clock (afterFailure.ticks + n)) afterFailure.snapshot).map
        (fun st => (st.nextFrame, st.results.size)) = .ok (2, 0) := rfl
  rw [hr] at hfresh
  exact ⟨st', afterFailure_reachable, hr, rfl, Except.ok.inj hfresh, hcalls⟩

end Stack

end Parley
