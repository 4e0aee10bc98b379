import Parley.Proofs.Quiescence

/-!
# Sessions are checked out once

A run works on a copy of its session, and the copy is written back when the run is over.  Were a
session run again meanwhile, one of the two would be lost.  `Moment.KeepsSessions` says of a moment
that this does not happen there, and `Stack.keepsSessions_of_occurs` that it happens at no moment of
any call, whatever the callbacks ask for.
-/

namespace Parley

namespace Stack

/-! ### What requests do to the sessions -/

variable {st : Stack} {f : Frame}

theorem mem_frames_beginning {dialog : String} {options : LaunchOptions}
    (hf : f ∈ (st.beginning dialog options).1.frames) : f ∈ st.frames ∨ f.id = st.nextFrame := by
  unfold beginning at hf
  cases hd : st.dialogs.find dialog with
  | error e =>
    rw [hd] at hf
    exact .inl hf
  | ok d =>
    rw [hd] at hf
    rcases List.mem_cons.1 hf with rfl | hf
    · exact .inr rfl
    · exact .inl hf

theorem mem_frames_replacing {dialog : String} {options : LaunchOptions}
    (hf : f ∈ (st.replacing dialog options).1.frames) : f ∈ st.frames ∨ f.id = st.nextFrame := by
  unfold replacing at hf
  cases hd : st.dialogs.find dialog with
  | error e =>
    rw [hd] at hf
    exact .inl hf
  | ok d =>
    rw [hd] at hf
    cases hframes : st.frames with
    | nil =>
      simp only [hframes] at hf
      exact hframes ▸ mem_frames_beginning hf
    | cons top rest =>
      simp only [hframes] at hf
      exact (mem_frames_beginning hf).imp_left (List.mem_cons_of_mem top)

theorem mem_frames_finishing {result : Option DialogResult}
    (hf : f ∈ (st.finishing result).1.frames) : f ∈ st.frames := by
  unfold finishing at hf
  cases hframes : st.frames with
  | nil =>
    simp only [hframes] at hf
    exact hframes ▸ hf
  | cons top rest =>
    simp only [hframes] at hf
    refine List.mem_cons_of_mem top ?_
    cases rest with
    | nil => exact hf
    | cons parent rest =>
      by_cases hp : parent.id ∈ st.executing
      · simp only [hp, if_true] at hf
        exact hf
      · simp only [hp, if_false] at hf
        exact hf

end Stack

namespace Moment

/-- No state of a session is lost at a moment. -/
structure KeepsSessions (m : Moment) : Prop where
  /-- A session that is about to run does not run already. -/
  not_reentered : ∀ id task, m.phase = .entering id task → id ∉ m.stack.executing
  /-- A run begins with the session as it is stored. -/
  checked_out : ∀ id task m', m.phase = .entering id task → m.next? = some m' →
    ∃ f rest, m.stack.frame? id = some f ∧ m'.phase = .running id f.session rest
  /-- While a session runs, it stays stored as it was checked out, if it stays at all. -/
  stored_as_taken : ∀ run ∈ m.runs, ∀ f ∈ m.stack.frames, f.id = run.1 → f.session = run.2
  /-- What is stored of a session changes only when its own run is over. -/
  changed_by_own_run : ∀ m', m.next? = some m' →
    ∀ f ∈ m.stack.frames, ∀ f' ∈ m'.stack.frames, f'.id = f.id →
      f'.session = f.session ∨
        ∃ taken outcome, m.phase = .running f.id taken (.done (outcome, f'.session))
  /-- When a run is over, its session is stored if it is still there. -/
  written_back : ∀ id taken outcome session m',
    m.phase = .running id taken (.done (outcome, session)) → m.next? = some m' →
      ∀ f ∈ m.stack.frames, f.id = id →
        ∃ f' ∈ m'.stack.frames, f'.id = id ∧ f'.dialog = f.dialog ∧ f'.session = session

theorem mem_frames_asked {m : Moment} {id : ℕ} {taken : Session} {r : Request}
    {next : r.Answer → Remainder} {f : Frame} (hf : f ∈ (m.asked id taken r next).stack.frames) :
    f ∈ m.stack.frames ∨ f.id = m.stack.nextFrame := by
  cases r with
  | send | active | note | seed => exact .inl hf
  | cancelAll => exact absurd hf List.not_mem_nil
  | begin dialog options => exact Stack.mem_frames_beginning hf
  | replace dialog options => exact Stack.mem_frames_replacing hf
  | finish result => exact .inl (Stack.mem_frames_finishing hf)

theorem frames_finished (m : Moment) (id : ℕ) (o : Except DialogError TurnStatus)
    (session : Session) :
    (m.finished id o session).stack.frames = (m.stack.store id session).frames := by
  cases o <;> rfl

/-- A moment that ends no run puts at most one session on the stack, and that is a fresh one. -/
theorem mem_frames_next {m m' : Moment} (hm : m.next? = some m')
    (hrun : ∀ id taken value, m.phase ≠ .running id taken (.done value)) {f : Frame}
    (hf : f ∈ m'.stack.frames) : f ∈ m.stack.frames ∨ f.id = m.stack.nextFrame := by
  cases step_of_next? hm with
  | finish id taken o session => exact absurd rfl (hrun id taken (o, session))
  | ask id taken r next => exact mem_frames_asked hf
  | missing | unregistered | enter | stop | resume | discard | answer => exact .inl hf

theorem Sound.keepsSessions {m : Moment} (h : m.Sound) : m.KeepsSessions where
  not_reentered id task hphase := by
    have := h.phase
    rw [PhaseSound, hphase] at this
    exact this.1
  checked_out id task m' hphase hm := by
    obtain ⟨st, phase, K⟩ := m
    subst hphase
    obtain ⟨-, f, htop, rfl⟩ : id ∉ st.executing ∧ ∃ f, st.top? = some f ∧ f.id = id := h.phase
    obtain ⟨d, hd⟩ := h.orderly.registered f (Stack.mem_frames_of_top? htop)
    rw [next?_entering (Stack.frame?_of_top? htop) hd] at hm
    obtain rfl := Option.some.inj hm
    exact ⟨f, _, Stack.frame?_of_top? htop, rfl⟩
  stored_as_taken := h.taken
  changed_by_own_run m' hm f hf f' hf' hid := by
    by_cases hrun : ∃ id taken value, m.phase = .running id taken (.done value)
    · obtain ⟨id, taken, ⟨o, session⟩, hphase⟩ := hrun
      obtain ⟨st, phase, K⟩ := m
      subst hphase
      obtain rfl := Option.some.inj hm
      rw [frames_finished] at hf'
      obtain ⟨g, hg, hgid, -, hsession⟩ := Stack.exists_of_mem_frames_store hf'
      obtain rfl : g = f := h.orderly.eq_of_id_eq hg hf (hgid.trans hid)
      by_cases hown : f'.id = id
      · rw [if_pos hown] at hsession
        exact .inr ⟨taken, o, by rw [hsession, hgid, hown]⟩
      · rw [if_neg hown] at hsession
        exact .inl hsession
    · left
      have hrun : ∀ id taken value, m.phase ≠ .running id taken (.done value) :=
        fun id taken value hphase => hrun ⟨id, taken, value, hphase⟩
      rcases mem_frames_next hm hrun hf' with hold | hnew
      · rw [h.orderly.eq_of_id_eq hold hf hid]
      · exact absurd (h.orderly.fresh f hf) (by rw [← hid, hnew]; exact Nat.lt_irrefl _)
  written_back id taken o session m' hphase hm f hf hid := by
    obtain ⟨st, phase, K⟩ := m
    subst hphase
    obtain rfl := Option.some.inj hm
    refine ⟨{ f with session := session }, ?_, hid, rfl, rfl⟩
    rw [frames_finished]
    exact List.mem_map.2 ⟨f, hf, by rw [if_pos hid]⟩

end Moment

namespace Stack

/-- **No state of a session is lost**, at any moment of any call, whatever the callbacks ask for: no
session is entered that runs already, and while a session runs nobody else writes to where its state
will be written back.  The moments of a call are those that its result comes from. -/
theorem keepsSessions_of_occurs {st : Stack} (h : st.Reachable) (c : Call) :
    (∀ m, Occurs c st m → m.KeepsSessions) ∧
      ∀ m, c.opening? st = some m → ∀ outcome st',
        (Returns c st outcome st' ↔
          ∃ o, Stepping.Ends Moment.next? m (Moment.arrived [] (o, st')) ∧
            c.told o st' = outcome) :=
  ⟨fun _ hm => (h.quiescent.sound hm).keepsSessions, fun _ hm _ _ => returns_iff_ends hm⟩

/-- In the turn of the hasty dialog, the moment at which its child has ended: the run of the child
goes on, the run of the hasty dialog waits, and a result is pending for it. -/
def whileBothRun : Moment :=
  let m := Call.atOpening (hastyStack.beginning "hasty" {})
  (Stepping.after Moment.next? 11 m).getD m

theorem whileBothRun_occurs : Occurs (.start "hasty" {}) hastyStack whileBothRun :=
  ⟨_, rfl, 11, rfl⟩

theorem keepsSessions_whileBothRun :
    hastyStack.Reachable ∧ Occurs (.start "hasty" {}) hastyStack whileBothRun ∧
      whileBothRun.runs.map Prod.fst = [2, 1] ∧ whileBothRun.stack.pending.map Prod.fst = [1] ∧
        whileBothRun.KeepsSessions :=
  ⟨.empty _ _, whileBothRun_occurs, rfl, rfl,
    (keepsSessions_of_occurs (.empty _ _) _).1 _ whileBothRun_occurs⟩

end Stack

end Parley
